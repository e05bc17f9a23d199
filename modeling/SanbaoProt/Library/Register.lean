import Mathlib.Data.List.Basic

/-!
# Durable registers

A register holds a value and has a copy of it that outlives a restart.  A write
replaces the value, or keeps it if it brings none, and settles what it then
holds; the copy is replaced too, left as it was, or spoiled.  A restart loads
the copy.  When each write is saved, restarts cannot be seen, and the register
holds the last value that was written (`run_lastWritten`).
-/

namespace SanbaoProt.Library

inductive Copy (α : Type*) where
  | missing
  | unreadable
  | readable (v : α)
  deriving DecidableEq, Repr

/-- What happens to the copy at a write. -/
inductive Saving where
  | kept
  | stored
  | spoiled
  deriving DecidableEq, Repr

structure Register (α : Type*) where
  settle : α → α
  /-- Held when there is nothing to load. -/
  blank : α
  /-- Held, and saved, when a missing copy is created. -/
  fresh : α

namespace Register

variable {α : Type*}

structure State (α : Type*) where
  value : α
  copy : Copy α

inductive Op (α : Type*) where
  | write (v : Option α) (saving : Saving)
  /-- A missing copy cannot be created, or is created and saved or not. -/
  | restart (created : Option Bool)

def save (v : α) (copy : Copy α) : Saving → Copy α
  | .kept => copy
  | .stored => .readable v
  | .spoiled => .unreadable

variable (R : Register α)

def step (s : State α) : Op α → State α
  | .write v saving =>
      let value := R.settle (v.getD s.value)
      ⟨value, save value s.copy saving⟩
  | .restart created =>
      match s.copy, created with
      | .readable v, _ => ⟨v, .readable v⟩
      | .unreadable, _ => ⟨R.blank, .unreadable⟩
      | .missing, none => ⟨R.blank, .missing⟩
      | .missing, some saved =>
          ⟨R.fresh, if saved then .readable R.fresh else .unreadable⟩

def run (s : State α) (ops : List (Op α)) : State α := ops.foldl R.step s

@[simp] theorem run_nil (s : State α) : R.run s [] = s := rfl

@[simp] theorem run_cons (s : State α) (op : Op α) (ops : List (Op α)) :
    R.run s (op :: ops) = R.run (R.step s op) ops := rfl

def Op.written? : Op α → Option α
  | write v _ => v
  | restart _ => none

def Op.Saves : Op α → Prop
  | write _ saving => saving = .stored
  | restart _ => True

/-- The copy is what the register holds, and that is settled. -/
structure State.Saved (s : State α) : Prop where
  copy : s.copy = .readable s.value
  settled : R.settle s.value = s.value

variable {R} (hsettle : ∀ v, R.settle (R.settle v) = R.settle v)
  {s : State α}

include hsettle in
theorem State.Saved.step (h : s.Saved R) {op : Op α} (hop : op.Saves) :
    (R.step s op).Saved R ∧
      (R.step s op).value = (op.written?.map R.settle).getD s.value := by
  cases op with
  | write v saving =>
      obtain rfl : saving = .stored := hop
      refine ⟨⟨rfl, hsettle _⟩, ?_⟩
      cases v with
      | none => exact h.settled
      | some v => rfl
  | restart created =>
      have hstep : R.step s (.restart created) = ⟨s.value, s.copy⟩ := by
        simp only [Register.step, h.copy]
      rw [hstep]
      exact ⟨h, rfl⟩

include hsettle in
/-- The register holds the last value written, settled. -/
theorem run_lastWritten (h : s.Saved R) {ops : List (Op α)}
    (hops : ∀ op ∈ ops, op.Saves) :
    (R.run s ops).value =
      ((ops.filterMap Op.written?).getLast?.map R.settle).getD s.value := by
  induction ops generalizing s with
  | nil => rfl
  | cons op ops ih =>
      obtain ⟨hnext, hvalue⟩ := h.step hsettle (hops op List.mem_cons_self)
      rw [run_cons, ih hnext fun op' hop' =>
        hops op' (List.mem_cons_of_mem op hop'), hvalue]
      cases hwritten : op.written? with
      | none => simp [hwritten]
      | some v =>
          rw [List.filterMap_cons_some hwritten, List.getLast?_cons]
          cases (ops.filterMap Op.written?).getLast? <;> rfl

end Register

end SanbaoProt.Library
