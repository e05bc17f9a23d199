import Mathlib.Data.Stream.Init
import SanbaoProt.Library.Mealy

/-!
# Taking what is due

A throttle looks at items one after the other and takes an item if it is due
after the one taken last.  `taken_due` and `taken_sublist` say what the items
taken from a list are, `exists_taken` that a source which never runs out of due
items has any number of them taken.
-/

namespace SanbaoProt.Library

structure Throttle (τ α : Type*) where
  stamp : α → τ
  due : τ → α → Prop

namespace Throttle

variable {τ α : Type*} (T : Throttle τ α) [∀ last a, Decidable (T.due last a)]

/-- The state is the stamp of the item taken last. -/
def taker : Mealy τ α α where
  step last a := if T.due last a then (T.stamp a, [a]) else (last, [])

def taken (last : τ) (items : List α) : List α := T.taker.outputs last items

@[simp] theorem taken_nil (last : τ) : T.taken last [] = [] := rfl

variable {T} in
theorem taken_of_due {last : τ} {a : α} (h : T.due last a)
    (items : List α) :
    T.taken last (a :: items) = a :: T.taken (T.stamp a) items := by
  have hstep : T.taker.step last a = (T.stamp a, [a]) := if_pos h
  exact Mealy.outputs_of_step hstep items

variable {T} in
theorem taken_of_not_due {last : τ} {a : α} (h : ¬ T.due last a)
    (items : List α) : T.taken last (a :: items) = T.taken last items := by
  have hstep : T.taker.step last a = (last, []) := if_neg h
  exact Mealy.outputs_of_step hstep items

theorem taken_sublist (last : τ) (items : List α) :
    (T.taken last items).Sublist items := by
  induction items generalizing last with
  | nil => exact List.Sublist.slnil
  | cons a items ih =>
      by_cases h : T.due last a
      · rw [taken_of_due h]
        exact (ih (T.stamp a)).cons_cons a
      · rw [taken_of_not_due h]
        exact (ih last).cons a

/-- Each item that is taken is due after the one before it. -/
theorem taken_due (last : τ) (items : List α) :
    (∀ a ∈ (T.taken last items).head?, T.due last a) ∧
      (T.taken last items).IsChain fun a b => T.due (T.stamp a) b := by
  induction items generalizing last with
  | nil => exact ⟨nofun, List.isChain_nil⟩
  | cons a items ih =>
      by_cases h : T.due last a
      · rw [taken_of_due h]
        obtain ⟨hfirst, hrest⟩ := ih (T.stamp a)
        refine ⟨?_, List.isChain_cons.mpr ⟨hfirst, hrest⟩⟩
        rintro b ⟨⟩
        exact h
      · rw [taken_of_not_due h]
        exact ih last

/-- The items between two taken ones were not due. -/
theorem taken_append (last : τ) (first second : List α) :
    T.taken last (first ++ second) =
      T.taken last first ++ T.taken (T.taker.final last first) second :=
  T.taker.outputs_append last first second

theorem exists_due_taken {last : τ} {items : List α}
    (h : ∃ a ∈ items, T.due last a) : T.taken last items ≠ [] := by
  induction items with
  | nil =>
      obtain ⟨a, ha, -⟩ := h
      cases ha
  | cons b items ih =>
      by_cases hdue : T.due last b
      · rw [taken_of_due hdue]
        exact List.cons_ne_nil _ _
      · rw [taken_of_not_due hdue]
        apply ih
        obtain ⟨a, ha, hadue⟩ := h
        rcases List.mem_cons.mp ha with rfl | ha
        · exact absurd hadue hdue
        · exact ⟨a, ha, hadue⟩

/-! ## Sources that do not run out -/

variable {ρ : Type*} (read : ρ → Option α)

/-- Whatever was taken last, an item that is due can still be read. -/
def Feeds (source : Stream' ρ) : Prop :=
  ∀ last before, ∃ k a, before ≤ k ∧ read (source.get k) = some a ∧
    T.due last a

def readItems (source : Stream' ρ) (fuel : Nat) : List α :=
  (source.take fuel).filterMap read

theorem readItems_succ (source : Stream' ρ) (fuel : Nat) :
    readItems read source (fuel + 1) =
      readItems read source fuel ++ (read (source.get fuel)).toList := by
  rw [readItems, Stream'.take_succ', List.filterMap_append]
  cases hread : read (source.get fuel) <;> simp [readItems, hread]

theorem readItems_prefix (source : Stream' ρ) {fuel fuel' : Nat}
    (h : fuel ≤ fuel') : ∃ later,
    readItems read source fuel' = readItems read source fuel ++ later := by
  induction h with
  | refl => exact ⟨[], (List.append_nil _).symm⟩
  | @step fuel' _ ih =>
      obtain ⟨later, hlater⟩ := ih
      refine ⟨later ++ (read (source.get fuel')).toList, ?_⟩
      rw [readItems_succ, hlater, List.append_assoc]

variable {read} in
/-- Any number of items is taken from a source that does not run out. -/
theorem exists_taken {source : Stream' ρ} (h : T.Feeds read source)
    (last : τ) (num : Nat) :
    ∃ fuel, num ≤ (T.taken last (readItems read source fuel)).length := by
  induction num with
  | zero => exact ⟨0, Nat.zero_le _⟩
  | succ num ih =>
      obtain ⟨fuel, hfuel⟩ := ih
      let now := T.taker.final last (readItems read source fuel)
      obtain ⟨k, a, hk, hread, hdue⟩ := h now fuel
      obtain ⟨later, hlater⟩ := readItems_prefix read source hk
      have hnext : readItems read source (k + 1) =
          readItems read source fuel ++ (later ++ [a]) := by
        rw [readItems_succ, hlater, hread, List.append_assoc]
        rfl
      have hmore : 0 < (T.taken now (later ++ [a])).length :=
        List.length_pos_of_ne_nil (T.exists_due_taken ⟨a, by simp, hdue⟩)
      refine ⟨k + 1, ?_⟩
      rw [hnext, taken_append, List.length_append]
      exact Nat.add_le_add hfuel hmore

end Throttle

end SanbaoProt.Library
