import Mathlib.Data.List.Basic
import Mathlib.Data.List.Count

/-!
# Byte stuffing

A frame is delimited by a flag symbol, so the flag must not occur inside it.
Stuffing writes a flag or an escape symbol of the body as the escape symbol
and a code.  The receiver takes the codes back one symbol at a time: `absorb`
keeps what it has received and whether the last symbol is an escape that may
still be resolved.  It is tolerant: an escape followed by anything else than a
code stands for itself.
-/

namespace SanbaoProt.Library

structure Stuffing (α : Type*) where
  flag : α
  esc : α
  flagCode : α
  escCode : α
  esc_ne_flag : esc ≠ flag
  flagCode_ne_flag : flagCode ≠ flag
  escCode_ne_flag : escCode ≠ flag
  escCode_ne_flagCode : escCode ≠ flagCode

namespace Stuffing

variable {α : Type*} [DecidableEq α] (S : Stuffing α)

def stuffOne (c : α) : List α :=
  if c = S.flag then [S.esc, S.flagCode]
  else if c = S.esc then [S.esc, S.escCode]
  else [c]

def stuff (xs : List α) : List α := xs.flatMap S.stuffOne

/-- The symbols received so far and whether the last is an open escape. -/
def absorb (received : List α × Bool) (c : α) : List α × Bool :=
  if c = S.esc ∧ received.2 = false then (received.1 ++ [c], true)
  else if received.2 = true ∧ c = S.flagCode then
    (received.1.dropLast ++ [S.flag], false)
  else if received.2 = true ∧ c = S.escCode then
    (received.1.dropLast ++ [S.esc], false)
  else (received.1 ++ [c], false)

def absorbAll (received : List α × Bool) (xs : List α) : List α × Bool :=
  xs.foldl S.absorb received

@[simp] theorem stuff_nil : S.stuff [] = [] := rfl

@[simp] theorem stuff_cons (c : α) (xs : List α) :
    S.stuff (c :: xs) = S.stuffOne c ++ S.stuff xs := rfl

@[simp] theorem stuff_append (xs ys : List α) :
    S.stuff (xs ++ ys) = S.stuff xs ++ S.stuff ys := by
  simp [stuff]

theorem stuffOne_plain {c : α} (hflag : c ≠ S.flag) (hesc : c ≠ S.esc) :
    S.stuffOne c = [c] := by
  simp [stuffOne, hflag, hesc]

theorem flag_not_mem_stuff (xs : List α) : S.flag ∉ S.stuff xs := by
  induction xs with
  | nil => simp
  | cons c xs ih =>
      have hone : S.flag ∉ S.stuffOne c := by
        unfold stuffOne
        split_ifs with hflag hesc
        · simp [S.esc_ne_flag.symm, S.flagCode_ne_flag.symm]
        · simp [S.esc_ne_flag.symm, S.escCode_ne_flag.symm]
        · simpa using Ne.symm hflag
      simp [hone, ih]

theorem length_stuffOne (c : α) :
    (S.stuffOne c).length =
      1 + [c].count S.flag + [c].count S.esc := by
  unfold stuffOne
  split_ifs with hflag hesc
  · simp [hflag, S.esc_ne_flag.symm]
  · simp [hesc, S.esc_ne_flag]
  · simp [hflag, hesc]

theorem length_stuff_le (xs : List α) :
    (S.stuff xs).length ≤ 2 * xs.length := by
  induction xs with
  | nil => simp
  | cons c xs ih =>
      have hone : (S.stuffOne c).length ≤ 2 := by
        unfold stuffOne
        split_ifs
        · simp
        · simp
        · simp
      rw [stuff_cons, List.length_append, List.length_cons]
      omega

theorem length_stuff (xs : List α) :
    (S.stuff xs).length = xs.length + xs.count S.flag + xs.count S.esc := by
  induction xs with
  | nil => simp
  | cons c xs ih =>
      have hone := S.length_stuffOne c
      rw [stuff_cons, List.length_append, hone, ih]
      simp only [List.length_cons, List.count_cons, List.count_nil]
      omega

theorem absorb_esc (buf : List α) :
    S.absorb (buf, false) S.esc = (buf ++ [S.esc], true) := by
  simp [absorb]

theorem absorb_flagCode (buf : List α) :
    S.absorb (buf, true) S.flagCode = (buf.dropLast ++ [S.flag], false) := by
  simp [absorb]

theorem absorb_escCode (buf : List α) :
    S.absorb (buf, true) S.escCode = (buf.dropLast ++ [S.esc], false) := by
  simp [absorb, S.escCode_ne_flagCode]

theorem absorb_other {received : List α × Bool} {c : α}
    (hesc : ¬(c = S.esc ∧ received.2 = false))
    (hflagCode : ¬(received.2 = true ∧ c = S.flagCode))
    (hescCode : ¬(received.2 = true ∧ c = S.escCode)) :
    S.absorb received c = (received.1 ++ [c], false) := by
  rw [absorb, if_neg hesc, if_neg hflagCode, if_neg hescCode]

@[simp] theorem absorbAll_nil (received : List α × Bool) :
    S.absorbAll received [] = received := rfl

@[simp] theorem absorbAll_cons (received : List α × Bool) (c : α)
    (xs : List α) :
    S.absorbAll received (c :: xs) =
      S.absorbAll (S.absorb received c) xs := rfl

theorem absorbAll_append (received : List α × Bool) (xs ys : List α) :
    S.absorbAll received (xs ++ ys) =
      S.absorbAll (S.absorbAll received xs) ys := by
  simp [absorbAll]

theorem absorbAll_stuffOne (buf : List α) (c : α) :
    S.absorbAll (buf, false) (S.stuffOne c) = (buf ++ [c], false) := by
  unfold stuffOne
  split_ifs with hflag hesc
  · simp [absorb, hflag]
  · simp [absorb, hesc, S.escCode_ne_flagCode]
  · simp [absorb, hesc]

/-- Taking back what was stuffed gives the body, with no escape left open. -/
theorem absorbAll_stuff (buf xs : List α) :
    S.absorbAll (buf, false) (S.stuff xs) = (buf ++ xs, false) := by
  induction xs generalizing buf with
  | nil => simp
  | cons c xs ih =>
      rw [stuff_cons, absorbAll_append, absorbAll_stuffOne, ih]
      simp

theorem absorbAll_plain (buf : List α) {xs : List α} (h : S.esc ∉ xs) :
    S.absorbAll (buf, false) xs = (buf ++ xs, false) := by
  induction xs generalizing buf with
  | nil => simp
  | cons c xs ih =>
      simp only [List.mem_cons, not_or] at h
      have hother : S.absorb (buf, false) c = (buf ++ [c], false) :=
        S.absorb_other (fun hc => h.1 hc.1.symm) (by simp) (by simp)
      rw [absorbAll_cons, hother, ih (buf ++ [c]) h.2]
      simp

theorem length_absorb_le (received : List α × Bool) (c : α) :
    (S.absorb received c).1.length ≤ received.1.length + 1 := by
  unfold absorb
  split_ifs <;> simp

theorem length_le_absorb {received : List α × Bool} (c : α)
    (h : received.1 ≠ []) :
    received.1.length ≤ (S.absorb received c).1.length := by
  have hpos := List.length_pos_of_ne_nil h
  unfold absorb
  split_ifs <;> simp <;> omega

theorem absorb_ne_nil (received : List α × Bool) (c : α) :
    (S.absorb received c).1 ≠ [] := by
  unfold absorb
  split_ifs <;> simp

theorem length_le_absorbAll {received : List α × Bool}
    (h : received.1 ≠ []) (xs : List α) :
    received.1.length ≤ (S.absorbAll received xs).1.length := by
  induction xs generalizing received with
  | nil => simp
  | cons c xs ih =>
      exact Nat.le_trans (S.length_le_absorb c h)
        (ih (S.absorb_ne_nil received c))

theorem length_absorbAll_le (received : List α × Bool) (xs : List α) :
    (S.absorbAll received xs).1.length ≤ received.1.length + xs.length := by
  induction xs generalizing received with
  | nil => simp
  | cons c xs ih =>
      have hfirst := S.length_absorb_le received c
      have hrest := ih (S.absorb received c)
      rw [absorbAll_cons, List.length_cons]
      omega

end Stuffing

end SanbaoProt.Library
