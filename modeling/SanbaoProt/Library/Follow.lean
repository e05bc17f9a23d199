import Mathlib.Data.List.Destutter
import SanbaoProt.Library.Mealy

/-!
# Acting on a change

A follower keeps the last valid value that it was given and acts when a valid
value differs from it.  Over a run it acts once for each change: `follow_run`
determines what it does by the valid values with adjacent repetitions left
out, and `follow_latest` says that its last act was for the value it keeps.
-/

namespace SanbaoProt.Library

structure Follower (α β : Type*) where
  valid : α → Prop
  act : α → List β

namespace Follower

variable {α β : Type*} [DecidableEq α] (F : Follower α β)
  [DecidablePred F.valid]

def keep (last a : α) : α := if F.valid a then a else last

def acts (last a : α) : List β :=
  if last ≠ a then if F.valid a then F.act a else [] else []

def follow : Mealy α α β where
  step last a := (F.keep last a, F.acts last a)

/-- The values of a run that are valid and differ from the one before. -/
def changes (last : α) (values : List α) : List α :=
  ((values.filter F.valid).destutter' (· ≠ ·) last).tail

variable {F} {last a : α} (values : List α)

theorem changes_of_change (hvalid : F.valid a) (h : last ≠ a) :
    F.changes last (a :: values) = a :: F.changes a values := by
  have hhead (rest : List α) :
      rest.destutter' (· ≠ ·) a = a :: (rest.destutter' (· ≠ ·) a).tail := by
    induction rest with
    | nil => rfl
    | cons b rest ih =>
        by_cases hb : a ≠ b
        · rw [List.destutter'_cons_pos _ hb]
          rfl
        · rw [List.destutter'_cons_neg _ hb]
          exact ih
  rw [changes, List.filter_cons_of_pos (by simpa using hvalid),
    List.destutter'_cons_pos _ h, List.tail_cons, hhead, changes]

theorem changes_of_same (hvalid : F.valid last) :
    F.changes last (last :: values) = F.changes last values := by
  rw [changes, List.filter_cons_of_pos (by simpa using hvalid),
    List.destutter'_cons_neg _ (not_not.mpr rfl), changes]

theorem changes_of_invalid (h : ¬ F.valid a) :
    F.changes last (a :: values) = F.changes last values := by
  rw [changes, List.filter_cons_of_neg (by simpa using h), changes]

variable (F) (last)

/-- A run acts once for each change, and keeps the last value changed to. -/
theorem follow_run :
    F.follow.outputs last values = (F.changes last values).flatMap F.act ∧
      F.follow.final last values =
        (F.changes last values).getLast?.getD last := by
  induction values generalizing last with
  | nil => exact ⟨rfl, rfl⟩
  | cons a values ih =>
      by_cases hvalid : F.valid a
      · have hkeep : F.keep last a = a := if_pos hvalid
        by_cases hchange : last ≠ a
        · have hacts : F.acts last a = F.act a := by
            rw [acts, if_pos hchange, if_pos hvalid]
          have hstep : F.follow.step last a = (a, F.act a) :=
            Prod.ext hkeep hacts
          obtain ⟨houtputs, hfinal⟩ := ih a
          rw [Mealy.outputs_of_step hstep, Mealy.final_of_step hstep,
            changes_of_change values hvalid hchange, houtputs, hfinal,
            List.getLast?_cons]
          exact ⟨rfl, rfl⟩
        · obtain rfl := not_not.mp hchange
          have hacts : F.acts last last = [] := if_neg hchange
          have hstep : F.follow.step last last = (last, []) :=
            Prod.ext hkeep hacts
          rw [Mealy.outputs_of_step hstep, Mealy.final_of_step hstep,
            changes_of_same values hvalid]
          exact ih last
      · have hkeep : F.keep last a = last := if_neg hvalid
        have hacts : F.acts last a = [] := by
          unfold acts
          split_ifs <;> rfl
        have hstep : F.follow.step last a = (last, []) :=
          Prod.ext hkeep hacts
        rw [Mealy.outputs_of_step hstep, Mealy.final_of_step hstep,
          changes_of_invalid values hvalid]
        exact ih last

variable {F last} in
/-- What the last act showed is what the value kept now would show. -/
theorem follow_latest {γ : Type*} {show? : β → Option γ} {row : α → Option γ}
    (hrow : ∀ a, F.valid a →
      ∃ c, row a = some c ∧ ((F.act a).filterMap show?).getLast? = some c)
    (hlast : row last = none) :
    ((F.follow.outputs last values).filterMap show?).getLast? =
      row (F.follow.final last values) := by
  induction values using List.reverseRecOn with
  | nil => exact hlast.symm
  | append_singleton values a ih =>
      let kept := F.follow.final last values
      have hfinal : F.follow.final last (values ++ [a]) = F.keep kept a := by
        rw [Mealy.final_append]
        rfl
      have houtputs : F.follow.outputs last (values ++ [a]) =
          F.follow.outputs last values ++ F.acts kept a := by
        rw [Mealy.outputs_append, Mealy.outputs_cons, Mealy.outputs_nil,
          List.append_nil]
        rfl
      rw [hfinal, houtputs, List.filterMap_append, List.getLast?_append, ih]
      by_cases hvalid : F.valid a
      · obtain ⟨c, hc, hshown⟩ := hrow a hvalid
        rw [keep, if_pos hvalid]
        by_cases hchange : kept ≠ a
        · rw [acts, if_pos hchange, if_pos hvalid, hshown, hc]
          rfl
        · have hsame : kept = a := not_not.mp hchange
          rw [acts, if_neg hchange, ← hsame]
          rfl
      · have hacts : F.acts kept a = [] := by
          unfold acts
          split_ifs <;> rfl
        rw [keep, if_neg hvalid, hacts]
        rfl

end Follower

end SanbaoProt.Library
