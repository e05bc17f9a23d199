import Mathlib.Data.List.Induction
import Mathlib.Data.List.Perm.Basic

/-!
# Items of numbered producers

Several producers put items into one list, each under its own number.
`itemsOf` is what one of them has put there; by `itemsOf_perm` the producers
together have put what the list holds.
-/

namespace SanbaoProt.Library

variable {α : Type*}

def itemsOf (number : Nat) (items : List (Nat × α)) : List α :=
  (items.filter (·.1 = number)).map Prod.snd

theorem itemsOf_append (number : Nat) (first second : List (Nat × α)) :
    itemsOf number (first ++ second) =
      itemsOf number first ++ itemsOf number second := by
  simp only [itemsOf, List.filter_append, List.map_append]

theorem itemsOf_own (number : Nat) (items : List α) :
    itemsOf number (items.map fun a => (number, a)) = items := by
  induction items with
  | nil => rfl
  | cons a items ih => simpa [itemsOf] using ih

theorem itemsOf_eq_nil {number : Nat} {items : List (Nat × α)}
    (h : ∀ item ∈ items, item.1 ≠ number) : itemsOf number items = [] := by
  rw [itemsOf, List.map_eq_nil_iff, List.filter_eq_nil_iff]
  simpa using h

theorem itemsOf_other {number other : Nat} (h : other ≠ number)
    (items : List α) :
    itemsOf number (items.map fun a => (other, a)) = [] := by
  apply itemsOf_eq_nil
  simpa using fun _ _ => h

/-- The producers with the numbers below `num` are all. -/
theorem itemsOf_perm {num : Nat} {items : List (Nat × α)}
    (h : ∀ item ∈ items, item.1 < num) :
    ((List.range num).flatMap fun number => itemsOf number items).Perm
      (items.map Prod.snd) := by
  induction num generalizing items with
  | zero =>
      have hnone : items = [] :=
        List.eq_nil_iff_forall_not_mem.mpr fun item hitem =>
          Nat.not_lt_zero _ (h item hitem)
      rw [hnone]
      exact List.Perm.refl _
  | succ num ih =>
      let earlier := items.filter (·.1 < num)
      let last := items.filter (fun item => !decide (item.1 < num))
      have hsplit : (earlier ++ last).Perm items :=
        List.filter_append_perm _ items
      have hearlier : ∀ number ∈ List.range num,
          itemsOf number items = itemsOf number earlier := by
        intro number hnumber
        have hlt := List.mem_range.mp hnumber
        simp only [itemsOf, earlier, List.filter_filter]
        refine congrArg _ (List.filter_congr fun item _ => ?_)
        rw [Bool.eq_iff_iff]
        simp only [decide_eq_true_eq, Bool.and_eq_true]
        omega
      have hlast : itemsOf num items = last.map Prod.snd := by
        refine congrArg _ (List.filter_congr fun item hitem => ?_)
        have hle := h item hitem
        rw [Bool.eq_iff_iff]
        simp only [decide_eq_true_eq, Bool.not_eq_true', decide_eq_false_iff_not]
        omega
      have hbelow := ih fun item (hitem : item ∈ earlier) =>
        of_decide_eq_true (List.mem_filter.mp hitem).2
      rw [List.range_succ, List.flatMap_append, List.flatMap_singleton, hlast,
        List.flatMap_congr hearlier]
      refine (hbelow.append_right _).trans ?_
      rw [← List.map_append]
      exact hsplit.map _

theorem flatMap_range {β : Type*} {items : List α} {f : α → List β}
    {g : Nat → List β} (h : ∀ k a, items[k]? = some a → f a = g k) :
    items.flatMap f = (List.range items.length).flatMap g := by
  induction items using List.reverseRecOn with
  | nil => rfl
  | append_singleton items a ih =>
      have hlast : f a = g items.length :=
        h items.length a List.getElem?_concat_length
      have hbefore := ih fun k a' hk => by
        obtain ⟨hlt, -⟩ := List.getElem?_eq_some_iff.mp hk
        exact h k a' ((List.getElem?_append_left hlt).trans hk)
      rw [List.flatMap_append, hbefore, List.length_append,
        List.length_singleton, List.range_succ, List.flatMap_append,
        List.flatMap_singleton, List.flatMap_singleton, hlast]

end SanbaoProt.Library
