import Mathlib.Data.List.Forall2
import SanbaoProt.Library.Mealy

/-!
# First in, first out

A machine whose state holds a list of items is a queue if each step takes the
items that it accepts behind the list and releases items from its front.  Then
a run releases, one after the other, the first of the items that it was given,
and still holds the others.
-/

namespace SanbaoProt.Library.Mealy

variable {σ ι ο α β : Type*}

/-- `R` is what becomes of an item when it is released. -/
structure Fifo (M : Mealy σ ι ο) (Holds : σ → List α → Prop)
    (accepted : ο → Option α) (released : ο → Option β) (R : α → β → Prop) :
    Prop where
  step : ∀ s i xs, Holds s xs → ∃ items ys,
    xs ++ (M.step s i).2.filterMap accepted = items ++ ys ∧
      List.Forall₂ R items ((M.step s i).2.filterMap released) ∧
      Holds (M.step s i).1 ys

theorem Fifo.run {M : Mealy σ ι ο} {Holds : σ → List α → Prop}
    {accepted : ο → Option α} {released : ο → Option β} {R : α → β → Prop}
    (h : M.Fifo Holds accepted released R) {s : σ} {xs : List α}
    (hs : Holds s xs) (inputs : List ι) :
    ∃ items ys, xs ++ (M.outputs s inputs).filterMap accepted = items ++ ys ∧
      List.Forall₂ R items ((M.outputs s inputs).filterMap released) ∧
      Holds (M.final s inputs) ys := by
  induction inputs generalizing s xs with
  | nil => exact ⟨[], xs, List.append_nil xs, List.Forall₂.nil, hs⟩
  | cons i inputs ih =>
      obtain ⟨first, ys, hfirst, hout, hnext⟩ := h.step s i xs hs
      obtain ⟨later, zs, hlater, hrest, hfinal⟩ := ih hnext
      refine ⟨first ++ later, zs, ?_, ?_, hfinal⟩
      · rw [outputs_cons, List.filterMap_append, ← List.append_assoc, hfirst,
          List.append_assoc, hlater, List.append_assoc]
      · rw [outputs_cons, List.filterMap_append]
        exact List.rel_append hout hrest

end SanbaoProt.Library.Mealy
