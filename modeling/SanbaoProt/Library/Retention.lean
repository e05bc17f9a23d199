import Mathlib.Algebra.Order.Ring.Nat
import Mathlib.Data.Finset.Image
import Mathlib.Order.Interval.Finset.Nat

/-!
# Keeping the newest items

A store numbers its items in order and keeps the newest `limit` of them: for
each number that is handed out, the item `limit` before it has to go.  What is
handed out and dropped, and in which order, is a plan; it is `Balanced` if every
number that it hands out has its drop later on.  While a plan is carried out the
items too old are those it is still going to drop, whatever is written in
between.
-/

namespace SanbaoProt.Library

inductive Upkeep where
  | extend (num : ℕ)
  | drop (id : ℕ)
  deriving DecidableEq, Repr

structure NumberedStore where
  newest : ℕ
  kept : Finset ℕ

namespace NumberedStore

def apply (s : NumberedStore) : Upkeep → NumberedStore
  | .extend num => { s with newest := s.newest + num }
  | .drop id => { s with kept := s.kept.erase id }

def write (s : NumberedStore) (id : ℕ) : NumberedStore :=
  { s with kept := insert id s.kept }

end NumberedStore

variable {limit newest : ℕ} {plan : List Upkeep} {s : NumberedStore}

def Balanced (limit : ℕ) : ℕ → List Upkeep → Prop
  | _, [] => True
  | newest, .extend num :: plan =>
      (∀ id, newest < id → id ≤ newest + num → limit < id →
        .drop (id - limit) ∈ plan) ∧ Balanced limit (newest + num) plan
  | newest, .drop _ :: plan => Balanced limit newest plan

theorem Balanced.extends (nums : List ℕ)
    (hdrops : ∀ id, newest < id → id ≤ newest + nums.sum → limit < id →
      .drop (id - limit) ∈ plan)
    (h : Balanced limit (newest + nums.sum) plan) :
    Balanced limit newest (nums.map .extend ++ plan) := by
  induction nums generalizing newest with
  | nil => simpa using h
  | cons num nums ih =>
      rw [List.sum_cons] at hdrops h
      constructor
      · intro id hnew hid hlimit
        exact List.mem_append_right _ (hdrops id hnew (by omega) hlimit)
      · apply ih
        · intro id hnew hid hlimit
          exact hdrops id (by omega) (by omega) hlimit
        · rwa [Nat.add_assoc]

/-- What is too old is going to be dropped by the rest of the plan. -/
structure Owing (limit : ℕ) (s : NumberedStore) (plan : List Upkeep) :
    Prop where
  balanced : Balanced limit s.newest plan
  numbered : ∀ id ∈ s.kept, 0 < id ∧ id ≤ s.newest
  recent : ∀ id ∈ s.kept, s.newest < id + limit ∨ .drop id ∈ plan

namespace Owing

theorem apply {upkeep : Upkeep} (h : Owing limit s (upkeep :: plan)) :
    Owing limit (s.apply upkeep) plan := by
  cases upkeep with
  | extend num =>
      obtain ⟨hdrops, hplan⟩ := h.balanced
      refine ⟨hplan, fun id hid => ?_, fun id hid => ?_⟩
      · obtain ⟨hpos, hle⟩ := h.numbered id hid
        exact ⟨hpos, Nat.le_add_right_of_le hle⟩
      · change s.newest + num < id + limit ∨ _
        rcases h.recent id hid with hrecent | hdrop
        · by_cases hold : s.newest + num < id + limit
          · exact .inl hold
          · -- the item falls behind with the number `id + limit`
            have hpos := (h.numbered id hid).1
            have hdrop := hdrops (id + limit) hrecent (by omega) (by omega)
            rw [Nat.add_sub_cancel] at hdrop
            exact .inr hdrop
        · exact .inr (by simpa using hdrop)
  | drop old =>
      refine ⟨h.balanced, fun id hid => ?_, fun id hid => ?_⟩
      · exact h.numbered id (Finset.mem_of_mem_erase hid)
      · rcases h.recent id (Finset.mem_of_mem_erase hid) with hrecent | hdrop
        · exact .inl hrecent
        · have hne := Finset.ne_of_mem_erase hid
          exact .inr (by simpa [hne] using hdrop)

theorem write (h : Owing limit s plan) {id : ℕ} (hpos : 0 < id)
    (hle : id ≤ s.newest) (hrecent : s.newest < id + limit) :
    Owing limit (s.write id) plan := by
  refine ⟨h.balanced, fun id' hid' => ?_, fun id' hid' => ?_⟩
  · rcases Finset.mem_insert.mp hid' with rfl | hkept
    · exact ⟨hpos, hle⟩
    · exact h.numbered id' hkept
  · rcases Finset.mem_insert.mp hid' with rfl | hkept
    · exact .inl hrecent
    · exact h.recent id' hkept

/-- A new plan may start when the last one has been carried out. -/
theorem start (h : Owing limit s []) (hplan : Balanced limit s.newest plan) :
    Owing limit s plan := by
  refine ⟨hplan, h.numbered, fun id hid => .inl ?_⟩
  exact (h.recent id hid).resolve_right (by simp)

theorem within (h : Owing limit s []) {id : ℕ} (hid : id ∈ s.kept) :
    s.newest < id + limit ∧ id ≤ s.newest :=
  ⟨(h.recent id hid).resolve_right (by simp), (h.numbered id hid).2⟩

theorem card_le (h : Owing limit s []) : s.kept.card ≤ limit := by
  have hwindow : s.kept ⊆ Finset.Ioc (s.newest - limit) s.newest := by
    intro id hid
    have hpos := (h.numbered id hid).1
    obtain ⟨hrecent, hle⟩ := h.within hid
    exact Finset.mem_Ioc.mpr ⟨by omega, hle⟩
  calc s.kept.card ≤ (Finset.Ioc (s.newest - limit) s.newest).card :=
        Finset.card_le_card hwindow
    _ = s.newest - (s.newest - limit) := Nat.card_Ioc _ _
    _ ≤ limit := by omega

end Owing

end SanbaoProt.Library
