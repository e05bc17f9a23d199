import SanbaoProt.Library.Packed

/-!
# Range checks

A packed record is validated by a list of checks, each of which resets its own
field to a fallback when the field is out of range.  When the fallbacks are in
range and the fields are apart, one pass leaves a record that passes every
check, and a second pass changes nothing.
-/

namespace SanbaoProt.Library

inductive RangeCheck (n : Nat) where
  | byte (field : Fin n) (lo hi fallback : UInt8)
  | word (field : PackedWord n) (hi : Nat) (low high : UInt8)
  deriving DecidableEq, Repr

namespace RangeCheck

variable {n : Nat}

def field : RangeCheck n → Packed.Field n
  | .byte field _ _ _ => .byte field
  | .word field _ _ _ => .word field

def holds (p : Packed n) : RangeCheck n → Bool
  | .byte field lo hi _ => lo ≤ p field && p field ≤ hi
  | .word field hi _ _ => p.word field ≤ hi

def reset (p : Packed n) : RangeCheck n → Packed n
  | .byte field _ _ fallback => Function.update p field fallback
  | .word field _ low high => p.setWord field low high

def apply (p : Packed n) (c : RangeCheck n) : Packed n :=
  if c.holds p then p else c.reset p

theorem foldl_apply_of_holds {checks : List (RangeCheck n)} {p : Packed n}
    (h : ∀ c ∈ checks, c.holds p = true) : checks.foldl apply p = p := by
  induction checks with
  | nil => rfl
  | cons c checks ih =>
      have hc : apply p c = p := by
        rw [apply, if_pos (h c (by simp))]
      rw [List.foldl_cons, hc]
      exact ih fun c' hc' => h c' (by simp [hc'])

theorem holds_congr (c : RangeCheck n) {p q : Packed n}
    (h : c.field.value p = c.field.value q) : c.holds p = c.holds q := by
  cases c with
  | byte field lo hi fallback =>
      have hbyte : p field = q field := UInt8.toNat_inj.mp h
      simp only [holds, hbyte]
  | word field hi low high =>
      have hword : p.word field = q.word field := h
      simp only [holds, hword]

def bound : RangeCheck n → Nat
  | .byte _ _ hi _ => hi.toNat
  | .word _ hi _ _ => hi

theorem value_le_bound {c : RangeCheck n} {p : Packed n}
    (h : c.holds p = true) : c.field.value p ≤ c.bound := by
  cases c with
  | byte field lo hi fallback =>
      simp only [holds, Bool.and_eq_true, decide_eq_true_eq] at h
      exact UInt8.le_iff_toNat_le.mp h.2
  | word field hi low high => exact of_decide_eq_true h

/-- The value that a check falls back to passes the check. -/
def FallsBack : RangeCheck n → Prop
  | .byte _ lo hi fallback => lo ≤ fallback ∧ fallback ≤ hi
  | .word field hi low high =>
      field.1 ≠ field.2 ∧ low.toNat + 256 * high.toNat ≤ hi

instance (c : RangeCheck n) : Decidable c.FallsBack :=
  match c with
  | .byte _ lo hi fallback =>
      inferInstanceAs (Decidable (lo ≤ fallback ∧ fallback ≤ hi))
  | .word field hi low high =>
      inferInstanceAs (Decidable
        (field.1 ≠ field.2 ∧ low.toNat + 256 * high.toNat ≤ hi))

theorem holds_apply {c : RangeCheck n} (h : c.FallsBack) (p : Packed n) :
    c.holds (c.apply p) = true := by
  unfold apply
  split_ifs with hholds
  · exact hholds
  · cases c with
    | byte field lo hi fallback =>
        simpa [reset, holds, FallsBack] using h
    | word field hi low high =>
        simpa [reset, holds, Packed.word, Packed.setWord_apply, h.1] using h.2

theorem value_apply_of_apart {field : Packed.Field n} {c : RangeCheck n}
    (h : ∀ i ∈ field.cells, i ∉ c.field.cells) (p : Packed n) :
    field.value (c.apply p) = field.value p := by
  apply Packed.Field.value_congr
  intro i hi
  have hother := h i hi
  unfold apply
  split_ifs
  · rfl
  · cases c with
    | byte field lo hi fallback =>
        have hne : i ≠ field := by
          simpa [RangeCheck.field, Packed.Field.cells] using hother
        simp [reset, hne]
    | word field hi low high =>
        have hne : i ≠ field.1 ∧ i ≠ field.2 := by
          simpa [RangeCheck.field, Packed.Field.cells] using hother
        simp [reset, Packed.setWord_apply, hne.1, hne.2]

theorem value_foldl_of_apart {field : Packed.Field n}
    {checks : List (RangeCheck n)}
    (h : ∀ i ∈ field.cells, i ∉ checks.flatMap fun c => c.field.cells)
    (p : Packed n) : field.value (checks.foldl apply p) = field.value p := by
  induction checks generalizing p with
  | nil => rfl
  | cons c checks ih =>
      simp only [List.flatMap_cons, List.mem_append, not_or] at h
      rw [List.foldl_cons, ih fun i hi => (h i hi).2]
      exact value_apply_of_apart (fun i hi => (h i hi).1) p

/-- Checks of different fields, each with a sound fallback, leave a record that
passes them all. -/
theorem foldl_apply_holds {checks : List (RangeCheck n)}
    (hfallback : ∀ c ∈ checks, c.FallsBack)
    (hapart : (checks.flatMap fun c => c.field.cells).Nodup)
    (p : Packed n) : ∀ c ∈ checks, c.holds (checks.foldl apply p) = true := by
  induction checks generalizing p with
  | nil => simp
  | cons first checks ih =>
      rw [List.flatMap_cons, List.nodup_append] at hapart
      obtain ⟨-, hrest, hfirst⟩ := hapart
      rw [List.foldl_cons]
      intro c hc
      rcases List.mem_cons.mp hc with rfl | hlater
      · rw [c.holds_congr (value_foldl_of_apart
          (fun i hi hi' => hfirst i hi i hi' rfl) _)]
        exact holds_apply (hfallback c (by simp)) p
      · exact ih (fun c' hc' => hfallback c' (by simp [hc'])) hrest _ c hlater

/-- A check of a merged record looks at the new field, or at the old one if
the new field is all ones. -/
theorem holds_merge {words : List (PackedWord n)}
    (hapart : (Packed.cells words).Nodup) {c : RangeCheck n}
    (hfield : c.field ∈ Packed.fields words) (new old : Packed n) :
    c.holds (Packed.merge words new old) =
      if c.field.value new = c.field.ones then c.holds old
      else c.holds new := by
  have hvalue := Packed.value_merge hapart new old hfield
  split_ifs with hones
  · rw [if_pos hones] at hvalue
    exact c.holds_congr hvalue
  · rw [if_neg hones] at hvalue
    exact c.holds_congr hvalue

/-! ## Values -/

/-- What a check makes of a value of its field. -/
def settle (v : Nat) : RangeCheck n → Nat
  | .byte _ lo hi fallback =>
      if lo.toNat ≤ v ∧ v ≤ hi.toNat then v else fallback.toNat
  | .word _ hi low high => if v ≤ hi then v else low.toNat + 256 * high.toNat

/-- What a list of checks makes of a value of a field, checked or not. -/
def settled (checks : List (RangeCheck n)) (field : Packed.Field n)
    (v : Nat) : Nat :=
  match checks.find? fun c => c.field = field with
  | none => v
  | some c => c.settle v

theorem settle_settle {c : RangeCheck n} (h : c.FallsBack) (v : Nat) :
    c.settle (c.settle v) = c.settle v := by
  cases c with
  | byte field lo hi fallback =>
      obtain ⟨hlo, hhi⟩ := h
      rw [UInt8.le_iff_toNat_le] at hlo hhi
      simp only [settle]
      split_ifs <;> omega
  | word field hi low high =>
      have hhi := h.2
      simp only [settle]
      split_ifs <;> omega

theorem settled_settled {checks : List (RangeCheck n)}
    (h : ∀ c ∈ checks, c.FallsBack) (field : Packed.Field n) (v : Nat) :
    settled checks field (settled checks field v) =
      settled checks field v := by
  unfold settled
  cases hfind : checks.find? fun c => c.field = field with
  | none => rfl
  | some c => exact settle_settle (h c (List.mem_of_find?_eq_some hfind)) v

theorem value_apply {c : RangeCheck n} (h : c.FallsBack) (p : Packed n) :
    c.field.value (c.apply p) = c.settle (c.field.value p) := by
  unfold apply
  cases c with
  | byte field lo hi fallback =>
      split_ifs with hholds
      · simp only [holds, Bool.and_eq_true, decide_eq_true_eq,
          UInt8.le_iff_toNat_le] at hholds
        exact (if_pos hholds).symm
      · simp only [holds, Bool.and_eq_true, decide_eq_true_eq,
          UInt8.le_iff_toNat_le] at hholds
        refine Eq.trans ?_ (if_neg hholds).symm
        simp [RangeCheck.field, Packed.Field.value, reset]
  | word field hi low high =>
      have hcells : field.1 ≠ field.2 := h.1
      split_ifs with hholds
      · exact (if_pos (of_decide_eq_true hholds)).symm
      · have hover : ¬ p.word field ≤ hi := fun hle =>
          hholds (decide_eq_true hle)
        refine Eq.trans ?_ (if_neg hover).symm
        simp [RangeCheck.field, Packed.Field.value, reset, Packed.word,
          Packed.setWord_apply, hcells]

theorem value_foldl {checks : List (RangeCheck n)}
    (hfallback : ∀ c ∈ checks, c.FallsBack)
    (hapart : (checks.flatMap fun c => c.field.cells).Nodup)
    (p : Packed n) : ∀ c ∈ checks,
      c.field.value (checks.foldl apply p) = c.settle (c.field.value p) := by
  induction checks generalizing p with
  | nil => simp
  | cons first checks ih =>
      rw [List.flatMap_cons, List.nodup_append] at hapart
      obtain ⟨-, hrest, hfirst⟩ := hapart
      rw [List.foldl_cons]
      intro c hc
      rcases List.mem_cons.mp hc with rfl | hlater
      · rw [value_foldl_of_apart fun i hi hi' => hfirst i hi i hi' rfl]
        exact value_apply (hfallback c (by simp)) p
      · rw [ih (fun c' hc' => hfallback c' (by simp [hc'])) hrest _ c hlater]
        congr 1
        apply value_apply_of_apart
        intro i hi hi'
        exact hfirst i hi' i (List.mem_flatMap.mpr ⟨c, hlater, hi⟩) rfl

/-- When each field is checked as a whole or not at all, the value of a field
is settled by the checks. -/
theorem value_foldl_settled {checks : List (RangeCheck n)}
    (hfallback : ∀ c ∈ checks, c.FallsBack)
    (hapart : (checks.flatMap fun c => c.field.cells).Nodup)
    {field : Packed.Field n}
    (hfield : (∃ c ∈ checks, c.field = field) ∨
      ∀ i ∈ field.cells, i ∉ checks.flatMap fun c => c.field.cells)
    (p : Packed n) :
    field.value (checks.foldl apply p) =
      settled checks field (field.value p) := by
  unfold settled
  cases hfind : checks.find? fun c => c.field = field with
  | none =>
      rcases hfield with ⟨c, hc, hcfield⟩ | huntouched
      · have := List.find?_eq_none.mp hfind c hc
        simp [hcfield] at this
      · exact value_foldl_of_apart huntouched p
  | some c =>
      have hc : c ∈ checks := List.mem_of_find?_eq_some hfind
      obtain rfl : c.field = field := by
        simpa using List.find?_some hfind
      exact value_foldl hfallback hapart p c hc

end RangeCheck

end SanbaoProt.Library
