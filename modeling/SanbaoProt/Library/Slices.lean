import Mathlib.Data.List.Basic
import Mathlib.Data.List.Range

/-!
# Slices of equal width

A long list is sent as slices of a fixed width, the last of which may be
shorter.  The first `count` slices in order make up a prefix, and as many of
them as the rounded-up quotient make up the whole.
-/

namespace SanbaoProt.Library

variable {α : Type*} (width : Nat) (xs : List α)

def slice (k : Nat) : List α := (xs.drop (k * width)).take width

/-- The length divided by the width, rounded up. -/
def sliceCount : Nat := (xs.length + width - 1) / width

theorem flatten_slices (count : Nat) :
    ((List.range count).map (slice width xs)).flatten =
      xs.take (count * width) := by
  induction count with
  | zero => simp
  | succ count ih =>
      rw [List.range_succ, List.map_append, List.flatten_append, ih,
        Nat.succ_mul, List.take_add]
      simp [slice]

theorem length_slice_le (k : Nat) : (slice width xs k).length ≤ width :=
  List.length_take_le _ _

variable {width}

theorem length_le_sliceCount (hwidth : 0 < width) :
    xs.length ≤ sliceCount width xs * width := by
  have hmod := Nat.mod_lt (xs.length + width - 1) hwidth
  have hdiv := Nat.div_add_mod (xs.length + width - 1) width
  rw [sliceCount, Nat.mul_comm]
  omega

theorem flatten_all_slices (hwidth : 0 < width) :
    ((List.range (sliceCount width xs)).map (slice width xs)).flatten =
      xs := by
  rw [flatten_slices]
  exact List.take_of_length_le (length_le_sliceCount xs hwidth)

theorem slice_ne_nil_iff (hwidth : 0 < width) (k : Nat) :
    slice width xs k ≠ [] ↔ k < sliceCount width xs := by
  have hempty : slice width xs k = [] ↔ xs.length ≤ k * width := by
    rw [slice, List.take_eq_nil_iff, List.drop_eq_nil_iff]
    exact or_iff_right (Nat.pos_iff_ne_zero.mp hwidth)
  rw [Ne, hempty, Nat.not_le, sliceCount]
  constructor
  · intro h
    have hnext : (k + 1) * width ≤ xs.length + width - 1 := by
      rw [Nat.succ_mul]
      omega
    exact (Nat.le_div_iff_mul_le hwidth).mpr hnext
  · intro h
    have hnext := (Nat.le_div_iff_mul_le hwidth).mp (Nat.succ_le_of_lt h)
    rw [Nat.succ_mul] at hnext
    omega

end SanbaoProt.Library
