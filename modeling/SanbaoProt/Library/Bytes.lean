import Mathlib.Data.List.Induction
import Mathlib.Tactic.Ring

/-!
# Numbers as bytes

Most significant byte first: the byte order of the wire.
-/

namespace SanbaoProt.Library

/-- The low `width` bytes of a number, most significant first. -/
def toBE : Nat → Nat → List UInt8
  | 0, _ => []
  | width + 1, n => toBE width (n / 256) ++ [UInt8.ofNat n]

def ofBE (bytes : List UInt8) : Nat :=
  bytes.foldl (fun n b => n * 256 + b.toNat) 0

@[simp] theorem length_toBE (width n : Nat) :
    (toBE width n).length = width := by
  induction width generalizing n with
  | zero => rfl
  | succ width ih => simp [toBE, ih]

@[simp] theorem ofBE_nil : ofBE [] = 0 := rfl

theorem ofBE_concat (bytes : List UInt8) (b : UInt8) :
    ofBE (bytes ++ [b]) = ofBE bytes * 256 + b.toNat := by
  simp [ofBE]

theorem ofBE_lt (bytes : List UInt8) : ofBE bytes < 256 ^ bytes.length := by
  induction bytes using List.reverseRecOn with
  | nil => simp
  | append_singleton bytes b ih =>
      have hb := b.toNat_lt
      rw [ofBE_concat, List.length_append, List.length_singleton, pow_succ]
      omega

theorem ofBE_toBE {width n : Nat} (h : n < 256 ^ width) :
    ofBE (toBE width n) = n := by
  induction width generalizing n with
  | zero =>
      have : n = 0 := by simpa using h
      simp [toBE, this]
  | succ width ih =>
      have hdiv : n / 256 < 256 ^ width := by
        apply Nat.div_lt_of_lt_mul
        rwa [pow_succ, Nat.mul_comm] at h
      rw [toBE, ofBE_concat, ih hdiv, UInt8.toNat_ofNat']
      omega

theorem toBE_ofBE (bytes : List UInt8) :
    toBE bytes.length (ofBE bytes) = bytes := by
  induction bytes using List.reverseRecOn with
  | nil => rfl
  | append_singleton bytes b ih =>
      have hb := b.toNat_lt
      have hquotient : (ofBE bytes * 256 + b.toNat) / 256 = ofBE bytes := by
        omega
      have hlow : UInt8.ofNat (ofBE bytes * 256 + b.toNat) = b := by
        apply UInt8.toNat_inj.mp
        rw [UInt8.toNat_ofNat']
        omega
      rw [ofBE_concat, List.length_append, List.length_singleton, toBE,
        hquotient, ih, hlow]

theorem ofBE_inj {xs ys : List UInt8} (hlength : xs.length = ys.length)
    (h : ofBE xs = ofBE ys) : xs = ys := by
  rw [← toBE_ofBE xs, h, hlength, toBE_ofBE]

/-- A number read in the other byte order. -/
def swapBytes (width n : Nat) : Nat := ofBE (toBE width n).reverse

theorem swapBytes_ofBE (bytes : List UInt8) :
    swapBytes bytes.length (ofBE bytes) = ofBE bytes.reverse := by
  rw [swapBytes, toBE_ofBE]

theorem swapBytes_swapBytes (width : Nat) {n : Nat} (h : n < 256 ^ width) :
    swapBytes width (swapBytes width n) = n := by
  have hagain := swapBytes_ofBE (toBE width n).reverse
  rw [List.length_reverse, length_toBE, List.reverse_reverse,
    ofBE_toBE h] at hagain
  exact hagain

theorem toBE_zero (width : Nat) :
    toBE width 0 = List.replicate width 0 := by
  induction width with
  | zero => rfl
  | succ width ih =>
      rw [toBE, Nat.zero_div, ih, List.replicate_succ']
      rfl

theorem swapBytes_zero (width : Nat) : swapBytes width 0 = 0 := by
  have hzero : ofBE (toBE width 0) = 0 :=
    ofBE_toBE (Nat.pow_pos (by decide))
  rw [toBE_zero] at hzero
  rw [swapBytes, toBE_zero, List.reverse_replicate, hzero]

theorem toBE_two (n : Nat) :
    toBE 2 n = [UInt8.ofNat (n / 256), UInt8.ofNat n] := rfl

theorem uint16_ofInt_natCast {n : Nat} (h : n < 2 ^ 16) :
    UInt16.ofInt n = UInt16.ofNat n := by
  have hmod : (n : Int) % 2 ^ 16 = n := by omega
  rw [UInt16.ofInt, hmod, Int.toNat_natCast]

theorem uint16_ofInt_ne_zero {n : Int} (h : n % 2 ^ 16 ≠ 0) :
    UInt16.ofInt n ≠ 0 := by
  intro hzero
  have hnat := congrArg UInt16.toNat hzero
  rw [UInt16.ofInt, UInt16.toNat_ofNat'] at hnat
  change (n % 2 ^ 16).toNat % 2 ^ 16 = 0 at hnat
  omega

end SanbaoProt.Library
