import Mathlib.Data.List.Basic
import Mathlib.Logic.Function.Basic

/-!
# Flat memory

A buffer is seen through a pointer to its first cell: a total map from offsets
to cells.  The three stores of C programs are a single cell, a block copied in
from elsewhere (`memcpy`), and a block moved inside the buffer (`memmove`).
What a buffer holds is stated with `read`, the list of the cells of a block.
-/

namespace SanbaoProt.Library

abbrev Mem (α : Type*) := Nat → α

namespace Mem

variable {α : Type*}

def ofList [Inhabited α] (xs : List α) : Mem α := fun i => xs.getD i default

def read (m : Mem α) (off n : Nat) : List α :=
  (List.range n).map fun i => m (off + i)

def store (m : Mem α) (i : Nat) (v : α) : Mem α := Function.update m i v

/-- `memcpy(&m[off], xs, length xs)`. -/
def copy (m : Mem α) (off : Nat) (xs : List α) : Mem α :=
  fun i => if i < off then m i else xs.getD (i - off) (m i)

/-- `memmove(&m[dst], &m[src], n)`. -/
def move (m : Mem α) (dst src n : Nat) : Mem α := m.copy dst (m.read src n)

@[simp] theorem length_read (m : Mem α) (off n : Nat) :
    (m.read off n).length = n := by
  simp [read]

@[simp] theorem getElem_read (m : Mem α) (off n i : Nat)
    (h : i < (m.read off n).length) : (m.read off n)[i] = m (off + i) := by
  simp [read]

@[simp] theorem read_zero (m : Mem α) (off : Nat) : m.read off 0 = [] := rfl

theorem read_add (m : Mem α) (off a b : Nat) :
    m.read off (a + b) = m.read off a ++ m.read (off + a) b := by
  simp [read, List.range_add, Function.comp_def, Nat.add_assoc]

theorem take_read (m : Mem α) (off : Nat) {k n : Nat} (hk : k ≤ n) :
    (m.read off n).take k = m.read off k := by
  obtain ⟨d, rfl⟩ := Nat.exists_eq_add_of_le hk
  rw [m.read_add off k d]
  exact List.take_left' (length_read m off k)

theorem read_succ (m : Mem α) (off n : Nat) :
    m.read off (n + 1) = m off :: m.read (off + 1) n := by
  rw [Nat.add_comm n 1, read_add]
  rfl

theorem read_succ_last (m : Mem α) (off n : Nat) :
    m.read off (n + 1) = m.read off n ++ [m (off + n)] := by
  rw [read_add]
  rfl

theorem read_eq_iff (m : Mem α) (off n : Nat) (xs : List α) :
    m.read off n = xs ↔
      xs.length = n ∧ ∀ i (h : i < xs.length), m (off + i) = xs[i] := by
  constructor
  · rintro rfl
    simp
  · rintro ⟨hlength, hcells⟩
    apply List.ext_getElem (by simp [hlength])
    intro i _ hi
    rw [getElem_read, hcells i hi]

theorem read_congr {m m' : Mem α} {off n : Nat}
    (h : ∀ i, off ≤ i → i < off + n → m i = m' i) :
    m.read off n = m'.read off n := by
  apply List.ext_getElem (by simp)
  intro i hi _
  simp only [length_read] at hi
  simp only [getElem_read]
  exact h (off + i) (by omega) (by omega)

/-- The buffers hold the same below `n`. -/
def AgreeBelow (n : Nat) (m m' : Mem α) : Prop := ∀ i < n, m i = m' i

theorem AgreeBelow.read {n : Nat} {m m' : Mem α} (h : AgreeBelow n m m')
    {off size : Nat} (hin : off + size ≤ n) :
    m.read off size = m'.read off size :=
  read_congr fun i _ hi => h i (by omega)

theorem apply_of_read {m : Mem α} {off n : Nat} {xs : List α}
    (h : m.read off n = xs) (i : Nat) (hi : i < xs.length) :
    m (off + i) = xs[i] :=
  ((read_eq_iff m off n xs).mp h).2 i hi

theorem agreeBelow_of_read {n : Nat} {m m' : Mem α} {xs : List α}
    (h : m.read 0 n = xs) (h' : m'.read 0 n = xs) : AgreeBelow n m m' := by
  intro i hi
  have hlength : n = xs.length := by rw [← h, length_read]
  have hcell := apply_of_read h i (by omega)
  have hcell' := apply_of_read h' i (by omega)
  simp only [Nat.zero_add] at hcell hcell'
  rw [hcell, hcell']

theorem read_prefix {m : Mem α} {off n : Nat} {xs ys : List α}
    (h : m.read off n = xs ++ ys) : m.read off xs.length = xs := by
  rw [read_eq_iff]
  refine ⟨rfl, fun i hi => ?_⟩
  rw [apply_of_read h i (by simp; omega), List.getElem_append_left hi]

theorem read_suffix {m : Mem α} {off n : Nat} {xs ys : List α}
    (h : m.read off n = xs ++ ys) :
    m.read (off + xs.length) ys.length = ys := by
  rw [read_eq_iff]
  refine ⟨rfl, fun i hi => ?_⟩
  rw [Nat.add_assoc, apply_of_read h (xs.length + i) (by simp; omega),
    List.getElem_append_right (by omega)]
  simp

@[simp] theorem store_self (m : Mem α) (i : Nat) (v : α) :
    m.store i v i = v := by
  simp [store]

theorem store_of_ne (m : Mem α) {i j : Nat} (v : α) (h : j ≠ i) :
    m.store i v j = m j := by
  simp [store, h]

theorem read_store_of_le (m : Mem α) (v : α) {off n i : Nat}
    (h : off + n ≤ i) : (m.store i v).read off n = m.read off n :=
  read_congr fun j _ hj => store_of_ne m v (by omega)

theorem read_store_last (m : Mem α) (off n : Nat) (v : α) :
    (m.store (off + n) v).read off (n + 1) = m.read off n ++ [v] := by
  rw [read_succ_last, read_store_of_le m v (Nat.le_refl _), store_self]

theorem copy_of_lt (m : Mem α) {off i : Nat} (xs : List α) (h : i < off) :
    m.copy off xs i = m i := by
  simp [copy, h]

theorem copy_of_ge (m : Mem α) {off i : Nat} (xs : List α)
    (h : off + xs.length ≤ i) : m.copy off xs i = m i := by
  have hlength : xs.length ≤ i - off := by omega
  simp [copy, List.getElem?_eq_none hlength]

theorem copy_inside (m : Mem α) (off : Nat) (xs : List α) (i : Nat)
    (h : i < xs.length) : m.copy off xs (off + i) = xs[i] := by
  have hge : ¬ off + i < off := by omega
  simp [copy, hge, List.getElem?_eq_getElem h]

@[simp] theorem copy_nil (m : Mem α) (off : Nat) : m.copy off [] = m := by
  funext i
  simp [copy]

@[simp] theorem read_copy (m : Mem α) (off : Nat) (xs : List α) :
    (m.copy off xs).read off xs.length = xs := by
  rw [read_eq_iff]
  exact ⟨rfl, fun i hi => copy_inside m off xs i hi⟩

theorem read_copy_of_le (m : Mem α) (xs : List α) {off n dst : Nat}
    (h : off + n ≤ dst) : (m.copy dst xs).read off n = m.read off n :=
  read_congr fun i _ hi => copy_of_lt m xs (by omega)

/-- The buffers hold the same in the cells of `S`. -/
def AgreeOn (S : Nat → Prop) (m m' : Mem α) : Prop := ∀ i, S i → m i = m' i

theorem AgreeOn.store {S : Nat → Prop} {m m' : Mem α} (h : AgreeOn S m m')
    (i : Nat) (v : α) :
    AgreeOn (fun j => S j ∨ j = i) (m.store i v) (m'.store i v) := by
  rintro j hj
  by_cases heq : j = i
  · rw [heq, store_self, store_self]
  · rw [store_of_ne m v heq, store_of_ne m' v heq]
    exact h j (hj.resolve_right heq)

theorem AgreeOn.copy {S : Nat → Prop} {m m' : Mem α} (h : AgreeOn S m m')
    (off : Nat) (xs : List α) :
    AgreeOn (fun j => S j ∨ off ≤ j ∧ j < off + xs.length) (m.copy off xs)
      (m'.copy off xs) := by
  rintro j hj
  by_cases hin : off ≤ j ∧ j < off + xs.length
  · obtain ⟨i, rfl⟩ := Nat.exists_eq_add_of_le hin.1
    rw [copy_inside m off xs i (by omega), copy_inside m' off xs i (by omega)]
  · have hout := h j (hj.resolve_right hin)
    rcases Nat.lt_or_ge j off with hlow | hhigh
    · rw [copy_of_lt m xs hlow, copy_of_lt m' xs hlow, hout]
    · rw [copy_of_ge m xs (by omega), copy_of_ge m' xs (by omega), hout]

theorem AgreeBelow.of_on {S : Nat → Prop} {n : Nat} {m m' : Mem α}
    (h : AgreeOn S m m') (hS : ∀ i < n, S i) : AgreeBelow n m m' :=
  fun i hi => h i (hS i hi)

theorem AgreeBelow.store {n : Nat} {m m' : Mem α} (h : AgreeBelow n m m')
    (i : Nat) (v : α) : AgreeBelow n (m.store i v) (m'.store i v) :=
  .of_on (AgreeOn.store (S := (· < n)) h i v) fun _ hj => .inl hj

theorem AgreeBelow.mono {k n : Nat} {m m' : Mem α} (h : AgreeBelow n m m')
    (hk : k ≤ n) : AgreeBelow k m m' :=
  fun i hi => h i (by omega)

/-- A copy that starts inside what agrees makes it reach to its end. -/
theorem AgreeBelow.copy {k n : Nat} {m m' : Mem α} (h : AgreeBelow n m m')
    {off : Nat} (xs : List α) (hoff : off ≤ n)
    (hk : k ≤ n ∨ k ≤ off + xs.length) :
    AgreeBelow k (m.copy off xs) (m'.copy off xs) := by
  refine .of_on (AgreeOn.copy (S := (· < n)) h off xs) fun j hj => ?_
  omega

theorem read_ofList [Inhabited α] (xs : List α) :
    (ofList xs).read 0 xs.length = xs := by
  rw [read_eq_iff]
  refine ⟨rfl, fun i hi => ?_⟩
  simp [ofList, List.getElem?_eq_getElem hi]

end Mem

end SanbaoProt.Library
