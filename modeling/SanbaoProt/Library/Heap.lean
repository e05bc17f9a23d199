import Mathlib.Data.Finset.Lattice.Fold
import Mathlib.Order.Lattice.Nat
import SanbaoProt.Library.Memory

/-!
# A heap of buffers

Buffers are told apart by their pointers: the arrays of the callers and what
`malloc` returned.  An `Allocator` may return any address that is not in use, so
a freed one may come back.  `free` leaves the cells as they are: a pointer to a
freed buffer still reads and writes, which is why `live` is kept.
-/

namespace SanbaoProt.Library

inductive Ptr where
  /-- An array of a caller. -/
  | own (id : Nat)
  | heap (id : Nat)
  deriving DecidableEq, Repr

structure Heap (α : Type*) where
  cells : Ptr → Mem α
  live : Finset Nat

structure Allocator where
  malloc : Finset Nat → Nat
  fresh : ∀ live, malloc live ∉ live

/-- The address behind all that are in use. -/
def Allocator.bump : Allocator where
  malloc live := live.sup Nat.succ
  fresh _ hmem := Nat.not_succ_le_self _ (Finset.le_sup hmem)

namespace Heap

variable {α : Type*}

def read (h : Heap α) (p : Ptr) (n : Nat) : List α := (h.cells p).read 0 n

def allocate (h : Heap α) (id : Nat) : Heap α :=
  { h with live := insert id h.live }

def free (h : Heap α) : Ptr → Heap α
  | .own _ => h
  | .heap id => { h with live := h.live.erase id }

def write (h : Heap α) (p : Ptr) (m : Mem α) : Heap α :=
  { h with cells := Function.update h.cells p m }

/-- `memcpy(dst, src, n)`. -/
def memcpy (h : Heap α) (dst src : Ptr) (n : Nat) : Heap α :=
  h.write dst ((h.cells dst).copy 0 (h.read src n))

@[simp] theorem length_read (h : Heap α) (p : Ptr) (n : Nat) :
    (h.read p n).length = n := Mem.length_read _ 0 n

theorem take_read (h : Heap α) (p : Ptr) {k n : Nat} (hk : k ≤ n) :
    (h.read p n).take k = h.read p k := (h.cells p).take_read 0 hk

@[simp] theorem read_allocate (h : Heap α) (id : Nat) (p : Ptr) (n : Nat) :
    (h.allocate id).read p n = h.read p n := rfl

@[simp] theorem read_free (h : Heap α) (q p : Ptr) (n : Nat) :
    (h.free q).read p n = h.read p n := by
  cases q with
  | own id => rfl
  | heap id => rfl

@[simp] theorem live_write (h : Heap α) (p : Ptr) (m : Mem α) :
    (h.write p m).live = h.live := rfl

@[simp] theorem live_memcpy (h : Heap α) (dst src : Ptr) (n : Nat) :
    (h.memcpy dst src n).live = h.live := rfl

theorem live_free_congr {h h' : Heap α} (q : Ptr) (hlive : h.live = h'.live) :
    (h.free q).live = (h'.free q).live := by
  cases q with
  | own id => exact hlive
  | heap id => exact congrArg (Finset.erase · id) hlive

theorem read_write_of_ne (h : Heap α) {p q : Ptr} (hne : p ≠ q) (m : Mem α)
    (n : Nat) : (h.write q m).read p n = h.read p n := by
  simp [read, write, hne]

theorem read_memcpy (h : Heap α) (dst src : Ptr) (n : Nat) :
    (h.memcpy dst src n).read dst n = h.read src n := by
  have hcopied := (h.cells dst).read_copy 0 (h.read src n)
  rw [length_read] at hcopied
  simpa [memcpy, write, read] using hcopied

theorem read_memcpy_of_ne (h : Heap α) {p dst : Ptr} (hne : p ≠ dst)
    (src : Ptr) (size n : Nat) :
    (h.memcpy dst src size).read p n = h.read p n :=
  h.read_write_of_ne hne _ n

theorem mem_live_free {h : Heap α} {id : Nat} {q : Ptr} (hlive : id ∈ h.live)
    (hne : q ≠ .heap id) : id ∈ (h.free q).live := by
  cases q with
  | own id' => exact hlive
  | heap id' =>
      exact Finset.mem_erase.mpr ⟨fun heq => hne (congrArg _ heq.symm), hlive⟩

theorem not_mem_live_free (h : Heap α) (id : Nat) :
    id ∉ (h.free (.heap id)).live := Finset.notMem_erase id h.live

end Heap

end SanbaoProt.Library
