import SanbaoProt.Protocol

/-!
# The pointer queue

`ptr_queue_push` and `ptr_queue_pop` of `common.cpp`.  A node is its header and
an optional data buffer, of which the queue keeps its own copy.  A full queue
refuses the node; a node without a buffer travels as a header only.
-/

namespace SanbaoProt

open Library

def ptrQueueBufCnt : Nat := 16

structure PtrQueueNode (η : Type*) where
  header : η
  buf : Option (List UInt8)
  deriving DecidableEq, Repr

variable {η : Type*}

def ptrQueuePush (p : List (PtrQueueNode η)) (node : PtrQueueNode η) :
    Int × List (PtrQueueNode η) :=
  if p.length = ptrQueueBufCnt then (-1, p)
  else
    (0, p ++ [⟨node.header, node.buf.map (List.take ptrQueueBufSize)⟩])

/-- `userBuflen` is the size of the caller's buffer, if it passes one. -/
def ptrQueuePop (p : List (PtrQueueNode η)) (userBuflen : Option Nat) :
    Option (PtrQueueNode η × List (PtrQueueNode η)) :=
  match p with
  | [] => none
  | node :: rest =>
      match node.buf, userBuflen with
      | some data, some buflen =>
          some (⟨node.header,
            some ((data.take ptrQueueBufSize).take buflen)⟩, rest)
      | _, _ => some (⟨node.header, none⟩, rest)

/-- Into a buffer of the queue's own size a node is popped as it was
pushed. -/
theorem ptrQueuePop_cons (node : PtrQueueNode η)
    (rest : List (PtrQueueNode η)) :
    ptrQueuePop (node :: rest) (some ptrQueueBufSize) =
      some (⟨node.header, node.buf.map (List.take ptrQueueBufSize)⟩, rest) := by
  obtain ⟨header, buf⟩ := node
  cases buf with
  | none => rfl
  | some data =>
      simp only [ptrQueuePop, List.take_take, Nat.min_self, Option.map_some]

theorem length_ptrQueuePush {p : List (PtrQueueNode η)}
    (h : p.length ≤ ptrQueueBufCnt) (node : PtrQueueNode η) :
    (ptrQueuePush p node).2.length ≤ ptrQueueBufCnt := by
  unfold ptrQueuePush
  split_ifs with hfull
  · exact h
  · simp only [List.length_append, List.length_singleton]
    omega

theorem length_ptrQueuePush_eq (p : List (PtrQueueNode η))
    (node : PtrQueueNode η) :
    (ptrQueuePush p node).2.length =
      if p.length = ptrQueueBufCnt then p.length else p.length + 1 := by
  unfold ptrQueuePush
  split_ifs
  · rfl
  · exact List.length_append

theorem mem_ptrQueuePush_iff {p : List (PtrQueueNode η)}
    {node n : PtrQueueNode η} :
    n ∈ (ptrQueuePush p node).2 ↔
      n ∈ p ∨ p.length ≠ ptrQueueBufCnt ∧
        n = ⟨node.header, node.buf.map (List.take ptrQueueBufSize)⟩ := by
  unfold ptrQueuePush
  split_ifs with hfull
  · simp [hfull]
  · simp [hfull]

theorem mem_ptrQueuePush {p : List (PtrQueueNode η)}
    {node n : PtrQueueNode η} (h : n ∈ (ptrQueuePush p node).2) :
    n ∈ p ∨ n.header = node.header := by
  unfold ptrQueuePush at h
  split_ifs at h
  · exact .inl h
  · rcases List.mem_append.mp h with hold | hnew
    · exact .inl hold
    · rw [List.mem_singleton.mp hnew]
      exact .inr rfl

theorem mem_of_ptrQueuePop {p rest : List (PtrQueueNode η)}
    {userBuflen : Option Nat} {node : PtrQueueNode η}
    (h : ptrQueuePop p userBuflen = some (node, rest)) :
    (∃ n ∈ p, n.header = node.header) ∧ ∀ n ∈ rest, n ∈ p := by
  unfold ptrQueuePop at h
  cases p with
  | nil => cases h
  | cons first p =>
      simp only at h
      split at h
      · cases h
        exact ⟨⟨first, by simp, rfl⟩, fun n hn => by simp [hn]⟩
      · cases h
        exact ⟨⟨first, by simp, rfl⟩, fun n hn => by simp [hn]⟩

end SanbaoProt
