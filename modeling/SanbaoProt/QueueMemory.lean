import SanbaoProt.Library.Fifo
import SanbaoProt.Library.Heap
import SanbaoProt.Queue

/-!
# The pointer queue in memory

`ptr_queue_push` copies the data of a node into a buffer of the queue's own, and
`ptr_queue_pop` copies it out again and frees that buffer.  Both refine the
queue of values as long as the callers pass arrays of their own.
-/

namespace SanbaoProt

open Library

/-- A `ptr_queue_node`; its header is everything but `len` and `buf`. -/
structure NodeMem (η : Type*) where
  header : η
  len : Nat
  buf : Option Ptr
  deriving DecidableEq, Repr

structure QueueMem (η : Type*) where
  memory : Heap UInt8
  nodes : List (NodeMem η)

variable {η : Type*}

namespace QueueMem

def ptrQueuePush (alloc : Allocator) (s : QueueMem η) (node : NodeMem η) :
    Int × QueueMem η :=
  if s.nodes.length = ptrQueueBufCnt then (-1, s)
  else
    match node.buf with
    | none => (0, { s with nodes := s.nodes ++ [⟨node.header, 0, none⟩] })
    | some src =>
        let id := alloc.malloc s.memory.live
        let len :=
          if node.len > ptrQueueBufSize then ptrQueueBufSize else node.len
        (0, ⟨(s.memory.allocate id).memcpy (.heap id) src len,
          s.nodes ++ [⟨node.header, len, some (.heap id)⟩]⟩)

/-- `out` is the caller's node before the call and, if one is popped, after
it. -/
def ptrQueuePop (s : QueueMem η) (out : NodeMem η) :
    Option (NodeMem η × QueueMem η) :=
  match s.nodes with
  | [] => none
  | node :: rest =>
      match node.buf, out.buf with
      | none, _ => some (node, { s with nodes := rest })
      | some data, none => some (node, ⟨s.memory.free data, rest⟩)
      | some data, some ptr =>
          let nodeLen :=
            if node.len > ptrQueueBufSize then ptrQueueBufSize else node.len
          let len := if nodeLen > out.len then out.len else nodeLen
          some (⟨node.header, len, some ptr⟩,
            ⟨(s.memory.memcpy ptr data len).free data, rest⟩)

end QueueMem

/-! ## What is stored -/

/-- The node in memory holds the value of the queue of values. -/
inductive NodeMem.Holds (memory : Heap UInt8) :
    NodeMem η → PtrQueueNode η → Prop where
  | header (header : η) : Holds memory ⟨header, 0, none⟩ ⟨header, none⟩
  | data (header : η) (id : Nat) (data : List UInt8)
      (hread : memory.read (.heap id) data.length = data)
      (hsize : data.length ≤ ptrQueueBufSize) :
      Holds memory ⟨header, data.length, some (.heap id)⟩ ⟨header, some data⟩

theorem NodeMem.Holds.congr {memory memory' : Heap UInt8} {n : NodeMem η}
    {node : PtrQueueNode η} (h : n.Holds memory node)
    (hkept : ∀ p, n.buf = some p → ∀ k, memory'.read p k = memory.read p k) :
    n.Holds memory' node := by
  cases h with
  | header header => exact .header header
  | data header id data hread hsize =>
      refine .data header id data ?_ hsize
      rw [hkept _ rfl]
      exact hread

theorem NodeMem.Holds.length_le {memory : Heap UInt8} {n : NodeMem η}
    {node : PtrQueueNode η} (h : n.Holds memory node) {data : List UInt8}
    (hdata : node.buf = some data) : data.length ≤ ptrQueueBufSize := by
  cases h with
  | header header => cases hdata
  | data header id data hread hsize =>
      cases hdata
      exact hsize

namespace QueueMem

/-- The buffers that the queue keeps. -/
def bufs (s : QueueMem η) : List Ptr := s.nodes.filterMap NodeMem.buf

/-- The queue in memory holds the queue of values, each of its buffers is in
use, and no two nodes share one. -/
structure Represents (s : QueueMem η) (p : List (PtrQueueNode η)) : Prop where
  holds : List.Forall₂ (NodeMem.Holds s.memory) s.nodes p
  distinct : s.bufs.Nodup
  live : ∀ b ∈ s.bufs, ∃ id ∈ s.memory.live, b = .heap id

theorem forall₂_holds_congr {memory memory' : Heap UInt8}
    {nodes : List (NodeMem η)} {p : List (PtrQueueNode η)}
    (h : List.Forall₂ (NodeMem.Holds memory) nodes p)
    (hkept : ∀ b ∈ nodes.filterMap NodeMem.buf,
      ∀ k, memory'.read b k = memory.read b k) :
    List.Forall₂ (NodeMem.Holds memory') nodes p := by
  induction h with
  | nil => exact .nil
  | @cons n node nodes p hnode _ ih =>
      refine .cons (hnode.congr fun b hb => ?_) (ih fun b hb => ?_)
      · exact hkept b (List.mem_filterMap.mpr ⟨n, List.mem_cons_self, hb⟩)
      · obtain ⟨m, hm, hmb⟩ := List.mem_filterMap.mp hb
        exact hkept b
          (List.mem_filterMap.mpr ⟨m, List.mem_cons_of_mem _ hm, hmb⟩)

theorem Represents.length_eq {s : QueueMem η} {p : List (PtrQueueNode η)}
    (h : s.Represents p) : s.nodes.length = p.length := h.holds.length_eq

theorem represents_nil {s : QueueMem η} (h : s.nodes = []) :
    s.Represents [] := by
  obtain ⟨memory, nodes⟩ := s
  cases h
  exact ⟨.nil, List.nodup_nil, nofun⟩

/-- A node with a buffer of its own is put behind the others. -/
theorem Represents.concat {s : QueueMem η} {p : List (PtrQueueNode η)}
    (h : s.Represents p) {memory : Heap UInt8} {n : NodeMem η}
    {node : PtrQueueNode η}
    (hkept : ∀ b ∈ s.bufs, ∀ k, memory.read b k = s.memory.read b k)
    (hlive : s.memory.live ⊆ memory.live) (hn : n.Holds memory node)
    (hnew : ∀ b, n.buf = some b →
      b ∉ s.bufs ∧ ∃ id ∈ memory.live, b = .heap id) :
    Represents ⟨memory, s.nodes ++ [n]⟩ (p ++ [node]) := by
  have hbufs : QueueMem.bufs ⟨memory, s.nodes ++ [n]⟩ =
      s.bufs ++ n.buf.toList := by
    unfold bufs
    rw [List.filterMap_append]
    cases hn with
    | header => rfl
    | data => rfl
  constructor
  · exact List.rel_append (forall₂_holds_congr h.holds hkept)
      (.cons hn .nil)
  · rw [hbufs, List.nodup_append]
    refine ⟨h.distinct, ?_, fun b hb b' hb' => ?_⟩
    · cases n.buf with
      | none => exact List.nodup_nil
      | some b => exact List.nodup_singleton b
    · rintro rfl
      exact (hnew b (Option.mem_toList.mp hb')).1 hb
  · intro b hb
    rw [hbufs] at hb
    rcases List.mem_append.mp hb with hold | hlast
    · obtain ⟨id, hid, rfl⟩ := h.live b hold
      exact ⟨id, hlive hid, rfl⟩
    · exact (hnew b (Option.mem_toList.mp hlast)).2

/-- The first node and its buffer go. -/
theorem Represents.tail {memory memory' : Heap UInt8} {n : NodeMem η}
    {nodes : List (NodeMem η)} {node : PtrQueueNode η}
    {rest : List (PtrQueueNode η)}
    (h : Represents ⟨memory, n :: nodes⟩ (node :: rest))
    (hkept : ∀ b ∈ bufs ⟨memory, nodes⟩,
      ∀ k, memory'.read b k = memory.read b k)
    (hlive : ∀ id, n.buf ≠ some (.heap id) → id ∈ memory.live →
      id ∈ memory'.live) :
    Represents ⟨memory', nodes⟩ rest := by
  have hbufs : bufs ⟨memory, n :: nodes⟩ =
      n.buf.toList ++ bufs ⟨memory, nodes⟩ := by
    unfold bufs
    cases hn : n.buf with
    | none => exact List.filterMap_cons_none hn
    | some b => exact List.filterMap_cons_some hn
  have hdistinct := h.distinct
  rw [hbufs, List.nodup_append] at hdistinct
  obtain ⟨-, hnodup, hapart⟩ := hdistinct
  refine ⟨?_, hnodup, fun b hb => ?_⟩
  · cases h.holds with
    | cons _ hrest => exact forall₂_holds_congr hrest hkept
  · have hbefore : b ∈ bufs ⟨memory, n :: nodes⟩ := by
      rw [hbufs]
      exact List.mem_append_right _ hb
    obtain ⟨id, hid, rfl⟩ := h.live b hbefore
    refine ⟨id, hlive id (fun heq => ?_) hid, rfl⟩
    exact hapart _ (Option.mem_toList.mpr heq) _ hb rfl

/-- The callers may write to their own arrays. -/
theorem Represents.write_own {s : QueueMem η} {p : List (PtrQueueNode η)}
    (h : s.Represents p) (id : Nat) (cells : Mem UInt8) :
    Represents { s with memory := s.memory.write (.own id) cells } p := by
  refine ⟨forall₂_holds_congr h.holds fun b hb k => ?_, h.distinct, h.live⟩
  obtain ⟨id', -, rfl⟩ := h.live b hb
  have hne : Ptr.heap id' ≠ .own id := by
    intro heq
    cases heq
  exact Heap.read_write_of_ne _ hne _ _

theorem Represents.memcpy_own {s : QueueMem η} {p : List (PtrQueueNode η)}
    (h : s.Represents p) (id : Nat) (src : Ptr) (n : Nat) :
    Represents { s with memory := s.memory.memcpy (.own id) src n } p :=
  h.write_own id _

theorem Represents.freed {memory : Heap UInt8} {header : η} {len id : Nat}
    {nodes : List (NodeMem η)} {node : PtrQueueNode η}
    {rest : List (PtrQueueNode η)}
    (h : Represents ⟨memory, ⟨header, len, some (.heap id)⟩ :: nodes⟩
      (node :: rest)) :
    Represents ⟨memory.free (.heap id), nodes⟩ rest := by
  refine h.tail (fun b _ k => Heap.read_free _ _ _ _) ?_
  intro id' hne hlive
  exact Heap.mem_live_free hlive fun heq => hne (congrArg some heq)

/-- What `malloc` returns is none of the queue's buffers. -/
theorem Represents.ne_of_fresh {s : QueueMem η} {p : List (PtrQueueNode η)}
    (h : s.Represents p) {id : Nat} (hfresh : id ∉ s.memory.live) :
    ∀ b ∈ s.bufs, b ≠ .heap id := by
  rintro b hb rfl
  obtain ⟨id', hlive, heq⟩ := h.live _ hb
  cases heq
  exact hfresh hlive

end QueueMem

/-! ## Both calls refine the queue of values -/

/-- A node of a caller, whose buffer is an array of his own. -/
def callerNode (header : η) (len : Nat) (buf : Option Nat) : NodeMem η :=
  ⟨header, len, buf.map .own⟩

namespace QueueMem

variable {s : QueueMem η} {p : List (PtrQueueNode η)}

/-- The copy of a caller's data in a buffer of the queue's own. -/
theorem holds_copied (memory : Heap UInt8) (id : Nat) (src : Ptr) (len : Nat)
    (header : η) :
    let size := if len > ptrQueueBufSize then ptrQueueBufSize else len
    NodeMem.Holds ((memory.allocate id).memcpy (.heap id) src size)
      ⟨header, size, some (.heap id)⟩
      ⟨header, some ((memory.read src len).take ptrQueueBufSize)⟩ := by
  intro size
  have hmin : size = min ptrQueueBufSize len := by
    simp only [size]
    split_ifs <;> omega
  have hsize : ((memory.read src len).take ptrQueueBufSize).length = size := by
    rw [List.length_take, Heap.length_read, hmin]
  rw [← hsize]
  have htake := List.prefix_iff_eq_take.mp
    (List.take_prefix ptrQueueBufSize (memory.read src len))
  refine .data header id _ ?_ (by omega)
  rw [Heap.read_memcpy, Heap.read_allocate, hsize,
    ← Heap.take_read memory src (by omega : size ≤ len), ← hsize]
  exact htake.symm

theorem ptrQueuePush_refines (h : s.Represents p) (alloc : Allocator)
    (header : η) (len : Nat) (buf : Option Nat) :
    let pushed : PtrQueueNode η :=
      ⟨header, buf.map fun id => s.memory.read (.own id) len⟩
    (s.ptrQueuePush alloc (callerNode header len buf)).1 =
        (SanbaoProt.ptrQueuePush p pushed).1 ∧
      (s.ptrQueuePush alloc (callerNode header len buf)).2.Represents
        (SanbaoProt.ptrQueuePush p pushed).2 := by
  intro pushed
  unfold ptrQueuePush SanbaoProt.ptrQueuePush
  rw [h.length_eq]
  by_cases hfull : p.length = ptrQueueBufCnt
  · rw [if_pos hfull, if_pos hfull]
    exact ⟨rfl, h⟩
  · rw [if_neg hfull, if_neg hfull]
    cases buf with
    | none =>
        refine ⟨rfl, ?_⟩
        exact h.concat (fun _ _ _ => rfl) (Finset.Subset.refl _)
          (.header header) nofun
    | some src =>
        have hfresh : alloc.malloc s.memory.live ∉ s.memory.live :=
          alloc.fresh _
        have hapart := h.ne_of_fresh hfresh
        refine ⟨rfl, ?_⟩
        refine h.concat (fun b hb k => ?_) (Finset.subset_insert _ _)
          (holds_copied _ _ _ _ header) ?_
        · exact Heap.read_memcpy_of_ne _ (hapart b hb) _ _ _
        · rintro b hb
          cases hb
          exact ⟨fun hmem => hapart _ hmem rfl, _,
            Finset.mem_insert_self _ _, rfl⟩

/-- A node with data is copied to the caller's array and its buffer freed. -/
theorem ptrQueuePop_into (memory : Heap UInt8) {n : Nat} (header : η)
    (id : Nat) (nodes : List (NodeMem η)) (header' : η) (len dst : Nat)
    (hsize : n ≤ ptrQueueBufSize) :
    ptrQueuePop ⟨memory, ⟨header, n, some (.heap id)⟩ :: nodes⟩
        (callerNode header' len (some dst)) =
      some (⟨header, min n len, some (.own dst)⟩,
        ⟨(memory.memcpy (.own dst) (.heap id) (min n len)).free (.heap id),
          nodes⟩) := by
  have hclamp : (if n > ptrQueueBufSize then ptrQueueBufSize else n) = n :=
    if_neg (by omega)
  have hmin : (if n > len then len else n) = min n len := by
    split_ifs <;> omega
  simp only [ptrQueuePop, callerNode, Option.map_some, hclamp, hmin]

theorem ptrQueuePop_cons {node : PtrQueueNode η}
    {rest : List (PtrQueueNode η)} (h : s.Represents (node :: rest))
    (header : η) (len : Nat) (buf : Option Nat) :
    ∃ out s', s.ptrQueuePop (callerNode header len buf) = some (out, s') ∧
      s'.Represents rest ∧ out.header = node.header ∧
      (node.buf = none → out.len = 0) ∧
      ∀ data id, node.buf = some data → buf = some id →
        out.len = min data.length len ∧
          s'.memory.read (.own id) out.len = data.take len := by
  obtain ⟨memory, nodes⟩ := s
  cases h.holds with
  | @cons n _ nodes _ hnode hrest =>
      cases hnode with
      | header header' =>
          refine ⟨_, _, rfl, ?_, rfl, fun _ => rfl, ?_⟩
          · exact h.tail (fun _ _ _ => rfl) fun _ _ hlive => hlive
          · intro data id hdata
            cases hdata
      | data header' id data hread hsize =>
          cases buf with
          | none =>
              refine ⟨_, _, rfl, h.freed, rfl, ?_, ?_⟩
              · intro hbuf
                cases hbuf
              · intro _ id' _ hbuf
                cases hbuf
          | some dst =>
              have hcopied := h.memcpy_own dst (.heap id) (min data.length len)
              refine ⟨_, _, ptrQueuePop_into memory header' id nodes header len
                dst hsize, hcopied.freed, rfl, ?_, ?_⟩
              · intro hbuf
                cases hbuf
              · intro _ _ hdata hbuf
                cases hdata
                cases hbuf
                refine ⟨rfl, ?_⟩
                rw [Heap.read_free, Heap.read_memcpy,
                  ← Heap.take_read _ _ (Nat.min_le_left data.length len),
                  hread, Nat.min_comm]
                exact List.take_eq_take_min.symm

theorem ptrQueuePop_eq_none (s : QueueMem η) (out : NodeMem η) :
    s.ptrQueuePop out = none ↔ s.nodes = [] := by
  obtain ⟨memory, nodes⟩ := s
  cases nodes with
  | nil => exact ⟨fun _ => rfl, fun _ => rfl⟩
  | cons node rest =>
      refine ⟨fun h => ?_, nofun⟩
      unfold ptrQueuePop at h
      simp only at h
      split at h
      · cases h
      · cases h
      · cases h

theorem length_ptrQueuePop {s : QueueMem η} {out : NodeMem η}
    {popped : NodeMem η × QueueMem η} (h : s.ptrQueuePop out = some popped) :
    s.nodes.length = popped.2.nodes.length + 1 := by
  obtain ⟨memory, nodes⟩ := s
  cases nodes with
  | nil => cases h
  | cons node rest =>
      unfold ptrQueuePop at h
      simp only at h
      split at h
      · cases h
        rfl
      · cases h
        rfl
      · cases h
        rfl

theorem ptrQueuePush_full (s : QueueMem η) (alloc : Allocator)
    (node : NodeMem η) :
    if s.nodes.length = ptrQueueBufCnt
      then s.ptrQueuePush alloc node = (-1, s)
      else (s.ptrQueuePush alloc node).1 = 0 := by
  unfold ptrQueuePush
  split
  · rfl
  · cases node.buf with
    | none => rfl
    | some src => rfl

theorem length_ptrQueuePush (s : QueueMem η)
    (h : s.nodes.length ≤ ptrQueueBufCnt) (alloc : Allocator)
    (node : NodeMem η) :
    (s.ptrQueuePush alloc node).2.nodes.length ≤ ptrQueueBufCnt := by
  unfold ptrQueuePush
  split
  · exact h
  · cases node.buf with
    | none =>
        simp only [List.length_append, List.length_singleton]
        omega
    | some src =>
        simp only [List.length_append, List.length_singleton]
        omega

theorem ptrQueuePop_refines (h : s.Represents p) (header : η) (len : Nat)
    (buf : Option Nat) :
    Option.Rel
      (fun value popped => popped.2.Represents value.2 ∧
        popped.1.header = value.1.header ∧
        ∀ data, value.1.buf = some data → ∃ id, buf = some id ∧
          popped.1.len = data.length ∧
          popped.2.memory.read (.own id) popped.1.len = data)
      (SanbaoProt.ptrQueuePop p (buf.map fun _ => len))
      (s.ptrQueuePop (callerNode header len buf)) := by
  cases p with
  | nil =>
      have hnodes : s.nodes = [] := List.eq_nil_of_length_eq_zero h.length_eq
      rw [(s.ptrQueuePop_eq_none _).mpr hnodes]
      exact .none
  | cons node rest =>
      obtain ⟨out, s', hpop, hrest, hheader, -, hdata⟩ :=
        ptrQueuePop_cons h header len buf
      rw [hpop]
      obtain ⟨header', data | data⟩ := node
      · refine Option.Rel.some ⟨hrest, hheader, fun _ heq => ?_⟩
        cases heq
      · cases buf with
        | none =>
            refine Option.Rel.some ⟨hrest, hheader, fun _ heq => ?_⟩
            cases heq
        | some id =>
            obtain ⟨n, _, hnode, -, -⟩ :=
              List.forall₂_cons_right_iff.mp h.holds
            have hle : data.length ≤ ptrQueueBufSize := hnode.length_le rfl
            obtain ⟨hlen, hread⟩ := hdata data id rfl rfl
            refine Option.Rel.some ⟨hrest, hheader, fun _ heq => ?_⟩
            cases heq
            rw [List.take_of_length_le hle, List.length_take, Nat.min_comm len]
            exact ⟨id, rfl, hlen, hread⟩

end QueueMem

/-! ## Any sequence of calls -/

inductive QueueCall (η : Type*) where
  | push (alloc : Allocator) (header : η) (len : Nat) (buf : Option Nat)
  | pop (header : η) (len : Nat) (buf : Option Nat)
  /-- A caller writes to an array of his own. -/
  | change (id : Nat) (cells : Mem UInt8)

/-- The caller's node and buffer after a successful pop. -/
structure Popped (η : Type*) where
  header : η
  len : Nat
  capacity : Option Nat
  bytes : List UInt8

/-- What a call returns, and for a push the value of the caller's node. -/
inductive QueueReturn (η : Type*) where
  | push (ret : Int) (node : PtrQueueNode η)
  | pop (popped : Option (Popped η))

def QueueReturn.accepted : QueueReturn η → Option (PtrQueueNode η)
  | push ret node => if ret = 0 then some node else none
  | pop _ => none

def QueueReturn.popped : QueueReturn η → Option (Popped η)
  | push _ _ => none
  | pop popped => popped

def ptrQueue : Mealy (QueueMem η) (QueueCall η) (QueueReturn η) where
  step s
    | .push alloc header len buf =>
        let pushed := s.ptrQueuePush alloc (callerNode header len buf)
        (pushed.2, [.push pushed.1
          ⟨header, buf.map fun id => s.memory.read (.own id) len⟩])
    | .pop header len buf =>
        match s.ptrQueuePop (callerNode header len buf) with
        | none => (s, [.pop none])
        | some (out, s') =>
            (s', [.pop (some ⟨out.header, out.len, buf.map fun _ => len,
              buf.elim [] fun id => s'.memory.read (.own id) out.len⟩)])
    | .change id cells =>
        ({ s with memory := s.memory.write (.own id) cells }, [])

/-- The queue keeps no more of a node than its own buffers hold. -/
def stored (node : PtrQueueNode η) : PtrQueueNode η :=
  ⟨node.header, node.buf.map (List.take ptrQueueBufSize)⟩

/-- What a caller gets of a node that was pushed. -/
structure DeliveredAs (node : PtrQueueNode η) (out : Popped η) : Prop where
  header : out.header = node.header
  empty : node.buf = none → out.len = 0
  data : ∀ data capacity, node.buf = some data →
    out.capacity = some capacity →
      out.len = min data.length (min ptrQueueBufSize capacity) ∧
        out.bytes = data.take out.len

theorem deliveredAs_of_pop {node : PtrQueueNode η} {out : NodeMem η}
    {memory : Heap UInt8} {len : Nat} {buf : Option Nat}
    (hheader : out.header = (stored node).header)
    (hempty : (stored node).buf = none → out.len = 0)
    (hdata : ∀ data id, (stored node).buf = some data → buf = some id →
      out.len = min data.length len ∧
        memory.read (.own id) out.len = data.take len) :
    DeliveredAs node ⟨out.header, out.len, buf.map fun _ => len,
      buf.elim [] fun id => memory.read (.own id) out.len⟩ := by
  refine ⟨hheader, fun hnode => hempty (congrArg (Option.map _) hnode), ?_⟩
  intro data capacity hnode hcapacity
  obtain ⟨id, rfl, rfl⟩ := Option.map_eq_some_iff.mp hcapacity
  obtain ⟨hlen, hread⟩ := hdata (data.take ptrQueueBufSize) id
    (congrArg (Option.map _) hnode) rfl
  rw [List.length_take] at hlen
  have hmin : out.len = min data.length (min ptrQueueBufSize len) := by
    rw [hlen]
    omega
  refine ⟨hmin, ?_⟩
  calc memory.read (.own id) out.len
      = (data.take ptrQueueBufSize).take len := hread
    _ = data.take (min len ptrQueueBufSize) := List.take_take
    _ = data.take out.len := by
      rw [hmin, Nat.min_comm data.length, Nat.min_comm len]
      exact List.take_eq_take_min

theorem ptrQueue_isFifo :
    ptrQueue.Fifo (fun (s : QueueMem η) xs => s.Represents (xs.map stored))
      QueueReturn.accepted QueueReturn.popped DeliveredAs := by
  constructor
  intro s i xs h
  cases i with
  | push alloc header len buf =>
      have hrefines := QueueMem.ptrQueuePush_refines h alloc header len buf
      unfold SanbaoProt.ptrQueuePush at hrefines
      refine ⟨[], _, rfl, .nil, ?_⟩
      split_ifs at hrefines with hfull
      · obtain ⟨hret, hkept⟩ := hrefines
        simpa [ptrQueue, QueueReturn.accepted, hret] using hkept
      · obtain ⟨hret, hkept⟩ := hrefines
        simpa [ptrQueue, QueueReturn.accepted, hret, stored] using hkept
  | pop header len buf =>
      cases xs with
      | nil =>
          have hnodes : s.nodes = [] := List.eq_nil_of_length_eq_zero h.length_eq
          have hnone := (s.ptrQueuePop_eq_none
            (callerNode header len buf)).mpr hnodes
          refine ⟨[], [], ?_, ?_, ?_⟩
          · simp [ptrQueue, hnone, QueueReturn.accepted]
          · simp [ptrQueue, hnone, QueueReturn.popped]
          · simpa [ptrQueue, hnone] using h
      | cons node xs =>
          obtain ⟨out, s', hpop, hrest, hheader, hempty, hdata⟩ :=
            QueueMem.ptrQueuePop_cons h header len buf
          refine ⟨[node], xs, ?_, ?_, ?_⟩
          · simp [ptrQueue, hpop, QueueReturn.accepted]
          · simp only [ptrQueue, hpop]
            exact .cons (deliveredAs_of_pop hheader hempty hdata) .nil
          · simpa [ptrQueue, hpop] using hrest
  | change id cells =>
      refine ⟨[], xs, ?_, .nil, h.write_own id cells⟩
      exact List.append_nil xs

theorem length_ptrQueue_step {s : QueueMem η}
    (h : s.nodes.length ≤ ptrQueueBufCnt) (i : QueueCall η) :
    (ptrQueue.step s i).1.nodes.length ≤ ptrQueueBufCnt := by
  cases i with
  | push alloc header len buf => exact s.length_ptrQueuePush h alloc _
  | pop header len buf =>
      simp only [ptrQueue]
      cases hpop : s.ptrQueuePop (callerNode header len buf) with
      | none => exact h
      | some popped =>
          have hshorter := QueueMem.length_ptrQueuePop hpop
          simp only
          omega
  | change id cells => exact h

/-- The queue of a run from the empty one: it never holds more than it may, a
push is refused exactly when it is full, and what the pops deliver are, in
their order, the nodes that were pushed, as they were at that time. -/
theorem ptrQueue_fifo (memory : Heap UInt8) (calls : List (QueueCall η)) :
    ptrQueue.Always (fun s => s.nodes.length ≤ ptrQueueBufCnt ∧
        (∀ alloc node, if s.nodes.length = ptrQueueBufCnt
          then s.ptrQueuePush alloc node = (-1, s)
          else (s.ptrQueuePush alloc node).1 = 0) ∧
        ∀ out, s.ptrQueuePop out = none ↔ s.nodes = []) ⟨memory, []⟩ calls ∧
      ∃ popped waiting,
        (ptrQueue.outputs ⟨memory, []⟩ calls).filterMap
            QueueReturn.accepted = popped ++ waiting ∧
          List.Forall₂ DeliveredAs popped
            ((ptrQueue.outputs ⟨memory, []⟩ calls).filterMap
              QueueReturn.popped) ∧
          (ptrQueue.final ⟨memory, []⟩ calls).nodes.length =
            waiting.length := by
  constructor
  · refine fun before after hcalls => ⟨?_, fun alloc node => ?_, fun out => ?_⟩
    · have hbounded : ptrQueue.Always
          (fun s : QueueMem η => s.nodes.length ≤ ptrQueueBufCnt)
          ⟨memory, []⟩ calls := by
        refine Mealy.always_of_step ?_ ?_ calls
        · intro _ i h
          exact length_ptrQueue_step h i
        · exact Nat.zero_le ptrQueueBufCnt
      exact hbounded before after hcalls
    · exact QueueMem.ptrQueuePush_full _ alloc node
    · exact QueueMem.ptrQueuePop_eq_none _ out
  · have hempty : QueueMem.Represents (⟨memory, []⟩ : QueueMem η)
        (List.map stored []) := QueueMem.represents_nil rfl
    obtain ⟨popped, waiting, htaken, hdelivered, hfinal⟩ :=
      ptrQueue_isFifo.run hempty calls
    refine ⟨popped, waiting, htaken, hdelivered, ?_⟩
    rw [hfinal.length_eq, List.length_map]

end SanbaoProt
