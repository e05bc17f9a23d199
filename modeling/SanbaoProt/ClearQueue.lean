import SanbaoProt.QueueMemory

/-!
# Clearing the queue

`clear_queue` of `process.cpp` pops nodes until there are none left.  The node
it passes gets its null pointer once, before the loop, and `ptr_queue_pop`
leaves in it the pointer of the buffer that it freed.
-/

namespace SanbaoProt

open Library

/-- A call of `ptr_queue_pop`: the node passed to it and the queue it finds. -/
structure PopCall (η : Type*) where
  out : NodeMem η
  queue : QueueMem η

variable {η : Type*}

/-- Where the call copies the data of the node that it pops. -/
def PopCall.target (call : PopCall η) : Option Ptr :=
  match call.queue.nodes with
  | [] => none
  | node :: _ => node.buf.bind fun _ => call.out.buf

theorem PopCall.buf_of_target (call : PopCall η) {p : Ptr}
    (h : call.target = some p) : call.out.buf = some p := by
  unfold target at h
  split at h
  · cases h
  · exact (Option.bind_eq_some_iff.mp h).choose_spec.2

def clearQueueLoop (s : QueueMem η) (header : NodeMem η) :
    List (PopCall η) × QueueMem η :=
  match h : s.ptrQueuePop header with
  | none => ([⟨header, s⟩], s)
  | some (header', s') =>
      have : s'.nodes.length < s.nodes.length := by
        rw [QueueMem.length_ptrQueuePop h]
        exact Nat.lt_succ_self _
      let cleared := clearQueueLoop s' header'
      (⟨header, s⟩ :: cleared.1, cleared.2)
termination_by s.nodes.length

/-- The fields of `header` other than `buf` and `len` are uninitialised. -/
def clearQueue (s : QueueMem η) (header : η) :
    List (PopCall η) × QueueMem η :=
  clearQueueLoop s ⟨header, ptrQueueBufSize, none⟩

/-- Every call that copies data copies it to a buffer in use. -/
def CopiesToLive (calls : List (PopCall η)) : Prop :=
  ∀ call ∈ calls, ∀ id, call.target = some (.heap id) →
    id ∈ call.queue.memory.live

/-- No data is asked for, none is copied to a freed buffer, and the queue is
empty in the end. -/
structure ClearsCleanly (s : QueueMem η) (header : η) : Prop where
  headerOnly : ∀ call ∈ (clearQueue s header).1, call.out.buf = none
  noStale : CopiesToLive (clearQueue s header).1
  empty : (clearQueue s header).2.nodes = []

/-! ## The pointer that the loop carries -/

/-- The caller keeps his pointer if he has one and the node has data. -/
theorem QueueMem.ptrQueuePop_buf {s s' : QueueMem η} {out out' : NodeMem η}
    (h : s.ptrQueuePop out = some (out', s')) :
    ∃ node, s.nodes = node :: s'.nodes ∧
      out'.buf = node.buf.map out.buf.getD ∧
      s'.memory.live = (node.buf.elim s.memory s.memory.free).live := by
  obtain ⟨memory, nodes⟩ := s
  cases nodes with
  | nil => cases h
  | cons node rest =>
      refine ⟨node, ?_⟩
      unfold ptrQueuePop at h
      simp only at h
      split at h
      case h_1 hbuf =>
        cases h
        simp [hbuf]
      case h_2 data hbuf hout =>
        cases h
        simp [hbuf, hout]
      case h_3 data ptr hbuf hout =>
        cases h
        refine ⟨rfl, by simp [hbuf, hout], ?_⟩
        rw [hbuf]
        exact Heap.live_free_congr data rfl

theorem clearQueueLoop_of_pop {s s' : QueueMem η} {header header' : NodeMem η}
    (h : s.ptrQueuePop header = some (header', s')) :
    clearQueueLoop s header = (⟨header, s⟩ :: (clearQueueLoop s' header').1,
      (clearQueueLoop s' header').2) := by
  rw [clearQueueLoop]
  split
  case h_1 hnone =>
    rw [hnone] at h
    cases h
  case h_2 hsome =>
    rw [hsome] at h
    cases h
    rfl

theorem mem_clearQueueLoop (s : QueueMem η) (header : NodeMem η) :
    ⟨header, s⟩ ∈ (clearQueueLoop s header).1 := by
  rw [clearQueueLoop]
  split
  · exact List.mem_cons_self
  · exact List.mem_cons_self

theorem clearQueueLoop_empty (s : QueueMem η) (header : NodeMem η) :
    (clearQueueLoop s header).2.nodes = [] := by
  fun_induction clearQueueLoop s header with
  | case1 s header h => exact (s.ptrQueuePop_eq_none header).mp h
  | case2 s header header' s' h hlt cleared ih => exact ih

/-- As a queue of values it is empty afterwards, whatever it held. -/
theorem clearQueue_represents (s : QueueMem η) (header : η) :
    (clearQueue s header).2.Represents [] :=
  QueueMem.represents_nil (clearQueueLoop_empty s _)

theorem clearQueueLoop_headerOnly_iff (s : QueueMem η) (header : NodeMem η) :
    (∀ call ∈ (clearQueueLoop s header).1, call.out.buf = none) ↔
      header.buf = none ∧ ∀ node ∈ s.nodes, node.buf = none := by
  fun_induction clearQueueLoop s header with
  | case1 s header h =>
      rw [(s.ptrQueuePop_eq_none header).mp h]
      simp
  | case2 s header header' s' h hlt cleared ih =>
      obtain ⟨node, hnodes, hbuf, -⟩ := QueueMem.ptrQueuePop_buf h
      rw [List.forall_mem_cons, ih, hnodes, List.forall_mem_cons]
      refine and_congr_right fun hheader => and_congr_left fun _ => ?_
      simp [hbuf]

/-- The queue is cleared as intended exactly when no node in it has data. -/
theorem clearQueue_clean_iff (s : QueueMem η) (header : η) :
    ClearsCleanly s header ↔ ∀ node ∈ s.nodes, node.buf = none := by
  have hiff := clearQueueLoop_headerOnly_iff s ⟨header, ptrQueueBufSize, none⟩
  constructor
  · intro h
    exact (hiff.mp h.headerOnly).2
  · intro h
    have hnull := hiff.mpr ⟨rfl, h⟩
    refine ⟨hnull, fun call hcall id htarget => ?_, clearQueueLoop_empty _ _⟩
    have hbuf := call.buf_of_target htarget
    rw [hnull call hcall] at hbuf
    cases hbuf

/-- Two messages of 14 bytes wait for the sender. -/
def twoMessages : QueueMem Unit :=
  ptrQueue.final ⟨⟨fun _ _ => 0, ∅⟩, []⟩
    [.push .bump () 14 (some 0), .push .bump () 14 (some 0)]

/-- The data of the second message goes to the freed buffer of the first. -/
theorem clearQueue_twoMessages :
    ¬ ClearsCleanly twoMessages () ∧
      ∃ call ∈ (clearQueue twoMessages ()).1,
        call.target = some (.heap 0) ∧ 0 ∉ call.queue.memory.live := by
  have hpop : twoMessages.ptrQueuePop ⟨(), ptrQueueBufSize, none⟩ =
      some (⟨(), 14, some (.heap 0)⟩,
        ⟨twoMessages.memory.free (.heap 0), [⟨(), 14, some (.heap 1)⟩]⟩) := rfl
  let stale : PopCall Unit := ⟨⟨(), 14, some (.heap 0)⟩,
    ⟨twoMessages.memory.free (.heap 0), [⟨(), 14, some (.heap 1)⟩]⟩⟩
  have hmem : stale ∈ (clearQueue twoMessages ()).1 := by
    rw [clearQueue, clearQueueLoop_of_pop hpop]
    exact List.mem_cons_of_mem _ (mem_clearQueueLoop _ _)
  have hdead := twoMessages.memory.not_mem_live_free 0
  refine ⟨fun h => ?_, stale, hmem, rfl, hdead⟩
  exact hdead (h.noStale stale hmem 0 rfl)

/-! ## When a freed buffer is written -/

theorem copiesToLive_cons (call : PopCall η) (calls : List (PopCall η)) :
    CopiesToLive (call :: calls) ↔
      (∀ id, call.target = some (.heap id) → id ∈ call.queue.memory.live) ∧
        CopiesToLive calls := List.forall_mem_cons

/-- If the caller or the node has no pointer, that of the node goes on and
nothing is copied. -/
theorem carried_of_one_null {b d : Option Ptr} (h : b = none ∨ d = none) :
    d.map b.getD = d ∧ (d.bind fun _ => b) = none := by
  rcases h with rfl | rfl
  · cases d with
    | none => exact ⟨rfl, rfl⟩
    | some d => exact ⟨rfl, rfl⟩
  · exact ⟨rfl, rfl⟩

theorem clearQueueLoop_copiesToLive_iff (s : QueueMem η) (header : NodeMem η)
    (hheap : ∀ node ∈ s.nodes, ∀ b, node.buf = some b → ∃ id, b = .heap id)
    (hstale : ∀ b, header.buf = some b →
      ∃ id, b = .heap id ∧ id ∉ s.memory.live) :
    CopiesToLive (clearQueueLoop s header).1 ↔
      List.IsChain (fun b b' : Option Ptr => b = none ∨ b' = none)
        (header.buf :: s.nodes.map NodeMem.buf) := by
  -- the pointer that is carried on is always null or that of a freed buffer
  fun_induction clearQueueLoop s header with
  | case1 s header h =>
      have hnodes := (s.ptrQueuePop_eq_none header).mp h
      simp [hnodes, CopiesToLive, PopCall.target]
  | case2 s header header' s' h hlt cleared ih =>
      obtain ⟨node, hnodes, hbuf, hlive⟩ := QueueMem.ptrQueuePop_buf h
      rw [hnodes] at hheap ⊢
      rw [List.map_cons, List.isChain_cons_cons, copiesToLive_cons]
      have htarget : PopCall.target ⟨header, s⟩ =
          node.buf.bind fun _ => header.buf := by
        rw [PopCall.target, hnodes]
      have hheap' := fun n hn => hheap n (List.mem_cons_of_mem _ hn)
      by_cases hone : header.buf = none ∨ node.buf = none
      · obtain ⟨hsame, hnone⟩ := carried_of_one_null hone
        rw [← hbuf] at hsame
        rw [← htarget] at hnone
        have hstale' : ∀ b, header'.buf = some b →
            ∃ id, b = .heap id ∧ id ∉ s'.memory.live := by
          intro b hb
          rw [hsame] at hb
          obtain ⟨id, rfl⟩ := hheap node List.mem_cons_self b hb
          refine ⟨id, rfl, ?_⟩
          rw [hlive, hb]
          exact Heap.not_mem_live_free _ id
        rw [ih hheap' hstale', hsame, hnone]
        refine and_congr_left fun _ => ?_
        exact ⟨fun _ => hone, fun _ id heq => nomatch heq⟩
      · obtain ⟨hhead, hnode⟩ := not_or.mp hone
        obtain ⟨b, hhead⟩ := Option.ne_none_iff_exists'.mp hhead
        obtain ⟨d, hnode⟩ := Option.ne_none_iff_exists'.mp hnode
        obtain ⟨id, rfl, hdead⟩ := hstale b hhead
        constructor
        · rintro ⟨hcopy, -⟩
          refine absurd (hcopy id ?_) hdead
          rw [htarget, hnode, hhead]
          rfl
        · rintro ⟨hapart, -⟩
          exact absurd hapart hone

/-- A freed buffer is written exactly when two nodes with data follow each
other. -/
theorem clearQueue_copiesToLive_iff {s : QueueMem η}
    {p : List (PtrQueueNode η)} (h : s.Represents p) (header : η) :
    CopiesToLive (clearQueue s header).1 ↔
      s.nodes.IsChain fun node node' => node.buf = none ∨ node'.buf = none := by
  have hheap : ∀ node ∈ s.nodes, ∀ b, node.buf = some b →
      ∃ id, b = .heap id := by
    intro node hnode b hb
    obtain ⟨id, -, hid⟩ := h.live b (List.mem_filterMap.mpr ⟨node, hnode, hb⟩)
    exact ⟨id, hid⟩
  have hiff := clearQueueLoop_copiesToLive_iff s
    ⟨header, ptrQueueBufSize, none⟩ hheap nofun
  rw [List.isChain_cons, List.isChain_map] at hiff
  refine hiff.trans ⟨fun hchain => hchain.2, fun hchain => ⟨?_, hchain⟩⟩
  exact fun _ _ => .inl rfl

end SanbaoProt
