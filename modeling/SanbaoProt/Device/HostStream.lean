import SanbaoProt.Device.Queued
import SanbaoProt.Device.SendHooks
import SanbaoProt.Device.Threads
import SanbaoProt.Framing.Resync

/-!
# What the host receives

A message goes through the send queue, through `send_package`, which transmits
it up to three times, and through `tcp_snd`, which may have to write it in
parts.  What comes out at the other end, cut into whatever pieces, is a stream
of complete frames: those of messages that were queued, in the order in which
they were queued, each repeated without another in between.
-/

namespace SanbaoProt

open Library

/-! ## The frames of the queue -/

/-- The node carries the wire form of this frame. -/
def Carries (target : Target) (node : SendNode) (f : Frame) : Prop :=
  ∃ w cmd payload, node = sentNode target w cmd payload ∧
    f = sentFrame target w cmd payload

theorem Carries.buf {target : Target} {node : SendNode} {f : Frame}
    (h : Carries target node f) : node.buf = some f.wire := by
  obtain ⟨w, cmd, payload, rfl, rfl⟩ := h
  rfl

theorem Carries.ackStatus {target : Target} {node : SendNode} {f : Frame}
    (h : Carries target node f) :
    node.header.ackStatus = ackStatus f.cmd := by
  obtain ⟨w, cmd, payload, rfl, rfl⟩ := h
  rfl

theorem Sends.carries {target : Target} {w : World}
    {out : World × List Effect} (h : Sends target w out) :
    ∀ node ∈ sentNodes out.2, ∃ f, Carries target node f := by
  induction h with
  | none h heffects =>
      intro node hnode
      rw [heffects] at hnode
      cases hnode
  | send w cmd payload =>
      intro node hnode
      rw [List.mem_singleton.mp hnode]
      exact ⟨_, w, cmd, payload, rfl, rfl⟩
  | after _ _ hfirst hsecond =>
      intro node hnode
      rw [sentNodes_append] at hnode
      rcases List.mem_append.mp hnode with hnow | hlater
      · exact hfirst node hnow
      · exact hsecond node hlater

theorem device_carries (target : Target) (w : World) (r : Received) :
    ∀ node ∈ sentNodes ((device target).step w r).2,
      ∃ f, Carries target node f := by
  by_cases hfor : isForDevice target r.msg
  · exact (device_sends target w hfor).carries
  · intro node hnode
    simp only [device, sampleOnCmd, if_neg hfor] at hnode
    cases hnode

/-! ## Frames one after the other -/

/-- The wire form fits a slot of the send queue. -/
def Frame.FitsSlot (f : Frame) : Prop := f.wire.length ≤ ptrQueueBufSize

theorem Frame.FitsSlot.length {f : Frame} (h : f.FitsSlot) (pending : Bool) :
    let received := (slip.absorbAll ([sampleProtMagic], pending)
      (slip.stuff f.middle)).1
    6 ≤ received.length ∧ received.length < slipDataBufSize := by
  intro received
  have hslot : f.wire.length ≤ slipDataBufSize := h
  have hmost := slip.length_absorbAll_le ([sampleProtMagic], pending)
    (slip.stuff f.middle)
  have hhead := mangledHead_length f.checksum
  have hlength : received.length =
      (if pending then (mangledHead f.checksum).length else 2) +
        (2 + (f.payload.length + 4)) := by
    simp only [received, absorbAll_wire_body, List.length_append,
      length_toBE, Frame.length_summed]
    cases pending <;> rfl
  constructor
  · split_ifs at hlength hhead <;> omega
  · simp only [Frame.wire, List.length_cons, List.length_append,
      List.length_nil] at hslot hmost
    simp only [received]
    omega

theorem Frame.FitsSlot.wire {f : Frame} (h : f.FitsSlot) {r : Receiver}
    (hrestart : r.restarts = true) :
    receiver.final r f.wire = .idle ∧
      deliveries (receiver.outputs r f.wire) =
        [(if r.pending then mangledHead f.checksum
          else [sampleProtMagic, f.checksum]) ++
          (toBE 2 f.serialNum.toNat ++ f.summed) ++ [sampleProtMagic]] := by
  obtain ⟨hlong, hroom⟩ := h.length r.pending
  obtain ⟨hfinal, -, hdelivered⟩ := receiver_frame
    (Frame.magic_not_mem_stuff f.middle) hlong hroom
  have hhead := receiver_head hrestart
  constructor
  · rw [Frame.wire, Mealy.final_cons, hhead, hfinal]
  · rw [Frame.wire, Mealy.outputs_cons, hhead]
    simpa [absorbAll_wire_body] using hdelivered

/-- From a receiver in step the frame is delivered. -/
theorem Frame.FitsSlot.delivered {f : Frame} (h : f.FitsSlot) {r : Receiver}
    (hin : r.InStep) :
    deliveries (receiver.outputs r f.wire) = [f.bytes] := by
  obtain ⟨hrestart, hpending⟩ := hin.restarts
  rw [(h.wire hrestart).2, hpending]
  simp [Frame.bytes, Frame.middle]

/-- Whatever came before, the receiver is in step after the frame. -/
theorem Frame.FitsSlot.inStep {f : Frame} (h : f.FitsSlot) (r : Receiver) :
    (receiver.final r f.wire).InStep := by
  cases hrestart : r.restarts with
  | true => exact .inl (h.wire hrestart).1
  | false =>
      have hbody := receiver_filler (Frame.magic_not_mem_stuff f.middle)
      have hidle : receiver.final .idle (slip.stuff f.middle) = .idle := by
        rw [Mealy.final, hbody]
      right
      rw [Frame.wire, Mealy.final_cons, receiver_notHead hrestart,
        Mealy.final_append, hidle]
      rfl

theorem Frame.FitsSlot.receiver {f : Frame} (h : f.FitsSlot) :
    receiver.final .idle f.wire = .idle ∧
      deliveries (receiver.outputs .idle f.wire) = [f.bytes] :=
  ⟨(h.wire (r := .idle) rfl).1, h.delivered (.inl rfl)⟩

theorem receiver_frames {frames : List Frame}
    (h : ∀ f ∈ frames, f.FitsSlot) :
    receiver.final .idle (frames.flatMap Frame.wire) = .idle ∧
      deliveries (receiver.outputs .idle (frames.flatMap Frame.wire)) =
        frames.map Frame.bytes := by
  induction frames with
  | nil => exact ⟨rfl, rfl⟩
  | cons f frames ih =>
      obtain ⟨hfinal, hdelivered⟩ := (h f List.mem_cons_self).receiver
      obtain ⟨hlater, hrest⟩ :=
        ih fun f' hf' => h f' (List.mem_cons_of_mem f hf')
      rw [List.flatMap_cons, Mealy.final_append, Mealy.outputs_append,
        deliveries_append, hfinal, hdelivered, hrest]
      exact ⟨hlater, rfl⟩

/-! ## What is queued and transmitted -/

inductive WireEvent where
  /-- A node is handed to the queue, which may refuse it. -/
  | queued (node : SendNode)
  /-- A node that has been popped is transmitted. -/
  | first (node : SendNode)
  | again (node : SendNode)

def queuedBy (target : Target) (s : SenderState) :
    ThreadEvent → List SendNode
  | .frame r => sentNodes ((device target).step s.world r).2
  | .alert payload => [sentNode target s.world sampleCmdWarningReport payload]
  | .workStatus =>
      [sentNode target s.world sampleCmdUploadStatus moduleStatus]
  | _ => []

def transmittedNodes (events : List SenderEvent) : List SendNode :=
  events.filterMap fun
    | .transmit node => some node
    | _ => none

def ThreadEvent.transmission : ThreadEvent → SendNode → WireEvent
  | .timeout => .again
  | _ => .first

/-- The threads, with what they queue and transmit. -/
def wireThreads (target : Target) :
    Mealy SenderState ThreadEvent WireEvent where
  step s e :=
    let out := (threads target).step s e
    (out.1, (queuedBy target s e).map .queued ++
      (transmittedNodes out.2).map e.transmission)

def WireEvent.queued? : WireEvent → Option SendNode
  | queued node => some node
  | _ => none

def WireEvent.transmitted? : WireEvent → Option SendNode
  | queued _ => none
  | first node => some node
  | again node => some node

/-- What the queue keeps of a node. -/
def cutNode (node : SendNode) : SendNode :=
  ⟨node.header, node.buf.map (List.take ptrQueueBufSize)⟩

theorem cutNode_cutNode (node : SendNode) :
    cutNode (cutNode node) = cutNode node := by
  obtain ⟨header, buf⟩ := node
  cases buf with
  | none => rfl
  | some data => simp [cutNode, List.take_take]

theorem cutNode_eq {node : SendNode}
    (h : (node.buf.getD []).length ≤ ptrQueueBufSize) :
    cutNode node = node := by
  obtain ⟨header, buf⟩ := node
  cases buf with
  | none => rfl
  | some data =>
      exact congrArg (fun data => (⟨header, some data⟩ : SendNode))
        (List.take_of_length_le h)

theorem pushAll_cut (queue nodes : List SendNode) :
    ∃ kept, pushAll queue nodes = queue ++ kept ∧
      kept.Sublist (nodes.map cutNode) := by
  induction nodes generalizing queue with
  | nil => exact ⟨[], (List.append_nil queue).symm, List.Sublist.slnil⟩
  | cons node nodes ih =>
      obtain ⟨kept, hkept, hsub⟩ := ih (ptrQueuePush queue node).2
      have hpush : pushAll queue (node :: nodes) =
          pushAll (ptrQueuePush queue node).2 nodes := rfl
      rw [hpush, hkept]
      unfold ptrQueuePush
      split_ifs
      · exact ⟨kept, rfl, hsub.cons _⟩
      · refine ⟨cutNode node :: kept, ?_, hsub.cons_cons _⟩
        rw [List.append_assoc]
        rfl

/-- Each transmitted message with the number of its transmissions, beside the
nodes that have been handed to the queue. -/
structure Transcript (s : SenderState) (queued : List SendNode)
    (sent : List (SendNode × Nat)) : Prop where
  order : (sent.map Prod.fst ++ s.world.send.queue).Sublist
    (queued.map cutNode)
  counts : ∀ g ∈ sent, 1 ≤ g.2 ∧ g.2 ≤ 3 ∧
    (g.1.header.ackStatus = msgAckReady → g.2 = 1)
  current : ∀ node i, s.phase.message = some (node, i) →
    node.header.ackStatus ≠ msgAckReady ∧
      ∃ earlier, sent = earlier ++ [(node, i + 1)]

def transmissions (sent : List (SendNode × Nat)) : List SendNode :=
  sent.flatMap fun g => List.replicate g.2 g.1

namespace Transcript

variable {s : SenderState} {queued : List SendNode}
  {sent : List (SendNode × Nat)}

theorem queue_cut (h : Transcript s queued sent) :
    ∀ node ∈ s.world.send.queue, cutNode node = node := by
  intro node hnode
  have hmem := h.order.subset (List.mem_append_right _ hnode)
  obtain ⟨node', -, rfl⟩ := List.mem_map.mp hmem
  exact cutNode_cutNode node'

/-- Nodes are pushed; the sender stays where it is. -/
theorem push (h : Transcript s queued sent) {w : World}
    {nodes : List SendNode}
    (hqueue : w.send.queue = pushAll s.world.send.queue nodes) :
    Transcript ⟨w, s.phase⟩ (queued ++ nodes) sent := by
  obtain ⟨kept, hkept, hsub⟩ := pushAll_cut s.world.send.queue nodes
  refine ⟨?_, h.counts, h.current⟩
  change (_ ++ w.send.queue).Sublist _
  rw [hqueue, hkept, ← List.append_assoc, List.map_append]
  exact h.order.append hsub

/-- The queue is left alone or cleared. -/
theorem keep (h : Transcript s queued sent) {w : World} {phase : SendPhase}
    (hqueue : w.send.queue.Sublist s.world.send.queue)
    (hphase : ∀ m, phase.message = some m → s.phase.message = some m) :
    Transcript ⟨w, phase⟩ queued sent :=
  ⟨((List.Sublist.refl _).append hqueue).trans h.order, h.counts,
    fun node i hmessage => h.current node i (hphase (node, i) hmessage)⟩

end Transcript

theorem Transcript.pop {w : World} {queued : List SendNode}
    {sent : List (SendNode × Nat)}
    (h : Transcript ⟨w, .idle⟩ queued sent) :
    ∃ sent', Transcript (popMessage w).1 queued sent' ∧
      transmissions sent' =
        transmissions sent ++ transmittedNodes (popMessage w).2 := by
  have hcut := h.queue_cut
  unfold popMessage
  simp only
  cases hqueue : w.send.queue with
  | nil =>
      refine ⟨sent, ?_, (List.append_nil _).symm⟩
      exact h.keep (by simp [hqueue]) fun m hm => hm
  | cons node queue =>
      have horder := h.order
      change (_ ++ w.send.queue).Sublist _ at horder
      rw [hqueue] at horder
      have hpop : ptrQueuePop (node :: queue) (some ptrQueueBufSize) =
          some (node, queue) := by
        have hnode : cutNode node = node := hcut node (by simp [hqueue])
        rw [ptrQueuePop_cons]
        exact congrArg (fun n => some (n, queue)) hnode
      rw [hpop]
      simp only
      have hsent : ((sent ++ [(node, 1)]).map Prod.fst ++ queue).Sublist
          (queued.map cutNode) := by
        rw [List.map_append, List.append_assoc]
        exact horder
      have hcounts : ∀ g ∈ sent ++ [(node, 1)], 1 ≤ g.2 ∧ g.2 ≤ 3 ∧
          (g.1.header.ackStatus = msgAckReady → g.2 = 1) := by
        intro g hg
        rcases List.mem_append.mp hg with hbefore | hnow
        · exact h.counts g hbefore
        · rw [List.mem_singleton.mp hnow]
          exact ⟨Nat.le_refl 1, Nat.le_add_left 1 2, fun _ => rfl⟩
      have htransmissions : transmissions (sent ++ [(node, 1)]) =
          transmissions sent ++ [node] := by
        simp [transmissions]
      split_ifs with hready hwaiting
      · refine ⟨sent ++ [(node, 1)], ⟨hsent, hcounts, ?_⟩,
          htransmissions⟩
        intro node' i hmessage
        cases hmessage
      · refine ⟨sent ++ [(node, 1)], ⟨hsent, hcounts, ?_⟩,
          htransmissions⟩
        intro node' i hmessage
        cases hmessage
        exact ⟨hready, sent, rfl⟩
      · refine ⟨sent, ?_, (List.append_nil _).symm⟩
        exact h.keep (by simp [hqueue]) fun m hm => hm

theorem Transcript.timeout {w : World} {node : SendNode} {i : Nat}
    {queued : List SendNode} {sent : List (SendNode × Nat)}
    (h : Transcript ⟨w, .waiting node i⟩ queued sent) :
    ∃ sent', Transcript (timeoutMessage w node i).1 queued sent' ∧
      transmissions sent' =
        transmissions sent ++
          transmittedNodes (timeoutMessage w node i).2 := by
  have hidle : ∀ m, SendPhase.idle.message = some m →
      (SendPhase.waiting node i).message = some m := by
    intro m hm
    cases hm
  unfold timeoutMessage
  split_ifs with hgiveUp hmore
  · refine ⟨sent, ?_, (List.append_nil _).symm⟩
    exact h.keep (List.Sublist.refl _) hidle
  · obtain ⟨hwaiting, earlier, rfl⟩ := h.current node i rfl
    refine ⟨earlier ++ [(node, i + 2)], ⟨?_, ?_, ?_⟩, ?_⟩
    · have horder := h.order
      rw [List.map_append] at horder ⊢
      exact horder
    · intro g hg
      rcases List.mem_append.mp hg with hbefore | hnow
      · exact h.counts g (List.mem_append_left _ hbefore)
      · rw [List.mem_singleton.mp hnow]
        refine ⟨Nat.le_add_left 1 (i + 1), ?_,
          fun hready => absurd hready hwaiting⟩
        change i + 2 ≤ 3
        omega
    · intro node' i' hmessage
      cases hmessage
      exact ⟨hwaiting, earlier, rfl⟩
    · have hlast : List.replicate (i + 2) node =
          List.replicate (i + 1) node ++ [node] :=
        List.replicate_succ'
      simp only [transmissions, List.flatMap_append, List.flatMap_singleton,
        hlast, List.append_assoc]
      rfl
  · refine ⟨sent, ?_, (List.append_nil _).symm⟩
    exact h.keep (List.Sublist.refl _) hidle

theorem Transcript.turn {s : SenderState} {queued : List SendNode}
    {sent : List (SendNode × Nat)} (h : Transcript s queued sent)
    (e : ThreadEvent) :
    ∃ sent', Transcript (senderTurn s e).1 queued sent' ∧
      transmissions sent' =
        transmissions sent ++ transmittedNodes (senderTurn s e).2 := by
  have hturn := senderTurn_turns s e
  generalize senderTurn s e = out at hturn ⊢
  cases hturn with
  | skip => exact ⟨sent, h, (List.append_nil _).symm⟩
  | pop w hsem => exact h.pop
  | timeout w node i => exact h.timeout
  | offline w hsem =>
      exact ⟨sent, h.keep (List.Sublist.refl _) fun m hm => hm,
        (List.append_nil _).symm⟩
  | wake w node i hack =>
      refine ⟨sent, h.keep (List.Sublist.refl _) ?_,
        (List.append_nil _).symm⟩
      intro m hm
      cases hm
  | test w node i =>
      unfold testRecvAck
      split_ifs
      · refine ⟨sent, h.keep (List.Sublist.refl _) ?_,
          (List.append_nil _).symm⟩
        intro m hm
        cases hm
      · exact ⟨sent, h.keep (List.Sublist.refl _) fun m hm => hm,
          (List.append_nil _).symm⟩

/-- What the threads do beside the sender queues nodes or clears the queue. -/
theorem Transcript.step {s : SenderState} {queued : List SendNode}
    {sent : List (SendNode × Nat)} (h : Transcript s queued sent)
    (target : Target) (e : ThreadEvent) :
    let out := (threads target).step s e
    ∃ sent', Transcript out.1 (queued ++ queuedBy target s e) sent' ∧
      transmissions sent' = transmissions sent ++ transmittedNodes out.2 := by
  have hquiet : transmissions sent = transmissions sent ++ [] :=
    (List.append_nil _).symm
  have hturn : ∀ e, queuedBy target s e = [] →
      (threads target).step s e = senderTurn s e →
        ∃ sent', Transcript ((threads target).step s e).1
            (queued ++ queuedBy target s e) sent' ∧
          transmissions sent' = transmissions sent ++
            transmittedNodes ((threads target).step s e).2 := by
    intro e hnone hstep
    rw [hnone, hstep, List.append_nil]
    exact h.turn e
  cases e with
  | frame r =>
      exact ⟨sent, h.push (device_pushes target s.world r).queue, hquiet⟩
  | alert payload => exact ⟨sent, h.push rfl, hquiet⟩
  | workStatus => exact ⟨sent, h.push rfl, hquiet⟩
  | reset =>
      refine ⟨sent, ?_, hquiet⟩
      change Transcript ⟨doStatReset s.world, s.phase⟩ (queued ++ []) sent
      rw [List.append_nil]
      exact h.keep (List.nil_sublist _) fun m hm => hm
  | others changed =>
      refine ⟨sent, ?_, hquiet⟩
      change Transcript ⟨othersWorld s.world changed, s.phase⟩ (queued ++ [])
        sent
      rw [List.append_nil]
      exact h.keep (List.Sublist.refl _) fun m hm => hm
  | pop => exact hturn .pop rfl rfl
  | offline => exact hturn .offline rfl rfl
  | test => exact hturn .test rfl rfl
  | wake => exact hturn .wake rfl rfl
  | timeout => exact hturn .timeout rfl rfl

theorem wireThreads_events (target : Target) (s : SenderState)
    (e : ThreadEvent) :
    let out := (wireThreads target).step s e
    out.2.filterMap WireEvent.queued? = queuedBy target s e ∧
      out.2.filterMap WireEvent.transmitted? =
        transmittedNodes ((threads target).step s e).2 := by
  intro out
  have htransmission : ∀ node : SendNode,
      (e.transmission node).queued? = none ∧
        (e.transmission node).transmitted? = some node := by
    intro node
    cases e <;> exact ⟨rfl, rfl⟩
  have hqueued : ∀ nodes : List SendNode,
      (nodes.map WireEvent.queued).filterMap WireEvent.queued? = nodes ∧
        (nodes.map WireEvent.queued).filterMap WireEvent.transmitted? = [] := by
    intro nodes
    induction nodes with
    | nil => exact ⟨rfl, rfl⟩
    | cons node nodes ih =>
        simp [WireEvent.queued?, WireEvent.transmitted?, ih.1]
  have hsent : ∀ nodes : List SendNode,
      (nodes.map e.transmission).filterMap WireEvent.queued? = [] ∧
        (nodes.map e.transmission).filterMap WireEvent.transmitted? =
          nodes := by
    intro nodes
    induction nodes with
    | nil => exact ⟨rfl, rfl⟩
    | cons node nodes ih =>
        rw [List.map_cons, List.filterMap_cons, List.filterMap_cons,
          (htransmission node).1, (htransmission node).2]
        exact ⟨ih.1, congrArg (node :: ·) ih.2⟩
  have hout : out.2 = (queuedBy target s e).map .queued ++
      (transmittedNodes ((threads target).step s e).2).map e.transmission := rfl
  rw [hout]
  constructor
  · rw [List.filterMap_append, (hqueued _).1, (hsent _).1, List.append_nil]
  · rw [List.filterMap_append, (hqueued _).2, (hsent _).2, List.nil_append]

theorem Transcript.run {s : SenderState} {queued : List SendNode}
    {sent : List (SendNode × Nat)} (h : Transcript s queued sent)
    (target : Target) (events : List ThreadEvent) :
    let outputs := (wireThreads target).outputs s events
    ∃ sent', Transcript ((wireThreads target).final s events)
        (queued ++ outputs.filterMap WireEvent.queued?) sent' ∧
      transmissions sent' =
        transmissions sent ++ outputs.filterMap WireEvent.transmitted? := by
  induction events generalizing s queued sent with
  | nil =>
      refine ⟨sent, ?_, (List.append_nil _).symm⟩
      change Transcript s (queued ++ []) sent
      rw [List.append_nil]
      exact h
  | cons e events ih =>
      obtain ⟨hqueued, htransmitted⟩ := wireThreads_events target s e
      obtain ⟨sent', hnext, hsent⟩ := h.step target e
      obtain ⟨sent'', hfinal, hlater⟩ := ih hnext
      refine ⟨sent'', ?_, ?_⟩
      · rw [Mealy.outputs_cons, List.filterMap_append, hqueued,
          ← List.append_assoc]
        exact hfinal
      · rw [hlater, hsent, Mealy.outputs_cons, List.filterMap_append,
          htransmitted, List.append_assoc]
        rfl

theorem queuedBy_carries (target : Target) (s : SenderState)
    (e : ThreadEvent) :
    ∀ node ∈ queuedBy target s e, ∃ f, Carries target node f := by
  intro node hnode
  cases e with
  | frame r => exact device_carries target s.world r node hnode
  | alert payload =>
      rw [List.mem_singleton.mp hnode]
      exact ⟨_, s.world, _, _, rfl, rfl⟩
  | workStatus =>
      rw [List.mem_singleton.mp hnode]
      exact ⟨_, s.world, _, _, rfl, rfl⟩
  | _ => cases hnode

theorem wireThreads_carries (target : Target) (s : SenderState)
    (events : List ThreadEvent) :
    ∀ node ∈ ((wireThreads target).outputs s events).filterMap
      WireEvent.queued?, ∃ f, Carries target node f := by
  induction events generalizing s with
  | nil =>
      intro node hnode
      cases hnode
  | cons e events ih =>
      intro node hnode
      rw [Mealy.outputs_cons, List.filterMap_append,
        (wireThreads_events target s e).1] at hnode
      rcases List.mem_append.mp hnode with hnow | hlater
      · exact queuedBy_carries target s e node hnow
      · exact ih _ node hlater

/-! ## What comes out at the other end -/

/-- `tcp_snd` has written the frame of a node, in whatever parts. -/
def WritesNode (node : SendNode) (bytes : List UInt8) : Prop :=
  ∃ handle errno outcomes ret, handle.frame = node.buf.getD [] ∧
    tcpSnd handle errno outcomes = (bytes, some ret) ∧ 0 ≤ ret

theorem WritesNode.bytes {node : SendNode} {bytes : List UInt8}
    (h : WritesNode node bytes) : bytes = node.buf.getD [] := by
  obtain ⟨handle, errno, outcomes, ret, hframe, hsnd, hret⟩ := h
  have htransmits := (tcpSnd_transmits handle errno outcomes).2
  rw [hsnd, hframe] at htransmits
  exact htransmits ret rfl hret

theorem written_wires {nodes : List SendNode} {g : SendNode → Frame}
    (hg : ∀ node ∈ nodes, node.buf = some (g node).wire)
    {written : List (List UInt8)}
    (hwritten : List.Forall₂ WritesNode nodes written) :
    written.flatten = (nodes.map g).flatMap Frame.wire := by
  induction hwritten with
  | nil => rfl
  | @cons node bytes nodes written hfirst _ ih =>
      rw [List.flatten_cons, List.map_cons, List.flatMap_cons, hfirst.bytes,
        hg node List.mem_cons_self,
        ih fun node' hnode' => hg node' (List.mem_cons_of_mem node hnode')]
      rfl

theorem transmissions_decoded {nodes : List SendNode}
    {frame : SendNode → Frame}
    (hbuf : ∀ node ∈ nodes, node.buf = some (frame node).wire)
    (hslots : ∀ node ∈ nodes, (frame node).FitsSlot)
    {written pieces : List (List UInt8)}
    (hwritten : List.Forall₂ WritesNode nodes written)
    (hpieces : pieces.flatten = written.flatten) :
    deliveries (receiver.runPieces .idle pieces).2 =
      nodes.map fun node => (frame node).bytes := by
  have hframes : ∀ f ∈ nodes.map frame, f.FitsSlot := by
    intro f hf
    obtain ⟨node, hnode, rfl⟩ := List.mem_map.mp hf
    exact hslots node hnode
  rw [Mealy.runPieces_eq, hpieces, written_wires hbuf hwritten]
  refine (receiver_frames hframes).2.trans ?_
  rw [List.map_map]
  rfl

theorem startedThreads_transcript (target : Target) (access : ParaFileAccess)
    (files : ParaFiles) :
    Transcript (startedThreads target access files) [] [] where
  order := by
    have hqueue : (startedThreads target access files).world.send.queue =
        [] := (startedWorld_quiet target access files).2
    rw [hqueue]
    exact List.Sublist.slnil
  counts g hg := absurd hg List.not_mem_nil
  current node i hmessage := by cases hmessage

/-- What has been transmitted of the nodes that were handed to the queue, and
the frames that they carry. -/
theorem wireThreads_sent (target : Target) (access : ParaFileAccess)
    (files : ParaFiles) (events : List ThreadEvent)
    (hfits : ∀ node ∈ ((wireThreads target).outputs
      (startedThreads target access files) events).filterMap
        WireEvent.queued?, (node.buf.getD []).length ≤ ptrQueueBufSize) :
    let outputs := (wireThreads target).outputs
      (startedThreads target access files) events
    let queued := outputs.filterMap WireEvent.queued?
    ∃ (sent : List (SendNode × Nat)) (frame : SendNode → Frame),
      (sent.map Prod.fst).Sublist queued ∧
        (∀ g ∈ sent, 1 ≤ g.2 ∧ g.2 ≤ 3 ∧
          (g.1.header.ackStatus = msgAckReady → g.2 = 1)) ∧
        outputs.filterMap WireEvent.transmitted? = transmissions sent ∧
        ∀ node ∈ queued,
          Carries target node (frame node) ∧ (frame node).FitsSlot := by
  intro outputs queued
  obtain ⟨sent, htranscript, htransmitted⟩ :=
    (startedThreads_transcript target access files).run target events
  change Transcript _ queued sent at htranscript
  have hcarries : ∀ node, ∃ f, node ∈ queued → Carries target node f := by
    intro node
    by_cases hnode : node ∈ queued
    · obtain ⟨f, hf⟩ := wireThreads_carries target _ events node hnode
      exact ⟨f, fun _ => hf⟩
    · exact ⟨⟨0, 0, 0, 0, []⟩, fun h => absurd h hnode⟩
  choose frame hframe using hcarries
  have hwhole : queued.map cutNode = queued :=
    (List.map_congr_left fun node hnode => cutNode_eq (hfits node hnode)).trans
      (List.map_id _)
  have horder := htranscript.order
  rw [hwhole] at horder
  refine ⟨sent, frame, (List.sublist_append_left _ _).trans horder,
    htranscript.counts, ?_, fun node hnode => ⟨hframe node hnode, ?_⟩⟩
  · rw [htransmitted]
    rfl
  · have hfit := hfits node hnode
    rw [(hframe node hnode).buf] at hfit
    exact hfit

theorem mem_of_mem_transmissions {sent : List (SendNode × Nat)}
    {node : SendNode} (h : node ∈ transmissions sent) :
    node ∈ sent.map Prod.fst := by
  obtain ⟨g, hg, hrep⟩ := List.mem_flatMap.mp h
  rw [List.eq_of_mem_replicate hrep]
  exact List.mem_map_of_mem hg

/-- The frames that the host decodes are those of messages that were queued, in
the order in which they were queued; a message that is not acknowledged is
repeated at once, at most three times in all. -/
theorem host_receives (target : Target) (access : ParaFileAccess)
    (files : ParaFiles) (events : List ThreadEvent)
    (hfits : ∀ node ∈ ((wireThreads target).outputs
      (startedThreads target access files) events).filterMap
        WireEvent.queued?, (node.buf.getD []).length ≤ ptrQueueBufSize)
    {written pieces : List (List UInt8)}
    (hwritten : List.Forall₂ WritesNode (((wireThreads target).outputs
      (startedThreads target access files) events).filterMap
        WireEvent.transmitted?) written)
    (hpieces : pieces.flatten = written.flatten) :
    ∃ frames, ∃ sent : List (Frame × Nat),
      List.Forall₂ (Carries target) (((wireThreads target).outputs
        (startedThreads target access files) events).filterMap
          WireEvent.queued?) frames ∧
        (sent.map Prod.fst).Sublist frames ∧
        (∀ g ∈ sent, 1 ≤ g.2 ∧ g.2 ≤ 3 ∧
          (masterIsMe g.1.cmd = false → g.2 = 1)) ∧
        deliveries (receiver.runPieces .idle pieces).2 =
          sent.flatMap fun g => List.replicate g.2 g.1.bytes := by
  let queued := ((wireThreads target).outputs
    (startedThreads target access files) events).filterMap WireEvent.queued?
  obtain ⟨sent, frame, hsub, hcounts, htransmitted, hframe⟩ :=
    wireThreads_sent target access files events hfits
  rw [htransmitted] at hwritten
  have hmem := fun node (hnode : node ∈ transmissions sent) =>
    hframe node (hsub.subset (mem_of_mem_transmissions hnode))
  let frames := sent.map fun g => (frame g.1, g.2)
  refine ⟨queued.map frame, frames, ?_, ?_, ?_, ?_⟩
  · rw [List.forall₂_map_right_iff, List.forall₂_same]
    exact fun node hnode => (hframe node hnode).1
  · have hmap := hsub.map frame
    rw [List.map_map] at hmap ⊢
    exact hmap
  · intro g hg
    obtain ⟨g', hg', rfl⟩ := List.mem_map.mp hg
    obtain ⟨hone, hthree, hready⟩ := hcounts g' hg'
    refine ⟨hone, hthree, fun hmaster => hready ?_⟩
    have hcarries := (hframe g'.1 (hsub.subset (List.mem_map_of_mem hg'))).1
    rw [hcarries.ackStatus, ackStatus, if_neg]
    simp [hmaster]
  · rw [transmissions_decoded (fun node hnode => (hmem node hnode).1.buf)
      (fun node hnode => (hmem node hnode).2) hwritten hpieces]
    simp only [frames, transmissions, List.map_flatMap, List.flatMap_map,
      List.map_replicate]

/-- The work status, once more after a timeout; `write` takes five bytes, has
to be tried again and takes the rest. -/
theorem host_receives_workStatus :
    let node := sentNode adasTcp (freshWorld adasTcp) sampleCmdUploadStatus
      moduleStatus
    let bytes := node.buf.getD []
    ∃ sent : List (Frame × Nat), (∀ g ∈ sent, 1 ≤ g.2 ∧ g.2 ≤ 3) ∧
      deliveries (receiver.runPieces .idle
        [bytes.take 7, bytes.drop 7 ++ bytes]).2 =
          sent.flatMap fun g => List.replicate g.2 g.1.bytes := by
  intro node bytes
  let outputs := (wireThreads adasTcp).outputs
    (startedThreads adasTcp ⟨true, some 50⟩ ⟨none, none⟩)
    [.workStatus, .pop, .test, .timeout]
  have hqueued : outputs.filterMap WireEvent.queued? = [node] := by
    decide +kernel
  have htransmitted : outputs.filterMap WireEvent.transmitted? =
      [node, node] := by
    decide +kernel
  have hwrites : WritesNode node bytes := by
    refine ⟨⟨3, fun i => bytes.getD i 0, bytes.length⟩, .other,
      [.took 5, .failed .eagain, .took 100], 0, ?_, ?_, by decide⟩
    · decide +kernel
    · decide +kernel
  have hfits : ∀ n ∈ outputs.filterMap WireEvent.queued?,
      (n.buf.getD []).length ≤ ptrQueueBufSize := by
    rw [hqueued]
    decide +kernel
  have hwritten : List.Forall₂ WritesNode
      (outputs.filterMap WireEvent.transmitted?) [bytes, bytes] := by
    rw [htransmitted]
    exact .cons hwrites (.cons hwrites .nil)
  have hpieces : [bytes.take 7, bytes.drop 7 ++ bytes].flatten =
      [bytes, bytes].flatten := by
    simp [← List.append_assoc]
  obtain ⟨frames, sent, -, -, hcounts, hdelivered⟩ :=
    host_receives adasTcp ⟨true, some 50⟩ ⟨none, none⟩
      [.workStatus, .pop, .test, .timeout] hfits hwritten hpieces
  exact ⟨sent, fun g hg => ⟨(hcounts g hg).1, (hcounts g hg).2.1⟩,
    hdelivered⟩

/-! ## Frames that are cut on the way -/

/-- The nodes that have arrived whole, the transmission before them too, where
`bytes` is what has arrived of a node. -/
def arrivedWhole (before : Bool) :
    List (SendNode × List UInt8) → List SendNode
  | [] => []
  | (node, bytes) :: rest =>
      let whole := decide (bytes = node.buf.getD [])
      (if before && whole then [node] else []) ++ arrivedWhole whole rest

theorem receiver_arrivedWhole {target : Target}
    {arrived : List (SendNode × List UInt8)}
    (h : ∀ a ∈ arrived, ∃ f, Carries target a.1 f ∧ f.FitsSlot)
    {before : Bool} {r : Receiver} (hin : before = true → r.InStep) :
    ∃ frames, List.Forall₂ (Carries target) (arrivedWhole before arrived)
        frames ∧
      (frames.map Frame.bytes).Sublist
        (deliveries (receiver.outputs r (arrived.flatMap Prod.snd))) := by
  induction arrived generalizing before r with
  | nil => exact ⟨[], .nil, List.nil_sublist _⟩
  | cons a arrived ih =>
      obtain ⟨node, bytes⟩ := a
      obtain ⟨f, hcarries, hfits⟩ := h _ List.mem_cons_self
      have hrest := fun a ha => h a (List.mem_cons_of_mem _ ha)
      have hwire : node.buf.getD [] = f.wire := by
        rw [hcarries.buf]
        rfl
      simp only [arrivedWhole, List.flatMap_cons, Mealy.outputs_append,
        deliveries_append, hwire]
      by_cases hwhole : bytes = f.wire
      · subst hwhole
        obtain ⟨frames, hframes, hsub⟩ :=
          ih hrest fun _ : true = true => hfits.inStep r
        cases before with
        | true =>
            refine ⟨f :: frames, ?_, ?_⟩
            · simpa using ⟨hcarries, hframes⟩
            · rw [hfits.delivered (hin rfl)]
              exact hsub.cons_cons _
        | false =>
            exact ⟨frames, by simpa using hframes,
              hsub.trans (List.sublist_append_right _ _)⟩
      · obtain ⟨frames, hframes, hsub⟩ :=
          @ih hrest false (receiver.final r bytes)
            fun hfalse => absurd hfalse Bool.false_ne_true
        exact ⟨frames, by simpa [hwhole] using hframes,
          hsub.trans (List.sublist_append_right _ _)⟩

/-- Whatever is lost of single transmissions, the host decodes each frame that
arrives whole behind a whole one, in the order of the transmissions. -/
theorem host_recovers (target : Target) (access : ParaFileAccess)
    (files : ParaFiles) (events : List ThreadEvent)
    (hfits : ∀ node ∈ ((wireThreads target).outputs
      (startedThreads target access files) events).filterMap
        WireEvent.queued?, (node.buf.getD []).length ≤ ptrQueueBufSize)
    {arrived : List (SendNode × List UInt8)}
    (harrived : arrived.map Prod.fst = ((wireThreads target).outputs
      (startedThreads target access files) events).filterMap
        WireEvent.transmitted?)
    {pieces : List (List UInt8)}
    (hpieces : pieces.flatten = arrived.flatMap Prod.snd) :
    ∃ frames, List.Forall₂ (Carries target) (arrivedWhole true arrived)
        frames ∧
      (frames.map Frame.bytes).Sublist
        (deliveries (receiver.runPieces .idle pieces).2) := by
  obtain ⟨sent, frame, hsub, -, htransmitted, hframe⟩ :=
    wireThreads_sent target access files events hfits
  have hcarries : ∀ a ∈ arrived, ∃ f, Carries target a.1 f ∧ f.FitsSlot := by
    intro a ha
    have hmem : a.1 ∈ arrived.map Prod.fst := List.mem_map_of_mem ha
    rw [harrived, htransmitted] at hmem
    exact ⟨_, hframe a.1 (hsub.subset (mem_of_mem_transmissions hmem))⟩
  rw [Mealy.runPieces_eq, hpieces]
  exact receiver_arrivedWhole hcarries fun _ => .inl rfl

/-- The work status over a serial line that takes five bytes of it at first;
the second transmission restores the framing and the third is decoded. -/
theorem host_recovers_workStatus :
    let node := sentNode adasTcp (freshWorld adasTcp) sampleCmdUploadStatus
      moduleStatus
    let bytes := node.buf.getD []
    let written := (uartSnd ⟨3, fun i => bytes.getD i 0, bytes.length⟩
      [.took 5, .failed .eagain]).1
    ∃ f, Carries adasTcp node f ∧
      f.bytes ∈ deliveries (receiver.runPieces .idle
        [written ++ bytes, bytes]).2 := by
  intro node bytes written
  let arrived := [(node, written), (node, bytes), (node, bytes)]
  let outputs := (wireThreads adasTcp).outputs
    (startedThreads adasTcp ⟨true, some 50⟩ ⟨none, none⟩)
    [.workStatus, .pop, .test, .timeout, .test, .timeout]
  have hqueued : outputs.filterMap WireEvent.queued? = [node] := by
    decide +kernel
  have htransmitted : outputs.filterMap WireEvent.transmitted? =
      [node, node, node] := by
    decide +kernel
  have hfits : ∀ n ∈ outputs.filterMap WireEvent.queued?,
      (n.buf.getD []).length ≤ ptrQueueBufSize := by
    rw [hqueued]
    decide +kernel
  have hpieces : [written ++ bytes, bytes].flatten =
      arrived.flatMap Prod.snd := by
    simp [arrived]
  obtain ⟨frames, hframes, hsub⟩ :=
    @host_recovers adasTcp ⟨true, some 50⟩ ⟨none, none⟩
      [.workStatus, .pop, .test, .timeout, .test, .timeout] hfits arrived
      htransmitted.symm _ hpieces
  have hwhole : arrivedWhole true arrived = [node] := by
    decide +kernel
  rw [hwhole] at hframes
  obtain ⟨f, rest, hcarries, -, rfl⟩ := List.forall₂_cons_left_iff.mp hframes
  exact ⟨f, hcarries, hsub.subset List.mem_cons_self⟩

end SanbaoProt
