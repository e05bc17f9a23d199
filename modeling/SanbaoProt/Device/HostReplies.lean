import SanbaoProt.Device.HostStream
import SanbaoProt.Device.Replies

/-!
# The replies that the host receives

The stream of frames that the host decodes mixes replies with what the device
sends of its own accord.  A reply waits for no acknowledgement and so is never
repeated; taken out of the stream, the replies answer frames that the device
has received, one each and in the order of the requests.
-/

namespace SanbaoProt

open Library

def SendNode.isReply (node : SendNode) : Bool :=
  node.header.ackStatus == msgAckReady

/-- A decoded frame of a command of which the device is not the master. -/
def isReplyFrame (frame : List UInt8) : Bool :=
  !masterIsMe (headerCmd (Mem.ofList frame))

theorem isReply_sentNode (target : Target) (w : World) (cmd : UInt8)
    (payload : List UInt8) :
    (sentNode target w cmd payload).isReply = !masterIsMe cmd := by
  change (ackStatus cmd == msgAckReady) = _
  unfold ackStatus
  cases masterIsMe cmd <;> decide

theorem Carries.isReply {target : Target} {node : SendNode} {f : Frame}
    (h : Carries target node f) : isReplyFrame f.bytes = node.isReply := by
  obtain ⟨w, cmd, payload, rfl, rfl⟩ := h
  have hread : InBuffer (sentFrame target w cmd payload)
      (Mem.ofList (sentFrame target w cmd payload).bytes) :=
    Mem.read_ofList _
  rw [isReply_sentNode, isReplyFrame, hread.header.2.2]
  rfl

/-! ## The replies of a step -/

theorem replyNodes_of_silent {effects : List Effect}
    (h : sentNodes effects = []) : replyNodes effects = [] := by
  refine replyNodes_eq_nil fun e he => ?_
  cases e with
  | send cmd payload node =>
      have hmem : node ∈ sentNodes effects :=
        List.mem_filterMap.mpr ⟨_, he, rfl⟩
      rw [h] at hmem
      cases hmem
  | _ => rfl

theorem Sends.replies {target : Target} {w : World}
    {out : World × List Effect} (h : Sends target w out) :
    (sentNodes out.2).filter SendNode.isReply = replyNodes out.2 := by
  induction h with
  | none h heffects =>
      rw [heffects, replyNodes_of_silent heffects]
      rfl
  | send w cmd payload =>
      have hreply := isReply_sentNode target w cmd payload
      cases hmaster : masterIsMe cmd with
      | true => simp [replyNodes, Effect.replyNode, hreply, hmaster]
      | false => simp [replyNodes, Effect.replyNode, hreply, hmaster]
  | after _ _ hfirst hsecond =>
      rw [sentNodes_append, List.filter_append, hfirst, hsecond,
        ← replyNodes_append]

theorem sentFrame_answers {target : Target} {w : World} {msg : Mem UInt8}
    (hserial : w.send.recvSerialNum = headerSerialNum msg)
    (hcmd : masterIsMe (headerCmd msg) = false) (payload : List UInt8) :
    Answers target msg
      (sentFrame target w (headerCmd msg) payload).bytes := by
  let f := sentFrame target w (headerCmd msg) payload
  have hread : InBuffer f (Mem.ofList f.bytes) := Mem.read_ofList f.bytes
  obtain ⟨hnum, hdevice, hcode⟩ := hread.header
  refine ⟨sampleCalcSum_of_read hread, hcode, hnum.trans ?_, hdevice⟩
  simp [f, sentFrame, serialNum, hcmd, hserial]

/-- A node with the frame that it answers. -/
def Replies (target : Target) (r : Received) (node : SendNode) : Prop :=
  ∃ f, Carries target node f ∧ Answers target r.msg f.bytes

theorem device_replies (target : Target) (w : World) (r : Received) :
    let replies :=
      (sentNodes ((device target).step w r).2).filter SendNode.isReply
    replies = [] ∨ ∃ node, replies = [node] ∧ Replies target r node := by
  intro replies
  by_cases hfor : isForDevice target r.msg
  · have hreplies : replies = replyNodes ((device target).step w r).2 :=
      (device_sends target w hfor).replies
    have hreplying : Replying target (headerSerialNum r.msg)
        (headerCmd r.msg) ((device target).step w r).2 := by
      simp only [device, Handled.result_snd, sampleOnCmd, if_pos hfor]
      exact handleCmd_replying r.env rfl r.msg r.len
    rcases hreplying with hnone | ⟨hcmd, w', payload, hserial, -, hone⟩
    · exact .inl (hreplies.trans hnone)
    · exact .inr ⟨_, hreplies.trans hone, _, ⟨w', _, payload, rfl, rfl⟩,
        sentFrame_answers hserial hcmd payload⟩
  · left
    simp only [replies, device, sampleOnCmd, if_neg hfor]
    rfl

def ThreadEvent.received? : ThreadEvent → Option Received
  | .frame r => some r
  | _ => none

theorem queuedBy_replies (target : Target) (s : SenderState)
    (e : ThreadEvent) :
    ∃ answered : List (Received × SendNode),
      answered.map Prod.snd =
          (queuedBy target s e).filter SendNode.isReply ∧
        (answered.map Prod.fst).Sublist e.received?.toList ∧
        ∀ a ∈ answered, Replies target a.1 a.2 := by
  have hnone : (queuedBy target s e).filter SendNode.isReply = [] →
      ∃ answered : List (Received × SendNode),
        answered.map Prod.snd =
            (queuedBy target s e).filter SendNode.isReply ∧
          (answered.map Prod.fst).Sublist e.received?.toList ∧
          ∀ a ∈ answered, Replies target a.1 a.2 := by
    intro hempty
    exact ⟨[], hempty.symm, List.nil_sublist _,
      fun _ ha => absurd ha List.not_mem_nil⟩
  cases e with
  | frame r =>
      rcases device_replies target s.world r with
        hempty | ⟨node, hone, hreplies⟩
      · exact hnone hempty
      · refine ⟨[(r, node)], hone.symm, List.Sublist.refl _, fun a ha => ?_⟩
        rw [List.mem_singleton.mp ha]
        exact hreplies
  | alert payload => exact hnone rfl
  | workStatus => exact hnone rfl
  | _ => exact hnone rfl

theorem wireThreads_replies (target : Target) (s : SenderState)
    (events : List ThreadEvent) :
    ∃ answered : List (Received × SendNode),
      answered.map Prod.snd =
          (((wireThreads target).outputs s events).filterMap
            WireEvent.queued?).filter SendNode.isReply ∧
        (answered.map Prod.fst).Sublist
          (events.filterMap ThreadEvent.received?) ∧
        ∀ a ∈ answered, Replies target a.1 a.2 := by
  induction events generalizing s with
  | nil =>
      exact ⟨[], rfl, List.Sublist.slnil,
        fun _ ha => absurd ha List.not_mem_nil⟩
  | cons e events ih =>
      obtain ⟨now, hnodes, hframes, hanswers⟩ := queuedBy_replies target s e
      obtain ⟨later, hlater, hrest, hothers⟩ :=
        ih ((wireThreads target).step s e).1
      refine ⟨now ++ later, ?_, ?_, ?_⟩
      · rw [Mealy.outputs_cons, List.filterMap_append, List.filter_append,
          (wireThreads_events target s e).1, List.map_append, hnodes, hlater]
      · have hsplit : (e :: events).filterMap ThreadEvent.received? =
            e.received?.toList ++
              events.filterMap ThreadEvent.received? := by
          cases he : e.received? with
          | none => rw [List.filterMap_cons_none he]; rfl
          | some r => rw [List.filterMap_cons_some he]; rfl
        rw [hsplit, List.map_append]
        exact hframes.append hrest
      · intro a ha
        rcases List.mem_append.mp ha with hnow | hlast
        · exact hanswers a hnow
        · exact hothers a hlast

/-! ## The replies in the stream -/

/-- A reply stands in the stream once. -/
theorem replies_once {sent : List (SendNode × Nat)}
    {frame : SendNode → Frame}
    (hframe : ∀ g ∈ sent, isReplyFrame (frame g.1).bytes = g.1.isReply)
    (hcounts : ∀ g ∈ sent, g.1.isReply = true → g.2 = 1) :
    ((transmissions sent).map fun node => (frame node).bytes).filter
        isReplyFrame =
      ((sent.map Prod.fst).filter SendNode.isReply).map
        fun node => (frame node).bytes := by
  induction sent with
  | nil => rfl
  | cons g sent ih =>
      have hrest := ih (fun g' hg' => hframe g' (List.mem_cons_of_mem g hg'))
        fun g' hg' => hcounts g' (List.mem_cons_of_mem g hg')
      have hhead := hframe g List.mem_cons_self
      have hsplit : transmissions (g :: sent) =
          List.replicate g.2 g.1 ++ transmissions sent := rfl
      rw [hsplit, List.map_append, List.filter_append, hrest, List.map_cons]
      cases hreply : g.1.isReply with
      | true =>
          rw [hreply] at hhead
          rw [hcounts g List.mem_cons_self hreply,
            List.filter_cons_of_pos hreply]
          simp [hhead]
      | false =>
          rw [hreply] at hhead
          rw [List.filter_cons_of_neg (Bool.eq_false_iff.mp hreply)]
          simp [hhead]

theorem Carries.bytes_unique {target : Target} {node : SendNode}
    {f f' : Frame} (h : Carries target node f) (h' : Carries target node f')
    (hfits : f.FitsSlot) : f'.bytes = f.bytes := by
  have hwire : f'.wire = f.wire :=
    Option.some.inj (h'.buf.symm.trans h.buf)
  have hfits' : f'.FitsSlot := by
    rw [Frame.FitsSlot, hwire]
    exact hfits
  have hdelivered := hfits'.receiver.2
  rw [hwire, hfits.receiver.2] at hdelivered
  exact (List.cons.inj hdelivered).1.symm

/-- Of the frames that the host decodes, those of commands of which the device
is not the master answer frames that the device has received, in their order
and no frame twice. -/
theorem host_replies (target : Target) (access : ParaFileAccess)
    (files : ParaFiles) (events : List ThreadEvent)
    (hfits : ∀ node ∈ ((wireThreads target).outputs
      (startedThreads target access files) events).filterMap
        WireEvent.queued?, (node.buf.getD []).length ≤ ptrQueueBufSize)
    {written pieces : List (List UInt8)}
    (hwritten : List.Forall₂ WritesNode (((wireThreads target).outputs
      (startedThreads target access files) events).filterMap
        WireEvent.transmitted?) written)
    (hpieces : pieces.flatten = written.flatten) :
    ∃ answered : List Received,
      answered.Sublist (events.filterMap ThreadEvent.received?) ∧
        List.Forall₂ (fun r frame => Answers target r.msg frame) answered
          ((deliveries (receiver.runPieces .idle pieces).2).filter
            isReplyFrame) := by
  obtain ⟨sent, frame, hsub, hcounts, htransmitted, hframe⟩ :=
    wireThreads_sent target access files events hfits
  rw [htransmitted] at hwritten
  have hmem := fun node (hnode : node ∈ transmissions sent) =>
    hframe node (hsub.subset (mem_of_mem_transmissions hnode))
  have hreplies : ∀ g ∈ sent,
      isReplyFrame (frame g.1).bytes = g.1.isReply := fun g hg =>
    (hframe g.1 (hsub.subset (List.mem_map_of_mem hg))).1.isReply
  have honce : ∀ g ∈ sent, g.1.isReply = true → g.2 = 1 :=
    fun g hg hreply => (hcounts g hg).2.2 (eq_of_beq hreply)
  obtain ⟨queued, hqueued, hreceived, hanswers⟩ :=
    wireThreads_replies target (startedThreads target access files) events
  -- the replies that were transmitted, each with the frame it answers
  have hfiltered := hsub.filter SendNode.isReply
  rw [← hqueued] at hfiltered
  obtain ⟨answered, hanswered, hnodes⟩ := List.sublist_map_iff.mp hfiltered
  refine ⟨answered.map Prod.fst, (hanswered.map Prod.fst).trans hreceived, ?_⟩
  rw [transmissions_decoded (fun node hnode => (hmem node hnode).1.buf)
    (fun node hnode => (hmem node hnode).2) hwritten hpieces,
    replies_once hreplies honce, hnodes, List.map_map,
    List.forall₂_map_left_iff, List.forall₂_map_right_iff, List.forall₂_same]
  intro a ha
  obtain ⟨f, hcarries, hanswer⟩ := hanswers a (hanswered.subset ha)
  have hsent : a.2 ∈ (sent.map Prod.fst).filter SendNode.isReply := by
    rw [hnodes]
    exact List.mem_map_of_mem ha
  obtain ⟨hown, hfit⟩ := hframe a.2 (hsub.subset (List.mem_of_mem_filter hsent))
  rw [hown.bytes_unique hcarries hfit] at hanswer
  exact hanswer

/-- One call of `write` takes the whole frame. -/
theorem writesNode_whole (node : SendNode) :
    WritesNode node (node.buf.getD []) := by
  let bytes := node.buf.getD []
  let handle : SndHandle := ⟨3, Mem.ofList bytes, bytes.length⟩
  have hframe : handle.frame = bytes := Mem.read_ofList bytes
  have hread : (Mem.ofList bytes).read 0 bytes.length = bytes := hframe
  refine ⟨handle, .other, [.took bytes.length], 0, hframe, ?_, le_rfl⟩
  change tcpSndLoop (Mem.ofList bytes) bytes.length 0 .other _ =
    (bytes, some 0)
  by_cases hempty : bytes.length = 0
  · have hnil : bytes = [] := List.length_eq_zero_iff.mp hempty
    simp [tcpSndLoop, hnil]
  · have hlen : 0 < bytes.length := Nat.pos_of_ne_zero hempty
    simp [tcpSndLoop, hlen, hempty, hread]

def queryEvents : List ThreadEvent :=
  [.frame (.ofFrame Env.plain broadcastQuery), .workStatus, .pop, .pop, .test,
    .timeout]

/-- The reply to the query comes before the work status, which comes twice. -/
theorem host_replies_query :
    let sent := ((wireThreads adasTcp).outputs
      (startedThreads adasTcp ⟨true, some 50⟩ ⟨none, none⟩)
      queryEvents).filterMap WireEvent.transmitted?
    ∃ answered : List Received,
      answered.Sublist [.ofFrame Env.plain broadcastQuery] ∧
        List.Forall₂ (fun r frame => Answers adasTcp r.msg frame) answered
          ((deliveries (receiver.runPieces .idle
            (sent.map fun node => node.buf.getD [])).2).filter
              isReplyFrame) := by
  intro sent
  have hfits : ∀ node ∈ ((wireThreads adasTcp).outputs
      (startedThreads adasTcp ⟨true, some 50⟩ ⟨none, none⟩)
      queryEvents).filterMap WireEvent.queued?,
        (node.buf.getD []).length ≤ ptrQueueBufSize := by
    decide +kernel
  have hwritten : List.Forall₂ WritesNode sent
      (sent.map fun node => node.buf.getD []) := by
    rw [List.forall₂_map_right_iff, List.forall₂_same]
    exact fun node _ => writesNode_whole node
  exact host_replies adasTcp ⟨true, some 50⟩ ⟨none, none⟩ queryEvents hfits
    hwritten rfl

example : (((wireThreads adasTcp).outputs
    (startedThreads adasTcp ⟨true, some 50⟩ ⟨none, none⟩)
    queryEvents).filterMap WireEvent.transmitted?).map
      SendNode.isReply = [true, false, false] := by
  decide +kernel

end SanbaoProt
