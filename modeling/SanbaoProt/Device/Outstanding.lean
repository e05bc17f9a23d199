import SanbaoProt.Device.Acknowledged
import SanbaoProt.Device.Queued
import SanbaoProt.Device.SharedTransfer

/-!
# The outstanding packet

While a transfer is active the host can only acknowledge the packet that was
sent last, so that packet must be in the send queue or in transmission; else
the transfer is stuck.  `threads_notStuck_iff` says for every step when it keeps
the packet: a packet that is sent needs room in the queue, and the message that
an acknowledgement stops must not be the packet.
-/

namespace SanbaoProt

open Library

/-! ## Packets in the queue -/

def mediaFrame (target : Target) (t : Transfer) (serialNum : UInt16)
    (data : List UInt8) : Frame where
  serialNum := serialNum
  vendorId := vendorId
  deviceId := target.build.deviceId
  cmd := sampleCmdUploadMmData
  payload := nextPayload t data

/-- The node of the packet that `t` counts next. -/
def PacketNode (target : Target) (t : Transfer) (node : SendNode) : Prop :=
  ∃ serialNum index data, data ≠ [] ∧ data.length ≤ imageSizePerPacket ∧
    node = ⟨⟨sampleCmdUploadMmData, index, msgAckWaiting, 0⟩,
      some (mediaFrame target t serialNum data).wire⟩

theorem length_mediaFrame_le {target : Target} {t : Transfer}
    {serialNum : UInt16} {data : List UInt8}
    (h : data.length ≤ imageSizePerPacket) :
    (mediaFrame target t serialNum data).wire.length ≤ ptrQueueBufSize := by
  have hstuff := slip.length_stuff_le
    (mediaFrame target t serialNum data).middle
  have hpayload : (mediaFrame target t serialNum data).payload.length =
      data.length + 9 := by
    simp [mediaFrame, nextPayload, mmPacketHeader]
    omega
  rw [Frame.length_middle, hpayload] at hstuff
  simp only [Frame.wire, List.length_cons, List.length_append, List.length_nil,
    ptrQueueBufSize, imageSizePerPacket] at *
  omega

/-- The copies that the queue makes of a packet are complete. -/
theorem PacketNode.take {target : Target} {t : Transfer} {node : SendNode}
    (h : PacketNode target t node) :
    node.buf.map (List.take ptrQueueBufSize) = node.buf := by
  obtain ⟨serialNum, index, data, -, hlength, rfl⟩ := h
  exact congrArg some (List.take_of_length_le (length_mediaFrame_le hlength))

theorem sentNode_packet (target : Target) (w : World) {t : Transfer}
    {data : List UInt8} (hdata : data ≠ [])
    (hlength : data.length ≤ imageSizePerPacket) :
    PacketNode target t
      (sentNode target w sampleCmdUploadMmData (nextPayload t data)) :=
  ⟨_, _, data, hdata, hlength, rfl⟩

def QueuedPacket (target : Target) (t : Transfer) (queue : List SendNode) :
    Prop :=
  ∃ node ∈ queue, PacketNode target t node

theorem QueuedPacket.extend {target : Target} {t : Transfer}
    {queue queue' : List SendNode} (h : QueuedPacket target t queue)
    (hextends : queue <+: queue') : QueuedPacket target t queue' := by
  obtain ⟨node, hmem, hnode⟩ := h
  exact ⟨node, hextends.subset hmem, hnode⟩

theorem queuedPacket_push_iff {target : Target} {t : Transfer}
    {queue : List SendNode} {node : SendNode} (h : PacketNode target t node) :
    QueuedPacket target t (ptrQueuePush queue node).2 ↔
      queue.length ≠ ptrQueueBufCnt ∨ QueuedPacket target t queue := by
  constructor
  · rintro ⟨n, hmem, hn⟩
    rcases mem_ptrQueuePush_iff.mp hmem with hold | ⟨hroom, -⟩
    · exact .inr ⟨n, hold, hn⟩
    · exact .inl hroom
  · rintro (hroom | hqueued)
    · refine ⟨node, mem_ptrQueuePush_iff.mpr (.inr ⟨hroom, ?_⟩), h⟩
      rw [h.take]
    · exact hqueued.extend (prefix_ptrQueuePush queue node)

theorem queuedPacket_pushOther_iff {target : Target} {t : Transfer}
    {queue : List SendNode} {node : SendNode}
    (h : node.header.cmd ≠ sampleCmdUploadMmData) :
    QueuedPacket target t (ptrQueuePush queue node).2 ↔
      QueuedPacket target t queue := by
  refine ⟨?_, fun hqueued => hqueued.extend (prefix_ptrQueuePush _ _)⟩
  rintro ⟨n, hmem, hn⟩
  rcases mem_ptrQueuePush_iff.mp hmem with hold | ⟨-, heq⟩
  · exact ⟨n, hold, hn⟩
  · obtain ⟨serialNum, index, data, -, -, hpacket⟩ := hn
    rw [hpacket] at heq
    exact absurd (congrArg (fun n => n.header.cmd) heq).symm h

/-! ## The packet in hand -/

def InTransmission (target : Target) (t : Transfer) (phase : SendPhase) :
    Prop :=
  ∃ node i, phase.message = some (node, i) ∧ PacketNode target t node

def InHand (target : Target) (t : Transfer) (s : SenderState) : Prop :=
  QueuedPacket target t s.world.send.queue ∨ InTransmission target t s.phase

/-- The transfer with its counter at the packet that was sent last. -/
def Transfer.last (t : Transfer) : Transfer :=
  { t with packetIndex := t.packetIndex - 1 }

@[simp] theorem Transfer.last_advance (t : Transfer) : t.advance.last = t := by
  simp [Transfer.advance, Transfer.last]

/-- The packet that was sent last is queued or in transmission while the
transfer is active. -/
def NotStuck (target : Target) (s : SenderState) : Prop :=
  s.world.transfer.mmDataTransWaiting = true →
    s.world.transfer.packetIndex ≠ 0 ∧ InHand target s.world.transfer.last s

theorem NotStuck.of_kept {target : Target} {s s' : SenderState}
    (h : NotStuck target s) (htransfer : s'.world.transfer = s.world.transfer)
    (hqueue : s.world.send.queue <+: s'.world.send.queue)
    (hphase : ∀ t, InTransmission target t s.phase →
      InTransmission target t s'.phase) : NotStuck target s' := by
  intro hwaiting
  rw [htransfer] at hwaiting ⊢
  obtain ⟨hindex, hinHand⟩ := h hwaiting
  exact ⟨hindex, hinHand.imp (·.extend hqueue) (hphase _)⟩

theorem notStuck_of_inactive {target : Target} {s : SenderState}
    (h : s.world.transfer.mmDataTransWaiting = false) :
    NotStuck target s := by
  intro hwaiting
  rw [h] at hwaiting
  cases hwaiting

/-- The message in transmission is stopped by `recv_ack`. -/
def StopsMessage (s : SenderState) (e : ThreadEvent) : Prop :=
  s.world.recvAck = true ∧
    (e = .test ∧ (∃ node i, s.phase = .transmitted node i) ∨
      e = .wake ∧ ∃ node i, s.phase = .waiting node i)

/-- What a step needs to keep the outstanding packet. -/
structure KeepsPacket (target : Target) (s : SenderState) (e : ThreadEvent) :
    Prop where
  /-- The file of an accepted request can be read, and the acknowledgement and
  the first packet fit into the queue. -/
  request : ∀ r, e = .frame r → AcceptsRequest target s.world r →
    nextData r.env (requestedTransfer r) ≠ none ∧
      (s.world.send.queue.length + 2 ≤ ptrQueueBufCnt ∨
        InHand target (requestedTransfer r) s)
  /-- A packet that follows an acknowledgement fits into the queue. -/
  next : ∀ r, e = .frame r → TakesAck target s.world r →
    s.world.transfer.mmDataTransWaiting = true →
    s.world.transfer.packetTotalNum ≠ s.world.transfer.packetIndex →
    nextData r.env s.world.transfer ≠ none →
    s.world.send.queue.length < ptrQueueBufCnt ∨
      InHand target s.world.transfer s
  /-- A message that is stopped is not the packet, unless that is queued
  again. -/
  stop : StopsMessage s e → s.world.transfer.mmDataTransWaiting = true →
    InTransmission target s.world.transfer.last s.phase →
    QueuedPacket target s.world.transfer.last s.world.send.queue

/-! ## What holds in any case -/

def IndexBounded (t : Transfer) : Prop :=
  t.mmDataTransWaiting = true → t.packetIndex.toNat ≤ t.packetTotalNum.toNat

structure Bounded (target : Target) (s : SenderState) : Prop where
  reachable : SenderReachable target s
  queue : s.world.send.queue.length ≤ ptrQueueBufCnt
  index : IndexBounded s.world.transfer

theorem length_pushAll {queue : List SendNode}
    (h : queue.length ≤ ptrQueueBufCnt) (nodes : List SendNode) :
    (pushAll queue nodes).length ≤ ptrQueueBufCnt := by
  induction nodes generalizing queue with
  | nil => exact h
  | cons node nodes ih => exact ih (length_ptrQueuePush h node)

/-- A file of positive size has at least one packet. -/
theorem packetTotalNum_ne_zero {filesize : Int} (hlow : 0 < filesize)
    (hhigh : filesize < 2 ^ 31) : packetTotalNum filesize ≠ 0 := by
  apply uint16_ofInt_ne_zero
  have hsize : ((imageSizePerPacket : Nat) : Int) = 65536 := rfl
  rw [hsize]
  by_cases hsum : filesize + 65536 - 1 < 2 ^ 31
  · rw [cInt_of_range (by omega) hsum, Int.tdiv_eq_ediv_of_nonneg (by omega)]
    omega
  · -- the sum overflows to a negative `int`
    have hcast : cInt (filesize + 65536 - 1) =
        -(2 ^ 32 - (filesize + 65536 - 1)) := by
      rw [cInt, Int.bmod_def]
      split_ifs <;> omega
    rw [hcast, Int.neg_tdiv, Int.tdiv_eq_ediv_of_nonneg (by omega)]
    omega

theorem getFileSize_lt (file : Option (List UInt8)) :
    getFileSize file < 2 ^ 31 := by
  cases file with
  | none => decide
  | some content =>
      rw [getFileSize, cInt, Int.bmod_def]
      split_ifs <;> omega

theorem lt_of_waiting {t : Transfer} (h : IndexBounded t)
    (hwaiting : t.mmDataTransWaiting = true)
    (hmore : t.packetTotalNum ≠ t.packetIndex) :
    t.packetIndex.toNat < t.packetTotalNum.toNat := by
  have hne : t.packetIndex.toNat ≠ t.packetTotalNum.toNat := fun heq =>
    hmore (UInt16.toNat_inj.mp heq).symm
  exact Nat.lt_of_le_of_ne (h hwaiting) hne

theorem indexBounded_advance {t : Transfer}
    (h : t.packetIndex.toNat < t.packetTotalNum.toNat) :
    IndexBounded t.advance := by
  intro _
  rw [toNat_advance h]
  exact h

section

variable {target : Target} {w : World} {r : Received}

theorem requestedTransfer_lt (h : AcceptsRequest target w r) :
    (requestedTransfer r).packetIndex.toNat <
      (requestedTransfer r).packetTotalNum.toNat := by
  have htotal := packetTotalNum_ne_zero h.found (getFileSize_lt _)
  exact Nat.pos_of_ne_zero fun hzero => htotal (UInt16.toNat_inj.mp hzero)

theorem device_indexBounded (h : IndexBounded w.transfer) (r : Received) :
    IndexBounded ((device target).step w r).1.transfer := by
  by_cases hrequest : AcceptsRequest target w r
  · have hlt := requestedTransfer_lt hrequest
    cases hdata : nextData r.env (requestedTransfer r) with
    | none =>
        rw [device_startsNone hrequest hdata]
        exact fun _ => Nat.le_of_lt hlt
    | some data =>
        rw [device_starts hrequest hdata]
        exact indexBounded_advance hlt
  by_cases hack : TakesAck target w r
  · by_cases hlast : w.transfer.packetTotalNum = w.transfer.packetIndex
    · rw [device_takesLast hack hlast]
      intro hwaiting
      cases hwaiting
    · cases hdata : nextData r.env w.transfer with
      | none =>
          rw [device_sendsNone hack hlast hdata]
          exact h
      | some data =>
          rw [device_sendsNext hack hlast hdata]
          intro hwaiting
          have hlt := lt_of_waiting h hwaiting hlast
          exact indexBounded_advance (t := w.transfer) hlt hwaiting
  · rw [(device_keepsTransfer hrequest hack).1]
    exact h

end

theorem popMessage_queue (w : World) :
    (popMessage w).1.world.send.queue = w.send.queue.tail := by
  unfold popMessage
  cases hqueue : w.send.queue with
  | nil => exact hqueue
  | cons first rest =>
      rw [ptrQueuePop_cons]
      simp only
      split_ifs
      · rfl
      · rfl
      · rfl

theorem senderTurn_queue (s : SenderState) (e : ThreadEvent) :
    (senderTurn s e).1.world.send.queue <:+ s.world.send.queue := by
  have hturn := senderTurn_turns s e
  generalize senderTurn s e = out at hturn ⊢
  cases hturn with
  | skip => exact List.suffix_refl _
  | pop w =>
      rw [popMessage_queue]
      exact List.tail_suffix _
  | offline w => exact List.suffix_refl _
  | test w node i =>
      unfold testRecvAck
      split_ifs
      · exact List.suffix_refl _
      · exact List.suffix_refl _
  | wake w node i => exact List.suffix_refl _
  | timeout w node i =>
      unfold timeoutMessage
      split_ifs
      · exact List.suffix_refl _
      · exact List.suffix_refl _
      · exact List.suffix_refl _

theorem threads_queueBounded (target : Target) {s : SenderState}
    (h : s.world.send.queue.length ≤ ptrQueueBufCnt) (e : ThreadEvent) :
    ((threads target).step s e).1.world.send.queue.length ≤
      ptrQueueBufCnt := by
  have hturn := (senderTurn_queue s e).length_le.trans h
  cases e with
  | frame r =>
      change ((device target).step s.world r).1.send.queue.length ≤ _
      rw [(device_pushes target s.world r).queue]
      exact length_pushAll h _
  | alert payload => exact length_ptrQueuePush h _
  | workStatus => exact length_ptrQueuePush h _
  | reset => exact Nat.zero_le _
  | others changed => exact h
  | pop => exact hturn
  | offline => exact hturn
  | test => exact hturn
  | wake => exact hturn
  | timeout => exact hturn

theorem threads_indexBounded (target : Target) {s : SenderState}
    (h : IndexBounded s.world.transfer) (e : ThreadEvent) :
    IndexBounded ((threads target).step s e).1.world.transfer := by
  rcases threads_transfer target s e with ⟨r, rfl⟩ | rfl | ⟨node, hgives⟩ |
    hkeep
  · exact device_indexBounded h r
  · intro hwaiting
    cases hwaiting
  · rw [threads_givesUp target hgives]
    intro hwaiting
    cases hwaiting
  · rw [hkeep]
    exact h

theorem threads_bounded {target : Target} {s : SenderState}
    (h : Bounded target s) (e : ThreadEvent) :
    Bounded target ((threads target).step s e).1 where
  reachable := threads_reachable h.reachable e
  queue := threads_queueBounded target h.queue e
  index := threads_indexBounded target h.index e

theorem startedThreads_bounded (target : Target) (access : ParaFileAccess)
    (files : ParaFiles) :
    Bounded target (startedThreads target access files) where
  reachable := startedThreads_reachable target access files
  queue := by
    have hqueue := (startedWorld_quiet target access files).2
    change (startedWorld target access files).send.queue.length ≤ _
    rw [hqueue]
    exact Nat.zero_le _
  index := by
    rw [startedThreads_transfer]
    intro hwaiting
    cases hwaiting

/-! ## The step of a frame -/

section

variable {target : Target} {s : SenderState} {r : Received}

theorem keepsPacket_frame_iff : KeepsPacket target s (.frame r) ↔
    (AcceptsRequest target s.world r →
      nextData r.env (requestedTransfer r) ≠ none ∧
        (s.world.send.queue.length + 2 ≤ ptrQueueBufCnt ∨
          InHand target (requestedTransfer r) s)) ∧
    (TakesAck target s.world r →
      s.world.transfer.mmDataTransWaiting = true →
      s.world.transfer.packetTotalNum ≠ s.world.transfer.packetIndex →
      nextData r.env s.world.transfer ≠ none →
      s.world.send.queue.length < ptrQueueBufCnt ∨
        InHand target s.world.transfer s) := by
  constructor
  · intro h
    exact ⟨h.request r rfl, h.next r rfl⟩
  · rintro ⟨hrequest, hnext⟩
    refine ⟨?_, ?_, ?_⟩
    · intro r' hr
      cases hr
      exact hrequest
    · intro r' hr
      cases hr
      exact hnext
    · rintro ⟨-, ⟨he, -⟩ | ⟨he, -⟩⟩
      · cases he
      · cases he

theorem TakesAck.not_accepts (h : TakesAck target s.world r) :
    ¬ AcceptsRequest target s.world r := by
  intro hrequest
  exact absurd (h.cmd.symm.trans hrequest.cmd) (by decide)

theorem packetSent_notStuck_iff {w : World} {phase : SendPhase}
    {env : Env} {data : List UInt8}
    (hwaiting : w.transfer.mmDataTransWaiting = true)
    (hlt : w.transfer.packetIndex.toNat < w.transfer.packetTotalNum.toNat)
    (hdata : nextData env w.transfer = some data) :
    NotStuck target ⟨packetSent target w data, phase⟩ ↔
      w.send.queue.length ≠ ptrQueueBufCnt ∨
        InHand target w.transfer ⟨w, phase⟩ := by
  have hpacket := sentNode_packet target w (t := w.transfer)
    (nextData_ne_nil hdata) (nextData_length_le hdata)
  have hqueued : QueuedPacket target w.transfer
      (packetSent target w data).send.queue ↔ _ :=
    queuedPacket_push_iff hpacket
  have hlast : (packetSent target w data).transfer.last = w.transfer :=
    Transfer.last_advance _
  have hindex : w.transfer.advance.packetIndex ≠ 0 := by
    intro hzero
    have hnext := toNat_advance hlt
    rw [hzero] at hnext
    cases hnext
  have hinHand : NotStuck target ⟨packetSent target w data, phase⟩ ↔
      InHand target w.transfer ⟨packetSent target w data, phase⟩ := by
    unfold NotStuck
    rw [hlast]
    exact ⟨fun h => (h hwaiting).2, fun h _ => ⟨hindex, h⟩⟩
  rw [hinHand]
  unfold InHand
  rw [← or_assoc, ← hqueued]

theorem request_notStuck_iff (hb : Bounded target s)
    (hrequest : AcceptsRequest target s.world r) :
    NotStuck target ((threads target).step s (.frame r)).1 ↔
      nextData r.env (requestedTransfer r) ≠ none ∧
        (s.world.send.queue.length + 2 ≤ ptrQueueBufCnt ∨
          InHand target (requestedTransfer r) s) := by
  cases hdata : nextData r.env (requestedTransfer r) with
  | none =>
      refine iff_of_false (fun hkept => ?_) fun h => h.1 rfl
      simp only [NotStuck, threads, device_startsNone hrequest hdata] at hkept
      exact (hkept rfl).1 rfl
  | some data =>
      let ack := sentNode target (notedWorld s.world r) sampleCmdReqMmData []
      have hcmd : ack.header.cmd ≠ sampleCmdUploadMmData := by
        change sampleCmdReqMmData ≠ _
        decide
      have hack : QueuedPacket target (requestedTransfer r)
          (requestedWorld target s.world r).send.queue ↔
            QueuedPacket target (requestedTransfer r) s.world.send.queue :=
        queuedPacket_pushOther_iff hcmd
      have hroom : (requestedWorld target s.world r).send.queue.length ≠
          ptrQueueBufCnt ↔ s.world.send.queue.length + 2 ≤ ptrQueueBufCnt := by
        have hqueue := hb.queue
        have hlength := length_ptrQueuePush_eq s.world.send.queue ack
        change (ptrQueuePush s.world.send.queue ack).2.length ≠ _ ↔ _
        rw [hlength]
        split_ifs with hfull
        · omega
        · omega
      have hsent : NotStuck target ⟨packetSent target
          (requestedWorld target s.world r) data, s.phase⟩ ↔ _ :=
        packetSent_notStuck_iff rfl (requestedTransfer_lt hrequest) hdata
      simp only [threads, device_starts hrequest hdata]
      rw [hsent, hroom]
      unfold InHand
      rw [show (requestedWorld target s.world r).transfer =
        requestedTransfer r from rfl, hack]
      simp

theorem ack_notStuck_iff (hb : Bounded target s) (h : NotStuck target s)
    (hack : TakesAck target s.world r) :
    NotStuck target ((threads target).step s (.frame r)).1 ↔
      (s.world.transfer.mmDataTransWaiting = true →
        s.world.transfer.packetTotalNum ≠ s.world.transfer.packetIndex →
        nextData r.env s.world.transfer ≠ none →
        s.world.send.queue.length < ptrQueueBufCnt ∨
          InHand target s.world.transfer s) := by
  by_cases hlast : s.world.transfer.packetTotalNum =
      s.world.transfer.packetIndex
  · refine iff_of_true (notStuck_of_inactive ?_) fun _ hmore =>
      absurd hlast hmore
    simp only [threads, device_takesLast hack hlast]
    rfl
  cases hdata : nextData r.env s.world.transfer with
  | none =>
      refine iff_of_true ?_ fun _ _ hsome => absurd rfl hsome
      simp only [threads, device_sendsNone hack hlast hdata]
      exact h.of_kept rfl (List.prefix_refl _) fun _ htransmitted =>
        htransmitted
  | some data =>
      simp only [threads, device_sendsNext hack hlast hdata]
      by_cases hwaiting : s.world.transfer.mmDataTransWaiting = true
      · have hsent : NotStuck target
            ⟨packetSent target (ackedWorld s.world r) data, s.phase⟩ ↔ _ :=
          packetSent_notStuck_iff hwaiting
            (lt_of_waiting hb.index hwaiting hlast) hdata
        have hroom : (ackedWorld s.world r).send.queue.length ≠
            ptrQueueBufCnt ↔ s.world.send.queue.length < ptrQueueBufCnt :=
          hb.queue.lt_iff_ne.symm
        rw [hsent, hroom]
        exact ⟨fun hkept _ _ _ => hkept, fun hkept =>
          hkept hwaiting hlast (Option.some_ne_none data)⟩
      · refine iff_of_true (notStuck_of_inactive ?_) fun hset =>
          absurd hset hwaiting
        exact Bool.eq_false_iff.mpr hwaiting

theorem frame_notStuck_iff (hb : Bounded target s) (h : NotStuck target s) :
    NotStuck target ((threads target).step s (.frame r)).1 ↔
      KeepsPacket target s (.frame r) := by
  rw [keepsPacket_frame_iff]
  by_cases hrequest : AcceptsRequest target s.world r
  · have hack : ¬ TakesAck target s.world r := fun hack =>
      hack.not_accepts hrequest
    rw [request_notStuck_iff hb hrequest]
    exact ⟨fun hkept => ⟨fun _ => hkept, fun hset => absurd hset hack⟩,
      fun hkept => hkept.1 hrequest⟩
  by_cases hack : TakesAck target s.world r
  · rw [ack_notStuck_iff hb h hack]
    exact ⟨fun hkept => ⟨fun hset => absurd hset hrequest, fun _ => hkept⟩,
      fun hkept => hkept.2 hack⟩
  · refine iff_of_true ?_ ⟨fun hset => absurd hset hrequest, fun hset =>
      absurd hset hack⟩
    exact h.of_kept (device_keepsTransfer hrequest hack).1
      (device_keepsQueued target s.world r) fun _ htransmitted => htransmitted

end

/-! ## The step of the sender -/

section

variable {target : Target} {w : World} {phase : SendPhase}

theorem keepsPacket_of_not_stops {s : SenderState} {e : ThreadEvent}
    (hframe : ∀ r, e ≠ .frame r) (hstop : ¬ StopsMessage s e) :
    KeepsPacket target s e :=
  ⟨fun r hr => absurd hr (hframe r), fun r hr => absurd hr (hframe r),
    fun hset => absurd hset hstop⟩

theorem keepsPacket_of_event {s : SenderState} {e : ThreadEvent}
    (hframe : ∀ r, e ≠ .frame r) (htest : e ≠ .test) (hwake : e ≠ .wake) :
    KeepsPacket target s e := by
  refine keepsPacket_of_not_stops hframe ?_
  rintro ⟨-, ⟨he, -⟩ | ⟨he, -⟩⟩
  · exact htest he
  · exact hwake he

theorem popMessage_packet {t : Transfer} {node : SendNode}
    {rest : List SendNode} (hqueue : w.send.queue = node :: rest)
    (hnode : PacketNode target t node) :
    (popMessage w).1.phase = .transmitted node 0 := by
  have hwhole : (⟨node.header, node.buf.map (List.take ptrQueueBufSize)⟩ :
      SendNode) = node := by
    rw [hnode.take]
  unfold popMessage
  rw [hqueue, ptrQueuePop_cons, hwhole]
  obtain ⟨serialNum, index, data, -, -, rfl⟩ := hnode
  rfl

theorem popMessage_notStuck (h : NotStuck target ⟨w, .idle⟩) :
    NotStuck target (popMessage w).1 := by
  intro hwaiting
  rw [popMessage_transfer] at hwaiting ⊢
  obtain ⟨hindex, ⟨node, hmem, hnode⟩ | ⟨node, i, hmessage, -⟩⟩ := h hwaiting
  · refine ⟨hindex, ?_⟩
    cases hqueue : w.send.queue with
    | nil =>
        rw [show (SenderState.mk w .idle).world.send.queue = [] from hqueue]
          at hmem
        cases hmem
    | cons first rest =>
        rw [show (SenderState.mk w .idle).world.send.queue = first :: rest
          from hqueue] at hmem
        rcases List.mem_cons.mp hmem with rfl | hrest
        · right
          exact ⟨node, 0, by rw [popMessage_packet hqueue hnode]; rfl, hnode⟩
        · left
          refine ⟨node, ?_, hnode⟩
          rw [popMessage_queue, hqueue]
          exact hrest
  · cases hmessage

/-- Stopping a message keeps the packet exactly when that is still queued. -/
theorem clearRecvAck_notStuck_iff {node : SendNode} {i : Nat}
    (h : NotStuck target ⟨w, phase⟩) :
    NotStuck target (clearRecvAck w node i).1 ↔
      (w.transfer.mmDataTransWaiting = true →
        QueuedPacket target w.transfer.last w.send.queue) := by
  constructor
  · intro hkept hwaiting
    obtain ⟨-, hqueued | ⟨node', i', hmessage, -⟩⟩ := hkept hwaiting
    · exact hqueued
    · cases hmessage
  · intro hqueued hwaiting
    exact ⟨(h hwaiting).1, .inl (hqueued hwaiting)⟩

theorem stops_notStuck_iff {node : SendNode} {i : Nat} {e : ThreadEvent}
    (h : NotStuck target ⟨w, phase⟩) (hframe : ∀ r, e ≠ .frame r)
    (hstop : StopsMessage ⟨w, phase⟩ e) :
    NotStuck target (clearRecvAck w node i).1 ↔
      KeepsPacket target ⟨w, phase⟩ e := by
  rw [clearRecvAck_notStuck_iff h]
  constructor
  · intro hqueued
    exact ⟨fun r hr => absurd hr (hframe r), fun r hr => absurd hr (hframe r),
      fun _ hwaiting _ => hqueued hwaiting⟩
  · intro hkeeps hwaiting
    rcases (h hwaiting).2 with hqueued | htransmitted
    · exact hqueued
    · exact hkeeps.stop hstop hwaiting htransmitted

theorem timeoutMessage_notStuck {node : SendNode} {i : Nat}
    (hb : Bounded target ⟨w, .waiting node i⟩)
    (h : NotStuck target ⟨w, .waiting node i⟩) :
    NotStuck target (timeoutMessage w node i).1 := by
  obtain ⟨trace, hrun⟩ := hb.reachable
  obtain ⟨hrepeat, hi⟩ := hrun.invariant.counted node i rfl
  unfold timeoutMessage
  split_ifs with hlast hmore
  · exact notStuck_of_inactive rfl
  · refine h.of_kept rfl (List.prefix_refl _) fun t htransmitted => ?_
    obtain ⟨node', i', hmessage, hnode⟩ := htransmitted
    cases hmessage
    exact ⟨node, i + 1, rfl, hnode⟩
  · -- the third transmission has been given up above
    obtain rfl : i = 2 := by omega
    rw [hrepeat] at hlast
    exact absurd (by decide) hlast

theorem testRecvAck_notStuck_iff {node : SendNode} {i : Nat}
    (h : NotStuck target ⟨w, .transmitted node i⟩) :
    NotStuck target (testRecvAck w node i).1 ↔
      KeepsPacket target ⟨w, .transmitted node i⟩ .test := by
  unfold testRecvAck
  split_ifs with hset
  · exact stops_notStuck_iff h nofun ⟨hset, .inl ⟨rfl, node, i, rfl⟩⟩
  · refine iff_of_true ?_
      (keepsPacket_of_not_stops nofun fun hstop => hset hstop.1)
    exact h.of_kept rfl (List.prefix_refl _) fun _ htransmitted =>
      htransmitted

theorem StopsMessage.acked {s : SenderState} {e : ThreadEvent}
    (h : StopsMessage s e) :
    ∃ node i, (senderTurn s e).2 = [.acked node (i + 1)] := by
  obtain ⟨w, phase⟩ := s
  obtain ⟨hset, ⟨rfl, node, i, rfl⟩ | ⟨rfl, node, i, rfl⟩⟩ := h
  · refine ⟨node, i, ?_⟩
    simp only [senderTurn, testRecvAck]
    rw [if_pos hset]
    rfl
  · refine ⟨node, i, ?_⟩
    simp only [senderTurn]
    rw [if_pos hset]
    rfl

theorem senderTurn_notStuck_iff {s : SenderState} {e : ThreadEvent}
    (hframe : ∀ r, e ≠ .frame r) (hb : Bounded target s)
    (h : NotStuck target s) :
    NotStuck target (senderTurn s e).1 ↔ KeepsPacket target s e := by
  have hturn := senderTurn_turns s e
  have hacked := StopsMessage.acked (s := s) (e := e)
  generalize senderTurn s e = out at hturn hacked ⊢
  cases hturn with
  | skip =>
      refine iff_of_true h (keepsPacket_of_not_stops hframe fun hstop => ?_)
      obtain ⟨node, i, hacked⟩ := hacked hstop
      cases hacked
  | pop w =>
      exact iff_of_true (popMessage_notStuck h)
        (keepsPacket_of_event hframe nofun nofun)
  | offline w =>
      refine iff_of_true ?_ (keepsPacket_of_event hframe nofun nofun)
      exact h.of_kept rfl (List.prefix_refl _) fun _ htransmitted =>
        htransmitted
  | test w node i => exact testRecvAck_notStuck_iff h
  | wake w node i hset =>
      exact stops_notStuck_iff h hframe ⟨hset, .inr ⟨rfl, node, i, rfl⟩⟩
  | timeout w node i =>
      exact iff_of_true (timeoutMessage_notStuck hb h)
        (keepsPacket_of_event hframe nofun nofun)

end

/-! ## Runs -/

theorem threads_notStuck_iff {target : Target} {s : SenderState}
    (hb : Bounded target s) (h : NotStuck target s) (e : ThreadEvent) :
    NotStuck target ((threads target).step s e).1 ↔
      KeepsPacket target s e := by
  have hkept : ∀ w', w'.transfer = s.world.transfer →
      s.world.send.queue <+: w'.send.queue →
      NotStuck target ⟨w', s.phase⟩ := fun w' htransfer hqueue =>
    h.of_kept htransfer hqueue fun _ htransmitted => htransmitted
  cases e with
  | frame r => exact frame_notStuck_iff hb h
  | alert payload =>
      exact iff_of_true (hkept _ rfl (prefix_ptrQueuePush _ _))
        (keepsPacket_of_event nofun nofun nofun)
  | workStatus =>
      exact iff_of_true (hkept _ rfl (prefix_ptrQueuePush _ _))
        (keepsPacket_of_event nofun nofun nofun)
  | reset =>
      exact iff_of_true (notStuck_of_inactive rfl)
        (keepsPacket_of_event nofun nofun nofun)
  | others changed =>
      exact iff_of_true (hkept _ rfl (List.prefix_refl _))
        (keepsPacket_of_event nofun nofun nofun)
  | pop => exact senderTurn_notStuck_iff nofun hb h
  | offline => exact senderTurn_notStuck_iff nofun hb h
  | test => exact senderTurn_notStuck_iff nofun hb h
  | wake => exact senderTurn_notStuck_iff nofun hb h
  | timeout => exact senderTurn_notStuck_iff nofun hb h

/-- Along a run the outstanding packet of an active transfer is always queued
or in transmission exactly when every step keeps it. -/
theorem transfer_notStuck_iff (target : Target) (access : ParaFileAccess)
    (files : ParaFiles) (events : List ThreadEvent) :
    let start := startedThreads target access files
    (threads target).Always (NotStuck target) start events ↔
      (threads target).EachStep (KeepsPacket target) start events := by
  intro start
  have hstart : NotStuck target start := by
    apply notStuck_of_inactive
    rw [startedThreads_transfer]
  have hrun := Mealy.always_iff (M := threads target) (I := Bounded target)
    (P := NotStuck target) (fun s e hb => threads_bounded hb e)
    (fun s e hb h => threads_notStuck_iff hb h e)
    (startedThreads_bounded target access files) events
  rw [and_iff_right hstart] at hrun
  exact hrun

def staleAckRun : List ThreadEvent :=
  [.frame (emptyAck sampleCmdWarningReport), .frame oneByteRequest, .pop, .pop,
    .test]

/-- An acknowledgement that came before the request stops its only packet. -/
theorem transfer_stuck :
    ¬ ∀ events, (threads adasTcp).Always (NotStuck adasTcp)
      (freshThreads adasTcp) events := by
  intro h
  obtain ⟨-, ⟨node, hmem, -⟩ | ⟨node, i, hmessage, -⟩⟩ :=
    h staleAckRun staleAckRun [] (List.append_nil _).symm
      (by decide +kernel)
  · have hqueue : ((threads adasTcp).final (freshThreads adasTcp)
        staleAckRun).world.send.queue = [] := by decide +kernel
    rw [hqueue] at hmem
    cases hmem
  · have hphase : ((threads adasTcp).final (freshThreads adasTcp)
        staleAckRun).phase = .idle := by decide +kernel
    rw [hphase] at hmessage
    cases hmessage

end SanbaoProt
