import SanbaoProt.Device.Footprint

/-!
# The sender thread

`send_package` transmits a message up to three times and stops when `recv_ack`
is set.  Its steps interleave with the frames that the receive thread handles
and with the other threads.  The flag is the only link to an acknowledgement:
`SenderInvariant` says that whenever it is set, an acknowledgement has been
received since the last message that was stopped by one.
-/

namespace SanbaoProt

open Library

/-! ## Acknowledgements -/

/-- The frames that set `recv_ack`, given the next packet of the transfer. -/
def Acknowledges (target : Target) (packetIndex : UInt16) (r : Received) :
    Prop :=
  isForDevice target r.msg ∧
    (headerCmd r.msg = sampleCmdWarningReport ∧ r.len = emptyFrameLen ∨
      headerCmd r.msg = sampleCmdUploadStatus ∧ r.len = emptyFrameLen ∨
      headerCmd r.msg = sampleCmdUploadMmData ∧ ackByte r.msg = 0 ∧
        packetIndex.toNat = ackPacketIndex r.msg + 1)

theorem sampleSendImage_recvAck (target : Target) (env : Env) (w : World) :
    (sampleSendImage target env w).1.recvAck = w.recvAck := by
  unfold sampleSendImage
  cases env.media w.transfer.id with
  | none => rfl
  | some content =>
      simp only
      split_ifs
      · rw [Act.andThen_fst, sendMessage_apply]
        rfl
      · rfl

theorem sendMmReqAck_recvAck (target : Target) (env : Env) (w : World)
    (msg : Mem UInt8) (len : Nat) :
    (sendMmReqAck target env w msg len).world.recvAck = w.recvAck := by
  unfold sendMmReqAck
  simp only
  split_ifs
  · rfl
  · rw [Handled.andThen, sampleSendImage_recvAck,
      (messageQueueSend_spec target w msg sampleCmdReqMmData []).1]
    rfl
  · rfl

theorem CoreStep.keepsRecvAck {w : World} {cmd : Option SampleCmd}
    {out : World × List Effect} (h : CoreStep w cmd out)
    (hwarning : cmd ≠ some .warningReport)
    (hstatus : cmd ≠ some .uploadStatus) (hreq : cmd ≠ some .reqMmData)
    (hupload : cmd ≠ some .uploadMmData) : out.1.recvAck = w.recvAck := by
  cases h with
  | quiet h => exact h.1.recvAck
  | para _ _ _ h => exact h.1.recvAck
  | speed _ h => exact h.1.recvAck
  | ack hcmd =>
      rcases hcmd with rfl | rfl
      · exact absurd rfl hwarning
      · exact absurd rfl hstatus
  | upgrade h =>
      obtain ⟨⟨upgrade, running, hcore⟩, -⟩ := h
      exact hcore.recvAck
  | media hcmd _ =>
      rcases hcmd with rfl | rfl
      · exact absurd rfl hreq
      · exact absurd rfl hupload

theorem CoreStep.queueFresh {w : World} {cmd : Option SampleCmd}
    {out : World × List Effect} (h : CoreStep w cmd out)
    (hfresh : QueueFresh w) : QueueFresh out.1 := by
  cases h with
  | quiet h => exact h.1.queue hfresh
  | para _ _ _ h => exact h.1.queue hfresh
  | speed _ h => exact h.1.queue hfresh
  | ack => exact hfresh
  | upgrade h =>
      obtain ⟨⟨upgrade, running, hcore⟩, -⟩ := h
      exact hcore.queue hfresh
  | media _ h =>
      obtain ⟨⟨transfer, recvAck, hcore⟩, -⟩ := h
      exact hcore.queue hfresh

theorem handleCmd_recvAck {target : Target} {w : World} {r : Received}
    (hfor : isForDevice target r.msg)
    (h : ¬ Acknowledges target w.transfer.packetIndex r) :
    (handleCmd target r.env w r.msg r.len).world.recvAck = w.recvAck := by
  by_cases hreq : headerCmd r.msg = sampleCmdReqMmData
  · rw [handleCmd_reqMmData _ _ _ _ hreq]
    exact sendMmReqAck_recvAck target r.env w r.msg r.len
  by_cases hupload : headerCmd r.msg = sampleCmdUploadMmData
  · rw [handleCmd_uploadMmData _ _ _ _ hupload]
    have hidle : recvAckAndSendImage target r.env r.msg w = (w, []) :=
      recvAckAndSendImage_idle fun hack =>
        h ⟨hfor, .inr (.inr ⟨hupload, hack⟩)⟩
    rw [Handled.andThen, hidle]
  by_cases hwarning : headerCmd r.msg = sampleCmdWarningReport
  · rw [handleCmd, hwarning]
    have hlen : r.len ≠ emptyFrameLen := fun hlen =>
      h ⟨hfor, .inl ⟨hwarning, hlen⟩⟩
    change (recvWarningAck r.len w).1.recvAck = _
    rw [recvWarningAck, if_neg hlen]
    rfl
  by_cases hstatus : headerCmd r.msg = sampleCmdUploadStatus
  · rw [handleCmd, hstatus]
    have hlen : r.len ≠ emptyFrameLen := fun hlen =>
      h ⟨hfor, .inr (.inl ⟨hstatus, hlen⟩)⟩
    change (recvUploadStatusCmdAck r.len w).1.recvAck = _
    rw [recvUploadStatusCmdAck, if_neg hlen]
    rfl
  exact (handleCmd_coreStep target r.env w r.msg r.len).keepsRecvAck
    (fun hc => hwarning (SampleCmd.code_of_ofCode hc))
    (fun hc => hstatus (SampleCmd.code_of_ofCode hc))
    (fun hc => hreq (SampleCmd.code_of_ofCode hc))
    (fun hc => hupload (SampleCmd.code_of_ofCode hc))

theorem device_recvAck {target : Target} {w : World} {r : Received}
    (h : ¬ Acknowledges target w.transfer.packetIndex r) :
    ((device target).step w r).1.recvAck = w.recvAck := by
  simp only [device, Handled.result_fst, sampleOnCmd]
  split_ifs with hfor
  · exact handleCmd_recvAck hfor h
  · rfl

theorem recvAckAndSendImage_sets {target : Target} {env : Env}
    {w : World} {msg : Mem UInt8} (hpositive : ackByte msg = 0)
    (hindex : w.transfer.packetIndex.toNat = ackPacketIndex msg + 1) :
    (recvAckAndSendImage target env msg w).1.recvAck = true := by
  unfold recvAckAndSendImage
  rw [if_neg (not_not.mpr hpositive), if_neg (not_not.mpr hindex)]
  split_ifs
  · rfl
  · rw [Act.andThen_fst, sampleSendImage_recvAck]
    rfl

theorem device_recvAck_iff (target : Target) (w : World) (r : Received) :
    ((device target).step w r).1.recvAck = true ↔
      w.recvAck = true ∨ Acknowledges target w.transfer.packetIndex r := by
  by_cases hack : Acknowledges target w.transfer.packetIndex r
  · refine iff_of_true ?_ (.inr hack)
    obtain ⟨hfor, hframe⟩ := hack
    simp only [device, Handled.result_fst, sampleOnCmd]
    rw [if_pos hfor]
    rcases hframe with ⟨hcmd, hlen⟩ | ⟨hcmd, hlen⟩ | ⟨hcmd, hack⟩
    · rw [handleCmd, hcmd, hlen]
      rfl
    · rw [handleCmd, hcmd, hlen]
      rfl
    · rw [handleCmd_uploadMmData _ _ _ _ hcmd]
      exact recvAckAndSendImage_sets hack.1 hack.2
  · rw [device_recvAck hack, or_iff_left hack]

theorem device_queueFresh {target : Target} {w : World}
    (hfresh : QueueFresh w) (r : Received) :
    QueueFresh ((device target).step w r).1 := by
  simp only [device, sampleOnCmd]
  split_ifs
  · exact (handleCmd_coreStep target r.env _ r.msg r.len).queueFresh hfresh
  · exact hfresh

/-! ## The steps of the sender -/

/-- Where `send_package` is.  A message is given with the number of the
retransmissions that came before. -/
inductive SendPhase where
  | idle
  | transmitted (node : SendNode) (i : Nat)
  | waiting (node : SendNode) (i : Nat)
  deriving DecidableEq, Repr

inductive SenderEvent where
  | transmit (node : SendNode)
  | received (r : Received) (packetIndex : UInt16)
  | acked (node : SendNode) (count : Nat)
  | gaveUp (node : SendNode) (count : Nat)

structure SenderState where
  world : World
  phase : SendPhase

def popMessage (w : World) : SenderState × List SenderEvent :=
  let w' := { w with send := { w.send with sem := w.send.sem - 1 } }
  match ptrQueuePop w.send.queue (some ptrQueueBufSize) with
  | none => (⟨w', .idle⟩, [])
  | some (node, queue) =>
      let popped := { w' with send := { w'.send with queue := queue } }
      if node.header.ackStatus = msgAckReady then
        (⟨popped, .idle⟩, [.transmit node])
      else if node.header.ackStatus = msgAckWaiting then
        (⟨popped, .transmitted node 0⟩, [.transmit node])
      else (⟨popped, .idle⟩, [])

def clearRecvAck (w : World) (node : SendNode) (i : Nat) :
    SenderState × List SenderEvent :=
  (⟨{ w with recvAck := false }, .idle⟩, [.acked node (i + 1)])

def testRecvAck (w : World) (node : SendNode) (i : Nat) :
    SenderState × List SenderEvent :=
  if w.recvAck = true then clearRecvAck w node i
  else (⟨w, .waiting node i⟩, [])

/-- The wait times out: give up, transmit again, or leave the loop. -/
def timeoutMessage (w : World) (node : SendNode) (i : Nat) :
    SenderState × List SenderEvent :=
  if node.header.sendRepeat + UInt8.ofNat (i + 1) ≥ 3 then
    (⟨{ w with
        transfer := { w.transfer with mmDataTransWaiting := false } }, .idle⟩,
      [.gaveUp node (i + 1)])
  else if i + 1 < 3 then
    (⟨w, .transmitted node (i + 1)⟩, [.transmit node])
  else (⟨w, .idle⟩, [])

/-- The steps of the sender, the receive thread and the others.  The others
set `recv_ack` nowhere and send through `message_queue_send` only. -/
inductive SenderStep (target : Target) :
    SenderState → SenderState × List SenderEvent → Prop where
  | pop (w : World) (hsem : 0 < w.send.sem) :
      SenderStep target ⟨w, .idle⟩ (popMessage w)
  | test (w : World) (node : SendNode) (i : Nat) :
      SenderStep target ⟨w, .transmitted node i⟩ (testRecvAck w node i)
  | wake (w : World) (node : SendNode) (i : Nat) (hack : w.recvAck = true) :
      SenderStep target ⟨w, .waiting node i⟩ (clearRecvAck w node i)
  | timeout (w : World) (node : SendNode) (i : Nat) :
      SenderStep target ⟨w, .waiting node i⟩ (timeoutMessage w node i)
  | frame (w : World) (phase : SendPhase) (r : Received) :
      SenderStep target ⟨w, phase⟩ (⟨((device target).step w r).1, phase⟩,
        [.received r w.transfer.packetIndex])
  | others (w w' : World) (phase : SendPhase)
      (hack : w'.recvAck = w.recvAck) (hqueue : QueueFresh w → QueueFresh w') :
      SenderStep target ⟨w, phase⟩ (⟨w', phase⟩, [])

inductive SenderRun (target : Target) :
    SenderState → List SenderEvent → Prop where
  | start (access : ParaFileAccess) (files : ParaFiles) :
      SenderRun target ⟨startedWorld target access files, .idle⟩ []
  | next {s : SenderState} {trace : List SenderEvent}
      (h : SenderRun target s trace)
      {out : SenderState × List SenderEvent}
      (hstep : SenderStep target s out) :
      SenderRun target out.1 (trace ++ out.2)

/-! ## The invariant -/

def SenderEvent.isAcked : SenderEvent → Bool
  | .acked _ _ => true
  | _ => false

/-- An acknowledgement has been received and has stopped no message yet. -/
def Pending (target : Target) (trace : List SenderEvent) : Prop :=
  ∃ earlier r packetIndex later,
    trace = earlier ++ .received r packetIndex :: later ∧
      Acknowledges target packetIndex r ∧ ∀ e ∈ later, e.isAcked = false

theorem Pending.concat {target : Target} {trace : List SenderEvent}
    (h : Pending target trace) {e : SenderEvent} (he : e.isAcked = false) :
    Pending target (trace ++ [e]) := by
  obtain ⟨earlier, r, packetIndex, later, rfl, hack, hlater⟩ := h
  refine ⟨earlier, r, packetIndex, later ++ [e], by simp, hack, ?_⟩
  intro e' he'
  rcases List.mem_append.mp he' with hbefore | hlast
  · exact hlater e' hbefore
  · rw [List.mem_singleton.mp hlast]
    exact he

theorem pending_received {target : Target} {r : Received}
    {packetIndex : UInt16} (h : Acknowledges target packetIndex r)
    (trace : List SenderEvent) :
    Pending target (trace ++ [.received r packetIndex]) :=
  ⟨trace, r, packetIndex, [], rfl, h, by simp⟩

def SendPhase.message : SendPhase → Option (SendNode × Nat)
  | .idle => none
  | .transmitted node i => some (node, i)
  | .waiting node i => some (node, i)

def SendPhase.Counted (phase : SendPhase) : Prop :=
  ∀ node i, phase.message = some (node, i) →
    node.header.sendRepeat = 0 ∧ i < 3

theorem counted_idle : SendPhase.Counted .idle := by
  intro node i h
  cases h

structure SenderInvariant (target : Target) (s : SenderState)
    (trace : List SenderEvent) : Prop where
  flag : s.world.recvAck = true → Pending target trace
  fresh : QueueFresh s.world
  counted : s.phase.Counted

theorem popMessage_invariant {target : Target} {w : World}
    {trace : List SenderEvent}
    (h : SenderInvariant target ⟨w, .idle⟩ trace) :
    SenderInvariant target (popMessage w).1 (trace ++ (popMessage w).2) := by
  unfold popMessage
  simp only
  cases hpop : ptrQueuePop w.send.queue (some ptrQueueBufSize) with
  | none =>
      simp only [List.append_nil]
      exact ⟨h.flag, h.fresh, counted_idle⟩
  | some popped =>
      obtain ⟨node, queue⟩ := popped
      obtain ⟨⟨first, hfirst, hheader⟩, hrest⟩ := mem_of_ptrQueuePop hpop
      have hnode : node.header.sendRepeat = 0 := by
        rw [← hheader]
        exact h.fresh first hfirst
      have hflag : w.recvAck = true →
          Pending target (trace ++ [.transmit node]) :=
        fun hset => (h.flag hset).concat rfl
      have hqueue : ∀ n ∈ queue, n.header.sendRepeat = 0 :=
        fun n hn => h.fresh n (hrest n hn)
      simp only
      split_ifs
      · exact ⟨hflag, hqueue, counted_idle⟩
      · refine ⟨hflag, hqueue, ?_⟩
        rintro node' i hmessage
        cases hmessage
        exact ⟨hnode, by decide⟩
      · simp only [List.append_nil]
        exact ⟨h.flag, hqueue, counted_idle⟩

theorem clearRecvAck_invariant {target : Target} {w : World}
    {phase : SendPhase} {trace : List SenderEvent}
    (h : SenderInvariant target ⟨w, phase⟩ trace) (node : SendNode) (i : Nat) :
    SenderInvariant target (clearRecvAck w node i).1
      (trace ++ (clearRecvAck w node i).2) :=
  ⟨fun hset => absurd hset Bool.false_ne_true, h.fresh, counted_idle⟩

theorem timeoutMessage_invariant {target : Target} {w : World}
    {node : SendNode} {i : Nat} {trace : List SenderEvent}
    (h : SenderInvariant target ⟨w, .waiting node i⟩ trace) :
    SenderInvariant target (timeoutMessage w node i).1
      (trace ++ (timeoutMessage w node i).2) := by
  obtain ⟨hrepeat, hi⟩ := h.counted node i rfl
  unfold timeoutMessage
  split_ifs with hlast hmore
  · exact ⟨fun hset => (h.flag hset).concat rfl, h.fresh, counted_idle⟩
  · refine ⟨fun hset => (h.flag hset).concat rfl, h.fresh, ?_⟩
    rintro node' i' hmessage
    cases hmessage
    exact ⟨hrepeat, hmore⟩
  · rw [List.append_nil]
    exact ⟨h.flag, h.fresh, counted_idle⟩

theorem frame_invariant {target : Target} {w : World} {phase : SendPhase}
    {trace : List SenderEvent}
    (h : SenderInvariant target ⟨w, phase⟩ trace) (r : Received) :
    SenderInvariant target ⟨((device target).step w r).1, phase⟩
      (trace ++ [.received r w.transfer.packetIndex]) := by
  refine ⟨fun hset => ?_, device_queueFresh h.fresh r, h.counted⟩
  by_cases hack : Acknowledges target w.transfer.packetIndex r
  · exact pending_received hack trace
  · rw [device_recvAck hack] at hset
    exact (h.flag hset).concat rfl

theorem step_invariant {target : Target} {s : SenderState}
    {trace : List SenderEvent} (h : SenderInvariant target s trace)
    {out : SenderState × List SenderEvent} (hstep : SenderStep target s out) :
    SenderInvariant target out.1 (trace ++ out.2) := by
  cases hstep with
  | pop w => exact popMessage_invariant h
  | test w node i =>
      unfold testRecvAck
      split_ifs
      · exact clearRecvAck_invariant h node i
      · rw [List.append_nil]
        exact ⟨h.flag, h.fresh, h.counted⟩
  | wake w node i => exact clearRecvAck_invariant h node i
  | timeout w node i => exact timeoutMessage_invariant h
  | frame w phase r => exact frame_invariant h r
  | others w w' phase hack hqueue =>
      rw [List.append_nil]
      refine ⟨fun hset => h.flag ?_, hqueue h.fresh, h.counted⟩
      rw [← hack]
      exact hset

theorem startedWorld_quiet (target : Target) (access : ParaFileAccess)
    (files : ParaFiles) :
    (startedWorld target access files).recvAck = false ∧
      (startedWorld target access files).send.queue = [] := by
  unfold startedWorld globalVarInit
  cases target.build with
  | adas => exact ⟨rfl, rfl⟩
  | dms => exact ⟨rfl, rfl⟩

theorem SenderRun.invariant {target : Target} {s : SenderState}
    {trace : List SenderEvent} (h : SenderRun target s trace) :
    SenderInvariant target s trace := by
  induction h with
  | start access files =>
      obtain ⟨hflag, hqueue⟩ := startedWorld_quiet target access files
      refine ⟨fun hset => ?_, fun node hnode => ?_, counted_idle⟩
      · rw [show (startedWorld target access files).recvAck = false from
          hflag] at hset
        cases hset
      · rw [show (startedWorld target access files).send.queue = [] from
          hqueue] at hnode
        cases hnode
  | next h hstep ih => exact step_invariant ih hstep

/-- Stopped before its third transmission. -/
structure StopsEarly (target : Target) (s : SenderState)
    (out : SenderState × List SenderEvent) (node : SendNode) (i : Nat) :
    Prop where
  step : SenderStep target s out
  message : s.phase.message = some (node, i)
  early : i + 1 < 3
  stop : out.1.phase = .idle

theorem StopsEarly.flag {target : Target} {s : SenderState}
    {out : SenderState × List SenderEvent} {node : SendNode} {i : Nat}
    (h : StopsEarly target s out node i) (hcounted : s.phase.Counted) :
    s.world.recvAck = true ∧ out.2 = [.acked node (i + 1)] := by
  obtain ⟨hstep, hmessage, hearly, hstop⟩ := h
  cases hstep with
  | pop w => cases hmessage
  | test w node' i' =>
      cases hmessage
      unfold testRecvAck at *
      split_ifs at * with hset
      exact ⟨hset, rfl⟩
  | wake w node' i' hset =>
      cases hmessage
      exact ⟨hset, rfl⟩
  | timeout w node' i' =>
      cases hmessage
      obtain ⟨hrepeat, -⟩ := hcounted node i rfl
      have hcount : ¬ node.header.sendRepeat + UInt8.ofNat (i + 1) ≥ 3 := by
        rw [hrepeat]
        rcases (by omega : i = 0 ∨ i = 1) with rfl | rfl
        · decide
        · decide
      rw [timeoutMessage, if_neg hcount, if_pos hearly] at hstop
      cases hstop
  | frame w phase r =>
      rw [show phase = .idle from hstop] at hmessage
      cases hmessage
  | others w w' phase =>
      rw [show phase = .idle from hstop] at hmessage
      cases hmessage

/-- A message that is not transmitted a third time has been stopped by an
acknowledgement that stopped no other message. -/
theorem sender_stops {target : Target} {s : SenderState}
    {trace : List SenderEvent} (h : SenderRun target s trace)
    {out : SenderState × List SenderEvent} {node : SendNode} {i : Nat}
    (hstops : StopsEarly target s out node i) :
    out.2 = [.acked node (i + 1)] ∧ Pending target trace := by
  obtain ⟨hflag, hout⟩ := hstops.flag h.invariant.counted
  exact ⟨hout, h.invariant.flag hflag⟩

end SanbaoProt
