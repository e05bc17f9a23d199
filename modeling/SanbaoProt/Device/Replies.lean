import SanbaoProt.Device.Process

/-!
# Replies

The messages of commands of which the device is not the master are its replies.
Handling a frame sends at most one of them, with the serial number that was
recorded of the frame, whatever reports and media packets are sent beside it.
`Replying` says so of the effects of a handler, and `decodedFrame` reads the
node that was queued with the decoder of the protocol.
-/

namespace SanbaoProt

open Library

def Effect.replyNode : Effect → Option SendNode
  | .send cmd _ node => if masterIsMe cmd then none else some node
  | _ => none

def replyNodes (effects : List Effect) : List SendNode :=
  effects.filterMap Effect.replyNode

@[simp] theorem replyNodes_nil : replyNodes [] = [] := rfl

@[simp] theorem replyNodes_append (first second : List Effect) :
    replyNodes (first ++ second) = replyNodes first ++ replyNodes second :=
  List.filterMap_append

theorem replyNodes_eq_nil {effects : List Effect}
    (h : ∀ e ∈ effects, e.replyNode = none) : replyNodes effects = [] :=
  List.filterMap_eq_nil_iff.mpr h

theorem replyNodes_send {cmd : UInt8} (h : masterIsMe cmd = false)
    (payload : List UInt8) (node : SendNode) :
    replyNodes [.send cmd payload node] = [node] := by
  simp [replyNodes, Effect.replyNode, h]

theorem length_devInfo : devInfo.length = 96 := by decide

/-- No reply was sent, or one with the recorded serial number, whose payload is
no longer than the device information. -/
def Replying (target : Target) (serial : UInt16) (cmd : UInt8)
    (effects : List Effect) : Prop :=
  replyNodes effects = [] ∨
    masterIsMe cmd = false ∧ ∃ (w : World) (payload : List UInt8),
      w.send.recvSerialNum = serial ∧ payload.length ≤ devInfo.length ∧
        replyNodes effects = [sentNode target w cmd payload]

section

variable {target : Target} {serial : UInt16} {cmd : UInt8}

theorem Replying.send {w : World} (hserial : w.send.recvSerialNum = serial)
    (hcmd : masterIsMe cmd = false) {payload : List UInt8}
    (hsize : payload.length ≤ devInfo.length) :
    Replying target serial cmd (sendMessage target cmd payload w).2 := by
  rw [sendMessage_apply]
  exact .inr ⟨hcmd, w, payload, hserial, hsize, replyNodes_send hcmd _ _⟩

theorem Replying.sendInPlace {w : World}
    (hserial : w.send.recvSerialNum = serial) (hcmd : masterIsMe cmd = false)
    (msg : Mem UInt8) :
    Replying target serial cmd
      (messageQueueSend target w msg cmd []).effects := by
  rw [(messageQueueSend_spec target w msg cmd []).2.1]
  exact .inr ⟨hcmd, w, [], hserial, Nat.zero_le _, replyNodes_send hcmd _ _⟩

theorem Replying.before {effects after : List Effect}
    (h : Replying target serial cmd effects) (hafter : replyNodes after = []) :
    Replying target serial cmd (effects ++ after) := by
  rw [Replying, replyNodes_append, hafter, List.append_nil]
  exact h

theorem Replying.after {before effects : List Effect}
    (hbefore : replyNodes before = [])
    (h : Replying target serial cmd effects) :
    Replying target serial cmd (before ++ effects) := by
  rw [Replying, replyNodes_append, hbefore, List.nil_append]
  exact h

/-! ## What goes out beside a reply -/

theorem sendReport_noReply {w : World} {r : Report} (h : Report.Stores w r) :
    replyNodes (sendReport target r).2 = [] := by
  have hstored : replyNodes r.effects = [] := by
    refine replyNodes_eq_nil fun e he => ?_
    have hstoring := h.2 e he
    cases e with
    | send cmd payload node => cases hstoring
    | _ => rfl
  have hreport : (sendReport target r).2 = r.effects ++
      (sendMessage target sampleCmdWarningReport r.payload r.world).2 := rfl
  rw [hreport, replyNodes_append, hstored, sendMessage_apply]
  rfl

theorem doSnapShot_noReply (env : Env) (w : World) :
    replyNodes (doSnapShot target env w).2 = [] := by
  unfold doSnapShot
  cases target.build with
  | dms => exact sendReport_noReply (buildDmsWarnFrame_storing ..)
  | adas => exact sendReport_noReply (buildAdasWarnFrame_storing ..)

theorem sampleSendImage_noReply (env : Env) (w : World) :
    replyNodes (sampleSendImage target env w).2 = [] := by
  unfold sampleSendImage
  cases env.media w.transfer.id with
  | none => rfl
  | some content =>
      simp only
      split_ifs
      · rw [Act.andThen_snd, sendMessage_apply]
        rfl
      · rfl

theorem recvAckAndSendImage_noReply (env : Env) (msg : Mem UInt8) (w : World) :
    replyNodes (recvAckAndSendImage target env msg w).2 = [] := by
  unfold recvAckAndSendImage
  split_ifs
  · rfl
  · rfl
  · rfl
  · rw [Act.andThen_snd, replyNodes_append, sampleSendImage_noReply]
    rfl

theorem doFactoryReset_noReply (env : Env) (devId : UInt8) (w : World) :
    replyNodes (doFactoryReset env devId w).2 = [] := by
  obtain ⟨para, files, hreset⟩ := doFactoryReset_para env devId w
  rw [hreset]
  rfl

/-! ## The handlers -/

theorem sendMmReqAck_replying {w : World}
    (hserial : w.send.recvSerialNum = serial) (env : Env) (msg : Mem UInt8)
    (len : Nat) :
    Replying target serial sampleCmdReqMmData
      (sendMmReqAck target env w msg len).effects := by
  unfold sendMmReqAck
  split
  · exact .inl rfl
  simp only
  split
  · exact (Replying.sendInPlace hserial (by decide) msg).before
      (sampleSendImage_noReply env _)
  · exact .inl rfl

theorem recvUpgradeTrans_replying {w : World}
    (hserial : w.send.recvSerialNum = serial) (env : Env) (msg : Mem UInt8)
    (len : Nat) :
    Replying target serial sampleCmdUpgrade
      (recvUpgradeTrans target env msg len w).2 := by
  have hreply : ∀ (w' : World) (result : UInt8),
      w'.send.recvSerialNum = serial →
      Replying target serial sampleCmdUpgrade
        (upgradeReply target msg result w').2 := fun w' result hserial' =>
    .send hserial' (by decide) (by simp [length_devInfo])
  unfold recvUpgradeTrans
  simp only
  split_ifs
  · exact hreply _ 0 hserial
  · exact .after rfl (hreply _ 0 hserial)
  · exact hreply _ 1 hserial
  · exact hreply _ 0 hserial

theorem recvUpgradeFile_replying {w : World}
    (hserial : w.send.recvSerialNum = serial) (env : Env) (msg : Mem UInt8)
    (len : Nat) :
    Replying target serial sampleCmdUpgrade
      (recvUpgradeFile target env msg len w).2 := by
  have hreply : ∀ w' : World, w'.send.recvSerialNum = serial →
      Replying target serial sampleCmdUpgrade
        (sendMessage target sampleCmdUpgrade [msg payloadOffset, 0] w').2 :=
    fun w' hserial' => .send hserial' (by decide) (by simp [length_devInfo])
  unfold recvUpgradeFile
  simp only
  split_ifs
  · exact (hreply w hserial).before rfl
  · exact .after rfl (hreply _ hserial)
  · exact hreply w hserial
  · exact recvUpgradeTrans_replying hserial env msg len
  · exact .inl rfl

theorem sendParaSetting_replying {w : World}
    (hserial : w.send.recvSerialNum = serial) (msg : Mem UInt8) (len : Nat) :
    Replying target serial sampleCmdGetParam
      (sendParaSetting target msg len w).2 := by
  unfold sendParaSetting
  split_ifs
  · exact .inl rfl
  · exact .send hserial (by decide)
      (by simp [length_devInfo])
  · exact .send hserial (by decide)
      (by simp [length_devInfo])
  · exact .inl rfl

theorem recvParaSetting_replying {w : World}
    (hserial : w.send.recvSerialNum = serial) (env : Env) (msg : Mem UInt8)
    (len : Nat) :
    Replying target serial sampleCmdSetParam
      (recvParaSetting target env msg len w).2 :=
  .send (by rw [storeReceivedPara_send, hserial]) (by decide)
    (by simp [length_devInfo])

theorem replyWorkStatus_replying {w : World}
    (hserial : w.send.recvSerialNum = serial) (len : Nat) :
    Replying target serial sampleCmdReqStatus
      (replyWorkStatus target len w).2 := by
  unfold replyWorkStatus
  split_ifs
  · exact .send hserial (by decide) (by decide)
  · exact .inl rfl

theorem sendSnapShotAck_replying {w : World}
    (hserial : w.send.recvSerialNum = serial) (len : Nat) :
    Replying target serial sampleCmdSnapShot
      (sendSnapShotAck target len w).2 := by
  unfold sendSnapShotAck
  split_ifs
  · exact .send hserial (by decide) (by decide)
  · exact .inl rfl

theorem noticeAckMsg_noReply (len : Nat) (w : World) :
    replyNodes ((if len = emptyFrameLen then noticeAckMsg else .skip) w).2 =
      [] := by
  split_ifs <;> rfl

theorem speedInfo_noReply (msg : Mem UInt8) (len : Nat) (w : World) :
    replyNodes (((writeRealTimeData msg len).andThen
      (.modify fun w' => { w' with heartBeat := true })) w).2 = [] := by
  unfold writeRealTimeData
  split_ifs <;> rfl

theorem handleCmd_replying (env : Env) {w : World}
    (hserial : w.send.recvSerialNum = serial) (msg : Mem UInt8) (len : Nat) :
    Replying target serial (headerCmd msg)
      (handleCmd target env w msg len).effects := by
  unfold handleCmd
  cases hcode : SampleCmd.ofCode (headerCmd msg) with
  | none => exact .inl rfl
  | some cmd =>
      rw [SampleCmd.code_of_ofCode hcode]
      cases cmd with
      | query => exact .sendInPlace hserial (by decide) msg
      | factoryReset =>
          exact (Replying.sendInPlace hserial (by decide) msg).before
            (doFactoryReset_noReply env _ _)
      | speedInfo => exact .inl (speedInfo_noReply msg len w)
      | deviceInfo => exact .send hserial (by decide) le_rfl
      | upgrade => exact recvUpgradeFile_replying hserial env msg len
      | getParam => exact sendParaSetting_replying hserial msg len
      | setParam => exact recvParaSetting_replying hserial env msg len
      | warningReport => exact .inl (noticeAckMsg_noReply len w)
      | reqStatus => exact replyWorkStatus_replying hserial len
      | uploadStatus => exact .inl (noticeAckMsg_noReply len w)
      | reqMmData => exact sendMmReqAck_replying hserial env msg len
      | uploadMmData => exact .inl (recvAckAndSendImage_noReply env msg w)
      | snapShot =>
          exact (sendSnapShotAck_replying hserial len).before
            (doSnapShot_noReply env _)

end

/-! ## The reply as the host decodes it -/

/-- What the decoder delivers of the bytes of a node, from any buffer. -/
def decodedFrames (msg : Mem UInt8) (node : SendNode) : List (List UInt8) :=
  deliveries (unescaple.outputs (clearFrameFlag, msg) (node.buf.getD []))

/-- A valid frame of the device that answers the request in `request`. -/
structure Answers (target : Target) (request : Mem UInt8)
    (frame : List UInt8) : Prop where
  checksum : sampleCalcSum (Mem.ofList frame) frame.length =
    Mem.ofList frame 1
  cmd : headerCmd (Mem.ofList frame) = headerCmd request
  serialNum : headerSerialNum (Mem.ofList frame) = headerSerialNum request
  deviceId : headerDeviceId (Mem.ofList frame) = target.build.deviceId

theorem decodedFrames_sentNode (target : Target) (msg : Mem UInt8) (w : World)
    (cmd : UInt8) {payload : List UInt8}
    (hsize : payload.length ≤ devInfo.length) :
    decodedFrames msg (sentNode target w cmd payload) =
      [(sentFrame target w cmd payload).bytes] := by
  have hbound : devInfo.length + 9 ≤ dataBufSize := by decide
  let f : WellFormedFrame :=
    { sentFrame target w cmd payload with
      fits := (Nat.add_le_add_right hsize 9).trans hbound }
  have hidle : Represents (clearFrameFlag, msg) .idle := rfl
  obtain ⟨-, hdelivers⟩ := unescaple_simulates.run hidle f.wire
  obtain ⟨-, -, hframe⟩ := receiver_wire_idle f
  change deliveries (unescaple.outputs (clearFrameFlag, msg) f.wire) =
    [f.bytes]
  rw [hdelivers, hframe]

/-- Handling a frame queues at most one message of a command of which the
device is not the master.  It decodes to a frame that answers the request, and
it waits for no acknowledgement. -/
theorem replies_answer {target : Target} {r : Received}
    (hfor : isForDevice target r.msg) (w : World) :
    (replyNodes ((device target).step w r).2).length ≤ 1 ∧
      ∀ node ∈ replyNodes ((device target).step w r).2,
        node.header.ackStatus = msgAckReady ∧
          ∀ msg, ∃ frame, decodedFrames msg node = [frame] ∧
            Answers target r.msg frame := by
  have hreplying : Replying target (headerSerialNum r.msg) (headerCmd r.msg)
      ((device target).step w r).2 := by
    simp only [device, Handled.result_snd, sampleOnCmd, if_pos hfor]
    exact handleCmd_replying r.env rfl r.msg r.len
  rcases hreplying with hnone | ⟨hcmd, w', payload, hserial, hsize, hone⟩
  · rw [hnone]
    exact ⟨Nat.zero_le 1, fun node hnode => by cases hnode⟩
  · rw [hone]
    refine ⟨le_rfl, fun node hnode => ?_⟩
    rw [List.mem_singleton.mp hnode]
    refine ⟨?_, fun msg => ⟨_, decodedFrames_sentNode target msg w' _ hsize,
      ?_⟩⟩
    · simp [sentNode, ackStatus, hcmd]
    · let f := sentFrame target w' (headerCmd r.msg) payload
      have hread : InBuffer f (Mem.ofList f.bytes) := Mem.read_ofList f.bytes
      obtain ⟨hnum, hdevice, hcode⟩ := hread.header
      refine ⟨sampleCalcSum_of_read hread, hcode, hnum.trans ?_, hdevice⟩
      simp [f, sentFrame, serialNum, hcmd, hserial]

/-- A query to all devices. -/
def broadcastQuery : Frame where
  serialNum := 0x7E7D
  vendorId := vendorId
  deviceId := sampleDeviceIdBrdcst
  cmd := sampleCmdQuery
  payload := []

theorem replies_answer_query :
    (replyNodes ((device adasTcp).step (freshWorld adasTcp)
        (.ofFrame Env.plain broadcastQuery)).2).length = 1 ∧
      ∀ node ∈ replyNodes ((device adasTcp).step (freshWorld adasTcp)
          (.ofFrame Env.plain broadcastQuery)).2,
        node.header.ackStatus = msgAckReady :=
  ⟨rfl, fun node hnode =>
    ((replies_answer (.inr (by decide +kernel))
      (freshWorld adasTcp)).2 node hnode).1⟩

end SanbaoProt
