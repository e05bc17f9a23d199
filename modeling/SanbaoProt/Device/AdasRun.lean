import SanbaoProt.Device.DmsReport
import SanbaoProt.Device.Headway

/-!
# Runs of the ADAS device

The threads that send messages: received frames, CAN frames, timed snapshots
and the work status sent on connecting.  The other threads may change whatever
they like between two of these, but they write neither the parameters nor the
media remembered of the last begun alert.  `HandlerSent` says what a received
frame can send, `trigger_preserves` what the warnings of a CAN frame leave to
the headway alert after them.
-/

namespace SanbaoProt

open Library

structure AdasDevice where
  can : Can700
  world : World

inductive AdasInput where
  | frame (r : Received)
  | can (f : CanFrame)
  | snap (env : Env)
  | workStatus
  /-- What the other threads make of the world. -/
  | others (world : World)

def autoSendWorkStatus (target : Target) : Act :=
  sendMessage target sampleCmdUploadStatus moduleStatus

def adasTarget (i : Interface) : Target := ⟨.adas, i⟩

def adasDevice (i : Interface) : Mealy AdasDevice AdasInput Effect where
  step s
    | .frame r =>
        let out := (device (adasTarget i)).step s.world r
        ({ s with world := out.1 }, out.2)
    | .can f =>
        let out := dealWsiAdasCan700 (adasTarget i) f s.can s.world
        (⟨out.1, out.2.1⟩, out.2.2)
    | .snap env =>
        let out := doSnapShot (adasTarget i) env s.world
        ({ s with world := out.1 }, out.2)
    | .workStatus =>
        let out := autoSendWorkStatus (adasTarget i) s.world
        ({ s with world := out.1 }, out.2)
    | .others world =>
        ({ s with
            world :=
              { world with
                para := s.world.para
                files := s.world.files
                mediaBegin := s.world.mediaBegin } }, [])

def adasStarted (i : Interface) (access : ParaFileAccess)
    (files : ParaFiles) : AdasDevice :=
  ⟨Can700.zero, startedWorld (adasTarget i) access files⟩

/-! ## The length of a report -/

/-- Nine photos and two videos. -/
def alertMediaMax : Nat := 11

namespace Report

theorem alertMedia_requested_le {r : Report}
    (hnone : mmIdRequests r.effects = [])
    (hphotos : r.mm.photoEnable = true →
      r.mm.photoNum.toNat < warnSnapNumMax) (target : Target) :
    (mmIdRequests (r.alertMedia target).effects).sum ≤ alertMediaMax := by
  have hphoto : r.photoRequests.sum ≤ 9 :=
    photoRequests_sum_le fun henable => Nat.le_of_lt_succ (hphotos henable)
  have hvideo := videoRequests_sum_le r
  rw [alertMedia_requests, hnone, List.nil_append, List.sum_append,
    List.sum_append]
  simp only [alertMediaMax]
  omega

theorem snapMedia_requested_le {r : Report}
    (hnone : mmIdRequests r.effects = [])
    (hphotos : r.mm.photoNum.toNat ≤ warnSnapNumMax) (target : Target) :
    (mmIdRequests (r.snapMedia target).effects).sum ≤ alertMediaMax := by
  have hphoto := photoRequests_sum_le fun _ => hphotos
  rw [snapMedia_requests, hnone, List.nil_append]
  simp only [warnSnapNumMax, alertMediaMax] at *
  omega

theorem Counted.mmNum_le {r : Report} (h : r.Counted)
    (hsum : (mmIdRequests r.effects).sum ≤ alertMediaMax) :
    r.mmNum.toNat ≤ alertMediaMax := by
  rw [h, UInt8.toNat_ofNat']
  exact (Nat.mod_le _ _).trans hsum

end Report

/-! ## What the builder leaves behind -/

namespace Report

/-- The media remembered of the last begun alert. -/
def begun (r : Report) : MediaBegin := r.world.mediaBegin

theorem addPhotos_begun (r : Report) : r.addPhotos.begun = r.begun := by
  unfold addPhotos
  split_ifs <;> rfl

theorem addVideo_begun (r : Report) : r.addVideo.begun = r.begun := by
  unfold addVideo
  split_ifs <;> rfl

theorem store_begun (target : Target) (another : UInt8) (r : Report) :
    (store target another r).begun = r.begun := by
  unfold store act begun pushMmQueue
  cases target.interface <;> rfl

theorem alertMedia_begun (target : Target) (r : Report) :
    (r.alertMedia target).begun = r.begun := by
  have hown : (store target 0 r.addPhotos.addVideo).begun = r.begun := by
    rw [store_begun, addVideo_begun, addPhotos_begun]
  unfold alertMedia
  simp only
  split_ifs
  · rw [store_begun, addVideo_begun]
    exact hown
  · exact hown

theorem snapMedia_begun (target : Target) (r : Report) :
    (r.snapMedia target).begun = r.begun := by
  unfold snapMedia
  split_ifs
  · rw [store_begun, addPhotos_begun]
  · rfl

end Report

section

variable (target : Target) (w : World) (type : UInt8) (msgbuf : Mem UInt8)

theorem buildAdasWarnFrame_begun {statusFlag : UInt8}
    (h : statusFlag ≠ sbWarnStatusBegin) :
    (buildAdasWarnFrame target w type statusFlag msgbuf).world.mediaBegin =
      w.mediaBegin := by
  let filled := fillReport w (getAdasInfoForStore type w.para.adas) type
    statusFlag msgbuf
  have hfilled : filled.begun = w.mediaBegin := rfl
  unfold buildAdasWarnFrame
  simp only
  split_ifs
  · rfl
  · exact (Report.alertMedia_begun target filled).trans hfilled
  · exact (Report.snapMedia_begun target filled).trans hfilled
  · rfl

/-- Neither the parameters nor the remembered media make the list of a report
longer than that of an alert. -/
structure MediaBounded (w : World) : Prop where
  photoNum : (w.para.adas AdasPara.photoNum).toNat ≤ warnSnapNumMax
  begun : w.mediaBegin.num.toNat ≤ alertMediaMax

theorem getAdasInfoForStore_snap (para : AdasPara) :
    (getAdasInfoForStore sbWarnTypeSnap para).photoNum =
      para AdasPara.photoNum := rfl

theorem buildAdasWarnFrame_mmNum_le (h : MediaBounded w)
    (statusFlag : UInt8) :
    (buildAdasWarnFrame target w type statusFlag msgbuf).mmNum.toNat ≤
        alertMediaMax ∧
      MediaBounded
        (buildAdasWarnFrame target w type statusFlag msgbuf).world := by
  let filled := fillReport w (getAdasInfoForStore type w.para.adas) type
    statusFlag msgbuf
  let listed :=
    if (adasMediaFields type).isSome then filled.alertMedia target
    else if type = sbWarnTypeSnap then filled.snapMedia target
    else filled
  have hcounted : filled.Counted := fillReport_counted ..
  have hnone : mmIdRequests filled.effects = [] := by simp [filled, fillReport]
  have hlisted : listed.mmNum.toNat ≤ alertMediaMax := by
    simp only [listed]
    split_ifs with hfields hsnap
    · exact (Report.alertMedia_counted hcounted target).mmNum_le
        (Report.alertMedia_requested_le hnone
          (getAdasInfoForStore_photoNum hfields) target)
    · have hphotos : filled.mm.photoNum.toNat ≤ warnSnapNumMax := by
        simp only [filled, fillReport, hsnap, getAdasInfoForStore_snap]
        exact h.photoNum
      exact (Report.snapMedia_counted hcounted target).mmNum_le
        (Report.snapMedia_requested_le hnone hphotos target)
    · refine hcounted.mmNum_le ?_
      rw [hnone]
      exact Nat.zero_le _
  have hpara := (buildAdasWarnFrame_storing target w type statusFlag
    msgbuf).1.para
  have hphoto : ((buildAdasWarnFrame target w type statusFlag
      msgbuf).world.para.adas AdasPara.photoNum).toNat ≤ warnSnapNumMax := by
    rw [show _ = w.para from hpara]
    exact h.photoNum
  by_cases hend : statusFlag = sbWarnStatusEnd
  · refine ⟨?_, hphoto, ?_⟩
    · rw [buildAdasWarnFrame]
      simp only [if_pos hend, Report.mmNum, Mem.store_self]
      exact h.begun
    · rw [buildAdasWarnFrame_begun target w type msgbuf
        (by rw [hend]; decide)]
      exact h.begun
  · by_cases hbegin : statusFlag = sbWarnStatusBegin
    · rw [buildAdasWarnFrame]
      simp only [if_neg hend, if_pos hbegin]
      refine ⟨hlisted, ?_, hlisted⟩
      rw [buildAdasWarnFrame] at hphoto
      simp only [if_neg hend, if_pos hbegin] at hphoto
      exact hphoto
    · refine ⟨?_, hphoto, ?_⟩
      · rw [buildAdasWarnFrame]
        simp only [if_neg hend, if_neg hbegin]
        exact hlisted
      · rw [buildAdasWarnFrame_begun target w type msgbuf hbegin]
        exact h.begun

end

/-! ## What a received frame can send -/

/-- The payloads that the handlers send; the report of a snapshot is as long
as the parameters say. -/
def handlerPayload (para : AdasPara) (payload : List UInt8) :
    SampleCmd → Prop
  | .query => payload = []
  | .factoryReset => payload = []
  | .speedInfo => False
  | .deviceInfo => payload = devInfo
  | .upgrade =>
      if payload.head? = some upgradeCmdTrans then payload.length = 6
      else payload.length = 2
  | .getParam => payload.length ≤ 50
  | .setParam => payload.length = 1
  | .warningReport =>
      payload[soundTypeOffset]? = some sbWarnTypeSnap ∧
        ((para AdasPara.photoNum).toNat ≤ warnSnapNumMax →
          payload.length ≤ warnFrameSize + alertMediaMax * 5)
  | .reqStatus => payload.length = 5
  | .uploadStatus => payload.length = 5
  | .reqMmData => payload = []
  | .uploadMmData =>
      9 < payload.length ∧ payload.length ≤ 9 + imageSizePerPacket
  | .snapShot => payload.length = 1

inductive HandlerSent (target : Target) (para : AdasPara) : Effect → Prop where
  | send (c : SampleCmd) (payload : List UInt8) (w : World)
      (h : handlerPayload para payload c) :
      HandlerSent target para
        (.send c.code payload (sentNode target w c.code payload))
  | silent {e : Effect} (h : ∀ cmd payload node, e ≠ .send cmd payload node) :
      HandlerSent target para e

/-- The remembered media are kept and only messages of the handlers sent. -/
structure Handles (target : Target) (para : AdasPara) (w : World)
    (out : World × List Effect) : Prop where
  begun : out.1.mediaBegin = w.mediaBegin
  sent : ∀ e ∈ out.2, HandlerSent target para e

section

variable {target : Target} {para : AdasPara} {w : World}

theorem Handles.skip : Handles target para w (w, []) :=
  ⟨rfl, fun e he => by cases he⟩

theorem Handles.send (c : SampleCmd) {payload : List UInt8}
    (h : handlerPayload para payload c) :
    Handles target para w (sendMessage target c.code payload w) := by
  rw [sendMessage_apply]
  refine ⟨rfl, fun e he => ?_⟩
  rw [List.mem_singleton.mp he]
  exact .send c payload w h

theorem Handles.sendInPlace (c : SampleCmd) (msg : Mem UInt8)
    (h : handlerPayload para [] c) :
    let sent := messageQueueSend target w msg c.code []
    Handles target para w (sent.world, sent.effects) := by
  intro sent
  obtain ⟨hworld, heffects, -⟩ := messageQueueSend_spec target w msg c.code []
  have hbegun : sent.world.mediaBegin = w.mediaBegin := by
    rw [show sent.world = _ from hworld]
    rfl
  refine ⟨hbegun, fun e he => ?_⟩
  rw [show sent.effects = _ from heffects] at he
  rw [List.mem_singleton.mp he]
  exact .send c [] w h

theorem Handles.andThen {w' : World} {first : List Effect}
    (h : Handles target para w (w', first)) {out : World × List Effect}
    (h' : Handles target para w' out) :
    Handles target para w (out.1, first ++ out.2) := by
  refine ⟨h'.begun.trans h.begun, fun e he => ?_⟩
  rcases List.mem_append.mp he with hfirst | hsecond
  · exact h.sent e hfirst
  · exact h'.sent e hsecond

/-- A step that sends nothing and keeps the remembered media. -/
theorem Handles.quiet {out : World × List Effect}
    (hbegun : out.1.mediaBegin = w.mediaBegin)
    (hsilent : ∀ e ∈ out.2, ∀ cmd payload node,
      e ≠ .send cmd payload node) : Handles target para w out :=
  ⟨hbegun, fun e he => .silent (hsilent e he)⟩

theorem storing_silent {effects : List Effect}
    (h : AllOf Effect.isStoring effects) :
    ∀ e ∈ effects, ∀ cmd payload node, e ≠ .send cmd payload node := by
  rintro e he cmd payload node rfl
  exact absurd (h _ he) (by simp [Effect.isStoring])

theorem doSnapShot_handles (hbuild : target.build = .adas) (env : Env)
    (w : World) :
    Handles target w.para.adas w (doSnapShot target env w) := by
  let r := buildAdasWarnFrame target w sbWarnTypeSnap sbWarnStatusNone
    env.msgbuf
  have hsnap : doSnapShot target env w = sendReport target r := by
    rw [doSnapShot, hbuild]
  have hbegun : r.world.mediaBegin = w.mediaBegin :=
    buildAdasWarnFrame_begun target w _ _ (by decide)
  have hstores : Report.Stores w r := buildAdasWarnFrame_storing ..
  have hstored : Handles target w.para.adas w (r.world, r.effects) :=
    .quiet hbegun (storing_silent hstores.2)
  rw [hsnap]
  refine hstored.andThen (.send .warningReport ⟨?_, fun hphotos => ?_⟩)
  · rw [r.getElem?_payload (by decide)]
    exact congrArg some (buildAdasWarnFrame_head target w _ _ _).2
  · have hfilled := fillReport_counted w
      (getAdasInfoForStore sbWarnTypeSnap w.para.adas) sbWarnTypeSnap
      sbWarnStatusNone env.msgbuf
    have hnum : r.mmNum.toNat ≤ alertMediaMax :=
      (Report.snapMedia_counted hfilled target).mmNum_le
        (Report.snapMedia_requested_le (by simp [fillReport])
          (by simpa [fillReport, getAdasInfoForStore_snap] using hphotos)
          target)
    rw [Report.payload, Mem.length_read, Report.length]
    omega

theorem sampleSendImage_handles (env : Env) (w : World) :
    Handles target para w (sampleSendImage target env w) := by
  unfold sampleSendImage
  cases env.media w.transfer.id with
  | none => exact .skip
  | some content =>
      simp only
      split_ifs with hsends
      · have hdata := List.length_pos_iff.mpr hsends.2
        have hsize : (readPacket content w.transfer.packetIndex).length ≤
            imageSizePerPacket := by
          rw [readPacket, List.length_take]
          exact Nat.min_le_left _ _
        have hheader : (mmPacketHeader w.transfer).length = 9 := by
          simp [mmPacketHeader]
        have hsent : Handles target para w (sendMessage target
            sampleCmdUploadMmData (mmPacketHeader w.transfer ++
              readPacket content w.transfer.packetIndex) w) := by
          refine .send .uploadMmData ?_
          simp only [handlerPayload, List.length_append, hheader]
          omega
        exact ⟨hsent.begun, by simpa using hsent.sent⟩
      · exact .skip

theorem recvAckAndSendImage_handles (env : Env) (msg : Mem UInt8)
    (w : World) :
    Handles target para w (recvAckAndSendImage target env msg w) := by
  have hnotice : Handles target para w (noticeAckMsg w) :=
    .quiet rfl (by simp [noticeAckMsg])
  unfold recvAckAndSendImage
  split_ifs
  · exact .skip
  · exact .skip
  · exact .quiet rfl (by simp [noticeAckMsg])
  · exact hnotice.andThen (sampleSendImage_handles env _)

theorem sendMmReqAck_handles (env : Env) (w : World) (msg : Mem UInt8)
    (len : Nat) :
    Handles target para w (sendMmReqAck target env w msg len).result := by
  unfold sendMmReqAck
  split
  · exact .skip
  simp only
  split
  · have hack : Handles target para w _ := .sendInPlace .reqMmData msg rfl
    have hstarted : Handles target para w
        ({ (messageQueueSend target w msg sampleCmdReqMmData []).world with
            transfer := startedTransfer msg
              (getFileSize (env.media (requestedId msg))) },
          (messageQueueSend target w msg sampleCmdReqMmData []).effects) :=
      ⟨hack.begun, hack.sent⟩
    exact hstarted.andThen (sampleSendImage_handles env _)
  · exact .skip

theorem doFactoryReset_handles (env : Env) (devId : UInt8) (w : World) :
    Handles target para w (doFactoryReset env devId w) := by
  obtain ⟨para', files, hreset⟩ := doFactoryReset_para env devId w
  rw [hreset]
  exact .quiet rfl (by simp)

theorem recvParaSetting_handles (env : Env) (msg : Mem UInt8) (len : Nat)
    (w : World) :
    Handles target para w (recvParaSetting target env msg len w) := by
  obtain ⟨para', files, hstored⟩ := storeReceivedPara_para env msg len w
  have hsent : Handles target para (storeReceivedPara env msg len w).1
      (recvParaSetting target env msg len w) := .send .setParam rfl
  refine ⟨hsent.begun.trans ?_, hsent.sent⟩
  rw [hstored]

theorem sendParaSetting_handles (msg : Mem UInt8) (len : Nat) (w : World) :
    Handles target para w (sendParaSetting target msg len w) := by
  unfold sendParaSetting
  split_ifs
  · exact .skip
  · exact .send .getParam (by simp [handlerPayload])
  · exact .send .getParam (by simp [handlerPayload])
  · exact .skip

theorem recvUpgradeTrans_handles (env : Env) {msg : Mem UInt8}
    (htrans : msg payloadOffset = upgradeCmdTrans) (len : Nat) (w : World) :
    Handles target para w (recvUpgradeTrans target env msg len w) := by
  have hreply : ∀ (w' : World) (result : UInt8),
      Handles target para w' (upgradeReply target msg result w') := by
    intro w' result
    refine .send .upgrade ?_
    simp [handlerPayload, Mem.read_succ, htrans]
  have hkept : ∀ (upgrade : Upgrade) (effects : List Effect),
      (∀ e ∈ effects, ∀ cmd payload node, e ≠ .send cmd payload node) →
      Handles target para w ({ w with upgrade := upgrade }, effects) :=
    fun _ _ hsilent => .quiet rfl hsilent
  unfold recvUpgradeTrans
  simp only
  split_ifs
  · exact (hkept _ [] (by simp)).andThen (hreply _ 0)
  · exact (hkept _ _ (by simp [upgradeFileCmd])).andThen (hreply _ 0)
  · exact (hkept _ [] (by simp)).andThen (hreply _ 1)
  · exact (hkept _ [] (by simp)).andThen (hreply _ 0)

theorem recvUpgradeFile_handles (env : Env) (msg : Mem UInt8) (len : Nat)
    (w : World) :
    Handles target para w (recvUpgradeFile target env msg len w) := by
  have hreply : ∀ (w' : World), msg payloadOffset ≠ upgradeCmdTrans →
      Handles target para w'
        (sendMessage target sampleCmdUpgrade [msg payloadOffset, 0] w') := by
    intro w' hother
    refine .send .upgrade ?_
    simp [handlerPayload, hother]
  unfold recvUpgradeFile
  simp only
  split_ifs with hrun hclean hstart htrans
  · have hsent := hreply w (by rw [hrun]; decide)
    exact hsent.andThen (.quiet rfl (by simp))
  · have hcleaned : Handles target para w
        ({ w with upgrade := { w.upgrade with file := none } },
          [.cleanUpgradeBin]) := .quiet rfl (by simp)
    exact hcleaned.andThen (hreply _ (by rw [hclean]; decide))
  · exact hreply w (by rw [hstart]; decide)
  · exact recvUpgradeTrans_handles env htrans len w
  · exact .skip

theorem noticeAckMsg_handles (len : Nat) (w : World) :
    Handles target para w
      ((if len = emptyFrameLen then noticeAckMsg else .skip) w) := by
  split_ifs
  · exact .quiet rfl (by simp [noticeAckMsg])
  · exact .skip

/-- Every command but the snapshot, of which the builds make different
reports. -/
theorem handleCmd_handlesOther {msg : Mem UInt8}
    (hcmd : SampleCmd.ofCode (headerCmd msg) ≠ some .snapShot) (env : Env)
    (w : World) (len : Nat) :
    Handles target w.para.adas w
      (handleCmd target env w msg len).result := by
  unfold handleCmd
  cases hcode : SampleCmd.ofCode (headerCmd msg) with
  | none => exact .skip
  | some cmd =>
      cases cmd with
      | query => exact .sendInPlace .query msg rfl
      | factoryReset =>
          have hack : Handles target w.para.adas w _ :=
            .sendInPlace .factoryReset msg rfl
          exact hack.andThen (doFactoryReset_handles env _ _)
      | speedInfo =>
          refine .quiet ?_ ?_
          · simp only [writeRealTimeData]
            split_ifs <;> rfl
          · simp only [writeRealTimeData]
            split_ifs <;> simp [Handled.andThen]
      | deviceInfo => exact .send .deviceInfo rfl
      | upgrade => exact recvUpgradeFile_handles env msg len w
      | getParam => exact sendParaSetting_handles msg len w
      | setParam => exact recvParaSetting_handles env msg len w
      | warningReport => exact noticeAckMsg_handles len w
      | reqStatus =>
          simp only [replyWorkStatus]
          split_ifs
          · exact .send .reqStatus rfl
          · exact .skip
      | uploadStatus => exact noticeAckMsg_handles len w
      | reqMmData => exact sendMmReqAck_handles env w msg len
      | uploadMmData => exact recvAckAndSendImage_handles env msg w
      | snapShot => exact absurd hcode hcmd

theorem handleCmd_handles (hbuild : target.build = .adas) (env : Env)
    (w : World) (msg : Mem UInt8) (len : Nat) :
    Handles target w.para.adas w
      (handleCmd target env w msg len).result := by
  by_cases hsnapShot : SampleCmd.ofCode (headerCmd msg) = some .snapShot
  · have hack : Handles target w.para.adas w
        (sendSnapShotAck target len w) ∧
        (sendSnapShotAck target len w).1.para = w.para := by
      unfold sendSnapShotAck
      split_ifs
      · exact ⟨.send .snapShot rfl, by simp [sentWorld]⟩
      · exact ⟨.skip, rfl⟩
    have hsnap := doSnapShot_handles hbuild env
      (sendSnapShotAck target len w).1
    rw [hack.2] at hsnap
    unfold handleCmd
    rw [hsnapShot]
    exact hack.1.andThen hsnap
  · exact handleCmd_handlesOther hsnapShot env w len

theorem device_adasHandles (hbuild : target.build = .adas) (w : World)
    (r : Received) :
    Handles target w.para.adas w ((device target).step w r) := by
  simp only [device, sampleOnCmd]
  split_ifs
  · have hhandles := handleCmd_handles hbuild r.env
      { w with send := recordRecvNum (headerSerialNum r.msg) w.send } r.msg
      r.len
    exact ⟨hhandles.begun, hhandles.sent⟩
  · exact .skip

end

/-! ## The warnings of a CAN frame -/

def KeepsMmNum (finish : Mem UInt8 → Mem UInt8) : Prop :=
  ∀ m, finish m mmNumOffset = m mmNumOffset

theorem putLdwType_keepsMmNum (warning : Packed 8) :
    KeepsMmNum (putLdwType warning) := by
  intro m
  have hstored : ∀ (m' : Mem UInt8) v,
      m'.store ldwTypeOffset v mmNumOffset = m' mmNumOffset :=
    fun m' v => Mem.store_of_ne m' v (by decide)
  unfold putLdwType
  split_ifs <;> simp only [hstored]

/-- Reports of this status keep what holds of the world and of the effects. -/
def ReportsKeep (target : Target) (P : World → List Effect → Prop)
    (statusFlag : UInt8) : Prop :=
  ∀ (a : Alerting) (type : UInt8) (finish : Mem UInt8 → Mem UInt8),
    KeepsMmNum finish → P a.world a.effects →
      P (a.report target type statusFlag finish).world
        (a.report target type statusFlag finish).effects

section

variable {target : Target} {P : World → List Effect → Prop} (f : CanFrame)
  {a : Alerting}

theorem ldwEvent_preserves (h : ReportsKeep target P sbWarnStatusNone)
    (filterTime : UInt32) (ha : P a.world a.effects) :
    P (atOut (ldwEvent target f filterTime a)).world
      (atOut (ldwEvent target f filterTime a)).effects := by
  unfold ldwEvent
  split_ifs
  · let cleared : Alerting :=
      { a with
        statics := { a.statics with ldwAlert := f.ldwNow }
        msgbuf := a.msgbuf.copy 0 (List.replicate warnFrameSize 0) }
    simp only [atOut]
    exact h cleared sbWarnTypeLdw _ (putLdwType_keepsMmNum f.warning) ha
  · exact ha
  · exact ha
  · exact ha

theorem fcwEvent_preserves (h : ReportsKeep target P sbWarnStatusNone)
    (filterTime : UInt32) (ha : P a.world a.effects) :
    P (atOut (fcwEvent target f filterTime a)).world
      (atOut (fcwEvent target f filterTime a)).effects := by
  unfold fcwEvent
  split_ifs
  · let due : Alerting :=
      { a with statics := { a.statics with fcwAlert := f.fcwNow } }
    have hkeeps : KeepsMmNum fun m => m.store soundTypeOffset sbWarnTypeFcw :=
      fun m => Mem.store_of_ne m _ (by decide)
    simp only [atOut]
    exact h due sbWarnTypeFcw _ hkeeps ha
  · exact ha
  · exact ha
  · exact ha

theorem triggerEvents_preserves (h : ReportsKeep target P sbWarnStatusNone)
    (ldwFilterTime fcwFilterTime : UInt32) (ha : P a.world a.effects) :
    P (atOut (triggerEvents target f ldwFilterTime fcwFilterTime a)).world
      (atOut (triggerEvents target f ldwFilterTime fcwFilterTime a)).effects
    := by
  unfold triggerEvents
  split_ifs
  · have hldw := ldwEvent_preserves f h ldwFilterTime ha
    cases hstep : ldwEvent target f ldwFilterTime a with
    | ok a' =>
        rw [hstep] at hldw
        exact fcwEvent_preserves f h fcwFilterTime hldw
    | error a' =>
        rw [hstep] at hldw
        exact hldw
  · exact ha

theorem hwEvent_preserves (hbegin : ReportsKeep target P sbWarnStatusBegin)
    (hend : ReportsKeep target P sbWarnStatusEnd) (filterTime : UInt32)
    (ha : P a.world a.effects) :
    P (atOut (hwEvent target f filterTime a)).world
      (atOut (hwEvent target f filterTime a)).effects := by
  unfold hwEvent
  simp only
  split_ifs
  · exact ha
  · let due : Alerting :=
      { a with statics := { a.statics with hwAlert := f.hwNow } }
    exact hbegin due sbWarnTypeHw id (fun _ => rfl) ha
  · exact ha
  · exact ha
  · exact hend a sbWarnTypeHw id (fun _ => rfl) ha
  · exact ha

/-- The headway is looked at after the warnings, unless they jumped out. -/
theorem canEvents_cases (target : Target) (w : World) (a : Alerting) :
    ∃ (ldwTime fcwTime hwTime : UInt32) (a' : Alerting),
      (triggerEvents target f ldwTime fcwTime a = .error a' ∧
          canEvents target f w a = .error a') ∨
        (triggerEvents target f ldwTime fcwTime a = .ok a' ∧
          canEvents target f w a = hwEvent target f hwTime a') := by
  let secs := fun field : Fin 50 =>
    alertFilterTime (w.para.adas field) f.alertTimeFilter
  refine ⟨secs AdasPara.ldwVideoTime, secs AdasPara.fcwVideoTime,
    secs AdasPara.hwVideoTime, ?_⟩
  cases htrigger : triggerEvents target f (secs AdasPara.ldwVideoTime)
      (secs AdasPara.fcwVideoTime) a with
  | ok a' => exact ⟨a', .inr ⟨rfl, by simp only [canEvents, secs, htrigger]⟩⟩
  | error a' =>
      exact ⟨a', .inl ⟨rfl, by simp only [canEvents, secs, htrigger]⟩⟩

theorem canEvents_preserves (hnone : ReportsKeep target P sbWarnStatusNone)
    (hbegin : ReportsKeep target P sbWarnStatusBegin)
    (hend : ReportsKeep target P sbWarnStatusEnd) (w : World)
    (ha : P a.world a.effects) :
    P (atOut (canEvents target f w a)).world
      (atOut (canEvents target f w a)).effects := by
  obtain ⟨ldwTime, fcwTime, hwTime, a', hcases⟩ :=
    canEvents_cases f target w a
  have htrigger := triggerEvents_preserves f hnone ldwTime fcwTime ha
  rcases hcases with ⟨hjump, hevents⟩ | ⟨hpass, hevents⟩
  · rw [hjump] at htrigger
    rw [hevents]
    exact htrigger
  · rw [hpass] at htrigger
    rw [hevents]
    exact hwEvent_preserves f hbegin hend hwTime htrigger

theorem dealWsiAdasCan700_preserves
    (hnone : ReportsKeep target P sbWarnStatusNone)
    (hbegin : ReportsKeep target P sbWarnStatusBegin)
    (hend : ReportsKeep target P sbWarnStatusEnd) (s : Can700) {w : World}
    (hw : P w []) :
    P (dealWsiAdasCan700 target f s w).2.1
      (dealWsiAdasCan700 target f s w).2.2 := by
  unfold dealWsiAdasCan700
  split_ifs
  · exact hw
  · exact canEvents_preserves f hnone hbegin hend w hw

end

end SanbaoProt
