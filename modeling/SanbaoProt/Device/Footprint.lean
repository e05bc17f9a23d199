import SanbaoProt.Device.Command
import SanbaoProt.Library.Mealy

/-!
# What a handler can change

Sending and reporting move the send side, the ids, the image queue and the
media of the last begun alert.  Everything else is the core of the world; of
the send side it keeps that no queued message has been transmitted.  A handler
that keeps the core and shows only reporting effects is `Quiet`.  `CoreStep`
says for each command how its handler changes the core, and every invariant of
a later file starts from `handleCmd_coreStep`.
-/

namespace SanbaoProt

open Library

def QueueFresh (w : World) : Prop :=
  ∀ node ∈ w.send.queue, node.header.sendRepeat = 0

structure SameCore (w w' : World) : Prop where
  para : w'.para = w.para
  files : w'.files = w.files
  realTime : w'.realTime = w.realTime
  heartBeat : w'.heartBeat = w.heartBeat
  recvAck : w'.recvAck = w.recvAck
  transfer : w'.transfer = w.transfer
  upgrade : w'.upgrade = w.upgrade
  running : w'.running = w.running
  queue : QueueFresh w → QueueFresh w'

namespace SameCore

theorem refl (w : World) : SameCore w w :=
  ⟨rfl, rfl, rfl, rfl, rfl, rfl, rfl, rfl, id⟩

theorem trans {w w' w'' : World} (h : SameCore w w') (h' : SameCore w' w'') :
    SameCore w w'' where
  para := h'.para.trans h.para
  files := h'.files.trans h.files
  realTime := h'.realTime.trans h.realTime
  heartBeat := h'.heartBeat.trans h.heartBeat
  recvAck := h'.recvAck.trans h.recvAck
  transfer := h'.transfer.trans h.transfer
  upgrade := h'.upgrade.trans h.upgrade
  running := h'.running.trans h.running
  queue := h'.queue ∘ h.queue

theorem media (w : World) (ids : NextIds)
    (imageQueue : List (PtrQueueNode InfoForStore))
    (mediaBegin : MediaBegin) :
    SameCore w
      { w with ids := ids, imageQueue := imageQueue, mediaBegin := mediaBegin }
    where
  para := rfl
  files := rfl
  realTime := rfl
  heartBeat := rfl
  recvAck := rfl
  transfer := rfl
  upgrade := rfl
  running := rfl
  queue := id

end SameCore

theorem sentWorld_queueFresh {w : World} (h : QueueFresh w) (target : Target)
    (cmd : UInt8) (payload : List UInt8) :
    QueueFresh (sentWorld target w cmd payload) := by
  intro node hnode
  rcases mem_ptrQueuePush hnode with hold | hnew
  · exact h node hold
  · rw [hnew]
    rfl

theorem sentWorld_sameCore (target : Target) (w : World) (cmd : UInt8)
    (payload : List UInt8) : SameCore w (sentWorld target w cmd payload) :=
  ⟨rfl, rfl, rfl, rfl, rfl, rfl, rfl, rfl,
    fun h => sentWorld_queueFresh h target cmd payload⟩

def Effect.isReporting : Effect → Bool
  | .send cmd _ _ => cmd ≠ sampleCmdUploadMmData
  | .mmIds _ => true
  | .pushMm _ => true
  | .remove _ => true
  | _ => false

def Effect.isStoring : Effect → Bool
  | .mmIds _ => true
  | .pushMm _ => true
  | .remove _ => true
  | _ => false

def AllOf (allowed : Effect → Bool) (effects : List Effect) : Prop :=
  ∀ e ∈ effects, allowed e = true

section

variable (allowed : Effect → Bool)

@[simp] theorem allOf_nil : AllOf allowed [] := by
  simp [AllOf]

@[simp] theorem allOf_cons (e : Effect) (effects : List Effect) :
    AllOf allowed (e :: effects) ↔
      allowed e = true ∧ AllOf allowed effects := by
  simp [AllOf]

@[simp] theorem allOf_append (first second : List Effect) :
    AllOf allowed (first ++ second) ↔
      AllOf allowed first ∧ AllOf allowed second := by
  simp [AllOf, or_imp, forall_and]

end

/-- The core is kept and only the allowed effects are shown. -/
def Keeps (allowed : Effect → Bool) (w : World) (out : World × List Effect) :
    Prop :=
  SameCore w out.1 ∧ AllOf allowed out.2

abbrev Quiet := Keeps Effect.isReporting

abbrev Storing := Keeps Effect.isStoring

theorem quiet_refl {allowed : Effect → Bool} (w : World) :
    Keeps allowed w (w, []) :=
  ⟨SameCore.refl w, allOf_nil allowed⟩

theorem Keeps.andThen {allowed : Effect → Bool} {w : World}
    {first second : Act} (h : Keeps allowed w (first w))
    (h' : ∀ w', Keeps allowed w' (second w')) :
    Keeps allowed w (first.andThen second w) := by
  obtain ⟨hcore, heffects⟩ := h' (first w).1
  exact ⟨h.1.trans hcore, (allOf_append _ _ _).mpr ⟨h.2, heffects⟩⟩

theorem Keeps.quiet {w : World} {out : World × List Effect}
    (h : Storing w out) : Quiet w out := by
  refine ⟨h.1, fun e he => ?_⟩
  have hstoring := h.2 e he
  cases e with
  | mmIds num => rfl
  | pushMm info => rfl
  | remove id => rfl
  | _ => cases hstoring

theorem sendMessage_quiet (target : Target) (cmd : UInt8)
    (hcmd : cmd ≠ sampleCmdUploadMmData) (payload : List UInt8) (w : World) :
    Quiet w (sendMessage target cmd payload w) := by
  rw [sendMessage_apply]
  exact ⟨sentWorld_sameCore target w cmd payload,
    by simp [Effect.isReporting, hcmd]⟩

/-! ## Reports -/

theorem clearOldMediaFile_storing (mm : InfoForStore) (w : World) :
    Storing w (clearOldMediaFile mm w) := by
  have hreplaced : ∀ id, AllOf Effect.isStoring (removeReplaced id) := by
    intro id
    unfold removeReplaced
    split_ifs <;> simp [Effect.isStoring]
  refine ⟨SameCore.refl w, ?_⟩
  simp only [clearOldMediaFile, allOf_append]
  constructor
  · split_ifs
    · simp only [allOf_append]
      constructor
      · intro e he
        obtain ⟨id, -, hid⟩ := List.mem_flatMap.mp he
        exact hreplaced id e hid
      · intro e he
        obtain ⟨id, -, rfl⟩ := List.mem_map.mp he
        rfl
    · exact allOf_nil _
  · split_ifs
    · simp [hreplaced, Effect.isStoring]
    · exact allOf_nil _

theorem pushMmQueue_storing (target : Target) (mm : InfoForStore) (w : World) :
    Storing w (pushMmQueue target mm w) := by
  unfold pushMmQueue
  cases target.interface with
  | rs232 => exact quiet_refl w
  | tcp =>
      exact ⟨.media w w.ids _ w.mediaBegin, by simp [Effect.isStoring]⟩

namespace Report

def Stores (w : World) (r : Report) : Prop :=
  Storing w (r.world, r.effects)

theorem Stores.act {w : World} {r : Report} (h : Stores w r) {a : Act}
    (ha : ∀ w', Storing w' (a w')) : Stores w (r.act a) := by
  obtain ⟨hcore, heffects⟩ := ha r.world
  exact ⟨h.1.trans hcore, (allOf_append _ _ _).mpr ⟨h.2, heffects⟩⟩

theorem Stores.takeMmIds {w : World} {r : Report} (h : Stores w r)
    (num : Nat) : Stores w (r.takeMmIds num) := by
  constructor
  · exact h.1.trans (.media r.world _ r.world.imageQueue r.world.mediaBegin)
  · exact (allOf_append _ _ _).mpr
      ⟨h.2, by simp [Effect.isStoring]⟩

theorem Stores.addPhotos {w : World} {r : Report} (h : Stores w r) :
    Stores w r.addPhotos := by
  unfold Report.addPhotos
  split_ifs
  · exact h.takeMmIds r.mm.photoNum.toNat
  · exact h

theorem Stores.addVideo {w : World} {r : Report} (h : Stores w r) :
    Stores w r.addVideo := by
  unfold Report.addVideo
  split_ifs
  · exact h.takeMmIds 1
  · exact h

theorem Stores.store {w : World} {r : Report} (h : Stores w r)
    (target : Target) (another : UInt8) : Stores w (store target another r) :=
  Stores.act (r := { r with mm := _ }) h fun w' =>
    (clearOldMediaFile_storing _ w').andThen (pushMmQueue_storing target _)

theorem Stores.alertMedia {w : World} {r : Report} (h : Stores w r)
    (target : Target) : Stores w (r.alertMedia target) := by
  let own := Report.store target 0 r.addPhotos.addVideo
  let video : Report :=
    { own with mm := { own.mm with photoEnable := false } }
  have hown : Stores w own := h.addPhotos.addVideo.store target 0
  have hvideo : Stores w video := hown
  unfold Report.alertMedia
  simp only
  split_ifs
  · exact hvideo.addVideo.store target 1
  · exact hown

theorem Stores.snapMedia {w : World} {r : Report} (h : Stores w r)
    (target : Target) : Stores w (r.snapMedia target) := by
  unfold Report.snapMedia
  split_ifs
  · exact h.addPhotos.store target 0
  · exact h

end Report

theorem fillReport_storing (w : World) (mm : InfoForStore)
    (type statusFlag : UInt8) (msgbuf : Mem UInt8) :
    Report.Stores w (fillReport w mm type statusFlag msgbuf) :=
  ⟨.media w _ w.imageQueue w.mediaBegin, allOf_nil _⟩

theorem buildAdasWarnFrame_storing (target : Target) (w : World)
    (type statusFlag : UInt8) (msgbuf : Mem UInt8) :
    Report.Stores w (buildAdasWarnFrame target w type statusFlag msgbuf) := by
  have hfill := fillReport_storing w (getAdasInfoForStore type w.para.adas) type
    statusFlag msgbuf
  have hbegun : ∀ (r : Report) (begun : MediaBegin), Report.Stores w r →
      Report.Stores w
        { r with world := { r.world with mediaBegin := begun } } :=
    fun r begun h =>
      ⟨h.1.trans (.media r.world r.world.ids r.world.imageQueue begun), h.2⟩
  unfold buildAdasWarnFrame
  simp only
  split_ifs
  · exact hfill
  · exact hbegun _ _ (hfill.alertMedia target)
  · exact hbegun _ _ (hfill.snapMedia target)
  · exact hbegun _ _ hfill
  · exact hfill.alertMedia target
  · exact hfill.snapMedia target
  · exact hfill

theorem buildDmsWarnFrame_storing (target : Target) (w : World)
    (type statusFlag : UInt8) (msgbuf : Mem UInt8) :
    Report.Stores w (buildDmsWarnFrame target w type statusFlag msgbuf) := by
  have hfill := fillReport_storing w (getDmsInfoForStore type w.para.dms) type
    statusFlag msgbuf
  unfold buildDmsWarnFrame
  simp only
  split_ifs
  · exact hfill
  · exact hfill.alertMedia target
  · exact hfill.snapMedia target
  · exact hfill

theorem sendReport_quiet (target : Target) {w : World} {r : Report}
    (h : Report.Stores w r) : Quiet w (sendReport target r) := by
  obtain ⟨hcore, heffects⟩ := sendMessage_quiet target
    sampleCmdWarningReport (by decide) r.payload r.world
  exact ⟨h.1.trans hcore, (allOf_append _ _ _).mpr ⟨h.quiet.2, heffects⟩⟩

theorem doSnapShot_quiet (target : Target) (env : Env) (w : World) :
    Quiet w (doSnapShot target env w) := by
  unfold doSnapShot
  cases target.build with
  | dms => exact sendReport_quiet target (buildDmsWarnFrame_storing ..)
  | adas => exact sendReport_quiet target (buildAdasWarnFrame_storing ..)

/-! ## Commands -/

theorem sendParaSetting_quiet (target : Target) (msg : Mem UInt8) (len : Nat)
    (w : World) : Quiet w (sendParaSetting target msg len w) := by
  unfold sendParaSetting
  split_ifs
  · exact quiet_refl w
  · exact sendMessage_quiet target _ (by decide) _ w
  · exact sendMessage_quiet target _ (by decide) _ w
  · exact quiet_refl w

theorem replyWorkStatus_quiet (target : Target) (len : Nat) (w : World) :
    Quiet w (replyWorkStatus target len w) := by
  unfold replyWorkStatus
  split_ifs
  · exact sendMessage_quiet target _ (by decide) _ w
  · exact quiet_refl w

theorem sendSnapShotAck_quiet (target : Target) (len : Nat) (w : World) :
    Quiet w (sendSnapShotAck target len w) := by
  unfold sendSnapShotAck
  split_ifs
  · exact sendMessage_quiet target _ (by decide) _ w
  · exact quiet_refl w

theorem messageQueueSend_quiet (target : Target) (w : World)
    (msg : Mem UInt8) (cmd : UInt8) (hcmd : cmd ≠ sampleCmdUploadMmData)
    (payload : List UInt8) :
    Quiet w ((messageQueueSend target w msg cmd payload).world,
      (messageQueueSend target w msg cmd payload).effects) := by
  obtain ⟨hworld, heffects, -⟩ :=
    messageQueueSend_spec target w msg cmd payload
  rw [hworld, heffects]
  exact ⟨sentWorld_sameCore target w cmd payload,
    by simp [Effect.isReporting, hcmd]⟩

def Effect.isUpgrading : Effect → Bool
  | .cleanUpgradeBin => true
  | .upgrade _ => true
  | .exit => true
  | _ => false

def Effect.isTransferring : Effect → Bool
  | .send cmd _ _ => cmd = sampleCmdUploadMmData
  | .noticeAck => true
  | .transmitOver _ => true
  | _ => false

def UpgradeOnly (w : World) (out : World × List Effect) : Prop :=
  (∃ upgrade running,
    SameCore { w with upgrade := upgrade, running := running } out.1) ∧
    ∀ e ∈ out.2, e.isReporting ∨ e.isUpgrading

theorem UpgradeOnly.of_quiet {w : World} (upgrade : Upgrade)
    {out : World × List Effect}
    (h : Quiet { w with upgrade := upgrade } out) : UpgradeOnly w out :=
  ⟨⟨upgrade, w.running, h.1⟩, fun e he => .inl (h.2 e he)⟩

theorem upgradeReply_quiet (target : Target) (msg : Mem UInt8)
    (result : UInt8) (w : World) :
    Quiet w (upgradeReply target msg result w) :=
  sendMessage_quiet target _ (by decide) _ w

theorem recvUpgradeTrans_upgradeOnly (target : Target) (env : Env)
    (msg : Mem UInt8) (len : Nat) (w : World) :
    UpgradeOnly w (recvUpgradeTrans target env msg len w) := by
  unfold recvUpgradeTrans
  simp only
  split_ifs
  · exact .of_quiet _ (upgradeReply_quiet target msg 0 _)
  · obtain ⟨hcore, heffects⟩ := upgradeReply_quiet target msg 0
      (upgradeFileCmd
        { w with
          upgrade :=
            writeUpgradeData env w.upgrade (upgradeData msg len) }).1
    refine ⟨⟨_, w.running, hcore⟩, ?_⟩
    intro e he
    rcases List.mem_append.mp he with hcmd | hreply
    · rw [List.mem_singleton.mp hcmd]
      exact .inr rfl
    · exact .inl (heffects e hreply)
  · exact .of_quiet _ (upgradeReply_quiet target msg 1 _)
  · exact .of_quiet _ (upgradeReply_quiet target msg 0 _)

theorem recvUpgradeFile_upgradeOnly (target : Target) (env : Env)
    (msg : Mem UInt8) (len : Nat) (w : World) :
    UpgradeOnly w (recvUpgradeFile target env msg len w) := by
  unfold recvUpgradeFile
  simp only
  split_ifs
  · obtain ⟨hcore, heffects⟩ := sendMessage_quiet target
      sampleCmdUpgrade (by decide) [msg payloadOffset, 0] w
    refine ⟨⟨w.upgrade, false, ?_⟩, ?_⟩
    · exact ⟨hcore.para, hcore.files, hcore.realTime, hcore.heartBeat,
        hcore.recvAck, hcore.transfer, hcore.upgrade, rfl, hcore.queue⟩
    · intro e he
      rcases List.mem_append.mp he with hreply | hexit
      · exact .inl (heffects e hreply)
      · rw [List.mem_singleton.mp hexit]
        exact .inr rfl
  · obtain ⟨hcore, heffects⟩ := sendMessage_quiet target
      sampleCmdUpgrade (by decide) [msg payloadOffset, 0]
      { w with upgrade := { w.upgrade with file := none } }
    refine ⟨⟨_, w.running, hcore⟩, ?_⟩
    intro e he
    rcases List.mem_append.mp he with hclean | hreply
    · rw [List.mem_singleton.mp hclean]
      exact .inr rfl
    · exact .inl (heffects e hreply)
  · exact .of_quiet w.upgrade
      (sendMessage_quiet target _ (by decide) _ w)
  · exact recvUpgradeTrans_upgradeOnly target env msg len w
  · exact .of_quiet w.upgrade (quiet_refl w)

def MediaOnly (w : World) (out : World × List Effect) : Prop :=
  (∃ transfer recvAck,
    SameCore { w with transfer := transfer, recvAck := recvAck } out.1) ∧
    ∀ e ∈ out.2, e.isReporting ∨ e.isTransferring

theorem MediaOnly.of_quiet {w : World} {out : World × List Effect}
    (h : Quiet w out) : MediaOnly w out :=
  ⟨⟨w.transfer, w.recvAck, h.1⟩, fun e he => .inl (h.2 e he)⟩

theorem sampleSendImage_mediaOnly (target : Target) (env : Env) (w : World) :
    MediaOnly w (sampleSendImage target env w) := by
  unfold sampleSendImage
  cases env.media w.transfer.id with
  | none => exact .of_quiet (quiet_refl w)
  | some content =>
      simp only
      split_ifs
      · have hsent := sentWorld_sameCore target w sampleCmdUploadMmData
          (mmPacketHeader w.transfer ++
            readPacket content w.transfer.packetIndex)
        refine ⟨⟨_, w.recvAck, rfl, rfl, rfl, rfl, rfl, rfl, rfl, rfl, ?_⟩,
          ?_⟩
        · rw [Act.andThen_fst, sendMessage_apply]
          exact hsent.queue
        intro e he
        simp only [Act.andThen_snd, sendMessage_apply, Act.modify_apply,
          List.append_nil, List.mem_singleton] at he
        rw [he]
        exact .inr rfl
      · exact .of_quiet (quiet_refl w)

theorem MediaOnly.after {w w' : World} {transfer : Transfer} {recvAck : Bool}
    (hcore : SameCore { w with transfer := transfer, recvAck := recvAck } w')
    {first : List Effect} {out : World × List Effect}
    (hfirst : ∀ e ∈ first, e.isReporting ∨ e.isTransferring)
    (h : MediaOnly w' out) : MediaOnly w (out.1, first ++ out.2) := by
  obtain ⟨⟨transfer', recvAck', hafter⟩, heffects⟩ := h
  refine ⟨⟨transfer', recvAck', ?_⟩, ?_⟩
  · exact ⟨hafter.para.trans hcore.para, hafter.files.trans hcore.files,
      hafter.realTime.trans hcore.realTime,
      hafter.heartBeat.trans hcore.heartBeat, hafter.recvAck,
      hafter.transfer, hafter.upgrade.trans hcore.upgrade,
      hafter.running.trans hcore.running, hafter.queue ∘ hcore.queue⟩
  · intro e he
    rcases List.mem_append.mp he with hbefore | hlater
    · exact hfirst e hbefore
    · exact heffects e hlater

theorem sendMmReqAck_mediaOnly (target : Target) (env : Env) (w : World)
    (msg : Mem UInt8) (len : Nat) :
    MediaOnly w (sendMmReqAck target env w msg len).result := by
  unfold sendMmReqAck
  split
  · exact .of_quiet (quiet_refl w)
  simp only
  split
  · obtain ⟨hcore, heffects⟩ :=
      messageQueueSend_quiet target w msg sampleCmdReqMmData
        (by decide) []
    have hstarted : ∀ transfer, SameCore
        { w with transfer := transfer, recvAck := w.recvAck }
        { (messageQueueSend target w msg sampleCmdReqMmData []).world with
          transfer := transfer } := fun _ =>
      ⟨hcore.para, hcore.files, hcore.realTime, hcore.heartBeat,
        hcore.recvAck, rfl, hcore.upgrade, hcore.running, hcore.queue⟩
    exact .after (hstarted _) (fun e he => .inl (heffects e he))
      (sampleSendImage_mediaOnly target env _)
  · exact .of_quiet (quiet_refl w)

theorem recvAckAndSendImage_mediaOnly (target : Target) (env : Env)
    (msg : Mem UInt8) (w : World) :
    MediaOnly w (recvAckAndSendImage target env msg w) := by
  have hnotice : ∀ e ∈ [Effect.noticeAck],
      e.isReporting ∨ e.isTransferring := by
    intro e he
    rw [List.mem_singleton.mp he]
    exact .inr rfl
  unfold recvAckAndSendImage
  split_ifs
  · exact .of_quiet (quiet_refl w)
  · exact .of_quiet (quiet_refl w)
  · refine ⟨⟨_, true, rfl, rfl, rfl, rfl, rfl, rfl, rfl, rfl, id⟩, ?_⟩
    intro e he
    simp only [noticeAckMsg, Act.andThen_snd, List.mem_append,
      List.mem_singleton] at he
    rcases he with rfl | rfl
    · exact .inr rfl
    · exact .inr rfl
  · exact .after (SameCore.refl _) hnotice
      (sampleSendImage_mediaOnly target env _)

/-! ## Every command -/

/-- What the handler of a command can do to the core of the world. -/
inductive CoreStep (w : World) :
    Option SampleCmd → World × List Effect → Prop where
  | quiet {cmd out} (h : Quiet w out) : CoreStep w cmd out
  | para {cmd out} (para : ParaStore) (files : ParaFiles)
      (hcmd : cmd = .factoryReset ∨ cmd = .setParam)
      (h : Quiet { w with para := para, files := files } out) :
      CoreStep w (some cmd) out
  | speed {out} (realTime : RealTimeData)
      (h : Quiet { w with realTime := realTime, heartBeat := true } out) :
      CoreStep w (some .speedInfo) out
  | ack {cmd} (hcmd : cmd = .warningReport ∨ cmd = .uploadStatus) :
      CoreStep w (some cmd) ({ w with recvAck := true }, [.noticeAck])
  | upgrade {out} (h : UpgradeOnly w out) : CoreStep w (some .upgrade) out
  | media {cmd out} (hcmd : cmd = .reqMmData ∨ cmd = .uploadMmData)
      (h : MediaOnly w out) : CoreStep w (some cmd) out

theorem noticeAckMsg_coreStep (w : World) {cmd : SampleCmd}
    (hcmd : cmd = .warningReport ∨ cmd = .uploadStatus) (len : Nat) :
    CoreStep w (some cmd)
      ((if len = emptyFrameLen then noticeAckMsg else .skip) w) := by
  split_ifs
  · exact .ack hcmd
  · exact .quiet (quiet_refl w)

theorem writeRealTimeData_coreStep (w : World) (msg : Mem UInt8) (len : Nat) :
    CoreStep w (some .speedInfo) (((writeRealTimeData msg len).andThen
      (.modify fun w' => { w' with heartBeat := true })) w) := by
  unfold writeRealTimeData
  split_ifs
  · exact .speed _ (quiet_refl _)
  · exact .speed w.realTime (quiet_refl _)

theorem doFactoryReset_para (env : Env) (devId : UInt8) (w : World) :
    ∃ para files, doFactoryReset env devId w =
      ({ w with para := para, files := files }, []) := by
  unfold doFactoryReset
  split_ifs
  · exact ⟨_, _, rfl⟩
  · exact ⟨_, _, rfl⟩
  · exact ⟨w.para, w.files, rfl⟩

theorem storeReceivedPara_para (env : Env) (msg : Mem UInt8) (len : Nat)
    (w : World) :
    ∃ para files, (storeReceivedPara env msg len w).1 =
      { w with para := para, files := files } := by
  unfold storeReceivedPara
  split_ifs
  · exact ⟨_, _, rfl⟩
  · exact ⟨_, _, rfl⟩
  · exact ⟨w.para, w.files, rfl⟩

theorem storeReceivedPara_send (env : Env) (msg : Mem UInt8) (len : Nat)
    (w : World) : (storeReceivedPara env msg len w).1.send = w.send := by
  obtain ⟨para, files, hstored⟩ := storeReceivedPara_para env msg len w
  rw [hstored]

theorem recvParaSetting_coreStep (w : World) (target : Target) (env : Env)
    (msg : Mem UInt8) (len : Nat) :
    CoreStep w (some .setParam) (recvParaSetting target env msg len w) := by
  obtain ⟨para, files, hstored⟩ := storeReceivedPara_para env msg len w
  refine .para para files (.inr rfl) ?_
  rw [recvParaSetting, ← hstored]
  exact sendMessage_quiet target _ (by decide) _ _

theorem factoryReset_coreStep (w : World) (target : Target) (env : Env)
    (msg : Mem UInt8) (devId : UInt8) :
    let sent := messageQueueSend target w msg sampleCmdFactoryReset []
    CoreStep w (some .factoryReset)
      ((doFactoryReset env devId sent.world).1,
        sent.effects ++ (doFactoryReset env devId sent.world).2) := by
  intro sent
  obtain ⟨hcore, heffects⟩ :=
    messageQueueSend_quiet target w msg sampleCmdFactoryReset
      (by decide) []
  obtain ⟨para, files, hreset⟩ := doFactoryReset_para env devId sent.world
  rw [hreset]
  refine .para para files (.inl rfl) ⟨?_, by simpa using heffects⟩
  exact ⟨rfl, rfl, hcore.realTime, hcore.heartBeat, hcore.recvAck,
    hcore.transfer, hcore.upgrade, hcore.running, hcore.queue⟩

theorem handleCmd_coreStep (target : Target) (env : Env) (w : World)
    (msg : Mem UInt8) (len : Nat) :
    CoreStep w (SampleCmd.ofCode (headerCmd msg))
      (handleCmd target env w msg len).result := by
  unfold handleCmd
  cases SampleCmd.ofCode (headerCmd msg) with
  | none => exact .quiet (quiet_refl w)
  | some cmd =>
      cases cmd with
      | query =>
          exact .quiet (messageQueueSend_quiet target w msg _ (by decide) [])
      | factoryReset => exact factoryReset_coreStep w target env msg _
      | speedInfo => exact writeRealTimeData_coreStep w msg len
      | deviceInfo =>
          exact .quiet (sendMessage_quiet target _ (by decide) devInfo w)
      | upgrade =>
          exact .upgrade (recvUpgradeFile_upgradeOnly target env msg len w)
      | getParam => exact .quiet (sendParaSetting_quiet target msg len w)
      | setParam => exact recvParaSetting_coreStep w target env msg len
      | warningReport => exact noticeAckMsg_coreStep w (.inl rfl) len
      | reqStatus => exact .quiet (replyWorkStatus_quiet target len w)
      | uploadStatus => exact noticeAckMsg_coreStep w (.inr rfl) len
      | reqMmData =>
          exact .media (.inl rfl)
            (sendMmReqAck_mediaOnly target env w msg len)
      | uploadMmData =>
          exact .media (.inr rfl)
            (recvAckAndSendImage_mediaOnly target env msg w)
      | snapShot =>
          exact .quiet ((sendSnapShotAck_quiet target len w).andThen
            (doSnapShot_quiet target env))

theorem CoreStep.keepsStored {w : World} {cmd : Option SampleCmd}
    {out : World × List Effect} (h : CoreStep w cmd out)
    (hreset : cmd ≠ some .factoryReset) (hset : cmd ≠ some .setParam) :
    out.1.para = w.para ∧ out.1.files = w.files := by
  cases h with
  | quiet h => exact ⟨h.1.para, h.1.files⟩
  | para _ _ hcmd _ =>
      rcases hcmd with rfl | rfl
      · exact absurd rfl hreset
      · exact absurd rfl hset
  | speed _ h => exact ⟨h.1.para, h.1.files⟩
  | ack => exact ⟨rfl, rfl⟩
  | upgrade h =>
      obtain ⟨⟨upgrade, running, hcore⟩, -⟩ := h
      exact ⟨hcore.para, hcore.files⟩
  | media _ h =>
      obtain ⟨⟨transfer, recvAck, hcore⟩, -⟩ := h
      exact ⟨hcore.para, hcore.files⟩

theorem CoreStep.keepsHeartBeat {w : World} {cmd : Option SampleCmd}
    {out : World × List Effect} (h : CoreStep w cmd out)
    (hcmd : cmd ≠ some .speedInfo) : out.1.heartBeat = w.heartBeat := by
  cases h with
  | quiet h => exact h.1.heartBeat
  | para _ _ _ h => exact h.1.heartBeat
  | speed => exact absurd rfl hcmd
  | ack => rfl
  | upgrade h =>
      obtain ⟨⟨upgrade, running, hcore⟩, -⟩ := h
      exact hcore.heartBeat
  | media _ h =>
      obtain ⟨⟨transfer, recvAck, hcore⟩, -⟩ := h
      exact hcore.heartBeat

theorem CoreStep.keepsRealTime {w : World} {cmd : Option SampleCmd}
    {out : World × List Effect} (h : CoreStep w cmd out)
    (hcmd : cmd ≠ some .speedInfo) : out.1.realTime = w.realTime := by
  cases h with
  | quiet h => exact h.1.realTime
  | para _ _ _ h => exact h.1.realTime
  | speed => exact absurd rfl hcmd
  | ack => rfl
  | upgrade h =>
      obtain ⟨⟨upgrade, running, hcore⟩, -⟩ := h
      exact hcore.realTime
  | media _ h =>
      obtain ⟨⟨transfer, recvAck, hcore⟩, -⟩ := h
      exact hcore.realTime

theorem CoreStep.running {w : World} {cmd : Option SampleCmd}
    {out : World × List Effect} (h : CoreStep w cmd out)
    (hcmd : cmd ≠ some .upgrade) : out.1.running = w.running := by
  cases h with
  | quiet h => exact h.1.running
  | para _ _ _ h => exact h.1.running
  | speed _ h => exact h.1.running
  | ack => rfl
  | upgrade => exact absurd rfl hcmd
  | media _ h =>
      obtain ⟨⟨transfer, recvAck, hcore⟩, -⟩ := h
      exact hcore.running

/-! ## Runs over received frames -/

/-- A call of `sample_on_cmd` and what the environment does meanwhile. -/
structure Received where
  msg : Mem UInt8
  len : Nat
  env : Env

def Received.ofFrame (env : Env) (f : Frame) : Received :=
  ⟨Mem.ofList f.bytes, f.bytes.length, env⟩

/-- The part of `global_var_init` that loads the parameters of the device. -/
def globalVarInit (target : Target) (access : ParaFileAccess) (w : World) :
    World :=
  match target.build with
  | .adas =>
      let loaded := readLocalAdasParaFile access w.files.adas w.para.adas
      { w with
        para := { w.para with adas := loaded.2.1 }
        files := { w.files with adas := loaded.2.2 } }
  | .dms =>
      let loaded := readLocalDmsParaFile access w.files.dms w.para.dms
      { w with
        para := { w.para with dms := loaded.2.1 }
        files := { w.files with dms := loaded.2.2 } }

def startedWorld (target : Target) (access : ParaFileAccess)
    (files : ParaFiles) : World :=
  globalVarInit target access { World.zero with files := files }

def freshWorld (target : Target) : World :=
  startedWorld target ⟨true, some 50⟩ ⟨none, none⟩

def device (target : Target) : Mealy World Received Effect where
  step w r := (sampleOnCmd target r.env w r.msg r.len).result

end SanbaoProt
