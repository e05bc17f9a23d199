import SanbaoProt.Device.Footprint

/-!
# What a handler hands to the send queue

Each send shows its node among the effects.  `Pushes` says that the send queue
after an action is the queue before it with these nodes pushed, in order, and
that the semaphore counts them.  It holds of every frame that is handled, since
a handler is a tree of `Sends`.
-/

namespace SanbaoProt

open Library

def sentNodes (effects : List Effect) : List SendNode :=
  effects.filterMap fun
    | .send _ _ node => some node
    | _ => none

@[simp] theorem sentNodes_nil : sentNodes [] = [] := rfl

@[simp] theorem sentNodes_append (first second : List Effect) :
    sentNodes (first ++ second) = sentNodes first ++ sentNodes second :=
  List.filterMap_append

@[simp] theorem sentNodes_send (cmd : UInt8) (payload : List UInt8)
    (node : SendNode) (effects : List Effect) :
    sentNodes (.send cmd payload node :: effects) =
      node :: sentNodes effects := rfl

theorem sentNodes_storing {effects : List Effect}
    (h : AllOf Effect.isStoring effects) : sentNodes effects = [] := by
  rw [sentNodes, List.filterMap_eq_nil_iff]
  intro e he
  have hstoring := h e he
  cases e with
  | send cmd payload node => cases hstoring
  | _ => rfl

def pushAll (queue : List SendNode) (nodes : List SendNode) :
    List SendNode :=
  nodes.foldl (fun p node => (ptrQueuePush p node).2) queue

theorem pushAll_append (queue first second : List SendNode) :
    pushAll queue (first ++ second) = pushAll (pushAll queue first) second :=
  List.foldl_append

theorem prefix_ptrQueuePush (p : List SendNode) (node : SendNode) :
    p <+: (ptrQueuePush p node).2 := by
  unfold ptrQueuePush
  split_ifs
  · exact List.prefix_refl p
  · exact List.prefix_append p _

theorem prefix_pushAll (queue nodes : List SendNode) :
    queue <+: pushAll queue nodes := by
  induction nodes generalizing queue with
  | nil => exact List.prefix_refl queue
  | cons node nodes ih =>
      exact (prefix_ptrQueuePush queue node).trans (ih _)

structure Pushes (w : World) (out : World × List Effect) : Prop where
  queue : out.1.send.queue = pushAll w.send.queue (sentNodes out.2)
  sem : out.1.send.sem = w.send.sem + (sentNodes out.2).length

theorem Pushes.none {w w' : World} (h : w'.send = w.send)
    {effects : List Effect} (heffects : sentNodes effects = []) :
    Pushes w (w', effects) where
  queue := by rw [h, heffects]; rfl
  sem := by rw [h, heffects]; rfl

theorem Pushes.after {w w' : World} {first : List Effect}
    (h : Pushes w (w', first)) {out : World × List Effect}
    (h' : Pushes w' out) : Pushes w (out.1, first ++ out.2) where
  queue := by rw [sentNodes_append, pushAll_append, ← h.queue, ← h'.queue]
  sem := by
    have hfirst := h.sem
    have hsecond := h'.sem
    rw [sentNodes_append, List.length_append]
    simp only at hfirst hsecond ⊢
    omega

theorem sentWorld_pushes (target : Target) (w : World) (cmd : UInt8)
    (payload : List UInt8) :
    Pushes w (sentWorld target w cmd payload,
      [.send cmd payload (sentNode target w cmd payload)]) :=
  ⟨rfl, rfl⟩

/-! ## What a handler does to the send side -/

/-- The send side is changed by sends alone, and each shows among the
effects. -/
inductive Sends (target : Target) : World → World × List Effect → Prop where
  | none {w w' : World} (h : w'.send = w.send) {effects : List Effect}
      (heffects : sentNodes effects = []) : Sends target w (w', effects)
  | send (w : World) (cmd : UInt8) (payload : List UInt8) :
      Sends target w (sentWorld target w cmd payload,
        [.send cmd payload (sentNode target w cmd payload)])
  | after {w w' : World} {first : List Effect} {out : World × List Effect}
      (hfirst : Sends target w (w', first)) (hsecond : Sends target w' out) :
      Sends target w (out.1, first ++ out.2)

theorem Sends.quiet {target : Target} {w : World} {out : World × List Effect}
    (h : out.1.send = w.send) (heffects : sentNodes out.2 = []) :
    Sends target w out :=
  .none h heffects

theorem Sends.pushes {target : Target} {w : World}
    {out : World × List Effect} (h : Sends target w out) : Pushes w out := by
  induction h with
  | none h heffects => exact .none h heffects
  | send w cmd payload => exact sentWorld_pushes target w cmd payload
  | after _ _ hfirst hsecond => exact hfirst.after hsecond

theorem Sends.andThen {target : Target} {w : World} {first second : Act}
    (h : Sends target w (first w)) (h' : ∀ w', Sends target w' (second w')) :
    Sends target w (first.andThen second w) :=
  .after h (h' (first w).1)

theorem Sends.sameSend {target : Target} {w w' w'' : World}
    {effects : List Effect} (h : Sends target w (w', effects))
    (hsend : w''.send = w'.send) : Sends target w (w'', effects) := by
  have hafter := h.after (.none hsend (rfl : sentNodes [] = []))
  rwa [List.append_nil] at hafter

theorem sendMessage_sends (target : Target) (cmd : UInt8)
    (payload : List UInt8) (w : World) :
    Sends target w (sendMessage target cmd payload w) := by
  rw [sendMessage_apply]
  exact .send w cmd payload

theorem messageQueueSend_sends (target : Target) (w : World)
    (msg : Mem UInt8) (cmd : UInt8) (payload : List UInt8) :
    Sends target w ((messageQueueSend target w msg cmd payload).world,
      (messageQueueSend target w msg cmd payload).effects) := by
  obtain ⟨hworld, heffects, -⟩ :=
    messageQueueSend_spec target w msg cmd payload
  rw [hworld, heffects]
  exact .send w cmd payload

/-! ## Reports -/

namespace Report

variable (r : Report) (target : Target)

theorem addPhotos_send : r.addPhotos.world.send = r.world.send := by
  unfold addPhotos
  split_ifs
  · rfl
  · rfl

theorem addVideo_send : r.addVideo.world.send = r.world.send := by
  unfold addVideo
  split_ifs
  · rfl
  · rfl

theorem store_send (another : UInt8) :
    (store target another r).world.send = r.world.send := by
  unfold store act pushMmQueue
  cases target.interface with
  | rs232 => rfl
  | tcp => rfl

theorem alertMedia_send :
    (r.alertMedia target).world.send = r.world.send := by
  unfold alertMedia
  simp only
  split_ifs
  · rw [store_send, addVideo_send]
    exact (store_send _ target 0).trans
      ((addVideo_send _).trans (addPhotos_send r))
  · rw [store_send, addVideo_send, addPhotos_send]

theorem snapMedia_send :
    (r.snapMedia target).world.send = r.world.send := by
  unfold snapMedia
  split_ifs
  · rw [store_send, addPhotos_send]
  · rfl

end Report

theorem buildAdasWarnFrame_send (target : Target) (w : World)
    (type statusFlag : UInt8) (msgbuf : Mem UInt8) :
    (buildAdasWarnFrame target w type statusFlag msgbuf).world.send =
      w.send := by
  unfold buildAdasWarnFrame
  simp only
  split_ifs
  · rfl
  · exact Report.alertMedia_send _ target
  · exact Report.snapMedia_send _ target
  · rfl
  · exact Report.alertMedia_send _ target
  · exact Report.snapMedia_send _ target
  · rfl

theorem buildDmsWarnFrame_send (target : Target) (w : World)
    (type statusFlag : UInt8) (msgbuf : Mem UInt8) :
    (buildDmsWarnFrame target w type statusFlag msgbuf).world.send =
      w.send := by
  unfold buildDmsWarnFrame
  simp only
  split_ifs
  · rfl
  · exact Report.alertMedia_send _ target
  · exact Report.snapMedia_send _ target
  · rfl

theorem sendReport_sends (target : Target) {w : World} {r : Report}
    (h : Report.Stores w r) (hsend : r.world.send = w.send) :
    Sends target w (sendReport target r) :=
  (Sends.none hsend (sentNodes_storing h.2)).after
    (sendMessage_sends target sampleCmdWarningReport r.payload r.world)

theorem doSnapShot_sends (target : Target) (env : Env) (w : World) :
    Sends target w (doSnapShot target env w) := by
  unfold doSnapShot
  cases target.build with
  | dms =>
      exact sendReport_sends target (buildDmsWarnFrame_storing ..)
        (buildDmsWarnFrame_send ..)
  | adas =>
      exact sendReport_sends target (buildAdasWarnFrame_storing ..)
        (buildAdasWarnFrame_send ..)

/-! ## Commands -/

theorem upgradeReply_sends (target : Target) (msg : Mem UInt8)
    (result : UInt8) {w w' : World} (h : w'.send = w.send) :
    Sends target w (upgradeReply target msg result w') :=
  (Sends.none h sentNodes_nil).after (sendMessage_sends target _ _ w')

theorem recvUpgradeTrans_sends (target : Target) (env : Env)
    (msg : Mem UInt8) (len : Nat) (w : World) :
    Sends target w (recvUpgradeTrans target env msg len w) := by
  unfold recvUpgradeTrans
  simp only
  split_ifs
  · exact upgradeReply_sends target msg 0 rfl
  · refine Sends.after ?_ (upgradeReply_sends target msg 0 rfl)
    exact .quiet rfl rfl
  · exact upgradeReply_sends target msg 1 rfl
  · exact upgradeReply_sends target msg 0 rfl

theorem recvUpgradeFile_sends (target : Target) (env : Env)
    (msg : Mem UInt8) (len : Nat) (w : World) :
    Sends target w (recvUpgradeFile target env msg len w) := by
  unfold recvUpgradeFile
  simp only
  split_ifs
  · exact (sendMessage_sends target _ _ w).andThen fun w' => .quiet rfl rfl
  · refine Sends.after ?_ (sendMessage_sends target _ _ _)
    exact .quiet rfl rfl
  · exact sendMessage_sends target _ _ w
  · exact recvUpgradeTrans_sends target env msg len w
  · exact .quiet rfl rfl

theorem sampleSendImage_sends (target : Target) (env : Env) (w : World) :
    Sends target w (sampleSendImage target env w) := by
  unfold sampleSendImage
  cases env.media w.transfer.id with
  | none => exact .quiet rfl rfl
  | some content =>
      simp only
      split_ifs
      · exact (sendMessage_sends target _ _ w).andThen fun w' => .quiet rfl rfl
      · exact .quiet rfl rfl

theorem sendMmReqAck_sends (target : Target) (env : Env) (w : World)
    (msg : Mem UInt8) (len : Nat) :
    Sends target w (sendMmReqAck target env w msg len).result := by
  unfold sendMmReqAck
  simp only
  split_ifs
  · exact .quiet rfl rfl
  · have hack := messageQueueSend_sends target w msg sampleCmdReqMmData []
    refine Sends.after ?_ (sampleSendImage_sends target env _)
    exact hack.sameSend rfl
  · exact .quiet rfl rfl

theorem recvAckAndSendImage_sends (target : Target) (env : Env)
    (msg : Mem UInt8) (w : World) :
    Sends target w (recvAckAndSendImage target env msg w) := by
  unfold recvAckAndSendImage
  split_ifs
  · exact .quiet rfl rfl
  · exact .quiet rfl rfl
  · exact .quiet rfl rfl
  · refine Sends.after ?_ (sampleSendImage_sends target env _)
    exact .quiet rfl rfl

theorem sendParaSetting_sends (target : Target) (msg : Mem UInt8)
    (len : Nat) (w : World) :
    Sends target w (sendParaSetting target msg len w) := by
  unfold sendParaSetting
  split_ifs
  · exact .quiet rfl rfl
  · exact sendMessage_sends target _ _ w
  · exact sendMessage_sends target _ _ w
  · exact .quiet rfl rfl

theorem handleCmd_sends (target : Target) (env : Env) (w : World)
    (msg : Mem UInt8) (len : Nat) :
    Sends target w (handleCmd target env w msg len).result := by
  unfold handleCmd
  cases SampleCmd.ofCode (headerCmd msg) with
  | none => exact .quiet rfl rfl
  | some cmd =>
      cases cmd with
      | query => exact messageQueueSend_sends target w msg _ []
      | factoryReset =>
          obtain ⟨para, files, hreset⟩ := doFactoryReset_para env
            (headerDeviceId
              (messageQueueSend target w msg sampleCmdFactoryReset []).buffer)
            (messageQueueSend target w msg sampleCmdFactoryReset []).world
          have hsent :=
            messageQueueSend_sends target w msg sampleCmdFactoryReset []
          simp only [Handled.result, Handled.andThen, hreset, List.append_nil]
          exact hsent.sameSend rfl
      | speedInfo =>
          simp only [Handled.result, Handled.andThen, writeRealTimeData]
          split_ifs
          · exact .quiet rfl rfl
          · exact .quiet rfl rfl
      | deviceInfo => exact sendMessage_sends target _ _ w
      | upgrade => exact recvUpgradeFile_sends target env msg len w
      | getParam => exact sendParaSetting_sends target msg len w
      | setParam =>
          exact (Sends.none (storeReceivedPara_send env msg len w) rfl).after
            (sendMessage_sends target _ _ _)
      | warningReport =>
          simp only [Handled.result, Handled.andThen, recvWarningAck]
          split_ifs
          · exact .quiet rfl rfl
          · exact .quiet rfl rfl
      | reqStatus =>
          simp only [Handled.result, Handled.andThen, replyWorkStatus]
          split_ifs
          · exact sendMessage_sends target _ _ w
          · exact .quiet rfl rfl
      | uploadStatus =>
          simp only [Handled.result, Handled.andThen, recvUploadStatusCmdAck]
          split_ifs
          · exact .quiet rfl rfl
          · exact .quiet rfl rfl
      | reqMmData => exact sendMmReqAck_sends target env w msg len
      | uploadMmData => exact recvAckAndSendImage_sends target env msg w
      | snapShot =>
          refine Sends.andThen ?_ (doSnapShot_sends target env)
          unfold sendSnapShotAck
          split_ifs
          · exact sendMessage_sends target _ _ w
          · exact .quiet rfl rfl

/-- A frame for the device: its serial number is recorded, then sends. -/
theorem device_sends (target : Target) (w : World) {r : Received}
    (hfor : isForDevice target r.msg) :
    Sends target
      { w with send := recordRecvNum (headerSerialNum r.msg) w.send }
      ((device target).step w r) := by
  simp only [device, sampleOnCmd, if_pos hfor]
  exact handleCmd_sends target r.env _ r.msg r.len

theorem device_pushes (target : Target) (w : World) (r : Received) :
    Pushes w ((device target).step w r) := by
  by_cases hfor : isForDevice target r.msg
  · have hpushes := (device_sends target w hfor).pushes
    exact ⟨hpushes.queue, hpushes.sem⟩
  · simp only [device, sampleOnCmd, if_neg hfor]
    exact ⟨rfl, rfl⟩

/-- Handling a frame keeps what is queued. -/
theorem device_keepsQueued (target : Target) (w : World) (r : Received) :
    w.send.queue <+: ((device target).step w r).1.send.queue := by
  rw [(device_pushes target w r).queue]
  exact prefix_pushAll _ _

end SanbaoProt
