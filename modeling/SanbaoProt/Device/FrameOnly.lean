import SanbaoProt.Device.ParaStep

/-!
# Handlers and the bytes behind the frame

The receive buffer is not cleared between frames.  Most handlers check the
length before they read, so buffers that agree on the frame are handled alike.
Two do not check: a transferred upgrade packet and the acknowledgement of a
media packet are read in full however short the frame is.  `ReadsPast` are the
frames for which what lies behind them makes a difference.
-/

namespace SanbaoProt

open Library

/-! ## Handlers that stay inside the frame -/

section

variable {n : Nat} {msg msg' : Mem UInt8} (h : Mem.AgreeBelow n msg msg')

include h

theorem sendMmReqAck_congr (target : Target) (env : Env) (w : World) :
    (sendMmReqAck target env w msg n).result =
      (sendMmReqAck target env w msg' n).result := by
  by_cases hlen : n = mmHeaderSize + headerSize + 1
  · have hid : requestedId msg = requestedId msg' := by
      rw [requestedId, requestedId,
        h.read (by rw [hlen]; decide)]
    have htype : msg payloadOffset = msg' payloadOffset :=
      h payloadOffset (by rw [hlen]; decide)
    have hstarted : startedTransfer msg = startedTransfer msg' := by
      funext filesize
      rw [startedTransfer, startedTransfer, hid, htype]
    obtain ⟨hworld, heffects, -⟩ :=
      messageQueueSend_spec target w msg sampleCmdReqMmData []
    obtain ⟨hworld', heffects', -⟩ :=
      messageQueueSend_spec target w msg' sampleCmdReqMmData []
    unfold sendMmReqAck
    simp only [hid, hstarted]
    split_ifs
    · rfl
    · simp only [Handled.result, Handled.andThen, hworld, hworld', heffects,
        heffects']
    · rfl
  · unfold sendMmReqAck
    rw [if_pos (.inr hlen), if_pos (.inr hlen)]
    rfl

theorem writeRealTimeData_congr :
    writeRealTimeData msg n = writeRealTimeData msg' n := by
  unfold writeRealTimeData
  split_ifs with hlen
  · rw [h.read (by rw [hlen]; decide)]
  · rfl

theorem storeReceivedPara_congr (hn : emptyFrameLen ≤ n) (env : Env)
    (w : World) :
    storeReceivedPara env msg n w = storeReceivedPara env msg' n w := by
  have hdevice : headerDeviceId msg = headerDeviceId msg' :=
    h 6 (by simp only [emptyFrameLen, headerSize] at hn; omega)
  unfold storeReceivedPara
  rw [hdevice]
  split_ifs with hadas hdms
  · rw [receivedPara, receivedPara, h.read (by rw [hadas.2]; decide)]
  · rw [receivedPara, receivedPara, h.read (by rw [hdms.2]; decide)]
  · rfl

theorem sendParaSetting_congr (hn : emptyFrameLen ≤ n) (target : Target) :
    sendParaSetting target msg n = sendParaSetting target msg' n := by
  have hdevice : headerDeviceId msg = headerDeviceId msg' :=
    h 6 (by simp only [emptyFrameLen, headerSize] at hn; omega)
  unfold sendParaSetting
  rw [hdevice]

/-! ## Handlers that read on -/

theorem recvUpgradeTrans_congr (hn : payloadOffset + 5 ≤ n)
    (hsum : upgradePacketIndex msg = 0 → payloadOffset + 9 ≤ n)
    (target : Target) (env : Env) (w : World) :
    recvUpgradeTrans target env msg n w =
      recvUpgradeTrans target env msg' n w := by
  simp only [payloadOffset] at hn hsum
  have hnum : upgradePacketNum msg = upgradePacketNum msg' := by
    rw [upgradePacketNum, upgradePacketNum,
      h.read (by simp only [payloadOffset]; omega)]
  have hindex : upgradePacketIndex msg = upgradePacketIndex msg' := by
    rw [upgradePacketIndex, upgradePacketIndex,
      h.read (by simp only [payloadOffset]; omega)]
  have hdata : upgradeData msg n = upgradeData msg' n := by
    rw [upgradeData, upgradeData,
      h.read (by simp only [payloadOffset, headerSize]; omega)]
  have hreply : upgradeReply target msg = upgradeReply target msg' := by
    funext result
    rw [upgradeReply, upgradeReply,
      h.read (by simp only [payloadOffset]; omega)]
  unfold recvUpgradeTrans
  rw [hindex] at hsum
  simp only [hnum, hindex, hdata, hreply]
  split_ifs with hzero
  · have hin := hsum hzero
    rw [h.read (by simp only [payloadOffset]; omega)]
  · rfl
  · rfl
  · rfl

theorem recvUpgradeFile_congr (hn : emptyFrameLen ≤ n)
    (htrans : msg payloadOffset = upgradeCmdTrans → payloadOffset + 5 ≤ n ∧
      (upgradePacketIndex msg = 0 → payloadOffset + 9 ≤ n))
    (target : Target) (env : Env) (w : World) :
    recvUpgradeFile target env msg n w =
      recvUpgradeFile target env msg' n w := by
  have hid : msg payloadOffset = msg' payloadOffset :=
    h payloadOffset (Nat.lt_of_lt_of_le (by decide) hn)
  unfold recvUpgradeFile
  simp only [← hid]
  split_ifs with hrun hclean hstart htransfer
  · rfl
  · rfl
  · rfl
  · obtain ⟨hhead, hsum⟩ := htrans htransfer
    exact recvUpgradeTrans_congr h hhead hsum target env w
  · rfl

theorem recvAckAndSendImage_congr (hn : payloadOffset + 10 ≤ n)
    (target : Target) (env : Env) (w : World) :
    recvAckAndSendImage target env msg w =
      recvAckAndSendImage target env msg' w := by
  have hack : ackByte msg = ackByte msg' :=
    h (payloadOffset + 9) (by omega)
  have hindex : ackPacketIndex msg = ackPacketIndex msg' := by
    rw [ackPacketIndex, ackPacketIndex, h.read (by omega)]
  unfold recvAckAndSendImage
  rw [hack, hindex]

/-! ## The dispatcher -/

theorem handleCmd_congr (hn : emptyFrameLen ≤ n) (target : Target) (env : Env)
    (w : World)
    (hupgrade : headerCmd msg = sampleCmdUpgrade →
      recvUpgradeFile target env msg n w = recvUpgradeFile target env msg' n w)
    (hupload : headerCmd msg = sampleCmdUploadMmData →
      recvAckAndSendImage target env msg w =
        recvAckAndSendImage target env msg' w) :
    (handleCmd target env w msg n).result =
      (handleCmd target env w msg' n).result := by
  have hcmd : headerCmd msg = headerCmd msg' :=
    h 7 (by simp only [emptyFrameLen, headerSize] at hn; omega)
  have hsent : ∀ cmd, (messageQueueSend target w msg cmd []).world =
      (messageQueueSend target w msg' cmd []).world ∧
        (messageQueueSend target w msg cmd []).effects =
          (messageQueueSend target w msg' cmd []).effects := by
    intro cmd
    obtain ⟨hworld, heffects, -⟩ := messageQueueSend_spec target w msg cmd []
    obtain ⟨hworld', heffects', -⟩ :=
      messageQueueSend_spec target w msg' cmd []
    exact ⟨hworld.trans hworld'.symm, heffects.trans heffects'.symm⟩
  unfold handleCmd
  rw [← hcmd]
  cases hcode : SampleCmd.ofCode (headerCmd msg) with
  | none => rfl
  | some cmd =>
      have hbyte := SampleCmd.code_of_ofCode hcode
      cases cmd with
      | query =>
          obtain ⟨hworld, heffects⟩ := hsent sampleCmdQuery
          simp only [Handled.result, hworld, heffects]
      | factoryReset =>
          obtain ⟨hworld, heffects⟩ := hsent sampleCmdFactoryReset
          have hdevice : headerDeviceId (messageQueueSend target w msg
              sampleCmdFactoryReset []).buffer =
              headerDeviceId (messageQueueSend target w msg'
                sampleCmdFactoryReset []).buffer :=
            (factoryReset_deviceId target w msg).trans
              (factoryReset_deviceId target w msg').symm
          simp only [Handled.result, Handled.andThen, hworld, heffects,
            hdevice]
      | speedInfo =>
          simp only [Handled.result, Handled.andThen, writeRealTimeData_congr h]
      | deviceInfo => rfl
      | upgrade =>
          simp only [Handled.result, Handled.andThen, hupgrade hbyte]
      | getParam =>
          simp only [Handled.result, Handled.andThen,
            sendParaSetting_congr h hn]
      | setParam =>
          simp only [Handled.result, Handled.andThen, recvParaSetting,
            storeReceivedPara_congr h hn]
      | warningReport => rfl
      | reqStatus => rfl
      | uploadStatus => rfl
      | reqMmData => exact sendMmReqAck_congr h target env w
      | uploadMmData =>
          simp only [Handled.result, Handled.andThen, hupload hbyte]
      | snapShot => rfl

end

/-! ## Frames that are too short for their handler -/

/-- A transferred packet without its head, or a first one without its sum. -/
def UpgradeReadsPast (f : Frame) : Prop :=
  f.cmd = sampleCmdUpgrade ∧ f.payload.head? = some upgradeCmdTrans ∧
    (f.bytes.length < payloadOffset + 5 ∨
      f.bytes.length < payloadOffset + 9 ∧
        ofBE ((f.bytes.drop (payloadOffset + 3)).take 2) = 0)

/-- An acknowledgement that ends before its last byte and may still be
completed to one that continues the transfer. -/
def AckReadsPast (packetIndex : UInt16) (f : Frame) : Prop :=
  f.cmd = sampleCmdUploadMmData ∧ f.bytes.length < payloadOffset + 10 ∧
    packetIndex ≠ 0 ∧
    f.bytes.drop (payloadOffset + 7) <+: toBE 2 (packetIndex.toNat - 1)

def ReadsPast (target : Target) (w : World) (f : Frame) : Prop :=
  (f.deviceId = target.build.deviceId ∨ f.deviceId = sampleDeviceIdBrdcst) ∧
    (UpgradeReadsPast f ∨ AckReadsPast w.transfer.packetIndex f)

section

variable {target : Target} {env : Env} {w : World} {f : Frame}
  {msg : Mem UInt8}

/-- A short acknowledgement that is taken could be completed from its frame. -/
theorem ackReadsPast_of_taken (h : InBuffer f msg)
    (hcmd : f.cmd = sampleCmdUploadMmData)
    (hshort : f.bytes.length < payloadOffset + 10) {packetIndex : UInt16}
    (hindex : packetIndex.toNat = ackPacketIndex msg + 1) :
    AckReadsPast packetIndex f := by
  refine ⟨hcmd, hshort, ?_, ?_⟩
  · rintro rfl
    exact absurd hindex.symm (Nat.succ_ne_zero _)
  · have hbytes : toBE 2 (packetIndex.toNat - 1) =
        msg.read (payloadOffset + 7) 2 := by
      rw [hindex, Nat.add_sub_cancel, ackPacketIndex]
      have hlength := Mem.length_read msg (payloadOffset + 7) 2
      conv_rhs => rw [← toBE_ofBE (msg.read (payloadOffset + 7) 2), hlength]
    rw [hbytes]
    by_cases hinside : f.bytes.length ≤ payloadOffset + 7
    · rw [List.drop_eq_nil_of_le hinside]
      exact List.nil_prefix
    · let size := f.bytes.length - (payloadOffset + 7)
      have hin : payloadOffset + 7 + size ≤ f.bytes.length := by omega
      have htail : f.bytes.drop (payloadOffset + 7) =
          msg.read (payloadOffset + 7) size := by
        rw [h.read hin, List.take_of_length_le (by rw [List.length_drop])]
      have hsplit : 2 = size + (2 - size) := by omega
      rw [htail, hsplit, Mem.read_add]
      exact List.prefix_append _ _

theorem sampleOnCmd_upgrade (hfor : isForDevice target msg)
    (hcmd : headerCmd msg = sampleCmdUpgrade) (len : Nat) :
    (sampleOnCmd target env w msg len).result =
      recvUpgradeFile target env msg len
        { w with send := recordRecvNum (headerSerialNum msg) w.send } := by
  rw [sampleOnCmd, if_pos hfor, handleCmd_upgrade _ _ _ _ hcmd]
  rfl

theorem sampleOnCmd_uploadMmData (hfor : isForDevice target msg)
    (hcmd : headerCmd msg = sampleCmdUploadMmData) (len : Nat) :
    (sampleOnCmd target env w msg len).result =
      recvAckAndSendImage target env msg
        { w with send := recordRecvNum (headerSerialNum msg) w.send } := by
  rw [sampleOnCmd, if_pos hfor, handleCmd_uploadMmData _ _ _ _ hcmd]
  rfl

theorem recvUpgradeFile_trans (h : msg payloadOffset = upgradeCmdTrans)
    (len : Nat) :
    recvUpgradeFile target env msg len w =
      recvUpgradeTrans target env msg len w := by
  rw [recvUpgradeFile, h]
  rfl

/-- The reply carries the first five bytes of the payload. -/
theorem recvUpgradeTrans_reply (target : Target) (env : Env) (w : World)
    (msg : Mem UInt8) (len : Nat) :
    ∃ before result node, (recvUpgradeTrans target env msg len w).2 =
      before ++ [.send sampleCmdUpgrade
        (msg.read payloadOffset 5 ++ [result]) node] := by
  unfold recvUpgradeTrans
  simp only [upgradeReply, sendMessage_apply]
  split_ifs
  · exact ⟨[], 0, _, rfl⟩
  · exact ⟨[_], 0, _, rfl⟩
  · exact ⟨[], 1, _, rfl⟩
  · exact ⟨[], 0, _, rfl⟩

theorem recvUpgradeTrans_sum (h : upgradePacketIndex msg = 0) (len : Nat) :
    (recvUpgradeTrans target env msg len w).1.upgrade.sum =
      UInt32.ofNat (ofBE (msg.read (payloadOffset + 5) 4)) := by
  unfold recvUpgradeTrans
  simp only [if_pos h, upgradeReply, Act.andThen_fst, Act.modify_apply,
    sendMessage_apply]
  rfl

theorem recvAckAndSendImage_notices (hack : ackByte msg = 0)
    (hindex : w.transfer.packetIndex.toNat = ackPacketIndex msg + 1) :
    .noticeAck ∈ (recvAckAndSendImage target env msg w).2 := by
  unfold recvAckAndSendImage
  rw [if_neg (not_not.mpr hack), if_neg (not_not.mpr hindex)]
  split_ifs
  · simp [noticeAckMsg]
  · simp [noticeAckMsg]

end

/-! ## Two runs -/

theorem sampleOnCmd_congr {target : Target} {w : World} {f : Frame}
    (hinside : ¬ ReadsPast target w f) (env : Env) {msg msg' : Mem UInt8}
    (h : InBuffer f msg) (h' : InBuffer f msg') :
    (sampleOnCmd target env w msg f.bytes.length).result =
      (sampleOnCmd target env w msg' f.bytes.length).result := by
  have hagree := h.agree h'
  have hn : emptyFrameLen ≤ f.bytes.length := by
    rw [Frame.length_bytes]
    exact Nat.le_add_left _ _
  obtain ⟨hserial, -, hcmd⟩ := h.header
  obtain ⟨hserial', -, -⟩ := h'.header
  by_cases hfor : f.deviceId = target.build.deviceId ∨
      f.deviceId = sampleDeviceIdBrdcst
  · rw [sampleOnCmd, sampleOnCmd, if_pos (h.forDevice_iff.mpr hfor),
      if_pos (h'.forDevice_iff.mpr hfor), hserial, hserial']
    have hupgrade : ¬ UpgradeReadsPast f := fun hpast =>
      hinside ⟨hfor, .inl hpast⟩
    have hack : ¬ AckReadsPast w.transfer.packetIndex f := fun hpast =>
      hinside ⟨hfor, .inr hpast⟩
    apply handleCmd_congr hagree hn
    · intro hcode
      apply recvUpgradeFile_congr hagree hn
      intro htrans
      have hfirst := (h.first (by decide)).mp htrans
      have hhead : payloadOffset + 5 ≤ f.bytes.length := by
        by_contra hshort
        exact hupgrade ⟨hcmd.symm.trans hcode, hfirst,
          .inl (Nat.lt_of_not_le hshort)⟩
      refine ⟨hhead, fun hzero => ?_⟩
      by_contra hshort
      rw [upgradePacketIndex, h.read (by omega)] at hzero
      exact hupgrade ⟨hcmd.symm.trans hcode, hfirst,
        .inr ⟨Nat.lt_of_not_le hshort, hzero⟩⟩
    · intro hcode
      by_cases hfull : payloadOffset + 10 ≤ f.bytes.length
      · exact recvAckAndSendImage_congr hagree hfull target env _
      · have hcmd' : f.cmd = sampleCmdUploadMmData := hcmd.symm.trans hcode
        have hshort := Nat.lt_of_not_le hfull
        have hidle : ∀ {m : Mem UInt8}, InBuffer f m →
            recvAckAndSendImage target env m
              { w with send := recordRecvNum f.serialNum w.send } = (_, []) :=
          fun hm => recvAckAndSendImage_idle fun htaken =>
            hack (ackReadsPast_of_taken hm hcmd' hshort htaken.2)
        exact (hidle h).trans (hidle h').symm
  · rw [sampleOnCmd, sampleOnCmd, if_neg (h.forDevice_iff.not.mpr hfor),
      if_neg (h'.forDevice_iff.not.mpr hfor)]
    rfl

/-- The frame in a buffer that was filled with `b` before. -/
def filledWith (b : UInt8) (f : Frame) : Mem UInt8 :=
  Mem.copy (fun _ => b) 0 f.bytes

theorem filledWith_ne {f : Frame} {i : Nat} (hi : f.bytes.length ≤ i) :
    filledWith 0 f i ≠ filledWith 1 f i := by
  rw [filledWith, filledWith, Mem.copy_of_ge _ _ (by omega),
    Mem.copy_of_ge _ _ (by omega)]
  decide

theorem upgrade_differs {target : Target} {f : Frame}
    (hfor : f.deviceId = target.build.deviceId ∨
      f.deviceId = sampleDeviceIdBrdcst)
    (hpast : UpgradeReadsPast f) (env : Env) (w : World) :
    (sampleOnCmd target env w (filledWith 0 f) f.bytes.length).result ≠
      (sampleOnCmd target env w (filledWith 1 f) f.bytes.length).result := by
  obtain ⟨hcmd, hfirst, hshort⟩ := hpast
  have h : ∀ b, InBuffer f (filledWith b f) := fun b => inBuffer_copy f _
  have hresult : ∀ b, (sampleOnCmd target env w (filledWith b f)
      f.bytes.length).result = recvUpgradeTrans target env (filledWith b f)
        f.bytes.length
        { w with send := recordRecvNum f.serialNum w.send } := by
    intro b
    obtain ⟨hserial, -, hcode⟩ := (h b).header
    rw [sampleOnCmd_upgrade ((h b).forDevice_iff.mpr hfor)
      (hcode.trans hcmd), recvUpgradeFile_trans
        (((h b).first (by decide)).mpr hfirst), hserial]
  rw [hresult, hresult]
  intro heq
  by_cases hhead : f.bytes.length < payloadOffset + 5
  · -- the replies carry the bytes behind the frame
    obtain ⟨before, result, node, hreply⟩ := recvUpgradeTrans_reply target env
      { w with send := recordRecvNum f.serialNum w.send } (filledWith 0 f)
      f.bytes.length
    obtain ⟨before', result', node', hreply'⟩ := recvUpgradeTrans_reply target
      env { w with send := recordRecvNum f.serialNum w.send } (filledWith 1 f)
      f.bytes.length
    have heffects := congrArg Prod.snd heq
    rw [hreply, hreply'] at heffects
    obtain ⟨-, hlast⟩ := List.append_inj' heffects rfl
    have hpayload := (Effect.send.inj (List.cons.inj hlast).1).2.1
    obtain ⟨hread, -⟩ := List.append_inj' hpayload rfl
    have hcell := Mem.apply_of_read hread 4 (by simp)
    rw [Mem.getElem_read] at hcell
    exact filledWith_ne (by omega) hcell
  · -- the sums do
    obtain ⟨hsum, hzero⟩ := hshort.resolve_left hhead
    have hindex : ∀ b, upgradePacketIndex (filledWith b f) = 0 := by
      intro b
      rw [upgradePacketIndex, (h b).read (by omega), hzero]
    have hsums := congrArg (fun out => out.1.upgrade.sum) heq
    rw [recvUpgradeTrans_sum (hindex 0), recvUpgradeTrans_sum (hindex 1)]
      at hsums
    have hlt : ∀ b, ofBE ((filledWith b f).read (payloadOffset + 5) 4) <
        2 ^ 32 := fun b => by
      have := ofBE_lt ((filledWith b f).read (payloadOffset + 5) 4)
      rwa [Mem.length_read] at this
    have hnumber := congrArg UInt32.toNat hsums
    rw [UInt32.toNat_ofNat', UInt32.toNat_ofNat', Nat.mod_eq_of_lt (hlt 0),
      Nat.mod_eq_of_lt (hlt 1)] at hnumber
    have hread := ofBE_inj (by simp) hnumber
    have hcell := Mem.apply_of_read hread 3 (by simp)
    rw [Mem.getElem_read] at hcell
    exact filledWith_ne (by omega) hcell

/-- The buffer behind the frame completes the acknowledgement of `index`. -/
def completed (index : Nat) (f : Frame) : Mem UInt8 :=
  Mem.copy (Mem.copy (fun _ => 0) (payloadOffset + 7) (toBE 2 index)) 0 f.bytes

theorem completed_index {index : Nat} (hindex : index < 2 ^ 16) {f : Frame}
    (hopen : f.bytes.drop (payloadOffset + 7) <+: toBE 2 index) :
    ackPacketIndex (completed index f) = index := by
  have hread : (completed index f).read (payloadOffset + 7) 2 =
      toBE 2 index := by
    rw [Mem.read_eq_iff]
    refine ⟨length_toBE 2 index, fun i hi => ?_⟩
    by_cases hinside : payloadOffset + 7 + i < f.bytes.length
    · have hcell := Mem.copy_inside
        (Mem.copy (fun _ => 0) (payloadOffset + 7) (toBE 2 index)) 0 f.bytes
        (payloadOffset + 7 + i) hinside
      have htail := hopen.getElem (i := i)
        (by rw [List.length_drop]; omega)
      rw [List.getElem_drop] at htail
      rw [Nat.zero_add] at hcell
      rw [completed, hcell, htail]
    · rw [completed, Mem.copy_of_ge _ _ (by omega), Mem.copy_inside _ _ _ _ hi]
  rw [ackPacketIndex, hread, ofBE_toBE (by simpa using hindex)]

theorem ack_differs {target : Target} {f : Frame}
    (hfor : f.deviceId = target.build.deviceId ∨
      f.deviceId = sampleDeviceIdBrdcst) {w : World}
    (hpast : AckReadsPast w.transfer.packetIndex f) (env : Env) :
    (sampleOnCmd target env w (filledWith 1 f) f.bytes.length).result ≠
      (sampleOnCmd target env w
        (completed (w.transfer.packetIndex.toNat - 1) f)
        f.bytes.length).result := by
  obtain ⟨hcmd, hshort, hne, hopen⟩ := hpast
  let noted : World :=
    { w with send := recordRecvNum f.serialNum w.send }
  have hresult : ∀ {m : Mem UInt8}, InBuffer f m →
      (sampleOnCmd target env w m f.bytes.length).result =
        recvAckAndSendImage target env m noted := by
    intro m hm
    obtain ⟨hserial, -, hcode⟩ := hm.header
    rw [sampleOnCmd_uploadMmData (hm.forDevice_iff.mpr hfor)
      (hcode.trans hcmd), hserial]
  have hpositive : w.transfer.packetIndex.toNat ≠ 0 := fun hzero =>
    hne (UInt16.toNat_inj.mp hzero)
  have hlt := w.transfer.packetIndex.toNat_lt
  let taken := completed (w.transfer.packetIndex.toNat - 1) f
  have hfilled : InBuffer f (filledWith 1 f) := inBuffer_copy f _
  have htaken : InBuffer f taken := inBuffer_copy f _
  have hindex : noted.transfer.packetIndex.toNat =
      ackPacketIndex taken + 1 := by
    rw [completed_index (by omega) hopen]
    exact (Nat.sub_add_cancel (Nat.pos_of_ne_zero hpositive)).symm
  have hack : ackByte (completed (w.transfer.packetIndex.toNat - 1) f) = 0 := by
    rw [ackByte, completed, Mem.copy_of_ge _ _ (by omega),
      Mem.copy_of_ge _ _ (by rw [length_toBE])]
  have hrefused : ackByte (filledWith 1 f) ≠ 0 := by
    rw [ackByte, filledWith, Mem.copy_of_ge _ _ (by omega)]
    decide
  have hnotice : .noticeAck ∈ (recvAckAndSendImage target env taken noted).2 :=
    recvAckAndSendImage_notices hack hindex
  rw [hresult hfilled, hresult htaken,
    recvAckAndSendImage_idle fun h => hrefused h.1]
  intro heq
  rw [← congrArg Prod.snd heq] at hnotice
  cases hnotice

/-- What a handler does depends on the frame alone exactly when the frame does
not read past its end. -/
theorem sampleOnCmd_frameOnly_iff (target : Target) (env : Env) (w : World)
    (f : Frame) :
    (∀ msg msg', InBuffer f msg → InBuffer f msg' →
      (sampleOnCmd target env w msg f.bytes.length).result =
        (sampleOnCmd target env w msg' f.bytes.length).result) ↔
      ¬ ReadsPast target w f := by
  constructor
  · rintro hsame ⟨hfor, hupgrade | hack⟩
    · exact upgrade_differs hfor hupgrade env w
        (hsame _ _ (inBuffer_copy f _) (inBuffer_copy f _))
    · exact ack_differs hfor hack env
        (hsame _ _ (inBuffer_copy f _) (inBuffer_copy f _))
  · intro hinside msg msg' h h'
    exact sampleOnCmd_congr hinside env h h'

/-- An acknowledgement without payload. -/
def emptyMediaAck : Frame where
  serialNum := 1
  vendorId := vendorId
  deviceId := sampleDeviceIdAdas
  cmd := sampleCmdUploadMmData
  payload := []

def firstPacketSent : World :=
  { World.zero with transfer := ⟨0, 7, 2, 1, true⟩ }

/-- Leftovers in the buffer acknowledge the first packet of a transfer. -/
theorem sampleOnCmd_readsLeftovers :
    ¬ ∀ msg msg', InBuffer emptyMediaAck msg → InBuffer emptyMediaAck msg' →
      (sampleOnCmd adasTcp Env.plain firstPacketSent msg
        emptyMediaAck.bytes.length).result =
      (sampleOnCmd adasTcp Env.plain firstPacketSent msg'
        emptyMediaAck.bytes.length).result := by
  intro hsame
  have hpast : AckReadsPast firstPacketSent.transfer.packetIndex
      emptyMediaAck :=
    ⟨rfl, by decide, by decide, by decide⟩
  exact ack_differs (.inl rfl) hpast Env.plain
    (hsame _ _ (inBuffer_copy _ _) (inBuffer_copy _ _))

end SanbaoProt
