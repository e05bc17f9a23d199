import SanbaoProt.Device.Footprint

/-!
# Factory reset

The reply to a factory reset is built and escaped in the receive buffer, and
the device id that decides what is reset is read from that buffer afterwards.
Each serial number byte that had to be escaped has moved the device id one cell
on, and what is found in its place is a byte of the vendor id.
-/

namespace SanbaoProt

open Library

def Escaped (b : UInt8) : Prop := b = sampleProtMagic ∨ b = sampleProtEscChar

instance (b : UInt8) : Decidable (Escaped b) :=
  inferInstanceAs (Decidable (_ ∨ _))

theorem stuffOne_of_not_escaped {b : UInt8} (h : ¬ Escaped b) :
    slip.stuffOne b = [b] := by
  rw [Escaped, not_or] at h
  exact slip.stuffOne_plain h.1 h.2

theorem stuffOne_of_escaped {b : UInt8} (h : Escaped b) :
    ∃ code, slip.stuffOne b = [sampleProtEscChar, code] := by
  rcases h with rfl | rfl
  · exact ⟨0x02, by decide⟩
  · exact ⟨0x01, by decide⟩

def serialHigh (serial : UInt16) : UInt8 := UInt8.ofNat (serial.toNat / 256)

def serialLow (serial : UInt16) : UInt8 := UInt8.ofNat serial.toNat

def resetReply (b : Build) (serial : UInt16) : Frame where
  serialNum := serial
  vendorId := vendorId
  deviceId := b.deviceId
  cmd := sampleCmdFactoryReset
  payload := []

theorem resetReply_plain (b : Build) :
    slip.stuffOne (resetReply b 0).checksum = [(resetReply b 0).checksum] ∧
      slip.stuff (resetReply b 0).summed =
        [0x12, 0x34, b.deviceId, sampleCmdFactoryReset] := by
  cases b <;> decide

/-- Apart from the serial number no byte of the reply is escaped. -/
theorem resetReply_wire (b : Build) (serial : UInt16) :
    (resetReply b serial).wire =
      [sampleProtMagic, (resetReply b serial).checksum] ++
        slip.stuffOne (serialHigh serial) ++ slip.stuffOne (serialLow serial) ++
        [0x12, 0x34, b.deviceId, sampleCmdFactoryReset, sampleProtMagic] := by
  have hsummed : (resetReply b serial).summed = (resetReply b 0).summed := rfl
  have hchecksum : (resetReply b serial).checksum =
      (resetReply b 0).checksum := rfl
  obtain ⟨hplain, hrest⟩ := resetReply_plain b
  rw [Frame.wire, Frame.middle, Stuffing.stuff_cons, Stuffing.stuff_append,
    hsummed, hchecksum, hplain, hrest, toBE_two]
  simp [serialHigh, serialLow, resetReply]

theorem resetReply_deviceId (b : Build) (serial : UInt16) {buffer : Mem UInt8}
    (h : buffer.read 0 (resetReply b serial).wire.length =
      (resetReply b serial).wire) :
    headerDeviceId buffer =
      if Escaped (serialHigh serial) ∧ Escaped (serialLow serial) then 0x12
      else if Escaped (serialHigh serial) ∨ Escaped (serialLow serial) then
        0x34
      else b.deviceId := by
  have hwire := resetReply_wire b serial
  have hlength : 6 < (resetReply b serial).wire.length := by
    rw [hwire]
    simp
    omega
  have hbyte := Mem.apply_of_read h 6 hlength
  rw [Nat.zero_add] at hbyte
  rw [headerDeviceId, hbyte]
  simp only [hwire]
  by_cases hhigh : Escaped (serialHigh serial)
  · obtain ⟨code, hcode⟩ := stuffOne_of_escaped hhigh
    by_cases hlow : Escaped (serialLow serial)
    · obtain ⟨code', hcode'⟩ := stuffOne_of_escaped hlow
      simp [hhigh, hlow, hcode, hcode']
    · simp [hhigh, hlow, hcode, stuffOne_of_not_escaped hlow]
  · by_cases hlow : Escaped (serialLow serial)
    · obtain ⟨code, hcode⟩ := stuffOne_of_escaped hlow
      simp [hhigh, hlow, hcode, stuffOne_of_not_escaped hhigh]
    · simp [hhigh, hlow, stuffOne_of_not_escaped hhigh,
        stuffOne_of_not_escaped hlow]

def ParaStore.IsDefault (b : Build) (para : ParaStore) : Prop :=
  match b with
  | .adas => para.adas = AdasPara.defaults
  | .dms => para.dms = DmsPara.defaults

instance (b : Build) (para : ParaStore) : Decidable (para.IsDefault b) :=
  match b with
  | .adas => inferInstanceAs (Decidable (para.adas = AdasPara.defaults))
  | .dms => inferInstanceAs (Decidable (para.dms = DmsPara.defaults))

theorem doFactoryReset_own (env : Env) (b : Build) (w : World) :
    (doFactoryReset env b.deviceId w).1.para.IsDefault b := by
  have hdms : sampleDeviceIdDms ≠ sampleDeviceIdAdas := by decide
  cases b with
  | adas =>
      rw [Build.deviceId, doFactoryReset, if_pos rfl]
      simp only [ParaStore.IsDefault, setAdasParaSettingDefault_eq]
  | dms =>
      rw [Build.deviceId, doFactoryReset, if_neg hdms, if_pos rfl]
      simp only [ParaStore.IsDefault, setDmsParaSettingDefault_eq]

theorem doFactoryReset_other (env : Env) {devId : UInt8}
    (hadas : devId ≠ sampleDeviceIdAdas) (hdms : devId ≠ sampleDeviceIdDms)
    (w : World) : doFactoryReset env devId w = (w, []) := by
  rw [doFactoryReset, if_neg hadas, if_neg hdms]

def RepliesReset (b : Build) (serial : UInt16) (effects : List Effect) :
    Prop :=
  ∃ node : SendNode, .send sampleCmdFactoryReset [] node ∈ effects ∧
    node.buf = some (resetReply b serial).wire

/-- A reset always replies, and it resets the device exactly when no byte of
the serial number is escaped or there is nothing to reset. -/
theorem factoryReset_takesEffect_iff (target : Target) (env : Env) (w : World)
    (msg : Mem UInt8) (f : Frame) (hmsg : InBuffer f msg)
    (hcmd : f.cmd = sampleCmdFactoryReset)
    (hdevice : f.deviceId = target.build.deviceId ∨
      f.deviceId = sampleDeviceIdBrdcst) :
    let handled := sampleOnCmd target env w msg f.bytes.length
    (handled.world.para.IsDefault target.build ∧
        RepliesReset target.build f.serialNum handled.effects) ↔
      (¬ Escaped (serialHigh f.serialNum) ∧ ¬ Escaped (serialLow f.serialNum)) ∨
        w.para.IsDefault target.build := by
  intro handled
  obtain ⟨hserial, hdev, hcode⟩ := hmsg.header
  have hfor : isForDevice target msg := by
    rw [isForDevice, hdev]
    exact hdevice
  let recorded : World :=
    { w with send := recordRecvNum (headerSerialNum msg) w.send }
  let sent := messageQueueSend target recorded msg sampleCmdFactoryReset []
  have hhandled : handled = Handled.andThen
      ⟨sent.world, sent.buffer, sent.effects⟩
      (doFactoryReset env (headerDeviceId sent.buffer)) := by
    simp only [handled, sampleOnCmd, if_pos hfor]
    exact handleCmd_factoryReset target env recorded _ (hcode.trans hcmd)
  have hreply : sentFrame target recorded sampleCmdFactoryReset [] =
      resetReply target.build f.serialNum := by
    rw [← hserial]
    rfl
  obtain ⟨hworld, heffects, hbuffer⟩ :=
    messageQueueSend_spec target recorded msg sampleCmdFactoryReset []
  rw [hreply] at hbuffer
  have hdeviceId := resetReply_deviceId target.build f.serialNum hbuffer
  have hreplies : RepliesReset target.build f.serialNum handled.effects := by
    refine ⟨sentNode target recorded sampleCmdFactoryReset [], ?_, ?_⟩
    · rw [hhandled]
      apply List.mem_append_left
      rw [heffects]
      exact List.mem_singleton_self _
    · rw [← hreply]
      rfl
  have hpara : sent.world.para = w.para := by
    rw [hworld]
    rfl
  rw [and_iff_left hreplies, hhandled]
  by_cases hplain : ¬ Escaped (serialHigh f.serialNum) ∧
      ¬ Escaped (serialLow f.serialNum)
  · have hown : headerDeviceId sent.buffer = target.build.deviceId := by
      rw [hdeviceId]
      simp [hplain.1, hplain.2]
    simp only [hplain, not_false_eq_true, and_self, true_or, iff_true]
    rw [Handled.andThen, hown]
    exact doFactoryReset_own env target.build sent.world
  · have hother : headerDeviceId sent.buffer ≠ sampleDeviceIdAdas ∧
        headerDeviceId sent.buffer ≠ sampleDeviceIdDms := by
      rw [hdeviceId]
      rw [not_and_or, not_not, not_not] at hplain
      split_ifs <;> decide
    rw [or_iff_right hplain]
    simp only [Handled.andThen,
      doFactoryReset_other env hother.1 hother.2, hpara]

def resetRequest (serial : UInt16) : Frame where
  serialNum := serial
  vendorId := vendorId
  deviceId := sampleDeviceIdAdas
  cmd := sampleCmdFactoryReset
  payload := []

theorem factoryReset_takesEffect_serialOne :
    let f := resetRequest 1
    let handled := sampleOnCmd adasTcp Env.plain World.zero
      (Mem.ofList f.bytes) f.bytes.length
    (handled.world.para.IsDefault .adas ∧
        RepliesReset .adas f.serialNum handled.effects) ↔
      (¬ Escaped (serialHigh f.serialNum) ∧ ¬ Escaped (serialLow f.serialNum)) ∨
        World.zero.para.IsDefault .adas :=
  factoryReset_takesEffect_iff adasTcp Env.plain World.zero _ (resetRequest 1)
    (Mem.read_ofList _) rfl (.inl rfl)

/-- With the serial number `0x007E` nothing is reset. -/
theorem factoryReset_loses_serial7E :
    ¬ (sampleOnCmd adasTcp Env.plain World.zero
      (Mem.ofList (resetRequest 0x7E).bytes) 9).world.para.IsDefault .adas := by
  decide +kernel

end SanbaoProt
