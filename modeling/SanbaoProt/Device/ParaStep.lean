import SanbaoProt.Device.FactoryReset

/-!
# The parameters of a device along a run

What a received frame does to the parameter store and to the parameter file of
the device: it writes a set and saves the store, or it leaves both alone.
`device_ownPara` says so of every frame and both builds, with the written set
given by `writtenPara`; the store of the other device is never written.
-/

namespace SanbaoProt

open Library

namespace Build

def other : Build → Build
  | .adas => .dms
  | .dms => .adas

def paraSize : Build → Nat
  | .adas => 50
  | .dms => 43

def paraWords : (b : Build) → List (PackedWord b.paraSize)
  | .adas => AdasPara.words
  | .dms => DmsPara.words

def paraDefaults : (b : Build) → Packed b.paraSize
  | .adas => AdasPara.defaults
  | .dms => DmsPara.defaults

/-- What is checked after a write: the ADAS store only. -/
def paraCheck : (b : Build) → Packed b.paraSize → Packed b.paraSize
  | .adas => adasParaCheck
  | .dms => id

def writeDevPara (b : Build) (para store : Packed b.paraSize) :
    Packed b.paraSize :=
  b.paraCheck (Packed.merge b.paraWords para store)

theorem paraWords_apart (b : Build) : (Packed.cells b.paraWords).Nodup := by
  cases b with
  | adas => exact AdasPara.words_apart
  | dms => exact DmsPara.words_apart

theorem writeDevPara_defaults (b : Build) (store : Packed b.paraSize) :
    b.writeDevPara b.paraDefaults store = b.paraDefaults := by
  cases b with
  | adas => exact setAdasParaSettingDefault_eq store
  | dms => exact setDmsParaSettingDefault_eq store

end Build

def ParaStore.own (b : Build) (para : ParaStore) : Packed b.paraSize :=
  match b with
  | .adas => para.adas
  | .dms => para.dms

def ParaFiles.own (b : Build) (files : ParaFiles) : Option (List UInt8) :=
  match b with
  | .adas => files.adas
  | .dms => files.dms

/-- The store of a device and its file. -/
structure OwnPara (b : Build) where
  store : Packed b.paraSize
  file : Option (List UInt8)

def World.ownPara (b : Build) (w : World) : OwnPara b :=
  ⟨w.para.own b, w.files.own b⟩

/-- Write a set over the store and save the store. -/
def OwnPara.save {b : Build} (s : OwnPara b) (para : Packed b.paraSize)
    (outcome : Option Nat) : OwnPara b :=
  let store := b.writeDevPara para s.store
  ⟨store, (writeFile outcome s.file store.toList).2⟩

/-! ## One frame -/

def SetsPara (target : Target) (r : Received) : Prop :=
  headerCmd r.msg = sampleCmdSetParam ∧
    headerDeviceId r.msg = target.build.deviceId ∧
    r.len = headerSize + 1 + target.build.paraSize

instance (target : Target) (r : Received) : Decidable (SetsPara target r) :=
  inferInstanceAs (Decidable (_ ∧ _))

def ResetsPara (target : Target) (r : Received) : Prop :=
  isForDevice target r.msg ∧ headerCmd r.msg = sampleCmdFactoryReset ∧
    ¬ Escaped (serialHigh (headerSerialNum r.msg)) ∧
    ¬ Escaped (serialLow (headerSerialNum r.msg))

instance (target : Target) (r : Received) : Decidable (ResetsPara target r) :=
  inferInstanceAs (Decidable (_ ∧ _))

/-- The set that the handler of a frame writes over the store, if any. -/
def writtenPara (target : Target) (r : Received) :
    Option (Packed target.build.paraSize) :=
  if SetsPara target r then
    some (receivedPara target.build.paraWords r.msg)
  else if ResetsPara target r then some target.build.paraDefaults
  else none

theorem SetsPara.forDevice {target : Target} {r : Received}
    (h : SetsPara target r) : isForDevice target r.msg :=
  .inl h.2.1

theorem writtenPara_of_other {target : Target} {r : Received}
    (hset : headerCmd r.msg ≠ sampleCmdSetParam)
    (hreset : headerCmd r.msg ≠ sampleCmdFactoryReset) :
    writtenPara target r = none := by
  rw [writtenPara, if_neg fun h => hset h.1, if_neg fun h => hreset h.2.1]

/-- The store and the file of the device follow `next`, those of the other
device are kept. -/
def ParaFollows (b : Build) (w : World) (next : OwnPara b) (w' : World) :
    Prop :=
  w'.ownPara b = next ∧ w'.ownPara b.other = w.ownPara b.other

theorem ParaFollows.of_same {b : Build} {w w' : World}
    (hpara : w'.para = w.para) (hfiles : w'.files = w.files) :
    ParaFollows b w (w.ownPara b) w' := by
  simp only [ParaFollows, World.ownPara, hpara, hfiles, and_self]

theorem follows_adas (w : World) (para : AdasPara) (outcome : Option Nat) :
    let store := writeDevParaAdas para w.para.adas
    ParaFollows .adas w ((w.ownPara .adas).save para outcome)
      { w with
        para := { w.para with adas := store }
        files :=
          { w.files with
            adas := (writeFile outcome w.files.adas store.toList).2 } } := by
  simp only [ParaFollows, OwnPara.save, World.ownPara, ParaStore.own,
    ParaFiles.own, Build.other, and_true]
  rfl

theorem follows_dms (w : World) (para : DmsPara) (outcome : Option Nat) :
    let store := writeDevParaDms para w.para.dms
    ParaFollows .dms w ((w.ownPara .dms).save para outcome)
      { w with
        para := { w.para with dms := store }
        files :=
          { w.files with
            dms := (writeFile outcome w.files.dms store.toList).2 } } :=
  ⟨rfl, rfl⟩

theorem storeReceivedPara_follows {target : Target} {r : Received}
    (h : SetsPara target r) (w : World) :
    ParaFollows target.build w
      ((w.ownPara target.build).save
        (receivedPara target.build.paraWords r.msg) r.env.paraWrite)
      (storeReceivedPara r.env r.msg r.len w).1 := by
  obtain ⟨-, hdevice, hlen⟩ := h
  obtain ⟨b, i⟩ := target
  cases b with
  | adas =>
      rw [storeReceivedPara, if_pos ⟨hdevice, hlen⟩]
      exact follows_adas w _ _
  | dms =>
      have hdms : headerDeviceId r.msg = sampleDeviceIdDms := hdevice
      have hother : headerDeviceId r.msg ≠ sampleDeviceIdAdas := by
        rw [hdms]
        decide
      rw [storeReceivedPara, if_neg fun hadas => hother hadas.1,
        if_pos ⟨hdms, hlen⟩]
      exact follows_dms w _ _

theorem storeReceivedPara_keeps {target : Target} {r : Received}
    (hfor : isForDevice target r.msg)
    (hset : headerCmd r.msg = sampleCmdSetParam) (h : ¬ SetsPara target r)
    (w : World) : (storeReceivedPara r.env r.msg r.len w).1 = w := by
  have hno : ¬ (headerDeviceId r.msg = target.build.deviceId ∧
      r.len = headerSize + 1 + target.build.paraSize) :=
    fun hstored => h ⟨hset, hstored⟩
  have hother : headerDeviceId r.msg ≠ target.build.other.deviceId := by
    rcases hfor with hown | hbroadcast
    · rw [hown]
      cases target.build <;> decide
    · rw [hbroadcast]
      cases target.build <;> decide
  unfold storeReceivedPara
  obtain ⟨b, i⟩ := target
  cases b with
  | adas =>
      split_ifs with hadas hdms
      · exact absurd hadas hno
      · exact absurd hdms.1 hother
      · rfl
  | dms =>
      split_ifs with hadas hdms
      · exact absurd hadas.1 hother
      · exact absurd hdms hno
      · rfl

theorem recvParaSetting_para (target : Target) (env : Env) (msg : Mem UInt8)
    (len : Nat) (w : World) (b : Build) :
    (recvParaSetting target env msg len w).1.ownPara b =
      (storeReceivedPara env msg len w).1.ownPara b := by
  rw [recvParaSetting, sendMessage_apply]
  rfl

theorem doFactoryReset_follows (env : Env) (b : Build) (w : World) :
    ParaFollows b w ((w.ownPara b).save b.paraDefaults env.paraWrite)
      (doFactoryReset env b.deviceId w).1 := by
  cases b with
  | adas =>
      rw [Build.deviceId, doFactoryReset, if_pos rfl]
      exact follows_adas w _ _
  | dms =>
      rw [Build.deviceId, doFactoryReset, if_neg (by decide), if_pos rfl]
      exact follows_dms w _ _

/-- The device id that the reset finds after the reply was built. -/
theorem factoryReset_deviceId (target : Target) (w : World)
    (msg : Mem UInt8) :
    let serial := w.send.recvSerialNum
    let sent := messageQueueSend target w msg sampleCmdFactoryReset []
    headerDeviceId sent.buffer =
      if Escaped (serialHigh serial) ∧ Escaped (serialLow serial) then 0x12
      else if Escaped (serialHigh serial) ∨ Escaped (serialLow serial) then
        0x34
      else target.build.deviceId :=
  resetReply_deviceId target.build w.send.recvSerialNum
    (messageQueueSend_spec target w msg sampleCmdFactoryReset []).2.2

theorem factoryReset_follows (target : Target) (w : World) (r : Received) :
    let noted : World :=
      { w with send := recordRecvNum (headerSerialNum r.msg) w.send }
    let sent := messageQueueSend target noted r.msg sampleCmdFactoryReset []
    let plain := ¬ Escaped (serialHigh (headerSerialNum r.msg)) ∧
      ¬ Escaped (serialLow (headerSerialNum r.msg))
    ParaFollows target.build w
      (if plain then
        (w.ownPara target.build).save target.build.paraDefaults
          r.env.paraWrite
      else w.ownPara target.build)
      (doFactoryReset r.env (headerDeviceId sent.buffer) sent.world).1 := by
  intro noted sent plain
  have hdevice : headerDeviceId sent.buffer = _ :=
    factoryReset_deviceId target noted r.msg
  have hworld : sent.world = sentWorld target noted sampleCmdFactoryReset [] :=
    (messageQueueSend_spec target noted r.msg sampleCmdFactoryReset []).1
  have hserial : noted.send.recvSerialNum = headerSerialNum r.msg := rfl
  rw [hserial] at hdevice
  split_ifs with hplain
  · rw [hdevice, hworld]
    rw [if_neg fun h => hplain.1 h.1, if_neg (not_or.mpr hplain)]
    exact doFactoryReset_follows r.env target.build
      (sentWorld target noted sampleCmdFactoryReset [])
  · have hother : headerDeviceId sent.buffer ≠ sampleDeviceIdAdas ∧
        headerDeviceId sent.buffer ≠ sampleDeviceIdDms := by
      rw [hdevice]
      rw [not_and_or, not_not, not_not] at hplain
      split_ifs <;> decide
    rw [doFactoryReset_other r.env hother.1 hother.2, hworld]
    exact .of_same rfl rfl

/-- A frame writes the set given by `writtenPara` and saves the store, or it
leaves the parameters as they are. -/
theorem device_ownPara (target : Target) (w : World) (r : Received) :
    ParaFollows target.build w
      (match writtenPara target r with
      | none => w.ownPara target.build
      | some para => (w.ownPara target.build).save para r.env.paraWrite)
      ((device target).step w r).1 := by
  let noted : World :=
    { w with send := recordRecvNum (headerSerialNum r.msg) w.send }
  by_cases hfor : isForDevice target r.msg
  · have hstep : ((device target).step w r).1 =
        (handleCmd target r.env noted r.msg r.len).world := by
      simp only [device, Handled.result_fst, sampleOnCmd, if_pos hfor, noted]
    rw [hstep]
    by_cases hset : headerCmd r.msg = sampleCmdSetParam
    · have hreset : ¬ ResetsPara target r := fun h => by
        have := hset.symm.trans h.2.1
        exact absurd this (by decide)
      rw [handleCmd_setParam _ _ _ _ hset]
      by_cases hsets : SetsPara target r
      · obtain ⟨hown, hother⟩ := storeReceivedPara_follows hsets noted
        rw [writtenPara, if_pos hsets]
        exact ⟨(recvParaSetting_para ..).trans hown,
          (recvParaSetting_para ..).trans hother⟩
      · rw [writtenPara, if_neg hsets, if_neg hreset]
        have hkeep := storeReceivedPara_keeps hfor hset hsets noted
        refine ⟨(recvParaSetting_para ..).trans ?_,
          (recvParaSetting_para ..).trans ?_⟩
        · rw [hkeep]
          rfl
        · rw [hkeep]
          rfl
    have hsets : ¬ SetsPara target r := fun h => hset h.1
    by_cases hreset : headerCmd r.msg = sampleCmdFactoryReset
    · rw [handleCmd_factoryReset _ _ _ _ hreset, writtenPara, if_neg hsets]
      have hfollows := factoryReset_follows target w r
      have hiff : ResetsPara target r ↔
          ¬ Escaped (serialHigh (headerSerialNum r.msg)) ∧
            ¬ Escaped (serialLow (headerSerialNum r.msg)) :=
        ⟨fun h => h.2.2, fun h => ⟨hfor, hreset, h⟩⟩
      simp only [hiff]
      by_cases hplain : ¬ Escaped (serialHigh (headerSerialNum r.msg)) ∧
          ¬ Escaped (serialLow (headerSerialNum r.msg))
      · rw [if_pos hplain]
        simp only [if_pos hplain] at hfollows
        exact hfollows
      · rw [if_neg hplain]
        simp only [if_neg hplain] at hfollows
        exact hfollows
    · rw [writtenPara_of_other hset hreset]
      have hcore := handleCmd_coreStep target r.env noted r.msg r.len
      have hcodeSet : SampleCmd.ofCode (headerCmd r.msg) ≠ some .setParam :=
        fun hc => hset (SampleCmd.code_of_ofCode hc)
      have hcodeReset :
          SampleCmd.ofCode (headerCmd r.msg) ≠ some .factoryReset :=
        fun hc => hreset (SampleCmd.code_of_ofCode hc)
      obtain ⟨hpara, hfiles⟩ := hcore.keepsStored hcodeReset hcodeSet
      exact .of_same hpara hfiles
  · have hstep : ((device target).step w r).1 = w := by
      simp only [device, Handled.result_fst, sampleOnCmd, if_neg hfor]
    have hnone : writtenPara target r = none := by
      rw [writtenPara, if_neg fun h => hfor h.forDevice,
        if_neg fun h => hfor h.1]
    rw [hstep, hnone]
    exact .of_same rfl rfl

end SanbaoProt
