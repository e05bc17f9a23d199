import Mathlib.Algebra.Order.BigOperators.Group.List
import SanbaoProt.Device.Footprint

/-!
# The size of DMS reports

Each media id that a report asks for becomes an entry of its media list, so the
requests determine the length of the frame.  An alert asks for fewer than ten
photos and two videos.  A snapshot asks for as many photos as the parameter
`photo_num` says, which nothing bounds in the DMS store, so a report stays
inside its buffers exactly as long as that parameter does.
-/

namespace SanbaoProt

open Library

def mmIdRequests (effects : List Effect) : List Nat :=
  effects.filterMap fun
    | .mmIds num => some num
    | _ => none

@[simp] theorem mmIdRequests_append (first second : List Effect) :
    mmIdRequests (first ++ second) =
      mmIdRequests first ++ mmIdRequests second :=
  List.filterMap_append

@[simp] theorem mmIdRequests_nil : mmIdRequests [] = [] := rfl

@[simp] theorem mmIdRequests_mmIds (num : Nat) :
    mmIdRequests [.mmIds num] = [num] := rfl

theorem mmIdRequests_removes {effects : List Effect}
    (hremoves : ∀ e ∈ effects, ∃ id, e = .remove id) :
    mmIdRequests effects = [] := by
  induction effects with
  | nil => rfl
  | cons e effects ih =>
      obtain ⟨id, rfl⟩ := hremoves e List.mem_cons_self
      exact ih fun e he => hremoves e (List.mem_cons_of_mem _ he)

theorem clearOldMediaFile_removes {mm : InfoForStore} {w : World} {e : Effect}
    (h : e ∈ (clearOldMediaFile mm w).2) : ∃ id, e = .remove id := by
  have hreplaced : ∀ {id}, e ∈ removeReplaced id → ∃ id, e = .remove id := by
    intro id he
    unfold removeReplaced at he
    split_ifs at he
    · exact ⟨_, List.mem_singleton.mp he⟩
    · cases he
  rcases List.mem_append.mp h with hphotos | hvideo
  · split_ifs at hphotos
    · rcases List.mem_append.mp hphotos with hold | hown
      · obtain ⟨id, -, he⟩ := List.mem_flatMap.mp hold
        exact hreplaced he
      · obtain ⟨id, -, rfl⟩ := List.mem_map.mp hown
        exact ⟨id, rfl⟩
    · cases hphotos
  · split_ifs at hvideo
    · rcases List.mem_append.mp hvideo with hold | hown
      · exact hreplaced hold
      · exact ⟨_, List.mem_singleton.mp hown⟩
    · cases hvideo

theorem putMedia_mmNum (msgbuf : Mem UInt8) (i : Nat) (type : UInt8)
    (id : UInt32) :
    putMedia msgbuf i type id mmNumOffset = msgbuf mmNumOffset + 1 := by
  have hentry : mmNumOffset < warnFrameSize + 5 * i := by
    simp only [mmNumOffset, warnFrameSize]
    omega
  rw [putMedia, Mem.copy_of_lt _ _ (by omega),
    Mem.store_of_ne _ _ (by omega), Mem.store_self]

theorem putPhotos_mmNum (msgbuf : Mem UInt8) (i : Nat) (ids : List UInt32) :
    putPhotos msgbuf i ids mmNumOffset =
      msgbuf mmNumOffset + UInt8.ofNat ids.length := by
  induction ids generalizing msgbuf i with
  | nil => simp [putPhotos]
  | cons id ids ih =>
      rw [putPhotos, ih, putMedia_mmNum, List.length_cons, UInt8.ofNat_add,
        UInt8.add_assoc, UInt8.add_comm 1]
      rfl

namespace Report

def Counted (r : Report) : Prop :=
  r.mmNum = UInt8.ofNat (mmIdRequests r.effects).sum

def photoRequests (r : Report) : List Nat :=
  if r.mm.photoEnable then [r.mm.photoNum.toNat] else []

def videoRequests (r : Report) : List Nat :=
  if r.mm.videoEnable then [1] else []

theorem addPhotos_requests (r : Report) :
    mmIdRequests r.addPhotos.effects =
      mmIdRequests r.effects ++ r.photoRequests := by
  unfold addPhotos photoRequests
  split_ifs <;> simp [takeMmIds]

theorem addPhotos_counted {r : Report} (h : r.Counted) :
    r.addPhotos.Counted := by
  unfold Counted at *
  rw [addPhotos_requests, List.sum_append, UInt8.ofNat_add, ← h]
  unfold addPhotos photoRequests mmNum
  split_ifs
  · simp [putPhotos_mmNum]
  · simp

theorem addVideo_requests (r : Report) :
    mmIdRequests r.addVideo.effects =
      mmIdRequests r.effects ++ r.videoRequests := by
  unfold addVideo videoRequests
  split_ifs <;> simp [takeMmIds]

theorem addVideo_counted {r : Report} (h : r.Counted) :
    r.addVideo.Counted := by
  unfold Counted at *
  rw [addVideo_requests, List.sum_append, UInt8.ofNat_add, ← h]
  unfold addVideo videoRequests mmNum
  split_ifs
  · simp [putMedia_mmNum]
  · simp

theorem store_requests (target : Target) (another : UInt8) (r : Report) :
    mmIdRequests (store target another r).effects =
      mmIdRequests r.effects := by
  have hclear : ∀ mm w, mmIdRequests (clearOldMediaFile mm w).2 = [] :=
    fun mm w => mmIdRequests_removes fun e he => clearOldMediaFile_removes he
  have hpush : ∀ mm w, mmIdRequests (pushMmQueue target mm w).2 = [] := by
    intro mm w
    unfold pushMmQueue
    cases target.interface <;> rfl
  simp [store, act, hclear, hpush]

theorem store_counted {r : Report} (h : r.Counted) (target : Target)
    (another : UInt8) : (store target another r).Counted := by
  unfold Counted at *
  rw [store_requests, ← h]
  rfl

theorem addPhotos_videoRequests (r : Report) :
    r.addPhotos.videoRequests = r.videoRequests := by
  unfold addPhotos videoRequests
  split_ifs <;> rfl

theorem addVideo_videoRequests (r : Report) :
    r.addVideo.videoRequests = r.videoRequests := by
  unfold addVideo videoRequests
  split_ifs <;> rfl

theorem store_videoRequests (target : Target) (another : UInt8) (r : Report) :
    (store target another r).videoRequests = r.videoRequests := rfl

theorem alertMedia_requests (target : Target) (r : Report) :
    mmIdRequests (r.alertMedia target).effects =
      mmIdRequests r.effects ++ r.photoRequests ++ r.videoRequests ++
        r.videoRequests := by
  let own := store target 0 r.addPhotos.addVideo
  let video : Report :=
    { own with mm := { own.mm with photoEnable := false } }
  have hown : mmIdRequests own.effects =
      mmIdRequests r.effects ++ r.photoRequests ++ r.videoRequests := by
    rw [store_requests, addVideo_requests, addPhotos_requests,
      addPhotos_videoRequests]
  have henable : own.videoRequests = r.videoRequests := by
    rw [store_videoRequests, addVideo_videoRequests, addPhotos_videoRequests]
  have hvideo : video.videoRequests = r.videoRequests := henable
  unfold alertMedia
  simp only
  split_ifs with hfilm
  · rw [store_requests, addVideo_requests]
    change mmIdRequests own.effects ++ video.videoRequests = _
    rw [hown, hvideo]
  · have hnone : own.videoRequests = [] := if_neg hfilm
    rw [henable] at hnone
    change mmIdRequests own.effects = _
    rw [hown, hnone, List.append_nil, List.append_nil]

theorem alertMedia_counted {r : Report} (h : r.Counted) (target : Target) :
    (r.alertMedia target).Counted := by
  let own := store target 0 r.addPhotos.addVideo
  let video : Report :=
    { own with mm := { own.mm with photoEnable := false } }
  have hown : own.Counted :=
    store_counted (addVideo_counted (addPhotos_counted h)) target 0
  have hvideo : video.Counted := hown
  unfold alertMedia
  simp only
  split_ifs
  · exact store_counted (addVideo_counted hvideo) target 1
  · exact hown

theorem snapMedia_requests (target : Target) (r : Report) :
    mmIdRequests (r.snapMedia target).effects =
      mmIdRequests r.effects ++ r.photoRequests := by
  unfold snapMedia
  split_ifs with henable
  · rw [store_requests, addPhotos_requests]
  · rw [photoRequests, if_neg henable, List.append_nil]

theorem snapMedia_counted {r : Report} (h : r.Counted) (target : Target) :
    (r.snapMedia target).Counted := by
  unfold snapMedia
  split_ifs
  · exact store_counted (addPhotos_counted h) target 0
  · exact h

/-- No more ids than `InfoForStore` holds, no more bytes than `msgbuf`. -/
def WithinBuffers (r : Report) : Prop :=
  (∀ num ∈ mmIdRequests r.effects, num ≤ warnSnapNumMax) ∧ r.length ≤ 512

theorem withinBuffers_of_sum {r : Report} (h : r.Counted)
    (hnums : ∀ num ∈ mmIdRequests r.effects, num ≤ warnSnapNumMax)
    (hsum : (mmIdRequests r.effects).sum ≤ 96) : r.WithinBuffers := by
  refine ⟨hnums, ?_⟩
  have hnum : r.mmNum.toNat = (mmIdRequests r.effects).sum := by
    rw [h, UInt8.toNat_ofNat', Nat.mod_eq_of_lt (by omega)]
  rw [length, hnum, warnFrameSize]
  omega

theorem photoRequests_sum_le {r : Report} {bound : Nat}
    (h : r.mm.photoEnable = true → r.mm.photoNum.toNat ≤ bound) :
    r.photoRequests.sum ≤ bound := by
  unfold photoRequests
  split_ifs with henable
  · simpa using h henable
  · exact Nat.zero_le _

theorem videoRequests_sum_le (r : Report) : r.videoRequests.sum ≤ 1 := by
  unfold videoRequests
  split_ifs <;> decide

theorem alertMedia_within {r : Report} (h : r.Counted)
    (hnone : mmIdRequests r.effects = [])
    (hphotos : r.mm.photoEnable = true →
      r.mm.photoNum.toNat < warnSnapNumMax) (target : Target) :
    (r.alertMedia target).WithinBuffers := by
  have hphoto : r.photoRequests.sum ≤ 9 :=
    photoRequests_sum_le fun henable => Nat.le_of_lt_succ (hphotos henable)
  have hvideo := videoRequests_sum_le r
  have hrequests := alertMedia_requests target r
  rw [hnone, List.nil_append] at hrequests
  apply withinBuffers_of_sum (alertMedia_counted h target)
  · rw [hrequests]
    intro num hnum
    simp only [List.mem_append, warnSnapNumMax] at hnum ⊢
    rcases hnum with (hnum | hnum) | hnum
    · have hle := List.le_sum_of_mem hnum
      omega
    · have hle := List.le_sum_of_mem hnum
      omega
    · have hle := List.le_sum_of_mem hnum
      omega
  · rw [hrequests, List.sum_append, List.sum_append]
    omega

theorem snapMedia_within_iff {r : Report} (h : r.Counted)
    (hnone : mmIdRequests r.effects = [])
    (henable : r.mm.photoEnable = true) (target : Target) :
    (r.snapMedia target).WithinBuffers ↔
      r.mm.photoNum.toNat ≤ warnSnapNumMax := by
  have hrequests := snapMedia_requests target r
  rw [hnone, List.nil_append, photoRequests, if_pos henable] at hrequests
  constructor
  · rintro ⟨hnums, -⟩
    apply hnums
    rw [hrequests]
    exact List.mem_singleton_self _
  · intro hphotos
    apply withinBuffers_of_sum (snapMedia_counted h target)
    · rw [hrequests]
      intro num hnum
      rw [List.mem_singleton.mp hnum]
      exact hphotos
    · simp only [warnSnapNumMax] at hphotos
      rw [hrequests, List.sum_singleton]
      omega

end Report

theorem fillReport_counted (w : World) (mm : InfoForStore)
    (type statusFlag : UInt8) (msgbuf : Mem UInt8) :
    (fillReport w mm type statusFlag msgbuf).Counted := by
  simp [Report.Counted, Report.mmNum, fillReport]

/-! ## The DMS builder -/

def isDmsEvent (type : UInt8) : Prop :=
  type = dmsDriverChange ∨ type = dmsSanpshotEvent

theorem dmsMediaFields_event {type : UInt8} (h : isDmsEvent type) :
    dmsMediaFields type = none := by
  rcases h with rfl | rfl <;> rfl

theorem alertInfo_photoNum {n : Nat} {para : Packed n} {type : UInt8}
    {fields : MediaFields n}
    (h : (alertInfo para type fields).photoEnable = true) :
    (alertInfo para type fields).photoNum.toNat < warnSnapNumMax := by
  have := of_decide_eq_true h
  exact this.2

theorem getAdasInfoForStore_photoNum {type : UInt8} {para : AdasPara}
    (halert : (adasMediaFields type).isSome = true)
    (h : (getAdasInfoForStore type para).photoEnable = true) :
    (getAdasInfoForStore type para).photoNum.toNat < warnSnapNumMax := by
  obtain ⟨fields, hfields⟩ := Option.isSome_iff_exists.mp halert
  rw [getAdasInfoForStore, hfields] at h ⊢
  exact alertInfo_photoNum h

theorem getDmsInfoForStore_photoNum {type : UInt8} {para : DmsPara}
    (halert : (dmsMediaFields type).isSome = true)
    (h : (getDmsInfoForStore type para).photoEnable = true) :
    (getDmsInfoForStore type para).photoNum.toNat < warnSnapNumMax := by
  obtain ⟨fields, hfields⟩ := Option.isSome_iff_exists.mp halert
  rw [getDmsInfoForStore, hfields] at h ⊢
  exact alertInfo_photoNum h

theorem buildDmsWarnFrame_alert (target : Target) (w : World)
    {type : UInt8} (statusFlag : UInt8) (msgbuf : Mem UInt8)
    (hevent : ¬ isDmsEvent type) :
    (buildDmsWarnFrame target w type statusFlag msgbuf).WithinBuffers := by
  have hfill := fillReport_counted w (getDmsInfoForStore type w.para.dms) type
    statusFlag msgbuf
  have hempty := Report.withinBuffers_of_sum hfill (by simp [fillReport])
    (by simp [fillReport])
  unfold buildDmsWarnFrame
  simp only
  split_ifs with hbegin hfields hsnap
  · exact hempty
  · apply Report.alertMedia_within hfill (by simp [fillReport])
    exact getDmsInfoForStore_photoNum hfields
  · exact absurd hsnap hevent
  · exact hempty

theorem buildDmsWarnFrame_within_iff (target : Target) (w : World)
    (type statusFlag : UInt8) (msgbuf : Mem UInt8) :
    (buildDmsWarnFrame target w type statusFlag msgbuf).WithinBuffers ↔
      ¬ isDmsEvent type ∨ statusFlag = sbWarnStatusBegin ∨
        (w.para.dms DmsPara.photoNum).toNat ≤ warnSnapNumMax := by
  by_cases hevent : isDmsEvent type
  · have hfill := fillReport_counted w (getDmsInfoForStore type w.para.dms)
      type statusFlag msgbuf
    have hfields := dmsMediaFields_event hevent
    have hinfo : getDmsInfoForStore type w.para.dms =
        snapInfo w.para.dms type DmsPara.photoNum
          DmsPara.photoTimePeriod := by
      rw [getDmsInfoForStore, hfields]
      exact if_pos hevent
    have hsnap := Report.snapMedia_within_iff hfill (by simp [fillReport])
      (by rw [fillReport, hinfo]; rfl) target
    have hphotos : (fillReport w (getDmsInfoForStore type w.para.dms) type
        statusFlag msgbuf).mm.photoNum = w.para.dms DmsPara.photoNum := by
      rw [fillReport, hinfo]
      rfl
    rw [hphotos] at hsnap
    rw [or_iff_right (not_not.mpr hevent)]
    unfold buildDmsWarnFrame
    simp only [hfields, Option.isSome_none, Bool.false_eq_true, if_false]
    rw [if_pos (show type = dmsDriverChange ∨ type = dmsSanpshotEvent from
      hevent)]
    split_ifs with hbegin
    · simp only [hbegin, true_or, iff_true]
      exact Report.withinBuffers_of_sum hfill (by simp [fillReport])
        (by simp [fillReport])
    · rw [hsnap, or_iff_right hbegin]
  · exact iff_of_true (buildDmsWarnFrame_alert target w statusFlag msgbuf
      hevent) (.inl hevent)

/-! ## Runs -/

def PhotoNumFits (w : World) : Prop :=
  (w.para.dms DmsPara.photoNum).toNat ≤ warnSnapNumMax

def KeepsPhotoNum (b : UInt8) : Prop :=
  b = 0xFF ∨ b.toNat ≤ warnSnapNumMax

def FileKeepsPhotoNum (file : Option (List UInt8)) : Prop :=
  ∀ content, file = some content → 43 ≤ content.length →
    KeepsPhotoNum (content.getD 7 0)

def setsDmsPara (r : Received) : Prop :=
  headerCmd r.msg = sampleCmdSetParam ∧
    headerDeviceId r.msg = sampleDeviceIdDms ∧ r.len = headerSize + 1 + 43

def FrameKeepsPhotoNum (r : Received) : Prop :=
  setsDmsPara r → KeepsPhotoNum (r.msg (payloadOffset + 7))

theorem DmsPara.photoNum_not_word :
    ∀ w ∈ DmsPara.words, DmsPara.photoNum ≠ w.1 ∧ DmsPara.photoNum ≠ w.2 := by
  decide +kernel

theorem writeDevParaDms_photoNum (para store : DmsPara) :
    writeDevParaDms para store DmsPara.photoNum =
      if para DmsPara.photoNum ≠ 0xFF then para DmsPara.photoNum
      else store DmsPara.photoNum :=
  Packed.merge_byte DmsPara.photoNum_not_word para store

theorem writeDevParaDms_fits_iff {para store : DmsPara}
    (h : (store DmsPara.photoNum).toNat ≤ warnSnapNumMax) :
    (writeDevParaDms para store DmsPara.photoNum).toNat ≤ warnSnapNumMax ↔
      KeepsPhotoNum (para DmsPara.photoNum) := by
  rw [writeDevParaDms_photoNum, KeepsPhotoNum]
  split_ifs with hbyte
  · rw [or_iff_right hbyte]
  · exact iff_of_true h (.inl (not_not.mp hbyte))

theorem receivedPara_photoNum (msg : Mem UInt8) :
    receivedPara DmsPara.words msg DmsPara.photoNum =
      msg (payloadOffset + 7) := by
  rw [receivedPara, Packed.foldl_swapWord_of_ne DmsPara.photoNum_not_word]
  rfl

theorem startedWorld_fits_iff (interface : Interface)
    (access : ParaFileAccess) (files : ParaFiles) :
    PhotoNumFits (startedWorld ⟨.dms, interface⟩ access files) ↔
      FileKeepsPhotoNum files.dms := by
  have hzero : (World.zero.para.dms DmsPara.photoNum).toNat ≤
      warnSnapNumMax := by decide
  have hdefault : (setDmsParaSettingDefault World.zero.para.dms
      DmsPara.photoNum).toNat ≤ warnSnapNumMax := by
    rw [setDmsParaSettingDefault_eq]
    decide
  unfold PhotoNumFits startedWorld globalVarInit readLocalDmsParaFile
    readLocalParaFile
  simp only
  cases hfile : files.dms with
  | none =>
      have hkeeps : FileKeepsPhotoNum none := by
        intro content h
        cases h
      simp only
      split_ifs
      · exact iff_of_true hzero hkeeps
      · exact iff_of_true hdefault hkeeps
  | some content =>
      simp only [List.length_take]
      split_ifs with hshort
      · refine iff_of_true hzero ?_
        intro content' h hfull
        cases h
        omega
      · rw [writeDevParaDms_fits_iff hzero]
        have hfull : 43 ≤ content.length := by omega
        have hbyte : Packed.ofList 43 (content.take 43) DmsPara.photoNum =
            content.getD 7 0 := by
          simp [Packed.ofList, DmsPara.photoNum]
        rw [hbyte]
        constructor
        · intro h content' heq _
          cases heq
          exact h
        · intro h
          exact h content rfl hfull

theorem doFactoryReset_fits {w : World} (h : PhotoNumFits w) (env : Env)
    (devId : UInt8) : PhotoNumFits (doFactoryReset env devId w).1 := by
  have hdefault : (setDmsParaSettingDefault w.para.dms
      DmsPara.photoNum).toNat ≤ warnSnapNumMax := by
    rw [setDmsParaSettingDefault_eq]
    decide
  unfold PhotoNumFits at *
  unfold doFactoryReset
  split_ifs
  · exact h
  · exact hdefault
  · exact h

theorem handleCmd_fits_iff (interface : Interface) (w : World) (r : Received)
    (hfor : isForDevice ⟨.dms, interface⟩ r.msg) (h : PhotoNumFits w) :
    PhotoNumFits (handleCmd ⟨.dms, interface⟩ r.env w r.msg r.len).world ↔
      FrameKeepsPhotoNum r := by
  have hother : headerDeviceId r.msg ≠ sampleDeviceIdAdas := by
    rcases hfor with hown | hbroadcast
    · rw [hown]
      change sampleDeviceIdDms ≠ sampleDeviceIdAdas
      decide
    · rw [hbroadcast]
      decide
  by_cases hset : headerCmd r.msg = sampleCmdSetParam
  · rw [handleCmd_setParam _ _ _ _ hset]
    have hpara : (Handled.andThen ⟨w, r.msg, []⟩ (recvParaSetting
        ⟨.dms, interface⟩ r.env r.msg r.len)).world.para =
        (storeReceivedPara r.env r.msg r.len w).1.para := by
      rw [Handled.andThen, recvParaSetting, sendMessage_apply]
      rfl
    unfold PhotoNumFits
    rw [hpara, storeReceivedPara, if_neg (fun hadas => hother hadas.1)]
    split_ifs with hdms
    · rw [writeDevParaDms_fits_iff h, receivedPara_photoNum]
      exact ⟨fun hkeeps _ => hkeeps, fun hframe => hframe ⟨hset, hdms⟩⟩
    · exact iff_of_true h fun hsets => absurd hsets.2 hdms
  · refine iff_of_true ?_ fun hsets => absurd hsets.1 hset
    by_cases hreset : headerCmd r.msg = sampleCmdFactoryReset
    · rw [handleCmd_factoryReset _ _ _ _ hreset]
      apply doFactoryReset_fits
      unfold PhotoNumFits
      rw [(messageQueueSend_spec _ w r.msg sampleCmdFactoryReset []).1]
      exact h
    · have hcore := handleCmd_coreStep ⟨.dms, interface⟩ r.env w r.msg r.len
      obtain ⟨hkeep, -⟩ := hcore.keepsStored
        (fun hc => hreset (SampleCmd.code_of_ofCode hc))
        (fun hc => hset (SampleCmd.code_of_ofCode hc))
      rw [Handled.result_fst] at hkeep
      unfold PhotoNumFits
      rw [hkeep]
      exact h

theorem device_fits_iff (interface : Interface) (w : World) (r : Received)
    (h : PhotoNumFits w) :
    PhotoNumFits ((device ⟨.dms, interface⟩).step w r).1 ↔
      FrameKeepsPhotoNum r := by
  simp only [device, Handled.result_fst, sampleOnCmd]
  split_ifs with hfor
  · exact handleCmd_fits_iff interface _ r hfor h
  · refine iff_of_true h fun hsets => ?_
    exact absurd (.inl hsets.2.1) hfor

/-- The DMS reports that can be built along a run all stay inside their
buffers exactly when neither the parameter file nor a received parameter set
brings in a `photo_num` above ten. -/
theorem dmsReports_within_iff (interface : Interface)
    (access : ParaFileAccess) (files : ParaFiles) (frames : List Received) :
    let target : Target := ⟨.dms, interface⟩
    (∀ before after, frames = before ++ after → ∀ w : World,
      w.para = ((device target).final (startedWorld target access files)
        before).para →
      ∀ type statusFlag msgbuf, (buildDmsWarnFrame target w type statusFlag
        msgbuf).WithinBuffers) ↔
      FileKeepsPhotoNum files.dms ∧ ∀ r ∈ frames, FrameKeepsPhotoNum r := by
  intro target
  rw [← startedWorld_fits_iff interface access files,
    ← (device target).invariant_iff (device_fits_iff interface)]
  constructor
  · intro h before after heq
    have hsnap := (buildDmsWarnFrame_within_iff target _ dmsSanpshotEvent
      sbWarnStatusNone (fun _ => 0)).mp (h before after heq _ rfl _ _ _)
    rcases hsnap with hevent | hbegin | hfits
    · exact absurd (.inr rfl) hevent
    · exact absurd hbegin (by decide)
    · exact hfits
  · intro h before after heq w hw type statusFlag msgbuf
    rw [buildDmsWarnFrame_within_iff, hw]
    exact .inr (.inr (h before after heq))

def setPhotoNum (photoNum : UInt8) : Frame where
  serialNum := 1
  vendorId := vendorId
  deviceId := sampleDeviceIdDms
  cmd := sampleCmdSetParam
  payload := List.replicate 7 0xFF ++ [photoNum] ++ List.replicate 35 0xFF

/-- After one `SET_PARAM` a snapshot asks for 200 photos. -/
theorem dmsReports_overflow :
    ¬ (buildDmsWarnFrame dmsTcp
      ((device dmsTcp).final (startedWorld dmsTcp ⟨true, some 43⟩ ⟨none, none⟩)
        [.ofFrame Env.plain (setPhotoNum 200)])
      dmsSanpshotEvent sbWarnStatusNone (fun _ => 0)).WithinBuffers := by
  rw [buildDmsWarnFrame_within_iff]
  rintro (hevent | hbegin | hfits)
  · exact hevent (.inr rfl)
  · exact absurd hbegin (by decide)
  · exact absurd hfits (by decide +kernel)

end SanbaoProt
