import SanbaoProt.Device.ParaSetting
import SanbaoProt.Device.ParaFile

/-!
# Parameters that cannot be loaded or saved

The error paths of the parameter files.  Start up takes no notice of what
`read_local_adas_para_file` returns: a file that is short, or that is missing
and cannot be created, leaves the store zeroed.  A set is written over the
store before the store is saved, so a failed save is acknowledged with 1 when
the set is already in force.
-/

namespace SanbaoProt

open Library

/-! ## Start up -/

/-- The parameter file is complete, or it is missing and can be created. -/
def Loadable (size : Nat) (access : ParaFileAccess)
    (file : Option (List UInt8)) : Prop :=
  match file with
  | none => access.created = true
  | some content => size ≤ content.length

theorem readLocalParaFile_loaded {n : Nat} {access : ParaFileAccess}
    {file : Option (List UInt8)} (h : Loadable n access file)
    (setDefault : Packed n → Packed n)
    (writeDevPara : Packed n → Packed n → Packed n) (store : Packed n) :
    let loaded := readLocalParaFile setDefault writeDevPara access file store
    loaded.1 = 0 ∧
      (loaded.2.1 = setDefault store ∨
        ∃ para, loaded.2.1 = writeDevPara para store) := by
  cases file with
  | none =>
      have hcreated : ¬ access.created = false := by
        rw [show access.created = true from h]
        decide
      simp [readLocalParaFile, hcreated]
  | some content =>
      have hfull : (content.take n).length = n :=
        List.length_take_of_le h
      simp only [readLocalParaFile, if_neg (not_not.mpr hfull), true_and]
      exact .inr ⟨_, rfl⟩

theorem readLocalParaFile_failed {n : Nat} {access : ParaFileAccess}
    {file : Option (List UInt8)} (h : ¬ Loadable n access file)
    (setDefault : Packed n → Packed n)
    (writeDevPara : Packed n → Packed n → Packed n) (store : Packed n) :
    let loaded := readLocalParaFile setDefault writeDevPara access file store
    loaded.1 ≠ 0 ∧ loaded.2 = (store, file) := by
  cases file with
  | none =>
      have hcreated : access.created = false := Bool.eq_false_iff.mpr h
      simp [readLocalParaFile, hcreated]
  | some content =>
      have hshort : content.length < n := Nat.lt_of_not_le h
      simp [readLocalParaFile, hshort]

theorem AdasPara.zero_fails :
    ¬ ∀ c ∈ AdasPara.checks, c.holds (fun _ => 0) = true := by
  decide

/-- The device starts with ADAS parameters in range exactly when its file
could be loaded. -/
theorem startedPara_inRange_iff (i : Interface) (access : ParaFileAccess)
    (files : ParaFiles) :
    (∀ c ∈ AdasPara.checks,
        c.holds (startedWorld ⟨.adas, i⟩ access files).para.adas = true) ↔
      Loadable 50 access files.adas := by
  have hstore : (startedWorld ⟨.adas, i⟩ access files).para.adas =
      (readLocalAdasParaFile access files.adas fun _ => 0).2.1 := rfl
  rw [hstore]
  constructor
  · intro hrange
    by_contra hfails
    obtain ⟨-, hkept⟩ := readLocalParaFile_failed hfails
      setAdasParaSettingDefault writeDevParaAdas fun _ => 0
    have hzero : (readLocalAdasParaFile access files.adas fun _ => 0).2.1 =
        fun _ => 0 := congrArg Prod.fst hkept
    rw [hzero] at hrange
    exact AdasPara.zero_fails hrange
  · intro hloads
    obtain ⟨-, hdefault | ⟨para, hpara⟩⟩ := readLocalParaFile_loaded hloads
      setAdasParaSettingDefault writeDevParaAdas fun _ => 0
    · rw [readLocalAdasParaFile, hdefault, setAdasParaSettingDefault]
      exact (writeDevParaAdas_inRange _ _).1
    · rw [readLocalAdasParaFile, hpara]
      exact (writeDevParaAdas_inRange _ _).1

/-- The first byte of a set, as a save that failed leaves it. -/
theorem startedPara_truncated :
    ¬ ∀ c ∈ AdasPara.checks,
      c.holds (startedWorld adasTcp ⟨true, some 50⟩
        ⟨some [30], none⟩).para.adas = true := by
  decide +kernel

/-! ## Rejected sets -/

theorem writeFile_ok_iff {outcome : Option Nat} {file : Option (List UInt8)}
    {data : List UInt8} :
    (writeFile outcome file data).1 = 0 ↔
      ∃ nb, outcome = some nb ∧ data.length ≤ nb := by
  cases outcome with
  | none => simp [writeFile]
  | some nb =>
      simp only [writeFile, Option.some.injEq, exists_eq_left']
      split_ifs with hshort
      · simpa using hshort
      · simpa using hshort

namespace Build

def rangeChecks : (b : Build) → List (RangeCheck b.paraSize)
  | .adas => AdasPara.checks
  | .dms => []

/-- A set that asks, field by field, for what is stored: the field is all
ones, or it comes to the stored value once it is brought into range. -/
def AsksForStored (b : Build) (para store : Packed b.paraSize) : Prop :=
  ∀ field ∈ Packed.fields b.paraWords,
    RangeCheck.settled b.rangeChecks field
        (if field.value para = field.ones then field.value store
        else field.value para) = field.value store

theorem value_paraCheck (b : Build) (para : Packed b.paraSize)
    {field : Packed.Field b.paraSize}
    (hfield : field ∈ Packed.fields b.paraWords) :
    field.value (b.paraCheck para) =
      RangeCheck.settled b.rangeChecks field (field.value para) := by
  cases b with
  | adas =>
      refine RangeCheck.value_foldl_settled AdasPara.checks_fallBack
        AdasPara.checks_apart ?_ para
      rcases AdasPara.fields_checked field hfield with
        ⟨c, hc, hchecked, -⟩ | huntouched
      · exact .inl ⟨c, hc, hchecked⟩
      · exact .inr huntouched
  | dms => rfl

theorem writeDevPara_eq_self_iff (b : Build) (para store : Packed b.paraSize) :
    b.writeDevPara para store = store ↔ b.AsksForStored para store := by
  have hvalue : ∀ field ∈ Packed.fields b.paraWords,
      field.value (b.writeDevPara para store) =
        RangeCheck.settled b.rangeChecks field
          (if field.value para = field.ones then field.value store
          else field.value para) := by
    intro field hfield
    rw [writeDevPara, b.value_paraCheck _ hfield,
      Packed.value_merge b.paraWords_apart para store hfield]
  constructor
  · intro hsame field hfield
    rw [← hvalue field hfield, hsame]
  · intro hasks
    refine Packed.ext_fields fun field
      (hfield : field ∈ Packed.fields b.paraWords) => ?_
    rw [hvalue field hfield]
    exact hasks field hfield

end Build

section

variable {target : Target} {r : Received}

theorem storeReceivedPara_saved_iff (hfor : isForDevice target r.msg)
    (hset : headerCmd r.msg = sampleCmdSetParam) (w : World) :
    (storeReceivedPara r.env r.msg r.len w).2 = true ↔
      SetsPara target r ∧
        ∃ nb, r.env.paraWrite = some nb ∧ target.build.paraSize ≤ nb := by
  obtain ⟨b, i⟩ := target
  have hother : headerDeviceId r.msg ≠ b.other.deviceId := by
    have hdevices : b.deviceId ≠ b.other.deviceId ∧
        sampleDeviceIdBrdcst ≠ b.other.deviceId := by
      cases b <;> decide
    rcases hfor with hown | hbroadcast
    · exact hown.symm ▸ hdevices.1
    · exact hbroadcast.symm ▸ hdevices.2
  have hsets : SetsPara ⟨b, i⟩ r ↔ headerDeviceId r.msg = b.deviceId ∧
      r.len = headerSize + 1 + b.paraSize :=
    ⟨fun h => h.2, fun h => ⟨hset, h⟩⟩
  rw [hsets]
  unfold storeReceivedPara
  cases b with
  | adas =>
      split_ifs with hadas hdms
      · rw [decide_eq_true_eq, writeFile_ok_iff, Packed.length_toList]
        exact (and_iff_right hadas).symm
      · exact absurd hdms.1 hother
      · exact iff_of_false (by decide) fun h => hadas h.1
  | dms =>
      split_ifs with hadas hdms
      · exact absurd hadas.1 hother
      · rw [decide_eq_true_eq, writeFile_ok_iff, Packed.length_toList]
        exact (and_iff_right hdms).symm
      · exact iff_of_false (by decide) fun h => hdms h.1

theorem setParam_effects (hfor : isForDevice target r.msg)
    (hset : headerCmd r.msg = sampleCmdSetParam) (w : World) :
    ∃ noted node, ((device target).step w r).2 =
      [.send sampleCmdSetParam
        [if (storeReceivedPara r.env r.msg r.len noted).2 = true then 0
          else 1] node] := by
  let noted : World :=
    { w with send := recordRecvNum (headerSerialNum r.msg) w.send }
  have hstep : ((device target).step w r).2 =
      (recvParaSetting target r.env r.msg r.len noted).2 := by
    simp only [device, Handled.result_snd, sampleOnCmd, if_pos hfor]
    rw [handleCmd_setParam _ _ _ _ hset]
    rfl
  rw [hstep, recvParaSetting, sendMessage_apply]
  exact ⟨noted, _, rfl⟩

theorem setParam_para (hset : headerCmd r.msg = sampleCmdSetParam)
    (w : World) :
    ((device target).step w r).1.para = w.para ↔
      (SetsPara target r → target.build.AsksForStored
        (receivedPara target.build.paraWords r.msg)
        (w.para.own target.build)) := by
  obtain ⟨hown, hother⟩ := device_ownPara target w r
  have hkept : ((device target).step w r).1.para.own target.build.other =
      w.para.own target.build.other := congrArg OwnPara.store hother
  have hstore : ((device target).step w r).1.para.own target.build = _ :=
    congrArg OwnPara.store hown
  have hsame : ((device target).step w r).1.para = w.para ↔
      ((device target).step w r).1.para.own target.build =
        w.para.own target.build :=
    ⟨fun h => congrArg (ParaStore.own target.build) h,
      fun h => ParaStore.ext_own target.build h hkept⟩
  rw [hsame, hstore]
  by_cases hsets : SetsPara target r
  · rw [writtenPara, if_pos hsets]
    exact (target.build.writeDevPara_eq_self_iff _ _).trans
      ⟨fun h _ => h, fun h => h hsets⟩
  · have hreset : ¬ ResetsPara target r := fun h =>
      absurd (hset.symm.trans h.2.1) (by decide)
    rw [writtenPara, if_neg hsets, if_neg hreset]
    exact iff_of_true rfl fun h => absurd h hsets

end

/-- A set that is answered with 1 left the parameters alone, unless it was
complete, could not be saved, and asked for something new. -/
theorem rejectedPara_keeps_iff {target : Target} {r : Received}
    (hfor : isForDevice target r.msg)
    (hset : headerCmd r.msg = sampleCmdSetParam) (w : World) :
    ((∃ node, Effect.send sampleCmdSetParam [1] node ∈
          ((device target).step w r).2) →
        ((device target).step w r).1.para = w.para) ↔
      (SetsPara target r →
        (∃ nb, r.env.paraWrite = some nb ∧ target.build.paraSize ≤ nb) ∨
          target.build.AsksForStored
            (receivedPara target.build.paraWords r.msg)
            (w.para.own target.build)) := by
  obtain ⟨noted, node, heffects⟩ := setParam_effects hfor hset w
  have hrejected : (∃ node, Effect.send sampleCmdSetParam [1] node ∈
      ((device target).step w r).2) ↔
      ¬ (storeReceivedPara r.env r.msg r.len noted).2 = true := by
    rw [heffects]
    split_ifs with hsaved
    · simp [hsaved]
    · simp [hsaved]
  rw [hrejected, setParam_para hset w,
    storeReceivedPara_saved_iff hfor hset noted]
  constructor
  · intro h hsets
    by_cases hwritten : ∃ nb, r.env.paraWrite = some nb ∧
        target.build.paraSize ≤ nb
    · exact .inl hwritten
    · exact .inr (h (fun hsaved => hwritten hsaved.2) hsets)
  · intro h hunsaved hsets
    rcases h hsets with hwritten | hasks
    · exact absurd ⟨hsets, hwritten⟩ hunsaved
    · exact hasks

/-- The parameter file cannot be opened. -/
def setSpeedUnsaved : Received :=
  { setSpeed with env := { Env.plain with paraWrite := none } }

theorem rejectedPara_keeps_iff_setSpeed :
    isForDevice dmsTcp setSpeed.msg ∧
      ((∃ node, Effect.send sampleCmdSetParam [1] node ∈
          ((device dmsTcp).step (freshWorld dmsTcp) setSpeed).2) →
        ((device dmsTcp).step (freshWorld dmsTcp) setSpeed).1.para =
          (freshWorld dmsTcp).para) := by
  have hfor : isForDevice dmsTcp setSpeed.msg := .inl (by decide +kernel)
  exact ⟨hfor, (rejectedPara_keeps_iff hfor (by decide +kernel)
    (freshWorld dmsTcp)).mpr fun _ => .inl ⟨50, rfl, by decide⟩⟩

theorem rejectedPara_changes :
    isForDevice dmsTcp setSpeedUnsaved.msg ∧
      headerCmd setSpeedUnsaved.msg = sampleCmdSetParam ∧
      ¬ ((∃ node, Effect.send sampleCmdSetParam [1] node ∈
          ((device dmsTcp).step (freshWorld dmsTcp) setSpeedUnsaved).2) →
        ((device dmsTcp).step (freshWorld dmsTcp) setSpeedUnsaved).1.para =
          (freshWorld dmsTcp).para) := by
  refine ⟨by decide +kernel, by decide +kernel, fun hkeeps => ?_⟩
  have hpara := hkeeps ⟨_, List.mem_singleton.mpr rfl⟩
  have hspeed := congrFun (congrArg ParaStore.dms hpara)
    DmsPara.warningSpeedVal
  exact absurd hspeed (by decide +kernel)

end SanbaoProt
