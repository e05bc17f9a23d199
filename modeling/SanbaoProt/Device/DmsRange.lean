import SanbaoProt.Device.ParaFile

/-!
# The ranges of the DMS parameters

The DMS store is written without a check, although `dmsParaCheck` exists.  So
the store is in range along a run exactly when what is brought in is: every
checked field of the parameter file and of every received set lies in its range
or is all ones and keeps a value that does.
-/

namespace SanbaoProt

open Library

namespace DmsPara

def InRange (para : DmsPara) : Prop :=
  ∀ c ∈ DmsPara.checks, c.holds para = true

instance (para : DmsPara) : Decidable para.InRange :=
  inferInstanceAs (Decidable (∀ c ∈ DmsPara.checks, c.holds para = true))

/-- Every checked field is in range or all ones. -/
def SentInRange (para : DmsPara) : Prop :=
  ∀ c ∈ DmsPara.checks,
    c.holds para = true ∨ c.field.value para = c.field.ones

/-- Every checked field is in range, or all ones with zero in its range. -/
def SavedInRange (para : DmsPara) : Prop :=
  ∀ c ∈ DmsPara.checks,
    c.holds para = true ∨
      c.field.value para = c.field.ones ∧ c.holds (fun _ => 0) = true

theorem checks_fallBack : ∀ c ∈ DmsPara.checks, c.FallsBack := by
  decide

theorem checks_apart :
    (DmsPara.checks.flatMap fun c => c.field.cells).Nodup := by
  decide +kernel

theorem checks_fields :
    ∀ c ∈ DmsPara.checks, c.field ∈ Packed.fields DmsPara.words ∧
      c.bound < c.field.ones := by
  decide +kernel

end DmsPara

/-- In range is what `dms_para_check` leaves alone. -/
theorem dmsParaCheck_eq_iff (para : DmsPara) :
    dmsParaCheck para = para ↔ para.InRange := by
  constructor
  · intro h
    have hchecked := RangeCheck.foldl_apply_holds DmsPara.checks_fallBack
      DmsPara.checks_apart para
    rw [show DmsPara.checks.foldl RangeCheck.apply para = para from h]
      at hchecked
    exact hchecked
  · exact RangeCheck.foldl_apply_of_holds

theorem writeDevParaDms_inRange_iff (para store : DmsPara) :
    (writeDevParaDms para store).InRange ↔
      ∀ c ∈ DmsPara.checks, c.holds para = true ∨
        c.field.value para = c.field.ones ∧ c.holds store = true := by
  refine forall₂_congr fun c hc => ?_
  obtain ⟨hfield, hbound⟩ := DmsPara.checks_fields c hc
  rw [writeDevParaDms,
    RangeCheck.holds_merge DmsPara.words_apart hfield para store]
  split_ifs with hones
  · have hout : ¬ c.holds para = true := fun hin => by
      have := RangeCheck.value_le_bound hin
      omega
    rw [or_iff_right hout, and_iff_right hones]
  · rw [or_iff_left fun h => hones h.1]

theorem writeDevParaDms_keepsRange_iff {store : DmsPara}
    (h : store.InRange) (para : DmsPara) :
    (writeDevParaDms para store).InRange ↔ para.SentInRange := by
  rw [writeDevParaDms_inRange_iff]
  exact forall₂_congr fun c hc => by rw [and_iff_left (h c hc)]

/-! ## Runs -/

def FrameInRange (interface : Interface) (r : Received) : Prop :=
  SetsPara ⟨.dms, interface⟩ r →
    DmsPara.SentInRange (receivedPara DmsPara.words r.msg)

theorem device_inRange_iff (interface : Interface) (w : World) (r : Received)
    (h : w.para.dms.InRange) :
    ((device ⟨.dms, interface⟩).step w r).1.para.dms.InRange ↔
      FrameInRange interface r := by
  obtain ⟨hown, -⟩ := device_ownPara ⟨.dms, interface⟩ w r
  have hstore : ((device ⟨.dms, interface⟩).step w r).1.para.dms = _ :=
    congrArg OwnPara.store hown
  rw [hstore]
  by_cases hset : SetsPara ⟨.dms, interface⟩ r
  · rw [writtenPara, if_pos hset]
    have hwrite := writeDevParaDms_keepsRange_iff h
      (receivedPara DmsPara.words r.msg)
    exact hwrite.trans ⟨fun hsent _ => hsent, fun hframe => hframe hset⟩
  · refine iff_of_true ?_ fun hsets => absurd hsets hset
    rw [writtenPara, if_neg hset]
    by_cases hreset : ResetsPara ⟨.dms, interface⟩ r
    · rw [if_pos hreset]
      have hdefault : DmsPara.InRange
          (setDmsParaSettingDefault w.para.dms) := by
        rw [setDmsParaSettingDefault_eq]
        exact DmsPara.defaults_holds
      exact hdefault
    · rw [if_neg hreset]
      exact h

theorem startedWorld_inRange_iff (interface : Interface)
    (access : ParaFileAccess) {files : ParaFiles} {content : List UInt8}
    (hfile : files.dms = some content) (hsize : 43 ≤ content.length) :
    (startedWorld ⟨.dms, interface⟩ access files).para.dms.InRange ↔
      DmsPara.SavedInRange (Packed.ofList 43 (content.take 43)) := by
  have hfull : ¬ (content.take 43).length ≠ 43 := by
    rw [List.length_take]
    omega
  have hstore : (startedWorld ⟨.dms, interface⟩ access files).para.dms =
      writeDevParaDms (Packed.ofList 43 (content.take 43)) fun _ => 0 := by
    simp only [startedWorld, globalVarInit, readLocalDmsParaFile, hfile,
      readLocalParaFile]
    rw [if_neg hfull]
    rfl
  rw [hstore, writeDevParaDms_inRange_iff]
  rfl

/-- The DMS parameters are in range after start up and after every frame of a
run exactly when the parameter file and the received sets are. -/
theorem dmsPara_inRange_iff (interface : Interface) (access : ParaFileAccess)
    (files : ParaFiles) (content : List UInt8)
    (hfile : files.dms = some content) (hsize : 43 ≤ content.length)
    (frames : List Received) :
    let target : Target := ⟨.dms, interface⟩
    (∀ before after, frames = before ++ after →
      ((device target).final (startedWorld target access files)
        before).para.dms.InRange) ↔
      DmsPara.SavedInRange (Packed.ofList 43 (content.take 43)) ∧
        ∀ r ∈ frames, FrameInRange interface r := by
  intro target
  rw [← startedWorld_inRange_iff interface access hfile hsize]
  exact (device target).invariant_iff
    (P := fun w => w.para.dms.InRange) (device_inRange_iff interface) _ frames

def setVolume (volume : UInt8) : Received :=
  .ofFrame Env.plain ⟨1, vendorId, sampleDeviceIdDms, sampleCmdSetParam,
    [0xFF, volume] ++ List.replicate 41 0xFF⟩

def defaultFiles : ParaFiles := ⟨none, some DmsPara.defaults.toList⟩

theorem dmsPara_inRange_setVolume :
    let w := startedWorld dmsTcp ⟨true, some 50⟩ defaultFiles
    ((device dmsTcp).final w [setVolume 5]).para.dms.InRange := by
  have hiff := dmsPara_inRange_iff .tcp ⟨true, some 50⟩ defaultFiles _ rfl
    (by decide) [setVolume 5]
  refine hiff.mpr ⟨?_, ?_⟩ [setVolume 5] [] rfl
  · intro c hc
    exact .inl (by revert c; decide +kernel)
  · intro r hr _
    rw [List.mem_singleton.mp hr]
    unfold DmsPara.SentInRange
    decide +kernel

theorem dmsPara_outOfRange :
    ¬ ∀ frames : List Received, ((device dmsTcp).final
      (startedWorld dmsTcp ⟨true, some 50⟩ defaultFiles)
      frames).para.dms.InRange := by
  intro h
  exact absurd (h [setVolume 200]) (by decide +kernel)

end SanbaoProt
