import SanbaoProt.Device.ParaStep

/-!
# Saved parameters and a restart

Loading a file merges it into the zeroed store, and a field of all ones in the
file would be lost.  No such field is ever stored: a merge never stores one and
the checks fall back to other values.  So a saved store comes back byte for
byte.
-/

namespace SanbaoProt

open Library

/-! ## Fields of all ones -/

theorem zero_noOnes (b : Build) : Packed.NoOnes b.paraWords fun _ => 0 := by
  intro field _
  cases field with
  | byte i => simp [Packed.Field.value, Packed.Field.ones]
  | word w => simp [Packed.Field.value, Packed.Field.ones, Packed.word]

/-- A field of the ADAS set is checked against a bound below all ones, or no
check sets a byte of it. -/
theorem AdasPara.fields_checked :
    ∀ field ∈ Packed.fields AdasPara.words,
      (∃ c ∈ AdasPara.checks, c.field = field ∧ c.bound < field.ones) ∨
        ∀ i ∈ field.cells, i ∉ AdasPara.checks.flatMap fun c =>
          c.field.cells := by
  decide +kernel

theorem adasParaCheck_noOnes {para : AdasPara}
    (h : Packed.NoOnes AdasPara.words para) :
    Packed.NoOnes AdasPara.words (adasParaCheck para) := by
  intro field hfield
  rcases AdasPara.fields_checked field hfield with
    ⟨c, hc, rfl, hbound⟩ | hapart
  · have hvalue := RangeCheck.value_le_bound (adasParaCheck_holds para c hc)
    omega
  · rw [adasParaCheck, RangeCheck.value_foldl_of_apart hapart]
    exact h field hfield

theorem Build.paraCheck_noOnes (b : Build) {para : Packed b.paraSize}
    (h : Packed.NoOnes b.paraWords para) :
    Packed.NoOnes b.paraWords (b.paraCheck para) := by
  cases b with
  | adas => exact adasParaCheck_noOnes h
  | dms => exact h

theorem Build.paraCheck_idempotent (b : Build) (para : Packed b.paraSize) :
    b.paraCheck (b.paraCheck para) = b.paraCheck para := by
  cases b with
  | adas => exact adasParaCheck_idempotent para
  | dms => rfl

theorem Build.writeDevPara_noOnes (b : Build) (para : Packed b.paraSize)
    {store : Packed b.paraSize} (h : Packed.NoOnes b.paraWords store) :
    Packed.NoOnes b.paraWords (b.writeDevPara para store) :=
  b.paraCheck_noOnes (h.merge b.paraWords_apart para)

/-- Writing what was just stored over any other store brings it back. -/
theorem Build.writeDevPara_again (b : Build) (para : Packed b.paraSize)
    {store : Packed b.paraSize} (h : Packed.NoOnes b.paraWords store)
    (other : Packed b.paraSize) :
    b.writeDevPara (b.writeDevPara para store) other =
      b.writeDevPara para store := by
  have hstored := b.writeDevPara_noOnes para h
  rw [writeDevPara, hstored.merge_eq b.paraWords_apart, writeDevPara,
    b.paraCheck_idempotent]

/-! ## Start up and runs -/

/-- What start up makes of a parameter file. -/
def loadedPara (b : Build) (access : ParaFileAccess)
    (file : Option (List UInt8)) : OwnPara b :=
  let loaded := readLocalParaFile (b.writeDevPara b.paraDefaults)
    b.writeDevPara access file fun _ => 0
  ⟨loaded.2.1, loaded.2.2⟩

theorem startedWorld_ownPara (target : Target) (access : ParaFileAccess)
    (files : ParaFiles) :
    (startedWorld target access files).ownPara target.build =
        loadedPara target.build access (files.own target.build) ∧
      (startedWorld target access files).ownPara target.build.other =
        ⟨fun _ => 0, files.own target.build.other⟩ := by
  obtain ⟨b, i⟩ := target
  cases b with
  | adas =>
      have hwrite : Build.adas.writeDevPara = writeDevParaAdas := rfl
      have hdefault : writeDevParaAdas Build.adas.paraDefaults =
          setAdasParaSettingDefault := rfl
      simp only [World.ownPara, ParaStore.own, ParaFiles.own, Build.other,
        startedWorld, globalVarInit, loadedPara, readLocalAdasParaFile,
        hwrite, hdefault]
      exact ⟨rfl, rfl⟩
  | dms => exact ⟨rfl, rfl⟩

theorem loadedPara_noOnes (b : Build) (access : ParaFileAccess)
    (file : Option (List UInt8)) :
    Packed.NoOnes b.paraWords (loadedPara b access file).store := by
  have hzero := zero_noOnes b
  unfold loadedPara readLocalParaFile
  cases file with
  | none =>
      simp only
      split_ifs
      · exact hzero
      · exact b.writeDevPara_noOnes b.paraDefaults hzero
  | some content =>
      simp only
      split_ifs
      · exact hzero
      · exact b.writeDevPara_noOnes _ hzero

/-- A saved store is loaded as it was if writing it over zeros restores it. -/
theorem loadedPara_saved {b : Build} {store : Packed b.paraSize}
    (h : b.writeDevPara store (fun _ => 0) = store) (access : ParaFileAccess) :
    (loadedPara b access (some store.toList)).store = store := by
  have hall : store.toList.take b.paraSize = store.toList :=
    List.take_of_length_le (Packed.length_toList store).le
  simp only [loadedPara, readLocalParaFile, hall]
  rw [if_neg (not_not.mpr (Packed.length_toList store)),
    Packed.ofList_toList, h]

theorem writeFile_saved {outcome : Option Nat} {file : Option (List UInt8)}
    {data : List UInt8} (h : (writeFile outcome file data).1 = 0) :
    (writeFile outcome file data).2 = some data := by
  cases outcome with
  | none => cases h
  | some nb =>
      simp only [writeFile] at h ⊢
      split_ifs at h with htaken
      have hle : data.length ≤ nb := by
        simpa using htaken
      rw [List.take_of_length_le hle]

/-- The runs of the program, as far as the parameters are concerned. -/
inductive ParaRun (target : Target) : World → Prop where
  | start (access : ParaFileAccess) (files : ParaFiles) :
      ParaRun target (startedWorld target access files)
  | frame {w : World} (h : ParaRun target w) (r : Received) :
      ParaRun target ((device target).step w r).1
  | others {w w' : World} (h : ParaRun target w) (hpara : w'.para = w.para)
      (hfiles : w'.files = w.files) : ParaRun target w'

/-- The runs after the file was written, with the parameters that were held
when it was written. -/
inductive ParaSaved (target : Target) : ParaStore → World → Prop where
  | created (access : ParaFileAccess) (files : ParaFiles)
      (hmissing : files.own target.build = none)
      (hcreated : access.created = true)
      (hwritten : (writeFile access.write (some [])
        target.build.paraDefaults.toList).1 = 0) :
      ParaSaved target (startedWorld target access files).para
        (startedWorld target access files)
  | stored {w : World} (h : ParaRun target w) (r : Received)
      (para : Packed target.build.paraSize)
      (hpara : writtenPara target r = some para)
      (hwritten : (writeFile r.env.paraWrite (w.files.own target.build)
        (target.build.writeDevPara para
          (w.para.own target.build)).toList).1 = 0) :
      ParaSaved target ((device target).step w r).1.para
        ((device target).step w r).1
  | frame {held : ParaStore} {w : World} (h : ParaSaved target held w)
      (r : Received)
      (hkept : writtenPara target r = none ∨ r.env.paraWrite = none) :
      ParaSaved target held ((device target).step w r).1
  | others {held : ParaStore} {w w' : World} (h : ParaSaved target held w)
      (hfiles : w'.files = w.files) : ParaSaved target held w'

/-- No field of the own store is all ones, and the store of the other device
is as it was at the start. -/
structure ParaSound (target : Target) (para : ParaStore) : Prop where
  own : Packed.NoOnes target.build.paraWords (para.own target.build)
  other : para.own target.build.other = fun _ => 0

theorem device_paraSound {target : Target} {w : World}
    (h : ParaSound target w.para) (r : Received) :
    ParaSound target ((device target).step w r).1.para := by
  obtain ⟨hown, hother⟩ := device_ownPara target w r
  have hstore : ((device target).step w r).1.para.own target.build = _ :=
    congrArg OwnPara.store hown
  constructor
  · rw [hstore]
    cases writtenPara target r with
    | none => exact h.own
    | some para => exact target.build.writeDevPara_noOnes para h.own
  · exact (congrArg OwnPara.store hother).trans h.other

theorem ParaRun.sound {target : Target} {w : World}
    (h : ParaRun target w) : ParaSound target w.para := by
  induction h with
  | start access files =>
      obtain ⟨hown, hother⟩ := startedWorld_ownPara target access files
      have hstore :
          (startedWorld target access files).para.own target.build = _ :=
        congrArg OwnPara.store hown
      constructor
      · rw [hstore]
        exact loadedPara_noOnes target.build access _
      · exact congrArg OwnPara.store hother
  | frame h r ih => exact device_paraSound ih r
  | others h hpara hfiles ih =>
      rw [hpara]
      exact ih

/-- The file that start up makes of the parameters that were held. -/
structure Restorable (target : Target) (held : ParaStore) (w : World) :
    Prop where
  file : w.files.own target.build = some (held.own target.build).toList
  own : target.build.writeDevPara (held.own target.build) (fun _ => 0) =
    held.own target.build
  other : held.own target.build.other = fun _ => 0

theorem created_restorable {target : Target} (access : ParaFileAccess)
    {files : ParaFiles} (hmissing : files.own target.build = none)
    (hcreated : access.created = true)
    (hwritten : (writeFile access.write (some [])
      target.build.paraDefaults.toList).1 = 0) :
    Restorable target (startedWorld target access files).para
      (startedWorld target access files) := by
  obtain ⟨hown, hother⟩ := startedWorld_ownPara target access files
  have hloaded : loadedPara target.build access (files.own target.build) =
      ⟨target.build.paraDefaults, some target.build.paraDefaults.toList⟩ := by
    have hsaved := writeFile_saved hwritten
    rw [loadedPara, hmissing, readLocalParaFile, hcreated]
    simp only [Bool.true_eq_false, if_false,
      target.build.writeDevPara_defaults, hsaved]
  rw [hloaded] at hown
  have hstore : (startedWorld target access files).para.own target.build =
      target.build.paraDefaults := congrArg OwnPara.store hown
  refine ⟨?_, ?_, congrArg OwnPara.store hother⟩
  · rw [hstore]
    exact congrArg OwnPara.file hown
  · rw [hstore]
    exact target.build.writeDevPara_defaults _

theorem stored_restorable {target : Target} {w : World}
    (h : ParaSound target w.para) {r : Received}
    {para : Packed target.build.paraSize}
    (hpara : writtenPara target r = some para)
    (hwritten : (writeFile r.env.paraWrite (w.files.own target.build)
      (target.build.writeDevPara para
        (w.para.own target.build)).toList).1 = 0) :
    Restorable target ((device target).step w r).1.para
      ((device target).step w r).1 := by
  obtain ⟨hown, hother⟩ := device_ownPara target w r
  simp only [hpara] at hown
  have hstore : ((device target).step w r).1.para.own target.build =
      target.build.writeDevPara para (w.para.own target.build) :=
    congrArg OwnPara.store hown
  have hfile : ((device target).step w r).1.files.own target.build =
      (writeFile r.env.paraWrite (w.files.own target.build)
        (target.build.writeDevPara para
          (w.para.own target.build)).toList).2 :=
    congrArg OwnPara.file hown
  refine ⟨?_, ?_, (congrArg OwnPara.store hother).trans h.other⟩
  · rw [hfile, hstore, writeFile_saved hwritten]
  · rw [hstore]
    exact target.build.writeDevPara_again para h.own _

/-- A frame that writes no set, or cannot open the file, leaves the file. -/
theorem device_keepsFile {target : Target} {r : Received}
    (hkept : writtenPara target r = none ∨ r.env.paraWrite = none)
    (w : World) :
    ((device target).step w r).1.files.own target.build =
      w.files.own target.build := by
  obtain ⟨hown, -⟩ := device_ownPara target w r
  have hfile : ((device target).step w r).1.files.own target.build = _ :=
    congrArg OwnPara.file hown
  rw [hfile]
  cases hpara : writtenPara target r with
  | none => rfl
  | some para =>
      rcases hkept with hnone | hclosed
      · rw [hnone] at hpara
        cases hpara
      · rw [hclosed]
        rfl

theorem ParaSaved.restorable {target : Target} {held : ParaStore} {w : World}
    (h : ParaSaved target held w) : Restorable target held w := by
  induction h with
  | created access files hmissing hcreated hwritten =>
      exact created_restorable access hmissing hcreated hwritten
  | stored h r para hpara hwritten =>
      exact stored_restorable h.sound hpara hwritten
  | @frame held w h r hkept ih =>
      refine ⟨?_, ih.own, ih.other⟩
      rw [device_keepsFile hkept w]
      exact ih.file
  | others h hfiles ih =>
      refine ⟨?_, ih.own, ih.other⟩
      rw [hfiles]
      exact ih.file

theorem ParaStore.ext_own {para para' : ParaStore} (b : Build)
    (hown : para.own b = para'.own b)
    (hother : para.own b.other = para'.own b.other) : para = para' := by
  obtain ⟨adas, dms⟩ := para
  obtain ⟨adas', dms'⟩ := para'
  cases b with
  | adas => exact congrArg₂ ParaStore.mk hown hother
  | dms => exact congrArg₂ ParaStore.mk hother hown

/-- After a restart the program holds the parameters that it held when the
file was written. -/
theorem savedPara_restored {target : Target} {held : ParaStore} {w : World}
    (h : ParaSaved target held w) (access : ParaFileAccess) :
    (startedWorld target access w.files).para = held := by
  have hsaved := h.restorable
  obtain ⟨hown, hother⟩ := startedWorld_ownPara target access w.files
  apply ParaStore.ext_own target.build
  · have hstore :
        (startedWorld target access w.files).para.own target.build = _ :=
      congrArg OwnPara.store hown
    rw [hstore, hsaved.file]
    exact loadedPara_saved hsaved.own access
  · exact (congrArg OwnPara.store hother).trans hsaved.other.symm

def setSpeed : Received :=
  .ofFrame Env.plain ⟨1, vendorId, sampleDeviceIdDms, sampleCmdSetParam,
    40 :: List.replicate 42 0xFF⟩

theorem savedPara_restored_setSpeed :
    let w := ((device dmsTcp).step (freshWorld dmsTcp) setSpeed).1
    (startedWorld dmsTcp ⟨false, none⟩ w.files).para = w.para ∧
      w.para.dms DmsPara.warningSpeedVal = 40 := by
  have hsaved : ParaSaved dmsTcp _ _ :=
    .stored (.start ⟨true, some 50⟩ ⟨none, none⟩) setSpeed
      (receivedPara DmsPara.words setSpeed.msg) (if_pos (by decide +kernel))
      (by decide +kernel)
  exact ⟨savedPara_restored hsaved ⟨false, none⟩, by decide +kernel⟩

end SanbaoProt
