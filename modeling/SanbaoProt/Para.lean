import SanbaoProt.Library.RangeCheck
import Mathlib.Tactic.FinCases

/-!
# Device parameters

The parameter sets of `para.cpp`, packed as they are stored, sent and saved.
A received set is merged into the store by `writeDevPara…`; the ADAS store is
validated after every write, the DMS store is not, although `dmsParaCheck`
exists.  `merge_of_ne` makes the default set replace any store.
-/

namespace SanbaoProt

open Library

abbrev AdasPara := Packed 50

abbrev DmsPara := Packed 43

namespace AdasPara

def warningSpeedVal : Fin 50 := 0
def warningVolume : Fin 50 := 1
def autoPhotoMode : Fin 50 := 2
def autoPhotoTimePeriod : PackedWord 50 := (3, 4)
def autoPhotoDistancePeriod : PackedWord 50 := (5, 6)
def photoNum : Fin 50 := 7
def photoTimePeriod : Fin 50 := 8
def imageResolution : Fin 50 := 9
def videoResolution : Fin 50 := 10
def obstacleDistanceThreshold : Fin 50 := 20
def obstacleVideoTime : Fin 50 := 21
def obstaclePhotoNum : Fin 50 := 22
def obstaclePhotoTimePeriod : Fin 50 := 23
def flcTimeThreshold : Fin 50 := 24
def flcTimesThreshold : Fin 50 := 25
def flcVideoTime : Fin 50 := 26
def flcPhotoNum : Fin 50 := 27
def flcPhotoTimePeriod : Fin 50 := 28
def ldwVideoTime : Fin 50 := 29
def ldwPhotoNum : Fin 50 := 30
def ldwPhotoTimePeriod : Fin 50 := 31
def fcwTimeThreshold : Fin 50 := 32
def fcwVideoTime : Fin 50 := 33
def fcwPhotoNum : Fin 50 := 34
def fcwPhotoTimePeriod : Fin 50 := 35
def pcwTimeThreshold : Fin 50 := 36
def pcwVideoTime : Fin 50 := 37
def pcwPhotoNum : Fin 50 := 38
def pcwPhotoTimePeriod : Fin 50 := 39
def hwTimeThreshold : Fin 50 := 40
def hwVideoTime : Fin 50 := 41
def hwPhotoNum : Fin 50 := 42
def hwPhotoTimePeriod : Fin 50 := 43
def tsrPhotoNum : Fin 50 := 44
def tsrPhotoTimePeriod : Fin 50 := 45

/-- The fields that travel big-endian and are merged as a whole. -/
def words : List (PackedWord 50) :=
  [autoPhotoTimePeriod, autoPhotoDistancePeriod]

def checks : List (RangeCheck 50) :=
  [.byte warningSpeedVal 0 60 30,
    .byte warningVolume 0 8 6,
    .byte autoPhotoMode 0 3 0,
    .word autoPhotoTimePeriod 3600 0x08 0x07,
    .word autoPhotoDistancePeriod 60000 100 0,
    .byte photoNum 1 10 3,
    .byte photoTimePeriod 1 5 2,
    .byte imageResolution 1 6 1,
    .byte videoResolution 1 7 1,
    .byte obstacleDistanceThreshold 10 50 30,
    .byte obstacleVideoTime 0 60 5,
    .byte obstaclePhotoNum 0 10 3,
    .byte obstaclePhotoTimePeriod 1 10 2,
    .byte flcTimeThreshold 30 120 60,
    .byte flcTimesThreshold 3 10 5,
    .byte flcVideoTime 0 60 5,
    .byte flcPhotoNum 0 10 3,
    .byte flcPhotoTimePeriod 1 10 2,
    .byte ldwVideoTime 0 60 5,
    .byte ldwPhotoNum 0 10 3,
    .byte ldwPhotoTimePeriod 1 10 2,
    .byte fcwTimeThreshold 10 50 27,
    .byte fcwVideoTime 0 60 5,
    .byte fcwPhotoNum 0 10 3,
    .byte fcwPhotoTimePeriod 1 10 2,
    .byte pcwTimeThreshold 0 50 30,
    .byte pcwVideoTime 0 60 5,
    .byte pcwPhotoNum 0 10 3,
    .byte pcwPhotoTimePeriod 1 10 2,
    .byte hwTimeThreshold 0 50 30,
    .byte hwVideoTime 0 60 5,
    .byte hwPhotoNum 0 10 3,
    .byte hwPhotoTimePeriod 1 10 2,
    .byte tsrPhotoNum 0 10 3,
    .byte tsrPhotoTimePeriod 1 10 2]

def defaults : AdasPara := Packed.ofList 50
  ([30, 6, 0, 0x08, 0x07, 100, 0, 3, 2, 1, 1] ++ List.replicate 9 0 ++
    [30, 5, 3, 2] ++ [60, 5, 5, 3, 2] ++ [5, 3, 2] ++ [27, 5, 3, 2] ++
    [30, 5, 3, 2] ++ [30, 5, 3, 2] ++ [3, 2] ++ List.replicate 4 0)

end AdasPara

namespace DmsPara

def warningSpeedVal : Fin 43 := 0
def warningVolume : Fin 43 := 1
def autoPhotoMode : Fin 43 := 2
def autoPhotoTimePeriod : PackedWord 43 := (3, 4)
def autoPhotoDistancePeriod : PackedWord 43 := (5, 6)
def photoNum : Fin 43 := 7
def photoTimePeriod : Fin 43 := 8
def imageResolution : Fin 43 := 9
def videoResolution : Fin 43 := 10
def smokeTimeIntervalThreshold : PackedWord 43 := (21, 22)
def callTimeIntervalThreshold : PackedWord 43 := (23, 24)
def fatigueDrivVideoTime : Fin 43 := 25
def fatigueDrivPhotoNum : Fin 43 := 26
def fatigueDrivPhotoInterval : Fin 43 := 27
def callingDrivVideoTime : Fin 43 := 29
def callingDrivPhotoNum : Fin 43 := 30
def callingDrivPhotoInterval : Fin 43 := 31
def smokingDrivVideoTime : Fin 43 := 32
def smokingDrivPhotoNum : Fin 43 := 33
def smokingDrivPhotoInterval : Fin 43 := 34
def distractionDrivVideoTime : Fin 43 := 35
def distractionDrivPhotoNum : Fin 43 := 36
def distractionDrivPhotoInterval : Fin 43 := 37
def abnormalDrivVideoTime : Fin 43 := 38
def abnormalDrivPhotoNum : Fin 43 := 39
def abnormalDrivPhotoInterval : Fin 43 := 40

def words : List (PackedWord 43) :=
  [autoPhotoTimePeriod, autoPhotoDistancePeriod, smokeTimeIntervalThreshold,
    callTimeIntervalThreshold]

def checks : List (RangeCheck 43) :=
  [.byte warningSpeedVal 0 60 30,
    .byte warningVolume 0 8 6,
    .byte autoPhotoMode 0 3 0,
    .word autoPhotoTimePeriod 3600 0x08 0x07,
    .word autoPhotoDistancePeriod 60000 100 0,
    .byte photoNum 1 10 3,
    .byte photoTimePeriod 1 5 2,
    .byte imageResolution 1 6 1,
    .byte videoResolution 1 7 1,
    .word smokeTimeIntervalThreshold 3600 180 0,
    .word callTimeIntervalThreshold 3600 120 0,
    .byte fatigueDrivVideoTime 0 60 5,
    .byte fatigueDrivPhotoNum 0 10 3,
    .byte fatigueDrivPhotoInterval 1 5 2,
    .byte callingDrivVideoTime 0 60 5,
    .byte callingDrivPhotoNum 0 10 3,
    .byte callingDrivPhotoInterval 1 5 2,
    .byte smokingDrivVideoTime 0 60 5,
    .byte smokingDrivPhotoNum 0 10 3,
    .byte smokingDrivPhotoInterval 1 5 2,
    .byte distractionDrivVideoTime 0 60 5,
    .byte distractionDrivPhotoNum 0 10 3,
    .byte distractionDrivPhotoInterval 1 5 2,
    .byte abnormalDrivVideoTime 0 60 5,
    .byte abnormalDrivPhotoNum 0 10 3,
    .byte abnormalDrivPhotoInterval 1 5 2]

def defaults : DmsPara := Packed.ofList 43
  ([30, 6, 0, 0x08, 0x07, 100, 0, 3, 2, 1, 1] ++ List.replicate 10 0 ++
    [180, 0, 120, 0] ++ [5, 3, 2, 0] ++ [5, 3, 2] ++ [5, 3, 2] ++ [5, 3, 2] ++
    [5, 3, 2] ++ List.replicate 2 0)

end DmsPara

def adasParaCheck (para : AdasPara) : AdasPara :=
  AdasPara.checks.foldl RangeCheck.apply para

def dmsParaCheck (para : DmsPara) : DmsPara :=
  DmsPara.checks.foldl RangeCheck.apply para

def writeDevParaAdas (para store : AdasPara) : AdasPara :=
  adasParaCheck (Packed.merge AdasPara.words para store)

def writeDevParaDms (para store : DmsPara) : DmsPara :=
  Packed.merge DmsPara.words para store

def setAdasParaSettingDefault (store : AdasPara) : AdasPara :=
  writeDevParaAdas AdasPara.defaults store

def setDmsParaSettingDefault (store : DmsPara) : DmsPara :=
  writeDevParaDms DmsPara.defaults store

theorem AdasPara.defaults_ne (i : Fin 50) : AdasPara.defaults i ≠ 0xFF := by
  revert i
  decide

theorem DmsPara.defaults_ne (i : Fin 43) : DmsPara.defaults i ≠ 0xFF := by
  revert i
  decide

theorem AdasPara.defaults_holds :
    ∀ c ∈ AdasPara.checks, c.holds AdasPara.defaults = true := by
  decide

theorem DmsPara.defaults_holds :
    ∀ c ∈ DmsPara.checks, c.holds DmsPara.defaults = true := by
  decide

theorem adasParaCheck_defaults :
    adasParaCheck AdasPara.defaults = AdasPara.defaults :=
  RangeCheck.foldl_apply_of_holds AdasPara.defaults_holds

theorem dmsParaCheck_defaults :
    dmsParaCheck DmsPara.defaults = DmsPara.defaults :=
  RangeCheck.foldl_apply_of_holds DmsPara.defaults_holds

theorem setAdasParaSettingDefault_eq (store : AdasPara) :
    setAdasParaSettingDefault store = AdasPara.defaults := by
  rw [setAdasParaSettingDefault, writeDevParaAdas,
    Packed.merge_of_ne AdasPara.defaults_ne, adasParaCheck_defaults]

theorem setDmsParaSettingDefault_eq (store : DmsPara) :
    setDmsParaSettingDefault store = DmsPara.defaults := by
  rw [setDmsParaSettingDefault, writeDevParaDms,
    Packed.merge_of_ne DmsPara.defaults_ne]

theorem AdasPara.words_apart : (Packed.cells AdasPara.words).Nodup := by
  decide

theorem DmsPara.words_apart : (Packed.cells DmsPara.words).Nodup := by
  decide

theorem AdasPara.checks_fallBack : ∀ c ∈ AdasPara.checks, c.FallsBack := by
  decide

theorem AdasPara.checks_apart :
    (AdasPara.checks.flatMap fun c => c.field.cells).Nodup := by
  decide +kernel

theorem adasParaCheck_holds (para : AdasPara) :
    ∀ c ∈ AdasPara.checks, c.holds (adasParaCheck para) = true :=
  RangeCheck.foldl_apply_holds AdasPara.checks_fallBack
    AdasPara.checks_apart para

theorem adasParaCheck_idempotent (para : AdasPara) :
    adasParaCheck (adasParaCheck para) = adasParaCheck para :=
  RangeCheck.foldl_apply_of_holds (adasParaCheck_holds para)

/-- Whatever is written over whatever was stored, the ADAS store passes every
check, and writing a set of ones changes nothing more. -/
theorem writeDevParaAdas_inRange (para store : AdasPara) :
    (∀ c ∈ AdasPara.checks, c.holds (writeDevParaAdas para store) = true) ∧
      (∀ p, adasParaCheck (adasParaCheck p) = adasParaCheck p) ∧
      writeDevParaAdas (fun _ => 0xFF) (writeDevParaAdas para store) =
        writeDevParaAdas para store := by
  refine ⟨adasParaCheck_holds _, adasParaCheck_idempotent, ?_⟩
  rw [writeDevParaAdas, Packed.merge_ones, writeDevParaAdas,
    adasParaCheck_idempotent]

/-! ## Parameter files -/

/-- `write_file`: the file cannot be opened, or `fwrite` takes some bytes. -/
def writeFile (outcome : Option Nat) (file : Option (List UInt8))
    (data : List UInt8) : Nat × Option (List UInt8) :=
  match outcome with
  | none => (1, file)
  | some nb =>
      (if (data.take nb).length ≠ data.length then 2 else 0,
        some (data.take nb))

/-- What the file system does for one load of a parameter file. -/
structure ParaFileAccess where
  created : Bool
  write : Option Nat

def readLocalParaFile {n : Nat} (setDefault : Packed n → Packed n)
    (writeDevPara : Packed n → Packed n → Packed n) (access : ParaFileAccess)
    (file : Option (List UInt8)) (store : Packed n) :
    Nat × Packed n × Option (List UInt8) :=
  match file with
  | none =>
      if access.created = false then (1, store, none)
      else
        let store' := setDefault store
        (0, store', (writeFile access.write (some []) store'.toList).2)
  | some content =>
      if (content.take n).length ≠ n then (2, store, file)
      else (0, writeDevPara (Packed.ofList n (content.take n)) store, file)

def readLocalAdasParaFile (access : ParaFileAccess)
    (file : Option (List UInt8)) (store : AdasPara) :
    Nat × AdasPara × Option (List UInt8) :=
  readLocalParaFile setAdasParaSettingDefault writeDevParaAdas access file
    store

def readLocalDmsParaFile (access : ParaFileAccess)
    (file : Option (List UInt8)) (store : DmsPara) :
    Nat × DmsPara × Option (List UInt8) :=
  readLocalParaFile setDmsParaSettingDefault writeDevParaDms access file store

end SanbaoProt
