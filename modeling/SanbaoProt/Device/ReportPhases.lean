import SanbaoProt.Device.AdasRun
import SanbaoProt.Device.Retention

/-!
# Reports built by several threads

A builder shares nothing with the other threads but the world, and it is cut
between any two of its accesses: the ids of the photos, the id of the video, the
record, and the same again for the other camera.  `buildWarnFrame_phases` says
that a builder is its phases one after the other, and `reporting` runs the
phases of any number of reports in any order.
-/

namespace SanbaoProt

open Library

/-! ## The phases of a builder -/

inductive Phase where
  | photos
  | video
  | store
  | anotherVideo
  | storeAnother
  /-- The record of a snapshot. -/
  | storePhotos
  /-- The media of the beginning are taken over for the end of an event. -/
  | loadBegin
  | saveBegin
  deriving DecidableEq, Repr

namespace Report

def anotherVideo (r : Report) : Report :=
  if r.mm.videoEnable then
    { r with mm := { r.mm with photoEnable := false } }.addVideo
  else r

def loadBegin (r : Report) : Report :=
  let begun := r.world.mediaBegin
  { r with
    msgbuf := (r.msgbuf.copy warnFrameSize
      (begun.entries.read 0 (begun.num.toNat * 5))).store mmNumOffset
      begun.num }

def saveBegin (r : Report) : Report :=
  let begun : MediaBegin :=
    ⟨r.world.mediaBegin.entries.copy 0 (r.msgbuf.read warnFrameSize
      (r.mmNum.toNat * 5)), r.mmNum⟩
  { r with world := { r.world with mediaBegin := begun } }

theorem addPhotos_videoEnable (r : Report) :
    r.addPhotos.mm.videoEnable = r.mm.videoEnable := by
  unfold addPhotos
  split_ifs <;> rfl

theorem addPhotos_photoEnable (r : Report) :
    r.addPhotos.mm.photoEnable = r.mm.photoEnable := by
  unfold addPhotos
  split_ifs <;> rfl

theorem addVideo_videoEnable (r : Report) :
    r.addVideo.mm.videoEnable = r.mm.videoEnable := by
  unfold addVideo
  split_ifs <;> rfl

theorem anotherVideo_videoEnable (r : Report) :
    r.anotherVideo.mm.videoEnable = r.mm.videoEnable := by
  unfold anotherVideo
  split_ifs
  · exact addVideo_videoEnable _
  · rfl

end Report

namespace Phase

def run (target : Target) : Phase → Report → Report
  | .photos, r => r.addPhotos
  | .video, r => r.addVideo
  | .store, r => r.store target 0
  | .anotherVideo, r => r.anotherVideo
  | .storeAnother, r => if r.mm.videoEnable then r.store target 1 else r
  | .storePhotos, r => if r.mm.photoEnable then r.store target 0 else r
  | .loadBegin, r => r.loadBegin
  | .saveBegin, r => r.saveBegin

def runAll (target : Target) (phases : List Phase) (r : Report) : Report :=
  phases.foldl (fun r p => p.run target r) r

def alert : List Phase :=
  [.photos, .video, .store, .anotherVideo, .storeAnother]

def snap : List Phase := [.photos, .storePhotos]

end Phase

namespace Build

def infoForStore (type : UInt8) (para : ParaStore) :
    Build → InfoForStore
  | .adas => getAdasInfoForStore type para.adas
  | .dms => getDmsInfoForStore type para.dms

def mediaPhases (type : UInt8) : Build → List Phase
  | .adas =>
      if (adasMediaFields type).isSome then Phase.alert
      else if type = sbWarnTypeSnap then Phase.snap
      else []
  | .dms =>
      if (dmsMediaFields type).isSome then Phase.alert
      else if type = dmsDriverChange ∨ type = dmsSanpshotEvent then Phase.snap
      else []

def phases (type statusFlag : UInt8) (build : Build) : List Phase :=
  match build with
  | .adas =>
      if statusFlag = sbWarnStatusEnd then [.loadBegin]
      else build.mediaPhases type ++
        if statusFlag = sbWarnStatusBegin then [.saveBegin] else []
  | .dms =>
      if statusFlag = sbWarnStatusBegin then [] else build.mediaPhases type

end Build

namespace Phase

theorem runAll_append (target : Target) (first second : List Phase)
    (r : Report) :
    runAll target (first ++ second) r =
      runAll target second (runAll target first r) :=
  List.foldl_append

theorem run_videoEnable (target : Target) (p : Phase) (r : Report) :
    (p.run target r).mm.videoEnable = r.mm.videoEnable := by
  cases p with
  | photos => exact r.addPhotos_videoEnable
  | video => exact r.addVideo_videoEnable
  | anotherVideo => exact r.anotherVideo_videoEnable
  | storeAnother =>
      simp only [run]
      split_ifs <;> rfl
  | storePhotos =>
      simp only [run]
      split_ifs <;> rfl
  | _ => rfl

theorem runAll_alert (target : Target) (r : Report) :
    runAll target alert r = r.alertMedia target := by
  let own := Report.store target 0 r.addPhotos.addVideo
  change (if own.anotherVideo.mm.videoEnable then
    own.anotherVideo.store target 1 else own.anotherVideo) =
      if own.mm.videoEnable then _ else own
  rw [own.anotherVideo_videoEnable]
  unfold Report.anotherVideo
  split_ifs
  · rfl
  · rfl

theorem runAll_snap (target : Target) (r : Report) :
    runAll target snap r = r.snapMedia target := by
  change (if r.addPhotos.mm.photoEnable then r.addPhotos.store target 0
    else r.addPhotos) = _
  rw [r.addPhotos_photoEnable]
  unfold Report.snapMedia Report.addPhotos
  split_ifs
  · rfl
  · rfl

end Phase

theorem adasMedia_phases (target : Target) (type : UInt8) (r : Report) :
    Phase.runAll target (Build.adas.mediaPhases type) r =
      if (adasMediaFields type).isSome then r.alertMedia target
      else if type = sbWarnTypeSnap then r.snapMedia target
      else r := by
  simp only [Build.mediaPhases]
  split_ifs
  · exact Phase.runAll_alert target r
  · exact Phase.runAll_snap target r
  · rfl

theorem adasMedia_begun (target : Target) (type : UInt8) (r : Report) :
    (Phase.runAll target (Build.adas.mediaPhases type) r).begun = r.begun := by
  rw [adasMedia_phases]
  split_ifs
  · exact r.alertMedia_begun target
  · exact r.snapMedia_begun target
  · rfl

theorem buildAdasWarnFrame_phases (target : Target) (w : World)
    (type statusFlag : UInt8) (msgbuf : Mem UInt8) :
    buildAdasWarnFrame target w type statusFlag msgbuf =
      Phase.runAll target (Build.adas.phases type statusFlag)
        (fillReport w (getAdasInfoForStore type w.para.adas) type statusFlag
          msgbuf) := by
  let filled := fillReport w (getAdasInfoForStore type w.para.adas) type
    statusFlag msgbuf
  have hbegun := adasMedia_begun target type filled
  unfold buildAdasWarnFrame
  simp only [← adasMedia_phases, Build.phases]
  by_cases hend : statusFlag = sbWarnStatusEnd
  · rw [if_pos hend, if_pos hend]
    rfl
  · rw [if_neg hend, if_neg hend, Phase.runAll_append]
    by_cases hbegin : statusFlag = sbWarnStatusBegin
    · rw [if_pos hbegin, if_pos hbegin]
      change _ = (Phase.runAll target (Build.adas.mediaPhases type)
        filled).saveBegin
      unfold Report.saveBegin
      have hsaved : (Phase.runAll target (Build.adas.mediaPhases type)
          filled).world.mediaBegin = w.mediaBegin := hbegun
      simp only [hsaved]
      rfl
    · rw [if_neg hbegin, if_neg hbegin]
      rfl

theorem buildDmsWarnFrame_phases (target : Target) (w : World)
    (type statusFlag : UInt8) (msgbuf : Mem UInt8) :
    buildDmsWarnFrame target w type statusFlag msgbuf =
      Phase.runAll target (Build.dms.phases type statusFlag)
        (fillReport w (getDmsInfoForStore type w.para.dms) type statusFlag
          msgbuf) := by
  unfold buildDmsWarnFrame
  simp only [Build.phases, Build.mediaPhases]
  split_ifs
  · rfl
  · exact (Phase.runAll_alert target _).symm
  · exact (Phase.runAll_snap target _).symm
  · rfl

/-- A builder that is not interrupted runs its phases one after the other. -/
theorem buildWarnFrame_phases (build : Build) (target : Target) (w : World)
    (type statusFlag : UInt8) (msgbuf : Mem UInt8) :
    build.buildWarnFrame target w type statusFlag msgbuf =
      Phase.runAll target (build.phases type statusFlag)
        (fillReport w (build.infoForStore type w.para) type statusFlag
          msgbuf) := by
  cases build with
  | adas => exact buildAdasWarnFrame_phases target w type statusFlag msgbuf
  | dms => exact buildDmsWarnFrame_phases target w type statusFlag msgbuf

/-! ## What a phase lists -/

namespace Phase

/-- The kinds of media that a phase takes ids for. -/
def types (mm : InfoForStore) : Phase → List UInt8
  | .photos =>
      if mm.photoEnable then List.replicate mm.photoNum.toNat mmPhoto else []
  | .video => if mm.videoEnable then [mmVideo] else []
  | .anotherVideo => if mm.videoEnable then [mmVideo] else []
  | _ => []

def ids (r : Report) (p : Phase) : List UInt32 :=
  (getNextMmIds (p.types r.mm).length r.world.ids.mmId).1

def media (r : Report) (p : Phase) : List (UInt8 × UInt32) :=
  (p.types r.mm).zip (p.ids r)

@[simp] theorem length_ids (r : Report) (p : Phase) :
    (p.ids r).length = (p.types r.mm).length := length_getNextMmIds _ _

@[simp] theorem media_types (r : Report) (p : Phase) :
    (p.media r).map Prod.fst = p.types r.mm :=
  List.map_fst_zip (p.length_ids r).ge

@[simp] theorem media_ids (r : Report) (p : Phase) :
    (p.media r).map Prod.snd = p.ids r :=
  List.map_snd_zip (p.length_ids r).le

theorem length_photoTypes (mm : InfoForStore) :
    (Phase.photos.types mm).length ≤ 255 := by
  have hlt := mm.photoNum.toNat_lt
  simp only [types]
  split_ifs
  · rw [List.length_replicate]
    exact Nat.le_of_lt_succ hlt
  · exact Nat.zero_le _

theorem length_photoTypes_le {mm : InfoForStore}
    (hphotos : mm.photoEnable = true → mm.photoNum.toNat < warnSnapNumMax) :
    (Phase.photos.types mm).length < warnSnapNumMax := by
  simp only [types]
  split_ifs with henable
  · rw [List.length_replicate]
    exact hphotos henable
  · decide

theorem length_alertTypes (mm : InfoForStore) :
    (alert.flatMap (types mm)).length ≤
      (Phase.photos.types mm).length + 2 := by
  have hvideo : (Phase.video.types mm).length ≤ 1 := by
    simp only [types]
    split_ifs
    · exact Nat.le_refl _
    · exact Nat.zero_le _
  change ((Phase.photos.types mm) ++ ((Phase.video.types mm) ++
    ([] ++ ((Phase.video.types mm) ++ ([] ++ []))))).length ≤ _
  simp only [List.length_append, List.length_nil]
  omega

/-- Only the ids of the photos depend on more than the videos. -/
theorem types_run (target : Target) (p : Phase) (r : Report) {q : Phase}
    (hq : q ≠ .photos) : q.types (p.run target r).mm = q.types r.mm := by
  cases q with
  | photos => exact absurd rfl hq
  | video => simp only [types, run_videoEnable]
  | anotherVideo => simp only [types, run_videoEnable]
  | _ => rfl

end Phase

namespace Report

theorem zip_photos (ids : List UInt32) :
    (List.replicate ids.length mmPhoto).zip ids =
      ids.map fun id => (mmPhoto, id) := by
  induction ids with
  | nil => rfl
  | cons id ids ih =>
      rw [List.length_cons, List.replicate_succ, List.zip_cons_cons, ih]
      rfl

theorem photos_media (r : Report) :
    photoEntries (withPhotos r.mm r.world.ids.mmId).1 =
      Phase.photos.media r := by
  have htypes : Phase.photos.types r.mm =
      if r.mm.photoEnable then List.replicate r.mm.photoNum.toNat mmPhoto
      else [] := rfl
  unfold withPhotos photoEntries Phase.media Phase.ids
  rw [htypes]
  split_ifs
  · have hids := zip_photos
      (getNextMmIds r.mm.photoNum.toNat r.world.ids.mmId).1
    rw [length_getNextMmIds] at hids
    rw [List.length_replicate]
    exact hids.symm
  · rfl

theorem video_media (r : Report) :
    (if r.mm.videoEnable then [(mmVideo, r.world.ids.mmId + 1)] else []) =
      Phase.video.media r := by
  have htypes : Phase.video.types r.mm =
      if r.mm.videoEnable then [mmVideo] else [] := rfl
  unfold Phase.media Phase.ids
  rw [htypes]
  split_ifs
  · rfl
  · rfl

theorem anotherVideo_lists {r : Report} {entries : List (UInt8 × UInt32)}
    (h : r.Lists entries)
    (hroom : entries.length + (Phase.anotherVideo.types r.mm).length ≤ 255) :
    r.anotherVideo.Lists (entries ++ Phase.anotherVideo.media r) := by
  have hmedia : Phase.anotherVideo.media r = Phase.video.media r := rfl
  have htypes : Phase.anotherVideo.types r.mm =
      if r.mm.videoEnable then [mmVideo] else [] := rfl
  rw [hmedia, ← video_media]
  rw [htypes] at hroom
  unfold anotherVideo
  split_ifs with hvideo
  · let own : Report := { r with mm := { r.mm with photoEnable := false } }
    have hown : own.Lists entries := ⟨h.count, h.index, h.cells⟩
    rw [if_pos hvideo, List.length_singleton] at hroom
    have hadded := (addVideo_spec hown (by omega)).1
    rw [if_pos hvideo] at hadded
    exact hadded
  · rw [List.append_nil]
    exact h

theorem video_lists {r : Report} {entries : List (UInt8 × UInt32)}
    (h : r.Lists entries)
    (hroom : entries.length + (Phase.video.types r.mm).length ≤ 255) :
    r.addVideo.Lists (entries ++ Phase.video.media r) := by
  rw [← video_media]
  by_cases hvideo : r.mm.videoEnable
  · have htypes : Phase.video.types r.mm = [mmVideo] := if_pos hvideo
    rw [htypes, List.length_singleton] at hroom
    exact (addVideo_spec h (by omega)).1
  · unfold addVideo
    rw [if_neg hvideo, if_neg hvideo, List.append_nil]
    exact h

theorem Lists.store {r : Report} {entries : List (UInt8 × UInt32)}
    (h : r.Lists entries) (target : Target) (another : UInt8) :
    (r.store target another).Lists entries :=
  ⟨h.count, h.index, h.cells⟩

end Report

/-- A phase adds its media to the list of the report, whatever the other
threads have made of the world. -/
theorem Phase.run_lists (target : Target) {p : Phase} (hload : p ≠ .loadBegin)
    {r : Report} {entries : List (UInt8 × UInt32)} (h : r.Lists entries)
    (hfirst : p = .photos → entries = [])
    (hroom : entries.length + (p.types r.mm).length ≤ 255) :
    (p.run target r).Lists (entries ++ p.media r) := by
  cases p with
  | photos =>
      obtain rfl := hfirst rfl
      rw [← Report.photos_media]
      exact (Report.addPhotos_spec h).1
  | video => exact Report.video_lists h hroom
  | anotherVideo => exact Report.anotherVideo_lists h hroom
  | loadBegin => exact absurd rfl hload
  | store =>
      change (r.store target 0).Lists (entries ++ [])
      rw [List.append_nil]
      exact h.store target 0
  | storeAnother =>
      change (if r.mm.videoEnable then r.store target 1 else r).Lists
        (entries ++ [])
      rw [List.append_nil]
      split_ifs
      · exact h.store target 1
      · exact h
  | storePhotos =>
      change (if r.mm.photoEnable then r.store target 0 else r).Lists
        (entries ++ [])
      rw [List.append_nil]
      split_ifs
      · exact h.store target 0
      · exact h
  | saveBegin =>
      change r.saveBegin.Lists (entries ++ [])
      rw [List.append_nil]
      exact ⟨h.count, h.index, h.cells⟩

namespace Report

theorem addPhotos_mmId (r : Report) :
    r.addPhotos.world.ids.mmId =
      (getNextMmIds (Phase.photos.types r.mm).length r.world.ids.mmId).2 := by
  have htypes : Phase.photos.types r.mm =
      if r.mm.photoEnable then List.replicate r.mm.photoNum.toNat mmPhoto
      else [] := rfl
  unfold addPhotos
  rw [htypes]
  split_ifs
  · rw [List.length_replicate]
    rfl
  · rfl

theorem addVideo_mmId (r : Report) :
    r.addVideo.world.ids.mmId =
      (getNextMmIds (Phase.video.types r.mm).length r.world.ids.mmId).2 := by
  have htypes : Phase.video.types r.mm =
      if r.mm.videoEnable then [mmVideo] else [] := rfl
  unfold addVideo
  rw [htypes]
  split_ifs
  · rfl
  · rfl

theorem anotherVideo_mmId (r : Report) :
    r.anotherVideo.world.ids.mmId =
      (getNextMmIds (Phase.anotherVideo.types r.mm).length
        r.world.ids.mmId).2 := by
  have htypes : Phase.anotherVideo.types r.mm =
      if r.mm.videoEnable then [mmVideo] else [] := rfl
  unfold anotherVideo
  rw [htypes]
  split_ifs with hvideo
  · rw [addVideo_mmId]
    exact congrArg (fun l : List UInt8 => (getNextMmIds l.length _).2)
      (if_pos hvideo)
  · rfl

end Report

/-- A phase takes the next ids, one for each of its media. -/
theorem Phase.run_mmId (target : Target) (p : Phase) (r : Report) :
    (p.run target r).world.ids.mmId =
      (getNextMmIds (p.types r.mm).length r.world.ids.mmId).2 := by
  cases p with
  | photos => exact r.addPhotos_mmId
  | video => exact r.addVideo_mmId
  | anotherVideo => exact r.anotherVideo_mmId
  | store => exact congrArg NextIds.mmId (Report.store_ids target 0 r)
  | storeAnother =>
      simp only [run]
      split_ifs
      · exact congrArg NextIds.mmId (Report.store_ids target 1 r)
      · rfl
  | storePhotos =>
      simp only [run]
      split_ifs
      · exact congrArg NextIds.mmId (Report.store_ids target 0 r)
      · rfl
  | loadBegin => rfl
  | saveBegin => rfl

/-! ## The machine -/

/-- A report that a thread builds. -/
structure Building where
  statusFlag : UInt8
  report : Report
  todo : List Phase

/-- Every report that has been begun, the oldest first. -/
structure Reporting where
  world : World
  reports : List Building

inductive ReportInput where
  | start (type statusFlag : UInt8) (msgbuf : Mem UInt8)
  /-- The thread that builds the report with this number goes on. -/
  | proceed (number : Nat)
  /-- What the other threads make of the world; they hand out no media ids. -/
  | others (world : World)

def Building.next (target : Target) (w : World) (b : Building) :
    World × Building × List UInt32 :=
  match b.todo with
  | [] => (w, b, [])
  | p :: todo =>
      let found := { b.report with world := w }
      ((p.run target found).world,
        { b with report := p.run target found, todo := todo }, p.ids found)

/-- The media that the next phase lists. -/
def Building.nextMedia (w : World) (b : Building) : List (UInt8 × UInt32) :=
  match b.todo with
  | [] => []
  | p :: _ => p.media { b.report with world := w }

/-- The outputs are the ids handed out, each with the number of the report. -/
def reporting (target : Target) :
    Mealy Reporting ReportInput (Nat × UInt32) where
  step s
    | .start type statusFlag msgbuf =>
        let filled := fillReport s.world
          (target.build.infoForStore type s.world.para) type statusFlag msgbuf
        (⟨filled.world, s.reports ++
          [⟨statusFlag, filled, target.build.phases type statusFlag⟩]⟩, [])
    | .proceed number =>
        match s.reports[number]? with
        | none => (s, [])
        | some b =>
            let out := b.next target s.world
            (⟨out.1, s.reports.set number out.2.1⟩,
              out.2.2.map fun id => (number, id))
    | .others world =>
        ({ s with
            world :=
              { world with
                ids := { world.ids with mmId := s.world.ids.mmId } } }, [])

/-! ## A builder that is not interrupted -/

theorem proceed_alone (target : Target) {s : Reporting} {number : Nat}
    {b : Building} (hb : s.reports[number]? = some b)
    (hworld : b.report.world = s.world) :
    (reporting target).final s
        (List.replicate b.todo.length (.proceed number)) =
      ⟨(Phase.runAll target b.todo b.report).world,
        s.reports.set number
          ⟨b.statusFlag, Phase.runAll target b.todo b.report, []⟩⟩ := by
  obtain ⟨statusFlag, r, todo⟩ := b
  obtain ⟨world, reports⟩ := s
  subst hworld
  induction todo generalizing r reports with
  | nil =>
      obtain ⟨hnumber, hget⟩ := List.getElem?_eq_some_iff.mp hb
      have hsame : reports.set number ⟨statusFlag, r, []⟩ = reports :=
        hget ▸ List.set_getElem_self hnumber
      exact congrArg (Reporting.mk r.world) hsame.symm
  | cons p todo ih =>
      obtain ⟨hnumber, -⟩ := List.getElem?_eq_some_iff.mp hb
      let next : Building := ⟨statusFlag, p.run target r, todo⟩
      have hnext : ((reporting target).step ⟨r.world, reports⟩
          (.proceed number)).1 =
            ⟨(p.run target r).world, reports.set number next⟩ := by
        simp only [reporting, hb]
        rfl
      rw [List.length_cons, List.replicate_succ, Mealy.final_cons, hnext]
      rw [ih (p.run target r) (reports.set number next)
        (List.getElem?_set_self hnumber), List.set_set]
      rfl

/-- A builder whose thread alone goes on builds what it builds without other
threads. -/
theorem reporting_alone (target : Target) (s : Reporting)
    (type statusFlag : UInt8) (msgbuf : Mem UInt8) :
    let built := target.build.buildWarnFrame target s.world type statusFlag
      msgbuf
    (reporting target).final s (.start type statusFlag msgbuf ::
        List.replicate (target.build.phases type statusFlag).length
          (.proceed s.reports.length)) =
      ⟨built.world, s.reports ++ [⟨statusFlag, built, []⟩]⟩ := by
  intro built
  rw [Mealy.final_cons]
  let filled := fillReport s.world
    (target.build.infoForStore type s.world.para) type statusFlag msgbuf
  let b : Building :=
    ⟨statusFlag, filled, target.build.phases type statusFlag⟩
  let started : Reporting := ⟨filled.world, s.reports ++ [b]⟩
  have hb : started.reports[s.reports.length]? = some b :=
    List.getElem?_concat_length
  have halone := proceed_alone target hb rfl
  have hbuilt : Phase.runAll target b.todo b.report = built :=
    (buildWarnFrame_phases target.build target s.world type statusFlag
      msgbuf).symm
  rw [hbuilt] at halone
  refine halone.trans (congrArg (Reporting.mk built.world) ?_)
  rw [List.set_append_right _ _ (Nat.le_refl _), Nat.sub_self]
  rfl

/-! ## Ids are handed out in a row -/

theorem Building.nextMedia_ids (target : Target) (w : World) (b : Building) :
    (b.nextMedia w).map Prod.snd = (b.next target w).2.2 := by
  unfold Building.nextMedia Building.next
  cases b.todo with
  | nil => rfl
  | cons p todo => exact p.media_ids _

theorem Building.next_ids (target : Target) (w : World) (b : Building) :
    (b.next target w).2.2 =
        (getNextMmIds (b.next target w).2.2.length w.ids.mmId).1 ∧
      (b.next target w).1.ids.mmId =
        (getNextMmIds (b.next target w).2.2.length w.ids.mmId).2 := by
  unfold Building.next
  cases b.todo with
  | nil => exact ⟨rfl, rfl⟩
  | cons p todo =>
      simp only [Phase.length_ids]
      exact ⟨rfl, p.run_mmId target _⟩

section

variable (target : Target) (s : Reporting)

theorem reporting_ids (i : ReportInput) :
    let out := (reporting target).step s i
    out.2.map Prod.snd =
        (getNextMmIds out.2.length s.world.ids.mmId).1 ∧
      out.1.world.ids.mmId =
        (getNextMmIds out.2.length s.world.ids.mmId).2 := by
  cases i with
  | start type statusFlag msgbuf => exact ⟨rfl, rfl⟩
  | others world => exact ⟨rfl, rfl⟩
  | proceed number =>
      simp only [reporting]
      cases s.reports[number]? with
      | none => exact ⟨rfl, rfl⟩
      | some b =>
          obtain ⟨hids, hnext⟩ := b.next_ids target s.world
          simp only [List.length_map, List.map_map]
          refine ⟨?_, hnext⟩
          rw [← hids]
          exact List.map_id _

/-- The ids of a run are the next ones, in the order in which they are handed
out. -/
theorem reportingRun_ids (inputs : List ReportInput) :
    let outputs := (reporting target).outputs s inputs
    outputs.map Prod.snd =
        (getNextMmIds outputs.length s.world.ids.mmId).1 ∧
      ((reporting target).final s inputs).world.ids.mmId =
        (getNextMmIds outputs.length s.world.ids.mmId).2 := by
  induction inputs generalizing s with
  | nil => exact ⟨rfl, rfl⟩
  | cons i inputs ih =>
      obtain ⟨hids, hnext⟩ := reporting_ids target s i
      obtain ⟨hrest, hfinal⟩ := ih ((reporting target).step s i).1
      simp only [Mealy.outputs_cons, Mealy.final_cons, List.length_append,
        List.map_append, getNextMmIds_add]
      rw [hrest, hfinal, hids, hnext]
      exact ⟨rfl, rfl⟩

end

/-! ## What a report will list -/

/-- The report lists `entries`, and once its thread is done, media of the kinds
in `total`. -/
structure Listing (total : List UInt8) (b : Building)
    (entries : List (UInt8 × UInt32)) : Prop where
  lists : b.report.Lists entries
  types : entries.map Prod.fst ++ b.todo.flatMap (Phase.types b.report.mm) =
    total
  first : .photos ∈ b.todo → entries = []
  once : .photos ∉ b.todo.tail
  noLoad : .loadBegin ∉ b.todo

theorem Listing.next {total : List UInt8} (htotal : total.length ≤ 255)
    {b : Building} {entries : List (UInt8 × UInt32)}
    (h : Listing total b entries) (target : Target) (w : World) :
    Listing total (b.next target w).2.1 (entries ++ b.nextMedia w) := by
  obtain ⟨statusFlag, report, todo⟩ := b
  cases todo with
  | nil =>
      change Listing total ⟨statusFlag, report, []⟩ (entries ++ [])
      rw [List.append_nil]
      exact h
  | cons p todo =>
      let found : Report := { report with world := w }
      have hfound : found.Lists entries :=
        ⟨h.lists.count, h.lists.index, h.lists.cells⟩
      have htypes : entries.map Prod.fst ++ (p.types report.mm ++
          todo.flatMap (Phase.types report.mm)) = total := h.types
      have hroom : entries.length + (p.types found.mm).length ≤ 255 := by
        have hlength := congrArg List.length htypes
        simp only [List.length_append, List.length_map] at hlength
        change entries.length + (p.types report.mm).length ≤ 255
        omega
      have hlater : todo.flatMap (Phase.types (p.run target found).mm) =
          todo.flatMap (Phase.types report.mm) := by
        refine List.flatMap_congr fun q hq => ?_
        exact p.types_run target found fun hphotos => h.once (hphotos ▸ hq)
      refine ⟨?_, ?_, ?_, ?_, ?_⟩
      · apply Phase.run_lists target _ hfound _ hroom
        · rintro rfl
          exact h.noLoad List.mem_cons_self
        · rintro rfl
          exact h.first List.mem_cons_self
      · change (entries ++ p.media found).map Prod.fst ++
          todo.flatMap (Phase.types (p.run target found).mm) = total
        rw [hlater, List.map_append, Phase.media_types, List.append_assoc]
        exact htypes
      · exact fun hphotos => absurd hphotos h.once
      · exact fun hphotos => h.once (List.mem_of_mem_tail hphotos)
      · exact fun hload => h.noLoad (List.mem_cons_of_mem p hload)

/-- The ids that were handed out for a report. -/
def idsOf (number : Nat) (outputs : List (Nat × UInt32)) : List UInt32 :=
  (outputs.filter (·.1 = number)).map Prod.snd

theorem idsOf_append (number : Nat) (first second : List (Nat × UInt32)) :
    idsOf number (first ++ second) =
      idsOf number first ++ idsOf number second := by
  simp only [idsOf, List.filter_append, List.map_append]

theorem idsOf_own (number : Nat) (ids : List UInt32) :
    idsOf number (ids.map fun id => (number, id)) = ids := by
  induction ids with
  | nil => rfl
  | cons id ids ih => simpa [idsOf] using ih

theorem idsOf_other {number other : Nat} (h : other ≠ number)
    (ids : List UInt32) :
    idsOf number (ids.map fun id => (other, id)) = [] := by
  simp [idsOf, h]

/-- The report with this number lists the ids that were handed out for it, and
`P` holds of it and its list. -/
def ListsIssued (total : List UInt8)
    (P : Building → List (UInt8 × UInt32) → Prop) (number : Nat)
    (s : Reporting) (outputs : List (Nat × UInt32)) : Prop :=
  ∃ b entries, s.reports[number]? = some b ∧ Listing total b entries ∧
    entries.map Prod.snd = idsOf number outputs ∧ P b entries

/-- `P` is kept as a thread goes on with a report that it holds of. -/
def KeptByNext (target : Target) (total : List UInt8)
    (P : Building → List (UInt8 × UInt32) → Prop) : Prop :=
  ∀ b entries w, Listing total b entries → P b entries →
    P (b.next target w).2.1 (entries ++ b.nextMedia w)

section

variable {target : Target} {total : List UInt8}
  {P : Building → List (UInt8 × UInt32) → Prop} {number : Nat} {s : Reporting}
  {outputs : List (Nat × UInt32)}

theorem ListsIssued.step (h : ListsIssued total P number s outputs)
    (htotal : total.length ≤ 255) (hkept : KeptByNext target total P)
    (i : ReportInput) :
    ListsIssued total P number ((reporting target).step s i).1
      (outputs ++ ((reporting target).step s i).2) := by
  obtain ⟨b, entries, hb, hlisting, hids, hp⟩ := h
  cases i with
  | start type statusFlag msgbuf =>
      obtain ⟨hnumber, -⟩ := List.getElem?_eq_some_iff.mp hb
      refine ⟨b, entries, ?_, hlisting, ?_, hp⟩
      · rw [← hb]
        exact List.getElem?_append_left hnumber
      · rw [hids]
        exact congrArg _ (List.append_nil outputs).symm
  | others world =>
      refine ⟨b, entries, hb, hlisting, ?_, hp⟩
      rw [hids]
      exact congrArg _ (List.append_nil outputs).symm
  | proceed other =>
      by_cases hother : other = number
      · subst hother
        obtain ⟨hnumber, -⟩ := List.getElem?_eq_some_iff.mp hb
        simp only [reporting, hb]
        refine ⟨_, entries ++ b.nextMedia s.world,
          List.getElem?_set_self hnumber, hlisting.next htotal target s.world,
          ?_, hkept b entries s.world hlisting hp⟩
        rw [List.map_append, hids, b.nextMedia_ids target, idsOf_append,
          idsOf_own]
      · simp only [reporting]
        cases s.reports[other]? with
        | none =>
            refine ⟨b, entries, hb, hlisting, ?_, hp⟩
            rw [hids, List.append_nil]
        | some b' =>
            refine ⟨b, entries, ?_, hlisting, ?_, hp⟩
            · rw [← hb]
              exact List.getElem?_set_ne hother
            · rw [hids, idsOf_append, idsOf_other hother, List.append_nil]

theorem ListsIssued.run (h : ListsIssued total P number s outputs)
    (htotal : total.length ≤ 255) (hkept : KeptByNext target total P)
    (inputs : List ReportInput) :
    ListsIssued total P number ((reporting target).final s inputs)
      (outputs ++ (reporting target).outputs s inputs) := by
  induction inputs generalizing s outputs with
  | nil =>
      rw [Mealy.outputs_nil, List.append_nil]
      exact h
  | cons i inputs ih =>
      rw [Mealy.final_cons, Mealy.outputs_cons, ← List.append_assoc]
      exact ih (h.step htotal hkept i)

end

/-! ## The beginning of a report -/

namespace Build

/-- The kinds of media that a report lists. -/
def listedTypes (type statusFlag : UInt8) (para : ParaStore)
    (build : Build) : List UInt8 :=
  (build.phases type statusFlag).flatMap
    (Phase.types (build.infoForStore type para))

section

variable (build : Build) (type : UInt8) {statusFlag : UInt8}

inductive MediaPhases (para : ParaStore) : List Phase → Prop where
  | alert (hphotos : (build.infoForStore type para).photoEnable = true →
      (build.infoForStore type para).photoNum.toNat < warnSnapNumMax) :
      MediaPhases para Phase.alert
  | snap : MediaPhases para Phase.snap
  | none : MediaPhases para []

theorem mediaPhases_cases (para : ParaStore) :
    MediaPhases build type para (build.mediaPhases type) := by
  cases build with
  | adas =>
      simp only [mediaPhases]
      split_ifs with halert
      · exact .alert fun h => getAdasInfoForStore_photoNum halert h
      · exact .snap
      · exact .none
  | dms =>
      simp only [mediaPhases]
      split_ifs with halert
      · exact .alert fun h => getDmsInfoForStore_photoNum halert h
      · exact .snap
      · exact .none

/-- Behind the media there is at most the memory of an ADAS event. -/
theorem phases_eq (hend : statusFlag ≠ sbWarnStatusEnd) :
    build.phases type statusFlag = [] ∨
      ∃ saved, (saved = [] ∨ saved = [.saveBegin]) ∧
        build.phases type statusFlag = build.mediaPhases type ++ saved := by
  cases build with
  | adas =>
      simp only [phases, if_neg hend]
      refine .inr ⟨_, ?_, rfl⟩
      split_ifs
      · exact .inr rfl
      · exact .inl rfl
  | dms =>
      simp only [phases]
      split_ifs
      · exact .inl rfl
      · exact .inr ⟨[], .inl rfl, (List.append_nil _).symm⟩

theorem phases_once (hend : statusFlag ≠ sbWarnStatusEnd) :
    .photos ∉ (build.phases type statusFlag).tail ∧
      .loadBegin ∉ build.phases type statusFlag := by
  rcases build.phases_eq type hend with hnone | ⟨saved, hsaved, heq⟩
  · rw [hnone]
    exact ⟨nofun, nofun⟩
  · have hcases := build.mediaPhases_cases type ⟨fun _ => 0, fun _ => 0⟩
    rw [heq]
    generalize build.mediaPhases type = media at hcases ⊢
    rcases hsaved with rfl | rfl
    · cases hcases <;> decide
    · cases hcases <;> decide

theorem length_listedTypes (hend : statusFlag ≠ sbWarnStatusEnd)
    (para : ParaStore) :
    (build.listedTypes type statusFlag para).length ≤ 255 := by
  unfold listedTypes
  rcases build.phases_eq type hend with hnone | ⟨saved, hsaved, heq⟩
  · rw [hnone]
    exact Nat.zero_le _
  · have hcases := build.mediaPhases_cases type para
    have hnone : saved.flatMap
        (Phase.types (build.infoForStore type para)) = [] := by
      rcases hsaved with rfl | rfl
      · rfl
      · rfl
    rw [heq, List.flatMap_append, hnone, List.append_nil]
    generalize build.mediaPhases type = media at hcases ⊢
    cases hcases with
    | alert hphotos =>
        refine Nat.le_trans (Phase.length_alertTypes _) ?_
        have hphoto := Phase.length_photoTypes_le hphotos
        simp only [warnSnapNumMax] at hphoto
        omega
    | snap =>
        have hphoto := Phase.length_photoTypes
          (build.infoForStore type para)
        change ((Phase.photos.types _) ++ ([] ++ [])).length ≤ 255
        rw [List.append_nil, List.append_nil]
        exact hphoto
    | none => exact Nat.zero_le _

end

end Build

theorem Listing.start {build : Build} {type statusFlag : UInt8}
    (hend : statusFlag ≠ sbWarnStatusEnd) (w : World) (msgbuf : Mem UInt8) :
    Listing (build.listedTypes type statusFlag w.para)
      ⟨statusFlag, fillReport w (build.infoForStore type w.para) type
        statusFlag msgbuf, build.phases type statusFlag⟩ [] := by
  obtain ⟨honce, hload⟩ := build.phases_once type hend
  exact ⟨(fillReport_fresh ..).lists, rfl, fun _ => rfl, honce, hload⟩

/-- A new report has the next number, and nothing has been handed out for
it. -/
theorem ListsIssued.start (target : Target) (s : Reporting)
    {type statusFlag : UInt8} (hend : statusFlag ≠ sbWarnStatusEnd)
    (msgbuf : Mem UInt8) {outputs : List (Nat × UInt32)}
    (hnumbers : ∀ o ∈ outputs, o.1 < s.reports.length)
    {P : Building → List (UInt8 × UInt32) → Prop}
    (hp : P ⟨statusFlag, fillReport s.world
      (target.build.infoForStore type s.world.para) type statusFlag msgbuf,
        target.build.phases type statusFlag⟩ []) :
    ListsIssued (target.build.listedTypes type statusFlag s.world.para) P
      s.reports.length
      ((reporting target).step s (.start type statusFlag msgbuf)).1
      outputs := by
  have hnone : outputs.filter (·.1 = s.reports.length) = [] := by
    rw [List.filter_eq_nil_iff]
    intro o ho
    have hlt := hnumbers o ho
    simp only [decide_eq_true_eq]
    omega
  refine ⟨_, [], List.getElem?_concat_length, .start hend s.world msgbuf, ?_,
    hp⟩
  rw [idsOf, hnone]
  rfl

end SanbaoProt
