import SanbaoProt.Device.SaveMedia
import SanbaoProt.Library.Numbered

/-!
# From the media list to the files

Along a run of `mediaSystem` each report has listed the media of the records
that it has pushed, and those that its next record will have.  With what the
media thread hands over and what a task writes this gives the way of an entry
from the report that announces it to its file.
-/

namespace SanbaoProt

open Library

/-! ## Records of a report -/

namespace Build

def isAlert (type : UInt8) : Build → Bool
  | .adas => (adasMediaFields type).isSome
  | .dms => (dmsMediaFields type).isSome

end Build

namespace InfoForStore

def Filmed (b : Build) (mm : InfoForStore) : Prop :=
  mm.videoEnable = true → b.isAlert mm.warnType = true

def Numbered (mm : InfoForStore) : Prop :=
  mm.photoEnable = true → mm.photoId.length = mm.photoNum.toNat

/-- What a record is when it is pushed. -/
structure Recorded (b : Build) (mm : InfoForStore) : Prop where
  filmed : mm.Filmed b
  numbered : mm.Numbered
  another : mm.getAnotherCameraVideo ≠ 0 →
    mm.videoEnable = true ∧ mm.photoEnable = false

def videoEntries (mm : InfoForStore) : List (UInt8 × UInt32) :=
  if mm.videoEnable then [(mmVideo, mm.videoId)] else []

theorem media_eq (mm : InfoForStore) :
    mm.media = Report.photoEntries mm ++ mm.videoEntries := rfl

theorem media_noVideo {mm : InfoForStore} (h : mm.videoEnable = false) :
    mm.media = Report.photoEntries mm := by
  rw [media_eq, videoEntries, h]
  exact List.append_nil _

theorem media_noPhotos {mm : InfoForStore} (h : mm.photoEnable = false) :
    mm.media = mm.videoEntries := by
  rw [media_eq, Report.photoEntries, h]
  rfl

end InfoForStore

theorem infoForStore_warnType (b : Build) (type : UInt8) (para : ParaStore) :
    (b.infoForStore type para).warnType = type := by
  cases b with
  | adas =>
      change (getAdasInfoForStore type para.adas).warnType = type
      unfold getAdasInfoForStore
      split
      · rfl
      · split_ifs <;> rfl
  | dms =>
      change (getDmsInfoForStore type para.dms).warnType = type
      unfold getDmsInfoForStore
      split
      · rfl
      · split_ifs <;> rfl

theorem infoForStore_noVideo {b : Build} {type : UInt8}
    (h : ¬ b.isAlert type = true) (para : ParaStore) :
    (b.infoForStore type para).videoEnable = false := by
  cases b with
  | adas => exact getAdasInfoForStore_videoEnable h
  | dms => exact getDmsInfoForStore_videoEnable h

theorem infoForStore_filmed (b : Build) (type : UInt8) (para : ParaStore) :
    (b.infoForStore type para).Filmed b := by
  intro hvideo
  rw [infoForStore_warnType]
  by_contra hnot
  rw [infoForStore_noVideo hnot] at hvideo
  exact Bool.false_ne_true hvideo

/-! ## How far a report is -/

section Stages

open Report (photoEntries)

/-- A report with these phases ahead of it has listed the entries, but not yet
pushed the record with them. -/
inductive Stage (saved : List Phase) : List Phase → InfoForStore →
    List (UInt8 × UInt32) → Prop where
  | photos (mm : InfoForStore) : Stage saved (Phase.alert ++ saved) mm []
  | video {mm : InfoForStore} (hnum : mm.Numbered) :
      Stage saved ([.video, .store, .anotherVideo, .storeAnother] ++ saved)
        mm (photoEntries mm)
  | store {mm : InfoForStore} (hnum : mm.Numbered) :
      Stage saved ([.store, .anotherVideo, .storeAnother] ++ saved) mm
        mm.media
  | anotherVideo {mm : InfoForStore} (hnum : mm.Numbered) :
      Stage saved ([.anotherVideo, .storeAnother] ++ saved) mm []
  | storeAnother {mm : InfoForStore}
      (halone : mm.videoEnable = true → mm.photoEnable = false) :
      Stage saved ([.storeAnother] ++ saved) mm mm.videoEntries
  | snap {mm : InfoForStore} (hvideo : mm.videoEnable = false) :
      Stage saved (Phase.snap ++ saved) mm []
  | storePhotos {mm : InfoForStore} (hvideo : mm.videoEnable = false)
      (hnum : mm.Numbered) :
      Stage saved ([.storePhotos] ++ saved) mm (photoEntries mm)
  | behind (mm : InfoForStore) : Stage saved saved mm []

/-- What comes behind the media. -/
def Behind (saved : List Phase) : Prop :=
  saved = [] ∨ saved = [.saveBegin] ∨ saved = [.loadBegin]

theorem addPhotos_mm (r : Report) :
    r.addPhotos.mm = (withPhotos r.mm r.world.ids.mmId).1 := by
  unfold Report.addPhotos withPhotos
  split_ifs <;> rfl

theorem addVideo_mm (r : Report) :
    r.addVideo.mm = (withVideo r.mm r.world.ids.mmId).1 := by
  unfold Report.addVideo withVideo
  split_ifs <;> rfl

theorem addPhotos_numbered (r : Report) : r.addPhotos.mm.Numbered := by
  rw [addPhotos_mm]
  unfold withPhotos
  split_ifs with henable
  · exact fun _ => length_getNextMmIds _ _
  · exact fun h => absurd h henable

theorem addVideo_numbered {r : Report} (h : r.mm.Numbered) :
    r.addVideo.mm.Numbered := by
  rw [addVideo_mm]
  unfold withVideo
  split_ifs
  · exact h
  · exact h

theorem photos_entries (r : Report) :
    Phase.photos.media r = photoEntries r.addPhotos.mm := by
  rw [addPhotos_mm, Report.photos_media]

theorem video_entries (r : Report) :
    photoEntries r.mm ++ Phase.video.media r = r.addVideo.mm.media := by
  rw [addVideo_mm, Report.withVideo_media, Report.video_media]

theorem anotherVideo_entries (r : Report) :
    Phase.anotherVideo.media r = r.anotherVideo.mm.videoEntries := by
  have hmedia : Phase.anotherVideo.media r = Phase.video.media r := rfl
  rw [hmedia, ← Report.video_media]
  unfold Report.anotherVideo InfoForStore.videoEntries
  by_cases hvideo : r.mm.videoEnable = true
  · rw [if_pos hvideo, if_pos hvideo, addVideo_mm, withVideo, if_pos hvideo]
    simp [hvideo]
  · simp [hvideo]

theorem anotherVideo_alone (r : Report)
    (h : r.anotherVideo.mm.videoEnable = true) :
    r.anotherVideo.mm.photoEnable = false := by
  unfold Report.anotherVideo at h ⊢
  split_ifs at h ⊢ with hvideo
  · rw [addVideo_mm]
    unfold withVideo
    split_ifs <;> rfl
  · exact absurd h hvideo

/-- A phase lists what it takes ids for, and pushes a record with what has been
listed since the record before it. -/
theorem Stage.next {saved : List Phase} (hbehind : Behind saved) {p : Phase}
    {todo : List Phase} {r : Report} {listed : List (UInt8 × UInt32)}
    (h : Stage saved (p :: todo) r.mm listed) (b : Build)
    (hfilmed : r.mm.Filmed b) (target : Target) :
    (∃ saved' listed', Behind saved' ∧
        Stage saved' todo (p.run target r).mm listed' ∧
        listed ++ p.media r =
          (p.record? r.mm).toList.flatMap InfoForStore.media ++ listed') ∧
      ∀ mm ∈ p.record? r.mm, mm.Recorded b := by
  have hnone : ∀ mm ∈ (none : Option InfoForStore), mm.Recorded b :=
    fun _ hmm => absurd hmm (Option.not_mem_none _)
  generalize hphases : p :: todo = phases at h
  generalize hmm : r.mm = mm at h
  cases h with
  | photos =>
      obtain ⟨rfl, rfl⟩ := List.cons.inj hphases
      refine ⟨⟨saved, _, hbehind, .video (addPhotos_numbered r), ?_⟩, hnone⟩
      exact photos_entries r
  | video hnum =>
      obtain ⟨rfl, rfl⟩ := List.cons.inj hphases
      subst hmm
      refine ⟨⟨saved, _, hbehind, .store (addVideo_numbered hnum), ?_⟩, hnone⟩
      exact video_entries r
  | store hnum =>
      obtain ⟨rfl, rfl⟩ := List.cons.inj hphases
      subst hmm
      refine ⟨⟨saved, _, hbehind, .anotherVideo hnum, ?_⟩, ?_⟩
      · change _ ++ [] = (_ ++ []) ++ []
        simp only [List.append_nil]
        rfl
      · rintro mm ⟨⟩
        exact ⟨hfilmed, hnum, fun h => absurd rfl h⟩
  | anotherVideo hnum =>
      obtain ⟨rfl, rfl⟩ := List.cons.inj hphases
      refine ⟨⟨saved, _, hbehind, .storeAnother (anotherVideo_alone r), ?_⟩,
        hnone⟩
      exact anotherVideo_entries r
  | storeAnother halone =>
      obtain ⟨rfl, rfl⟩ := List.cons.inj hphases
      subst hmm
      by_cases hvideo : r.mm.videoEnable = true
      · have hrecord : Phase.storeAnother.record? r.mm =
            some { r.mm with getAnotherCameraVideo := 1 } := if_pos hvideo
        rw [hrecord]
        refine ⟨⟨_, [], hbehind, .behind _, ?_⟩, ?_⟩
        · have hmedia : InfoForStore.media
              { r.mm with getAnotherCameraVideo := 1 } =
                r.mm.videoEntries :=
            InfoForStore.media_noPhotos (halone hvideo)
          change _ ++ [] = (_ ++ []) ++ []
          simp only [List.append_nil]
          exact hmedia.symm
        · rintro mm ⟨⟩
          exact ⟨hfilmed, fun h => absurd h (by simp [halone hvideo]),
            fun _ => ⟨hvideo, halone hvideo⟩⟩
      · have hrecord : Phase.storeAnother.record? r.mm = none :=
          if_neg hvideo
        rw [hrecord]
        refine ⟨⟨_, [], hbehind, .behind _, ?_⟩, hnone⟩
        simp [InfoForStore.videoEntries, hvideo, Phase.media, Phase.types]
  | snap hvideo =>
      obtain ⟨rfl, rfl⟩ := List.cons.inj hphases
      subst hmm
      have hvideo' : r.addPhotos.mm.videoEnable = false := by
        rw [Report.addPhotos_videoEnable]
        exact hvideo
      refine ⟨⟨saved, _, hbehind,
        .storePhotos hvideo' (addPhotos_numbered r), ?_⟩, hnone⟩
      exact photos_entries r
  | storePhotos hvideo hnum =>
      obtain ⟨rfl, rfl⟩ := List.cons.inj hphases
      subst hmm
      by_cases henable : r.mm.photoEnable = true
      · have hrecord : Phase.storePhotos.record? r.mm =
            some { r.mm with getAnotherCameraVideo := 0 } := if_pos henable
        rw [hrecord]
        refine ⟨⟨_, [], hbehind, .behind _, ?_⟩, ?_⟩
        · have hmedia : InfoForStore.media
              { r.mm with getAnotherCameraVideo := 0 } = photoEntries r.mm :=
            InfoForStore.media_noVideo hvideo
          change _ ++ [] = (_ ++ []) ++ []
          simp only [List.append_nil]
          exact hmedia.symm
        · rintro mm ⟨⟩
          exact ⟨hfilmed, hnum, fun h => absurd rfl h⟩
      · have hrecord : Phase.storePhotos.record? r.mm = none :=
          if_neg henable
        rw [hrecord]
        refine ⟨⟨_, [], hbehind, .behind _, ?_⟩, hnone⟩
        simp [photoEntries, henable, Phase.media, Phase.types]
  | behind =>
      rcases hbehind with rfl | rfl | rfl
      · cases hphases
      · obtain ⟨rfl, rfl⟩ := List.cons.inj hphases
        exact ⟨⟨[], [], .inl rfl, .behind _, rfl⟩, hnone⟩
      · obtain ⟨rfl, rfl⟩ := List.cons.inj hphases
        exact ⟨⟨[], [], .inl rfl, .behind _, rfl⟩, hnone⟩

end Stages

/-! ## The accounts of a run -/

def pushedRecord : SaveEvent → Option (Nat × InfoForStore)
  | .pushed number mm _ => some (number, mm)
  | _ => none

def recordsOf (number : Nat) (events : List SaveEvent) : List InfoForStore :=
  itemsOf number (events.filterMap pushedRecord)

/-- The records that a report has pushed, and what it lists beside their
media. -/
structure Account (b : Build) (building : Building)
    (records : List InfoForStore) : Prop where
  filmed : building.report.mm.Filmed b
  progress : ∃ saved listed, Behind saved ∧
    Stage saved building.todo building.report.mm listed ∧
      (building.statusFlag ≠ sbWarnStatusEnd →
        ∃ total, total.length ≤ 255 ∧ Listing total building
          (records.flatMap InfoForStore.media ++ listed))
  ended : b = .adas → building.statusFlag = sbWarnStatusEnd →
    records = [] ∧ (building.todo = [.loadBegin] ∨ building.todo = [])

theorem Phase.run_filmed {b : Build} (target : Target) (p : Phase)
    {r : Report} (h : r.mm.Filmed b) : (p.run target r).mm.Filmed b := by
  have htype : (p.run target r).mm.warnType = r.mm.warnType := by
    have hvideo (r : Report) : r.addVideo.mm.warnType = r.mm.warnType := by
      unfold Report.addVideo
      split_ifs <;> rfl
    cases p with
    | photos =>
        change r.addPhotos.mm.warnType = _
        unfold Report.addPhotos
        split_ifs <;> rfl
    | video => exact hvideo r
    | anotherVideo =>
        change r.anotherVideo.mm.warnType = _
        unfold Report.anotherVideo
        split_ifs
        · exact hvideo _
        · rfl
    | store => rfl
    | storeAnother =>
        simp only [run]
        split_ifs <;> rfl
    | storePhotos =>
        simp only [run]
        split_ifs <;> rfl
    | loadBegin => rfl
    | saveBegin => rfl
  rw [InfoForStore.Filmed, run_videoEnable, htype]
  exact h

theorem stage_phases (b : Build) (type statusFlag : UInt8)
    (para : ParaStore) :
    ∃ saved, Behind saved ∧ Stage saved (b.phases type statusFlag)
      (b.infoForStore type para) [] := by
  have hmedia (saved : List Phase) (hbehind : Behind saved) :
      ∃ saved', Behind saved' ∧ Stage saved' (b.mediaPhases type ++ saved)
        (b.infoForStore type para) [] := by
    by_cases halert : b.isAlert type = true
    · have hphases : b.mediaPhases type = Phase.alert := by
        cases b with
        | adas => exact if_pos halert
        | dms => exact if_pos halert
      rw [hphases]
      exact ⟨saved, hbehind, .photos _⟩
    · have hphases : b.mediaPhases type = Phase.snap ∨
          b.mediaPhases type = [] := by
        cases b with
        | adas =>
            simp only [Build.mediaPhases, Build.isAlert] at halert ⊢
            rw [if_neg halert]
            split_ifs
            · exact .inl rfl
            · exact .inr rfl
        | dms =>
            simp only [Build.mediaPhases, Build.isAlert] at halert ⊢
            rw [if_neg halert]
            split_ifs
            · exact .inl rfl
            · exact .inr rfl
      rcases hphases with hsnap | hnone
      · rw [hsnap]
        exact ⟨saved, hbehind, .snap (infoForStore_noVideo halert para)⟩
      · rw [hnone]
        exact ⟨saved, hbehind, .behind _⟩
  cases b with
  | adas =>
      simp only [Build.phases]
      split_ifs
      · exact ⟨_, .inr (.inr rfl), .behind _⟩
      · exact hmedia _ (.inr (.inl rfl))
      · exact hmedia _ (.inl rfl)
  | dms =>
      simp only [Build.phases]
      split_ifs
      · exact ⟨_, .inl rfl, .behind _⟩
      · have hdms := hmedia [] (.inl rfl)
        rwa [List.append_nil] at hdms

theorem Account.start (b : Build) (w : World) (type statusFlag : UInt8)
    (msgbuf : Mem UInt8) :
    Account b ⟨statusFlag, fillReport w (b.infoForStore type w.para) type
      statusFlag msgbuf, b.phases type statusFlag⟩ [] := by
  obtain ⟨saved, hbehind, hstage⟩ := stage_phases b type statusFlag w.para
  refine ⟨infoForStore_filmed b type w.para,
    ⟨saved, [], hbehind, hstage, fun hend => ?_⟩, ?_⟩
  · exact ⟨_, b.length_listedTypes type hend w.para, .start hend w msgbuf⟩
  · rintro rfl rfl
    exact ⟨rfl, .inl rfl⟩

theorem Account.next {b : Build} {building : Building}
    {records : List InfoForStore} (h : Account b building records)
    (w : World) :
    Account b (building.next ⟨b, .tcp⟩ w).2.1
        (records ++ building.nextRecords) ∧
      ∀ mm ∈ building.nextRecords, mm.Recorded b := by
  obtain ⟨statusFlag, r, todo⟩ := building
  cases todo with
  | nil =>
      refine ⟨?_, fun _ hmm => absurd hmm List.not_mem_nil⟩
      change Account b ⟨statusFlag, r, []⟩ (records ++ [])
      rw [List.append_nil]
      exact h
  | cons p todo =>
      obtain ⟨hfilmed, ⟨saved, listed, hbehind, hstage, hlisting⟩, hended⟩ := h
      let found : Report := { r with world := w }
      obtain ⟨⟨saved', listed', hbehind', hstage', hmedia⟩, hrecorded⟩ :=
        Stage.next (r := found) hbehind hstage b hfilmed ⟨b, .tcp⟩
      refine ⟨⟨p.run_filmed ⟨b, .tcp⟩ (r := found) hfilmed,
        ⟨saved', listed', hbehind', hstage', fun hend => ?_⟩, ?_⟩, ?_⟩
      · obtain ⟨total, htotal, hentries⟩ := hlisting hend
        refine ⟨total, htotal, ?_⟩
        have hnext := hentries.next htotal ⟨b, .tcp⟩ w
        rw [List.append_assoc] at hnext
        rw [List.flatMap_append, List.append_assoc]
        exact hmedia ▸ hnext
      · intro hb hend
        obtain ⟨hnone, hload | hdone⟩ := hended hb hend
        · obtain ⟨rfl, rfl⟩ := List.cons.inj hload
          exact ⟨by rw [hnone]; rfl, .inr rfl⟩
        · cases hdone
      · intro mm hmm
        exact hrecorded mm (Option.mem_toList.mp hmm)

structure Accounts (b : Build) (s : MediaSystem) (events : List SaveEvent) :
    Prop where
  pushed : ∀ item ∈ events.filterMap pushedRecord,
    item.1 < s.reporting.reports.length ∧ item.2.Recorded b
  reports : ∀ number building, s.reporting.reports[number]? = some building →
    Account b building (recordsOf number events)

theorem recordsOf_append (number : Nat) (first second : List SaveEvent) :
    recordsOf number (first ++ second) =
      recordsOf number first ++ recordsOf number second := by
  rw [recordsOf, List.filterMap_append, itemsOf_append]
  rfl

theorem pushes_records (building : Building)
    (queue : List (PtrQueueNode InfoForStore)) (number : Nat) :
    (building.pushes queue number).filterMap pushedRecord =
      building.nextRecords.map fun mm => (number, mm) := by
  rw [Building.pushes, List.filterMap_map]
  exact congrFun List.filterMap_eq_map building.nextRecords

section Accounts

variable {b : Build} {config : CoderConfig}

theorem savePass_pushed (para : ParaStore)
    (queue : List (PtrQueueNode InfoForStore)) (s : SaveMedia) :
    (savePass b config para queue s).2.2.filterMap pushedRecord = [] := by
  cases queue with
  | nil =>
      obtain ⟨sType, calls, hpass⟩ := savePass_empty b config para s
      rw [hpass]
      simp [pushedRecord]
  | cons node rest =>
      rw [savePass_cons]
      rfl

/-- A step that pushes nothing and leaves the reports alone. -/
theorem Accounts.quiet {s s' : MediaSystem} {events now : List SaveEvent}
    (h : Accounts b s events)
    (hreports : s'.reporting.reports = s.reporting.reports)
    (hnow : now.filterMap pushedRecord = []) :
    Accounts b s' (events ++ now) := by
  have hsame : (events ++ now).filterMap pushedRecord =
      events.filterMap pushedRecord := by
    rw [List.filterMap_append, hnow, List.append_nil]
  constructor
  · rw [hsame, hreports]
    exact h.pushed
  · intro number building hbuilding
    rw [hreports] at hbuilding
    rw [recordsOf, hsame]
    exact h.reports number building hbuilding

theorem Accounts.start {s : MediaSystem} {events : List SaveEvent}
    (h : Accounts b s events) (config : CoderConfig)
    (type statusFlag : UInt8) (msgbuf : Mem UInt8) :
    let out := (mediaSystem b config).step s (.start type statusFlag msgbuf)
    Accounts b out.1 (events ++ out.2) := by
  intro out
  have hlength : out.1.reporting.reports.length =
      s.reporting.reports.length + 1 := List.length_append
  have hevents : events ++ out.2 = events := List.append_nil _
  rw [hevents]
  constructor
  · intro item hitem
    obtain ⟨hlt, hrecorded⟩ := h.pushed item hitem
    exact ⟨by omega, hrecorded⟩
  · intro number building hbuilding
    by_cases hnumber : number < s.reporting.reports.length
    · refine h.reports number building ?_
      rw [← hbuilding]
      exact (List.getElem?_append_left hnumber).symm
    · have hnew : [_][number - s.reporting.reports.length]? =
          some building :=
        (List.getElem?_append_right (Nat.le_of_not_lt hnumber)).symm.trans
          hbuilding
      obtain ⟨-, rfl⟩ := List.getElem?_eq_some_iff.mp hnew
      have hnone : recordsOf number events = [] :=
        itemsOf_eq_nil fun item hitem heq =>
          hnumber (heq ▸ (h.pushed item hitem).1)
      rw [hnone, List.getElem_singleton]
      exact .start b s.reporting.world type statusFlag msgbuf

theorem Accounts.proceed {s : MediaSystem} {events : List SaveEvent}
    (h : Accounts b s events) (config : CoderConfig) (number : Nat) :
    let out := (mediaSystem b config).step s (.proceed number)
    Accounts b out.1 (events ++ out.2) := by
  intro out
  cases hbuilding : s.reporting.reports[number]? with
  | none =>
      apply h.quiet
      · simp only [out, mediaSystem, reporting, hbuilding]
      · simp only [out, mediaSystem, hbuilding, List.filterMap_nil]
  | some building =>
      obtain ⟨hlt, -⟩ := List.getElem?_eq_some_iff.mp hbuilding
      obtain ⟨hnext, hrecorded⟩ :=
        (h.reports number building hbuilding).next s.reporting.world
      have hreports : out.1.reporting.reports =
          s.reporting.reports.set number
            (building.next ⟨b, .tcp⟩ s.reporting.world).2.1 := by
        simp only [out, mediaSystem, reporting, hbuilding]
      have hnow : out.2.filterMap pushedRecord =
          building.nextRecords.map fun mm => (number, mm) := by
        simp only [out, mediaSystem, hbuilding]
        exact pushes_records building s.queue number
      constructor
      · intro item hitem
        rw [hreports, List.length_set]
        rw [List.filterMap_append, hnow] at hitem
        rcases List.mem_append.mp hitem with hbefore | hitem
        · exact h.pushed item hbefore
        · obtain ⟨mm, hmm, rfl⟩ := List.mem_map.mp hitem
          exact ⟨hlt, hrecorded mm hmm⟩
      · intro other building' hother
        rw [hreports] at hother
        rw [recordsOf_append]
        have hrecords : recordsOf other out.2 =
            itemsOf other (building.nextRecords.map fun mm => (number, mm)) :=
          congrArg (itemsOf other) hnow
        rw [hrecords]
        by_cases hsame : number = other
        · subst hsame
          rw [List.getElem?_set_self hlt] at hother
          obtain rfl := Option.some.inj hother
          rw [itemsOf_own]
          exact hnext
        · rw [List.getElem?_set_ne hsame] at hother
          rw [itemsOf_other hsame, List.append_nil]
          exact h.reports other building' hother

theorem Accounts.step {s : MediaSystem} {events : List SaveEvent}
    (h : Accounts b s events) (config : CoderConfig) (i : MediaInput) :
    let out := (mediaSystem b config).step s i
    Accounts b out.1 (events ++ out.2) := by
  cases i with
  | start type statusFlag msgbuf => exact h.start config _ _ _
  | proceed number => exact h.proceed config number
  | others world => exact h.quiet rfl rfl
  | save =>
      exact h.quiet rfl
        (savePass_pushed s.reporting.world.para s.queue s.save)

theorem Accounts.run {s : MediaSystem} {events : List SaveEvent}
    (h : Accounts b s events) (config : CoderConfig)
    (inputs : List MediaInput) :
    Accounts b ((mediaSystem b config).final s inputs)
      (events ++ (mediaSystem b config).outputs s inputs) := by
  induction inputs generalizing s events with
  | nil =>
      rw [Mealy.outputs_nil, List.append_nil]
      exact h
  | cons i inputs ih =>
      rw [Mealy.final_cons, Mealy.outputs_cons, ← List.append_assoc]
      exact ih (h.step config i)

theorem mediaStarted_accounts (b : Build) (w : World)
    (dir : Option (List DirEntry)) : Accounts b (mediaStarted w dir) [] where
  pushed item hitem := absurd hitem List.not_mem_nil
  reports number building hbuilding :=
    absurd hbuilding (by simp [mediaStarted, reportingStarted])

end Accounts

/-! ## The users of the videos -/

/-- The program that owns a camera. -/
def Camera.program : Camera → Build
  | .adas => .adas
  | .dms => .dms

def Build.users (b : Build) : List String := b.videoUser ++ b.relatedUser

theorem isAlert_index {b : Build} {type : UInt8} (h : b.isAlert type = true) :
    b.alertTypeToIndex type < b.videoUser.length ∧
      b.alertTypeToIndex type < b.relatedUser.length := by
  cases b with
  | adas =>
      have hnot : type ≠ sbWarnTypeSnap := by
        rintro rfl
        exact absurd h (by decide)
      simp only [Build.alertTypeToIndex, adasAlertTypeToIndex, if_neg hnot]
      split_ifs <;> decide
  | dms =>
      have hnot : ¬ (type = dmsDriverChange ∨ type = dmsSanpshotEvent) := by
        rintro (rfl | rfl)
        · exact absurd h (by decide)
        · exact absurd h (by decide)
      simp only [Build.alertTypeToIndex, dmsAlertTypeToIndex, if_neg hnot]
      split_ifs <;> decide

theorem recordVideoMedia_call {user : Option String} {cameraDev : Camera}
    {mm : InfoForStore} {e : CaptureEffect}
    (h : e ∈ recordVideoMedia user cameraDev mm) :
    mm.videoEnable = true ∧ ∃ id seektime videotime,
      e = .recordWriteMp4 cameraDev user id seektime videotime := by
  unfold recordVideoMedia at h
  split_ifs at h with hvideo
  · cases h
  · exact ⟨by simpa using hvideo, _, _, _, List.mem_singleton.mp h⟩

/-- A call cuts a video out of the ring buffer of a user that the owner of the
camera has registered for this program alone. -/
def RightUser (b : Build) (camera : Camera) (user : Option String) : Prop :=
  ∃ name, user = some name ∧ (camera, name) ∈ camera.program.registered ∧
    name ∈ b.users ∧ name ∉ b.anotherCamera.program.users

theorem videoUser_right (b : Build) {k : Nat} (h : k < b.videoUser.length) :
    RightUser b b.camera b.videoUser[k]? := by
  have hall : ∀ name ∈ b.videoUser,
      (b.camera, name) ∈ b.camera.program.registered ∧
        name ∈ b.users ∧ name ∉ b.anotherCamera.program.users := by
    cases b <;> decide
  exact ⟨_, List.getElem?_eq_getElem h, hall _ (List.getElem_mem h)⟩

theorem relatedUser_right (b : Build) {k : Nat}
    (h : k < b.relatedUser.length) :
    RightUser b b.anotherCamera b.relatedUser[k]? := by
  have hall : ∀ name ∈ b.relatedUser,
      (b.anotherCamera, name) ∈ b.anotherCamera.program.registered ∧
        name ∈ b.users ∧ name ∉ b.anotherCamera.program.users := by
    cases b <;> decide
  exact ⟨_, List.getElem?_eq_getElem h, hall _ (List.getElem_mem h)⟩

theorem captureTask_users {b : Build} {mm : InfoForStore}
    (h : mm.Recorded b) {fuel : Nat} {reads : RingReads}
    {effects : List CaptureEffect}
    (hrun : (captureTask b mm).run fuel reads = some effects)
    {camera : Camera} {user : Option String} {id : UInt32}
    {seektime videotime : Int}
    (hcall : .recordWriteMp4 camera user id seektime videotime ∈ effects) :
    RightUser b camera user := by
  by_cases hown : mm.getAnotherCameraVideo = 0
  · simp only [captureTask, if_pos hown, CaptureTask.run] at hrun
    rcases recordMmInfo_videos hrun _ hcall with hphoto | hvideo
    · have hother : mmVideo ≠ mmPhoto := by decide
      exact absurd hphoto hother
    · obtain ⟨henable, _, _, _, hsame⟩ := recordVideoMedia_call hvideo
      cases hsame
      exact videoUser_right b (isAlert_index (h.filmed henable)).1
  · simp only [captureTask, if_neg hown, CaptureTask.run] at hrun
    obtain rfl := Option.some.inj hrun
    obtain ⟨henable, _, _, _, hsame⟩ := recordVideoMedia_call hcall
    cases hsame
    exact relatedUser_right b (isAlert_index (h.filmed henable)).2

/-! ## The records of a run -/

section Run

variable (b : Build) (config : CoderConfig) (w : World)
  (dir : Option (List DirEntry)) (inputs : List MediaInput)

theorem mem_pushedRecord {events : List SaveEvent} {mm : InfoForStore}
    (h : mm ∈ events.filterMap acceptedRecord) :
    ∃ number, (number, mm) ∈ events.filterMap pushedRecord := by
  obtain ⟨e, he, haccepted⟩ := List.mem_filterMap.mp h
  cases e with
  | pushed number mm' ret =>
      simp only [acceptedRecord] at haccepted
      split_ifs at haccepted
      obtain rfl := Option.some.inj haccepted
      exact ⟨number, List.mem_filterMap.mpr ⟨_, he, rfl⟩⟩
  | storeJpegs reader mm' => cases haccepted
  | addTask task => cases haccepted
  | encoder call => cases haccepted

theorem mediaRun_accounts :
    let start := mediaStarted w dir
    Accounts b ((mediaSystem b config).final start inputs)
      ((mediaSystem b config).outputs start inputs) := by
  have hrun := (mediaStarted_accounts b w dir).run config inputs
  rwa [List.nil_append] at hrun

/-- Whatever is reported, and in whatever order the threads run, each task cuts
its videos with a user that is registered for it. -/
theorem mp4_users (b : Build) (config : CoderConfig) (w : World)
    (dir : Option (List DirEntry)) (inputs : List MediaInput) :
    let events := (mediaSystem b config).outputs (mediaStarted w dir) inputs
    ∀ task ∈ events.filterMap addedTask, ∃ t, task = some t ∧
      ∀ fuel reads effects, t.run fuel reads = some effects →
        ∀ camera user id seektime videotime,
          .recordWriteMp4 camera user id seektime videotime ∈ effects →
            RightUser b camera user := by
  intro events task htask
  obtain ⟨captured, haccepted, hadded⟩ :=
    accepted_handedOver b config w dir inputs
  have hrecords := mediaRun_accounts b config w dir inputs
  rw [hadded] at htask
  obtain ⟨mm, hmm, rfl⟩ := List.mem_map.mp htask
  refine ⟨_, rfl, ?_⟩
  have hmem : mm ∈ events.filterMap acceptedRecord := by
    rw [haccepted]
    exact List.mem_append_left _ hmm
  obtain ⟨number, hpushed⟩ := mem_pushedRecord hmem
  intro fuel reads effects hrun camera user id seektime videotime hcall
  exact captureTask_users (hrecords.pushed _ hpushed).2 hrun hcall

/-! ## From the media list to the files -/

/-- The records that found the queue full. -/
def lostRecord : SaveEvent → Option InfoForStore
  | .pushed _ mm ret => if ret = 0 then none else some mm
  | _ => none

theorem pushed_perm (events : List SaveEvent) :
    ((events.filterMap pushedRecord).map Prod.snd).Perm
      (events.filterMap acceptedRecord ++ events.filterMap lostRecord) := by
  induction events with
  | nil => exact List.Perm.refl _
  | cons e events ih =>
      cases e with
      | storeJpegs reader mm => exact ih
      | addTask task => exact ih
      | encoder call => exact ih
      | pushed number mm ret =>
          by_cases hret : ret = 0
          · have haccepted : (SaveEvent.pushed number mm ret :: events).filterMap
                acceptedRecord = mm :: events.filterMap acceptedRecord := by
              simp [acceptedRecord, hret]
            have hlost : (SaveEvent.pushed number mm ret :: events).filterMap
                lostRecord = events.filterMap lostRecord := by
              simp [lostRecord, hret]
            rw [haccepted, hlost]
            exact ih.cons mm
          · have haccepted : (SaveEvent.pushed number mm ret :: events).filterMap
                acceptedRecord = events.filterMap acceptedRecord := by
              simp [acceptedRecord, hret]
            have hlost : (SaveEvent.pushed number mm ret :: events).filterMap
                lostRecord = mm :: events.filterMap lostRecord := by
              simp [lostRecord, hret]
            rw [haccepted, hlost]
            exact (ih.cons mm).trans List.perm_middle.symm

/-- The end of an ADAS event repeats what its beginning has announced. -/
def Building.announced (building : Building) : List (UInt8 × UInt32) :=
  if building.statusFlag = sbWarnStatusEnd then []
  else building.report.mediaList

theorem Stage.done {saved : List Phase} {mm : InfoForStore}
    {listed : List (UInt8 × UInt32)} (h : Stage saved [] mm listed) :
    listed = [] := by
  generalize hphases : [] = phases at h
  cases h with
  | behind => rfl
  | _ => cases hphases

variable {b} in
/-- A finished report announces the media of the records it has pushed. -/
theorem Account.announced {building : Building}
    {records : List InfoForStore} (h : Account b building records)
    (hdone : building.todo = [])
    (hend : building.statusFlag = sbWarnStatusEnd → b = .adas) :
    building.announced = records.flatMap InfoForStore.media := by
  unfold Building.announced
  split_ifs with hstatus
  · rw [(h.ended (hend hstatus) hstatus).1]
    rfl
  · obtain ⟨saved, listed, -, hstage, hlisting⟩ := h.progress
    obtain ⟨total, -, hentries⟩ := hlisting hstatus
    rw [hdone] at hstage
    rw [hstage.done, List.append_nil] at hentries
    exact hentries.lists.mediaList

/-- A task that is done has written these. -/
def Writes (task : Option CaptureTask) (effects : List CaptureEffect) : Prop :=
  ∃ t, task = some t ∧ ∃ fuel reads, t.run fuel reads = some effects

variable {b} in
theorem captureTask_writes {mm : InfoForStore} (h : mm.Recorded b)
    (hphotos : mm.photoEnable = true →
      mm.photoNum ≠ 0 ∧ mm.photoNum.toNat ≤ warnSnapNumMax)
    {effects : List CaptureEffect}
    (hwrites : Writes (some (captureTask b mm)) effects) :
    effects.map CaptureEffect.entry = mm.media := by
  obtain ⟨t, ht, fuel, reads, hrun⟩ := hwrites
  obtain rfl := Option.some.inj ht
  by_cases hown : mm.getAnotherCameraVideo = 0
  · simp only [captureTask, if_pos hown, CaptureTask.run] at hrun
    have hids : mm.PhotosNumbered := by
      intro henable
      obtain ⟨hsome, hfits⟩ := hphotos henable
      exact ⟨hsome, hfits, h.numbered henable⟩
    exact (recordMmInfo_done _ _ fuel reads hids hrun).1
  · simp only [captureTask, if_neg hown, CaptureTask.run] at hrun
    obtain rfl := Option.some.inj hrun
    rw [recordVideoMedia_entries,
      InfoForStore.media_noPhotos (h.another hown).2]
    rfl

variable {b} in
/-- What finished tasks have written, if each has written the media of its
record. -/
theorem written_entries {captured : List InfoForStore}
    {written : List (List CaptureEffect)}
    (hwritten : List.Forall₂ Writes
      (captured.map fun mm => some (captureTask b mm)) written)
    (hrecords : ∀ mm ∈ captured, ∀ effects,
      Writes (some (captureTask b mm)) effects →
        effects.map CaptureEffect.entry = mm.media) :
    written.flatten.map CaptureEffect.entry =
      captured.flatMap InfoForStore.media := by
  induction captured generalizing written with
  | nil =>
      cases hwritten
      rfl
  | cons mm captured ih =>
      cases hwritten with
      | cons hfirst hrest =>
          have hmm := hrecords mm List.mem_cons_self _ hfirst
          have hothers := ih hrest fun mm' hmm' =>
            hrecords mm' (List.mem_cons_of_mem mm hmm')
          rw [List.flatten_cons, List.map_append, List.flatMap_cons, hmm,
            hothers]

theorem announced_perm
    (hdone : ∀ building ∈ ((mediaSystem b config).final (mediaStarted w dir)
      inputs).reporting.reports, building.todo = [] ∧
        (building.statusFlag = sbWarnStatusEnd → b = .adas)) :
    let start := mediaStarted w dir
    let events := (mediaSystem b config).outputs start inputs
    (((mediaSystem b config).final start inputs).reporting.reports.flatMap
      Building.announced).Perm
        ((events.filterMap acceptedRecord ++
          events.filterMap lostRecord).flatMap InfoForStore.media) := by
  intro start events
  have haccounts := mediaRun_accounts b config w dir inputs
  have hreports : ∀ number building,
      ((mediaSystem b config).final start
        inputs).reporting.reports[number]? = some building →
        building.announced =
          (recordsOf number events).flatMap InfoForStore.media := by
    intro number building hbuilding
    obtain ⟨hfinished, hend⟩ :=
      hdone building (List.mem_of_getElem? hbuilding)
    exact (haccounts.reports number building hbuilding).announced hfinished
      hend
  have hitems : ∀ item ∈ events.filterMap pushedRecord, item.1 <
      ((mediaSystem b config).final start inputs).reporting.reports.length :=
    fun item hitem => (haccounts.pushed item hitem).1
  rw [flatMap_range hreports]
  have hall := (itemsOf_perm hitems).trans (pushed_perm events)
  have hmedia := hall.flatMap_right InfoForStore.media
  rw [List.flatMap_assoc] at hmedia
  exact hmedia

/-- In a run whose reports are finished, as are the tasks that were added,
everything that the reports announce has been written, will be written, or was
refused by a full queue, each once.  The records must have photos, and no more
than they can hold. -/
theorem announced_written
    (hdone : ∀ building ∈ ((mediaSystem b config).final (mediaStarted w dir)
      inputs).reporting.reports, building.todo = [] ∧
        (building.statusFlag = sbWarnStatusEnd → b = .adas))
    (hphotos : ∀ item ∈ ((mediaSystem b config).outputs (mediaStarted w dir)
      inputs).filterMap pushedRecord, item.2.photoEnable = true →
        item.2.photoNum ≠ 0 ∧ item.2.photoNum.toNat ≤ warnSnapNumMax)
    {written : List (List CaptureEffect)}
    (hwritten : List.Forall₂ Writes (((mediaSystem b config).outputs
      (mediaStarted w dir) inputs).filterMap addedTask) written) :
    let start := mediaStarted w dir
    let s := (mediaSystem b config).final start inputs
    let lost := ((mediaSystem b config).outputs start inputs).filterMap
      lostRecord
    (s.reporting.reports.flatMap Building.announced).Perm
      (written.flatten.map CaptureEffect.entry ++
        s.pending.flatMap InfoForStore.media ++
          lost.flatMap InfoForStore.media) := by
  intro start s lost
  obtain ⟨captured, haccepted, hadded⟩ :=
    accepted_handedOver b config w dir inputs
  have haccounts := mediaRun_accounts b config w dir inputs
  have hrecords : ∀ mm ∈ captured, ∀ effects,
      Writes (some (captureTask b mm)) effects →
        effects.map CaptureEffect.entry = mm.media := by
    intro mm hmm effects hwrites
    have hmem : mm ∈ ((mediaSystem b config).outputs start inputs).filterMap
        acceptedRecord := by
      rw [haccepted]
      exact List.mem_append_left _ hmm
    obtain ⟨number, hpushed⟩ := mem_pushedRecord hmem
    exact captureTask_writes (haccounts.pushed _ hpushed).2
      (hphotos _ hpushed) hwrites
  rw [hadded] at hwritten
  have hentries := written_entries hwritten hrecords
  rw [hentries, ← List.flatMap_append, ← List.flatMap_append, ← haccepted]
  exact announced_perm b config w dir inputs hdone

end Run

/-- A lane departure; the media thread pulls the first of its records. -/
def ldwInputs : List MediaInput :=
  [.start sbWarnTypeLdw sbWarnStatusNone fun _ => 0, .proceed 0, .proceed 0,
    .proceed 0, .save, .proceed 0, .proceed 0]

def ldwEvents : List SaveEvent :=
  (mediaSystem .adas plainCoders).outputs
    (mediaStarted (freshWorld adasTcp) none) ldwInputs

def ldwFinal : MediaSystem :=
  (mediaSystem .adas plainCoders).final
    (mediaStarted (freshWorld adasTcp) none) ldwInputs

theorem announced_written_ldw :
    ldwFinal.pending.length = 1 ∧
      (ldwFinal.reporting.reports.flatMap Building.announced).Perm
        ([(mmPhoto, 1), (mmPhoto, 2), (mmPhoto, 3), (mmVideo, 4)] ++
          ldwFinal.pending.flatMap InfoForStore.media ++
            (ldwEvents.filterMap lostRecord).flatMap InfoForStore.media) := by
  let mm : InfoForStore :=
    { emptyInfo sbWarnTypeLdw with
      photoEnable := true
      videoEnable := true
      videoTime := 5
      photoTimePeriod := 2
      photoNum := 3
      photoId := [1, 2, 3]
      videoId := 4 }
  let effects : List CaptureEffect :=
    [.writeFile 1 [0x55], .writeFile 2 [0x55], .writeFile 3 [0x55],
      .recordWriteMp4 .adas (some "adas_ldw_video") 4 (-5) 10]
  have hdone : ∀ building ∈ ldwFinal.reporting.reports, building.todo = [] ∧
      (building.statusFlag = sbWarnStatusEnd → Build.adas = .adas) := by
    decide +kernel
  have hphotos : ∀ item ∈ ldwEvents.filterMap pushedRecord,
      item.2.photoEnable = true → item.2.photoNum ≠ 0 ∧
        item.2.photoNum.toNat ≤ warnSnapNumMax := by
    decide +kernel
  have htasks : ldwEvents.filterMap addedTask =
      [some (captureTask .adas mm)] := by
    decide +kernel
  have hruns : (captureTask .adas mm).run 3 steadyRing = some effects := by
    decide +kernel
  have hwritten : List.Forall₂ Writes (ldwEvents.filterMap addedTask)
      [effects] := by
    rw [htasks]
    exact .cons ⟨_, rfl, 3, steadyRing, hruns⟩ .nil
  exact ⟨by decide +kernel, announced_written .adas plainCoders
    (freshWorld adasTcp) none ldwInputs hdone hphotos hwritten⟩

end SanbaoProt
