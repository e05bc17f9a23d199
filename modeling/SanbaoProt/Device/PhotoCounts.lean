import SanbaoProt.Device.ReportPhases

/-!
# The number of photos

The check of the ADAS parameters admits ten photos for an alert, but an alert
takes photos only if fewer than `warn_snap_num_max` are configured, which is
ten.  Below ten the list is the configured one, whatever the other threads do
while it is filled.
-/

namespace SanbaoProt

open Library

/-! ## What is configured -/

/-- The kinds of the media that are configured for an alert. -/
def MediaFields.configured (fields : MediaFields 50) (para : AdasPara) :
    List UInt8 :=
  List.replicate (para fields.photoNum).toNat mmPhoto ++
    if para fields.videoTime ≠ 0 then [mmVideo, mmVideo] else []

section

variable {type : UInt8} {fields : MediaFields 50}

theorem adasMediaFields_checked (hfields : adasMediaFields type = some fields) :
    .byte fields.photoNum 0 10 3 ∈ AdasPara.checks := by
  unfold adasMediaFields at hfields
  split_ifs at hfields
  all_goals
    obtain rfl := Option.some.inj hfields
    decide

/-- The check bounds the number of photos of an alert by ten. -/
theorem adasParaCheck_photoNum (hfields : adasMediaFields type = some fields)
    {para : AdasPara} (hcheck : adasParaCheck para = para) :
    (para fields.photoNum).toNat ≤ warnSnapNumMax := by
  have hholds := adasParaCheck_holds para _ (adasMediaFields_checked hfields)
  rw [hcheck] at hholds
  exact RangeCheck.value_le_bound hholds

theorem alertInfo_photoTypes (para : AdasPara) :
    Phase.photos.types (alertInfo para type fields) =
      if (para fields.photoNum).toNat < warnSnapNumMax then
        List.replicate (para fields.photoNum).toNat mmPhoto
      else [] := by
  have henable : (alertInfo para type fields).photoEnable = true ↔
      para fields.photoNum ≠ 0 ∧
        (para fields.photoNum).toNat < warnSnapNumMax := decide_eq_true_iff
  change (if (alertInfo para type fields).photoEnable then
    List.replicate (para fields.photoNum).toNat mmPhoto else []) = _
  by_cases hnone : para fields.photoNum = 0
  · rw [hnone]
    split_ifs <;> rfl
  · simp only [henable, hnone, ne_eq, not_false_eq_true, true_and]

theorem alertInfo_videoTypes (para : AdasPara) :
    Phase.video.types (alertInfo para type fields) =
      if para fields.videoTime ≠ 0 then [mmVideo] else [] := by
  have henable : (alertInfo para type fields).videoEnable = true ↔
      para fields.videoTime ≠ 0 := decide_eq_true_iff
  change (if (alertInfo para type fields).videoEnable then [mmVideo]
    else []) = _
  simp only [henable]

theorem adasAlertPhases (hfields : adasMediaFields type = some fields)
    {statusFlag : UInt8} (hend : statusFlag ≠ sbWarnStatusEnd) :
    ∃ saved, (saved = [] ∨ saved = [.saveBegin]) ∧
      Build.adas.phases type statusFlag = Phase.alert ++ saved := by
  simp only [Build.phases, if_neg hend, Build.mediaPhases, hfields,
    Option.isSome_some, if_true]
  refine ⟨_, ?_, rfl⟩
  split_ifs
  · exact .inr rfl
  · exact .inl rfl

theorem adasListedTypes (hfields : adasMediaFields type = some fields)
    {statusFlag : UInt8} (hend : statusFlag ≠ sbWarnStatusEnd)
    (para : ParaStore) :
    Build.adas.listedTypes type statusFlag para =
      (if (para.adas fields.photoNum).toNat < warnSnapNumMax then
        List.replicate (para.adas fields.photoNum).toNat mmPhoto
      else []) ++
        if para.adas fields.videoTime ≠ 0 then [mmVideo, mmVideo] else [] := by
  have hinfo : Build.adas.infoForStore type para =
      alertInfo para.adas type fields := by
    change getAdasInfoForStore type para.adas = _
    rw [getAdasInfoForStore, hfields]
  obtain ⟨saved, hsaved, hphases⟩ := adasAlertPhases hfields hend
  have hnone : ∀ mm : InfoForStore, saved.flatMap (Phase.types mm) = [] := by
    intro mm
    rcases hsaved with rfl | rfl
    · rfl
    · rfl
  rw [Build.listedTypes, hphases, hinfo, List.flatMap_append, hnone,
    List.append_nil]
  change Phase.photos.types _ ++ (Phase.video.types _ ++
    (Phase.video.types _ ++ [])) = _
  rw [alertInfo_photoTypes, alertInfo_videoTypes, List.append_nil]
  refine congrArg _ ?_
  split_ifs
  · rfl
  · rfl

end

/-! ## Which camera records a video -/

/-- The videos that are asked of the own camera (0) and of the other (1). -/
def filmed (effects : List Effect) : List (UInt8 × UInt32) :=
  effects.filterMap fun
    | .pushMm mm =>
        if mm.videoEnable then some (mm.getAnotherCameraVideo, mm.videoId)
        else none
    | _ => none

def videoIds (entries : List (UInt8 × UInt32)) : List UInt32 :=
  (entries.filter (·.1 = mmVideo)).map Prod.snd

/-- What a record asks of a camera. -/
def InfoForStore.films (mm : InfoForStore) (camera : UInt8) :
    List (UInt8 × UInt32) :=
  if mm.videoEnable then [(camera, mm.videoId)] else []

theorem filmed_append (first second : List Effect) :
    filmed (first ++ second) = filmed first ++ filmed second :=
  List.filterMap_append

theorem videoIds_append (first second : List (UInt8 × UInt32)) :
    videoIds (first ++ second) = videoIds first ++ videoIds second := by
  rw [videoIds, List.filter_append, List.map_append]
  rfl

theorem videoIds_photos (r : Report) :
    videoIds (Phase.photos.media r) = [] := by
  rw [← r.photos_media]
  unfold Report.photoEntries
  split_ifs
  · induction (withPhotos r.mm r.world.ids.mmId).1.photoId with
    | nil => rfl
    | cons id ids ih => exact ih
  · rfl

theorem videoIds_video (r : Report) :
    videoIds (Phase.video.media r) =
      if r.mm.videoEnable then [r.world.ids.mmId + 1] else [] := by
  rw [← r.video_media]
  split_ifs
  · rfl
  · rfl

theorem filmed_clearOldMediaFile (mm : InfoForStore) (w : World) :
    filmed (clearOldMediaFile mm w).2 = [] := by
  have hreplaced : ∀ id, filmed (removeReplaced id) = [] := by
    intro id
    unfold removeReplaced
    split_ifs
    · rfl
    · rfl
  have hphotos : ∀ ids : List UInt32,
      filmed (ids.flatMap removeReplaced) = [] ∧
        filmed (ids.map .remove) = [] := by
    intro ids
    induction ids with
    | nil => exact ⟨rfl, rfl⟩
    | cons id ids ih =>
        rw [List.flatMap_cons, filmed_append, hreplaced, ih.1]
        exact ⟨rfl, ih.2⟩
  obtain ⟨hold, hnew⟩ := hphotos mm.photoId
  unfold clearOldMediaFile
  rw [filmed_append]
  split_ifs
  · rw [filmed_append, filmed_append, hold, hnew, hreplaced]
    rfl
  · rw [filmed_append, hold, hnew]
    rfl
  · rw [filmed_append, hreplaced]
    rfl
  · rfl

namespace Report

theorem filmed_store {target : Target} (htcp : target.interface = .tcp)
    (another : UInt8) (r : Report) :
    filmed (r.store target another).effects =
      filmed r.effects ++ r.mm.films another := by
  let mm : InfoForStore := { r.mm with getAnotherCameraVideo := another }
  have hpushed : ∀ w, (pushMmQueue target mm w).2 = [.pushMm mm] := by
    intro w
    unfold pushMmQueue
    rw [htcp]
  have hstored : (r.store target another).effects =
      r.effects ++ ((clearOldMediaFile mm r.world).2 ++
        (pushMmQueue target mm (clearOldMediaFile mm r.world).1).2) := rfl
  rw [hstored, hpushed, filmed_append, filmed_append,
    filmed_clearOldMediaFile, List.nil_append]
  refine congrArg _ ?_
  unfold filmed InfoForStore.films
  by_cases hvideo : r.mm.videoEnable
  · rw [if_pos hvideo]
    exact List.filterMap_cons_some (if_pos hvideo)
  · rw [if_neg hvideo]
    exact List.filterMap_cons_none (if_neg hvideo)

theorem filmed_addPhotos (r : Report) :
    filmed r.addPhotos.effects = filmed r.effects := by
  unfold addPhotos
  split_ifs
  · exact (filmed_append _ _).trans (List.append_nil _)
  · rfl

theorem filmed_addVideo (r : Report) :
    filmed r.addVideo.effects = filmed r.effects := by
  unfold addVideo
  split_ifs
  · exact (filmed_append _ _).trans (List.append_nil _)
  · rfl

theorem films_addVideo (r : Report) (camera : UInt8) :
    r.addVideo.mm.films camera =
      if r.mm.videoEnable then [(camera, r.world.ids.mmId + 1)] else [] := by
  unfold addVideo InfoForStore.films
  split_ifs
  · rfl
  · rfl

end Report

theorem zip_cameras {ids : List UInt32} (h : ids.length < 2) (id : UInt32) :
    ([0, 1] : List UInt8).zip (ids ++ [id]) =
      [0, 1].zip ids ++ [(UInt8.ofNat ids.length, id)] := by
  match ids with
  | [] => rfl
  | [_] => rfl
  | _ :: _ :: _ => exact absurd h (by simp)

/-- The videos in the list of a report are those of the first cameras, and all
are recorded but the `pending` ones. -/
structure FilmedInOrder (r : Report) (ids : List UInt32) (videos : Nat)
    (pending : List (UInt8 × UInt32)) : Prop where
  films : filmed r.effects ++ pending = [0, 1].zip ids
  videos : ids.length = if r.mm.videoEnable then videos else 0

namespace FilmedInOrder

variable {r : Report} {ids : List UInt32} {videos : Nat}
  {pending : List (UInt8 × UInt32)}

/-- What the other threads make of the world does not matter. -/
theorem inWorld (h : FilmedInOrder r ids videos pending) (w : World) :
    FilmedInOrder { r with world := w } ids videos pending :=
  ⟨h.films, h.videos⟩

theorem addPhotos (h : FilmedInOrder r ids videos pending) :
    FilmedInOrder r.addPhotos ids videos pending := by
  refine ⟨?_, ?_⟩
  · rw [r.filmed_addPhotos]
    exact h.films
  · rw [r.addPhotos_videoEnable]
    exact h.videos

theorem addVideo (h : FilmedInOrder r ids videos []) (hvideos : videos < 2) :
    FilmedInOrder r.addVideo (ids ++ videoIds (Phase.video.media r))
      (videos + 1) (r.addVideo.mm.films (UInt8.ofNat videos)) := by
  have hfilms := h.films
  rw [List.append_nil] at hfilms
  rw [videoIds_video]
  refine ⟨?_, ?_⟩
  · rw [r.filmed_addVideo, r.films_addVideo, hfilms]
    split_ifs with hvideo
    · have hlength : ids.length = videos := by rw [h.videos, if_pos hvideo]
      rw [← hlength]
      exact (zip_cameras (by omega) _).symm
    · rw [List.append_nil, List.append_nil]
  · rw [r.addVideo_videoEnable, List.length_append, h.videos]
    split_ifs
    · rfl
    · rfl

theorem anotherVideo (h : FilmedInOrder r ids videos [])
    (hvideos : videos < 2) :
    FilmedInOrder r.anotherVideo
      (ids ++ videoIds (Phase.anotherVideo.media r)) (videos + 1)
      (r.anotherVideo.mm.films (UInt8.ofNat videos)) := by
  have hadded := h.addVideo hvideos
  have hmedia : Phase.anotherVideo.media r = Phase.video.media r := rfl
  rw [hmedia]
  unfold Report.anotherVideo
  split_ifs with hvideo
  · let own : Report := { r with mm := { r.mm with photoEnable := false } }
    have hown : FilmedInOrder own ids videos [] := ⟨h.films, h.videos⟩
    exact hown.addVideo hvideos
  · unfold Report.addVideo at hadded
    rw [if_neg hvideo] at hadded
    exact hadded

theorem store {target : Target} (htcp : target.interface = .tcp)
    {another : UInt8} (h : FilmedInOrder r ids videos (r.mm.films another)) :
    FilmedInOrder (r.store target another) ids videos [] := by
  refine ⟨?_, h.videos⟩
  rw [Report.filmed_store htcp, List.append_nil]
  exact h.films

/-- The other camera is asked for nothing if there is no video. -/
theorem storeAnother {target : Target} (htcp : target.interface = .tcp)
    (h : FilmedInOrder r ids videos (r.mm.films 1)) :
    FilmedInOrder (Phase.storeAnother.run target r) ids videos [] := by
  simp only [Phase.run]
  split_ifs with hvideo
  · exact h.store htcp
  · have hfilms : r.mm.films 1 = [] := if_neg hvideo
    rw [hfilms] at h
    exact h

end FilmedInOrder

/-- The camera that records each listed video, in each phase of an alert. -/
inductive Filming (saved : List Phase) (r : Report) (ids : List UInt32) :
    List Phase → Prop where
  | photos (h : FilmedInOrder r ids 0 []) :
      Filming saved r ids (Phase.alert ++ saved)
  | video (h : FilmedInOrder r ids 0 []) :
      Filming saved r ids
        (.video :: .store :: .anotherVideo :: .storeAnother :: saved)
  | store (h : FilmedInOrder r ids 1 (r.mm.films 0)) :
      Filming saved r ids (.store :: .anotherVideo :: .storeAnother :: saved)
  | anotherVideo (h : FilmedInOrder r ids 1 []) :
      Filming saved r ids (.anotherVideo :: .storeAnother :: saved)
  | storeAnother (h : FilmedInOrder r ids 2 (r.mm.films 1)) :
      Filming saved r ids (.storeAnother :: saved)
  | saveBegin (h : FilmedInOrder r ids 2 []) : Filming saved r ids saved
  | done (h : FilmedInOrder r ids 2 []) : Filming saved r ids []

theorem Filming.finish {saved : List Phase} {r : Report} {ids : List UInt32}
    (h : Filming saved r ids []) : FilmedInOrder r ids 2 [] := by
  cases h with
  | saveBegin h => exact h
  | done h => exact h

theorem Filming.next {target : Target} (htcp : target.interface = .tcp)
    {saved : List Phase} (hsaved : saved = [] ∨ saved = [.saveBegin])
    {b : Building} {entries : List (UInt8 × UInt32)}
    (h : Filming saved b.report (videoIds entries) b.todo) (w : World) :
    Filming saved (b.next target w).2.1.report
      (videoIds (entries ++ b.nextMedia w)) (b.next target w).2.1.todo := by
  obtain ⟨statusFlag, r, todo⟩ := b
  let found : Report := { r with world := w }
  rw [videoIds_append]
  have hnone : ∀ ids : List UInt32, ids ++ videoIds [] = ids :=
    List.append_nil
  cases h with
  | photos h =>
      change Filming saved found.addPhotos
        (videoIds entries ++ videoIds (Phase.photos.media found)) _
      rw [videoIds_photos, List.append_nil]
      exact .video (h.inWorld w).addPhotos
  | video h => exact .store ((h.inWorld w).addVideo (by decide))
  | store h =>
      have hstored : FilmedInOrder (found.store target 0) _ 1 [] :=
        (h.inWorld w).store htcp
      exact .anotherVideo (hnone _ ▸ hstored)
  | anotherVideo h =>
      exact .storeAnother ((h.inWorld w).anotherVideo (by decide))
  | storeAnother h =>
      have hstored : FilmedInOrder (Phase.storeAnother.run target found) _ 2
          [] := (h.inWorld w).storeAnother htcp
      exact .saveBegin (hnone _ ▸ hstored)
  | saveBegin h =>
      rcases hsaved with rfl | rfl
      · exact .done (hnone _ ▸ h)
      · have hfound : FilmedInOrder found.saveBegin (videoIds entries) 2 [] :=
          ⟨h.films, h.videos⟩
        exact .done (hnone _ ▸ hfound)
  | done h => exact .done (hnone _ ▸ h)

/-! ## What is listed -/

/-- The report lists what is configured.  `outputs` are the ids that were handed
out while it was built, from the counter `mmId` on. -/
structure Honoured (target : Target) (configured : List UInt8)
    (mmId : UInt32) (number : Nat) (outputs : List (Nat × UInt32))
    (r : Report) : Prop where
  list : r.mediaList.map Prod.fst = configured
  count : r.mmNum.toNat = configured.length
  consecutive : (∀ o ∈ outputs, o.1 = number) →
    r.mediaList.map Prod.snd = (getNextMmIds configured.length mmId).1
  cameras : target.interface = .tcp →
    filmed r.effects = [0, 1].zip (videoIds r.mediaList)

theorem idsOf_all {number : Nat} {outputs : List (Nat × UInt32)}
    (h : ∀ o ∈ outputs, o.1 = number) :
    idsOf number outputs = outputs.map Prod.snd := by
  rw [idsOf, List.filter_eq_self.mpr]
  intro o ho
  exact decide_eq_true (h o ho)

/-- On TCP the listed videos are asked of the cameras. -/
def AsksCameras (target : Target) (saved : List Phase) (b : Building)
    (entries : List (UInt8 × UInt32)) : Prop :=
  target.interface = .tcp →
    Filming saved b.report (videoIds entries) b.todo

theorem AsksCameras.kept (target : Target) {saved : List Phase}
    (hsaved : saved = [] ∨ saved = [.saveBegin]) (total : List UInt8) :
    KeptByNext target total (AsksCameras target saved) :=
  fun _ _ w _ h htcp => (h htcp).next htcp hsaved w

/-- A report that is done lists the media that its alert takes ids for. -/
theorem ListsIssued.honoured {target : Target} {saved : List Phase}
    {total : List UInt8} {number : Nat} {s s' : Reporting}
    {outputs : List (Nat × UInt32)}
    (h : ListsIssued total (AsksCameras target saved) number s' outputs)
    (hids : outputs.map Prod.snd =
      (getNextMmIds outputs.length s.world.ids.mmId).1)
    {b : Building} (hb : s'.reports[number]? = some b) (hdone : b.todo = []) :
    Honoured target total s.world.ids.mmId number outputs b.report := by
  obtain ⟨b', entries, hb', hlisting, hissued, hcameras⟩ := h
  obtain rfl := Option.some.inj (hb.symm.trans hb')
  have htypes : entries.map Prod.fst = total := by
    have hall := hlisting.types
    rw [hdone, List.flatMap_nil, List.append_nil] at hall
    exact hall
  have hlength : entries.length = total.length := by
    rw [← htypes, List.length_map]
  refine ⟨?_, ?_, fun halone => ?_, fun htcp => ?_⟩
  · rw [hlisting.lists.mediaList, htypes]
  · rw [hlisting.lists.count, hlength]
  · rw [idsOf_all halone] at hissued
    have hcount : outputs.length = total.length := by
      rw [← hlength, ← List.length_map (f := Prod.snd), ← hissued,
        List.length_map]
    rw [hlisting.lists.mediaList, hissued, hids, hcount]
  · rw [hlisting.lists.mediaList]
    have hfilming := hcameras htcp
    rw [hdone] at hfilming
    have hfilms := hfilming.finish.films
    rw [List.append_nil] at hfilms
    exact hfilms

/-- An alert lists what is configured exactly unless ten photos are
configured. -/
theorem photosHonoured_iff (i : Interface) {type : UInt8}
    {fields : MediaFields 50} (hfields : adasMediaFields type = some fields)
    {statusFlag : UInt8}
    (hstatus : statusFlag = sbWarnStatusNone ∨ statusFlag = sbWarnStatusBegin)
    (s : Reporting)
    (hcheck : adasParaCheck s.world.para.adas = s.world.para.adas)
    (msgbuf : Mem UInt8) {during : List ReportInput} {b : Building}
    (hb : ((reporting (adasTarget i)).final s
      (.start type statusFlag msgbuf :: during)).reports[s.reports.length]? =
        some b)
    (hdone : b.todo = []) :
    Honoured (adasTarget i) (fields.configured s.world.para.adas)
        s.world.ids.mmId s.reports.length
        ((reporting (adasTarget i)).outputs s
          (.start type statusFlag msgbuf :: during)) b.report ↔
      s.world.para.adas fields.photoNum ≠ 10 := by
  have hend : statusFlag ≠ sbWarnStatusEnd := by
    rcases hstatus with rfl | rfl
    · decide
    · decide
  have htypes := adasListedTypes hfields hend s.world.para
  have hle := adasParaCheck_photoNum hfields hcheck
  obtain ⟨saved, hsaved, hphases⟩ := adasAlertPhases hfields hend
  have hasks : AsksCameras (adasTarget i) saved
      ⟨statusFlag, fillReport s.world
        (Build.adas.infoForStore type s.world.para) type statusFlag msgbuf,
        Build.adas.phases type statusFlag⟩ [] := by
    intro _
    rw [hphases]
    exact .photos ⟨rfl, (ite_self 0).symm⟩
  have hstart : ListsIssued
      (Build.adas.listedTypes type statusFlag s.world.para)
      (AsksCameras (adasTarget i) saved) s.reports.length
      ((reporting (adasTarget i)).step s (.start type statusFlag msgbuf)).1
      [] := .start (adasTarget i) s hend msgbuf
    (fun _ ho => absurd ho List.not_mem_nil) hasks
  have hissued := hstart.run
    (Build.adas.length_listedTypes type hend s.world.para)
    (.kept (adasTarget i) hsaved _) during
  have hlisted := hissued.honoured
    (reportingRun_ids (adasTarget i) s
      (.start type statusFlag msgbuf :: during)).1 hb hdone
  constructor
  · intro hhonoured hten
    have hsame := hhonoured.list.symm.trans hlisted.list
    rw [htypes, MediaFields.configured, hten, List.append_left_inj] at hsame
    exact absurd hsame (by decide)
  · intro hne
    have hlt : (s.world.para.adas fields.photoNum).toNat <
        warnSnapNumMax := by
      refine Nat.lt_of_le_of_ne hle fun hten => hne ?_
      exact UInt8.toNat_inj.mp hten
    rw [if_pos hlt] at htypes
    rw [htypes] at hlisted
    exact hlisted

/-- The default parameters, except for the photos of a lane departure. -/
def ldwPhotos (num : UInt8) : Reporting where
  world :=
    { World.zero with
      para :=
        ⟨Function.update AdasPara.defaults AdasPara.ldwPhotoNum num,
          DmsPara.defaults⟩ }
  reports := []

/-- A lane departure begins and its report is filled. -/
def ldwBegins : List ReportInput :=
  .start sbWarnTypeLdw sbWarnStatusBegin (fun _ => 0) ::
    List.replicate 6 (.proceed 0)

theorem photosHonoured_iff_nine :
    let s := ldwPhotos 9
    let built := buildAdasWarnFrame adasTcp s.world sbWarnTypeLdw
      sbWarnStatusBegin fun _ => 0
    let outputs := (reporting adasTcp).outputs s ldwBegins
    Honoured adasTcp (List.replicate 9 mmPhoto ++ [mmVideo, mmVideo]) 0 0
        outputs built ∧
      built.mediaList.map Prod.snd = [1, 2, 3, 4, 5, 6, 7, 8, 9, 10, 11] := by
  intro s built outputs
  have hcheck : adasParaCheck s.world.para.adas = s.world.para.adas := by
    decide +kernel
  have hb : ((reporting adasTcp).final s ldwBegins).reports[0]? =
      some ⟨sbWarnStatusBegin, built, []⟩ := by
    have halone := reporting_alone adasTcp s sbWarnTypeLdw sbWarnStatusBegin
      fun _ => 0
    exact congrArg (fun r => r.reports[0]?) halone
  have hfields : adasMediaFields sbWarnTypeLdw = some _ := rfl
  have hhonoured := (photosHonoured_iff .tcp hfields (.inr rfl) s hcheck
    (fun _ => 0) hb rfl).mpr (by decide)
  exact ⟨hhonoured, by decide +kernel⟩

/-- The check admits ten photos, and none is listed. -/
theorem ldwPhotos_ten :
    let s := ldwPhotos 10
    let built := buildAdasWarnFrame adasTcp s.world sbWarnTypeLdw
      sbWarnStatusBegin fun _ => 0
    let outputs := (reporting adasTcp).outputs s ldwBegins
    adasParaCheck s.world.para.adas = s.world.para.adas ∧
      built.mediaList.map Prod.fst = [mmVideo, mmVideo] ∧
      ¬ Honoured adasTcp (List.replicate 10 mmPhoto ++ [mmVideo, mmVideo]) 0 0
        outputs built := by
  intro s built outputs
  have hlist : built.mediaList.map Prod.fst = [mmVideo, mmVideo] := by
    decide +kernel
  refine ⟨by decide +kernel, hlist, fun hhonoured => ?_⟩
  have hsame := hhonoured.list.symm.trans hlist
  exact absurd hsame (by decide)

end SanbaoProt
