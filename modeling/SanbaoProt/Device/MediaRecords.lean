import SanbaoProt.Device.DmsReport

/-!
# What a report has stored

A report with media hands records to the camera thread: one with the photos and
the video of an alert, a second one for the video of the other camera, or one
with the photos of a snapshot.  `storedRecords` are these records, from the
parameters and the media counter alone; the builders list, remove and queue
exactly what the records say.
-/

namespace SanbaoProt

open Library

/-! ## Records -/

/-- The media that a record has captured, as a report lists them. -/
def InfoForStore.media (mm : InfoForStore) : List (UInt8 × UInt32) :=
  (if mm.photoEnable then mm.photoId.map fun id => (mmPhoto, id) else []) ++
    if mm.videoEnable then [(mmVideo, mm.videoId)] else []

def withPhotos (mm : InfoForStore) (sMmId : UInt32) : InfoForStore × UInt32 :=
  if mm.photoEnable then
    ({ mm with photoId := (getNextMmIds mm.photoNum.toNat sMmId).1 },
      (getNextMmIds mm.photoNum.toNat sMmId).2)
  else (mm, sMmId)

def withVideo (mm : InfoForStore) (sMmId : UInt32) : InfoForStore × UInt32 :=
  if mm.videoEnable then ({ mm with videoId := sMmId + 1 }, sMmId + 1)
  else (mm, sMmId)

/-- The record of the own camera, and the counter after it. -/
def ownRecord (mm : InfoForStore) (sMmId : UInt32) : InfoForStore × UInt32 :=
  let photos := withPhotos mm sMmId
  let video := withVideo photos.1 photos.2
  ({ video.1 with getAnotherCameraVideo := 0 }, video.2)

/-- The records of an alert, and the counter after them. -/
def alertRecords (mm : InfoForStore) (sMmId : UInt32) :
    List InfoForStore × UInt32 :=
  let own := ownRecord mm sMmId
  if own.1.videoEnable then
    ([own.1,
      { own.1 with
        photoEnable := false
        videoId := own.2 + 1
        getAnotherCameraVideo := 1 }], own.2 + 1)
  else ([own.1], own.2)

def snapRecords (mm : InfoForStore) (sMmId : UInt32) :
    List InfoForStore × UInt32 :=
  if mm.photoEnable then
    ([{ (withPhotos mm sMmId).1 with getAnotherCameraVideo := 0 }],
      (withPhotos mm sMmId).2)
  else ([], sMmId)

def pushRecords (queue : List (PtrQueueNode InfoForStore))
    (records : List InfoForStore) : List (PtrQueueNode InfoForStore) :=
  records.foldl (fun queue mm => (ptrQueuePush queue ⟨mm, none⟩).2) queue

theorem pushRecords_concat (queue : List (PtrQueueNode InfoForStore))
    (records : List InfoForStore) (mm : InfoForStore) :
    pushRecords queue (records ++ [mm]) =
      (ptrQueuePush (pushRecords queue records) ⟨mm, none⟩).2 := by
  simp [pushRecords]

/-- How many ids the media of a record have been asked for, one request
each. -/
def InfoForStore.photoAsks (mm : InfoForStore) : List Nat :=
  if mm.photoEnable then [mm.photoNum.toNat] else []

def InfoForStore.videoAsks (mm : InfoForStore) : List Nat :=
  if mm.videoEnable then [1] else []

def InfoForStore.asks (mm : InfoForStore) : List Nat :=
  mm.photoAsks ++ mm.videoAsks

theorem withPhotos_asks (mm : InfoForStore) (sMmId : UInt32) :
    (withPhotos mm sMmId).1.photoAsks = mm.photoAsks ∧
      (withPhotos mm sMmId).1.videoAsks = mm.videoAsks := by
  unfold withPhotos
  split_ifs <;> exact ⟨rfl, rfl⟩

theorem withVideo_asks (mm : InfoForStore) (sMmId : UInt32) :
    (withVideo mm sMmId).1.asks = mm.asks := by
  unfold withVideo
  split_ifs <;> rfl

/-- What storing a record does: its ids are asked for, the files that are in
its way removed, the record queued. -/
def InfoForStore.stored (target : Target) (mm : InfoForStore) : List Effect :=
  mm.asks.map .mmIds ++
    (clearOldMediaFile mm World.zero).2 ++ (pushMmQueue target mm World.zero).2

/-! ## The media list of a report -/

/-- The first `num` entries behind the head of a report. -/
def mediaEntries (msgbuf : Mem UInt8) (num : Nat) : List (UInt8 × UInt32) :=
  (List.range num).map fun i =>
    (msgbuf (warnFrameSize + 5 * i),
      UInt32.ofNat (ofBE (msgbuf.read (warnFrameSize + 5 * i + 1) 4)))

def Report.mediaList (r : Report) : List (UInt8 × UInt32) :=
  mediaEntries r.msgbuf r.mmNum.toNat

theorem mediaEntries_succ (msgbuf : Mem UInt8) (num : Nat) :
    mediaEntries msgbuf (num + 1) =
      mediaEntries msgbuf num ++ [(msgbuf (warnFrameSize + 5 * num),
        UInt32.ofNat
          (ofBE (msgbuf.read (warnFrameSize + 5 * num + 1) 4)))] := by
  simp [mediaEntries, List.range_succ]

theorem mediaEntries_congr {m m' : Mem UInt8} {num : Nat}
    (h : ∀ j, warnFrameSize ≤ j → j < warnFrameSize + 5 * num → m j = m' j) :
    mediaEntries m num = mediaEntries m' num := by
  refine List.map_congr_left fun i hi => ?_
  have hi' := List.mem_range.mp hi
  have hid := Mem.read_congr fun j
    (hlow : warnFrameSize + 5 * i + 1 ≤ j)
    (hhigh : j < warnFrameSize + 5 * i + 1 + 4) =>
      h j (by omega) (by omega)
  rw [hid, h _ (by omega) (by omega)]

theorem mediaEntries_putMedia (m : Mem UInt8) (i : Nat) (type : UInt8)
    (id : UInt32) :
    mediaEntries (putMedia m i type id) (i + 1) =
      mediaEntries m i ++ [(type, id)] := by
  have hbefore : mediaEntries (putMedia m i type id) i = mediaEntries m i := by
    refine mediaEntries_congr fun j hlow hhigh => ?_
    simp only [warnFrameSize] at hlow hhigh
    rw [putMedia, Mem.copy_of_lt _ _ (by simp only [warnFrameSize]; omega),
      Mem.store_of_ne _ _ (by simp only [warnFrameSize]; omega),
      Mem.store_of_ne _ _ (by simp only [mmNumOffset]; omega)]
  have hid : (putMedia m i type id).read (warnFrameSize + 5 * i + 1) 4 =
      toBE 4 id.toNat := by
    have hcopy := ((m.store mmNumOffset (m mmNumOffset + 1)).store
      (warnFrameSize + 5 * i) type).read_copy (warnFrameSize + 5 * i + 1)
      (toBE 4 id.toNat)
    rwa [length_toBE] at hcopy
  have htype : putMedia m i type id (warnFrameSize + 5 * i) = type := by
    rw [putMedia, Mem.copy_of_lt _ _ (by omega), Mem.store_self]
  rw [mediaEntries_succ, hbefore, hid, htype, ofBE_toBE id.toNat_lt]
  simp

theorem mediaEntries_putPhotos (m : Mem UInt8) (i : Nat) (ids : List UInt32) :
    mediaEntries (putPhotos m i ids) (i + ids.length) =
      mediaEntries m i ++ ids.map fun id => (mmPhoto, id) := by
  induction ids generalizing m i with
  | nil => simp [putPhotos]
  | cons id ids ih =>
      have hstep := ih (putMedia m i mmPhoto id) (i + 1)
      rw [mediaEntries_putMedia] at hstep
      rw [putPhotos, List.length_cons, Nat.add_comm ids.length, ← Nat.add_assoc,
        hstep]
      simp

namespace Report

/-- The entries listed so far. -/
structure Lists (r : Report) (entries : List (UInt8 × UInt32)) : Prop where
  count : r.mmNum.toNat = entries.length
  index : r.i = entries.length
  cells : mediaEntries r.msgbuf entries.length = entries

theorem Lists.mediaList {r : Report} {entries : List (UInt8 × UInt32)}
    (h : r.Lists entries) : r.mediaList = entries := by
  rw [Report.mediaList, h.count, h.cells]

/-- The photos of a record, listed. -/
def photoEntries (mm : InfoForStore) : List (UInt8 × UInt32) :=
  if mm.photoEnable then mm.photoId.map fun id => (mmPhoto, id) else []

theorem addPhotos_spec {r : Report} (h : r.Lists []) :
    r.addPhotos.Lists
        (photoEntries (withPhotos r.mm r.world.ids.mmId).1) ∧
      r.addPhotos.mm = (withPhotos r.mm r.world.ids.mmId).1 ∧
      r.addPhotos.world.ids.mmId = (withPhotos r.mm r.world.ids.mmId).2 ∧
      r.addPhotos.world.imageQueue = r.world.imageQueue ∧
      r.addPhotos.effects = r.effects ++ r.mm.photoAsks.map .mmIds := by
  have hnum : r.msgbuf mmNumOffset = 0 := UInt8.toNat_inj.mp h.count
  unfold addPhotos withPhotos photoEntries InfoForStore.photoAsks
  split_ifs with henable
  · have hlength := length_getNextMmIds r.mm.photoNum.toNat r.world.ids.mmId
    refine ⟨⟨?_, ?_, ?_⟩, rfl, rfl, rfl, rfl⟩
    · simp [mmNum, putPhotos_mmNum, hnum]
    · simp
    · have hput := mediaEntries_putPhotos r.msgbuf 0
        (getNextMmIds r.mm.photoNum.toNat r.world.ids.mmId).1
      simpa [henable, mediaEntries] using hput
  · exact ⟨h, rfl, rfl, rfl, (List.append_nil _).symm⟩

theorem addVideo_spec {r : Report} {entries : List (UInt8 × UInt32)}
    (h : r.Lists entries) (hroom : entries.length < 255) :
    r.addVideo.Lists (entries ++ if r.mm.videoEnable then
        [(mmVideo, r.world.ids.mmId + 1)] else []) ∧
      r.addVideo.mm = (withVideo r.mm r.world.ids.mmId).1 ∧
      r.addVideo.world.ids.mmId = (withVideo r.mm r.world.ids.mmId).2 ∧
      r.addVideo.world.imageQueue = r.world.imageQueue ∧
      r.addVideo.effects = r.effects ++ r.mm.videoAsks.map .mmIds := by
  unfold addVideo withVideo InfoForStore.videoAsks
  split_ifs with henable
  · refine ⟨⟨?_, ?_, ?_⟩, rfl, rfl, rfl, rfl⟩
    · have hcount : (r.msgbuf mmNumOffset).toNat = entries.length := h.count
      simp only [mmNum, putMedia_mmNum, UInt8.toNat_add, hcount,
        List.length_append, List.length_singleton]
      exact Nat.mod_eq_of_lt (Nat.add_lt_add_right hroom 1)
    · simp [h.index]
    · rw [List.length_append, List.length_singleton, h.index,
        mediaEntries_putMedia, h.cells]
  · rw [List.append_nil]
    exact ⟨h, rfl, rfl, rfl, (List.append_nil _).symm⟩

/-- The records are stored, starting from the queue of `w`, and the report
lists their media. -/
structure HasStored (target : Target) (w : World) (records : List InfoForStore)
    (r : Report) : Prop where
  lists : r.Lists (records.flatMap InfoForStore.media)
  queue : target.interface = .tcp →
    r.world.imageQueue = pushRecords w.imageQueue records
  effects : r.effects = records.flatMap (InfoForStore.stored target)

theorem store_ids (target : Target) (another : UInt8) (r : Report) :
    (store target another r).world.ids = r.world.ids := by
  unfold store act pushMmQueue
  cases target.interface <;> rfl

theorem store_spec {target : Target} {w : World}
    {records : List InfoForStore} {r : Report} (another : UInt8)
    (hlists : r.Lists (records.flatMap InfoForStore.media ++ r.mm.media))
    (hqueue : target.interface = .tcp →
      r.world.imageQueue = pushRecords w.imageQueue records)
    (heffects : r.effects = records.flatMap (InfoForStore.stored target) ++
      r.mm.asks.map .mmIds) :
    (store target another r).HasStored target w
      (records ++ [{ r.mm with getAnotherCameraVideo := another }]) := by
  let mm : InfoForStore := { r.mm with getAnotherCameraVideo := another }
  have hmedia : mm.media = r.mm.media := rfl
  constructor
  · rw [List.flatMap_append, List.flatMap_singleton]
    change (store target another r).Lists
      (records.flatMap InfoForStore.media ++ mm.media)
    rw [hmedia]
    exact ⟨hlists.count, hlists.index, hlists.cells⟩
  · intro htcp
    rw [pushRecords_concat, ← hqueue htcp]
    simp only [store, act, Act.andThen_fst, pushMmQueue, htcp]
    rfl
  · have hpush : ∀ w', (pushMmQueue target mm w').2 =
        (pushMmQueue target mm World.zero).2 := by
      intro w'
      unfold pushMmQueue
      cases target.interface <;> rfl
    have hstored : mm.stored target =
        r.mm.asks.map .mmIds ++
          ((clearOldMediaFile mm r.world).2 ++
            (pushMmQueue target mm World.zero).2) :=
      List.append_assoc _ _ _
    rw [List.flatMap_append, List.flatMap_singleton]
    change r.effects ++ ((clearOldMediaFile mm r.world).2 ++
      (pushMmQueue target mm _).2) = _ ++ mm.stored target
    rw [hpush, heffects, hstored, List.append_assoc]

theorem withVideo_media (mm : InfoForStore) (sMmId : UInt32) :
    (withVideo mm sMmId).1.media =
      photoEntries mm ++
        if mm.videoEnable then [(mmVideo, sMmId + 1)] else [] := by
  unfold withVideo InfoForStore.media photoEntries
  by_cases hvideo : mm.videoEnable <;> simp [hvideo]

theorem withPhotos_media {mm : InfoForStore} (sMmId : UInt32)
    (hvideo : mm.videoEnable = false) :
    (withPhotos mm sMmId).1.media = photoEntries (withPhotos mm sMmId).1 := by
  unfold withPhotos InfoForStore.media photoEntries
  by_cases hphoto : mm.photoEnable <;> simp [hphoto, hvideo]

theorem length_photoEntries {mm : InfoForStore} (sMmId : UInt32)
    (hphotos : mm.photoEnable = true → mm.photoNum.toNat < warnSnapNumMax) :
    (photoEntries (withPhotos mm sMmId).1).length < warnSnapNumMax := by
  unfold withPhotos photoEntries
  split_ifs with henable
  · rw [List.length_map, length_getNextMmIds]
    exact hphotos henable
  · decide

/-- A report that lists nothing yet and has done nothing yet. -/
structure Fresh (w : World) (r : Report) : Prop where
  lists : r.Lists []
  mmId : r.world.ids.mmId = w.ids.mmId
  queue : r.world.imageQueue = w.imageQueue
  effects : r.effects = []

theorem length_ownMedia {mm : InfoForStore} (sMmId : UInt32)
    (hphotos : mm.photoEnable = true → mm.photoNum.toNat < warnSnapNumMax) :
    (ownRecord mm sMmId).1.media.length ≤ warnSnapNumMax := by
  have hphoto := length_photoEntries sMmId hphotos
  change (withVideo _ _).1.media.length ≤ _
  rw [withVideo_media, List.length_append]
  split_ifs
  · exact hphoto
  · exact Nat.le_of_lt hphoto

theorem ownMedia_spec {w : World} {r : Report} (h : r.Fresh w)
    (hphotos : r.mm.photoEnable = true →
      r.mm.photoNum.toNat < warnSnapNumMax) :
    let own := r.addPhotos.addVideo
    own.Lists (ownRecord r.mm w.ids.mmId).1.media ∧
      { own.mm with getAnotherCameraVideo := 0 } =
        (ownRecord r.mm w.ids.mmId).1 ∧
      own.world.ids.mmId = (ownRecord r.mm w.ids.mmId).2 ∧
      own.world.imageQueue = w.imageQueue ∧
      own.effects = own.mm.asks.map .mmIds := by
  obtain ⟨hlists, hmm, hmmId, hqueue, heffects⟩ := addPhotos_spec h.lists
  rw [h.mmId] at hlists hmm hmmId
  have hphoto := length_photoEntries w.ids.mmId hphotos
  simp only [warnSnapNumMax] at hphoto
  obtain ⟨hlists', hmm', hmmId', hqueue', heffects'⟩ :=
    addVideo_spec hlists (by omega)
  rw [hmm, hmmId] at hlists' hmm' hmmId'
  obtain ⟨hphotoAsks, hvideoAsks⟩ := withPhotos_asks r.mm w.ids.mmId
  refine ⟨?_, ?_, hmmId', ?_, ?_⟩
  · change Lists _ (withVideo _ _).1.media
    rw [withVideo_media]
    exact hlists'
  · rw [hmm']
    rfl
  · rw [hqueue', hqueue, h.queue]
  · rw [heffects', heffects, h.effects, hmm', withVideo_asks, hmm,
      InfoForStore.asks, hphotoAsks, hvideoAsks, List.map_append]
    rfl

/-- The record of the own camera is stored in both kinds of alerts. -/
theorem ownStored_spec {w : World} {r : Report} (h : r.Fresh w)
    (target : Target)
    (hphotos : r.mm.photoEnable = true →
      r.mm.photoNum.toNat < warnSnapNumMax) :
    let own := store target 0 r.addPhotos.addVideo
    own.mm = (ownRecord r.mm w.ids.mmId).1 ∧
      own.world.ids.mmId = (ownRecord r.mm w.ids.mmId).2 ∧
      own.HasStored target w [own.mm] := by
  intro own
  obtain ⟨hlists, hmm, hmmId, hqueue, heffects⟩ := ownMedia_spec h hphotos
  refine ⟨hmm, ?_, ?_⟩
  · rw [← hmmId]
    exact congrArg NextIds.mmId (store_ids target 0 _)
  · have hmedia : r.addPhotos.addVideo.mm.media =
        (ownRecord r.mm w.ids.mmId).1.media := by
      rw [← hmm]
      rfl
    have hstore : own.HasStored target w ([] ++
        [{ r.addPhotos.addVideo.mm with getAnotherCameraVideo := 0 }]) :=
      store_spec 0 (by rwa [hmedia]) (fun _ => hqueue) heffects
    exact hstore

/-- The video of the other camera, after the record of the own one. -/
theorem otherStored_spec {target : Target} {w : World} {own : Report}
    (hown : own.HasStored target w [own.mm])
    (hlength : own.mm.media.length < 255)
    (hfilm : own.mm.videoEnable = true) :
    let video : Report :=
      { own with mm := { own.mm with photoEnable := false } }
    let other := store target 1 video.addVideo
    other.HasStored target w
        [own.mm,
          { own.mm with
            photoEnable := false
            videoId := own.world.ids.mmId + 1
            getAnotherCameraVideo := 1 }] ∧
      other.world.ids.mmId = own.world.ids.mmId + 1 := by
  intro video other
  have hlisted : video.Lists own.mm.media := by
    have hentries := hown.lists
    rw [List.flatMap_singleton] at hentries
    exact ⟨hentries.count, hentries.index, hentries.cells⟩
  have hfilm' : video.mm.videoEnable = true := hfilm
  obtain ⟨hlists, hmm, hmmId, hqueue, heffects⟩ :=
    addVideo_spec hlisted hlength
  rw [withVideo, if_pos hfilm'] at hmm hmmId
  rw [if_pos hfilm'] at hlists
  have hmedia : video.addVideo.mm.media =
      [(mmVideo, own.world.ids.mmId + 1)] := by
    rw [hmm]
    simp [InfoForStore.media, video, hfilm]
  constructor
  · have hstore : other.HasStored target w ([own.mm] ++
        [{ video.addVideo.mm with getAnotherCameraVideo := 1 }]) := by
      apply store_spec
      · rwa [hmedia, List.flatMap_singleton]
      · intro htcp
        rw [hqueue]
        exact hown.queue htcp
      · rw [heffects, hmm]
        exact congrArg (· ++ video.mm.videoAsks.map .mmIds) hown.effects
    rwa [hmm] at hstore
  · have hids := congrArg NextIds.mmId (store_ids target 1 video.addVideo)
    exact hids.trans hmmId

theorem alertMedia_spec {w : World} {r : Report} (h : r.Fresh w)
    (target : Target)
    (hphotos : r.mm.photoEnable = true →
      r.mm.photoNum.toNat < warnSnapNumMax) :
    (r.alertMedia target).HasStored target w
        (alertRecords r.mm w.ids.mmId).1 ∧
      (r.alertMedia target).world.ids.mmId =
        (alertRecords r.mm w.ids.mmId).2 := by
  obtain ⟨hrecord, hnext, hown⟩ := ownStored_spec h target hphotos
  have hlength := length_ownMedia w.ids.mmId hphotos
  simp only [warnSnapNumMax] at hlength
  unfold alertMedia alertRecords
  simp only
  rw [← hrecord] at hlength ⊢
  rw [← hnext]
  split_ifs with hfilm
  · exact otherStored_spec hown (by omega) hfilm
  · exact ⟨hown, rfl⟩

theorem Fresh.hasStored {w : World} {r : Report} (h : r.Fresh w)
    (target : Target) : r.HasStored target w [] :=
  ⟨h.lists, fun _ => h.queue, h.effects⟩

theorem snapMedia_spec {w : World} {r : Report} (h : r.Fresh w)
    (target : Target) (hvideo : r.mm.videoEnable = false) :
    (r.snapMedia target).HasStored target w
        (snapRecords r.mm w.ids.mmId).1 ∧
      (r.snapMedia target).world.ids.mmId =
        (snapRecords r.mm w.ids.mmId).2 := by
  unfold snapMedia snapRecords
  split_ifs
  · obtain ⟨hlists, hmm, hmmId, hqueue, heffects⟩ := addPhotos_spec h.lists
    rw [h.mmId] at hlists hmm hmmId
    obtain ⟨hphotoAsks, hvideoAsks⟩ := withPhotos_asks r.mm w.ids.mmId
    have hnone : r.mm.videoAsks = [] := by
      simp [InfoForStore.videoAsks, hvideo]
    rw [← hmm, ← hmmId]
    constructor
    · have hmedia : r.addPhotos.mm.media =
          photoEntries (withPhotos r.mm w.ids.mmId).1 := by
        rw [hmm, withPhotos_media _ hvideo]
      have hstore : (store target 0 r.addPhotos).HasStored target w
          ([] ++ [{ r.addPhotos.mm with getAnotherCameraVideo := 0 }]) := by
        apply store_spec
        · rwa [hmedia]
        · intro _
          rw [hqueue]
          exact h.queue
        · rw [heffects, h.effects, hmm, InfoForStore.asks, hphotoAsks,
            hvideoAsks, hnone, List.append_nil]
          rfl
      exact hstore
    · exact congrArg NextIds.mmId (store_ids target 0 _)
  · exact ⟨h.hasStored target, h.mmId⟩

/-- An alert, a snapshot or neither of them. -/
theorem listed_spec {w : World} {r : Report} (h : r.Fresh w) (target : Target)
    {alert snap : Prop} [Decidable alert] [Decidable snap]
    (hphotos : alert → r.mm.photoEnable = true →
      r.mm.photoNum.toNat < warnSnapNumMax)
    (hvideo : ¬ alert → snap → r.mm.videoEnable = false) :
    let listed :=
      if alert then r.alertMedia target
      else if snap then r.snapMedia target
      else r
    let records :=
      if alert then alertRecords r.mm w.ids.mmId
      else if snap then snapRecords r.mm w.ids.mmId
      else ([], w.ids.mmId)
    listed.HasStored target w records.1 ∧
      listed.world.ids.mmId = records.2 := by
  intro listed records
  unfold listed records
  split_ifs with halert hsnap
  · exact alertMedia_spec h target (hphotos halert)
  · exact snapMedia_spec h target (hvideo halert hsnap)
  · exact ⟨h.hasStored target, h.mmId⟩

end Report

theorem getAdasInfoForStore_videoEnable {type : UInt8} {para : AdasPara}
    (halert : ¬ (adasMediaFields type).isSome = true) :
    (getAdasInfoForStore type para).videoEnable = false := by
  rw [Option.not_isSome_iff_eq_none] at halert
  rw [getAdasInfoForStore, halert]
  simp only
  split_ifs <;> rfl

theorem getDmsInfoForStore_videoEnable {type : UInt8} {para : DmsPara}
    (halert : ¬ (dmsMediaFields type).isSome = true) :
    (getDmsInfoForStore type para).videoEnable = false := by
  rw [Option.not_isSome_iff_eq_none] at halert
  rw [getDmsInfoForStore, halert]
  simp only
  split_ifs <;> rfl

theorem fillReport_fresh (w : World) (mm : InfoForStore)
    (type statusFlag : UInt8) (msgbuf : Mem UInt8) :
    (fillReport w mm type statusFlag msgbuf).Fresh w := by
  refine ⟨⟨?_, rfl, rfl⟩, rfl, rfl, rfl⟩
  simp [Report.mmNum, fillReport]

/-! ## The builders -/

namespace Build

def buildWarnFrame : Build → Target → World → UInt8 → UInt8 → Mem UInt8 →
    Report
  | .adas => buildAdasWarnFrame
  | .dms => buildDmsWarnFrame

/-- The status that stores nothing: the end of an ADAS event repeats the media
of its beginning, the beginning of a DMS event has none. -/
def emptyStatus : Build → UInt8
  | .adas => sbWarnStatusEnd
  | .dms => sbWarnStatusBegin

def alertOrSnapRecords (w : World) (type : UInt8) :
    Build → List InfoForStore × UInt32
  | .adas =>
      if (adasMediaFields type).isSome then
        alertRecords (getAdasInfoForStore type w.para.adas) w.ids.mmId
      else if type = sbWarnTypeSnap then
        snapRecords (getAdasInfoForStore type w.para.adas) w.ids.mmId
      else ([], w.ids.mmId)
  | .dms =>
      if (dmsMediaFields type).isSome then
        alertRecords (getDmsInfoForStore type w.para.dms) w.ids.mmId
      else if type = dmsDriverChange ∨ type = dmsSanpshotEvent then
        snapRecords (getDmsInfoForStore type w.para.dms) w.ids.mmId
      else ([], w.ids.mmId)

/-- The records that a report stores, and the media counter after it. -/
def storedRecords (build : Build) (w : World) (type statusFlag : UInt8) :
    List InfoForStore × UInt32 :=
  if statusFlag = build.emptyStatus then ([], w.ids.mmId)
  else build.alertOrSnapRecords w type

variable (build : Build) (target : Target) (w : World)
  (type statusFlag : UInt8) (msgbuf : Mem UInt8)

/-- A report stores nothing, the media of an alert or those of a snapshot. -/
inductive RecordsOf (sMmId : UInt32) : List InfoForStore × UInt32 → Prop where
  | none : RecordsOf sMmId ([], sMmId)
  | alert (mm : InfoForStore) : RecordsOf sMmId (alertRecords mm sMmId)
  | snap {mm : InfoForStore} (hvideo : mm.videoEnable = false) :
      RecordsOf sMmId (snapRecords mm sMmId)

theorem storedRecords_cases :
    RecordsOf w.ids.mmId (build.storedRecords w type statusFlag) := by
  unfold storedRecords
  split_ifs
  · exact .none
  · cases build with
    | adas =>
        simp only [alertOrSnapRecords]
        split_ifs with halert
        · exact .alert _
        · exact .snap (getAdasInfoForStore_videoEnable halert)
        · exact .none
    | dms =>
        simp only [alertOrSnapRecords]
        split_ifs with halert
        · exact .alert _
        · exact .snap (getDmsInfoForStore_videoEnable halert)
        · exact .none

/-- What a report leaves behind: the records are queued, their files are
cleared, and unless it ends an event it lists their media. -/
structure Stores (r : Report) : Prop where
  lists : statusFlag ≠ sbWarnStatusEnd →
    r.mediaList =
      (build.storedRecords w type statusFlag).1.flatMap InfoForStore.media
  queue : target.interface = .tcp →
    r.world.imageQueue =
      pushRecords w.imageQueue (build.storedRecords w type statusFlag).1
  effects : r.effects =
    (build.storedRecords w type statusFlag).1.flatMap
      (InfoForStore.stored target)
  mmId : r.world.ids.mmId = (build.storedRecords w type statusFlag).2

variable {build target w type statusFlag} in
theorem Stores.of_listed {r : Report}
    (h : r.HasStored target w (build.storedRecords w type statusFlag).1 ∧
      r.world.ids.mmId = (build.storedRecords w type statusFlag).2) :
    Stores build target w type statusFlag r :=
  ⟨fun _ => h.1.lists.mediaList, h.1.queue, h.1.effects, h.2⟩

theorem buildAdasWarnFrame_stores :
    Stores .adas target w type statusFlag
      (buildAdasWarnFrame target w type statusFlag msgbuf) := by
  let filled := fillReport w (getAdasInfoForStore type w.para.adas) type
    statusFlag msgbuf
  have hfresh : filled.Fresh w := fillReport_fresh ..
  unfold buildAdasWarnFrame
  simp only
  by_cases hend : statusFlag = sbWarnStatusEnd
  · have hnone : storedRecords .adas w type statusFlag = ([], w.ids.mmId) :=
      if_pos hend
    rw [if_pos hend]
    constructor
    · exact fun hnot => absurd hend hnot
    · intro _
      rw [hnone]
      rfl
    · rw [hnone]
      rfl
    · rw [hnone]
      rfl
  · have hrecords : storedRecords .adas w type statusFlag =
        alertOrSnapRecords w type .adas := if_neg hend
    have hlisted : Stores .adas target w type statusFlag
        (if (adasMediaFields type).isSome then filled.alertMedia target
        else if type = sbWarnTypeSnap then filled.snapMedia target
        else filled) := by
      apply Stores.of_listed
      rw [hrecords]
      exact Report.listed_spec hfresh target
        (fun h => getAdasInfoForStore_photoNum h)
        (fun h _ => getAdasInfoForStore_videoEnable h)
    rw [if_neg hend]
    by_cases hbegin : statusFlag = sbWarnStatusBegin
    · rw [if_pos hbegin]
      exact ⟨hlisted.lists, hlisted.queue, hlisted.effects, hlisted.mmId⟩
    · rw [if_neg hbegin]
      exact hlisted

theorem buildDmsWarnFrame_stores :
    Stores .dms target w type statusFlag
      (buildDmsWarnFrame target w type statusFlag msgbuf) := by
  have hfresh := fillReport_fresh w (getDmsInfoForStore type w.para.dms)
    type statusFlag msgbuf
  unfold buildDmsWarnFrame
  simp only
  by_cases hbegin : statusFlag = sbWarnStatusBegin
  · have hnone : storedRecords .dms w type statusFlag = ([], w.ids.mmId) :=
      if_pos hbegin
    rw [if_pos hbegin]
    apply Stores.of_listed
    rw [hnone]
    exact ⟨hfresh.hasStored target, rfl⟩
  · rw [if_neg hbegin]
    apply Stores.of_listed
    rw [show storedRecords .dms w type statusFlag =
      alertOrSnapRecords w type .dms from if_neg hbegin]
    exact Report.listed_spec hfresh target
      (fun h => getDmsInfoForStore_photoNum h)
      (fun h _ => getDmsInfoForStore_videoEnable h)

theorem buildWarnFrame_stores :
    Stores build target w type statusFlag
      (build.buildWarnFrame target w type statusFlag msgbuf) := by
  cases build with
  | adas => exact buildAdasWarnFrame_stores target w type statusFlag msgbuf
  | dms => exact buildDmsWarnFrame_stores target w type statusFlag msgbuf

end Build

end SanbaoProt
