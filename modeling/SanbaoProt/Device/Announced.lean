import SanbaoProt.Device.MediaRecords

/-!
# What becomes of announced media

The camera thread records what it pulls from the image queue.  A report lists
its media before the records are pushed, and `push_mm_queue` drops the result of
the push: a record that finds the queue full is lost, while the host has been
told of its ids.  A record holds ten photo ids, whatever `photo_num` is.
-/

namespace SanbaoProt

open Library

/-- The media in the elements of `photo_id` and in `video_id`. -/
def InfoForStore.held (mm : InfoForStore) : List (UInt8 × UInt32) :=
  { mm with photoId := mm.photoId.take warnSnapNumMax }.media

/-- The photos whose ids are stored behind the elements of `photo_id`. -/
def InfoForStore.beyond (mm : InfoForStore) : List (UInt8 × UInt32) :=
  if mm.photoEnable then
    (mm.photoId.drop warnSnapNumMax).map fun id => (mmPhoto, id)
  else []

/-- Some record in the queue will produce this entry. -/
def Scheduled (queue : List (PtrQueueNode InfoForStore))
    (entry : UInt8 × UInt32) : Prop :=
  ∃ node ∈ queue, entry ∈ node.header.held

instance (queue : List (PtrQueueNode InfoForStore))
    (entry : UInt8 × UInt32) : Decidable (Scheduled queue entry) :=
  inferInstanceAs (Decidable (∃ node ∈ queue, _))

def pullMmQueue (queue : List (PtrQueueNode InfoForStore)) :
    Option (InfoForStore × List (PtrQueueNode InfoForStore)) :=
  (ptrQueuePop queue none).map fun popped => (popped.1.header, popped.2)

/-- The contents of `g_image_queue` that reports and pulls lead to in the TCP
build of `app`. -/
inductive ImageQueue (app : Build) : List (PtrQueueNode InfoForStore) → Prop
  | empty : ImageQueue app []
  | report {w : World} (build : Build) (type statusFlag : UInt8)
      (msgbuf : Mem UInt8) (before : ImageQueue app w.imageQueue) :
      ImageQueue app (build.buildWarnFrame ⟨app, .tcp⟩ w type statusFlag
        msgbuf).world.imageQueue
  | pull {queue rest : List (PtrQueueNode InfoForStore)} {mm : InfoForStore}
      (before : ImageQueue app queue)
      (pulled : pullMmQueue queue = some (mm, rest)) : ImageQueue app rest

/-! ## What a record holds -/

theorem mem_media_iff {mm : InfoForStore} {entry : UInt8 × UInt32} :
    entry ∈ mm.media ↔ entry ∈ mm.held ∨ entry ∈ mm.beyond := by
  by_cases hphoto : mm.photoEnable = true
  · have hsplit := List.take_append_drop warnSnapNumMax mm.photoId
    simp only [InfoForStore.held, InfoForStore.beyond, InfoForStore.media,
      hphoto, if_true]
    rw [← hsplit, List.map_append]
    simp only [List.mem_append, hsplit]
    exact or_right_comm
  · simp [InfoForStore.held, InfoForStore.beyond, InfoForStore.media, hphoto]

theorem beyond_eq_nil {mm : InfoForStore} (h : mm.photoEnable = true →
    mm.photoId.length ≤ warnSnapNumMax) : mm.beyond = [] := by
  unfold InfoForStore.beyond
  split_ifs with hphoto
  · rw [List.drop_eq_nil_iff.mpr (h hphoto)]
    rfl
  · rfl

theorem not_mem_beyond {mm : InfoForStore} {entry : UInt8 × UInt32}
    (hids : mm.photoEnable = true → mm.photoId.Nodup)
    (hheld : entry ∈ mm.held) : entry ∉ mm.beyond := by
  intro hbeyond
  unfold InfoForStore.beyond at hbeyond
  split_ifs at hbeyond with hphoto
  · obtain ⟨id, hdrop, rfl⟩ := List.mem_map.mp hbeyond
    simp only [InfoForStore.held, InfoForStore.media, hphoto, if_true] at hheld
    rcases List.mem_append.mp hheld with hentry | hvideo
    · obtain ⟨id', htake, heq⟩ := List.mem_map.mp hentry
      obtain rfl : id' = id := congrArg Prod.snd heq
      exact List.disjoint_take_drop (hids hphoto) (Nat.le_refl _) htake hdrop
    · split_ifs at hvideo
      · have htype : mmPhoto = mmVideo :=
          congrArg Prod.fst (List.mem_singleton.mp hvideo)
        exact absurd htype (by decide)
      · cases hvideo
  · cases hbeyond

theorem getNextMmIds_eq_map (num : Nat) (sMmId : UInt32) :
    (getNextMmIds num sMmId).1 =
      (List.range num).map fun k => sMmId + UInt32.ofNat (k + 1) := by
  induction num generalizing sMmId with
  | zero => rfl
  | succ num ih =>
      rw [getNextMmIds, ih, List.range_succ_eq_map, List.map_cons,
        List.map_map]
      refine congrArg₂ List.cons rfl (List.map_congr_left fun k _ => ?_)
      rw [Function.comp_apply, Nat.succ_eq_add_one, UInt32.ofNat_add (k + 1) 1,
        UInt32.add_comm (UInt32.ofNat (k + 1)), UInt32.add_assoc]
      rfl

theorem getNextMmIds_nodup {num : Nat} (h : num < 2 ^ 32) (sMmId : UInt32) :
    (getNextMmIds num sMmId).1.Nodup := by
  rw [getNextMmIds_eq_map]
  refine List.Nodup.map_on (fun k hk k' hk' heq => ?_) List.nodup_range
  have hk := List.mem_range.mp hk
  have hk' := List.mem_range.mp hk'
  have hnat := congrArg UInt32.toNat (UInt32.add_right_inj sMmId |>.mp heq)
  rw [UInt32.toNat_ofNat_of_lt' (by change k + 1 < 2 ^ 32; omega),
    UInt32.toNat_ofNat_of_lt' (by change k' + 1 < 2 ^ 32; omega)] at hnat
  exact Nat.succ_injective hnat

/-- The photos of a record have the next ids, `photo_num` of them. -/
def InfoForStore.Counted (mm : InfoForStore) : Prop :=
  mm.photoEnable = true →
    ∃ sMmId, mm.photoId = (getNextMmIds mm.photoNum.toNat sMmId).1

theorem InfoForStore.Counted.nodup {mm : InfoForStore} (h : mm.Counted)
    (hphoto : mm.photoEnable = true) : mm.photoId.Nodup := by
  obtain ⟨sMmId, hids⟩ := h hphoto
  have hlt := mm.photoNum.toNat_lt
  rw [hids]
  exact getNextMmIds_nodup (by omega) sMmId

theorem InfoForStore.Counted.length {mm : InfoForStore} (h : mm.Counted)
    (hphoto : mm.photoEnable = true) :
    mm.photoId.length = mm.photoNum.toNat := by
  obtain ⟨sMmId, hids⟩ := h hphoto
  rw [hids, length_getNextMmIds]

theorem withPhotos_counted (mm : InfoForStore) (sMmId : UInt32) :
    (withPhotos mm sMmId).1.Counted := by
  intro hphoto
  unfold withPhotos at hphoto ⊢
  split_ifs at hphoto ⊢
  · exact ⟨sMmId, rfl⟩
  · contradiction

theorem withVideo_counted {mm : InfoForStore} (h : mm.Counted)
    (sMmId : UInt32) : (withVideo mm sMmId).1.Counted := by
  unfold withVideo
  split_ifs
  · exact h
  · exact h

theorem storedRecords_counted (build : Build) (w : World)
    (type statusFlag : UInt8) :
    ∀ mm ∈ (build.storedRecords w type statusFlag).1, mm.Counted := by
  have hcases := build.storedRecords_cases w type statusFlag
  generalize build.storedRecords w type statusFlag = records at hcases ⊢
  cases hcases with
  | none => simp
  | alert mm =>
      have hown : (ownRecord mm w.ids.mmId).1.Counted :=
        withVideo_counted (withPhotos_counted mm _) _
      unfold alertRecords
      simp only
      split_ifs
      · intro mm' hmem
        rcases List.mem_pair.mp hmem with rfl | rfl
        · exact hown
        · exact fun hphoto => absurd hphoto Bool.false_ne_true
      · intro mm' hmem
        obtain rfl := List.mem_singleton.mp hmem
        exact hown
  | @snap mm =>
      unfold snapRecords
      split_ifs
      · intro mm' hmem
        obtain rfl := List.mem_singleton.mp hmem
        exact withPhotos_counted mm _
      · simp

/-! ## Pushing records -/

theorem length_pushRecords_le {queue : List (PtrQueueNode InfoForStore)}
    (h : queue.length ≤ ptrQueueBufCnt) (records : List InfoForStore) :
    (pushRecords queue records).length ≤ ptrQueueBufCnt := by
  induction records generalizing queue with
  | nil => exact h
  | cons mm records ih => exact ih (length_ptrQueuePush h ⟨mm, none⟩)

theorem scheduled_push {queue : List (PtrQueueNode InfoForStore)}
    {mm : InfoForStore} {entry : UInt8 × UInt32} :
    Scheduled (ptrQueuePush queue ⟨mm, none⟩).2 entry ↔
      Scheduled queue entry ∨
        queue.length ≠ ptrQueueBufCnt ∧ entry ∈ mm.held := by
  simp only [Scheduled, mem_ptrQueuePush_iff]
  constructor
  · rintro ⟨node, hold | ⟨hroom, rfl⟩, hentry⟩
    · exact .inl ⟨node, hold, hentry⟩
    · exact .inr ⟨hroom, hentry⟩
  · rintro (⟨node, hold, hentry⟩ | ⟨hroom, hentry⟩)
    · exact ⟨node, .inl hold, hentry⟩
    · exact ⟨_, .inr ⟨hroom, rfl⟩, hentry⟩

/-- The records that find room in front of them are scheduled, no others. -/
theorem scheduled_pushRecords {queue : List (PtrQueueNode InfoForStore)}
    (h : queue.length ≤ ptrQueueBufCnt) (records : List InfoForStore)
    (entry : UInt8 × UInt32) :
    Scheduled (pushRecords queue records) entry ↔
      Scheduled queue entry ∨ ∃ k mm, records[k]? = some mm ∧
        queue.length + k < ptrQueueBufCnt ∧ entry ∈ mm.held := by
  induction records generalizing queue with
  | nil => simp [pushRecords]
  | cons mm records ih =>
      have hpush := length_ptrQueuePush_eq queue (⟨mm, none⟩ :
        PtrQueueNode InfoForStore)
      change Scheduled (pushRecords (ptrQueuePush queue ⟨mm, none⟩).2 records)
        entry ↔ _
      rw [ih (length_ptrQueuePush h ⟨mm, none⟩), scheduled_push, or_assoc,
        hpush]
      refine or_congr_right ⟨?_, ?_⟩
      · rintro (⟨hroom, hentry⟩ | ⟨k, mm', hget, hroom, hentry⟩)
        · exact ⟨0, mm, rfl, by omega, hentry⟩
        · refine ⟨k + 1, mm', hget, ?_, hentry⟩
          split_ifs at hroom <;> omega
      · rintro ⟨k, mm', hget, hroom, hentry⟩
        have hnot : queue.length ≠ ptrQueueBufCnt := by omega
        cases k with
        | zero =>
            obtain rfl := Option.some.inj hget
            exact .inl ⟨hnot, hentry⟩
        | succ k =>
            refine .inr ⟨k, mm', hget, ?_, hentry⟩
            rw [if_neg hnot]
            omega

theorem pullMmQueue_rest {queue rest : List (PtrQueueNode InfoForStore)}
    {mm : InfoForStore} (h : pullMmQueue queue = some (mm, rest)) :
    queue.length = rest.length + 1 := by
  cases queue with
  | nil => cases h
  | cons node queue =>
      have hrest : queue = rest := by
        unfold pullMmQueue ptrQueuePop at h
        cases hbuf : node.buf <;> simp_all
      rw [hrest, List.length_cons]

theorem ImageQueue.length_le {app : Build}
    {queue : List (PtrQueueNode InfoForStore)} (h : ImageQueue app queue) :
    queue.length ≤ ptrQueueBufCnt := by
  induction h with
  | empty => exact Nat.zero_le _
  | @report w build type statusFlag msgbuf _ ih =>
      rw [(build.buildWarnFrame_stores ⟨app, .tcp⟩ w type statusFlag
        msgbuf).queue rfl]
      exact length_pushRecords_le ih _
  | pull _ hpulled ih =>
      have hlength := pullMmQueue_rest hpulled
      omega

/-! ## What a report announces -/

def InfoForStore.Apart (mm mm' : InfoForStore) : Prop :=
  ∀ entry ∈ mm'.media, entry ∉ mm.media

theorem photoEntries_type {mm : InfoForStore} {entry : UInt8 × UInt32}
    (h : entry ∈ Report.photoEntries mm) : entry.1 = mmPhoto := by
  unfold Report.photoEntries at h
  split_ifs at h
  · obtain ⟨id, -, rfl⟩ := List.mem_map.mp h
    rfl
  · cases h

/-- The other camera's video has the id after that of the own one. -/
theorem alertRecords_apart (mm : InfoForStore) (sMmId : UInt32) :
    (alertRecords mm sMmId).1.Pairwise InfoForStore.Apart := by
  unfold alertRecords
  simp only
  split_ifs with hfilm
  · let photos := withPhotos mm sMmId
    have hfilm' : photos.1.videoEnable = true := by
      have hkeep : (withVideo photos.1 photos.2).1.videoEnable =
          photos.1.videoEnable := by
        unfold withVideo
        split_ifs <;> rfl
      rw [← hkeep]
      exact hfilm
    have hnext : (ownRecord mm sMmId).2 = photos.2 + 1 := by
      change (withVideo photos.1 photos.2).2 = _
      rw [withVideo, if_pos hfilm']
    have hown : (ownRecord mm sMmId).1.media =
        Report.photoEntries photos.1 ++ [(mmVideo, photos.2 + 1)] := by
      change (withVideo photos.1 photos.2).1.media = _
      rw [Report.withVideo_media, if_pos hfilm']
    apply List.pairwise_pair.mpr
    intro entry hentry
    rw [InfoForStore.media, if_pos hfilm, hnext] at hentry
    obtain rfl := List.mem_singleton.mp hentry
    rw [hown]
    intro hmem
    rcases List.mem_append.mp hmem with hphoto | hvideo
    · have htype : mmVideo = mmPhoto := photoEntries_type hphoto
      exact absurd htype (by decide)
    · have hid : photos.2 + 1 + 1 = photos.2 + 1 :=
        congrArg Prod.snd (List.mem_singleton.mp hvideo)
      exact absurd (UInt32.add_eq_left.mp hid) (by decide)
  · exact List.pairwise_singleton _ _

/-- The records of one report list different media. -/
theorem Build.storedRecords_apart (build : Build) (w : World)
    (type statusFlag : UInt8) :
    (build.storedRecords w type statusFlag).1.Pairwise InfoForStore.Apart := by
  have hcases := build.storedRecords_cases w type statusFlag
  generalize build.storedRecords w type statusFlag = records at hcases ⊢
  cases hcases with
  | none => exact .nil
  | alert => exact alertRecords_apart _ _
  | snap =>
      unfold snapRecords
      split_ifs
      · exact List.pairwise_singleton _ _
      · exact .nil

theorem index_of_entry {records : List InfoForStore}
    (h : records.Pairwise InfoForStore.Apart) {j k : Nat}
    {mm mm' : InfoForStore} (hj : records[j]? = some mm)
    (hk : records[k]? = some mm') {entry : UInt8 × UInt32}
    (hentry : entry ∈ mm.media) (hentry' : entry ∈ mm'.media) : j = k := by
  obtain ⟨hjlt, rfl⟩ := List.getElem?_eq_some_iff.mp hj
  obtain ⟨hklt, rfl⟩ := List.getElem?_eq_some_iff.mp hk
  rcases Nat.lt_trichotomy j k with hlt | heq | hgt
  · have hapart := List.pairwise_iff_getElem.mp h j k hjlt hklt hlt
    exact absurd hentry (hapart entry hentry')
  · exact heq
  · have hapart := List.pairwise_iff_getElem.mp h k j hklt hjlt hgt
    exact absurd hentry' (hapart entry hentry)

/-- The media of the record `k` of a report that find no place: all of them in
a full queue, else the photos behind `photo_id`. -/
def unplaced (queue : List (PtrQueueNode InfoForStore)) (k : Nat)
    (mm : InfoForStore) : List (UInt8 × UInt32) :=
  if queue.length + k < ptrQueueBufCnt then mm.beyond else mm.media

/-- The record `k` of a report finds room and has room for its photos, or the
ids that find no place are in the queue already. -/
def HasRoom (queue : List (PtrQueueNode InfoForStore)) (k : Nat)
    (mm : InfoForStore) : Prop :=
  queue.length + k < ptrQueueBufCnt ∧
      (mm.photoEnable = true → mm.photoNum.toNat ≤ warnSnapNumMax) ∨
    ∀ entry ∈ unplaced queue k mm, Scheduled queue entry

theorem hasRoom_iff {queue : List (PtrQueueNode InfoForStore)} {k : Nat}
    {mm : InfoForStore} (h : mm.Counted) :
    HasRoom queue k mm ↔
      ∀ entry ∈ unplaced queue k mm, Scheduled queue entry := by
  refine or_iff_right_of_imp fun ⟨hroom, hfits⟩ => ?_
  have hnone : mm.beyond = [] :=
    beyond_eq_nil fun hphoto => by rw [h.length hphoto]; exact hfits hphoto
  rw [unplaced, if_pos hroom, hnone]
  intro entry hentry
  cases hentry

/-- What a report lists is scheduled exactly if each record with media finds
room in the image queue and holds the ids of its photos. -/
theorem announced_scheduled_iff (app build : Build) (w : World)
    (type statusFlag : UInt8) (msgbuf : Mem UInt8)
    (hqueue : ImageQueue app w.imageQueue)
    (hstatus : statusFlag ≠ sbWarnStatusEnd) :
    let report := build.buildWarnFrame ⟨app, .tcp⟩ w type statusFlag msgbuf
    (∀ entry ∈ report.mediaList, Scheduled report.world.imageQueue entry) ↔
      ∀ k mm, (build.storedRecords w type statusFlag).1[k]? = some mm →
        HasRoom w.imageQueue k mm := by
  intro report
  have hstores : Build.Stores build ⟨app, .tcp⟩ w type statusFlag report :=
    build.buildWarnFrame_stores ⟨app, .tcp⟩ w type statusFlag msgbuf
  have hapart := build.storedRecords_apart w type statusFlag
  have hcounted := storedRecords_counted build w type statusFlag
  rw [hstores.lists hstatus, hstores.queue rfl]
  simp only [scheduled_pushRecords hqueue.length_le]
  generalize (build.storedRecords w type statusFlag).1 = records
    at hapart hcounted ⊢
  constructor
  · intro h k mm hk
    have hmm := hcounted mm (List.mem_of_getElem? hk)
    rw [hasRoom_iff hmm]
    intro entry hentry
    have hmedia : entry ∈ mm.media := by
      unfold unplaced at hentry
      split_ifs at hentry
      · exact mem_media_iff.mpr (.inr hentry)
      · exact hentry
    have hlisted : entry ∈ records.flatMap InfoForStore.media :=
      List.mem_flatMap.mpr ⟨mm, List.mem_of_getElem? hk, hmedia⟩
    rcases h entry hlisted with hold | ⟨j, mm', hj, hroom, hheld⟩
    · exact hold
    · -- only the record itself lists the entry, and it does not hold it
      have hmedia' := mem_media_iff.mpr (.inl hheld)
      obtain rfl := index_of_entry hapart hj hk hmedia' hmedia
      obtain rfl := Option.some.inj (hj.symm.trans hk)
      rw [unplaced, if_pos hroom] at hentry
      exact absurd hentry (not_mem_beyond hmm.nodup hheld)
  · intro h entry hlisted
    obtain ⟨mm, hmem, hmedia⟩ := List.mem_flatMap.mp hlisted
    obtain ⟨k, hk⟩ := List.mem_iff_getElem?.mp hmem
    have hunplaced := (hasRoom_iff (hcounted mm hmem)).mp (h k mm hk)
    by_cases hroom : w.imageQueue.length + k < ptrQueueBufCnt
    · rw [unplaced, if_pos hroom] at hunplaced
      rcases mem_media_iff.mp hmedia with hheld | hbeyond
      · exact .inr ⟨k, mm, hk, hroom, hheld⟩
      · exact .inl (hunplaced entry hbeyond)
    · rw [unplaced, if_neg hroom] at hunplaced
      exact .inl (hunplaced entry hmedia)

/-- Forward collision warnings one after the other, none of them pulled. -/
def alerted : Nat → World → World
  | 0, w => w
  | num + 1, w =>
      (Build.adas.buildWarnFrame ⟨.adas, .tcp⟩ (alerted num w) sbWarnTypeFcw
        sbWarnStatusNone (fun _ => 0)).world

theorem alerted_imageQueue {w : World} (h : ImageQueue .adas w.imageQueue)
    (num : Nat) : ImageQueue .adas (alerted num w).imageQueue := by
  induction num with
  | zero => exact h
  | succ num ih => exact .report .adas _ _ _ ih

def unalerted : World := startedWorld adasTcp ⟨true, some 50⟩ ⟨none, none⟩

theorem unalerted_imageQueue : unalerted.imageQueue = [] := by decide +kernel

theorem unalerted_reachable : ImageQueue .adas unalerted.imageQueue := by
  rw [unalerted_imageQueue]
  exact .empty

/-- The first of these warnings finds room for both of its records. -/
theorem announced_scheduled_iff_empty :
    let report := Build.adas.buildWarnFrame ⟨.adas, .tcp⟩ unalerted
      sbWarnTypeFcw sbWarnStatusNone (fun _ => 0)
    report.mediaList ≠ [] ∧
      ∀ entry ∈ report.mediaList, Scheduled report.world.imageQueue entry := by
  refine ⟨by decide +kernel, ?_⟩
  refine (announced_scheduled_iff .adas .adas unalerted sbWarnTypeFcw
    sbWarnStatusNone (fun _ => 0) unalerted_reachable (by decide)).mpr ?_
  intro k mm hk
  have hlength : (Build.adas.storedRecords unalerted sbWarnTypeFcw
      sbWarnStatusNone).1.length = 2 := by decide +kernel
  have hphotos : ∀ mm ∈ (Build.adas.storedRecords unalerted sbWarnTypeFcw
      sbWarnStatusNone).1, mm.photoNum.toNat ≤ warnSnapNumMax := by
    decide +kernel
  obtain ⟨hlt, -⟩ := List.getElem?_eq_some_iff.mp hk
  refine .inl ⟨?_, fun _ => hphotos mm (List.mem_of_getElem? hk)⟩
  rw [unalerted_imageQueue, List.length_nil, ptrQueueBufCnt]
  omega

/-- Eight of them fill the queue, and the records of the ninth are lost. -/
theorem announced_lost :
    ¬ ∀ (app build : Build) (w : World) (type statusFlag : UInt8)
      (msgbuf : Mem UInt8), ImageQueue app w.imageQueue →
      statusFlag ≠ sbWarnStatusEnd →
      let report := build.buildWarnFrame ⟨app, .tcp⟩ w type statusFlag msgbuf
      ∀ entry ∈ report.mediaList,
        Scheduled report.world.imageQueue entry := by
  intro h
  have hqueue : ImageQueue .adas (alerted 8 unalerted).imageQueue :=
    alerted_imageQueue unalerted_reachable 8
  have hninth := h .adas .adas (alerted 8 unalerted) sbWarnTypeFcw
    sbWarnStatusNone (fun _ => 0) hqueue (by decide)
  have hlost := hninth (mmVideo, 45) (by decide +kernel)
  revert hlost
  decide +kernel

end SanbaoProt
