import SanbaoProt.Device.MediaRecords
import SanbaoProt.Library.Throttle

/-!
# Capturing a record

A record that the media thread pulls from the image queue is turned into files
by a task of the thread pool: `store_jpeg` reads the ring buffer until it has
written the photos, and `ma_api_record_write_mp4` cuts out the video.  A read
may fail, and a frame that comes too early is passed over, so how long a task
runs depends on the ring buffer; what it writes does not.
-/

namespace SanbaoProt

open Library

/-- `pts` is in microseconds. -/
structure RBFrame where
  pts : Nat
  data : List UInt8
  deriving DecidableEq, Repr

inductive Camera where
  | adas
  | dms
  deriving DecidableEq, Repr

/-- The file of an id is the one that `mmid_to_filename` names. -/
inductive CaptureEffect where
  | writeFile (id : UInt32) (data : List UInt8)
  | recordWriteMp4 (camera : Camera) (user : Option String) (id : UInt32)
      (seektime videotime : Int)
  deriving DecidableEq, Repr

def CaptureEffect.entry : CaptureEffect → UInt8 × UInt32
  | writeFile id _ => (mmPhoto, id)
  | recordWriteMp4 _ _ id _ _ => (mmVideo, id)

/-- What the reads of a ring buffer give, one after the other. -/
abbrev RingReads := Stream' (Option RBFrame)

def requestJpegFrame : Nat → RingReads → Option RBFrame × RingReads
  | 0, reads => (reads.head, reads.tail)
  | repeatTimes + 1, reads =>
      match reads.head with
      | some frame => (some frame, reads.tail)
      | none => requestJpegFrame repeatTimes reads.tail

/-! ## Photos -/

/-- `photo_id` was zeroed before the ids were put in. -/
def writeOneJpeg (mm : InfoForStore) (pFrame : RBFrame) (index : Nat) :
    CaptureEffect :=
  .writeFile (mm.photoId.getD index 0) pFrame.data

structure StoreJpeg where
  jpegIndex : Nat
  oldPts : Nat

/-- Each round of the loop reads once; it runs out of fuel or is done. -/
def storeJpegLoop (mm : InfoForStore) (interval : UInt32) : Nat → RingReads →
    StoreJpeg → Option (List CaptureEffect)
  | 0, _, _ => none
  | fuel + 1, reads, s =>
      let request := requestJpegFrame 0 reads
      let round : StoreJpeg × List CaptureEffect :=
        match request.1 with
        | none => (s, [])
        | some pFrame =>
            if pFrame.pts > s.oldPts + interval.toNat then
              (⟨s.jpegIndex + 1, pFrame.pts⟩,
                [writeOneJpeg mm pFrame s.jpegIndex])
            else (s, [])
      if round.1.jpegIndex < mm.photoNum.toNat then
        (storeJpegLoop mm interval fuel request.2 round.1).map (round.2 ++ ·)
      else some round.2

/-- The unit of `photo_time_period` is 100 ms. -/
def photoInterval (mm : InfoForStore) : UInt32 :=
  .ofNat (mm.photoTimePeriod.toNat * 100 * 1000)

/-- `store_jpeg` and `store_jpegs`: the time taken and what is written. -/
def storeJpeg (mm : InfoForStore) (fuel : Nat) (reads : RingReads) :
    Option (UInt32 × List CaptureEffect) :=
  if mm.photoEnable = false then some (0, [])
  else
    let takeTime := photoInterval mm * (UInt32.ofNat mm.photoNum.toNat - 1)
    (storeJpegLoop mm (photoInterval mm) fuel reads ⟨0, 0⟩).map (takeTime, ·)

/-! ## Tasks -/

def recordVideoMedia (user : Option String) (cameraDev : Camera)
    (info : InfoForStore) : List CaptureEffect :=
  if info.videoEnable = false then []
  else
    [.recordWriteMp4 cameraDev user info.videoId (0 - info.videoTime.toNat)
      (2 * info.videoTime.toNat)]

def recordMmInfo (user : Option String) (cameraDev : Camera)
    (info : InfoForStore) (fuel : Nat) (reads : RingReads) :
    Option (List CaptureEffect) :=
  (storeJpeg info fuel reads).map fun stored =>
    stored.2 ++ recordVideoMedia user cameraDev info

/-! ## What the loop takes -/

/-- A frame is taken if it is more than an interval after the one before. -/
def photoThrottle (interval : UInt32) : Throttle Nat RBFrame where
  stamp := RBFrame.pts
  due oldPts pFrame := pFrame.pts > oldPts + interval.toNat

instance (interval : UInt32) (oldPts : Nat) (pFrame : RBFrame) :
    Decidable ((photoThrottle interval).due oldPts pFrame) :=
  inferInstanceAs (Decidable (_ > _))

section Loop

variable (mm : InfoForStore) (interval : UInt32)

def takenFrames (fuel : Nat) (reads : RingReads) (oldPts : Nat) :
    List RBFrame :=
  (photoThrottle interval).taken oldPts (Throttle.readItems id reads fuel)

def writeJpegs (index : Nat) (frames : List RBFrame) : List CaptureEffect :=
  (frames.zipIdx index).map fun f => writeOneJpeg mm f.1 f.2

/-- With photos left to write, the loop is done once as many frames have been
taken, and has written the first of these. -/
theorem storeJpegLoop_eq (fuel : Nat) (reads : RingReads) (s : StoreJpeg)
    (hleft : s.jpegIndex < mm.photoNum.toNat) :
    let left := mm.photoNum.toNat - s.jpegIndex
    let frames := takenFrames interval fuel reads s.oldPts
    storeJpegLoop mm interval fuel reads s =
      if left ≤ frames.length then
        some (writeJpegs mm s.jpegIndex (frames.take left))
      else none := by
  induction fuel generalizing reads s with
  | zero =>
      have hnone : ¬ mm.photoNum.toNat - s.jpegIndex ≤ 0 := by omega
      exact (if_neg hnone).symm
  | succ fuel ih =>
      intro left frames
      have hreads : Throttle.readItems id reads (fuel + 1) =
          reads.head.toList ++ Throttle.readItems id reads.tail fuel := by
        rw [Throttle.readItems, Stream'.take_succ]
        cases hread : reads.head <;> simp [Throttle.readItems]
      -- a failed read and an early frame leave the loop where it was
      have hpass {round : StoreJpeg × List CaptureEffect}
          (hround : round = (s, []))
          (hframes : frames = takenFrames interval fuel reads.tail s.oldPts) :
          (if round.1.jpegIndex < mm.photoNum.toNat then
            (storeJpegLoop mm interval fuel reads.tail round.1).map
              (round.2 ++ ·)
          else some round.2) =
            if left ≤ frames.length then
              some (writeJpegs mm s.jpegIndex (frames.take left))
            else none := by
        rw [hround, if_pos hleft, ih reads.tail s hleft, hframes]
        split_ifs <;> rfl
      cases hread : reads.head with
      | none =>
          rw [hread] at hreads
          simp only [storeJpegLoop, requestJpegFrame, hread]
          apply hpass rfl
          simp only [frames, takenFrames, hreads]
          rfl
      | some pFrame =>
          rw [hread] at hreads
          simp only [storeJpegLoop, requestJpegFrame, hread]
          by_cases hdue : pFrame.pts > s.oldPts + interval.toNat
          · have hframes : frames =
                pFrame :: takenFrames interval fuel reads.tail pFrame.pts := by
              simp only [frames, takenFrames, hreads]
              exact Throttle.taken_of_due hdue _
            rw [if_pos hdue, hframes, List.length_cons]
            by_cases hmore : s.jpegIndex + 1 < mm.photoNum.toNat
            · have hnext : left = (mm.photoNum.toNat - (s.jpegIndex + 1)) + 1 := by
                simp only [left]
                omega
              rw [if_pos hmore, ih reads.tail ⟨s.jpegIndex + 1, pFrame.pts⟩
                hmore, hnext]
              simp only [Nat.add_le_add_iff_right]
              split_ifs
              · rfl
              · rfl
            · have hlast : left = 1 := by
                simp only [left]
                omega
              rw [if_neg hmore, hlast, if_pos (by omega)]
              rfl
          · have hframes : frames =
                takenFrames interval fuel reads.tail s.oldPts := by
              simp only [frames, takenFrames, hreads]
              exact Throttle.taken_of_not_due hdue _
            apply hpass _ hframes
            rw [if_neg hdue]

end Loop

/-- Whatever a record looks like, the loop writes photos. -/
theorem storeJpegLoop_photos {mm : InfoForStore} {interval : UInt32}
    {fuel : Nat} {reads : RingReads} {s : StoreJpeg}
    {effects : List CaptureEffect}
    (h : storeJpegLoop mm interval fuel reads s = some effects) :
    ∀ e ∈ effects, e.entry.1 = mmPhoto := by
  induction fuel generalizing reads s effects with
  | zero => cases h
  | succ fuel ih =>
      have hgoOn {now : List CaptureEffect} {s' : StoreJpeg}
          (hnow : ∀ e ∈ now, e.entry.1 = mmPhoto)
          (h : (if s'.jpegIndex < mm.photoNum.toNat then
            (storeJpegLoop mm interval fuel reads.tail s').map (now ++ ·)
          else some now) = some effects) :
          ∀ e ∈ effects, e.entry.1 = mmPhoto := by
        split_ifs at h
        · obtain ⟨later, hlater, rfl⟩ := Option.map_eq_some_iff.mp h
          intro e he
          rcases List.mem_append.mp he with he | he
          · exact hnow e he
          · exact ih hlater e he
        · obtain rfl := Option.some.inj h
          exact hnow
      cases hread : reads.head with
      | none =>
          simp only [storeJpegLoop, requestJpegFrame, hread] at h
          exact hgoOn (fun _ he => absurd he List.not_mem_nil) h
      | some pFrame =>
          simp only [storeJpegLoop, requestJpegFrame, hread] at h
          by_cases hdue : pFrame.pts > s.oldPts + interval.toNat
          · rw [if_pos hdue] at h
            refine hgoOn (fun e he => ?_) h
            rw [List.mem_singleton.mp he]
            rfl
          · rw [if_neg hdue] at h
            exact hgoOn (fun _ he => absurd he List.not_mem_nil) h

theorem recordMmInfo_videos {mm : InfoForStore} {user : Option String}
    {cameraDev : Camera} {fuel : Nat} {reads : RingReads}
    {effects : List CaptureEffect}
    (h : recordMmInfo user cameraDev mm fuel reads = some effects) :
    ∀ e ∈ effects, e.entry.1 = mmPhoto ∨
      e ∈ recordVideoMedia user cameraDev mm := by
  obtain ⟨stored, hstored, rfl⟩ := Option.map_eq_some_iff.mp h
  intro e he
  refine (List.mem_append.mp he).imp (fun he => ?_) id
  unfold storeJpeg at hstored
  split_ifs at hstored
  · obtain rfl := Option.some.inj hstored
    exact absurd he List.not_mem_nil
  · obtain ⟨photos, hphotos, rfl⟩ := Option.map_eq_some_iff.mp hstored
    exact storeJpegLoop_photos hphotos e he

/-! ## What a task writes -/

/-- There is at least one photo, and the elements of `photo_id` hold the ids
of all of them. -/
def InfoForStore.PhotosNumbered (mm : InfoForStore) : Prop :=
  mm.photoEnable = true →
    mm.photoNum ≠ 0 ∧ mm.photoNum.toNat ≤ warnSnapNumMax ∧
      mm.photoId.length = mm.photoNum.toNat

instance (mm : InfoForStore) : Decidable mm.PhotosNumbered :=
  inferInstanceAs (Decidable (_ → _))

/-- One photo for each id, of frames that were read in this order and are more
than an interval apart. -/
def PhotosOf (mm : InfoForStore) (frames written : List RBFrame) : Prop :=
  written.length = mm.photoId.length ∧ written.Sublist frames ∧
    (0 :: written.map RBFrame.pts).IsChain
      fun pts pts' => pts + (photoInterval mm).toNat < pts'

def photoWrites (mm : InfoForStore) (written : List RBFrame) :
    List CaptureEffect :=
  List.zipWith (fun id pFrame => .writeFile id pFrame.data) mm.photoId written

theorem writeJpegs_eq (mm : InfoForStore) (index : Nat)
    (frames : List RBFrame) (h : index + frames.length ≤ mm.photoId.length) :
    writeJpegs mm index frames =
      List.zipWith (fun id pFrame => .writeFile id pFrame.data)
        (mm.photoId.drop index) frames := by
  induction frames generalizing index with
  | nil => simp [writeJpegs]
  | cons pFrame frames ih =>
      rw [List.length_cons] at h
      have hlt : index < mm.photoId.length := by omega
      have hrest := ih (index + 1) (by omega)
      rw [List.drop_eq_getElem_cons hlt, List.zipWith_cons_cons, ← hrest]
      simp [writeJpegs, writeOneJpeg, List.zipIdx_cons, hlt]

theorem photoWrites_entries {mm : InfoForStore} {written : List RBFrame}
    (h : written.length = mm.photoId.length) :
    (photoWrites mm written).map CaptureEffect.entry =
      mm.photoId.map fun id => (mmPhoto, id) := by
  rw [photoWrites, List.map_zipWith]
  apply List.ext_getElem
  · simp [h]
  · intro k hk hk'
    simp [CaptureEffect.entry]

theorem recordVideoMedia_entries (user : Option String) (cameraDev : Camera)
    (mm : InfoForStore) :
    (recordVideoMedia user cameraDev mm).map CaptureEffect.entry =
      if mm.videoEnable then [(mmVideo, mm.videoId)] else [] := by
  unfold recordVideoMedia
  cases mm.videoEnable <;> rfl

theorem takenFrames_photosOf (mm : InfoForStore) {fuel : Nat}
    {reads : RingReads}
    (hids : mm.photoId.length ≤
      (takenFrames (photoInterval mm) fuel reads 0).length) :
    PhotosOf mm (Throttle.readItems id reads fuel)
      ((takenFrames (photoInterval mm) fuel reads 0).take
        mm.photoId.length) := by
  obtain ⟨hfirst, hchain⟩ := (photoThrottle (photoInterval mm)).taken_due 0
    (Throttle.readItems id reads fuel)
  refine ⟨?_, ?_, ?_⟩
  · rw [List.length_take]
    omega
  · exact (List.take_sublist _ _).trans (Throttle.taken_sublist _ _ _)
  · have hall : (0 :: (takenFrames (photoInterval mm) fuel reads 0).map
        RBFrame.pts).IsChain
          fun pts pts' => pts + (photoInterval mm).toNat < pts' := by
      refine List.isChain_cons.mpr ⟨?_, (List.isChain_map _).mpr hchain⟩
      intro pts hpts
      rw [List.head?_map] at hpts
      obtain ⟨pFrame, hhead, rfl⟩ := Option.mem_map.mp hpts
      exact hfirst pFrame hhead
    rw [List.map_take]
    exact hall.take (mm.photoId.length + 1)

section Task

variable {mm : InfoForStore} (user : Option String) (cameraDev : Camera)
  (fuel : Nat) (reads : RingReads)

theorem recordMmInfo_noPhotos (henable : mm.photoEnable = false) :
    recordMmInfo user cameraDev mm fuel reads =
      some (recordVideoMedia user cameraDev mm) := by
  rw [recordMmInfo, storeJpeg, if_pos henable]
  rfl

theorem recordMmInfo_photos (hids : mm.PhotosNumbered)
    (henable : mm.photoEnable = true) :
    let frames := takenFrames (photoInterval mm) fuel reads 0
    recordMmInfo user cameraDev mm fuel reads =
      if mm.photoId.length ≤ frames.length then
        some (photoWrites mm (frames.take mm.photoId.length) ++
          recordVideoMedia user cameraDev mm)
      else none := by
  intro frames
  obtain ⟨hnum, -, hlength⟩ := hids henable
  have hpos : 0 < mm.photoNum.toNat := by
    have hne : mm.photoNum.toNat ≠ 0 := fun h => hnum (UInt8.toNat_inj.mp h)
    omega
  have hloop : storeJpegLoop mm (photoInterval mm) fuel reads ⟨0, 0⟩ =
      if mm.photoId.length ≤ frames.length then
        some (writeJpegs mm 0 (frames.take mm.photoId.length))
      else none := by
    rw [hlength]
    exact storeJpegLoop_eq mm (photoInterval mm) fuel reads ⟨0, 0⟩ hpos
  have hwrites : writeJpegs mm 0 (frames.take mm.photoId.length) =
      photoWrites mm (frames.take mm.photoId.length) := by
    rw [writeJpegs_eq mm 0 _ (by rw [List.length_take]; omega),
      List.drop_zero]
    rfl
  rw [recordMmInfo, storeJpeg, if_neg (by simp [henable]), hloop, hwrites]
  split_ifs <;> rfl

/-- What a task has written when it is done. -/
theorem recordMmInfo_done (hids : mm.PhotosNumbered)
    {effects : List CaptureEffect}
    (h : recordMmInfo user cameraDev mm fuel reads = some effects) :
    effects.map CaptureEffect.entry = mm.media ∧
      (mm.photoEnable = true → ∃ written,
        PhotosOf mm (Throttle.readItems id reads fuel) written ∧
          effects = photoWrites mm written ++
            recordVideoMedia user cameraDev mm) := by
  cases henable : mm.photoEnable with
  | true =>
      rw [recordMmInfo_photos user cameraDev fuel reads hids henable] at h
      split_ifs at h with hdone
      obtain rfl := Option.some.inj h
      have hphotos := takenFrames_photosOf mm hdone
      refine ⟨?_, fun _ => ⟨_, hphotos, rfl⟩⟩
      rw [List.map_append, photoWrites_entries hphotos.1,
        recordVideoMedia_entries, InfoForStore.media, if_pos henable]
  | false =>
      rw [recordMmInfo_noPhotos user cameraDev fuel reads henable] at h
      obtain rfl := Option.some.inj h
      refine ⟨?_, fun henabled => absurd henabled Bool.false_ne_true⟩
      rw [recordVideoMedia_entries, InfoForStore.media, henable]
      rfl

/-- A task is done once the ring buffer has given enough frames. -/
theorem recordMmInfo_finishes (hids : mm.PhotosNumbered)
    (hfeeds : (photoThrottle (photoInterval mm)).Feeds id reads) :
    ∃ fuel, (recordMmInfo user cameraDev mm fuel reads).isSome := by
  cases henable : mm.photoEnable with
  | true =>
      obtain ⟨fuel, hfuel⟩ := Throttle.exists_taken _ hfeeds 0
        mm.photoId.length
      refine ⟨fuel, ?_⟩
      rw [recordMmInfo_photos user cameraDev fuel reads hids henable]
      exact Option.isSome_iff_exists.mpr ⟨_, if_pos hfuel⟩
  | false =>
      refine ⟨0, ?_⟩
      rw [recordMmInfo_noPhotos user cameraDev 0 reads henable]
      rfl

end Task

/-- What a task has written when it is done does not depend on the ring
buffer, and it is done once the ring buffer has given enough frames. -/
theorem recordMmInfo_captures {mm : InfoForStore} (hids : mm.PhotosNumbered)
    (user : Option String) (cameraDev : Camera) (reads : RingReads) :
    (∀ fuel effects, recordMmInfo user cameraDev mm fuel reads = some effects →
      effects.map CaptureEffect.entry = mm.media ∧
        (mm.photoEnable = true → ∃ written,
          PhotosOf mm (Throttle.readItems id reads fuel) written ∧
            effects = photoWrites mm written ++
              recordVideoMedia user cameraDev mm)) ∧
      ((photoThrottle (photoInterval mm)).Feeds id reads →
        ∃ fuel, (recordMmInfo user cameraDev mm fuel reads).isSome) :=
  ⟨fun fuel _ h => recordMmInfo_done user cameraDev fuel reads hids h,
    recordMmInfo_finishes user cameraDev reads hids⟩

/-- A frame every quarter of a second. -/
def steadyRing : RingReads := fun n => some ⟨(n + 1) * 250000, [0x55]⟩

theorem steadyRing_feeds (interval : UInt32) :
    (photoThrottle interval).Feeds id steadyRing := by
  intro oldPts before
  refine ⟨before + oldPts + interval.toNat, _, by omega, rfl, ?_⟩
  change (before + oldPts + interval.toNat + 1) * 250000 >
    oldPts + interval.toNat
  omega

/-- Two photos of a snapshot, at least 200 ms apart. -/
theorem recordMmInfo_captures_twoPhotos :
    let mm : InfoForStore :=
      { emptyInfo sbWarnTypeSnap with
        photoEnable := true
        photoNum := 2
        photoTimePeriod := 2
        photoId := [7, 8] }
    (∀ fuel effects, recordMmInfo none .adas mm fuel steadyRing =
      some effects →
        effects.map CaptureEffect.entry = [(mmPhoto, 7), (mmPhoto, 8)]) ∧
      ∃ fuel, (recordMmInfo none .adas mm fuel steadyRing).isSome := by
  intro mm
  obtain ⟨hwritten, hdone⟩ :=
    @recordMmInfo_captures mm (by decide) none .adas steadyRing
  exact ⟨fun fuel effects h => (hwritten fuel effects h).1,
    hdone (steadyRing_feeds _)⟩

end SanbaoProt
