import SanbaoProt.Device.World

/-!
# Warning reports

The two report builders.  They share the layout of `AdasWarnFrame` and
`DsmWarnFrame`, the media list of an alert and that of a snapshot; they differ
in the parameters they read and in the status that carries no media.  The media
list lies behind the head of the frame, so status and type are read off a
finished report as they were given.
-/

namespace SanbaoProt

open Library

def mmPhoto : UInt8 := 0
def mmVideo : UInt8 := 2

def sbWarnStatusNone : UInt8 := 0x0
def sbWarnStatusBegin : UInt8 := 0x1
def sbWarnStatusEnd : UInt8 := 0x2

def sbWarnTypeFcw : UInt8 := 0x1
def sbWarnTypeLdw : UInt8 := 0x2
def sbWarnTypeHw : UInt8 := 0x3
def sbWarnTypePcw : UInt8 := 0x4
def sbWarnTypeFlc : UInt8 := 0x5
def sbWarnTypeSnap : UInt8 := 0x11

def dmsFatigueWarn : UInt8 := 0x01
def dmsCallingWarn : UInt8 := 0x02
def dmsSmokingWarn : UInt8 := 0x03
def dmsDistractWarn : UInt8 := 0x04
def dmsAbnormalWarn : UInt8 := 0x05
def dmsSanpshotEvent : UInt8 := 0x10
def dmsDriverChange : UInt8 := 0x11

def warnSnapNumMax : Nat := 10
def saveMediaNumMax : UInt32 := 1000

/-- `sizeof(AdasWarnFrame)` and `sizeof(DsmWarnFrame)`. -/
def warnFrameSize : Nat := 31

def statusFlagOffset : Nat := 4
def soundTypeOffset : Nat := 5
def ldwTypeOffset : Nat := 8
def carSpeedOffset : Nat := 11
def altitudeOffset : Nat := 12
def timeOffset : Nat := 22
def mmNumOffset : Nat := 30

/-! ## What is to be stored -/

structure MediaFields (n : Nat) where
  photoNum : Fin n
  photoTimePeriod : Fin n
  videoTime : Fin n

def emptyInfo (type : UInt8) : InfoForStore where
  getAnotherCameraVideo := 0
  warnType := type
  photoEnable := false
  videoEnable := false
  videoTime := 0
  photoTimePeriod := 0
  photoNum := 0
  photoId := []
  videoId := 0

def alertInfo {n : Nat} (para : Packed n) (type : UInt8)
    (fields : MediaFields n) : InfoForStore :=
  { emptyInfo type with
    photoNum := para fields.photoNum
    photoTimePeriod := para fields.photoTimePeriod
    videoTime := para fields.videoTime
    videoEnable := para fields.videoTime ≠ 0
    photoEnable := para fields.photoNum ≠ 0 ∧
      (para fields.photoNum).toNat < warnSnapNumMax }

def snapInfo {n : Nat} (para : Packed n) (type : UInt8)
    (photoNum photoTimePeriod : Fin n) : InfoForStore :=
  { emptyInfo type with
    photoNum := para photoNum
    photoTimePeriod := para photoTimePeriod
    photoEnable := true }

def adasMediaFields (type : UInt8) : Option (MediaFields 50) :=
  if type = sbWarnTypeFcw then
    some ⟨AdasPara.fcwPhotoNum, AdasPara.fcwPhotoTimePeriod,
      AdasPara.fcwVideoTime⟩
  else if type = sbWarnTypeLdw then
    some ⟨AdasPara.ldwPhotoNum, AdasPara.ldwPhotoTimePeriod,
      AdasPara.ldwVideoTime⟩
  else if type = sbWarnTypeHw then
    some ⟨AdasPara.hwPhotoNum, AdasPara.hwPhotoTimePeriod,
      AdasPara.hwVideoTime⟩
  else if type = sbWarnTypePcw then
    some ⟨AdasPara.pcwPhotoNum, AdasPara.pcwPhotoTimePeriod,
      AdasPara.pcwVideoTime⟩
  else if type = sbWarnTypeFlc then
    some ⟨AdasPara.flcPhotoNum, AdasPara.flcPhotoTimePeriod,
      AdasPara.flcVideoTime⟩
  else none

def dmsMediaFields (type : UInt8) : Option (MediaFields 43) :=
  if type = dmsFatigueWarn then
    some ⟨DmsPara.fatigueDrivPhotoNum, DmsPara.fatigueDrivPhotoInterval,
      DmsPara.fatigueDrivVideoTime⟩
  else if type = dmsCallingWarn then
    some ⟨DmsPara.callingDrivPhotoNum, DmsPara.callingDrivPhotoInterval,
      DmsPara.callingDrivVideoTime⟩
  else if type = dmsSmokingWarn then
    some ⟨DmsPara.smokingDrivPhotoNum, DmsPara.smokingDrivPhotoInterval,
      DmsPara.smokingDrivVideoTime⟩
  else if type = dmsDistractWarn then
    some ⟨DmsPara.distractionDrivPhotoNum,
      DmsPara.distractionDrivPhotoInterval,
      DmsPara.distractionDrivVideoTime⟩
  else if type = dmsAbnormalWarn then
    some ⟨DmsPara.abnormalDrivPhotoNum, DmsPara.abnormalDrivPhotoInterval,
      DmsPara.abnormalDrivVideoTime⟩
  else none

def getAdasInfoForStore (type : UInt8) (para : AdasPara) : InfoForStore :=
  match adasMediaFields type with
  | some fields => alertInfo para type fields
  | none =>
      if type = sbWarnTypeSnap then
        snapInfo para type AdasPara.photoNum AdasPara.photoTimePeriod
      else emptyInfo type

def getDmsInfoForStore (type : UInt8) (para : DmsPara) : InfoForStore :=
  match dmsMediaFields type with
  | some fields => alertInfo para type fields
  | none =>
      if type = dmsDriverChange ∨ type = dmsSanpshotEvent then
        snapInfo para type DmsPara.photoNum DmsPara.photoTimePeriod
      else emptyInfo type

/-- `get_next_id(MM_ID_MODE, …)`: the ids handed out and the counter. -/
def getNextMmIds : Nat → UInt32 → List UInt32 × UInt32
  | 0, sMmId => ([], sMmId)
  | num + 1, sMmId =>
      ((sMmId + 1) :: (getNextMmIds num (sMmId + 1)).1,
        (getNextMmIds num (sMmId + 1)).2)

@[simp] theorem length_getNextMmIds (num : Nat) (sMmId : UInt32) :
    (getNextMmIds num sMmId).1.length = num := by
  induction num generalizing sMmId with
  | zero => rfl
  | succ num ih => simp [getNextMmIds, ih]

/-- A new file takes the place of the one with the id 1000 before it. -/
def removeReplaced (id : UInt32) : List Effect :=
  if id > saveMediaNumMax then [.remove (id - saveMediaNumMax)] else []

def clearOldMediaFile (mm : InfoForStore) : Act := fun w =>
  (w,
    (if mm.photoEnable then
      mm.photoId.flatMap removeReplaced ++ mm.photoId.map .remove
    else []) ++
    (if mm.videoEnable then removeReplaced mm.videoId ++ [.remove mm.videoId]
    else []))

def pushMmQueue (target : Target) (mm : InfoForStore) : Act := fun w =>
  match target.interface with
  | .rs232 => (w, [])
  | .tcp =>
      ({ w with imageQueue := (ptrQueuePush w.imageQueue ⟨mm, none⟩).2 },
        [.pushMm mm])

/-! ## A report under construction -/

structure Report where
  msgbuf : Mem UInt8
  mm : InfoForStore
  i : Nat
  world : World
  effects : List Effect

def putMedia (msgbuf : Mem UInt8) (i : Nat) (type : UInt8) (id : UInt32) :
    Mem UInt8 :=
  ((msgbuf.store mmNumOffset (msgbuf mmNumOffset + 1)).store
    (warnFrameSize + 5 * i) type).copy (warnFrameSize + 5 * i + 1)
    (toBE 4 id.toNat)

def putPhotos (msgbuf : Mem UInt8) (i : Nat) : List UInt32 → Mem UInt8
  | [] => msgbuf
  | id :: ids => putPhotos (putMedia msgbuf i mmPhoto id) (i + 1) ids

namespace Report

def mmNum (r : Report) : UInt8 := r.msgbuf mmNumOffset

def length (r : Report) : Nat := warnFrameSize + r.mmNum.toNat * 5

def payload (r : Report) : List UInt8 := r.msgbuf.read 0 r.length

def act (r : Report) (a : Act) : Report :=
  { r with
    world := (a r.world).1
    effects := r.effects ++ (a r.world).2 }

def takeMmIds (r : Report) (num : Nat) : Report :=
  { r with
    world :=
      { r.world with
        ids :=
          { r.world.ids with
            mmId := (getNextMmIds num r.world.ids.mmId).2 } }
    effects := r.effects ++ [.mmIds num] }

def addPhotos (r : Report) : Report :=
  if r.mm.photoEnable then
    let ids := (getNextMmIds r.mm.photoNum.toNat r.world.ids.mmId).1
    { r.takeMmIds r.mm.photoNum.toNat with
      msgbuf := putPhotos r.msgbuf 0 ids
      mm := { r.mm with photoId := ids }
      i := r.mm.photoNum.toNat }
  else r

def addVideo (r : Report) : Report :=
  if r.mm.videoEnable then
    let id := r.world.ids.mmId + 1
    { r.takeMmIds 1 with
      msgbuf := putMedia r.msgbuf r.i mmVideo id
      mm := { r.mm with videoId := id }
      i := r.i + 1 }
  else r

def store (target : Target) (another : UInt8) (r : Report) : Report :=
  let mm := { r.mm with getAnotherCameraVideo := another }
  { r with mm := mm }.act
    ((clearOldMediaFile mm).andThen (pushMmQueue target mm))

def alertMedia (target : Target) (r : Report) : Report :=
  let own := store target 0 r.addPhotos.addVideo
  if own.mm.videoEnable then
    store target 1
      { own with mm := { own.mm with photoEnable := false } }.addVideo
  else own

def snapMedia (target : Target) (r : Report) : Report :=
  if r.mm.photoEnable then store target 0 r.addPhotos else r

end Report

def fillReport (w : World) (mm : InfoForStore) (type statusFlag : UInt8)
    (msgbuf : Mem UInt8) : Report :=
  let warningId := w.ids.warningId + 1
  let time := w.realTime.toList
  let filled := ((((((msgbuf.copy 0 (toBE 4 warningId.toNat)).store
    statusFlagOffset statusFlag).store soundTypeOffset type).store
    carSpeedOffset (w.realTime RealTimeData.carSpeed)).copy altitudeOffset
    ((time.drop 8).take 10)).copy timeOffset (time.drop 18)).store
    mmNumOffset 0
  { msgbuf := filled
    mm := mm
    i := 0
    world := { w with ids := { w.ids with warningId := warningId } }
    effects := [] }

def buildAdasWarnFrame (target : Target) (w : World)
    (type statusFlag : UInt8) (msgbuf : Mem UInt8) : Report :=
  let filled := fillReport w (getAdasInfoForStore type w.para.adas) type
    statusFlag msgbuf
  if statusFlag = sbWarnStatusEnd then
    let begun := w.mediaBegin
    { filled with
      msgbuf := (filled.msgbuf.copy warnFrameSize
        (begun.entries.read 0 (begun.num.toNat * 5))).store mmNumOffset
        begun.num }
  else
    let listed :=
      if (adasMediaFields type).isSome then filled.alertMedia target
      else if type = sbWarnTypeSnap then filled.snapMedia target
      else filled
    if statusFlag = sbWarnStatusBegin then
      let begun : MediaBegin :=
        ⟨w.mediaBegin.entries.copy 0 (listed.msgbuf.read warnFrameSize
          (listed.mmNum.toNat * 5)), listed.mmNum⟩
      { listed with world := { listed.world with mediaBegin := begun } }
    else listed

def buildDmsWarnFrame (target : Target) (w : World)
    (type statusFlag : UInt8) (msgbuf : Mem UInt8) : Report :=
  let filled := fillReport w (getDmsInfoForStore type w.para.dms) type
    statusFlag msgbuf
  if statusFlag = sbWarnStatusBegin then filled
  else if (dmsMediaFields type).isSome then filled.alertMedia target
  else if type = dmsDriverChange ∨ type = dmsSanpshotEvent then
    filled.snapMedia target
  else filled

/-! ## The head of a report -/

def SameHead (m m' : Mem UInt8) : Prop := ∀ j < mmNumOffset, m' j = m j

theorem SameHead.trans {m m' m'' : Mem UInt8} (h : SameHead m m')
    (h' : SameHead m' m'') : SameHead m m'' :=
  fun j hj => (h' j hj).trans (h j hj)

theorem putMedia_sameHead (m : Mem UInt8) (i : Nat) (type : UInt8)
    (id : UInt32) : SameHead m (putMedia m i type id) := by
  intro j hj
  simp only [mmNumOffset] at hj
  rw [putMedia, Mem.copy_of_lt _ _ (by simp only [warnFrameSize]; omega),
    Mem.store_of_ne _ _ (by simp only [warnFrameSize]; omega),
    Mem.store_of_ne _ _ (by simp only [mmNumOffset]; omega)]

theorem putPhotos_sameHead (m : Mem UInt8) (i : Nat) (ids : List UInt32) :
    SameHead m (putPhotos m i ids) := by
  induction ids generalizing m i with
  | nil => exact fun _ _ => rfl
  | cons id ids ih =>
      exact (putMedia_sameHead m i mmPhoto id).trans (ih _ (i + 1))

namespace Report

theorem addPhotos_sameHead (r : Report) :
    SameHead r.msgbuf r.addPhotos.msgbuf := by
  unfold addPhotos
  split_ifs
  · exact putPhotos_sameHead _ _ _
  · exact fun _ _ => rfl

theorem addVideo_sameHead (r : Report) :
    SameHead r.msgbuf r.addVideo.msgbuf := by
  unfold addVideo
  split_ifs
  · exact putMedia_sameHead _ _ _ _
  · exact fun _ _ => rfl

theorem alertMedia_sameHead (target : Target) (r : Report) :
    SameHead r.msgbuf (r.alertMedia target).msgbuf := by
  have hown : SameHead r.msgbuf
      (store target 0 r.addPhotos.addVideo).msgbuf :=
    r.addPhotos_sameHead.trans r.addPhotos.addVideo_sameHead
  unfold alertMedia
  simp only
  split_ifs
  · exact hown.trans (addVideo_sameHead _)
  · exact hown

theorem snapMedia_sameHead (target : Target) (r : Report) :
    SameHead r.msgbuf (r.snapMedia target).msgbuf := by
  unfold snapMedia
  split_ifs
  · exact r.addPhotos_sameHead
  · exact fun _ _ => rfl

theorem getElem?_payload (r : Report) {j : Nat} (hj : j < warnFrameSize) :
    r.payload[j]? = some (r.msgbuf j) := by
  have hlength : j < r.payload.length := by
    rw [payload, Mem.length_read, length]
    omega
  rw [List.getElem?_eq_getElem hlength]
  simp [payload]

end Report

theorem fillReport_head (w : World) (mm : InfoForStore)
    (type statusFlag : UInt8) (msgbuf : Mem UInt8) :
    (fillReport w mm type statusFlag msgbuf).msgbuf statusFlagOffset =
        statusFlag ∧
      (fillReport w mm type statusFlag msgbuf).msgbuf soundTypeOffset =
        type := by
  have hhead : ∀ (m : Mem UInt8) j, j < carSpeedOffset →
      ((((m.store carSpeedOffset (w.realTime RealTimeData.carSpeed)).copy
        altitudeOffset ((w.realTime.toList.drop 8).take 10)).copy timeOffset
        (w.realTime.toList.drop 18)).store mmNumOffset 0) j = m j := by
    intro m j hj
    simp only [carSpeedOffset] at hj
    rw [Mem.store_of_ne _ _ (by simp only [mmNumOffset]; omega),
      Mem.copy_of_lt _ _ (by simp only [timeOffset]; omega),
      Mem.copy_of_lt _ _ (by simp only [altitudeOffset]; omega),
      Mem.store_of_ne _ _ (by simp only [carSpeedOffset]; omega)]
  simp only [fillReport]
  constructor
  · rw [hhead _ _ (by decide), Mem.store_of_ne _ _ (by decide),
      Mem.store_self]
  · rw [hhead _ _ (by decide), Mem.store_self]

/-- The builders leave the head of a report as it was filled in. -/
theorem buildAdasWarnFrame_sameHead (target : Target) (w : World)
    (type statusFlag : UInt8) (msgbuf : Mem UInt8) :
    SameHead
      (fillReport w (getAdasInfoForStore type w.para.adas) type statusFlag
        msgbuf).msgbuf
      (buildAdasWarnFrame target w type statusFlag msgbuf).msgbuf := by
  let filled := fillReport w (getAdasInfoForStore type w.para.adas) type
    statusFlag msgbuf
  unfold buildAdasWarnFrame
  simp only
  split_ifs
  · intro j hj
    simp only [mmNumOffset] at hj
    exact (Mem.store_of_ne _ _ (by simp only [mmNumOffset]; omega)).trans
      (Mem.copy_of_lt _ _ (by simp only [warnFrameSize]; omega))
  · exact filled.alertMedia_sameHead target
  · exact filled.snapMedia_sameHead target
  · exact fun _ _ => rfl
  · exact filled.alertMedia_sameHead target
  · exact filled.snapMedia_sameHead target
  · exact fun _ _ => rfl

theorem buildDmsWarnFrame_sameHead (target : Target) (w : World)
    (type statusFlag : UInt8) (msgbuf : Mem UInt8) :
    SameHead
      (fillReport w (getDmsInfoForStore type w.para.dms) type statusFlag
        msgbuf).msgbuf
      (buildDmsWarnFrame target w type statusFlag msgbuf).msgbuf := by
  let filled := fillReport w (getDmsInfoForStore type w.para.dms) type
    statusFlag msgbuf
  unfold buildDmsWarnFrame
  simp only
  split_ifs
  · exact fun _ _ => rfl
  · exact filled.alertMedia_sameHead target
  · exact filled.snapMedia_sameHead target
  · exact fun _ _ => rfl

theorem buildAdasWarnFrame_head (target : Target) (w : World)
    (type statusFlag : UInt8) (msgbuf : Mem UInt8) :
    (buildAdasWarnFrame target w type statusFlag msgbuf).msgbuf
        statusFlagOffset = statusFlag ∧
      (buildAdasWarnFrame target w type statusFlag msgbuf).msgbuf
        soundTypeOffset = type := by
  have hkeep := buildAdasWarnFrame_sameHead target w type statusFlag msgbuf
  obtain ⟨hstatus, htype⟩ := fillReport_head w
    (getAdasInfoForStore type w.para.adas) type statusFlag msgbuf
  exact ⟨(hkeep _ (by decide)).trans hstatus,
    (hkeep _ (by decide)).trans htype⟩

end SanbaoProt
