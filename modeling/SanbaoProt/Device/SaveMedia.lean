import SanbaoProt.Device.Announced
import SanbaoProt.Device.MediaIds
import SanbaoProt.Device.ReportPhases
import SanbaoProt.Device.Resolution
import SanbaoProt.Library.Fifo

/-!
# The media thread

`pthread_save_media` pulls the records that the reports push and hands a task
for each of them to the thread pool.  `mediaSystem` runs the media thread beside
the threads that build the reports: each of its steps is one phase of a report
or one pass of the media thread.
-/

namespace SanbaoProt

open Library

/-! ## Users of the ring buffers -/

def warnTypeNum : Nat := 8

def adasAlertTypeToIndex (type : UInt8) : Nat :=
  if type = sbWarnTypeFcw then 0
  else if type = sbWarnTypeLdw then 1
  else if type = sbWarnTypeHw then 2
  else if type = sbWarnTypeSnap then 3
  else 0

def dmsAlertTypeToIndex (type : UInt8) : Nat :=
  if type = dmsFatigueWarn then 0
  else if type = dmsCallingWarn then 1
  else if type = dmsSmokingWarn then 2
  else if type = dmsDistractWarn then 3
  else if type = dmsAbnormalWarn then 4
  else if type = dmsDriverChange ∨ type = dmsSanpshotEvent then 5
  else 0

def adasVideoUser : List String :=
  ["adas_fcw_video", "adas_ldw_video", "adas_hw_video"]

def adasJpegUser : List String :=
  ["adas_fcw_jpeg", "adas_ldw_jpeg", "adas_hw_jpeg", "adas_snap_jpeg"]

def dmsVideoUser : List String :=
  ["dms_fatigue_video", "dms_calling_video", "dms_smoking_video",
    "dms_distract_video", "dms_absence_video"]

def dmsJpegUser : List String :=
  ["dms_fatigue_jpeg", "dms_calling_jpeg", "dms_smoking_jpeg",
    "dms_distract_jpeg", "dms_absence_jpeg", "dms_snap_jpeg"]

/-- The users of the ADAS program on the driver camera. -/
def relatedDmsUser : List String :=
  ["fcw_related_video", "ldw_related_video", "hw_related_video"]

/-- The users of the DMS program on the ADAS camera. -/
def relatedAdasUser : List String :=
  ["fatigue_related_video", "calling_related_video", "smoking_related_video",
    "distract_related_video", "absence_related_video"]

namespace Build

def alertTypeToIndex : Build → UInt8 → Nat
  | .adas => adasAlertTypeToIndex
  | .dms => dmsAlertTypeToIndex

def videoUser : Build → List String
  | .adas => adasVideoUser
  | .dms => dmsVideoUser

def jpegUser : Build → List String
  | .adas => adasJpegUser
  | .dms => dmsJpegUser

def relatedUser : Build → List String
  | .adas => relatedDmsUser
  | .dms => relatedAdasUser

def anotherCamera : Build → Camera
  | .adas => .dms
  | .dms => .adas

/-- The type that the thread compares the index of a user with. -/
def snapType : Build → UInt8
  | .adas => sbWarnTypeSnap
  | .dms => dmsSanpshotEvent

/-- The calls `ma_api_record_write_mp4(camera, user, path, 0, 0)` before the
loop. -/
def registered : Build → List (Camera × String)
  | .adas => (adasVideoUser ++ relatedAdasUser).map fun user => (.adas, user)
  | .dms => (dmsVideoUser ++ relatedDmsUser).map fun user => (.dms, user)

end Build

/-! ## Tasks -/

/-- A closure; a user is `none` behind the end of its array. -/
inductive CaptureTask where
  | recordMmInfo (reader user : Option String) (camera : Camera)
      (mm : InfoForStore)
  | recordVideoMedia (user : Option String) (camera : Camera)
      (mm : InfoForStore)
  deriving DecidableEq, Repr

/-- `reads` is what the ring buffer gives the reader of the task. -/
def CaptureTask.run (fuel : Nat) (reads : RingReads) :
    CaptureTask → Option (List CaptureEffect)
  | recordMmInfo _ user camera mm =>
      SanbaoProt.recordMmInfo user camera mm fuel reads
  | recordVideoMedia user camera mm =>
      some (SanbaoProt.recordVideoMedia user camera mm)

structure SaveMedia where
  taskIndex : UInt32
  cls : Nat → Option CaptureTask
  sType : SType

def SaveMedia.started : SaveMedia := ⟨0, fun _ => none, SType.zero⟩

inductive SaveEvent where
  /-- A report with this number calls `push_mm_queue`. -/
  | pushed (number : Nat) (mm : InfoForStore) (ret : Int)
  /-- The thread itself stores photos. -/
  | storeJpegs (reader : Option String) (mm : InfoForStore)
  | addTask (task : Option CaptureTask)
  | encoder (call : EncoderCall)
  deriving DecidableEq, Repr

def captureTask (b : Build) (mm : InfoForStore) : CaptureTask :=
  let userIndex := b.alertTypeToIndex mm.warnType
  if mm.getAnotherCameraVideo = 0 then
    .recordMmInfo b.jpegUser[userIndex]? b.videoUser[userIndex]? b.camera mm
  else .recordVideoMedia b.relatedUser[userIndex]? b.anotherCamera mm

/-- The part of a pass behind the pull. -/
def addCapture (b : Build) (mm : InfoForStore) (s : SaveMedia) :
    SaveMedia × List SaveEvent :=
  let taskIndex := s.taskIndex % UInt32.ofNat warnTypeNum
  let userIndex := b.alertTypeToIndex mm.warnType
  if mm.getAnotherCameraVideo = 0 ∧ userIndex = b.snapType.toNat then
    -- the closure that was in the slot before is added
    ({ s with taskIndex := taskIndex + 1 },
      [.storeJpegs b.jpegUser[userIndex]? mm,
        .addTask (s.cls taskIndex.toNat)])
  else
    let cls := Function.update s.cls taskIndex.toNat (some (captureTask b mm))
    ({ s with taskIndex := taskIndex + 1, cls := cls },
      [.addTask (cls taskIndex.toNat)])

def Build.storedPara : (b : Build) → ParaStore → Packed b.paraSize
  | .adas => ParaStore.adas
  | .dms => ParaStore.dms

/-- One pass of the loop over `g_image_queue`. -/
def savePass (b : Build) (config : CoderConfig) (para : ParaStore)
    (queue : List (PtrQueueNode InfoForStore)) (s : SaveMedia) :
    List (PtrQueueNode InfoForStore) × SaveMedia × List SaveEvent :=
  match pullMmQueue queue with
  | none =>
      let out := configVideoResolution b config (b.storedPara para) s.sType
      (queue, { s with sType := out.1 }, out.2.map .encoder)
  | some (mm, rest) => (rest, addCapture b mm s)

/-! ## The media thread beside the reports -/

/-- The record that a phase pushes. -/
def Phase.record? (mm : InfoForStore) : Phase → Option InfoForStore
  | .store => some { mm with getAnotherCameraVideo := 0 }
  | .storeAnother =>
      if mm.videoEnable then some { mm with getAnotherCameraVideo := 1 }
      else none
  | .storePhotos =>
      if mm.photoEnable then some { mm with getAnotherCameraVideo := 0 }
      else none
  | _ => none

def Building.nextRecords (b : Building) : List InfoForStore :=
  match b.todo with
  | [] => []
  | p :: _ => (p.record? b.report.mm).toList

def Building.pushes (queue : List (PtrQueueNode InfoForStore)) (number : Nat)
    (b : Building) : List SaveEvent :=
  b.nextRecords.map fun mm =>
    .pushed number mm (ptrQueuePush queue ⟨mm, none⟩).1

structure MediaSystem where
  reporting : Reporting
  save : SaveMedia

inductive MediaInput where
  | start (type statusFlag : UInt8) (msgbuf : Mem UInt8)
  | proceed (number : Nat)
  /-- What the other threads make of the rest of the world. -/
  | others (world : World)
  /-- A pass of the media thread. -/
  | save

namespace MediaSystem

def queue (s : MediaSystem) : List (PtrQueueNode InfoForStore) :=
  s.reporting.world.imageQueue

def setQueue (s : MediaSystem) (queue : List (PtrQueueNode InfoForStore)) :
    Reporting :=
  { s.reporting with
    world := { s.reporting.world with imageQueue := queue } }

/-- The records that the media thread has not pulled yet. -/
def pending (s : MediaSystem) : List InfoForStore :=
  s.queue.map PtrQueueNode.header

end MediaSystem

def mediaSystem (b : Build) (config : CoderConfig) :
    Mealy MediaSystem MediaInput SaveEvent where
  step s
    | .start type statusFlag msgbuf =>
        ({ s with
            reporting := ((reporting ⟨b, .tcp⟩).step s.reporting
              (.start type statusFlag msgbuf)).1 }, [])
    | .proceed number =>
        ({ s with
            reporting := ((reporting ⟨b, .tcp⟩).step s.reporting
              (.proceed number)).1 },
          match s.reporting.reports[number]? with
          | none => []
          | some building => building.pushes s.queue number)
    | .others world =>
        ({ s with
            reporting := ((reporting ⟨b, .tcp⟩).step s.reporting
              (.others { world with imageQueue := s.queue })).1 }, [])
    | .save =>
        let out := savePass b config s.reporting.world.para s.queue s.save
        (⟨s.setQueue out.1, out.2.1⟩, out.2.2)

def mediaStarted (w : World) (dir : Option (List DirEntry)) : MediaSystem :=
  ⟨reportingStarted { w with imageQueue := [] } dir, SaveMedia.started⟩

/-! ## What is handed over -/

/-- The records that the queue has taken. -/
def acceptedRecord : SaveEvent → Option InfoForStore
  | .pushed _ mm ret => if ret = 0 then some mm else none
  | _ => none

def addedTask : SaveEvent → Option (Option CaptureTask)
  | .addTask task => some task
  | _ => none

def SaveEvent.storesPhotos : SaveEvent → Bool
  | .storeJpegs _ _ => true
  | _ => false

/-- No type has an index that is the type of a snapshot. -/
theorem alertTypeToIndex_ne (b : Build) (type : UInt8) :
    b.alertTypeToIndex type ≠ b.snapType.toNat := by
  cases b with
  | adas =>
      change adasAlertTypeToIndex type ≠ 17
      unfold adasAlertTypeToIndex
      split_ifs <;> decide
  | dms =>
      change dmsAlertTypeToIndex type ≠ 16
      unfold dmsAlertTypeToIndex
      split_ifs <;> decide

theorem addCapture_events (b : Build) (mm : InfoForStore) (s : SaveMedia) :
    (addCapture b mm s).2 = [.addTask (some (captureTask b mm))] := by
  have hbranch : ¬ (mm.getAnotherCameraVideo = 0 ∧
      b.alertTypeToIndex mm.warnType = b.snapType.toNat) :=
    fun h => alertTypeToIndex_ne b mm.warnType h.2
  simp only [addCapture, if_neg hbranch, Function.update_self]

theorem pullMmQueue_cons (node : PtrQueueNode InfoForStore)
    (rest : List (PtrQueueNode InfoForStore)) :
    pullMmQueue (node :: rest) = some (node.header, rest) := by
  obtain ⟨header, buf⟩ := node
  cases buf with
  | none => rfl
  | some data => rfl

/-- With the TCP link a record is pushed, and nothing else changes the
queue. -/
theorem Phase.run_queue (b : Build) (p : Phase) (r : Report) :
    (p.run ⟨b, .tcp⟩ r).world.imageQueue =
      pushRecords r.world.imageQueue (p.record? r.mm).toList := by
  have hvideo (r : Report) :
      r.addVideo.world.imageQueue = r.world.imageQueue := by
    unfold Report.addVideo
    split_ifs <;> rfl
  cases p with
  | photos =>
      change r.addPhotos.world.imageQueue = _
      unfold Report.addPhotos
      split_ifs <;> rfl
  | video => exact hvideo r
  | anotherVideo =>
      change r.anotherVideo.world.imageQueue = _
      unfold Report.anotherVideo
      split_ifs
      · exact hvideo _
      · rfl
  | store => rfl
  | storeAnother =>
      simp only [run, record?]
      split_ifs <;> rfl
  | storePhotos =>
      simp only [run, record?]
      split_ifs <;> rfl
  | loadBegin => rfl
  | saveBegin => rfl

theorem headers_push (queue : List (PtrQueueNode InfoForStore))
    (mm : InfoForStore) (number : Nat) :
    (ptrQueuePush queue ⟨mm, none⟩).2.map PtrQueueNode.header =
      queue.map PtrQueueNode.header ++
        (acceptedRecord (.pushed number mm
          (ptrQueuePush queue ⟨mm, none⟩).1)).toList := by
  unfold ptrQueuePush acceptedRecord
  split_ifs <;> simp_all

section Handover

variable {b : Build} {config : CoderConfig}

theorem pushes_accepted (building : Building) (w : World) (number : Nat) :
    (building.next ⟨b, .tcp⟩ w).1.imageQueue.map PtrQueueNode.header =
      w.imageQueue.map PtrQueueNode.header ++
        (building.pushes w.imageQueue number).filterMap acceptedRecord := by
  obtain ⟨statusFlag, r, todo⟩ := building
  cases todo with
  | nil => exact (List.append_nil _).symm
  | cons p todo =>
      simp only [Building.next, Building.pushes, Building.nextRecords,
        Phase.run_queue]
      cases hrecord : p.record? r.mm with
      | none => exact (List.append_nil _).symm
      | some mm =>
          have hpush := headers_push w.imageQueue mm number
          refine hpush.trans (congrArg _ ?_)
          cases hret : acceptedRecord _ <;> simp [hret]

theorem pushes_added (building : Building)
    (queue : List (PtrQueueNode InfoForStore)) (number : Nat) :
    (building.pushes queue number).filterMap addedTask = [] := by
  rw [Building.pushes, List.filterMap_map]
  exact List.filterMap_eq_nil_iff.mpr fun mm _ => rfl

theorem savePass_empty (b : Build) (config : CoderConfig) (para : ParaStore)
    (s : SaveMedia) :
    ∃ sType, ∃ calls : List EncoderCall, savePass b config para [] s =
      ([], { s with sType := sType }, calls.map .encoder) :=
  ⟨_, _, rfl⟩

theorem savePass_cons (para : ParaStore)
    (node : PtrQueueNode InfoForStore)
    (rest : List (PtrQueueNode InfoForStore)) (s : SaveMedia) :
    savePass b config para (node :: rest) s =
      (rest, (addCapture b node.header s).1,
        [.addTask (some (captureTask b node.header))]) := by
  rw [savePass, pullMmQueue_cons, ← addCapture_events b node.header s]

/-- The image queue is first in, first out. -/
theorem mediaSystem_fifo (b : Build) (config : CoderConfig) :
    (mediaSystem b config).Fifo (fun s records => s.pending = records)
      acceptedRecord addedTask
      (fun mm task => task = some (captureTask b mm)) where
  step s i records hrecords := by
    subst hrecords
    cases i with
    | start type statusFlag msgbuf =>
        exact ⟨[], s.pending, List.append_nil _, List.Forall₂.nil, rfl⟩
    | others world =>
        exact ⟨[], s.pending, List.append_nil _, List.Forall₂.nil, rfl⟩
    | proceed number =>
        simp only [mediaSystem, reporting, MediaSystem.pending,
          MediaSystem.queue]
        cases hbuilding : s.reporting.reports[number]? with
        | none =>
            exact ⟨[], _, List.append_nil _, List.Forall₂.nil, rfl⟩
        | some building =>
            refine ⟨[], _, ?_, ?_, rfl⟩
            · exact (pushes_accepted building s.reporting.world number).symm
            · rw [pushes_added]
              exact List.Forall₂.nil
    | save =>
        simp only [mediaSystem, MediaSystem.pending, MediaSystem.queue,
          MediaSystem.setQueue]
        cases hqueue : s.reporting.world.imageQueue with
        | nil =>
            obtain ⟨sType, calls, hpass⟩ :=
              savePass_empty b config s.reporting.world.para s.save
            refine ⟨[], [], ?_, ?_, ?_⟩
            · rw [hpass]
              simp [acceptedRecord]
            · rw [hpass]
              simp [addedTask]
            · rw [hpass]
              rfl
        | cons node rest =>
            refine ⟨[node.header], rest.map PtrQueueNode.header, ?_, ?_, ?_⟩
            · rw [savePass_cons]
              simp [acceptedRecord]
            · rw [savePass_cons]
              exact List.Forall₂.cons rfl List.Forall₂.nil
            · rw [savePass_cons]

theorem mediaSystem_storesPhotos (s : MediaSystem) (i : MediaInput) :
    ∀ e ∈ ((mediaSystem b config).step s i).2, e.storesPhotos = false := by
  cases i with
  | start type statusFlag msgbuf => exact fun _ he => absurd he (by rintro ⟨⟩)
  | others world => exact fun _ he => absurd he (by rintro ⟨⟩)
  | proceed number =>
      intro e he
      simp only [mediaSystem] at he
      cases hbuilding : s.reporting.reports[number]? with
      | none =>
          rw [hbuilding] at he
          cases he
      | some building =>
          rw [hbuilding] at he
          obtain ⟨mm, -, rfl⟩ := List.mem_map.mp he
          rfl
  | save =>
      intro e he
      change e ∈ (savePass b config s.reporting.world.para s.queue s.save).2.2
        at he
      cases hqueue : s.queue with
      | nil =>
          obtain ⟨sType, calls, hpass⟩ :=
            savePass_empty b config s.reporting.world.para s.save
          rw [hqueue, hpass] at he
          obtain ⟨call, -, rfl⟩ := List.mem_map.mp he
          rfl
      | cons node rest =>
          rw [hqueue, savePass_cons] at he
          obtain rfl := List.mem_singleton.mp he
          rfl

/-- The pool has got the tasks of all records that are not in the queue. -/
theorem accepted_handedOver (b : Build) (config : CoderConfig) (w : World)
    (dir : Option (List DirEntry)) (inputs : List MediaInput) :
    let start := mediaStarted w dir
    let events := (mediaSystem b config).outputs start inputs
    ∃ captured,
      events.filterMap acceptedRecord =
          captured ++ ((mediaSystem b config).final start inputs).pending ∧
        events.filterMap addedTask =
          captured.map fun mm => some (captureTask b mm) := by
  intro start events
  obtain ⟨captured, pending, haccepted, hadded, hpending⟩ :=
    (mediaSystem_fifo b config).run (rfl : start.pending = []) inputs
  refine ⟨captured, ?_, ?_⟩
  · rw [hpending]
    exact haccepted
  · have hmap := List.forall₂_map_left_iff.mpr
      (hadded.imp fun mm task h => h.symm)
    exact (List.forall₂_eq_eq_eq ▸ hmap).symm

/-- Each record that the queue has taken is handed to the thread pool once, in
order, as a task of its own, or is still in the queue. -/
theorem records_handedOver (b : Build) (config : CoderConfig) (w : World)
    (dir : Option (List DirEntry)) (inputs : List MediaInput) :
    let start := mediaStarted w dir
    let events := (mediaSystem b config).outputs start inputs
    (∃ captured,
      events.filterMap acceptedRecord =
          captured ++ ((mediaSystem b config).final start inputs).pending ∧
        events.filterMap addedTask =
          captured.map fun mm => some (captureTask b mm)) ∧
      ∀ e ∈ events, e.storesPhotos = false := by
  intro start events
  constructor
  · exact accepted_handedOver b config w dir inputs
  · exact Mealy.outputs_of_invariant (I := fun _ => True)
      (fun s i _ => ⟨trivial, mediaSystem_storesPhotos s i⟩) trivial inputs

end Handover

end SanbaoProt
