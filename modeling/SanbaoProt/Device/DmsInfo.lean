import SanbaoProt.Device.Headway

/-!
# The alert frames of the DMS device

`dealWsiDmsInfo` compares the alert fields of a frame with those of the frame
handled before it.  Five alerts are looked at in the order of their priority,
each through the speed filter and then through its own time filter; a speed
that is too low leaves the function.  Behind them come the change of the driver
and the end of an absence.  What the five alerts of a frame come to is
`dmsAlertEvents_spec`.
-/

namespace SanbaoProt

open Library

/-- A two-bit field of `DmsAlertInfo`. -/
structure DmsField where
  byte : Fin 8
  shift : UInt8

namespace DmsField

def value (field : DmsField) (alert : Packed 8) : UInt8 :=
  (alert field.byte >>> field.shift) &&& 0x03

def alertEyeClose1 : DmsField := ⟨⟨0, by decide⟩, 0⟩
def alertEyeClose2 : DmsField := ⟨⟨0, by decide⟩, 2⟩
def alertLookAround : DmsField := ⟨⟨0, by decide⟩, 4⟩
def alertYawn : DmsField := ⟨⟨0, by decide⟩, 6⟩
def alertPhone : DmsField := ⟨⟨1, by decide⟩, 0⟩
def alertSmoking : DmsField := ⟨⟨1, by decide⟩, 2⟩
def alertAbsence : DmsField := ⟨⟨1, by decide⟩, 4⟩
def alertBow : DmsField := ⟨⟨1, by decide⟩, 6⟩
def alertFaceId : DmsField := ⟨⟨2, by decide⟩, 2⟩

def Rises (field : DmsField) (last cur : Packed 8) : Prop :=
  field.value cur ≠ 0 ∧ field.value last = 0

instance (field : DmsField) (last cur : Packed 8) :
    Decidable (field.Rises last cur) :=
  inferInstanceAs (Decidable (_ ∧ _))

end DmsField

inductive DmsAlert where
  | fatigue
  | distract
  | calling
  | smoking
  | abnormal
  deriving DecidableEq, Repr

namespace DmsAlert

def byPriority : List DmsAlert :=
  [fatigue, distract, calling, smoking, abnormal]

def warnType : DmsAlert → UInt8
  | fatigue => dmsFatigueWarn
  | distract => dmsDistractWarn
  | calling => dmsCallingWarn
  | smoking => dmsSmokingWarn
  | abnormal => dmsAbnormalWarn

def ofType (type : UInt8) : Option DmsAlert :=
  byPriority.find? fun t => t.warnType == type

def fields : DmsAlert → List DmsField
  | fatigue =>
      [DmsField.alertEyeClose1, DmsField.alertEyeClose2, DmsField.alertYawn]
  | distract => [DmsField.alertLookAround, DmsField.alertBow]
  | calling => [DmsField.alertPhone]
  | smoking => [DmsField.alertSmoking]
  | abnormal => [DmsField.alertAbsence]

def videoTime : DmsAlert → Fin 43
  | fatigue => DmsPara.fatigueDrivVideoTime
  | distract => DmsPara.distractionDrivVideoTime
  | calling => DmsPara.callingDrivVideoTime
  | smoking => DmsPara.smokingDrivVideoTime
  | abnormal => DmsPara.abnormalDrivVideoTime

def Raised (t : DmsAlert) (last cur : Packed 8) : Prop :=
  ∃ field ∈ t.fields, field.Rises last cur

instance (t : DmsAlert) (last cur : Packed 8) :
    Decidable (t.Raised last cur) :=
  inferInstanceAs (Decidable (∃ field ∈ t.fields, _))

@[simp] theorem ofType_warnType (t : DmsAlert) : ofType t.warnType = some t := by
  cases t <;> rfl

theorem mem_byPriority (t : DmsAlert) : t ∈ byPriority := by
  cases t <;> simp [byPriority]

theorem byPriority_nodup : byPriority.Nodup := by
  decide

end DmsAlert

def dmsAlertMask : Packed 8 :=
  Packed.ofList 8 [0xFF, 0xFF, 0x0F, 0, 0, 0, 0, 0]

def maskAlert (warning : Packed 8) : Packed 8 :=
  fun i => warning i &&& dmsAlertMask i

/-- The statics of `deal_wsi_dms_info` that are read. -/
structure DmsInfo where
  /-- `dms_fatigue_warn`, `dms_distract_warn`, … -/
  warn : DmsAlert → Int
  absenceRelease : Int
  alertLast : Packed 8

def DmsInfo.zero : DmsInfo where
  warn := fun _ => 0
  absenceRelease := 0
  alertLast := fun _ => 0

/-- An alert frame, the configuration and what the clock reads meanwhile. -/
structure DmsFrame where
  warning : Packed 8
  speedFilterEnable : Bool
  alertTimeFilter : Int8
  warnNow : DmsAlert → Int
  releaseNow : Int
  msgbuf : Mem UInt8
  snapEnv : Env

def filterDmsAlertSetTime : UInt32 := 10

structure DmsAlerting where
  info : DmsInfo
  msgbuf : Mem UInt8
  world : World
  effects : List Effect

def dmsStart (f : DmsFrame) (s : DmsInfo) (w : World) : DmsAlerting where
  info := s
  msgbuf := f.msgbuf
  world := w
  effects := []

def DmsAlerting.report (a : DmsAlerting) (target : Target) (type : UInt8) :
    DmsAlerting :=
  let built := buildDmsWarnFrame target a.world type sbWarnStatusNone a.msgbuf
  let sent := sendReport target built
  { a with
    msgbuf := built.msgbuf
    world := sent.1
    effects := a.effects ++ sent.2 }

/-- An error is the jump to `out`. -/
def dmsAlertEvent (target : Target) (f : DmsFrame) (filterTime : UInt32)
    (t : DmsAlert) (a : DmsAlerting) : Except DmsAlerting DmsAlerting :=
  if t.Raised a.info.alertLast (maskAlert f.warning) then
    if filterAlertBySpeed f.speedFilterEnable a.world then
      if filterAlertByTime (a.info.warn t) (f.warnNow t) filterTime then
        let due : DmsAlerting :=
          { a with
            info :=
              { a.info with
                warn := Function.update a.info.warn t (f.warnNow t) } }
        .ok (due.report target t.warnType)
      else .ok a
    else .error a
  else .ok a

def dmsAlertEvents (target : Target) (f : DmsFrame)
    (filterTime : DmsAlert → UInt32) :
    List DmsAlert → DmsAlerting → Except DmsAlerting DmsAlerting
  | [], a => .ok a
  | t :: ts, a =>
      match dmsAlertEvent target f (filterTime t) t a with
      | .ok a' => dmsAlertEvents target f filterTime ts a'
      | .error a' => .error a'

/-- The end of an absence is not looked at in a frame that changes the
driver. -/
def driverChangeEvent (target : Target) (f : DmsFrame) (a : DmsAlerting) :
    Except DmsAlerting DmsAlerting :=
  if DmsField.alertFaceId.Rises a.info.alertLast (maskAlert f.warning) then
    .error (a.report target dmsDriverChange)
  else .ok a

def AbsenceEnds (last cur : Packed 8) : Prop :=
  DmsField.alertAbsence.value cur = 0 ∧ DmsField.alertAbsence.value last ≠ 0

instance (last cur : Packed 8) : Decidable (AbsenceEnds last cur) :=
  inferInstanceAs (Decidable (_ ∧ _))

def absenceReleaseEvent (target : Target) (f : DmsFrame) (a : DmsAlerting) :
    Except DmsAlerting DmsAlerting :=
  if AbsenceEnds a.info.alertLast (maskAlert f.warning) then
    if filterAlertBySpeed f.speedFilterEnable a.world then
      if filterAlertByTime a.info.absenceRelease f.releaseNow
          filterDmsAlertSetTime then
        let snap := doSnapShot target f.snapEnv a.world
        .ok
          { a with
            info := { a.info with absenceRelease := f.releaseNow }
            world := snap.1
            effects := a.effects ++ snap.2 }
      else .ok a
    else .error a
  else .ok a

def dmsFilterTime (f : DmsFrame) (para : DmsPara) (t : DmsAlert) : UInt32 :=
  alertFilterTime (para t.videoTime) f.alertTimeFilter

def dmsEvents (target : Target) (f : DmsFrame) (w : World)
    (a : DmsAlerting) : Except DmsAlerting DmsAlerting :=
  match dmsAlertEvents target f (dmsFilterTime f w.para.dms)
      DmsAlert.byPriority a with
  | .ok a' =>
      match driverChangeEvent target f a' with
      | .ok a'' => absenceReleaseEvent target f a''
      | .error a'' => .error a''
  | .error a' => .error a'

def dmsAtOut : Except DmsAlerting DmsAlerting → DmsAlerting
  | .ok a => a
  | .error a => a

def dealWsiDmsInfo (target : Target) (f : DmsFrame) (s : DmsInfo)
    (w : World) : DmsInfo × World × List Effect :=
  let start := dmsStart f s w
  let done :=
    if maskAlert f.warning = s.alertLast then start
    else dmsAtOut (dmsEvents target f w start)
  ({ done.info with alertLast := maskAlert f.warning }, done.world,
    done.effects)

def dmsTarget (i : Interface) : Target := ⟨.dms, i⟩

/-- As for the CAN frames, the other threads may change the world in any way
between two alert frames. -/
def dmsInfo (target : Target) : Mealy DmsInfo (DmsFrame × World) Effect where
  step s i :=
    let out := dealWsiDmsInfo target i.1 s i.2
    (out.1, out.2.2)

/-! ## The reports that are queued -/

def reportType : Effect → Option UInt8
  | .send cmd payload _ =>
      if cmd = sampleCmdWarningReport then payload[soundTypeOffset]? else none
  | _ => none

def reportTypes (effects : List Effect) : List UInt8 :=
  effects.filterMap reportType

@[simp] theorem reportTypes_append (first second : List Effect) :
    reportTypes (first ++ second) = reportTypes first ++ reportTypes second :=
  List.filterMap_append

theorem reportTypes_storing {effects : List Effect}
    (h : AllOf Effect.isStoring effects) : reportTypes effects = [] := by
  rw [reportTypes, List.filterMap_eq_nil_iff]
  intro e he
  have hstoring := h e he
  cases e with
  | send cmd payload node => cases hstoring
  | _ => rfl

theorem sendReport_reportTypes (target : Target) {w : World} {r : Report}
    (h : r.Stores w) :
    reportTypes (sendReport target r).2 = [r.msgbuf soundTypeOffset] := by
  have hstored : reportTypes r.effects = [] := reportTypes_storing h.2
  rw [sendReport, reportTypes_append, hstored, List.nil_append,
    sendMessage_apply]
  have hsound := r.getElem?_payload (j := soundTypeOffset) (by decide)
  simp [reportTypes, reportType, hsound]

theorem buildDmsWarnFrame_soundType (target : Target) (w : World)
    (type statusFlag : UInt8) (msgbuf : Mem UInt8) :
    (buildDmsWarnFrame target w type statusFlag msgbuf).msgbuf
      soundTypeOffset = type := by
  have hkeep := buildDmsWarnFrame_sameHead target w type statusFlag msgbuf
  have hfilled := fillReport_head w (getDmsInfoForStore type w.para.dms) type
    statusFlag msgbuf
  exact (hkeep _ (by decide)).trans hfilled.2

namespace DmsAlerting

variable (a : DmsAlerting) (target : Target) (type : UInt8)

@[simp] theorem report_info : (a.report target type).info = a.info := rfl

theorem report_sameCore : SameCore a.world (a.report target type).world :=
  (sendReport_quiet target (buildDmsWarnFrame_storing target a.world type
    sbWarnStatusNone a.msgbuf)).1

theorem report_reportTypes :
    reportTypes (a.report target type).effects =
      reportTypes a.effects ++ [type] := by
  have hsent := sendReport_reportTypes target
    (buildDmsWarnFrame_storing target a.world type sbWarnStatusNone a.msgbuf)
  rw [buildDmsWarnFrame_soundType] at hsent
  rw [report, reportTypes_append, hsent]

end DmsAlerting

/-! ## The five alerts of a frame -/

/-- The alert is raised and passes its two filters. -/
def DmsAlerting.Queues (a : DmsAlerting) (f : DmsFrame)
    (filterTime : DmsAlert → UInt32) (t : DmsAlert) : Prop :=
  t.Raised a.info.alertLast (maskAlert f.warning) ∧
    filterAlertBySpeed f.speedFilterEnable a.world ∧
    filterAlertByTime (a.info.warn t) (f.warnNow t) (filterTime t)

instance (a : DmsAlerting) (f : DmsFrame) (filterTime : DmsAlert → UInt32)
    (t : DmsAlert) : Decidable (a.Queues f filterTime t) :=
  inferInstanceAs (Decidable (_ ∧ _ ∧ _))

/-- What the alerts in `ts` have made of `a`. -/
structure AlertsDone (f : DmsFrame) (filterTime : DmsAlert → UInt32)
    (ts : List DmsAlert) (a a' : DmsAlerting) : Prop where
  core : SameCore a.world a'.world
  last : a'.info.alertLast = a.info.alertLast
  release : a'.info.absenceRelease = a.info.absenceRelease
  types : reportTypes a'.effects = reportTypes a.effects ++
    (ts.filter (a.Queues f filterTime ·)).map DmsAlert.warnType
  warn : ∀ t, a'.info.warn t =
    if t ∈ ts ∧ a.Queues f filterTime t then f.warnNow t else a.info.warn t

section

variable {f : DmsFrame} {filterTime : DmsAlert → UInt32}
  {ts : List DmsAlert} {a a' a'' : DmsAlerting}

theorem AlertsDone.unchanged (h : ∀ t ∈ ts, ¬ a.Queues f filterTime t) :
    AlertsDone f filterTime ts a a where
  core := SameCore.refl a.world
  last := rfl
  release := rfl
  types := by
    have hnone : ts.filter (a.Queues f filterTime ·) = [] := by
      simpa [List.filter_eq_nil_iff] using h
    rw [hnone, List.map_nil, List.append_nil]
  warn := by
    intro t
    rw [if_neg]
    rintro ⟨ht, hqueues⟩
    exact h t ht hqueues

theorem AlertsDone.queues_iff (h : AlertsDone f filterTime ts a a')
    {t : DmsAlert} (ht : t ∉ ts) :
    a'.Queues f filterTime t ↔ a.Queues f filterTime t := by
  have hwarn : a'.info.warn t = a.info.warn t := by
    rw [h.warn, if_neg]
    rintro ⟨hmem, -⟩
    exact ht hmem
  unfold DmsAlerting.Queues
  rw [h.last, hwarn, filterAlertBySpeed_sameCore h.core]

theorem AlertsDone.cons {t : DmsAlert} (h : AlertsDone f filterTime [t] a a')
    (h' : AlertsDone f filterTime ts a' a'') (ht : t ∉ ts) :
    AlertsDone f filterTime (t :: ts) a a'' := by
  have hqueues : ∀ u ∈ ts,
      (a'.Queues f filterTime u ↔ a.Queues f filterTime u) := by
    intro u hu
    apply h.queues_iff
    rintro hmem
    exact ht (List.mem_singleton.mp hmem ▸ hu)
  have hfilter : ts.filter (a'.Queues f filterTime ·) =
      ts.filter (a.Queues f filterTime ·) := by
    apply List.filter_congr
    intro u hu
    exact decide_eq_decide.mpr (hqueues u hu)
  refine ⟨h.core.trans h'.core, h'.last.trans h.last,
    h'.release.trans h.release, ?_, fun u => ?_⟩
  · rw [h'.types, h.types, hfilter, List.append_assoc, ← List.map_append,
      ← List.filter_append, List.singleton_append]
  · rw [h'.warn, h.warn]
    by_cases hu : u ∈ ts
    · have hne : u ≠ t := fun heq => ht (heq ▸ hu)
      simp [hu, hne, hqueues u hu]
    · simp [hu]

end

section

variable (target : Target) (f : DmsFrame)

theorem dmsAlertEvent_done (filterTime : DmsAlert → UInt32) (t : DmsAlert)
    (a : DmsAlerting) :
    AlertsDone f filterTime [t] a
      (dmsAtOut (dmsAlertEvent target f (filterTime t) t a)) := by
  have hheld : ¬ a.Queues f filterTime t → AlertsDone f filterTime [t] a a := by
    intro h
    apply AlertsDone.unchanged
    intro u hu
    rw [List.mem_singleton.mp hu]
    exact h
  unfold dmsAlertEvent
  split_ifs with hraised hspeed htime
  · have hqueues : a.Queues f filterTime t := ⟨hraised, hspeed, htime⟩
    let due : DmsAlerting :=
      { a with
        info :=
          { a.info with
            warn := Function.update a.info.warn t (f.warnNow t) } }
    refine ⟨due.report_sameCore target t.warnType, rfl, rfl, ?_, ?_⟩
    · have hfilter : [t].filter (a.Queues f filterTime ·) = [t] := by
        simp [hqueues]
      rw [hfilter]
      exact due.report_reportTypes target t.warnType
    · intro u
      change Function.update a.info.warn t (f.warnNow t) u = _
      rw [Function.update_apply]
      by_cases hu : u = t
      · simp [hu, hqueues]
      · simp [hu]
  · exact hheld fun h => htime h.2.2
  · exact hheld fun h => hspeed h.2.1
  · exact hheld fun h => hraised h.1

theorem dmsAlertEvent_error {filterTime : UInt32} {t : DmsAlert}
    {a a' : DmsAlerting} (h : dmsAlertEvent target f filterTime t a = .error a') :
    a' = a ∧ t.Raised a.info.alertLast (maskAlert f.warning) ∧
      ¬ filterAlertBySpeed f.speedFilterEnable a.world := by
  unfold dmsAlertEvent at h
  split_ifs at h with hraised hspeed
  cases h
  exact ⟨rfl, hraised, hspeed⟩

theorem dmsAlertEvent_ok {filterTime : UInt32} {t : DmsAlert}
    {a a' : DmsAlerting} (h : dmsAlertEvent target f filterTime t a = .ok a') :
    t.Raised a.info.alertLast (maskAlert f.warning) →
      filterAlertBySpeed f.speedFilterEnable a.world := by
  intro hraised
  unfold dmsAlertEvent at h
  rw [if_pos hraised] at h
  split_ifs at h with hspeed
  · exact hspeed
  · exact hspeed

/-- Each alert that is raised and passes its filters is queued once, in the
order of the list, and its time is taken. -/
theorem dmsAlertEvents_done (filterTime : DmsAlert → UInt32)
    {ts : List DmsAlert} (hnodup : ts.Nodup) (a : DmsAlerting) :
    AlertsDone f filterTime ts a
      (dmsAtOut (dmsAlertEvents target f filterTime ts a)) := by
  induction ts generalizing a with
  | nil => exact .unchanged fun t ht => by cases ht
  | cons t ts ih =>
      obtain ⟨hnew, hrest⟩ := List.nodup_cons.mp hnodup
      have hone := dmsAlertEvent_done target f filterTime t a
      rw [dmsAlertEvents]
      cases hevent : dmsAlertEvent target f (filterTime t) t a with
      | ok a' =>
          rw [hevent] at hone
          exact hone.cons (ih hrest a') hnew
      | error a' =>
          -- the speed is too low for the alerts behind it as well
          obtain ⟨rfl, -, hspeed⟩ := dmsAlertEvent_error target f hevent
          exact .unchanged fun u _ hqueues => hspeed hqueues.2.1

/-- An alert is raised and the speed is too low for it. -/
def DmsAlerting.Blocked (a : DmsAlerting) (f : DmsFrame)
    (ts : List DmsAlert) : Prop :=
  (∃ t ∈ ts, t.Raised a.info.alertLast (maskAlert f.warning)) ∧
    ¬ filterAlertBySpeed f.speedFilterEnable a.world

theorem dmsAlertEvents_leaves_iff (filterTime : DmsAlert → UInt32)
    (ts : List DmsAlert) (a : DmsAlerting) :
    (∃ a', dmsAlertEvents target f filterTime ts a = .error a') ↔
      a.Blocked f ts := by
  induction ts generalizing a with
  | nil => simp [dmsAlertEvents, DmsAlerting.Blocked]
  | cons t ts ih =>
      have hone := dmsAlertEvent_done target f filterTime t a
      rw [dmsAlertEvents]
      cases hevent : dmsAlertEvent target f (filterTime t) t a with
      | ok a' =>
          rw [hevent] at hone
          have hpasses := dmsAlertEvent_ok target f hevent
          have hlast : a'.info.alertLast = a.info.alertLast := hone.last
          have hcore : SameCore a.world a'.world := hone.core
          simp only
          rw [ih, DmsAlerting.Blocked, hlast,
            filterAlertBySpeed_sameCore hcore]
          constructor
          · rintro ⟨⟨u, hu, hraised⟩, hslow⟩
            exact ⟨⟨u, List.mem_cons_of_mem t hu, hraised⟩, hslow⟩
          · rintro ⟨⟨u, hu, hraised⟩, hslow⟩
            rcases List.mem_cons.mp hu with rfl | hu
            · exact absurd (hpasses hraised) hslow
            · exact ⟨⟨u, hu, hraised⟩, hslow⟩
      | error a' =>
          obtain ⟨rfl, hraised, hspeed⟩ := dmsAlertEvent_error target f hevent
          exact iff_of_true ⟨a', rfl⟩
            ⟨⟨t, List.mem_cons_self, hraised⟩, hspeed⟩

end

end SanbaoProt
