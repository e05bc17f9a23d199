import SanbaoProt.Device.DmsInfo

/-!
# The alerts of a run

What one alert frame queues, read off the frame, the state before it and the
world that it finds: the alerts that are raised and pass their filters, and
behind them at most one report more.  Over a run the fields are compared with
those of the frame handled before.
-/

namespace SanbaoProt

open Library

theorem DmsField.not_rises_self (field : DmsField) (alert : Packed 8) :
    ¬ field.Rises alert alert := by
  rintro ⟨hon, hoff⟩
  exact hon hoff

theorem DmsAlert.not_raised_self (t : DmsAlert) (alert : Packed 8) :
    ¬ t.Raised alert alert := by
  rintro ⟨field, -, hrises⟩
  exact field.not_rises_self alert hrises

instance (a : DmsAlerting) (f : DmsFrame) (ts : List DmsAlert) :
    Decidable (a.Blocked f ts) :=
  inferInstanceAs (Decidable ((∃ t ∈ ts, _) ∧ _))

def DmsAlerting.Releases (a : DmsAlerting) (f : DmsFrame) : Prop :=
  AbsenceEnds a.info.alertLast (maskAlert f.warning) ∧
    filterAlertBySpeed f.speedFilterEnable a.world ∧
    filterAlertByTime a.info.absenceRelease f.releaseNow filterDmsAlertSetTime

instance (a : DmsAlerting) (f : DmsFrame) : Decidable (a.Releases f) :=
  inferInstanceAs (Decidable (_ ∧ _ ∧ _))

/-- The report behind those of the five alerts. -/
def DmsAlerting.laterTypes (a : DmsAlerting) (f : DmsFrame) : List UInt8 :=
  if a.Blocked f DmsAlert.byPriority then []
  else if DmsField.alertFaceId.Rises a.info.alertLast (maskAlert f.warning) then
    [dmsDriverChange]
  else if a.Releases f then [dmsSanpshotEvent]
  else []

/-- `a'` is `a` with more reports, and perhaps a new time of the last
release. -/
structure ReportsMore (types : List UInt8) (a a' : DmsAlerting) : Prop where
  core : SameCore a.world a'.world
  warn : a'.info.warn = a.info.warn
  types : reportTypes a'.effects = reportTypes a.effects ++ types

theorem ReportsMore.nothing (a : DmsAlerting) : ReportsMore [] a a :=
  ⟨SameCore.refl a.world, rfl, (List.append_nil _).symm⟩

section

variable (i : Interface) (f : DmsFrame)

theorem doSnapShot_dmsTypes (env : Env) (w : World) :
    reportTypes (doSnapShot (dmsTarget i) env w).2 = [dmsSanpshotEvent] := by
  have hbuilt := buildDmsWarnFrame_storing (dmsTarget i) w dmsSanpshotEvent
    sbWarnStatusNone env.msgbuf
  have hsent := sendReport_reportTypes (dmsTarget i) hbuilt
  rw [buildDmsWarnFrame_soundType] at hsent
  exact hsent

theorem absenceReleaseEvent_more (a : DmsAlerting) :
    ReportsMore (if a.Releases f then [dmsSanpshotEvent] else []) a
      (dmsAtOut (absenceReleaseEvent (dmsTarget i) f a)) := by
  unfold absenceReleaseEvent
  by_cases hreleases : a.Releases f
  · obtain ⟨hends, hspeed, htime⟩ := hreleases
    rw [if_pos hends, if_pos hspeed, if_pos htime, if_pos ⟨hends, hspeed, htime⟩]
    refine ⟨(doSnapShot_quiet (dmsTarget i) f.snapEnv a.world).1, rfl, ?_⟩
    simp only [dmsAtOut, reportTypes_append, doSnapShot_dmsTypes]
  · rw [if_neg hreleases]
    split_ifs with hends hspeed htime
    · exact absurd ⟨hends, hspeed, htime⟩ hreleases
    · exact .nothing a
    · exact .nothing a
    · exact .nothing a

theorem dmsEvents_more (w : World) (a : DmsAlerting) :
    ReportsMore (a.laterTypes f)
      (dmsAtOut (dmsAlertEvents (dmsTarget i) f (dmsFilterTime f w.para.dms)
        DmsAlert.byPriority a))
      (dmsAtOut (dmsEvents (dmsTarget i) f w a)) := by
  have hdone := dmsAlertEvents_done (dmsTarget i) f
    (dmsFilterTime f w.para.dms) DmsAlert.byPriority_nodup a
  have hleaves := dmsAlertEvents_leaves_iff (dmsTarget i) f
    (dmsFilterTime f w.para.dms) DmsAlert.byPriority a
  unfold dmsEvents DmsAlerting.laterTypes
  cases hevents : dmsAlertEvents (dmsTarget i) f (dmsFilterTime f w.para.dms)
      DmsAlert.byPriority a with
  | error a' =>
      rw [if_pos (hleaves.mp ⟨a', hevents⟩)]
      exact .nothing a'
  | ok a' =>
      have hpasses : ¬ a.Blocked f DmsAlert.byPriority := by
        intro hblocked
        obtain ⟨a'', herror⟩ := hleaves.mpr hblocked
        rw [hevents] at herror
        cases herror
      rw [hevents] at hdone
      have hlast : a'.info.alertLast = a.info.alertLast := hdone.last
      have hreleases : a'.Releases f ↔ a.Releases f := by
        have hcore : SameCore a.world a'.world := hdone.core
        have hrelease : a'.info.absenceRelease = a.info.absenceRelease :=
          hdone.release
        unfold DmsAlerting.Releases
        rw [hlast, hrelease, filterAlertBySpeed_sameCore hcore]
      rw [if_neg hpasses]
      simp only [driverChangeEvent, hlast]
      split_ifs with hchange hends
      · exact ⟨a'.report_sameCore (dmsTarget i) dmsDriverChange, rfl,
          a'.report_reportTypes (dmsTarget i) dmsDriverChange⟩
      · have hmore := absenceReleaseEvent_more i f a'
        rw [if_pos (hreleases.mpr hends)] at hmore
        exact hmore
      · have hmore := absenceReleaseEvent_more i f a'
        rw [if_neg (mt hreleases.mp hends)] at hmore
        exact hmore

/-- What an alert frame queues and what it leaves in the statics. -/
structure DmsHandled (f : DmsFrame) (s : DmsInfo) (w : World)
    (out : DmsInfo × World × List Effect) : Prop where
  core : SameCore w out.2.1
  last : out.1.alertLast = maskAlert f.warning
  types : reportTypes out.2.2 =
    (DmsAlert.byPriority.filter
      ((dmsStart f s w).Queues f (dmsFilterTime f w.para.dms) ·)).map
        DmsAlert.warnType ++ (dmsStart f s w).laterTypes f
  warn : ∀ t, out.1.warn t =
    if (dmsStart f s w).Queues f (dmsFilterTime f w.para.dms) t then
      f.warnNow t
    else s.warn t

theorem dealWsiDmsInfo_handled (s : DmsInfo) (w : World) :
    DmsHandled f s w (dealWsiDmsInfo (dmsTarget i) f s w) := by
  unfold dealWsiDmsInfo
  simp only
  split_ifs with hsame
  · -- the same alerts raise nothing
    have hqueues : ∀ t,
        ¬ (dmsStart f s w).Queues f (dmsFilterTime f w.para.dms) t := by
      rintro t ⟨hraised, -⟩
      rw [hsame] at hraised
      exact t.not_raised_self _ hraised
    have hlater : (dmsStart f s w).laterTypes f = [] := by
      unfold DmsAlerting.laterTypes
      rw [if_neg, if_neg, if_neg]
      · rintro ⟨⟨hoff, hon⟩, -⟩
        rw [hsame] at hoff
        exact hon hoff
      · rw [hsame]
        exact DmsField.not_rises_self _ _
      · rintro ⟨⟨t, -, hraised⟩, -⟩
        rw [hsame] at hraised
        exact t.not_raised_self _ hraised
    refine ⟨SameCore.refl w, rfl, ?_, fun t => ?_⟩
    · have hdone : AlertsDone f (dmsFilterTime f w.para.dms)
          DmsAlert.byPriority (dmsStart f s w) (dmsStart f s w) :=
        .unchanged fun t _ => hqueues t
      rw [hlater, List.append_nil]
      exact hdone.types
    · rw [if_neg (hqueues t)]
      rfl
  · have hdone := dmsAlertEvents_done (dmsTarget i) f
      (dmsFilterTime f w.para.dms) DmsAlert.byPriority_nodup
      (dmsStart f s w)
    have hmore := dmsEvents_more i f w (dmsStart f s w)
    refine ⟨hdone.core.trans hmore.core, rfl, ?_, fun t => ?_⟩
    · have htypes := hmore.types
      rw [hdone.types] at htypes
      exact htypes
    · have hwarn := hdone.warn t
      simp only [DmsAlert.mem_byPriority, true_and] at hwarn
      exact (congrFun hmore.warn t).trans hwarn

end

/-! ## Runs -/

/-- The alert fields of the frame handled before; at the start none is on. -/
def previousAlert (before : List (DmsFrame × World)) : Packed 8 :=
  match before.getLast? with
  | none => DmsInfo.zero.alertLast
  | some (f, _) => maskAlert f.warning

theorem dmsInfo_alertLast (i : Interface) (before : List (DmsFrame × World)) :
    ((dmsInfo (dmsTarget i)).final DmsInfo.zero before).alertLast =
      previousAlert before := by
  cases before using List.reverseRecOn with
  | nil => rfl
  | append_singleton before input =>
      rw [previousAlert, List.getLast?_append, Mealy.final_append]
      exact (dealWsiDmsInfo_handled i input.1 _ input.2).last

/-- The five alerts among the reports. -/
def alertReports (effects : List Effect) : List DmsAlert :=
  (reportTypes effects).filterMap DmsAlert.ofType

theorem DmsAlerting.laterTypes_noAlert (a : DmsAlerting) (f : DmsFrame) :
    (a.laterTypes f).filterMap DmsAlert.ofType = [] := by
  unfold laterTypes
  split_ifs
  · rfl
  · rfl
  · rfl
  · rfl

theorem DmsHandled.alertReports {f : DmsFrame} {s : DmsInfo} {w : World}
    {out : DmsInfo × World × List Effect} (h : DmsHandled f s w out) :
    alertReports out.2.2 = DmsAlert.byPriority.filter
      ((dmsStart f s w).Queues f (dmsFilterTime f w.para.dms) ·) := by
  rw [SanbaoProt.alertReports, h.types, List.filterMap_append,
    DmsAlerting.laterTypes_noAlert, List.append_nil, List.filterMap_map]
  have hofType : DmsAlert.ofType ∘ DmsAlert.warnType = some :=
    funext DmsAlert.ofType_warnType
  rw [hofType, List.filterMap_some]

theorem DmsHandled.driverChanges {f : DmsFrame} {s : DmsInfo} {w : World}
    {out : DmsInfo × World × List Effect} (h : DmsHandled f s w out)
    (hrises : DmsField.alertFaceId.Rises s.alertLast (maskAlert f.warning)) :
    (reportTypes out.2.2).count dmsDriverChange = 1 ↔
      ¬ (dmsStart f s w).Blocked f DmsAlert.byPriority := by
  have halerts : ((DmsAlert.byPriority.filter
      ((dmsStart f s w).Queues f (dmsFilterTime f w.para.dms) ·)).map
        DmsAlert.warnType).count dmsDriverChange = 0 := by
    rw [List.count_eq_zero]
    intro hmem
    obtain ⟨t, -, htype⟩ := List.mem_map.mp hmem
    cases t <;> cases htype
  rw [h.types, List.count_append, halerts, Nat.zero_add,
    DmsAlerting.laterTypes]
  split_ifs with hblocked hchange
  · simpa using hblocked
  · simpa using hblocked
  · exact absurd hrises hchange
  · exact absurd hrises hchange

def DriverChangesReported (i : Interface) (inputs : List (DmsFrame × World)) :
    Prop :=
  ∀ before f w after, inputs = before ++ (f, w) :: after →
    DmsField.alertFaceId.Rises (previousAlert before) (maskAlert f.warning) →
    let M := dmsInfo (dmsTarget i)
    (reportTypes (M.step (M.final DmsInfo.zero before) (f, w)).2).count
      dmsDriverChange = 1

theorem driverChange_queued_iff (i : Interface)
    (before : List (DmsFrame × World)) (f : DmsFrame) (w : World)
    (hrises : DmsField.alertFaceId.Rises (previousAlert before)
      (maskAlert f.warning)) :
    let M := dmsInfo (dmsTarget i)
    (reportTypes (M.step (M.final DmsInfo.zero before) (f, w)).2).count
        dmsDriverChange = 1 ↔
      filterAlertBySpeed f.speedFilterEnable w ∨
        ∀ t : DmsAlert,
          ¬ t.Raised (previousAlert before) (maskAlert f.warning) := by
  intro M
  have hlast := dmsInfo_alertLast i before
  let s := M.final DmsInfo.zero before
  have hstart : (dmsStart f s w).info.alertLast = previousAlert before := hlast
  have hcount := (dealWsiDmsInfo_handled i f s w).driverChanges
    (by rw [hlast]; exact hrises)
  refine hcount.trans ?_
  rw [DmsAlerting.Blocked, hstart, not_and_or, not_not, or_comm]
  simp [DmsAlert.mem_byPriority, dmsStart]

/-- Every change of the driver is reported exactly when the speed filter holds
back no other alert of the same frame. -/
theorem driverChangesReported_iff (i : Interface)
    (inputs : List (DmsFrame × World)) :
    DriverChangesReported i inputs ↔
      ∀ before f w after, inputs = before ++ (f, w) :: after →
        DmsField.alertFaceId.Rises (previousAlert before)
          (maskAlert f.warning) →
        filterAlertBySpeed f.speedFilterEnable w ∨
          ∀ t : DmsAlert,
            ¬ t.Raised (previousAlert before) (maskAlert f.warning) := by
  constructor
  · intro h before f w after heq hrises
    exact (driverChange_queued_iff i before f w hrises).mp
      (h before f w after heq hrises)
  · intro h before f w after heq hrises
    exact (driverChange_queued_iff i before f w hrises).mpr
      (h before f w after heq hrises)

/-- The driver changes and closes the eyes. -/
def driverChangeFrame : DmsFrame where
  warning := Packed.ofList 8 [0x01, 0, 0x04, 0, 0, 0, 0, 0]
  speedFilterEnable := true
  alertTimeFilter := 10
  warnNow := fun _ => 100
  releaseNow := 100
  msgbuf := fun _ => 0
  snapEnv := Env.plain

/-- The vehicle stands still. -/
theorem driverChange_lost :
    ¬ DriverChangesReported .tcp
      [(driverChangeFrame, freshWorld dmsTcp)] := by
  intro h
  have hrises : DmsField.alertFaceId.Rises (previousAlert [])
      (maskAlert driverChangeFrame.warning) := by decide
  have hreported := h [] driverChangeFrame (freshWorld dmsTcp) [] rfl hrises
  rcases (driverChange_queued_iff .tcp [] _ _ hrises).mp hreported with
    hspeed | hraised
  · exact absurd hspeed (by decide +kernel)
  · exact hraised .fatigue (by decide)

end SanbaoProt
