import SanbaoProt.Device.Can700
import SanbaoProt.Device.Footprint
import SanbaoProt.Library.Alternation

/-!
# Headway alerts

The headway reports of a run, seen by their status.  `OpenIsRed` is the
invariant: while an alert is open the last frame that counted was on the red
level.  One frame then shows at most the report that is due, unless it jumps to
`out` before the headway is looked at.
-/

namespace SanbaoProt

open Library

/-! ## The marks of a run -/

def hwStatus : Effect → Option UInt8
  | .send cmd payload _ =>
      if cmd = sampleCmdWarningReport ∧
          payload[soundTypeOffset]? = some sbWarnTypeHw then
        payload[statusFlagOffset]?
      else none
  | _ => none

def hwReports (effects : List Effect) : List UInt8 :=
  effects.filterMap hwStatus

@[simp] theorem hwReports_append (first second : List Effect) :
    hwReports (first ++ second) = hwReports first ++ hwReports second :=
  List.filterMap_append

theorem hwReports_storing {effects : List Effect}
    (h : AllOf Effect.isStoring effects) : hwReports effects = [] := by
  rw [hwReports, List.filterMap_eq_nil_iff]
  intro e he
  have hstoring := h e he
  cases e with
  | send cmd payload node => cases hstoring
  | _ => rfl

namespace Alerting

variable (a : Alerting) (target : Target) (type statusFlag : UInt8)
  (finish : Mem UInt8 → Mem UInt8)

@[simp] theorem report_statics :
    (a.report target type statusFlag finish).statics = a.statics := rfl

theorem report_sameCore :
    SameCore a.world (a.report target type statusFlag finish).world := by
  let built := buildAdasWarnFrame target a.world type statusFlag a.msgbuf
  have hstores : Report.Stores a.world
      { built with msgbuf := finish built.msgbuf } :=
    buildAdasWarnFrame_storing target a.world type statusFlag a.msgbuf
  exact (sendReport_quiet target hstores).1

theorem report_effects :
    let built := buildAdasWarnFrame target a.world type statusFlag a.msgbuf
    let r : Report := { built with msgbuf := finish built.msgbuf }
    (a.report target type statusFlag finish).effects =
      a.effects ++ (built.effects ++ [.send sampleCmdWarningReport r.payload
        (sentNode target r.world sampleCmdWarningReport r.payload)]) := by
  simp only [report, sendReport, sendMessage_apply]

theorem report_hwReports :
    let built := buildAdasWarnFrame target a.world type statusFlag a.msgbuf
    hwReports (a.report target type statusFlag finish).effects =
      hwReports a.effects ++
        if finish built.msgbuf soundTypeOffset = sbWarnTypeHw then
          [finish built.msgbuf statusFlagOffset]
        else [] := by
  intro built
  let r : Report := { built with msgbuf := finish built.msgbuf }
  have hbuilt : hwReports built.effects = [] := hwReports_storing
    (buildAdasWarnFrame_storing target a.world type statusFlag a.msgbuf).2
  have hsent := a.report_effects target type statusFlag finish
  have hstatus : hwStatus (.send sampleCmdWarningReport r.payload
      (sentNode target r.world sampleCmdWarningReport r.payload)) =
      if r.msgbuf soundTypeOffset = sbWarnTypeHw then
        some (r.msgbuf statusFlagOffset)
      else none := by
    simp only [hwStatus, true_and, r.getElem?_payload (j := soundTypeOffset)
      (by decide), r.getElem?_payload (j := statusFlagOffset) (by decide),
      Option.some_inj]
  rw [hsent, hwReports_append, hwReports_append, hbuilt, List.nil_append,
    hwReports, hwReports, List.filterMap_cons, List.filterMap_nil, hstatus]
  congr 1
  split_ifs
  · rfl
  · rfl

theorem report_silent
    (hfinish : ∀ m : Mem UInt8, m soundTypeOffset = type →
      finish m soundTypeOffset ≠ sbWarnTypeHw) :
    hwReports (a.report target type statusFlag finish).effects =
      hwReports a.effects := by
  rw [report_hwReports, if_neg (hfinish _
    (buildAdasWarnFrame_head target a.world type statusFlag a.msgbuf).2),
    List.append_nil]

theorem report_hw :
    hwReports (a.report target sbWarnTypeHw statusFlag id).effects =
      hwReports a.effects ++ [statusFlag] := by
  obtain ⟨hstatus, htype⟩ := buildAdasWarnFrame_head target a.world
    sbWarnTypeHw statusFlag a.msgbuf
  rw [report_hwReports, id, htype, if_pos rfl, hstatus]

end Alerting

structure SameHeadway (a a' : Alerting) : Prop where
  flag : a'.statics.sStartFlag = a.statics.sStartFlag
  last : a'.statics.lastWarningData = a.statics.lastWarningData
  reports : hwReports a'.effects = hwReports a.effects
  core : SameCore a.world a'.world

theorem SameHeadway.of_eq {a a' : Alerting}
    (hflag : a'.statics.sStartFlag = a.statics.sStartFlag)
    (hlast : a'.statics.lastWarningData = a.statics.lastWarningData)
    (heffects : a'.effects = a.effects) (hworld : a'.world = a.world) :
    SameHeadway a a' := by
  refine ⟨hflag, hlast, by rw [heffects], ?_⟩
  rw [hworld]
  exact SameCore.refl a.world

theorem SameHeadway.trans {a a' a'' : Alerting} (h : SameHeadway a a')
    (h' : SameHeadway a' a'') : SameHeadway a a'' :=
  ⟨h'.flag.trans h.flag, h'.last.trans h.last, h'.reports.trans h.reports,
    h.core.trans h'.core⟩

theorem SameHeadway.report {a a' : Alerting} (h : SameHeadway a a')
    (target : Target) {type statusFlag : UInt8}
    {finish : Mem UInt8 → Mem UInt8}
    (hfinish : ∀ m : Mem UInt8, m soundTypeOffset = type →
      finish m soundTypeOffset ≠ sbWarnTypeHw) :
    SameHeadway a (a'.report target type statusFlag finish) :=
  ⟨h.flag, h.last,
    (a'.report_silent target type statusFlag finish hfinish).trans h.reports,
    h.core.trans (a'.report_sameCore target type statusFlag finish)⟩

section

variable (target : Target) (f : CanFrame) (filterTime : UInt32)
  (a : Alerting)

theorem putLdwType_soundType (warning : Packed 8) (m : Mem UInt8) :
    putLdwType warning m soundTypeOffset = m soundTypeOffset := by
  have hstored : ∀ (m' : Mem UInt8) v,
      m'.store ldwTypeOffset v soundTypeOffset = m' soundTypeOffset :=
    fun m' v => Mem.store_of_ne m' v (by decide)
  unfold putLdwType
  split_ifs
  · rw [hstored, hstored]
  · rw [hstored]
  · rw [hstored]
  · rfl

theorem ldwEvent_sameHeadway :
    SameHeadway a (atOut (ldwEvent target f filterTime a)) := by
  unfold ldwEvent
  split_ifs
  · have hcleared : SameHeadway a
        { a with
          statics := { a.statics with ldwAlert := f.ldwNow }
          msgbuf := a.msgbuf.copy 0 (List.replicate warnFrameSize 0) } :=
      .of_eq rfl rfl rfl rfl
    apply hcleared.report target
    intro m hm
    rw [putLdwType_soundType, hm]
    decide
  · exact .of_eq rfl rfl rfl rfl
  · exact .of_eq rfl rfl rfl rfl
  · exact .of_eq rfl rfl rfl rfl

theorem fcwEvent_sameHeadway :
    SameHeadway a (atOut (fcwEvent target f filterTime a)) := by
  unfold fcwEvent
  split_ifs
  · have hdue : SameHeadway a
        { a with statics := { a.statics with fcwAlert := f.fcwNow } } :=
      .of_eq rfl rfl rfl rfl
    simp only [atOut]
    apply hdue.report target
    intro m _
    rw [Mem.store_self]
    decide
  · exact .of_eq rfl rfl rfl rfl
  · exact .of_eq rfl rfl rfl rfl
  · exact .of_eq rfl rfl rfl rfl

end

/-- The jump to `out` before the headway is looked at. -/
def JumpsOut (s : Can700) (f : CanFrame) (w : World) : Prop :=
  let secs := fun field : Fin 50 =>
    alertFilterTime (w.para.adas field) f.alertTimeFilter
  NewTrigger s f ∧
    ((leftLdw f.warning ∨ rightLdw f.warning) ∧
        filterAlertByTime s.ldwAlert f.ldwNow (secs AdasPara.ldwVideoTime) ∨
      fcwOn f.warning ∧
        filterAlertByTime s.fcwAlert f.fcwNow
          (secs AdasPara.fcwVideoTime)) ∧
    ¬ filterAlertBySpeed f.speedFilterEnable w

theorem filterAlertBySpeed_sameCore {w w' : World} (h : SameCore w w')
    (speedFilterEnable : Bool) :
    filterAlertBySpeed speedFilterEnable w' ↔
      filterAlertBySpeed speedFilterEnable w := by
  rw [filterAlertBySpeed, filterAlertBySpeed, h.realTime, h.para]

theorem triggerEvents_sameHeadway (target : Target) (f : CanFrame)
    (ldwFilterTime fcwFilterTime : UInt32) (a : Alerting) :
    SameHeadway a
      (atOut (triggerEvents target f ldwFilterTime fcwFilterTime a)) := by
  unfold triggerEvents
  split_ifs
  · have hldw := ldwEvent_sameHeadway target f ldwFilterTime a
    cases h : ldwEvent target f ldwFilterTime a with
    | ok a' =>
        rw [h] at hldw
        exact hldw.trans (fcwEvent_sameHeadway target f fcwFilterTime a')
    | error a' =>
        rw [h] at hldw
        exact hldw
  · exact .of_eq rfl rfl rfl rfl

theorem ldwEvent_ok (target : Target) (f : CanFrame) (filterTime : UInt32)
    (a : Alerting)
    (h : (leftLdw f.warning ∨ rightLdw f.warning) →
      filterAlertByTime a.statics.ldwAlert f.ldwNow filterTime →
      filterAlertBySpeed f.speedFilterEnable a.world) :
    ∃ a', ldwEvent target f filterTime a = .ok a' ∧
      a'.statics.fcwAlert = a.statics.fcwAlert := by
  unfold ldwEvent
  split_ifs with hon htime hspeed
  · exact ⟨_, rfl, rfl⟩
  · exact absurd (h hon htime) hspeed
  · exact ⟨a, rfl, rfl⟩
  · exact ⟨a, rfl, rfl⟩

theorem fcwEvent_ok (target : Target) (f : CanFrame) (filterTime : UInt32)
    (a : Alerting)
    (h : fcwOn f.warning →
      filterAlertByTime a.statics.fcwAlert f.fcwNow filterTime →
      filterAlertBySpeed f.speedFilterEnable a.world) :
    ∃ a', fcwEvent target f filterTime a = .ok a' := by
  unfold fcwEvent
  split_ifs with hon htime hspeed
  · exact ⟨_, rfl⟩
  · exact absurd (h hon htime) hspeed
  · exact ⟨a, rfl⟩
  · exact ⟨a, rfl⟩

theorem canEvents_headway (target : Target) (f : CanFrame) (s : Can700)
    (w : World) (h : ¬ JumpsOut s f w) :
    let start : Alerting := ⟨s, f.msgbuf, w, []⟩
    ∃ a', SameHeadway start a' ∧
      canEvents target f w start = hwEvent target f
        (alertFilterTime (w.para.adas AdasPara.hwVideoTime)
          f.alertTimeFilter) a' := by
  intro start
  let ldwTime :=
    alertFilterTime (w.para.adas AdasPara.ldwVideoTime) f.alertTimeFilter
  let fcwTime :=
    alertFilterTime (w.para.adas AdasPara.fcwVideoTime) f.alertTimeFilter
  have hsame := triggerEvents_sameHeadway target f ldwTime fcwTime start
  have hok : ∃ a', triggerEvents target f ldwTime fcwTime start = .ok a' := by
    unfold triggerEvents
    split_ifs with htrigger
    · have hspeed : (leftLdw f.warning ∨ rightLdw f.warning) ∧
          filterAlertByTime s.ldwAlert f.ldwNow ldwTime ∨
          fcwOn f.warning ∧ filterAlertByTime s.fcwAlert f.fcwNow fcwTime →
          filterAlertBySpeed f.speedFilterEnable w := by
        intro hdue
        by_contra hblocked
        exact h ⟨htrigger, hdue, hblocked⟩
      have hldw := ldwEvent_sameHeadway target f ldwTime start
      obtain ⟨a', hstep, hfcwAlert⟩ := ldwEvent_ok target f ldwTime start
        fun hon htime => hspeed (.inl ⟨hon, htime⟩)
      rw [hstep] at hldw ⊢
      apply fcwEvent_ok target f fcwTime a'
      intro hon htime
      rw [hfcwAlert] at htime
      exact (filterAlertBySpeed_sameCore hldw.core _).mpr
        (hspeed (.inr ⟨hon, htime⟩))
    · exact ⟨start, rfl⟩
  obtain ⟨a', hevents⟩ := hok
  rw [hevents] at hsame
  refine ⟨a', hsame, ?_⟩
  simp only [canEvents]
  rw [show triggerEvents target f _ _ start = .ok a' from hevents]

theorem canEvents_jump (target : Target) (f : CanFrame) (s : Can700)
    (w : World) (h : JumpsOut s f w) :
    let start : Alerting := ⟨s, f.msgbuf, w, []⟩
    ∃ a', SameHeadway start a' ∧
      canEvents target f w start = .error a' := by
  intro start
  let ldwTime :=
    alertFilterTime (w.para.adas AdasPara.ldwVideoTime) f.alertTimeFilter
  let fcwTime :=
    alertFilterTime (w.para.adas AdasPara.fcwVideoTime) f.alertTimeFilter
  obtain ⟨htrigger, hdue, hblocked⟩ := h
  have hsame := triggerEvents_sameHeadway target f ldwTime fcwTime start
  have herror : ∃ a', triggerEvents target f ldwTime fcwTime start =
      .error a' := by
    unfold triggerEvents ldwEvent fcwEvent
    rw [if_pos htrigger]
    by_cases hldw : (leftLdw f.warning ∨ rightLdw f.warning) ∧
        filterAlertByTime s.ldwAlert f.ldwNow ldwTime
    · rw [if_pos hldw.1, if_pos hldw.2, if_neg hblocked]
      exact ⟨_, rfl⟩
    · obtain ⟨hon, htime⟩ := hdue.resolve_left hldw
      have hskip : ∀ due : Except Alerting Alerting,
          (if leftLdw f.warning ∨ rightLdw f.warning then
            if filterAlertByTime start.statics.ldwAlert f.ldwNow ldwTime then
              due
            else .ok start
          else .ok start) = .ok start := by
        intro due
        split_ifs with hbits hlate
        · exact absurd ⟨hbits, hlate⟩ hldw
        · rfl
        · rfl
      rw [hskip]
      simp only
      rw [if_pos hon, if_pos htime, if_neg hblocked]
      exact ⟨_, rfl⟩
  obtain ⟨a', hevents⟩ := herror
  rw [hevents] at hsame
  refine ⟨a', hsame, ?_⟩
  simp only [canEvents]
  rw [show triggerEvents target f _ _ start = .error a' from hevents]

/-- An alert that is open was begun on a red level. -/
def OpenIsRed (s : Can700) : Prop :=
  s.sStartFlag = true →
    headwayWarningLevel s.lastWarningData = hwLevelRedCar

theorem hwEvent_due (target : Target) (f : CanFrame) (filterTime : UInt32)
    {a : Alerting} (h : OpenIsRed a.statics)
    (hnone : hwReports a.effects = []) :
    Due sbWarnStatusBegin sbWarnStatusEnd a.statics.sStartFlag
        (hwReports (atOut (hwEvent target f filterTime a)).effects)
        (atOut (hwEvent target f filterTime a)).statics.sStartFlag ∧
      ((atOut (hwEvent target f filterTime a)).statics.sStartFlag = true →
        headwayWarningLevel f.warning = hwLevelRedCar) := by
  have hsilent : (a.statics.sStartFlag = true →
      headwayWarningLevel f.warning = hwLevelRedCar) →
      ∀ a' : Alerting, a'.effects = a.effects →
        a'.statics.sStartFlag = a.statics.sStartFlag →
        Due sbWarnStatusBegin sbWarnStatusEnd a.statics.sStartFlag
          (hwReports a'.effects) a'.statics.sStartFlag ∧
        (a'.statics.sStartFlag = true →
          headwayWarningLevel f.warning = hwLevelRedCar) := by
    intro hred a' heffects hflag
    rw [heffects, hnone, hflag]
    exact ⟨.silent _, hred⟩
  unfold hwEvent
  simp only
  split_ifs with hsame hred htime hspeed hend
  · exact hsilent (fun hopen => hsame ▸ h hopen) a rfl rfl
  · have hclosed : a.statics.sStartFlag = false := by
      apply Bool.eq_false_iff.mpr
      intro hopen
      exact hsame ((h hopen).trans hred.symm)
    refine ⟨?_, fun _ => hred⟩
    have hreport := Alerting.report_hw
      { a with statics := { a.statics with hwAlert := f.hwNow } } target
      sbWarnStatusBegin
    simp only [atOut]
    rw [hreport, hnone, hclosed]
    exact .opening
  · exact hsilent (fun _ => hred) _ rfl rfl
  · exact hsilent (fun _ => hred) a rfl rfl
  · refine ⟨?_, fun hopen => absurd hopen Bool.false_ne_true⟩
    have hreport := a.report_hw target sbWarnStatusEnd
    simp only [atOut]
    rw [hreport, hnone, hend.2]
    exact .closing
  · exact hsilent (fun hopen => absurd ⟨h hopen, hopen⟩ hend) a rfl rfl

/-- The alert that is open is to be closed by the frame, which jumps out for a
departure or collision warning that is held back by its speed. -/
def LosesEnd (s : Can700) (i : CanFrame × World) : Prop :=
  s.sStartFlag = true ∧
    headwayWarningLevel i.1.warning ≠ hwLevelRedCar ∧ JumpsOut s i.1 i.2

theorem maskWarning_level (warning : Packed 8) :
    headwayWarningLevel (maskWarning allWarningMasks warning) =
      headwayWarningLevel warning := by
  change warning 7 &&& 3 &&& 3 = warning 7 &&& 3
  rw [UInt8.and_assoc]
  rfl

theorem can700_due (target : Target) (s : Can700) (i : CanFrame × World)
    (h : OpenIsRed s) (hkeeps : ¬ LosesEnd s i) :
    OpenIsRed ((can700 target).step s i).1 ∧
      Due sbWarnStatusBegin sbWarnStatusEnd s.sStartFlag
        (((can700 target).step s i).2.filterMap hwStatus)
        ((can700 target).step s i).1.sStartFlag := by
  obtain ⟨f, w⟩ := i
  simp only [can700, dealWsiAdasCan700]
  by_cases hsame : maskWarning allWarningMasks f.warning = s.lastWarningData
  · rw [if_pos hsame]
    exact ⟨h, .silent _⟩
  · rw [if_neg hsame]
    let start : Alerting := ⟨s, f.msgbuf, w, []⟩
    by_cases hjump : JumpsOut s f w
    · obtain ⟨a', hstart, hevents⟩ := canEvents_jump target f s w hjump
      have hflag : a'.statics.sStartFlag = s.sStartFlag := hstart.flag
      have hreports : a'.effects.filterMap hwStatus = [] := hstart.reports
      simp only [hevents, atOut, hreports, hflag]
      refine ⟨fun hopen => ?_, .silent _⟩
      by_contra hlevel
      simp only [maskWarning_level] at hlevel
      exact hkeeps ⟨hflag ▸ hopen, hlevel, hjump⟩
    · obtain ⟨a', hstart, hevents⟩ := canEvents_headway target f s w hjump
      have hopen : OpenIsRed a'.statics := by
        rw [OpenIsRed, hstart.flag, hstart.last]
        exact h
      obtain ⟨hdue, hred⟩ := hwEvent_due target f _ hopen hstart.reports
      rw [hstart.flag, ← hevents] at hdue
      rw [← hevents] at hred
      refine ⟨fun hflag => ?_, hdue⟩
      simp only [maskWarning_level]
      exact hred hflag

/-- The headway reports of a run alternate as long as no frame that is to end
an open alert jumps out before. -/
theorem headway_alternates (target : Target)
    (inputs : List (CanFrame × World))
    (h : ∀ before i after, inputs = before ++ i :: after →
      ¬ LosesEnd ((can700 target).final Can700.zero before) i) :
    Alternates sbWarnStatusBegin sbWarnStatusEnd false
      (hwReports ((can700 target).outputs Can700.zero inputs)) :=
  (can700 target).alternates Can700.sStartFlag
    (can700_due target) (s := Can700.zero)
    (fun hflag => absurd hflag Bool.false_ne_true) inputs h

def canFrameAt (now : Int) (trigger level : UInt8) : CanFrame where
  warning := Packed.ofList 8 [0, 0, 0, 0, trigger, 0, 0, level]
  speedFilterEnable := true
  alertTimeFilter := 10
  ldwNow := now
  fcwNow := now
  hwNow := now
  touchNow := now
  msgbuf := fun _ => 0

def drivingAt (speed : UInt8) : World :=
  { freshWorld adasTcp with realTime := fun _ => speed }

def redThenWhite : List (CanFrame × World) :=
  [(canFrameAt 100 0 2, drivingAt 60), (canFrameAt 120 0 1, drivingAt 20)]

set_option maxRecDepth 10000 in
theorem headway_alternates_redThenWhite :
    Alternates sbWarnStatusBegin sbWarnStatusEnd false
        (hwReports ((can700 adasTcp).outputs Can700.zero redThenWhite)) ∧
      hwReports ((can700 adasTcp).outputs Can700.zero redThenWhite) =
        [sbWarnStatusBegin, sbWarnStatusEnd] := by
  have hkeeps : ∀ before i after, redThenWhite = before ++ i :: after →
      ¬ LosesEnd ((can700 adasTcp).final Can700.zero before) i := by
    rintro before i after heq ⟨-, -, htrigger, -⟩
    have hmem : i ∈ redThenWhite := by
      rw [heq]
      simp
    rw [redThenWhite, List.mem_pair] at hmem
    rcases hmem with rfl | rfl
    · exact htrigger.2 (by decide)
    · exact htrigger.2 (by decide)
  exact ⟨headway_alternates adasTcp redThenWhite hkeeps, by decide +kernel⟩

/-- A lane departure at low speed in the frame that ends the red level. -/
theorem headway_beginsTwice :
    ¬ Alternates sbWarnStatusBegin sbWarnStatusEnd false
      (hwReports ((can700 adasTcp).outputs Can700.zero
        [(canFrameAt 100 0 2, drivingAt 60),
          (canFrameAt 120 2 1, drivingAt 20),
          (canFrameAt 140 0 2, drivingAt 60)])) := by
  have htwice : hwReports ((can700 adasTcp).outputs Can700.zero
      [(canFrameAt 100 0 2, drivingAt 60),
        (canFrameAt 120 2 1, drivingAt 20),
        (canFrameAt 140 0 2, drivingAt 60)]) =
      [sbWarnStatusBegin, sbWarnStatusBegin] := by decide +kernel
  rw [htwice]
  rintro ⟨-, hend, -⟩
  exact absurd hend (by decide)

end SanbaoProt
