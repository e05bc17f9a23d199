import SanbaoProt.Device.DmsInfo

/-!
# The reports of a CAN frame

What one CAN frame reports, by type and status, and which of the three times it
takes.  The time filter takes the time of an alert before the speed filter is
asked, so an alert that is held back by its speed has its time taken and ends
the frame.
-/

namespace SanbaoProt

open Library

/-! ## Marks -/

/-- Type and status of a report. -/
def reportMark : Effect → Option (UInt8 × UInt8)
  | .send cmd payload _ =>
      if cmd = sampleCmdWarningReport then
        (payload[soundTypeOffset]?).bind fun type =>
          (payload[statusFlagOffset]?).map fun statusFlag => (type, statusFlag)
      else none
  | _ => none

def reportMarks (effects : List Effect) : List (UInt8 × UInt8) :=
  effects.filterMap reportMark

theorem reportMarks_append (first second : List Effect) :
    reportMarks (first ++ second) = reportMarks first ++ reportMarks second :=
  List.filterMap_append

theorem reportMarks_storing {effects : List Effect}
    (h : AllOf Effect.isStoring effects) : reportMarks effects = [] := by
  rw [reportMarks, List.filterMap_eq_nil_iff]
  intro e he
  have hstoring := h e he
  cases e with
  | send cmd payload node => cases hstoring
  | _ => rfl

/-- What is done to a finished report leaves its type and status. -/
structure KeepsMark (type : UInt8) (finish : Mem UInt8 → Mem UInt8) :
    Prop where
  soundType : ∀ m : Mem UInt8, m soundTypeOffset = type →
    finish m soundTypeOffset = type
  statusFlag : ∀ m : Mem UInt8,
    finish m statusFlagOffset = m statusFlagOffset

theorem KeepsMark.id (type : UInt8) : KeepsMark type id :=
  ⟨fun _ h => h, fun _ => rfl⟩

theorem putLdwType_keepsMark (warning : Packed 8) (type : UInt8) :
    KeepsMark type (putLdwType warning) := by
  have hstored : ∀ (m : Mem UInt8) v,
      m.store ldwTypeOffset v statusFlagOffset = m statusFlagOffset :=
    fun m v => Mem.store_of_ne m v (by decide)
  refine ⟨fun m hm => (putLdwType_soundType warning m).trans hm, fun m => ?_⟩
  unfold putLdwType
  split_ifs
  · rw [hstored, hstored]
  · rw [hstored]
  · rw [hstored]
  · rfl

theorem storeSoundType_keepsMark (type : UInt8) :
    KeepsMark type fun m => m.store soundTypeOffset type :=
  ⟨fun m _ => m.store_self soundTypeOffset type,
    fun m => m.store_of_ne type (by decide)⟩

theorem Alerting.report_marks (a : Alerting) (target : Target)
    {type : UInt8} (statusFlag : UInt8) {finish : Mem UInt8 → Mem UInt8}
    (hfinish : KeepsMark type finish) :
    reportMarks (a.report target type statusFlag finish).effects =
      reportMarks a.effects ++ [(type, statusFlag)] := by
  let built := buildAdasWarnFrame target a.world type statusFlag a.msgbuf
  let r : Report := { built with msgbuf := finish built.msgbuf }
  obtain ⟨hstatus, htype⟩ :=
    buildAdasWarnFrame_head target a.world type statusFlag a.msgbuf
  have hsound : r.msgbuf soundTypeOffset = type :=
    hfinish.soundType _ htype
  have hflag : r.msgbuf statusFlagOffset = statusFlag :=
    (hfinish.statusFlag _).trans hstatus
  have hbuilt : reportMarks built.effects = [] := reportMarks_storing
    (buildAdasWarnFrame_storing target a.world type statusFlag a.msgbuf).2
  have hmark : reportMark (.send sampleCmdWarningReport r.payload
      (sentNode target r.world sampleCmdWarningReport r.payload)) =
      some (type, statusFlag) := by
    simp [reportMark, r.getElem?_payload (j := soundTypeOffset) (by decide),
      r.getElem?_payload (j := statusFlagOffset) (by decide), hsound, hflag]
  rw [a.report_effects target type statusFlag finish, reportMarks_append,
    reportMarks_append, hbuilt, List.nil_append]
  exact congrArg _ (List.filterMap_cons_some hmark)

/-! ## What each part of the frame does -/

/-- `a'` is `a` with the reports in `marks` and the statics `s`. -/
structure CanDone (marks : List (UInt8 × UInt8)) (s : Can700)
    (a a' : Alerting) : Prop where
  core : SameCore a.world a'.world
  statics : a'.statics = s
  marks : reportMarks a'.effects = reportMarks a.effects ++ marks

theorem CanDone.nothing (a : Alerting) : CanDone [] a.statics a a :=
  ⟨SameCore.refl a.world, rfl, (List.append_nil _).symm⟩

theorem CanDone.trans {marks marks' : List (UInt8 × UInt8)} {s s' : Can700}
    {a a' a'' : Alerting} (h : CanDone marks s a a')
    (h' : CanDone marks' s' a' a'') : CanDone (marks ++ marks') s' a a'' :=
  ⟨h.core.trans h'.core, h'.statics,
    by rw [h'.marks, h.marks, List.append_assoc]⟩

theorem CanDone.due (a : Alerting) (s : Can700) (msgbuf : Mem UInt8) :
    CanDone [] s a { a with statics := s, msgbuf := msgbuf } :=
  ⟨SameCore.refl a.world, rfl, (List.append_nil _).symm⟩

theorem CanDone.report {marks : List (UInt8 × UInt8)} {s : Can700}
    {a a' : Alerting} (h : CanDone marks s a a') (target : Target)
    {type : UInt8} (statusFlag : UInt8) {finish : Mem UInt8 → Mem UInt8}
    (hfinish : KeepsMark type finish) :
    CanDone (marks ++ [(type, statusFlag)]) s a
      (a'.report target type statusFlag finish) where
  core := h.core.trans (a'.report_sameCore target type statusFlag finish)
  statics := h.statics
  marks := by
    rw [a'.report_marks target statusFlag hfinish, h.marks, List.append_assoc]

theorem CanDone.setStatics {marks : List (UInt8 × UInt8)} {s : Can700}
    {a a' : Alerting} (h : CanDone marks s a a') (s' : Can700) :
    CanDone marks s' a { a' with statics := s' } :=
  ⟨h.core, rfl, h.marks⟩

section

variable (target : Target) (f : CanFrame) (filterTime : UInt32)

def LdwTimed (s : Can700) : Prop :=
  (leftLdw f.warning ∨ rightLdw f.warning) ∧
    filterAlertByTime s.ldwAlert f.ldwNow filterTime

def FcwTimed (s : Can700) : Prop :=
  fcwOn f.warning ∧ filterAlertByTime s.fcwAlert f.fcwNow filterTime

def HwTimed (s : Can700) : Prop :=
  headwayWarningLevel s.lastWarningData ≠ headwayWarningLevel f.warning ∧
    headwayWarningLevel f.warning = hwLevelRedCar ∧
    filterAlertByTime s.hwAlert f.hwNow filterTime

def HwCloses (s : Can700) : Prop :=
  headwayWarningLevel s.lastWarningData = hwLevelRedCar ∧
    headwayWarningLevel f.warning ≠ hwLevelRedCar ∧ s.sStartFlag = true

instance (s : Can700) : Decidable (LdwTimed f filterTime s) :=
  inferInstanceAs (Decidable (_ ∧ _))

instance (s : Can700) : Decidable (FcwTimed f filterTime s) :=
  inferInstanceAs (Decidable (_ ∧ _))

instance (s : Can700) : Decidable (HwTimed f filterTime s) :=
  inferInstanceAs (Decidable (_ ∧ _ ∧ _))

instance (s : Can700) : Decidable (HwCloses f s) :=
  inferInstanceAs (Decidable (_ ∧ _ ∧ _))

/-- An event that goes through the time filter and then through the speed
filter: its time is taken before the speed is looked at. -/
inductive TimedEvent (timed passes : Prop) (mark : UInt8 × UInt8)
    (due queued : Can700) (a : Alerting) :
    Except Alerting Alerting → Prop where
  | off (h : ¬ timed) : TimedEvent timed passes mark due queued a (.ok a)
  | queued {a' : Alerting} (h : timed) (hspeed : passes)
      (hdone : CanDone [mark] queued a a') :
      TimedEvent timed passes mark due queued a (.ok a')
  | blocked {a' : Alerting} (h : timed) (hspeed : ¬ passes)
      (hdone : CanDone [] due a a') :
      TimedEvent timed passes mark due queued a (.error a')

namespace TimedEvent

variable {timed passes : Prop} {mark : UInt8 × UInt8} {due queued : Can700}
  {a : Alerting} {out : Except Alerting Alerting}

theorem idle (h : TimedEvent timed passes mark due queued a out)
    (htimed : ¬ timed) : out = .ok a := by
  cases h with
  | off => rfl
  | queued h => exact absurd h htimed
  | blocked h => exact absurd h htimed

theorem held (h : TimedEvent timed passes mark due queued a out)
    (htimed : timed) (hspeed : ¬ passes) :
    ∃ a', out = .error a' ∧ CanDone [] due a a' := by
  cases h with
  | off h => exact absurd htimed h
  | queued _ h => exact absurd h hspeed
  | blocked _ _ hdone => exact ⟨_, rfl, hdone⟩

theorem passing [Decidable timed]
    (h : TimedEvent timed passes mark due queued a out) (hspeed : passes) :
    ∃ a', out = .ok a' ∧ CanDone (if timed then [mark] else [])
      (if timed then queued else a.statics) a a' := by
  cases h with
  | off h =>
      rw [if_neg h, if_neg h]
      exact ⟨a, rfl, .nothing a⟩
  | queued h _ hdone =>
      rw [if_pos h, if_pos h]
      exact ⟨_, rfl, hdone⟩
  | blocked _ h => exact absurd hspeed h

end TimedEvent

variable (a : Alerting)

theorem ldwEvent_timed :
    let due : Can700 := { a.statics with ldwAlert := f.ldwNow }
    TimedEvent (LdwTimed f filterTime a.statics)
      (filterAlertBySpeed f.speedFilterEnable a.world)
      (sbWarnTypeLdw, sbWarnStatusNone) due due a
      (ldwEvent target f filterTime a) := by
  intro due
  unfold ldwEvent
  split_ifs with hon htime hspeed
  · have hdue := CanDone.due a due
      (a.msgbuf.copy 0 (List.replicate warnFrameSize 0))
    exact .queued ⟨hon, htime⟩ hspeed (hdue.report target sbWarnStatusNone
      (putLdwType_keepsMark f.warning sbWarnTypeLdw))
  · exact .blocked ⟨hon, htime⟩ hspeed (.due a due a.msgbuf)
  · exact .off fun h => htime h.2
  · exact .off fun h => hon h.1

theorem fcwEvent_timed :
    let due : Can700 := { a.statics with fcwAlert := f.fcwNow }
    TimedEvent (FcwTimed f filterTime a.statics)
      (filterAlertBySpeed f.speedFilterEnable a.world)
      (sbWarnTypeFcw, sbWarnStatusNone) due due a
      (fcwEvent target f filterTime a) := by
  intro due
  unfold fcwEvent
  split_ifs with hon htime hspeed
  · have hdue := CanDone.due a due a.msgbuf
    exact .queued ⟨hon, htime⟩ hspeed (hdue.report target sbWarnStatusNone
      (storeSoundType_keepsMark sbWarnTypeFcw))
  · exact .blocked ⟨hon, htime⟩ hspeed (.due a due a.msgbuf)
  · exact .off fun h => htime h.2
  · exact .off fun h => hon h.1

theorem hwEvent_timed (h : ¬ HwCloses f a.statics) :
    let due : Can700 := { a.statics with hwAlert := f.hwNow }
    TimedEvent (HwTimed f filterTime a.statics)
      (filterAlertBySpeed f.speedFilterEnable a.world)
      (sbWarnTypeHw, sbWarnStatusBegin) due { due with sStartFlag := true } a
      (hwEvent target f filterTime a) := by
  intro due
  unfold hwEvent
  simp only
  split_ifs with hsame hred htime hspeed hcloses
  · exact .off fun h => h.1 hsame
  · have hbegun := (CanDone.due a due a.msgbuf).report target
      sbWarnStatusBegin (.id sbWarnTypeHw)
    exact .queued ⟨hsame, hred, htime⟩ hspeed (hbegun.setStatics _)
  · exact .blocked ⟨hsame, hred, htime⟩ hspeed (.due a due a.msgbuf)
  · exact .off fun h => htime h.2.2
  · exact absurd ⟨hcloses.1, hred, hcloses.2⟩ h
  · exact .off fun h => hred h.2.1

theorem hwEvent_ends (h : HwCloses f a.statics) :
    ∃ a', hwEvent target f filterTime a = .ok a' ∧
      CanDone [(sbWarnTypeHw, sbWarnStatusEnd)]
        { a.statics with hwAlert := f.touchNow, sStartFlag := false } a a' := by
  obtain ⟨hlast, hother, hopen⟩ := h
  have hchanged : headwayWarningLevel a.statics.lastWarningData ≠
      headwayWarningLevel f.warning := by
    rw [hlast]
    exact hother.symm
  have hended := (CanDone.nothing a).report target sbWarnStatusEnd
    (.id sbWarnTypeHw)
  unfold hwEvent
  simp only
  rw [if_neg hchanged, if_neg hother, if_pos ⟨hlast, hopen⟩]
  exact ⟨_, rfl, hended.setStatics _⟩

end

/-! ## The whole frame -/

namespace CanFrame

variable (f : CanFrame) (s : Can700) (w : World)

def filterTime (field : Fin 50) : UInt32 :=
  alertFilterTime (w.para.adas field) f.alertTimeFilter

def Passes : Prop := filterAlertBySpeed f.speedFilterEnable w

def LdwDue : Prop :=
  NewTrigger s f ∧ LdwTimed f (f.filterTime w AdasPara.ldwVideoTime) s

def FcwDue : Prop :=
  NewTrigger s f ∧ FcwTimed f (f.filterTime w AdasPara.fcwVideoTime) s

def HwDue : Prop := HwTimed f (f.filterTime w AdasPara.hwVideoTime) s

instance : Decidable (f.Passes w) :=
  inferInstanceAs (Decidable (filterAlertBySpeed _ _))

instance : Decidable (f.LdwDue s w) := inferInstanceAs (Decidable (_ ∧ _))

instance : Decidable (f.FcwDue s w) := inferInstanceAs (Decidable (_ ∧ _))

instance : Decidable (f.HwDue s w) :=
  inferInstanceAs (Decidable (HwTimed _ _ _))

/-- A warning that is held back by its speed ends the frame. -/
def Jumps : Prop := (f.LdwDue s w ∨ f.FcwDue s w) ∧ ¬ f.Passes w

instance : Decidable (f.Jumps s w) := inferInstanceAs (Decidable (_ ∧ _))

/-- The statics, but for the two last frames. -/
def statics : Can700 :=
  { s with
    ldwAlert := if f.LdwDue s w then f.ldwNow else s.ldwAlert
    fcwAlert :=
      if f.FcwDue s w ∧ (f.Passes w ∨ ¬ f.LdwDue s w) then f.fcwNow
      else s.fcwAlert
    hwAlert :=
      if f.Jumps s w then s.hwAlert
      else if f.HwDue s w then f.hwNow
      else if HwCloses f s then f.touchNow
      else s.hwAlert
    sStartFlag :=
      if f.Jumps s w then s.sStartFlag
      else if f.HwDue s w ∧ f.Passes w then true
      else if HwCloses f s then false
      else s.sStartFlag }

def triggerMarks : List (UInt8 × UInt8) :=
  (if f.LdwDue s w then [(sbWarnTypeLdw, sbWarnStatusNone)] else []) ++
    if f.FcwDue s w then [(sbWarnTypeFcw, sbWarnStatusNone)] else []

def marks : List (UInt8 × UInt8) :=
  if f.Jumps s w then []
  else
    (if f.Passes w then f.triggerMarks s w else []) ++
      if HwCloses f s then [(sbWarnTypeHw, sbWarnStatusEnd)]
      else if f.HwDue s w ∧ f.Passes w then
        [(sbWarnTypeHw, sbWarnStatusBegin)]
      else []

end CanFrame

section

variable (target : Target) (f : CanFrame) (a : Alerting)

theorem triggerEvents_idle (hldw : ¬ f.LdwDue a.statics a.world)
    (hfcw : ¬ f.FcwDue a.statics a.world) :
    triggerEvents target f (f.filterTime a.world AdasPara.ldwVideoTime)
      (f.filterTime a.world AdasPara.fcwVideoTime) a = .ok a := by
  unfold triggerEvents
  split_ifs with hnew
  · have hfirst := (ldwEvent_timed target f
      (f.filterTime a.world AdasPara.ldwVideoTime) a).idle
        fun h => hldw ⟨hnew, h⟩
    rw [hfirst]
    exact (fcwEvent_timed target f
      (f.filterTime a.world AdasPara.fcwVideoTime) a).idle
        fun h => hfcw ⟨hnew, h⟩
  · rfl

theorem triggerEvents_held (hjumps : f.Jumps a.statics a.world) :
    ∃ a', triggerEvents target f (f.filterTime a.world AdasPara.ldwVideoTime)
        (f.filterTime a.world AdasPara.fcwVideoTime) a = .error a' ∧
      CanDone [] (f.statics a.statics a.world) a a' := by
  have hldwEvent := ldwEvent_timed target f
    (f.filterTime a.world AdasPara.ldwVideoTime) a
  obtain ⟨hdue, hslow⟩ := hjumps
  unfold triggerEvents
  by_cases hldw : f.LdwDue a.statics a.world
  · obtain ⟨a', hevent, hdone⟩ := hldwEvent.held hldw.2 hslow
    have hstatics : f.statics a.statics a.world =
        { a.statics with ldwAlert := f.ldwNow } := by
      simp [CanFrame.statics, CanFrame.Jumps, hldw, hslow]
    rw [if_pos hldw.1, hevent, hstatics]
    exact ⟨a', rfl, hdone⟩
  · have hfcw : f.FcwDue a.statics a.world := hdue.resolve_left hldw
    have hfirst := hldwEvent.idle fun h => hldw ⟨hfcw.1, h⟩
    obtain ⟨a', hevent, hdone⟩ := (fcwEvent_timed target f
      (f.filterTime a.world AdasPara.fcwVideoTime) a).held hfcw.2 hslow
    have hstatics : f.statics a.statics a.world =
        { a.statics with fcwAlert := f.fcwNow } := by
      simp [CanFrame.statics, CanFrame.Jumps, hldw, hfcw, hslow]
    rw [if_pos hfcw.1, hfirst, hstatics]
    exact ⟨a', hevent, hdone⟩

/-- The statics after the two warnings at a speed that is high enough. -/
def CanFrame.triggered (f : CanFrame) (s : Can700) (w : World) : Can700 :=
  { s with
    ldwAlert := if f.LdwDue s w then f.ldwNow else s.ldwAlert
    fcwAlert := if f.FcwDue s w then f.fcwNow else s.fcwAlert }

theorem triggerEvents_passing (hpasses : f.Passes a.world) :
    ∃ a', triggerEvents target f (f.filterTime a.world AdasPara.ldwVideoTime)
        (f.filterTime a.world AdasPara.fcwVideoTime) a = .ok a' ∧
      CanDone (f.triggerMarks a.statics a.world)
        (f.triggered a.statics a.world) a a' := by
  unfold triggerEvents
  by_cases hnew : NewTrigger a.statics f
  · obtain ⟨b, hldwEvent, hldwDone⟩ := (ldwEvent_timed target f
      (f.filterTime a.world AdasPara.ldwVideoTime) a).passing hpasses
    have hpassesB : filterAlertBySpeed f.speedFilterEnable b.world :=
      (filterAlertBySpeed_sameCore hldwDone.core _).mpr hpasses
    obtain ⟨c, hfcwEvent, hfcwDone⟩ := (fcwEvent_timed target f
      (f.filterTime a.world AdasPara.fcwVideoTime) b).passing hpassesB
    have hldwDue : LdwTimed f (f.filterTime a.world AdasPara.ldwVideoTime)
        a.statics ↔ f.LdwDue a.statics a.world := (and_iff_right hnew).symm
    have hldwStatics : b.statics =
        { a.statics with
          ldwAlert :=
            if f.LdwDue a.statics a.world then f.ldwNow
            else a.statics.ldwAlert } := by
      rw [hldwDone.statics, if_congr hldwDue rfl rfl]
      split_ifs
      · rfl
      · rfl
    have hfcwDue : FcwTimed f (f.filterTime a.world AdasPara.fcwVideoTime)
        b.statics ↔ f.FcwDue a.statics a.world := by
      rw [CanFrame.FcwDue, and_iff_right hnew, FcwTimed, FcwTimed,
        hldwStatics]
    have hstatics : c.statics = f.triggered a.statics a.world := by
      rw [hfcwDone.statics, if_congr hfcwDue rfl rfl, hldwStatics,
        CanFrame.triggered]
      split_ifs
      · rfl
      · rfl
      · rfl
      · rfl
    have hmarks : reportMarks c.effects = reportMarks a.effects ++
        f.triggerMarks a.statics a.world := by
      rw [hfcwDone.marks, hldwDone.marks, if_congr hldwDue rfl rfl,
        if_congr hfcwDue rfl rfl, List.append_assoc, CanFrame.triggerMarks]
    rw [if_pos hnew, hldwEvent]
    exact ⟨c, hfcwEvent, hldwDone.core.trans hfcwDone.core, hstatics, hmarks⟩
  · have hldw : ¬ f.LdwDue a.statics a.world := fun h => hnew h.1
    have hfcw : ¬ f.FcwDue a.statics a.world := fun h => hnew h.1
    rw [if_neg hnew]
    refine ⟨a, rfl, ?_⟩
    rw [CanFrame.triggerMarks, CanFrame.triggered]
    simp only [hldw, hfcw, if_false, List.append_nil]
    exact .nothing a

theorem canEvents_eq :
    canEvents target f a.world a =
      match triggerEvents target f (f.filterTime a.world AdasPara.ldwVideoTime)
        (f.filterTime a.world AdasPara.fcwVideoTime) a with
      | .ok a' => hwEvent target f (f.filterTime a.world AdasPara.hwVideoTime) a'
      | .error a' => .error a' := rfl

theorem not_hwDue_of_closes {f : CanFrame} {s : Can700} {w : World}
    (h : HwCloses f s) : ¬ f.HwDue s w :=
  fun hdue => h.2.1 hdue.2.1

theorem canEvents_done :
    CanDone (f.marks a.statics a.world) (f.statics a.statics a.world) a
      (atOut (canEvents target f a.world a)) := by
  rw [canEvents_eq]
  by_cases hjumps : f.Jumps a.statics a.world
  · obtain ⟨a', hevents, hdone⟩ := triggerEvents_held target f a hjumps
    rw [hevents, CanFrame.marks, if_pos hjumps]
    exact hdone
  by_cases hpasses : f.Passes a.world
  · obtain ⟨b, hevents, hdone⟩ := triggerEvents_passing target f a hpasses
    have hpassesB : filterAlertBySpeed f.speedFilterEnable b.world :=
      (filterAlertBySpeed_sameCore hdone.core _).mpr hpasses
    have hclosesB : HwCloses f b.statics ↔ HwCloses f a.statics := by
      rw [HwCloses, HwCloses, hdone.statics]
      rfl
    have hdueB : HwTimed f (f.filterTime a.world AdasPara.hwVideoTime)
        b.statics ↔ f.HwDue a.statics a.world := by
      rw [HwTimed, hdone.statics]
      rfl
    rw [hevents]
    by_cases hcloses : HwCloses f a.statics
    · obtain ⟨c, hhw, hhwDone⟩ := hwEvent_ends target f
        (f.filterTime a.world AdasPara.hwVideoTime) b (hclosesB.mpr hcloses)
      have hidle := not_hwDue_of_closes (w := a.world) hcloses
      have hboth := hdone.trans hhwDone
      simp only [hhw, atOut]
      convert hboth using 1
      · simp [CanFrame.marks, hjumps, hpasses, hcloses]
      · simp [CanFrame.statics, CanFrame.triggered, hdone.statics, hjumps,
          hpasses, hcloses, hidle]
    · obtain ⟨c, hhw, hhwDone⟩ := (hwEvent_timed target f
        (f.filterTime a.world AdasPara.hwVideoTime) b
        (mt hclosesB.mp hcloses)).passing hpassesB
      rw [if_congr hdueB rfl rfl, if_congr hdueB rfl rfl] at hhwDone
      have hboth := hdone.trans hhwDone
      simp only [hhw, atOut]
      convert hboth using 1
      · simp [CanFrame.marks, hjumps, hpasses, hcloses]
      · rw [hdone.statics]
        by_cases hdue : f.HwDue a.statics a.world
        · simp [CanFrame.statics, CanFrame.triggered, hjumps, hpasses, hdue]
        · simp [CanFrame.statics, CanFrame.triggered, hjumps, hpasses, hcloses,
            hdue]
  · have hldw : ¬ f.LdwDue a.statics a.world :=
      fun h => hjumps ⟨.inl h, hpasses⟩
    have hfcw : ¬ f.FcwDue a.statics a.world :=
      fun h => hjumps ⟨.inr h, hpasses⟩
    rw [triggerEvents_idle target f a hldw hfcw]
    by_cases hcloses : HwCloses f a.statics
    · obtain ⟨c, hhw, hdone⟩ := hwEvent_ends target f
        (f.filterTime a.world AdasPara.hwVideoTime) a hcloses
      have hidle := not_hwDue_of_closes (w := a.world) hcloses
      simp only [hhw, atOut]
      convert hdone using 1
      · simp [CanFrame.marks, hjumps, hpasses, hcloses]
      · simp [CanFrame.statics, hjumps, hpasses, hldw, hfcw, hcloses, hidle]
    · have hevent := hwEvent_timed target f
        (f.filterTime a.world AdasPara.hwVideoTime) a hcloses
      have hmarks : f.marks a.statics a.world = [] := by
        simp [CanFrame.marks, hpasses, hcloses]
      rw [hmarks]
      by_cases hdue : f.HwDue a.statics a.world
      · obtain ⟨c, hhw, hdone⟩ := hevent.held hdue hpasses
        have hstatics : f.statics a.statics a.world =
            { a.statics with hwAlert := f.hwNow } := by
          simp [CanFrame.statics, hjumps, hpasses, hldw, hfcw, hcloses, hdue]
        simp only [hhw, atOut]
        rw [hstatics]
        exact hdone
      · have hhw := hevent.idle hdue
        have hstatics : f.statics a.statics a.world = a.statics := by
          simp [CanFrame.statics, hjumps, hpasses, hldw, hfcw, hcloses, hdue]
        simp only [hhw, atOut]
        rw [hstatics]
        exact .nothing a

end

/-- What a CAN frame reports and what it leaves in the statics. -/
structure CanHandled (f : CanFrame) (s : Can700) (w : World)
    (out : Can700 × World × List Effect) : Prop where
  core : SameCore w out.2.1
  marks : reportMarks out.2.2 = f.marks s w
  statics : out.1 =
    { f.statics s w with
      lastWarningData := maskWarning allWarningMasks f.warning
      lastTriggerWarning := maskWarning triggerWarningMasks f.warning }

theorem dealWsiAdasCan700_handled (target : Target) {f : CanFrame}
    {s : Can700} (w : World)
    (h : maskWarning allWarningMasks f.warning ≠ s.lastWarningData) :
    CanHandled f s w (dealWsiAdasCan700 target f s w) := by
  have hdone := canEvents_done target f ⟨s, f.msgbuf, w, []⟩
  unfold dealWsiAdasCan700
  rw [if_neg h]
  refine ⟨hdone.core, hdone.marks, ?_⟩
  simp only [hdone.statics]

theorem dealWsiAdasCan700_same (target : Target) {f : CanFrame}
    {s : Can700} (w : World)
    (h : maskWarning allWarningMasks f.warning = s.lastWarningData) :
    dealWsiAdasCan700 target f s w = (s, w, []) :=
  if_pos h

end SanbaoProt
