import SanbaoProt.Device.CanReports

/-!
# The rate of the ADAS reports

The time filter keeps two warnings of a kind apart by the time that the later
one asks for.  What it compares with is the time of the last alert that got so
far, not of the last report: an alert that is then held back by its speed has
taken its time, and the next one waits for it.
-/

namespace SanbaoProt

open Library

/-! ## Alerts that are not reported -/

/-- Without a report of this type the time of the alert stays. -/
def KeepsTime (type : UInt8) (stamp : Can700 → Int) (s : Can700)
    (out : Can700 × World × List Effect) : Prop :=
  (∀ statusFlag, (type, statusFlag) ∉ reportMarks out.2.2) →
    stamp out.1 = stamp s

def KeepsTimes (s : Can700) (out : Can700 × World × List Effect) : Prop :=
  KeepsTime sbWarnTypeLdw Can700.ldwAlert s out ∧
    KeepsTime sbWarnTypeFcw Can700.fcwAlert s out ∧
    KeepsTime sbWarnTypeHw Can700.hwAlert s out

/-- The first alert of the frame that gets through its time filter: the time
taken last and the time that it takes. -/
def CanFrame.firstDue (f : CanFrame) (s : Can700) (w : World) :
    Option (Int × Int) :=
  if f.LdwDue s w then some (s.ldwAlert, f.ldwNow)
  else if f.FcwDue s w then some (s.fcwAlert, f.fcwNow)
  else if f.HwDue s w then some (s.hwAlert, f.hwNow)
  else none

section

variable {f : CanFrame} {s : Can700} {w : World}
  {out : Can700 × World × List Effect} (h : CanHandled f s w out)

include h

theorem CanHandled.keepsTimes_passing (hpasses : f.Passes w) :
    KeepsTimes s out := by
  have hjumps : ¬ f.Jumps s w := fun hjumps => hjumps.2 hpasses
  unfold KeepsTimes KeepsTime
  rw [h.statics, h.marks, CanFrame.marks, if_neg hjumps, if_pos hpasses]
  refine ⟨fun hldw => ?_, fun hfcw => ?_, fun hhw => ?_⟩
  · have hnot : ¬ f.LdwDue s w := by
      intro hdue
      exact hldw sbWarnStatusNone (by simp [CanFrame.triggerMarks, hdue])
    exact if_neg hnot
  · have hnot : ¬ f.FcwDue s w := by
      intro hdue
      exact hfcw sbWarnStatusNone (by simp [CanFrame.triggerMarks, hdue])
    exact if_neg fun hdue => hnot hdue.1
  · have hcloses : ¬ HwCloses f s := by
      intro hcloses
      exact hhw sbWarnStatusEnd (by simp [hcloses])
    have hnot : ¬ f.HwDue s w := by
      intro hdue
      exact hhw sbWarnStatusBegin (by simp [hcloses, hdue, hpasses])
    simp [CanFrame.statics, hcloses, hnot]

theorem CanHandled.keepsTimes_blocked (hslow : ¬ f.Passes w) :
    KeepsTimes s out ↔ ∀ last now, f.firstDue s w = some (last, now) →
      now = last := by
  unfold KeepsTimes KeepsTime
  rw [h.statics, h.marks]
  by_cases hldw : f.LdwDue s w
  · simp [CanFrame.marks, CanFrame.statics, CanFrame.firstDue, CanFrame.Jumps,
      hldw, hslow]
  · by_cases hfcw : f.FcwDue s w
    · simp [CanFrame.marks, CanFrame.statics, CanFrame.firstDue,
        CanFrame.Jumps, hldw, hfcw, hslow]
    · by_cases hhw : f.HwDue s w
      · have hcloses : ¬ HwCloses f s := fun hcloses =>
          not_hwDue_of_closes hcloses hhw
        simp [CanFrame.marks, CanFrame.statics, CanFrame.firstDue,
          CanFrame.Jumps, hldw, hfcw, hhw, hslow, hcloses]
      · by_cases hcloses : HwCloses f s
        · simp [CanFrame.marks, CanFrame.statics, CanFrame.firstDue,
            CanFrame.Jumps, hldw, hfcw, hhw, hslow, hcloses]
        · simp [CanFrame.marks, CanFrame.statics, CanFrame.firstDue,
            CanFrame.Jumps, hldw, hfcw, hhw, hslow, hcloses]

end

theorem keepsTimes_same (target : Target) {f : CanFrame} {s : Can700}
    (w : World)
    (h : maskWarning allWarningMasks f.warning = s.lastWarningData) :
    KeepsTimes s (dealWsiAdasCan700 target f s w) := by
  rw [dealWsiAdasCan700_same target w h]
  exact ⟨fun _ => rfl, fun _ => rfl, fun _ => rfl⟩

/-- Unreported alerts leave the times alone exactly when the frame is not
looked at, the speed is high enough, or the first alert that gets through its
time filter has taken this very time before. -/
theorem keepsTimes_iff (target : Target) (f : CanFrame) (s : Can700)
    (w : World) :
    KeepsTimes s (dealWsiAdasCan700 target f s w) ↔
      maskWarning allWarningMasks f.warning = s.lastWarningData ∨
        f.Passes w ∨
        ∀ last now, f.firstDue s w = some (last, now) → now = last := by
  by_cases hsame : maskWarning allWarningMasks f.warning = s.lastWarningData
  · exact iff_of_true (keepsTimes_same target w hsame) (.inl hsame)
  have hhandled := dealWsiAdasCan700_handled target w hsame
  rw [or_iff_right hsame]
  by_cases hpasses : f.Passes w
  · exact iff_of_true (hhandled.keepsTimes_passing hpasses) (.inl hpasses)
  · rw [or_iff_right hpasses]
    exact hhandled.keepsTimes_blocked hpasses

/-- A departure to the left at the time 100. -/
def leftDeparture : CanFrame where
  warning := Packed.ofList 8 [0, 0, 0, 0, 0x02, 0, 0, 0]
  speedFilterEnable := true
  alertTimeFilter := 10
  ldwNow := 100
  fcwNow := 100
  hwNow := 100
  touchNow := 100
  msgbuf := fun _ => 0

/-- At a standstill it is not reported, but it takes its time. -/
theorem ldwTime_consumed :
    ¬ KeepsTimes Can700.zero
      (dealWsiAdasCan700 adasTcp leftDeparture Can700.zero
        (freshWorld adasTcp)) := by
  have hhandled := dealWsiAdasCan700_handled adasTcp (f := leftDeparture)
    (s := Can700.zero) (freshWorld adasTcp) (by decide)
  have hslow : ¬ leftDeparture.Passes (freshWorld adasTcp) := by
    decide +kernel
  have hfirst : leftDeparture.firstDue Can700.zero (freshWorld adasTcp) =
      some (0, 100) := by
    decide +kernel
  rw [hhandled.keepsTimes_blocked hslow]
  intro h
  exact absurd (h 0 100 hfirst) (by decide)

/-! ## Reports and their times -/

structure TimedReport where
  type : UInt8
  statusFlag : UInt8
  time : Int
  /-- The filter time of this type when the report is made. -/
  secs : Int

namespace CanFrame

def timeOf (f : CanFrame) (mark : UInt8 × UInt8) : Int :=
  if mark.1 = sbWarnTypeLdw then f.ldwNow
  else if mark.1 = sbWarnTypeFcw then f.fcwNow
  else if mark.2 = sbWarnStatusEnd then f.touchNow
  else f.hwNow

def videoTimeOf (type : UInt8) : Fin 50 :=
  if type = sbWarnTypeLdw then AdasPara.ldwVideoTime
  else if type = sbWarnTypeFcw then AdasPara.fcwVideoTime
  else AdasPara.hwVideoTime

def timed (f : CanFrame) (w : World) (mark : UInt8 × UInt8) : TimedReport where
  type := mark.1
  statusFlag := mark.2
  time := f.timeOf mark
  secs := (w.para.adas (videoTimeOf mark.1)).toNat + f.alertTimeFilter.toInt

end CanFrame

/-- `can700`, seen by its reports and their times. -/
def timedCan700 (target : Target) :
    Mealy Can700 (CanFrame × World) TimedReport where
  step s i :=
    let out := dealWsiAdasCan700 target i.1 s i.2
    (out.1, (reportMarks out.2.2).map (i.1.timed i.2))

/-- A report that does not end an alert comes its filter time after every
earlier one of its type. -/
def Spaced (r r' : TimedReport) : Prop :=
  r.type = r'.type → r'.statusFlag ≠ sbWarnStatusEnd →
    r.time + r'.secs ≤ r'.time

/-- What the clock reads along a run, in the order of the calls. -/
def clockReadings (inputs : List (CanFrame × World)) : List Int :=
  inputs.flatMap fun i => [i.1.ldwNow, i.1.fcwNow, i.1.hwNow, i.1.touchNow]

/-- The reports of a CAN frame, each with what brings it about. -/
inductive CanFrame.Marked (f : CanFrame) (s : Can700) (w : World) :
    UInt8 × UInt8 → Prop where
  | ldw (h : f.LdwDue s w) : Marked f s w (sbWarnTypeLdw, sbWarnStatusNone)
  | fcw (h : f.FcwDue s w) (hpasses : f.Passes w) :
      Marked f s w (sbWarnTypeFcw, sbWarnStatusNone)
  | begins (h : f.HwDue s w) (hjumps : ¬ f.Jumps s w) :
      Marked f s w (sbWarnTypeHw, sbWarnStatusBegin)
  | ends (h : HwCloses f s) (hjumps : ¬ f.Jumps s w) :
      Marked f s w (sbWarnTypeHw, sbWarnStatusEnd)

namespace CanFrame

variable {f : CanFrame} {s : Can700} {w : World}

theorem triggerMarks_marked (hpasses : f.Passes w) :
    ∀ mark ∈ f.triggerMarks s w, f.Marked s w mark := by
  intro mark hmark
  rcases List.mem_append.mp hmark with hldw | hfcw
  · split_ifs at hldw with hdue
    · rw [List.mem_singleton.mp hldw]
      exact .ldw hdue
    · cases hldw
  · split_ifs at hfcw with hdue
    · rw [List.mem_singleton.mp hfcw]
      exact .fcw hdue hpasses
    · cases hfcw

theorem marks_marked : ∀ mark ∈ f.marks s w, f.Marked s w mark := by
  intro mark hmark
  unfold marks at hmark
  split_ifs at hmark with hjumps hpasses hcloses hdue hcloses hdue
  · cases hmark
  · rcases List.mem_append.mp hmark with htrigger | hend
    · exact triggerMarks_marked hpasses mark htrigger
    · rw [List.mem_singleton.mp hend]
      exact .ends hcloses hjumps
  · rcases List.mem_append.mp hmark with htrigger | hbegin
    · exact triggerMarks_marked hpasses mark htrigger
    · rw [List.mem_singleton.mp hbegin]
      exact .begins hdue.1 hjumps
  · rw [List.append_nil] at hmark
    exact triggerMarks_marked hpasses mark hmark
  · rw [List.mem_singleton.mp hmark]
    exact .ends hcloses hjumps
  · exact absurd hdue.2 hpasses
  · cases hmark

theorem triggerMarks_types :
    (f.triggerMarks s w).Pairwise (fun mark mark' : UInt8 × UInt8 =>
        mark.1 ≠ mark'.1) ∧
      ∀ mark ∈ f.triggerMarks s w, mark.1 ≠ sbWarnTypeHw := by
  unfold triggerMarks
  split_ifs <;> simp [sbWarnTypeLdw, sbWarnTypeFcw, sbWarnTypeHw]

theorem marks_types :
    (f.marks s w).Pairwise fun mark mark' : UInt8 × UInt8 =>
      mark.1 ≠ mark'.1 := by
  obtain ⟨htypes, hnone⟩ := triggerMarks_types (f := f) (s := s) (w := w)
  have hall : ∀ statusFlag, (f.triggerMarks s w ++
      [(sbWarnTypeHw, statusFlag)]).Pairwise
        fun mark mark' : UInt8 × UInt8 => mark.1 ≠ mark'.1 := by
    intro statusFlag
    refine List.pairwise_append.mpr ⟨htypes, List.pairwise_singleton _ _, ?_⟩
    intro mark hmark mark' hmark'
    rw [List.mem_singleton.mp hmark']
    exact hnone mark hmark
  unfold marks
  split_ifs
  · exact List.Pairwise.nil
  · exact hall sbWarnStatusEnd
  · exact hall sbWarnStatusBegin
  · rw [List.append_nil]
    exact htypes
  · exact List.pairwise_singleton _ _
  · exact List.pairwise_singleton _ _
  · exact List.Pairwise.nil

end CanFrame

/-- The time taken last for a type. -/
def Can700.stampOf (s : Can700) (type : UInt8) : Int :=
  if type = sbWarnTypeLdw then s.ldwAlert
  else if type = sbWarnTypeFcw then s.fcwAlert
  else s.hwAlert

/-- An open alert can be closed at the time that the clock reads. -/
def ClosesInTime (s : Can700) (i : CanFrame × World) : Prop :=
  s.sStartFlag = true → s.hwAlert ≤ i.1.touchNow

section

variable {f : CanFrame} {s : Can700} {w : World}

theorem filtered_le {last now : Int} {secs : UInt32}
    (h : filterAlertByTime last now secs) : last ≤ now := by
  rw [filterAlertByTime_iff] at h
  omega

theorem CanFrame.stampOf_le (hin : ClosesInTime s (f, w)) (type : UInt8) :
    s.stampOf type ≤ (f.statics s w).stampOf type := by
  unfold Can700.stampOf statics
  simp only
  split_ifs with hldw hdue hfcw hdue hjumps hdue hcloses
  · exact filtered_le hdue.2.2
  · exact le_rfl
  · exact filtered_le hdue.1.2.2
  · exact le_rfl
  · exact le_rfl
  · exact filtered_le hdue.2.2
  · exact hin hcloses.2.2
  · exact le_rfl

theorem CanFrame.Marked.taken {mark : UInt8 × UInt8}
    (h : f.Marked s w mark) :
    f.timeOf mark = (f.statics s w).stampOf mark.1 := by
  cases h with
  | ldw hdue => exact (if_pos hdue).symm
  | fcw hdue hpasses => exact (if_pos ⟨hdue, .inl hpasses⟩).symm
  | begins hdue hjumps =>
      change f.hwNow = (f.statics s w).hwAlert
      simp [statics, hjumps, hdue]
  | ends hcloses hjumps =>
      have hidle := not_hwDue_of_closes (w := w) hcloses
      change f.touchNow = (f.statics s w).hwAlert
      simp [statics, hjumps, hidle, hcloses]

theorem CanFrame.Marked.spaced {mark : UInt8 × UInt8}
    (h : f.Marked s w mark) (hend : mark.2 ≠ sbWarnStatusEnd) :
    s.stampOf mark.1 + (f.timed w mark).secs ≤ f.timeOf mark := by
  have hfiltered : ∀ {last now : Int} {field : Fin 50},
      filterAlertByTime last now (f.filterTime w field) →
        last + ((w.para.adas field).toNat + f.alertTimeFilter.toInt) ≤
          now := by
    intro last now field htime
    rw [filterAlertByTime_iff] at htime
    have hsecs := le_alertFilterTime (w.para.adas field) f.alertTimeFilter
    rw [filterTime] at htime
    omega
  cases h with
  | ldw hdue => exact hfiltered hdue.2.2
  | fcw hdue _ => exact hfiltered hdue.2.2
  | begins hdue _ => exact hfiltered hdue.2.2
  | ends _ _ => exact absurd rfl hend

end

/-! ## Runs -/

/-- A frame leaves everything as it is, or it shows its marks. -/
theorem timedCan700_step (target : Target) (s : Can700)
    (i : CanFrame × World) :
    (timedCan700 target).step s i = (s, []) ∨
      ∃ s', (timedCan700 target).step s i =
          (s', (i.1.marks s i.2).map (i.1.timed i.2)) ∧
        s'.sStartFlag = (i.1.statics s i.2).sStartFlag ∧
        ∀ type, s'.stampOf type = (i.1.statics s i.2).stampOf type := by
  obtain ⟨f, w⟩ := i
  simp only [timedCan700]
  by_cases hsame : maskWarning allWarningMasks f.warning = s.lastWarningData
  · rw [dealWsiAdasCan700_same target w hsame]
    exact .inl rfl
  · have hhandled := dealWsiAdasCan700_handled target w hsame
    rw [hhandled.marks, hhandled.statics]
    exact .inr ⟨_, rfl, rfl, fun type => rfl⟩

theorem timedCan700_orders (target : Target) :
    (timedCan700 target).Orders ClosesInTime
      (fun s r => r.time ≤ s.stampOf r.type) Spaced where
  among := by
    intro s i _
    rcases timedCan700_step target s i with hsame | ⟨s', hstep, -, -⟩
    · rw [hsame]
      exact List.Pairwise.nil
    · rw [hstep]
      refine List.Pairwise.map _ ?_ CanFrame.marks_types
      intro mark mark' hne htype
      exact absurd htype hne
  shown := by
    intro s i _ r hr
    rcases timedCan700_step target s i with hsame | ⟨s', hstep, -, hstamp⟩
    · rw [hsame] at hr
      cases hr
    · rw [hstep] at hr ⊢
      obtain ⟨mark, hmark, rfl⟩ := List.mem_map.mp hr
      rw [hstamp]
      exact (CanFrame.marks_marked mark hmark).taken.le
  keeps := by
    intro s i r hin hr
    rcases timedCan700_step target s i with hsame | ⟨s', hstep, -, hstamp⟩
    · rw [hsame]
      exact hr
    · rw [hstep, hstamp]
      exact hr.trans (CanFrame.stampOf_le hin r.type)
  before := by
    intro s i r _ hr r' hr' htype hend
    rcases timedCan700_step target s i with hsame | ⟨s', hstep, -, -⟩
    · rw [hsame] at hr'
      cases hr'
    · rw [hstep] at hr'
      obtain ⟨mark, hmark, rfl⟩ := List.mem_map.mp hr'
      have hspaced := (CanFrame.marks_marked mark hmark).spaced hend
      rw [htype] at hr
      change r.time + (i.1.timed i.2 mark).secs ≤ i.1.timeOf mark
      have hle : r.time ≤ s.stampOf mark.1 := hr
      omega

theorem CanFrame.statics_open {f : CanFrame} {s : Can700} {w : World}
    (h : (f.statics s w).sStartFlag = true) :
    (f.statics s w).hwAlert = f.hwNow ∨
      s.sStartFlag = true ∧ (f.statics s w).hwAlert = s.hwAlert := by
  by_cases hjumps : f.Jumps s w
  · have hflag : s.sStartFlag = true := by simpa [statics, hjumps] using h
    exact .inr ⟨hflag, by simp [statics, hjumps]⟩
  · by_cases hdue : f.HwDue s w
    · exact .inl (by simp [statics, hjumps, hdue])
    · by_cases hcloses : HwCloses f s
      · simp [statics, hjumps, hdue, hcloses] at h
      · have hflag : s.sStartFlag = true := by
          simpa [statics, hjumps, hdue, hcloses] using h
        exact .inr ⟨hflag, by simp [statics, hjumps, hdue, hcloses]⟩

/-- The clock of a run does not go back, and an open alert lies behind it. -/
theorem closesInTime_of_clock (target : Target) {s : Can700}
    {inputs : List (CanFrame × World)}
    (hs : s.sStartFlag = true → ∀ t ∈ clockReadings inputs, s.hwAlert ≤ t)
    (hclock : (clockReadings inputs).Pairwise (· ≤ ·)) :
    (timedCan700 target).EachStep ClosesInTime s inputs := by
  induction inputs generalizing s with
  | nil => exact Mealy.eachStep_nil s
  | cons i inputs ih =>
      have hsplit : clockReadings (i :: inputs) =
          [i.1.ldwNow, i.1.fcwNow, i.1.hwNow, i.1.touchNow] ++
            clockReadings inputs := rfl
      rw [hsplit] at hs hclock
      obtain ⟨-, hrest, hlater⟩ := List.pairwise_append.mp hclock
      rw [Mealy.eachStep_cons]
      refine ⟨fun hopen => hs hopen _ (by simp), ih ?_ hrest⟩
      intro hopen t ht
      rcases timedCan700_step target s i with
        hsame | ⟨s', hstep, hflag, hstamp⟩
      · rw [hsame] at hopen ⊢
        exact hs hopen t (List.mem_append_right _ ht)
      · rw [hstep] at hopen ⊢
        have hhw : s'.hwAlert = (i.1.statics s i.2).hwAlert :=
          hstamp sbWarnTypeHw
        rw [hhw]
        rcases CanFrame.statics_open (hflag.symm.trans hopen) with
          hnow | ⟨hopenBefore, hbefore⟩
        · rw [hnow]
          exact hlater _ (by simp) t ht
        · rw [hbefore]
          exact hs hopenBefore t (List.mem_append_right _ ht)

/-- Along a run whose clock does not go back the reports of a type are spaced
by the filter time of the later one, the ends of alerts apart. -/
theorem adasReports_spaced (target : Target)
    (inputs : List (CanFrame × World))
    (hclock : (clockReadings inputs).Pairwise (· ≤ ·)) :
    ((timedCan700 target).outputs Can700.zero inputs).Pairwise Spaced := by
  have hrun := closesInTime_of_clock target (s := Can700.zero) nofun hclock
  exact (timedCan700_orders target).pairwise hrun

def departureAt (now : Int) (warning : Packed 8) : CanFrame :=
  { leftDeparture with
    warning := warning
    speedFilterEnable := false
    ldwNow := now
    fcwNow := now
    hwNow := now
    touchNow := now }

/-- Departures to the left and to the right, fifteen seconds apart. -/
def twoDepartures : List (CanFrame × World) :=
  [(departureAt 100 (Packed.ofList 8 [0, 0, 0, 0, 0x02, 0, 0, 0]),
      freshWorld adasTcp),
    (departureAt 115 (Packed.ofList 8 [0, 0, 0, 0, 0x04, 0, 0, 0]),
      freshWorld adasTcp)]

theorem adasReports_spaced_twoDepartures :
    ((timedCan700 adasTcp).outputs Can700.zero twoDepartures).map
        TimedReport.time = [100, 115] ∧
      ((timedCan700 adasTcp).outputs Can700.zero twoDepartures).Pairwise
        Spaced :=
  ⟨by decide +kernel, adasReports_spaced adasTcp twoDepartures (by decide)⟩

end SanbaoProt
