import SanbaoProt.Device.DmsInfo
import SanbaoProt.Device.Mileage

/-!
# Snapshots by time

In time mode `pthread_snap_shot` asks `limit_record_time` at every pass whether
the period has gone by.  The time that it compares with is that of the last
snapshot by time, however long ago it was and whatever modes, periods and
other snapshots there were since.
-/

namespace SanbaoProt

open Library

/-- The type of the report that a snapshot makes. -/
def Build.snapReportType : Build → UInt8
  | .adas => sbWarnTypeSnap
  | .dms => dmsSanpshotEvent

theorem doSnapShot_reportTypes (target : Target) (env : Env) (w : World) :
    reportTypes (doSnapShot target env w).2 =
      [target.build.snapReportType] := by
  unfold doSnapShot
  cases target.build with
  | adas =>
      have hstores := buildAdasWarnFrame_storing target w sbWarnTypeSnap
        sbWarnStatusNone env.msgbuf
      have htype := (buildAdasWarnFrame_head target w sbWarnTypeSnap
        sbWarnStatusNone env.msgbuf).2
      simp only [sendReport_reportTypes target hstores, htype]
      rfl
  | dms =>
      have hstores := buildDmsWarnFrame_storing target w dmsSanpshotEvent
        sbWarnStatusNone env.msgbuf
      simp only [sendReport_reportTypes target hstores,
        buildDmsWarnFrame_soundType]
      rfl

/-! ## Passes in time mode -/

structure TimePass where
  now : Nat
  period : Nat
  deriving DecidableEq, Repr

/-- The period that a pass in time mode finds; zero takes no snapshots. -/
def SnapThread.timePass? (target : Target) (s : SnapThread) :
    SnapInput → Option TimePass
  | .pass now _ =>
      let tmp := target.build.autoPhoto s.world.para
      if tmp.mode = snapShotByTime ∧ tmp.timePeriod ≠ 0 then
        some ⟨now, tmp.timePeriod⟩
      else none
  | _ => none

def SnapOutput.effect? : SnapOutput → Option Effect
  | .effect e => some e
  | .snapByMileage _ => none

/-- The types of the reports that are sent. -/
def reported (outputs : List SnapOutput) : List UInt8 :=
  reportTypes (outputs.filterMap SnapOutput.effect?)

theorem reported_effects (effects : List Effect) :
    reported (effects.map .effect) = reportTypes effects := by
  simp [reported, List.filterMap_map, Function.comp_def, SnapOutput.effect?]

/-- The thread, with its snapshots by time for outputs. -/
def timeSnaps (target : Target) : Mealy SnapThread SnapInput TimePass where
  step s i :=
    let out := (snapThread target).step s i
    (out.1, if reported out.2 = [] then [] else (s.timePass? target i).toList)

/-- The time of the last snapshot, or that of the start. -/
def lastSnap (snaps : List TimePass) : Nat :=
  (snaps.getLast?.map TimePass.now).getD 0

def TimePass.Due (p : TimePass) (last : Nat) : Prop :=
  last + p.period ≤ p.now

instance (p : TimePass) (last : Nat) : Decidable (p.Due last) :=
  inferInstanceAs (Decidable (_ ≤ _))

theorem limitRecordTime_due (last : Nat) (p : TimePass) (h : p.period ≠ 0) :
    limitRecordTime p.now last p.period =
      if p.Due last then (true, p.now) else (false, last) := by
  have hpassed : ¬ p.now - last < p.period ↔ p.Due last := by
    unfold TimePass.Due
    omega
  unfold limitRecordTime
  by_cases hdue : p.Due last
  · rw [if_pos hdue, if_neg (hpassed.mpr hdue)]
  · rw [if_neg hdue, if_pos (not_not.mp (mt hpassed.mp hdue))]

section

variable {target : Target} {s : SnapThread} {i : SnapInput}

theorem timePass_step {p : TimePass} (h : s.timePass? target i = some p) :
    ((snapThread target).step s i).1.last =
        (if p.Due s.last then p.now else s.last) ∧
      reported ((snapThread target).step s i).2 =
        if p.Due s.last then [target.build.snapReportType] else [] := by
  cases i with
  | frame r => cases h
  | others world => cases h
  | pass now env =>
      simp only [SnapThread.timePass?] at h
      split_ifs at h with hmode
      obtain rfl := Option.some.inj h
      obtain ⟨htime, hperiod⟩ := hmode
      have hlimit := limitRecordTime_due s.last
        ⟨now, (target.build.autoPhoto s.world.para).timePeriod⟩ hperiod
      simp only [snapThread, SnapThread.pass, if_pos htime, if_pos hperiod,
        hlimit]
      by_cases hdue : TimePass.Due
          ⟨now, (target.build.autoPhoto s.world.para).timePeriod⟩ s.last
      · simp [hdue, SnapThread.snap, reported_effects,
          doSnapShot_reportTypes]
      · simp only [if_neg hdue, Bool.false_eq_true, if_false, true_and]
        rfl

theorem distancePass_last (env : Env) (period : Nat) :
    (s.distancePass target env period).1.last = s.last := by
  unfold SnapThread.distancePass
  simp only
  split_ifs <;> rfl

/-- Nothing but a pass in time mode touches the time. -/
theorem otherPass_last (h : s.timePass? target i = none) :
    ((snapThread target).step s i).1.last = s.last := by
  cases i with
  | frame r => rfl
  | others world => rfl
  | pass now env =>
      simp only [SnapThread.timePass?] at h
      split_ifs at h with hmode
      rw [not_and_or, not_not] at hmode
      simp only [snapThread, SnapThread.pass]
      split_ifs with htime hperiod hlimited hdistance
      · exact absurd hperiod (by simpa [htime] using hmode)
      · exact absurd hperiod (by simpa [htime] using hmode)
      · rfl
      · exact distancePass_last env _
      · rfl

end

/-! ## Runs -/

theorem timeSnaps_final (target : Target) (s : SnapThread)
    (inputs : List SnapInput) :
    (timeSnaps target).final s inputs =
      (snapThread target).final s inputs := by
  induction inputs generalizing s with
  | nil => rfl
  | cons i inputs ih => exact ih _

/-- A step takes a snapshot by time exactly if it is a pass that is due. -/
theorem timeSnaps_step (target : Target) (s : SnapThread) (i : SnapInput) :
    ((timeSnaps target).step s i).2 =
        (s.timePass? target i).toList.filter (·.Due s.last) ∧
      ((timeSnaps target).step s i).1.last =
        (((timeSnaps target).step s i).2.getLast?.map TimePass.now).getD
          s.last := by
  simp only [timeSnaps]
  cases hpass : s.timePass? target i with
  | none => simp [otherPass_last hpass]
  | some p =>
      obtain ⟨hlast, hreported⟩ := timePass_step hpass
      by_cases hdue : p.Due s.last
      · simp [hlast, hreported, hdue]
      · simp [hlast, hreported, hdue]

/-- The thread remembers its last snapshot by time. -/
theorem timeSnaps_last (target : Target) {s : SnapThread}
    (hs : s.last = 0) (inputs : List SnapInput) :
    ((snapThread target).final s inputs).last =
      lastSnap ((timeSnaps target).outputs s inputs) := by
  rw [← timeSnaps_final]
  induction inputs using List.reverseRecOn with
  | nil => exact hs
  | append_singleton inputs i ih =>
      have hstep := (timeSnaps_step target
        ((timeSnaps target).final s inputs) i).2
      rw [Mealy.final_append, Mealy.outputs_append, Mealy.final_cons,
        Mealy.final_nil, Mealy.outputs_cons, Mealy.outputs_nil,
        List.append_nil, hstep, ih]
      unfold lastSnap
      rw [List.getLast?_append]
      cases ((timeSnaps target).step ((timeSnaps target).final s inputs)
        i).2.getLast? <;> rfl

theorem timeSnaps_chain (target : Target) {s : SnapThread}
    (hs : s.last = 0) (inputs : List SnapInput) :
    ((timeSnaps target).outputs s inputs).IsChain fun a b => b.Due a.now := by
  induction inputs using List.reverseRecOn with
  | nil => exact List.isChain_nil
  | append_singleton inputs i ih =>
      let before := (timeSnaps target).outputs s inputs
      have hlast := timeSnaps_last target hs inputs
      have hstep := (timeSnaps_step target
        ((timeSnaps target).final s inputs) i).1
      rw [timeSnaps_final, hlast] at hstep
      rw [Mealy.outputs_append, Mealy.outputs_cons, Mealy.outputs_nil,
        List.append_nil, timeSnaps_final, hstep]
      rw [List.isChain_append]
      refine ⟨ih, ?_, ?_⟩
      · cases SnapThread.timePass? target _ i with
        | none => exact List.isChain_nil
        | some p =>
            rw [Option.toList_some, List.filter_singleton]
            cases decide (p.Due _) with
            | true => exact List.isChain_singleton p
            | false => exact List.isChain_nil
      · intro a ha b hb
        have hmem := List.mem_of_mem_head? hb
        have hdue : b.Due (lastSnap before) :=
          of_decide_eq_true (List.mem_filter.mp hmem).2
        rw [lastSnap, Option.mem_def.mp ha] at hdue
        exact hdue

/-- A pass in time mode reports one snapshot if its period has gone by since
the last snapshot by time, and nothing otherwise; so two of them lie at least
the period apart that the later one finds. -/
theorem snapsByTime_exact (target : Target) (access : ParaFileAccess)
    (files : ParaFiles) (inputs : List SnapInput) :
    let started := snapStarted target access files
    let s := (snapThread target).final started inputs
    let snaps := (timeSnaps target).outputs started inputs
    (∀ i, ∀ p ∈ s.timePass? target i,
      reported ((snapThread target).step s i).2 =
        if p.Due (lastSnap snaps) then [target.build.snapReportType]
        else []) ∧
      snaps.IsChain fun a b => a.now + b.period ≤ b.now := by
  intro started s snaps
  have hlast : s.last = lastSnap snaps := timeSnaps_last target rfl inputs
  constructor
  · intro i p hp
    rw [← hlast]
    exact (timePass_step hp).2
  · exact timeSnaps_chain target rfl inputs

end SanbaoProt
