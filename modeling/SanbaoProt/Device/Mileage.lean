import SanbaoProt.Device.HeartBeat

/-!
# Snapshots by distance

`pthread_snap_shot` compares the mileage of the latest speed frame with the one
it noted last.  The mileage travels big-endian and is never converted: the
thread subtracts two numbers whose bytes stand the wrong way round, so that one
unit of 0.1 km counts as 2 ^ 24.  `transmittedMileage` is the mileage that the
frame means and `mileage` the one that the thread reads.
-/

namespace SanbaoProt

open Library

namespace RealTimeData

def mileageBytes (r : RealTimeData) : List UInt8 := (r.toList.drop 2).take 4

/-- The field as a little-endian machine reads it. -/
def mileage (r : RealTimeData) : UInt32 :=
  UInt32.ofNat (ofBE r.mileageBytes.reverse)

def transmittedMileage (r : RealTimeData) : Nat := ofBE r.mileageBytes

theorem mileage_toNat (r : RealTimeData) :
    r.mileage.toNat = ofBE r.mileageBytes.reverse := by
  have hlength : r.mileageBytes.reverse.length = 4 := rfl
  have hlt := ofBE_lt r.mileageBytes.reverse
  rw [hlength] at hlt
  rw [mileage, UInt32.toNat_ofNat']
  exact Nat.mod_eq_of_lt hlt

theorem swapBytes_mileage (r : RealTimeData) :
    swapBytes 4 r.mileage.toNat = r.transmittedMileage := by
  rw [mileage_toNat]
  exact swapBytes_ofBE r.mileageBytes.reverse

end RealTimeData

/-! ## The thread -/

def snapShotByTime : UInt8 := 1

def snapShotByDistance : UInt8 := 2

/-- The parameters that the thread reads. -/
structure AutoPhoto where
  mode : UInt8
  timePeriod : Nat
  distancePeriod : Nat
  deriving DecidableEq

def Build.autoPhoto (b : Build) (para : ParaStore) : AutoPhoto :=
  match b with
  | .adas =>
      ⟨para.adas AdasPara.autoPhotoMode,
        para.adas.word AdasPara.autoPhotoTimePeriod,
        para.adas.word AdasPara.autoPhotoDistancePeriod⟩
  | .dms =>
      ⟨para.dms DmsPara.autoPhotoMode,
        para.dms.word DmsPara.autoPhotoTimePeriod,
        para.dms.word DmsPara.autoPhotoDistancePeriod⟩

/-- The locals of `pthread_snap_shot`, beside the world. -/
structure SnapThread where
  world : World
  mileageLast : UInt32
  last : Nat

inductive SnapInput where
  | frame (r : Received)
  /-- What the other threads make of the world; the real-time record is written
  by received frames only. -/
  | others (world : World)
  | pass (now : Nat) (env : Env)

inductive SnapOutput where
  | effect (e : Effect)
  /-- The message "snap by mileage!" and the record that it is printed for. -/
  | snapByMileage (rtData : RealTimeData)

namespace SnapThread

/-- `do_snap_shot` in the thread. -/
def snap (target : Target) (env : Env) (s : SnapThread) :
    SnapThread × List SnapOutput :=
  let out := doSnapShot target env s.world
  ({ s with world := out.1 }, out.2.map .effect)

def distancePass (target : Target) (env : Env) (period : Nat)
    (s : SnapThread) : SnapThread × List SnapOutput :=
  let rtData := s.world.realTime
  if period ≠ 0 then
    if period ≤ ((rtData.mileage - s.mileageLast) * 100).toNat then
      let out :=
        if s.mileageLast ≠ 0 then
          ((s.snap target env).1,
            .snapByMileage rtData :: (s.snap target env).2)
        else (s, [])
      ({ out.1 with mileageLast := rtData.mileage }, out.2)
    else (s, [])
  else (s, [])

/-- One pass of the loop of `pthread_snap_shot`. -/
def pass (target : Target) (now : Nat) (env : Env) (s : SnapThread) :
    SnapThread × List SnapOutput :=
  let tmp := target.build.autoPhoto s.world.para
  if tmp.mode = snapShotByTime then
    if tmp.timePeriod ≠ 0 then
      let limited := limitRecordTime now s.last tmp.timePeriod
      if limited.1 then { s with last := limited.2 }.snap target env
      else (s, [])
    else (s, [])
  else if tmp.mode = snapShotByDistance then
    s.distancePass target env tmp.distancePeriod
  else (s, [])

end SnapThread

def snapThread (target : Target) : Mealy SnapThread SnapInput SnapOutput where
  step s
    | .frame r =>
        let out := (device target).step s.world r
        ({ s with world := out.1 }, out.2.map .effect)
    | .others world =>
        ({ s with world := { world with realTime := s.world.realTime } }, [])
    | .pass now env => s.pass target now env

def snapStarted (target : Target) (access : ParaFileAccess)
    (files : ParaFiles) : SnapThread :=
  ⟨startedWorld target access files, 0, 0⟩

/-! ## What the frames say and what the thread notes -/

def SnapInput.realTime (target : Target) : SnapInput → Option RealTimeData
  | .frame r => receivedRealTime target r
  | _ => none

/-- The mileages that the received frames carry. -/
def receivedMileages (target : Target) (inputs : List SnapInput) : List Nat :=
  (inputs.filterMap (SnapInput.realTime target)).map
    RealTimeData.transmittedMileage

def SnapOutput.distance : SnapOutput → Option Nat
  | .effect _ => none
  | .snapByMileage rtData => some rtData.transmittedMileage

/-- The transmitted mileage at each snapshot by distance. -/
def distanceSnaps (outputs : List SnapOutput) : List Nat :=
  outputs.filterMap SnapOutput.distance

theorem distanceSnaps_effects (effects : List Effect) :
    distanceSnaps (effects.map .effect) = [] := by
  rw [distanceSnaps, List.filterMap_eq_nil_iff]
  intro o ho
  obtain ⟨e, -, rfl⟩ := List.mem_map.mp ho
  rfl

/-- The parameters that a pass finds. -/
def DistanceMode (target : Target) (period : Nat) (s : SnapThread) :
    SnapInput → Prop
  | .pass _ _ =>
      (target.build.autoPhoto s.world.para).mode = snapShotByDistance ∧
        (target.build.autoPhoto s.world.para).distancePeriod = period
  | _ => True

instance (target : Target) (period : Nat) (s : SnapThread) (i : SnapInput) :
    Decidable (DistanceMode target period s i) := by
  cases i <;> unfold DistanceMode <;> infer_instance

/-- The comparison of the thread, in its 32-bit arithmetic. -/
def SnapThread.Reaches (period : Nat) (s : SnapThread) : Prop :=
  period ≤ ((s.world.realTime.mileage - s.mileageLast) * 100).toNat

instance (period : Nat) (s : SnapThread) : Decidable (s.Reaches period) :=
  inferInstanceAs (Decidable (_ ≤ _))

/-- At least `period` metres lie between two mileages in 0.1 km. -/
def Advanced (period m m' : Nat) : Prop := m * 100 + period ≤ m' * 100

instance (period m m' : Nat) : Decidable (Advanced period m m') :=
  inferInstanceAs (Decidable (_ ≤ _))

/-! ## What a pass can do -/

inductive Passed (target : Target) (env : Env) (period : Nat)
    (s : SnapThread) : SnapThread × List SnapOutput → Prop where
  | rests (hreaches : ¬ s.Reaches period) :
      Passed target env period s (s, [])
  | notes (hreaches : s.Reaches period) (hlast : s.mileageLast = 0) :
      Passed target env period s
        ({ s with mileageLast := s.world.realTime.mileage }, [])
  | snaps (hreaches : s.Reaches period) (hlast : s.mileageLast ≠ 0) :
      Passed target env period s
        ({ s with
          world := (doSnapShot target env s.world).1
          mileageLast := s.world.realTime.mileage },
          .snapByMileage s.world.realTime ::
            (doSnapShot target env s.world).2.map .effect)

section

variable {target : Target} {period : Nat} {s : SnapThread}

theorem distancePass_passed (hperiod : period ≠ 0) (env : Env) :
    Passed target env period s (s.distancePass target env period) := by
  unfold SnapThread.distancePass
  rw [if_pos hperiod]
  simp only
  split_ifs with hreaches hlast
  · exact .snaps hreaches hlast
  · exact .notes hreaches (not_not.mp hlast)
  · exact .rests hreaches

theorem pass_passed (hperiod : period ≠ 0) {now : Nat} {env : Env}
    (hmode : DistanceMode target period s (.pass now env)) :
    Passed target env period s (s.pass target now env) := by
  obtain ⟨hdistance, hperiod'⟩ := hmode
  have htime : snapShotByDistance ≠ snapShotByTime := by decide
  unfold SnapThread.pass
  simp only
  rw [hdistance, if_neg htime, if_pos rfl, hperiod']
  exact distancePass_passed hperiod env

/-- The snapshots by distance of a pass. -/
theorem Passed.distanceSnaps {env : Env}
    {out : SnapThread × List SnapOutput}
    (h : Passed target env period s out) :
    distanceSnaps out.2 =
      if s.Reaches period ∧ s.mileageLast ≠ 0 then
        [s.world.realTime.transmittedMileage]
      else [] := by
  cases h with
  | rests hreaches =>
      rw [if_neg fun h => hreaches h.1]
      rfl
  | notes hreaches hlast =>
      rw [if_neg fun h => h.2 hlast]
      rfl
  | snaps hreaches hlast =>
      rw [if_pos ⟨hreaches, hlast⟩]
      exact congrArg (_ :: ·) (distanceSnaps_effects _)

theorem Passed.realTime {env : Env} {out : SnapThread × List SnapOutput}
    (h : Passed target env period s out) :
    out.1.world.realTime = s.world.realTime := by
  cases h with
  | rests => rfl
  | notes => rfl
  | snaps => exact (doSnapShot_quiet target env s.world).1.realTime

end

/-! ## The note lags behind the frames -/

/-- `snaps` are the snapshots that have been taken. -/
structure Noted (s : SnapThread) (snaps : List Nat) : Prop where
  behind : swapBytes 4 s.mileageLast.toNat ≤
    s.world.realTime.transmittedMileage
  latest : ∀ m ∈ snaps.getLast?,
    s.mileageLast ≠ 0 ∧ swapBytes 4 s.mileageLast.toNat = m

theorem mileage_ne_zero_of_behind {s : SnapThread}
    (hlast : s.mileageLast ≠ 0)
    (hbehind : swapBytes 4 s.mileageLast.toNat ≤
      s.world.realTime.transmittedMileage) :
    s.world.realTime.mileage ≠ 0 := by
  intro hzero
  have hnothing : swapBytes 4 s.mileageLast.toNat = 0 := by
    rw [← RealTimeData.swapBytes_mileage, hzero] at hbehind
    exact Nat.le_zero.mp (hbehind.trans_eq (swapBytes_zero 4))
  have hback := swapBytes_swapBytes 4 s.mileageLast.toNat_lt
  rw [hnothing, swapBytes_zero] at hback
  exact hlast (UInt32.toNat_inj.mp hback.symm)

theorem Noted.passed {target : Target} {period : Nat} {s : SnapThread}
    {snaps : List Nat} (h : Noted s snaps) {env : Env}
    {out : SnapThread × List SnapOutput}
    (hpassed : Passed target env period s out) :
    Noted out.1 (snaps ++ distanceSnaps out.2) := by
  have hreal := hpassed.realTime
  have hsnaps := hpassed.distanceSnaps
  cases hpassed with
  | rests hreaches =>
      rw [if_neg fun h => hreaches h.1] at hsnaps
      rw [hsnaps, List.append_nil]
      exact h
  | notes hreaches hlast =>
      rw [if_neg fun h => h.2 hlast] at hsnaps
      rw [hsnaps, List.append_nil]
      refine ⟨(RealTimeData.swapBytes_mileage _).le, fun m hm => ?_⟩
      exact absurd hlast (h.latest m hm).1
  | snaps hreaches hlast =>
      rw [if_pos ⟨hreaches, hlast⟩] at hsnaps
      rw [hsnaps]
      refine ⟨?_, fun m hm => ?_⟩
      · rw [hreal]
        exact (RealTimeData.swapBytes_mileage _).le
      · rw [List.getLast?_concat, Option.mem_some_iff] at hm
        subst hm
        exact ⟨mileage_ne_zero_of_behind hlast h.behind,
          RealTimeData.swapBytes_mileage _⟩

theorem snapThread_realTime (target : Target) {period : Nat}
    (hperiod : period ≠ 0) {s : SnapThread} {i : SnapInput}
    (hmode : DistanceMode target period s i) :
    ((snapThread target).step s i).1.world.realTime =
      (i.realTime target).getD s.world.realTime := by
  cases i with
  | frame r => exact device_realTime target s.world r
  | others world => rfl
  | pass now env => exact (pass_passed hperiod hmode).realTime

theorem Noted.step {target : Target} {period : Nat} (hperiod : period ≠ 0)
    {s : SnapThread} {snaps : List Nat} (h : Noted s snaps) {i : SnapInput}
    (hmode : DistanceMode target period s i)
    (hmileage : ∀ rtData ∈ i.realTime target,
      s.world.realTime.transmittedMileage ≤ rtData.transmittedMileage) :
    Noted ((snapThread target).step s i).1
      (snaps ++ distanceSnaps ((snapThread target).step s i).2) := by
  cases i with
  | frame r =>
      have hreal := device_realTime target s.world r
      have hsnaps : distanceSnaps
          ((snapThread target).step s (.frame r)).2 = [] :=
        distanceSnaps_effects _
      rw [hsnaps, List.append_nil]
      refine ⟨h.behind.trans ?_, h.latest⟩
      change _ ≤ ((device target).step s.world r).1.realTime.transmittedMileage
      rw [hreal]
      cases hreceived : receivedRealTime target r with
      | none => exact Nat.le_refl _
      | some rtData => exact hmileage rtData hreceived
  | others world =>
      have hsnaps : distanceSnaps
          ((snapThread target).step s (.others world)).2 = [] := rfl
      rw [hsnaps, List.append_nil]
      exact ⟨h.behind, h.latest⟩
  | pass now env => exact h.passed (pass_passed hperiod hmode)

/-! ## Runs -/

theorem receivedMileages_append (target : Target)
    (first second : List SnapInput) :
    receivedMileages target (first ++ second) =
      receivedMileages target first ++ receivedMileages target second := by
  simp only [receivedMileages, List.filterMap_append, List.map_append]

section

variable (target : Target) {period : Nat}

/-- The record is that of the last speed frame. -/
theorem snapRun_mileage (hperiod : period ≠ 0) {s : SnapThread}
    {inputs : List SnapInput}
    (hmode : (snapThread target).EachStep (DistanceMode target period) s
      inputs) :
    ((snapThread target).final s inputs).world.realTime.transmittedMileage =
      (receivedMileages target inputs).getLast?.getD
        s.world.realTime.transmittedMileage := by
  induction inputs using List.reverseRecOn with
  | nil => simp only [Mealy.final_nil, receivedMileages, List.filterMap_nil,
      List.map_nil, List.getLast?_nil, Option.getD_none]
  | append_singleton inputs i ih =>
      have hbefore := ih hmode.left
      rw [Mealy.final_append, Mealy.final_cons, Mealy.final_nil,
        snapThread_realTime target hperiod hmode.last,
        receivedMileages_append, List.getLast?_append]
      cases hreceived : i.realTime target with
      | none =>
          have hnone : receivedMileages target [i] = [] := by
            simp only [receivedMileages, List.filterMap_cons, hreceived,
              List.filterMap_nil, List.map_nil]
          rw [hnone]
          exact hbefore
      | some rtData =>
          have hsome : receivedMileages target [i] =
              [rtData.transmittedMileage] := by
            simp only [receivedMileages, List.filterMap_cons, hreceived,
              List.filterMap_nil, List.map_cons, List.map_nil]
          rw [hsome, List.getLast?_singleton, Option.some_or,
            Option.getD_some, Option.getD_some]

theorem snapRun_noted (hperiod : period ≠ 0) {s : SnapThread}
    (hs : Noted s []) (hstart : s.world.realTime.transmittedMileage = 0)
    {inputs : List SnapInput}
    (hmode : (snapThread target).EachStep (DistanceMode target period) s
      inputs)
    (hmileage : (receivedMileages target inputs).IsChain (· ≤ ·)) :
    Noted ((snapThread target).final s inputs)
      (distanceSnaps ((snapThread target).outputs s inputs)) := by
  induction inputs using List.reverseRecOn with
  | nil => exact hs
  | append_singleton inputs i ih =>
      rw [receivedMileages_append, List.isChain_append] at hmileage
      obtain ⟨hbefore, -, hnext⟩ := hmileage
      have hcurrent := snapRun_mileage target hperiod hmode.left
      have hlater : ∀ rtData ∈ i.realTime target,
          ((snapThread target).final s
            inputs).world.realTime.transmittedMileage ≤
              rtData.transmittedMileage := by
        intro rtData hreceived
        have hhead : rtData.transmittedMileage ∈
            (receivedMileages target [i]).head? := by
          simp [receivedMileages, Option.mem_def.mp hreceived]
        rw [hcurrent, hstart]
        cases hlast : (receivedMileages target inputs).getLast? with
        | none => exact Nat.zero_le _
        | some m => exact hnext m hlast _ hhead
      have hstep := (ih hmode.left hbefore).step hperiod hmode.last hlater
      rw [Mealy.final_append, Mealy.final_cons, Mealy.final_nil,
        Mealy.outputs_append, Mealy.outputs_cons, Mealy.outputs_nil,
        List.append_nil, distanceSnaps, List.filterMap_append]
      exact hstep

end

/-! ## When the distance is kept -/

/-- A pass that finds the period reached, after the snapshots `snaps`, is right
about it.  A period of one unit of the mileage or less needs no more. -/
def ReachesRightly (period : Nat) (s : SnapThread) (snaps : List Nat) :
    SnapInput → Prop
  | .pass _ _ =>
      100 < period → snaps ≠ [] → s.Reaches period →
        Advanced period (swapBytes 4 s.mileageLast.toNat)
          s.world.realTime.transmittedMileage
  | _ => True

theorem advanced_of_le_hundred {s : SnapThread} {period : Nat}
    (hperiod : period ≠ 0) (hle : period ≤ 100)
    (hbehind : swapBytes 4 s.mileageLast.toNat ≤
      s.world.realTime.transmittedMileage) (hreaches : s.Reaches period) :
    Advanced period (swapBytes 4 s.mileageLast.toNat)
      s.world.realTime.transmittedMileage := by
  have hne : swapBytes 4 s.mileageLast.toNat ≠
      s.world.realTime.transmittedMileage := by
    intro heq
    have hback := swapBytes_swapBytes 4 s.mileageLast.toNat_lt
    rw [heq, ← RealTimeData.swapBytes_mileage,
      swapBytes_swapBytes 4 (UInt32.toNat_lt _)] at hback
    have hsame := UInt32.toNat_inj.mp hback
    rw [SnapThread.Reaches, hsame, UInt32.sub_self] at hreaches
    exact hperiod (Nat.le_zero.mp hreaches)
  unfold Advanced
  omega

theorem Noted.continues_iff {target : Target} {period : Nat}
    (hperiod : period ≠ 0) {s : SnapThread} {snaps : List Nat}
    (h : Noted s snaps) {i : SnapInput}
    (hmode : DistanceMode target period s i) :
    ((distanceSnaps ((snapThread target).step s i).2).IsChain
          (Advanced period) ∧
        ∀ m ∈ snaps.getLast?,
          ∀ m' ∈ (distanceSnaps ((snapThread target).step s i).2).head?,
            Advanced period m m') ↔
      ReachesRightly period s snaps i := by
  cases i with
  | frame r =>
      have hsnaps : distanceSnaps
          ((snapThread target).step s (.frame r)).2 = [] :=
        distanceSnaps_effects _
      rw [hsnaps]
      exact iff_of_true ⟨List.isChain_nil, nofun⟩ trivial
  | others world => exact iff_of_true ⟨List.isChain_nil, nofun⟩ trivial
  | pass now env =>
      have hsnaps : distanceSnaps
          ((snapThread target).step s (.pass now env)).2 = _ :=
        (pass_passed hperiod hmode).distanceSnaps
      rw [hsnaps]
      constructor
      · rintro ⟨-, hnext⟩ hlong hsnapped hreaches
        obtain ⟨m, hm⟩ := Option.ne_none_iff_exists'.mp
          (mt List.getLast?_eq_none_iff.mp hsnapped)
        obtain ⟨hlast, hswapped⟩ := h.latest m hm
        rw [if_pos ⟨hreaches, hlast⟩] at hnext
        rw [hswapped]
        exact hnext m hm _ rfl
      · intro hrightly
        split_ifs with hdue
        · refine ⟨List.isChain_singleton _, fun m hm m' hm' => ?_⟩
          obtain ⟨-, hswapped⟩ := h.latest m hm
          have hm'' : s.world.realTime.transmittedMileage = m' :=
            Option.some.inj hm'
          rw [← hm'', ← hswapped]
          by_cases hlong : 100 < period
          · have hsnapped : snaps ≠ [] := by
              rintro rfl
              cases hm
            exact hrightly hlong hsnapped hdue.1
          · exact advanced_of_le_hundred hperiod (Nat.le_of_not_lt hlong)
              h.behind hdue.1
        · exact ⟨List.isChain_nil, nofun⟩

theorem snapStarted_noted (target : Target) (access : ParaFileAccess)
    (files : ParaFiles) :
    Noted (snapStarted target access files) [] ∧
      (snapStarted target access files).world.realTime.transmittedMileage =
        0 := by
  have hzero : (startedWorld target access files).realTime.transmittedMileage =
      0 := by
    rw [startedWorld_realTime]
    rfl
  exact ⟨⟨(swapBytes_zero 4).trans_le (Nat.zero_le _), nofun⟩, hzero⟩

/-- Consecutive snapshots lie a period apart exactly when every pass is right
about the period. -/
theorem distanceKept_iff (target : Target) (access : ParaFileAccess)
    (files : ParaFiles) {period : Nat} (hperiod : period ≠ 0)
    {inputs : List SnapInput}
    (hmode : (snapThread target).EachStep (DistanceMode target period)
      (snapStarted target access files) inputs)
    (hmileage : (receivedMileages target inputs).IsChain (· ≤ ·)) :
    let started := snapStarted target access files
    (distanceSnaps ((snapThread target).outputs started inputs)).IsChain
        (Advanced period) ↔
      ∀ before i after, inputs = before ++ i :: after →
        ReachesRightly period ((snapThread target).final started before)
          (distanceSnaps ((snapThread target).outputs started before)) i := by
  intro started
  obtain ⟨hnoted, hstart⟩ := snapStarted_noted target access files
  rw [distanceSnaps, Mealy.isChain_outputs_iff]
  refine forall_congr' fun before => forall_congr' fun i =>
    forall_congr' fun after => forall_congr' fun heq => ?_
  subst heq
  rw [receivedMileages_append] at hmileage
  have hbefore := snapRun_noted target hperiod hnoted hstart hmode.left
    (List.isChain_append.mp hmileage).1
  exact hbefore.continues_iff hperiod (hmode before i after rfl)

/-! ## A hundred metres instead of two hundred -/

def mileageInfo (units : UInt8) : Received :=
  .ofFrame Env.plain
    { serialNum := 1
      vendorId := vendorId
      deviceId := sampleDeviceIdAdas
      cmd := sampleCmdSpeedInfo
      payload := [60, 0, 0, 0, 0, units] ++ List.replicate 20 0 }

/-- The default parameters but for a snapshot every 200 m. -/
def everyTwoHundred : ParaFiles where
  adas := some (Packed.toList
    (Packed.setWord
      (Function.update AdasPara.defaults AdasPara.autoPhotoMode
        snapShotByDistance)
      AdasPara.autoPhotoDistancePeriod 200 0))
  dms := none

/-- A speed frame and a pass for each of the mileages. -/
def drive (mileages : List UInt8) : List SnapInput :=
  mileages.flatMap fun units =>
    [.frame (mileageInfo units), .pass 0 Env.plain]

def driven : SnapThread :=
  snapStarted adasTcp ⟨true, some 50⟩ everyTwoHundred

/-- Snapshots at 300 m and at 500 m: every pass is right. -/
theorem distanceKept_iff_drive :
    distanceSnaps ((snapThread adasTcp).outputs driven (drive [1, 3, 5])) =
        [3, 5] ∧
      ∀ before i after, drive [1, 3, 5] = before ++ i :: after →
        ReachesRightly 200 ((snapThread adasTcp).final driven before)
          (distanceSnaps ((snapThread adasTcp).outputs driven before)) i := by
  have hsnaps : distanceSnaps ((snapThread adasTcp).outputs driven
      (drive [1, 3, 5])) = [3, 5] := by
    decide +kernel
  have hchain : (distanceSnaps ((snapThread adasTcp).outputs driven
      (drive [1, 3, 5]))).IsChain (Advanced 200) := by
    rw [hsnaps]
    decide
  exact ⟨hsnaps, (distanceKept_iff adasTcp ⟨true, some 50⟩ everyTwoHundred
    (by decide) (by decide +kernel) (by decide +kernel)).mp hchain⟩

/-- Snapshots at 200 m and at 300 m. -/
theorem drive_tooSoon :
    (snapThread adasTcp).EachStep (DistanceMode adasTcp 200) driven
        (drive [1, 2, 3]) ∧
      receivedMileages adasTcp (drive [1, 2, 3]) = [1, 2, 3] ∧
      ¬ (distanceSnaps ((snapThread adasTcp).outputs driven
        (drive [1, 2, 3]))).IsChain (Advanced 200) := by
  refine ⟨by decide +kernel, by decide +kernel, ?_⟩
  have hsnaps : distanceSnaps ((snapThread adasTcp).outputs driven
      (drive [1, 2, 3])) = [2, 3] := by
    decide +kernel
  rw [hsnaps]
  decide

end SanbaoProt
