import SanbaoProt.Device.AdasRun
import SanbaoProt.Device.DmsAlert
import SanbaoProt.Device.HeartBeat
import SanbaoProt.Device.ParaSetting

/-!
# The speed threshold of the DMS device

The threads of the DMS device that send messages.  The speed filter reads the
parameters of the ADAS device, which the DMS device never writes: they stay
zero, and an alert passes at any speed but zero.  The host sets its threshold
in the parameters of the DMS device, where the filter does not look.
-/

namespace SanbaoProt

open Library

structure DmsDevice where
  info : DmsInfo
  world : World

inductive DmsInput where
  | frame (r : Received)
  | alert (f : DmsFrame)
  | snap (env : Env)
  | workStatus
  /-- What the other threads make of the world; the parameters and the speed
  are written by received frames only. -/
  | others (world : World)

def dmsDevice (i : Interface) : Mealy DmsDevice DmsInput Effect where
  step s
    | .frame r =>
        let out := (device (dmsTarget i)).step s.world r
        ({ s with world := out.1 }, out.2)
    | .alert f =>
        let out := dealWsiDmsInfo (dmsTarget i) f s.info s.world
        (⟨out.1, out.2.1⟩, out.2.2)
    | .snap env =>
        let out := doSnapShot (dmsTarget i) env s.world
        ({ s with world := out.1 }, out.2)
    | .workStatus =>
        let out := autoSendWorkStatus (dmsTarget i) s.world
        ({ s with world := out.1 }, out.2)
    | .others world =>
        ({ s with
            world :=
              { world with
                para := s.world.para
                files := s.world.files
                realTime := s.world.realTime } }, [])

def dmsStarted (i : Interface) (access : ParaFileAccess)
    (files : ParaFiles) : DmsDevice :=
  ⟨DmsInfo.zero, startedWorld (dmsTarget i) access files⟩

/-! ## The latest speed -/

def DmsInput.realTime (i : Interface) : DmsInput → Option RealTimeData
  | .frame r => receivedRealTime (dmsTarget i) r
  | _ => none

def latestRealTime (i : Interface) (before : List DmsInput) : RealTimeData :=
  ((before.filterMap (DmsInput.realTime i)).getLast?).getD World.zero.realTime

def latestSpeed (i : Interface) (before : List DmsInput) : UInt8 :=
  latestRealTime i before RealTimeData.carSpeed

theorem dmsDevice_realTime (i : Interface) (s : DmsDevice) (input : DmsInput) :
    ((dmsDevice i).step s input).1.world.realTime =
      (input.realTime i).getD s.world.realTime := by
  cases input with
  | frame r => exact device_realTime (dmsTarget i) s.world r
  | alert f => exact (dealWsiDmsInfo_handled i f s.info s.world).core.realTime
  | snap env => exact (doSnapShot_quiet (dmsTarget i) env s.world).1.realTime
  | workStatus =>
      exact (sendMessage_quiet (dmsTarget i) sampleCmdUploadStatus (by decide)
        moduleStatus s.world).1.realTime
  | others world => rfl

theorem dmsDevice_adasPara (i : Interface) (s : DmsDevice) (input : DmsInput) :
    ((dmsDevice i).step s input).1.world.para.adas = s.world.para.adas := by
  cases input with
  | frame r => exact device_keepsOther (dmsTarget i) s.world r
  | alert f =>
      rw [← (dealWsiDmsInfo_handled i f s.info s.world).core.para]
      rfl
  | snap env =>
      rw [← (doSnapShot_quiet (dmsTarget i) env s.world).1.para]
      rfl
  | workStatus =>
      rw [← (sendMessage_quiet (dmsTarget i) sampleCmdUploadStatus (by decide)
        moduleStatus s.world).1.para]
      rfl
  | others world => rfl

section

variable (i : Interface) (access : ParaFileAccess) (files : ParaFiles)
  (before : List DmsInput)

theorem dmsRun_realTime :
    ((dmsDevice i).final (dmsStarted i access files) before).world.realTime =
      latestRealTime i before := by
  induction before using List.reverseRecOn with
  | nil => exact startedWorld_realTime (dmsTarget i) access files
  | append_singleton before input ih =>
      rw [Mealy.final_append, Mealy.final_cons, Mealy.final_nil,
        dmsDevice_realTime, ih, latestRealTime, latestRealTime,
        List.filterMap_append]
      cases hspeed : input.realTime i with
      | none => simp [hspeed]
      | some realTime => simp [hspeed]

theorem dmsRun_adasPara :
    ((dmsDevice i).final (dmsStarted i access files) before).world.para.adas =
      World.zero.para.adas := by
  have hall := Mealy.always_of_step (M := dmsDevice i)
    (I := fun s => s.world.para.adas = World.zero.para.adas)
    (fun s input hs => (dmsDevice_adasPara i s input).trans hs)
    (s := dmsStarted i access files) rfl before
  exact hall before [] (List.append_nil before).symm

/-- The filter lets an alert pass at every speed but zero. -/
theorem dmsRun_passes_iff :
    filterAlertBySpeed true
        ((dmsDevice i).final (dmsStarted i access files) before).world ↔
      latestSpeed i before ≠ 0 := by
  rw [filterAlertBySpeed, dmsRun_realTime, dmsRun_adasPara, latestSpeed]
  have hzero : World.zero.para.adas AdasPara.warningSpeedVal = 0 := rfl
  have hle : ∀ speed : UInt8, speed ≤ 0 ↔ speed = 0 := by
    intro speed
    rw [UInt8.le_iff_toNat_le, ← UInt8.toNat_inj]
    exact Nat.le_zero
  rw [hzero, hle]
  simp

end

/-! ## Only alert frames report alerts -/

theorem alertReports_append (first second : List Effect) :
    alertReports (first ++ second) =
      alertReports first ++ alertReports second := by
  simp [alertReports]

theorem alertReports_send {cmd : UInt8} (hcmd : cmd ≠ sampleCmdWarningReport)
    (payload : List UInt8) (node : SendNode) (effects : List Effect) :
    alertReports (.send cmd payload node :: effects) =
      alertReports effects := by
  simp [alertReports, reportTypes, reportType, hcmd]

section

variable (i : Interface) (env : Env) (w : World) (msg : Mem UInt8) (len : Nat)

theorem sendMessage_noAlerts (target : Target) {cmd : UInt8}
    (hcmd : cmd ≠ sampleCmdWarningReport) (payload : List UInt8) :
    alertReports (sendMessage target cmd payload w).2 = [] := by
  rw [sendMessage_apply, alertReports_send hcmd]
  rfl

theorem doSnapShot_noAlerts :
    alertReports (doSnapShot (dmsTarget i) env w).2 = [] := by
  rw [alertReports, doSnapShot_dmsTypes]
  rfl

theorem HandlerSent.noAlert {target : Target} {para : AdasPara} {e : Effect}
    (h : HandlerSent target para e) : alertReports [e] = [] := by
  cases h with
  | send c payload w hpayload =>
      cases c with
      | warningReport =>
          have htype : reportTypes [.send sampleCmdWarningReport payload
              (sentNode target w sampleCmdWarningReport payload)] =
              [sbWarnTypeSnap] := by
            simp [reportTypes, reportType, hpayload.1]
          rw [alertReports, SampleCmd.code, htype]
          rfl
      | _ => rfl
  | silent h =>
      cases e with
      | send cmd payload node => exact absurd rfl (h cmd payload node)
      | _ => rfl

theorem Handles.noAlerts {target : Target} {para : AdasPara} {w : World}
    {out : World × List Effect} (h : Handles target para w out) :
    alertReports out.2 = [] := by
  obtain ⟨w', effects⟩ := out
  obtain ⟨-, hsent⟩ := h
  induction effects with
  | nil => rfl
  | cons e effects ih =>
      rw [← List.singleton_append, alertReports_append,
        (hsent e List.mem_cons_self).noAlert,
        ih fun e' he' => hsent e' (List.mem_cons_of_mem e he')]
      rfl

theorem handleCmd_noAlerts :
    alertReports (handleCmd (dmsTarget i) env w msg len).effects = [] := by
  by_cases hsnapShot : SampleCmd.ofCode (headerCmd msg) = some .snapShot
  · unfold handleCmd
    rw [hsnapShot]
    have hack : alertReports (sendSnapShotAck (dmsTarget i) len w).2 = [] := by
      unfold sendSnapShotAck
      split_ifs
      · exact sendMessage_noAlerts w (dmsTarget i) (by decide) [0]
      · rfl
    simp only [Handled.andThen, List.nil_append, Act.andThen_snd,
      alertReports_append, hack, doSnapShot_noAlerts]
  · exact (handleCmd_handlesOther hsnapShot env w len).noAlerts

theorem device_noAlerts (r : Received) :
    alertReports ((device (dmsTarget i)).step w r).2 = [] := by
  simp only [device, Handled.result_snd, sampleOnCmd]
  split_ifs
  · exact handleCmd_noAlerts i r.env _ r.msg r.len
  · rfl

end

/-! ## The threshold of the host -/

/-- An alert of the frame is raised and its time has passed. -/
def DmsDevice.AlertDue (s : DmsDevice) (f : DmsFrame) : Prop :=
  ∃ t : DmsAlert, t.Raised s.info.alertLast (maskAlert f.warning) ∧
    filterAlertByTime (s.info.warn t) (f.warnNow t)
      (dmsFilterTime f s.world.para.dms t)

def DmsInput.FiltersSpeed : DmsInput → Prop
  | .alert f => f.speedFilterEnable = true
  | _ => True

/-- No alert is reported at a speed that is not above the threshold stored in
the parameters of the DMS device. -/
def HostThresholdKept (i : Interface) (access : ParaFileAccess)
    (files : ParaFiles) (inputs : List DmsInput) : Prop :=
  ∀ before input after, inputs = before ++ input :: after →
    input.FiltersSpeed →
    let s := (dmsDevice i).final (dmsStarted i access files) before
    alertReports ((dmsDevice i).step s input).2 ≠ [] →
      s.world.para.dms DmsPara.warningSpeedVal < latestSpeed i before

section

variable (i : Interface) (access : ParaFileAccess) (files : ParaFiles)
  (before : List DmsInput)

theorem dmsRun_reports_iff {f : DmsFrame} (hf : f.speedFilterEnable = true) :
    let s := (dmsDevice i).final (dmsStarted i access files) before
    alertReports ((dmsDevice i).step s (.alert f)).2 ≠ [] ↔
      latestSpeed i before ≠ 0 ∧ s.AlertDue f := by
  intro s
  have hpasses := dmsRun_passes_iff i access files before
  have hreports : alertReports ((dmsDevice i).step s (.alert f)).2 = _ :=
    (dealWsiDmsInfo_handled i f s.info s.world).alertReports
  have hmem : ∀ t, t ∈ alertReports ((dmsDevice i).step s (.alert f)).2 ↔
      (dmsStart f s.info s.world).Queues f
        (dmsFilterTime f s.world.para.dms) t := by
    intro t
    rw [hreports, List.mem_filter]
    simp [DmsAlert.mem_byPriority]
  rw [← hpasses, ← hf]
  constructor
  · intro hne
    obtain ⟨t, ht⟩ := List.exists_mem_of_ne_nil _ hne
    obtain ⟨hraised, hspeed, htime⟩ := (hmem t).mp ht
    exact ⟨hspeed, t, hraised, htime⟩
  · rintro ⟨hspeed, t, hraised, htime⟩
    exact List.ne_nil_of_mem ((hmem t).mpr ⟨hraised, hspeed, htime⟩)

theorem dmsRun_silent {input : DmsInput} (h : ∀ f, input ≠ .alert f)
    (s : DmsDevice) : alertReports ((dmsDevice i).step s input).2 = [] := by
  cases input with
  | frame r => exact device_noAlerts i s.world r
  | alert f => exact absurd rfl (h f)
  | snap env => exact doSnapShot_noAlerts i env s.world
  | workStatus =>
      exact sendMessage_noAlerts s.world (dmsTarget i) (by decide) moduleStatus
  | others world => rfl

end

/-- The threshold of the host is kept exactly when every alert that falls due
does so at a standstill or above that threshold. -/
theorem hostThresholdKept_iff (i : Interface) (access : ParaFileAccess)
    (files : ParaFiles) (inputs : List DmsInput) :
    HostThresholdKept i access files inputs ↔
      ∀ before f after, inputs = before ++ .alert f :: after →
        f.speedFilterEnable = true →
        let s := (dmsDevice i).final (dmsStarted i access files) before
        s.AlertDue f →
          latestSpeed i before = 0 ∨
            s.world.para.dms DmsPara.warningSpeedVal <
              latestSpeed i before := by
  constructor
  · intro h before f after heq hf s hdue
    by_cases hspeed : latestSpeed i before = 0
    · exact .inl hspeed
    · have hreports := (dmsRun_reports_iff i access files before hf).mpr
        ⟨hspeed, hdue⟩
      exact .inr (h before (.alert f) after heq hf hreports)
  · intro h before input after heq hfilters s hreports
    by_cases halert : ∃ f, input = .alert f
    · obtain ⟨f, rfl⟩ := halert
      obtain ⟨hspeed, hdue⟩ :=
        (dmsRun_reports_iff i access files before hfilters).mp hreports
      exact (h before f after heq hfilters hdue).resolve_left hspeed
    · exact absurd (dmsRun_silent i (not_exists.mp halert) s) hreports

/-- 20 km/h, below the threshold of 30 km/h that a device without a parameter
file starts with. -/
def slowSpeedInfo : Frame where
  serialNum := 1
  vendorId := vendorId
  deviceId := sampleDeviceIdDms
  cmd := sampleCmdSpeedInfo
  payload := 20 :: List.replicate 25 0

def eyesClosed : DmsFrame where
  warning := Packed.ofList 8 [0x01, 0, 0, 0, 0, 0, 0, 0]
  speedFilterEnable := true
  alertTimeFilter := 10
  warnNow := fun _ => 100
  releaseNow := 100
  msgbuf := fun _ => 0
  snapEnv := Env.plain

theorem hostThreshold_ignored :
    ¬ HostThresholdKept .tcp ⟨true, some 43⟩ ⟨none, none⟩
      [.frame (.ofFrame Env.plain slowSpeedInfo), .alert eyesClosed] := by
  let before : List DmsInput :=
    [.frame (.ofFrame Env.plain slowSpeedInfo)]
  intro h
  have hspeed : latestSpeed .tcp before = 20 := by decide +kernel
  have hdue : ((dmsDevice .tcp).final
      (dmsStarted .tcp ⟨true, some 43⟩ ⟨none, none⟩) before).AlertDue
        eyesClosed := ⟨.fatigue, by decide +kernel⟩
  have hreports := (dmsRun_reports_iff .tcp ⟨true, some 43⟩ ⟨none, none⟩ before
    (f := eyesClosed) rfl).mpr ⟨by rw [hspeed]; decide, hdue⟩
  have habove := h before (.alert eyesClosed) [] rfl rfl hreports
  rw [hspeed] at habove
  exact absurd habove (by decide +kernel)

end SanbaoProt
