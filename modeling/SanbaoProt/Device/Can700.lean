import SanbaoProt.Device.Command
import SanbaoProt.Library.Mealy

/-!
# The CAN frames of the ADAS device

`dealWsiAdasCan700` reports lane departure and collision warnings when they
are triggered, and a headway alert when the level becomes red and again when it
stops being red.  Between two CAN frames the other threads may change the world
in any way, so a run has a world and the clock for each frame and only the
statics of the function pass from one frame to the next.
-/

namespace SanbaoProt

open Library

/-- The statics of `deal_wsi_adas_can700` and the two last-frame globals that
are read. -/
structure Can700 where
  hwAlert : Int
  fcwAlert : Int
  ldwAlert : Int
  sStartFlag : Bool
  lastWarningData : Packed 8
  lastTriggerWarning : Packed 8

def Can700.zero : Can700 where
  hwAlert := 0
  fcwAlert := 0
  ldwAlert := 0
  sStartFlag := false
  lastWarningData := fun _ => 0
  lastTriggerWarning := fun _ => 0

/-- A CAN frame, the configuration and what the clock reads meanwhile. -/
structure CanFrame where
  warning : Packed 8
  speedFilterEnable : Bool
  alertTimeFilter : Int8
  ldwNow : Int
  fcwNow : Int
  hwNow : Int
  touchNow : Int
  msgbuf : Mem UInt8

def allWarningMasks : Packed 8 :=
  Packed.ofList 8 [0x00, 0x00, 0x01, 0x00, 0x0E, 0x00, 0x00, 0x03]

def triggerWarningMasks : Packed 8 :=
  Packed.ofList 8 [0x00, 0x00, 0x00, 0x00, 0x0E, 0x00, 0x00, 0x00]

def maskWarning (masks warning : Packed 8) : Packed 8 :=
  fun i => warning i &&& masks i

def leftLdw (warning : Packed 8) : Prop := warning 4 &&& 0x02 ≠ 0

def rightLdw (warning : Packed 8) : Prop := warning 4 &&& 0x04 ≠ 0

def fcwOn (warning : Packed 8) : Prop := warning 4 &&& 0x08 ≠ 0

instance (warning : Packed 8) : Decidable (leftLdw warning) :=
  inferInstanceAs (Decidable (_ ≠ _))

instance (warning : Packed 8) : Decidable (rightLdw warning) :=
  inferInstanceAs (Decidable (_ ≠ _))

instance (warning : Packed 8) : Decidable (fcwOn warning) :=
  inferInstanceAs (Decidable (_ ≠ _))

def headwayWarningLevel (warning : Packed 8) : UInt8 := warning 7 &&& 0x03

def hwLevelRedCar : UInt8 := 2

def soundTypeLldw : UInt8 := 1
def soundTypeRldw : UInt8 := 2

def alertFilterTime (videoTime : UInt8) (alertTimeFilter : Int8) : UInt32 :=
  UInt32.ofInt (videoTime.toNat + alertTimeFilter.toInt)

theorem alertFilterTime_toNat {videoTime : UInt8} {alertTimeFilter : Int8}
    (h : 0 ≤ videoTime.toNat + alertTimeFilter.toInt) :
    ((alertFilterTime videoTime alertTimeFilter).toNat : Int) =
      videoTime.toNat + alertTimeFilter.toInt := by
  have hvideo := videoTime.toNat_lt
  have hfilter := alertTimeFilter.toInt_lt
  rw [alertFilterTime, UInt32.ofInt, UInt32.toNat_ofNat']
  omega

/-- The sum as an unsigned number is never below the sum. -/
theorem le_alertFilterTime (videoTime : UInt8) (alertTimeFilter : Int8) :
    videoTime.toNat + alertTimeFilter.toInt ≤
      ((alertFilterTime videoTime alertTimeFilter).toNat : Int) := by
  by_cases h : 0 ≤ videoTime.toNat + alertTimeFilter.toInt
  · exact (alertFilterTime_toNat h).ge
  · omega

def filterAlertByTime (last now : Int) (secs : UInt32) : Prop :=
  ¬ now - last < secs.toNat

instance (last now : Int) (secs : UInt32) :
    Decidable (filterAlertByTime last now secs) :=
  inferInstanceAs (Decidable (¬ _))

theorem filterAlertByTime_iff (last now : Int) (secs : UInt32) :
    filterAlertByTime last now secs ↔ last + secs.toNat ≤ now := by
  unfold filterAlertByTime
  omega

def filterAlertBySpeed (speedFilterEnable : Bool) (w : World) : Prop :=
  speedFilterEnable = false ∨
    ¬ w.realTime RealTimeData.carSpeed ≤ w.para.adas AdasPara.warningSpeedVal

instance (speedFilterEnable : Bool) (w : World) :
    Decidable (filterAlertBySpeed speedFilterEnable w) :=
  inferInstanceAs (Decidable (_ ∨ _))

structure Alerting where
  statics : Can700
  msgbuf : Mem UInt8
  world : World
  effects : List Effect

def Alerting.report (a : Alerting) (target : Target)
    (type statusFlag : UInt8) (finish : Mem UInt8 → Mem UInt8) : Alerting :=
  let built := buildAdasWarnFrame target a.world type statusFlag a.msgbuf
  let r : Report := { built with msgbuf := finish built.msgbuf }
  let sent := sendReport target r
  { a with
    msgbuf := r.msgbuf
    world := sent.1
    effects := a.effects ++ sent.2 }

def putLdwType (warning : Packed 8) (msgbuf : Mem UInt8) : Mem UInt8 :=
  let left :=
    if leftLdw warning then msgbuf.store ldwTypeOffset soundTypeLldw
    else msgbuf
  if rightLdw warning then left.store ldwTypeOffset soundTypeRldw else left

/-- An error is the jump to `out`. -/
def ldwEvent (target : Target) (f : CanFrame) (filterTime : UInt32)
    (a : Alerting) : Except Alerting Alerting :=
  if leftLdw f.warning ∨ rightLdw f.warning then
    if filterAlertByTime a.statics.ldwAlert f.ldwNow filterTime then
      let due : Alerting :=
        { a with statics := { a.statics with ldwAlert := f.ldwNow } }
      if filterAlertBySpeed f.speedFilterEnable a.world then
        let cleared : Alerting :=
          { due with
            msgbuf := due.msgbuf.copy 0 (List.replicate warnFrameSize 0) }
        .ok (cleared.report target sbWarnTypeLdw sbWarnStatusNone
          (putLdwType f.warning))
      else .error due
    else .ok a
  else .ok a

def fcwEvent (target : Target) (f : CanFrame) (filterTime : UInt32)
    (a : Alerting) : Except Alerting Alerting :=
  if fcwOn f.warning then
    if filterAlertByTime a.statics.fcwAlert f.fcwNow filterTime then
      let due : Alerting :=
        { a with statics := { a.statics with fcwAlert := f.fcwNow } }
      if filterAlertBySpeed f.speedFilterEnable a.world then
        .ok (due.report target sbWarnTypeFcw sbWarnStatusNone
          fun msgbuf => msgbuf.store soundTypeOffset sbWarnTypeFcw)
      else .error due
    else .ok a
  else .ok a

def hwEvent (target : Target) (f : CanFrame) (filterTime : UInt32)
    (a : Alerting) : Except Alerting Alerting :=
  let last := headwayWarningLevel a.statics.lastWarningData
  let level := headwayWarningLevel f.warning
  if last = level then .ok a
  else if level = hwLevelRedCar then
    if filterAlertByTime a.statics.hwAlert f.hwNow filterTime then
      let due : Alerting :=
        { a with statics := { a.statics with hwAlert := f.hwNow } }
      if filterAlertBySpeed f.speedFilterEnable a.world then
        let begun := due.report target sbWarnTypeHw sbWarnStatusBegin id
        .ok { begun with statics := { begun.statics with sStartFlag := true } }
      else .error due
    else .ok a
  else if last = hwLevelRedCar ∧ a.statics.sStartFlag = true then
    let ended := a.report target sbWarnTypeHw sbWarnStatusEnd id
    .ok
      { ended with
        statics :=
          { ended.statics with
            sStartFlag := false
            hwAlert := f.touchNow } }
  else .ok a

def NewTrigger (s : Can700) (f : CanFrame) : Prop :=
  maskWarning triggerWarningMasks f.warning ≠ s.lastTriggerWarning ∧
    maskWarning triggerWarningMasks f.warning 4 ≠ 0

instance (s : Can700) (f : CanFrame) : Decidable (NewTrigger s f) :=
  inferInstanceAs (Decidable (_ ∧ _))

def triggerEvents (target : Target) (f : CanFrame)
    (ldwFilterTime fcwFilterTime : UInt32) (a : Alerting) :
    Except Alerting Alerting :=
  if NewTrigger a.statics f then
    match ldwEvent target f ldwFilterTime a with
    | .ok a' => fcwEvent target f fcwFilterTime a'
    | .error a' => .error a'
  else .ok a

def canEvents (target : Target) (f : CanFrame) (w : World) (a : Alerting) :
    Except Alerting Alerting :=
  let para := w.para.adas
  let secs := fun field : Fin 50 =>
    alertFilterTime (para field) f.alertTimeFilter
  match triggerEvents target f (secs AdasPara.ldwVideoTime)
      (secs AdasPara.fcwVideoTime) a with
  | .ok a' => hwEvent target f (secs AdasPara.hwVideoTime) a'
  | .error a' => .error a'

def atOut : Except Alerting Alerting → Alerting
  | .ok a => a
  | .error a => a

def dealWsiAdasCan700 (target : Target) (f : CanFrame) (s : Can700)
    (w : World) : Can700 × World × List Effect :=
  if maskWarning allWarningMasks f.warning = s.lastWarningData then (s, w, [])
  else
    let done := atOut (canEvents target f w ⟨s, f.msgbuf, w, []⟩)
    ({ done.statics with
        lastWarningData := maskWarning allWarningMasks f.warning
        lastTriggerWarning := maskWarning triggerWarningMasks f.warning },
      done.world, done.effects)

def can700 (target : Target) : Mealy Can700 (CanFrame × World) Effect where
  step s i :=
    let out := dealWsiAdasCan700 target i.1 s i.2
    (out.1, out.2.2)

end SanbaoProt
