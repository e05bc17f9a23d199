import SanbaoProt.Device.AdasFrames
import SanbaoProt.Device.DmsAlert
import SanbaoProt.Device.MediaRecords
import SanbaoProt.Device.RateLimit

/-!
# What a report carries of the buffer that it is built in

The callers of the builders do not clear their buffers, but for a lane
departure.  A builder assigns every byte of the head of a report except the
five from `forward_car_speed` to `load_data`, or the reserved ones of a DMS
report; these are sent as the buffer happens to hold them.  Buffers that agree
in the five cells lead to the same reports.
-/

namespace SanbaoProt

open Library

def forwardCarSpeedOffset : Nat := 6

/-- The cells that no builder assigns. -/
def isUnassigned (j : Nat) : Prop :=
  forwardCarSpeedOffset ≤ j ∧ j < carSpeedOffset

/-! ## Two reports -/

/-- Reports that differ in nothing that is sent or stored. -/
structure Report.Alike (r r' : Report) : Prop where
  mm : r'.mm = r.mm
  i : r'.i = r.i
  world : r'.world = r.world
  effects : r'.effects = r.effects
  cells : Mem.AgreeBelow (warnFrameSize + 5 * r.i) r.msgbuf r'.msgbuf

theorem putMedia_agree {i : Nat} {m m' : Mem UInt8}
    (h : Mem.AgreeBelow (warnFrameSize + 5 * i) m m') (type : UInt8)
    (id : UInt32) :
    Mem.AgreeBelow (warnFrameSize + 5 * (i + 1)) (putMedia m i type id)
      (putMedia m' i type id) := by
  have hnum : m' mmNumOffset = m mmNumOffset :=
    (h _ (by simp only [mmNumOffset, warnFrameSize]; omega)).symm
  rw [putMedia, putMedia, hnum]
  have hcounted := Mem.AgreeBelow.store h mmNumOffset (m mmNumOffset + 1)
  have htyped : Mem.AgreeBelow (warnFrameSize + 5 * i + 1)
      ((m.store mmNumOffset (m mmNumOffset + 1)).store
        (warnFrameSize + 5 * i) type)
      ((m'.store mmNumOffset (m mmNumOffset + 1)).store
        (warnFrameSize + 5 * i) type) := by
    refine .of_on (Mem.AgreeOn.store (S := (· < warnFrameSize + 5 * i))
      hcounted _ type) fun j hj => ?_
    omega
  refine htyped.copy _ (Nat.le_refl _) (.inr ?_)
  rw [length_toBE]
  omega

theorem putPhotos_agree {i : Nat} {m m' : Mem UInt8}
    (h : Mem.AgreeBelow (warnFrameSize + 5 * i) m m') (ids : List UInt32) :
    Mem.AgreeBelow (warnFrameSize + 5 * (i + ids.length)) (putPhotos m i ids)
      (putPhotos m' i ids) := by
  induction ids generalizing m m' i with
  | nil => exact h
  | cons id ids ih =>
      have hrest := ih (putMedia_agree h mmPhoto id)
      rw [List.length_cons, Nat.add_comm ids.length, ← Nat.add_assoc]
      exact hrest

namespace Report

theorem Alike.addPhotos {r r' : Report} (h : r.Alike r') :
    r.addPhotos.Alike r'.addPhotos := by
  obtain ⟨hmm, hi, hworld, heffects, hcells⟩ := h
  have hhead : Mem.AgreeBelow (warnFrameSize + 5 * 0) r.msgbuf r'.msgbuf :=
    hcells.mono (by omega)
  unfold Report.addPhotos
  rw [hmm]
  split_ifs with henable
  · have hput := putPhotos_agree hhead
      (getNextMmIds r.mm.photoNum.toNat r.world.ids.mmId).1
    rw [length_getNextMmIds, Nat.zero_add] at hput
    refine ⟨?_, rfl, ?_, ?_, ?_⟩
    · simp only [hworld]
    · simp only [takeMmIds, hworld]
    · simp only [takeMmIds, heffects]
    · simp only [hworld]
      exact hput
  · exact ⟨hmm, hi, hworld, heffects, hcells⟩

theorem Alike.addVideo {r r' : Report} (h : r.Alike r') :
    r.addVideo.Alike r'.addVideo := by
  obtain ⟨hmm, hi, hworld, heffects, hcells⟩ := h
  unfold Report.addVideo
  rw [hmm]
  split_ifs with henable
  · refine ⟨?_, ?_, ?_, ?_, ?_⟩
    · simp only [hworld]
    · simp only [hi]
    · simp only [takeMmIds, hworld]
    · simp only [takeMmIds, heffects]
    · simp only [hworld, hi]
      exact putMedia_agree hcells mmVideo _
  · exact ⟨hmm, hi, hworld, heffects, hcells⟩

theorem Alike.setMm {r r' : Report} (h : r.Alike r') (mm : InfoForStore) :
    Alike { r with mm := mm } { r' with mm := mm } :=
  ⟨rfl, h.i, h.world, h.effects, h.cells⟩

theorem Alike.act {r r' : Report} (h : r.Alike r') (a : Act) :
    (r.act a).Alike (r'.act a) := by
  obtain ⟨hmm, hi, hworld, heffects, hcells⟩ := h
  refine ⟨hmm, hi, ?_, ?_, hcells⟩
  · simp only [Report.act, hworld]
  · simp only [Report.act, hworld, heffects]

theorem Alike.store {r r' : Report} (h : r.Alike r') (target : Target)
    (another : UInt8) :
    (Report.store target another r).Alike (Report.store target another r') := by
  unfold Report.store
  rw [h.mm]
  exact (h.setMm _).act _

theorem Alike.alertMedia {r r' : Report} (h : r.Alike r') (target : Target) :
    (r.alertMedia target).Alike (r'.alertMedia target) := by
  have hown := h.addPhotos.addVideo.store target 0
  unfold Report.alertMedia
  simp only
  rw [hown.mm]
  split_ifs with henable
  · exact (hown.setMm _).addVideo.store target 1
  · exact hown

theorem Alike.snapMedia {r r' : Report} (h : r.Alike r') (target : Target) :
    (r.snapMedia target).Alike (r'.snapMedia target) := by
  unfold Report.snapMedia
  rw [h.mm]
  split_ifs with henable
  · exact h.addPhotos.store target 0
  · exact h

end Report

theorem fillReport_alike (w : World) (mm : InfoForStore)
    (type statusFlag : UInt8) {m m' : Mem UInt8}
    (h : Mem.AgreeOn isUnassigned m m') :
    (fillReport w mm type statusFlag m).Alike
      (fillReport w mm type statusFlag m') := by
  refine ⟨rfl, rfl, rfl, rfl, ?_⟩
  have hfilled := ((((((h.copy 0 (toBE 4 (w.ids.warningId + 1).toNat)).store
    statusFlagOffset statusFlag).store soundTypeOffset type).store
    carSpeedOffset (w.realTime RealTimeData.carSpeed)).copy altitudeOffset
    ((w.realTime.toList.drop 8).take 10)).copy timeOffset
    (w.realTime.toList.drop 18)).store mmNumOffset 0
  refine .of_on hfilled fun j hj => ?_
  have hj' : j < 31 := hj
  simp only [isUnassigned, forwardCarSpeedOffset, length_toBE,
    statusFlagOffset, soundTypeOffset, carSpeedOffset, altitudeOffset,
    timeOffset, mmNumOffset, List.length_take, List.length_drop,
    Packed.length_toList]
  omega

namespace Report

/-- Finished reports of which the same is sent. -/
structure SameSent (r r' : Report) : Prop where
  world : r'.world = r.world
  effects : r'.effects = r.effects
  mmNum : r'.mmNum = r.mmNum
  cells : Mem.AgreeBelow r.length r.msgbuf r'.msgbuf

theorem SameSent.payload {r r' : Report} (h : r.SameSent r') :
    r'.payload = r.payload := by
  have hlength : r'.length = r.length := by rw [length, length, h.mmNum]
  rw [Report.payload, Report.payload, hlength]
  exact (h.cells.read (by omega)).symm

theorem Alike.sameSent {r r' : Report} (h : r.Alike r')
    (hnum : r.mmNum.toNat ≤ r.i) : r.SameSent r' where
  world := h.world
  effects := h.effects
  mmNum := (h.cells _ (by simp only [mmNumOffset, warnFrameSize]; omega)).symm
  cells := h.cells.mono (by simp only [length]; omega)

theorem SameSent.finish {r r' : Report} (h : r.SameSent r')
    {finish : Mem UInt8 → Mem UInt8} (hnum : KeepsMmNum finish)
    (hcells : ∀ n m m', Mem.AgreeBelow n m m' →
      Mem.AgreeBelow n (finish m) (finish m')) :
    SameSent { r with msgbuf := finish r.msgbuf }
      { r' with msgbuf := finish r'.msgbuf } := by
  have hsame : finish r.msgbuf mmNumOffset = r.msgbuf mmNumOffset := hnum _
  refine ⟨h.world, h.effects, (hnum _).trans (h.mmNum.trans hsame.symm), ?_⟩
  · have hlength : length { r with msgbuf := finish r.msgbuf } = r.length := by
      simp only [Report.length, Report.mmNum, hsame]
    rw [hlength]
    exact hcells _ _ _ h.cells

end Report

section

variable {m m' : Mem UInt8} (h : Mem.AgreeOn isUnassigned m m')
  (target : Target) (w : World) (type statusFlag : UInt8)

include h

theorem buildAdasWarnFrame_sameSent :
    (buildAdasWarnFrame target w type statusFlag m).SameSent
      (buildAdasWarnFrame target w type statusFlag m') := by
  have hfilled := fillReport_alike w (getAdasInfoForStore type w.para.adas)
    type statusFlag h
  have hfresh := fillReport_fresh w (getAdasInfoForStore type w.para.adas)
    type statusFlag m
  unfold buildAdasWarnFrame
  simp only
  by_cases hend : statusFlag = sbWarnStatusEnd
  · rw [if_pos hend, if_pos hend]
    refine ⟨rfl, rfl, ?_, ?_⟩
    · simp only [Report.mmNum, Mem.store_self]
    · apply Mem.AgreeBelow.store
      refine hfilled.cells.copy _ (by simp only [warnFrameSize]; omega) (.inr ?_)
      simp only [Report.length, Report.mmNum, Mem.store_self, Mem.length_read]
      omega
  · rw [if_neg hend, if_neg hend]
    let list : Report → Report := fun filled =>
      if (adasMediaFields type).isSome then filled.alertMedia target
      else if type = sbWarnTypeSnap then filled.snapMedia target
      else filled
    have halike : (list (fillReport w (getAdasInfoForStore type w.para.adas)
        type statusFlag m)).Alike (list (fillReport w
          (getAdasInfoForStore type w.para.adas) type statusFlag m')) := by
      simp only [list]
      split_ifs
      · exact hfilled.alertMedia target
      · exact hfilled.snapMedia target
      · exact hfilled
    have hstored := (Report.listed_spec hfresh target
      (fun h => getAdasInfoForStore_photoNum h)
      (fun h (_ : type = sbWarnTypeSnap) =>
        getAdasInfoForStore_videoEnable h)).1.lists
    have hsent := halike.sameSent (by rw [hstored.count, hstored.index])
    by_cases hbegin : statusFlag = sbWarnStatusBegin
    · rw [if_pos hbegin, if_pos hbegin]
      refine ⟨?_, hsent.effects, hsent.mmNum, hsent.cells⟩
      have hsize : ∀ r : Report,
          warnFrameSize + r.mmNum.toNat * 5 ≤ r.length := fun _ => Nat.le_refl _
      have hentries := hsent.cells.read (hsize _)
      have hworld := hsent.world
      have hnum := hsent.mmNum
      simp only [list] at hentries hworld hnum
      simp only [hnum, hworld, hentries]
    · rw [if_neg hbegin, if_neg hbegin]
      exact hsent

end

/-! ## Two frames that clear the buffer -/

/-- What is done to a finished report does not look past what agrees. -/
structure KeepsAgreement (finish : Mem UInt8 → Mem UInt8) : Prop where
  mmNum : KeepsMmNum finish
  cells : ∀ n m m', Mem.AgreeBelow n m m' →
    Mem.AgreeBelow n (finish m) (finish m')

theorem KeepsAgreement.id : KeepsAgreement id :=
  ⟨fun _ => rfl, fun _ _ _ h => h⟩

theorem storeSoundType_keepsAgreement (type : UInt8) :
    KeepsAgreement fun m => m.store soundTypeOffset type :=
  ⟨fun m => m.store_of_ne type (by decide),
    fun _ _ _ h => h.store soundTypeOffset type⟩

theorem putLdwType_keepsAgreement (warning : Packed 8) :
    KeepsAgreement (putLdwType warning) := by
  refine ⟨putLdwType_keepsMmNum warning, fun n m m' h => ?_⟩
  unfold putLdwType
  split_ifs
  · exact (h.store _ _).store _ _
  · exact h.store _ _
  · exact h.store _ _
  · exact h

namespace Alerting

/-- The same has been sent, and the same will be sent by what follows. -/
structure Alike (a a' : Alerting) : Prop where
  statics : a'.statics = a.statics
  world : a'.world = a.world
  effects : a'.effects = a.effects
  cells : Mem.AgreeOn isUnassigned a.msgbuf a'.msgbuf

theorem Alike.setStatics {a a' : Alerting} (h : a.Alike a') (s : Can700) :
    Alike { a with statics := s } { a' with statics := s } :=
  ⟨rfl, h.world, h.effects, h.cells⟩

theorem Alike.report {a a' : Alerting} (h : a.Alike a') (target : Target)
    (type statusFlag : UInt8) {finish : Mem UInt8 → Mem UInt8}
    (hfinish : KeepsAgreement finish) :
    (a.report target type statusFlag finish).Alike
      (a'.report target type statusFlag finish) := by
  have hbuilt := (buildAdasWarnFrame_sameSent h.cells target a.world type
    statusFlag).finish hfinish.mmNum hfinish.cells
  have hsent : ∀ r r' : Report, r.SameSent r' →
      sendReport target r' = sendReport target r := by
    intro r r' hr
    rw [sendReport, sendReport, hr.payload, hr.world, hr.effects]
  have hsame := hsent _ _ hbuilt
  simp only [Alerting.report, h.world]
  refine ⟨h.statics, ?_, ?_, ?_⟩
  · rw [hsame]
  · rw [hsame, h.effects]
  · intro j hj
    apply hbuilt.cells
    have hhead : j < carSpeedOffset := hj.2
    simp only [Report.length, warnFrameSize, carSpeedOffset] at hhead ⊢
    omega

end Alerting

inductive AlikeOut : Except Alerting Alerting → Except Alerting Alerting →
    Prop where
  | ok {a a' : Alerting} (h : a.Alike a') : AlikeOut (.ok a) (.ok a')
  | error {a a' : Alerting} (h : a.Alike a') : AlikeOut (.error a) (.error a')

theorem AlikeOut.effects {out out' : Except Alerting Alerting}
    (h : AlikeOut out out') : (atOut out').effects = (atOut out).effects := by
  cases h with
  | ok h => exact h.effects
  | error h => exact h.effects

section

variable (target : Target) (f : CanFrame) (filterTime : UInt32)
  {a a' : Alerting}

theorem ldwEvent_alike (hdue : LdwTimed f filterTime a.statics)
    (hpasses : filterAlertBySpeed f.speedFilterEnable a.world)
    (msgbuf : Mem UInt8) :
    AlikeOut (ldwEvent target f filterTime a)
      (ldwEvent target f filterTime { a with msgbuf := msgbuf }) := by
  unfold ldwEvent
  simp only [if_pos hdue.1, if_pos hdue.2, if_pos hpasses]
  refine .ok (Alerting.Alike.report ?_ target _ _
    (putLdwType_keepsAgreement f.warning))
  refine ⟨rfl, rfl, rfl, fun j hj => ?_⟩
  -- the buffer has just been cleared
  have hnowhere : Mem.AgreeOn (fun _ => False) a.msgbuf msgbuf := nofun
  have hcleared := hnowhere.copy 0 (List.replicate warnFrameSize 0)
  apply hcleared
  have hhead : j < carSpeedOffset := hj.2
  simp only [carSpeedOffset, List.length_replicate, warnFrameSize] at hhead ⊢
  omega

theorem fcwEvent_alike (h : a.Alike a') :
    AlikeOut (fcwEvent target f filterTime a)
      (fcwEvent target f filterTime a') := by
  obtain ⟨statics, msgbuf, world, effects⟩ := a'
  obtain ⟨rfl, rfl, rfl, hcells⟩ := h
  let due : Can700 := { a.statics with fcwAlert := f.fcwNow }
  have hdue : Alerting.Alike { a with statics := due }
      { a with statics := due, msgbuf := msgbuf } := ⟨rfl, rfl, rfl, hcells⟩
  unfold fcwEvent
  simp only
  split_ifs
  · exact .ok (hdue.report target _ _ (storeSoundType_keepsAgreement _))
  · exact .error hdue
  · exact .ok ⟨rfl, rfl, rfl, hcells⟩
  · exact .ok ⟨rfl, rfl, rfl, hcells⟩

theorem hwEvent_alike (h : a.Alike a') :
    AlikeOut (hwEvent target f filterTime a)
      (hwEvent target f filterTime a') := by
  obtain ⟨statics, msgbuf, world, effects⟩ := a'
  obtain ⟨rfl, rfl, rfl, hcells⟩ := h
  let due : Can700 := { a.statics with hwAlert := f.hwNow }
  have hdue : Alerting.Alike { a with statics := due }
      { a with statics := due, msgbuf := msgbuf } := ⟨rfl, rfl, rfl, hcells⟩
  have hstart : a.Alike { a with msgbuf := msgbuf } := ⟨rfl, rfl, rfl, hcells⟩
  unfold hwEvent
  simp only
  split_ifs
  · exact .ok hstart
  · exact .ok ((hdue.report target _ _ .id).setStatics _)
  · exact .error hdue
  · exact .ok hstart
  · exact .ok ((hstart.report target _ _ .id).setStatics _)
  · exact .ok hstart

theorem canEvents_alike (hdue : f.LdwDue a.statics a.world)
    (hpasses : f.Passes a.world) (msgbuf : Mem UInt8) :
    AlikeOut (canEvents target f a.world a)
      (canEvents target f a.world { a with msgbuf := msgbuf }) := by
  have hldw := ldwEvent_alike target f
    (f.filterTime a.world AdasPara.ldwVideoTime) hdue.2 hpasses msgbuf
  have htriggers : AlikeOut
      (triggerEvents target f (f.filterTime a.world AdasPara.ldwVideoTime)
        (f.filterTime a.world AdasPara.fcwVideoTime) a)
      (triggerEvents target f (f.filterTime a.world AdasPara.ldwVideoTime)
        (f.filterTime a.world AdasPara.fcwVideoTime)
        { a with msgbuf := msgbuf }) := by
    unfold triggerEvents
    rw [if_pos hdue.1, if_pos hdue.1]
    generalize ldwEvent target f _ a = out at hldw ⊢
    generalize ldwEvent target f _ { a with msgbuf := msgbuf } = out' at hldw ⊢
    cases hldw with
    | ok h => exact fcwEvent_alike target f _ h
    | error h => exact .error h
  let a' : Alerting := { a with msgbuf := msgbuf }
  change AlikeOut _ (canEvents target f a'.world a')
  rw [canEvents_eq, canEvents_eq]
  generalize triggerEvents target f _ _ a = out at htriggers ⊢
  generalize triggerEvents target f _ _ { a with msgbuf := msgbuf } = out'
    at htriggers ⊢
  cases htriggers with
  | ok h => exact hwEvent_alike target f _ h
  | error h => exact .error h

end

/-! ## Reports with a stray byte -/

/-- What is handed to `message_queue_send`. -/
def sentPayloads (effects : List Effect) : List (List UInt8) :=
  effects.filterMap fun
    | .send _ payload _ => some payload
    | _ => none

/-- A report that sends a byte of `B` where the car ahead would have its
speed. -/
def StrayReport (B : UInt8 → Prop) (e : Effect) : Prop :=
  ∀ cmd payload node, e = .send cmd payload node →
    cmd = sampleCmdWarningReport ∧ warnFrameSize ≤ payload.length ∧
      ∃ b, payload[forwardCarSpeedOffset]? = some b ∧ B b

theorem StrayReport.of_storing {B : UInt8 → Prop} {effects : List Effect}
    (h : AllOf Effect.isStoring effects) : ∀ e ∈ effects, StrayReport B e := by
  rintro e he cmd payload node rfl
  exact absurd (h _ he) (by simp [Effect.isStoring])

theorem sentPayloads_stray {B : UInt8 → Prop} {effects : List Effect}
    (h : ∀ e ∈ effects, StrayReport B e) :
    ∀ payload ∈ sentPayloads effects,
      ∃ b, payload[forwardCarSpeedOffset]? = some b ∧ B b := by
  intro payload hpayload
  obtain ⟨e, he, hsent⟩ := List.mem_filterMap.mp hpayload
  cases e with
  | send cmd payload' node =>
      obtain rfl := Option.some.inj hsent
      exact (h _ he cmd payload' node rfl).2.2
  | _ => cases hsent

theorem sentPayloads_eq_nil {B : UInt8 → Prop} {effects : List Effect}
    (h : ∀ e ∈ effects, StrayReport B e)
    (htypes : reportTypes effects = []) : sentPayloads effects = [] := by
  rw [sentPayloads, List.filterMap_eq_nil_iff]
  rw [reportTypes, List.filterMap_eq_nil_iff] at htypes
  intro e he
  cases e with
  | send cmd payload node =>
      obtain ⟨hcmd, hlength, -⟩ := h _ he cmd payload node rfl
      have hin : soundTypeOffset < payload.length := by
        simp only [warnFrameSize, soundTypeOffset] at hlength ⊢
        omega
      have htype := htypes _ he
      rw [reportType, if_pos hcmd, List.getElem?_eq_getElem hin] at htype
      cases htype
  | _ => rfl

theorem sentPayloads_ne_nil {effects : List Effect}
    (htypes : reportTypes effects ≠ []) : sentPayloads effects ≠ [] := by
  intro hnil
  rw [sentPayloads, List.filterMap_eq_nil_iff] at hnil
  apply htypes
  rw [reportTypes, List.filterMap_eq_nil_iff]
  intro e he
  cases e with
  | send cmd payload node => cases hnil _ he
  | _ => rfl

/-- Reports with different stray bytes are different. -/
theorem sentPayloads_differ {B B' : UInt8 → Prop}
    {effects effects' : List Effect} (h : ∀ e ∈ effects, StrayReport B e)
    (h' : ∀ e ∈ effects', StrayReport B' e) (hB : ∀ b, B b → ¬ B' b)
    (htypes : reportTypes effects ≠ []) :
    sentPayloads effects ≠ sentPayloads effects' := by
  intro hsame
  obtain ⟨payload, hpayload⟩ :=
    List.exists_mem_of_ne_nil _ (sentPayloads_ne_nil htypes)
  obtain ⟨b, hfirst, hb⟩ := sentPayloads_stray h payload hpayload
  rw [hsame] at hpayload
  obtain ⟨b', hsecond, hb'⟩ := sentPayloads_stray h' payload hpayload
  rw [hfirst] at hsecond
  exact hB b hb (Option.some.inj hsecond ▸ hb')

theorem reportTypes_eq_marks {B : UInt8 → Prop} {effects : List Effect}
    (h : ∀ e ∈ effects, StrayReport B e) :
    reportTypes effects = (reportMarks effects).map Prod.fst := by
  rw [reportTypes, reportMarks, List.map_filterMap]
  apply List.filterMap_congr
  intro e he
  cases e with
  | send cmd payload node =>
      obtain ⟨hcmd, hlength, -⟩ := h _ he cmd payload node rfl
      simp only [warnFrameSize] at hlength
      have htype : soundTypeOffset < payload.length := by
        simp only [soundTypeOffset]
        omega
      have hstatus : statusFlagOffset < payload.length := by
        simp only [statusFlagOffset]
        omega
      simp [reportType, reportMark, hcmd, List.getElem?_eq_getElem htype,
        List.getElem?_eq_getElem hstatus]
  | _ => rfl

theorem fillReport_unassigned (w : World) (mm : InfoForStore)
    (type statusFlag : UInt8) (m : Mem UInt8) {j : Nat}
    (hj : isUnassigned j) :
    (fillReport w mm type statusFlag m).msgbuf j = m j := by
  obtain ⟨hlow, hhigh⟩ := hj
  simp only [forwardCarSpeedOffset, carSpeedOffset] at hlow hhigh
  simp only [fillReport]
  rw [Mem.store_of_ne _ _ (by simp only [mmNumOffset]; omega),
    Mem.copy_of_lt _ _ (by simp only [timeOffset]; omega),
    Mem.copy_of_lt _ _ (by simp only [altitudeOffset]; omega),
    Mem.store_of_ne _ _ (by simp only [carSpeedOffset]; omega),
    Mem.store_of_ne _ _ (by simp only [soundTypeOffset]; omega),
    Mem.store_of_ne _ _ (by simp only [statusFlagOffset]; omega),
    Mem.copy_of_ge _ _ (by rw [length_toBE]; omega)]

theorem forwardCarSpeed_unassigned : isUnassigned forwardCarSpeedOffset :=
  ⟨Nat.le_refl _, by decide⟩

theorem buildAdasWarnFrame_stray (target : Target) (w : World)
    (type statusFlag : UInt8) (m : Mem UInt8) :
    (buildAdasWarnFrame target w type statusFlag m).msgbuf
      forwardCarSpeedOffset = m forwardCarSpeedOffset :=
  (buildAdasWarnFrame_sameHead target w type statusFlag m _
    (by decide)).trans
      (fillReport_unassigned w _ type statusFlag m forwardCarSpeed_unassigned)

theorem buildDmsWarnFrame_stray (target : Target) (w : World)
    (type statusFlag : UInt8) (m : Mem UInt8) :
    (buildDmsWarnFrame target w type statusFlag m).msgbuf
      forwardCarSpeedOffset = m forwardCarSpeedOffset :=
  (buildDmsWarnFrame_sameHead target w type statusFlag m _
    (by decide)).trans
      (fillReport_unassigned w _ type statusFlag m forwardCarSpeed_unassigned)

theorem sendReport_stray (target : Target) {B : UInt8 → Prop} {w : World}
    {r : Report} (h : r.Stores w) (hcell : B (r.msgbuf forwardCarSpeedOffset)) :
    ∀ e ∈ (sendReport target r).2, StrayReport B e := by
  intro e he
  rw [sendReport, sendMessage_apply] at he
  rcases List.mem_append.mp he with hstored | hsent
  · exact StrayReport.of_storing h.2 e hstored
  · rw [List.mem_singleton.mp hsent]
    rintro cmd payload node heq
    cases heq
    refine ⟨rfl, ?_, _, r.getElem?_payload (by decide), hcell⟩
    rw [Report.payload, Mem.length_read, Report.length]
    omega

/-! ## Frames that do not clear the buffer -/

namespace Alerting

structure Stray (B : UInt8 → Prop) (a : Alerting) : Prop where
  cell : B (a.msgbuf forwardCarSpeedOffset)
  sent : ∀ e ∈ a.effects, StrayReport B e

theorem Stray.report {B : UInt8 → Prop} {a : Alerting} (h : a.Stray B)
    (target : Target) (type statusFlag : UInt8)
    {finish : Mem UInt8 → Mem UInt8}
    (hfinish : ∀ m, finish m forwardCarSpeedOffset =
      m forwardCarSpeedOffset) :
    (a.report target type statusFlag finish).Stray B := by
  let built := buildAdasWarnFrame target a.world type statusFlag a.msgbuf
  have hstores : Report.Stores a.world
      { built with msgbuf := finish built.msgbuf } :=
    buildAdasWarnFrame_storing target a.world type statusFlag a.msgbuf
  have hcell : B (finish built.msgbuf forwardCarSpeedOffset) := by
    rw [hfinish, buildAdasWarnFrame_stray]
    exact h.cell
  refine ⟨hcell, fun e he => ?_⟩
  rcases List.mem_append.mp he with hbefore | hnow
  · exact h.sent e hbefore
  · exact sendReport_stray target hstores hcell e hnow

end Alerting

section

variable (target : Target) (f : CanFrame) (filterTime : UInt32)
  {B : UInt8 → Prop} {a : Alerting}

/-- An alert that is not reported leaves the buffer as it is. -/
theorem ldwEvent_stray (h : a.Stray B)
    (hnot : LdwTimed f filterTime a.statics →
      ¬ filterAlertBySpeed f.speedFilterEnable a.world) :
    (atOut (ldwEvent target f filterTime a)).Stray B := by
  unfold ldwEvent
  split_ifs with hon htime hspeed
  · exact absurd hspeed (hnot ⟨hon, htime⟩)
  · exact ⟨h.cell, h.sent⟩
  · exact h
  · exact h

theorem fcwEvent_stray (h : a.Stray B) :
    (atOut (fcwEvent target f filterTime a)).Stray B := by
  have hdue : Alerting.Stray B
      { a with statics := { a.statics with fcwAlert := f.fcwNow } } :=
    ⟨h.cell, h.sent⟩
  unfold fcwEvent
  split_ifs
  · exact hdue.report target _ _ fun m => m.store_of_ne _ (by decide)
  · exact hdue
  · exact h
  · exact h

theorem hwEvent_stray (h : a.Stray B) :
    (atOut (hwEvent target f filterTime a)).Stray B := by
  have hdue : Alerting.Stray B
      { a with statics := { a.statics with hwAlert := f.hwNow } } :=
    ⟨h.cell, h.sent⟩
  have hid : ∀ m : Mem UInt8,
      id m forwardCarSpeedOffset = m forwardCarSpeedOffset := fun _ => rfl
  have hbegun := hdue.report target sbWarnTypeHw sbWarnStatusBegin hid
  have hended := h.report target sbWarnTypeHw sbWarnStatusEnd hid
  unfold hwEvent
  simp only
  split_ifs
  · exact h
  · exact ⟨hbegun.cell, hbegun.sent⟩
  · exact hdue
  · exact h
  · exact ⟨hended.cell, hended.sent⟩
  · exact h

theorem canEvents_stray (h : a.Stray B)
    (hnot : ¬ (f.LdwDue a.statics a.world ∧ f.Passes a.world)) :
    (atOut (canEvents target f a.world a)).Stray B := by
  have htriggers : (atOut (triggerEvents target f
      (f.filterTime a.world AdasPara.ldwVideoTime)
      (f.filterTime a.world AdasPara.fcwVideoTime) a)).Stray B := by
    unfold triggerEvents
    split_ifs with hnew
    · have hldw := ldwEvent_stray target f
        (f.filterTime a.world AdasPara.ldwVideoTime) h
        fun htimed hspeed => hnot ⟨⟨hnew, htimed⟩, hspeed⟩
      generalize ldwEvent target f _ a = out at hldw ⊢
      cases out with
      | ok c => exact fcwEvent_stray target f _ hldw
      | error c => exact hldw
    · exact h
  rw [canEvents_eq]
  generalize triggerEvents target f _ _ a = out at htriggers ⊢
  cases out with
  | ok c => exact hwEvent_stray target f _ htriggers
  | error c => exact htriggers

end

namespace DmsAlerting

structure Stray (B : UInt8 → Prop) (a : DmsAlerting) : Prop where
  cell : B (a.msgbuf forwardCarSpeedOffset)
  sent : ∀ e ∈ a.effects, StrayReport B e

theorem Stray.report {B : UInt8 → Prop} {a : DmsAlerting} (h : a.Stray B)
    (target : Target) (type : UInt8) : (a.report target type).Stray B := by
  have hcell := h.cell
  rw [← buildDmsWarnFrame_stray target a.world type sbWarnStatusNone a.msgbuf]
    at hcell
  refine ⟨hcell, fun e he => ?_⟩
  rcases List.mem_append.mp he with hbefore | hnow
  · exact h.sent e hbefore
  · exact sendReport_stray target (buildDmsWarnFrame_storing target a.world
      type sbWarnStatusNone a.msgbuf) hcell e hnow

end DmsAlerting

theorem doSnapShot_stray (target : Target) {B : UInt8 → Prop} {env : Env}
    (hcell : B (env.msgbuf forwardCarSpeedOffset)) (w : World) :
    ∀ e ∈ (doSnapShot target env w).2, StrayReport B e := by
  obtain ⟨build, i⟩ := target
  intro e he
  cases build with
  | adas =>
      exact sendReport_stray _ (buildAdasWarnFrame_storing ⟨.adas, i⟩ w
        sbWarnTypeSnap sbWarnStatusNone env.msgbuf)
        (by rwa [buildAdasWarnFrame_stray]) e he
  | dms =>
      exact sendReport_stray _ (buildDmsWarnFrame_storing ⟨.dms, i⟩ w
        dmsSanpshotEvent sbWarnStatusNone env.msgbuf)
        (by rwa [buildDmsWarnFrame_stray]) e he

section

variable (target : Target) (f : DmsFrame) {B : UInt8 → Prop}
  {a : DmsAlerting}

theorem dmsAlertEvent_stray (filterTime : UInt32) (t : DmsAlert)
    (h : a.Stray B) :
    (dmsAtOut (dmsAlertEvent target f filterTime t a)).Stray B := by
  unfold dmsAlertEvent
  split_ifs
  · have hdue : DmsAlerting.Stray B
        { a with
          info :=
            { a.info with
              warn := Function.update a.info.warn t (f.warnNow t) } } :=
      ⟨h.cell, h.sent⟩
    exact hdue.report target t.warnType
  · exact h
  · exact h
  · exact h

theorem dmsAlertEvents_stray (filterTime : DmsAlert → UInt32)
    (ts : List DmsAlert) (h : a.Stray B) :
    (dmsAtOut (dmsAlertEvents target f filterTime ts a)).Stray B := by
  induction ts generalizing a with
  | nil => exact h
  | cons t ts ih =>
      have hone := dmsAlertEvent_stray target f (filterTime t) t h
      rw [dmsAlertEvents]
      generalize dmsAlertEvent target f (filterTime t) t a = out at hone ⊢
      cases out with
      | ok a' => exact ih hone
      | error a' => exact hone

theorem driverChangeEvent_stray (h : a.Stray B) :
    (dmsAtOut (driverChangeEvent target f a)).Stray B := by
  unfold driverChangeEvent
  split_ifs
  · exact h.report target dmsDriverChange
  · exact h

theorem absenceReleaseEvent_stray
    (hsnap : B (f.snapEnv.msgbuf forwardCarSpeedOffset)) (h : a.Stray B) :
    (dmsAtOut (absenceReleaseEvent target f a)).Stray B := by
  unfold absenceReleaseEvent
  split_ifs
  · refine ⟨h.cell, fun e he => ?_⟩
    rcases List.mem_append.mp he with hbefore | hnow
    · exact h.sent e hbefore
    · exact doSnapShot_stray target hsnap a.world e hnow
  · exact h
  · exact h
  · exact h

theorem dmsEvents_stray
    (hsnap : B (f.snapEnv.msgbuf forwardCarSpeedOffset)) (w : World)
    (h : a.Stray B) :
    (dmsAtOut (dmsEvents target f w a)).Stray B := by
  have halerts := dmsAlertEvents_stray target f (dmsFilterTime f w.para.dms)
    DmsAlert.byPriority h
  unfold dmsEvents
  generalize dmsAlertEvents target f _ _ a = out at halerts ⊢
  cases out with
  | error a' => exact halerts
  | ok a' =>
      have hchange := driverChangeEvent_stray target f halerts
      simp only [dmsAtOut] at hchange ⊢
      generalize driverChangeEvent target f a' = out at hchange ⊢
      cases out with
      | error a'' => exact hchange
      | ok a'' => exact absenceReleaseEvent_stray target f hsnap hchange

end

/-! ## Every occasion for a report -/

/-- The local buffers of a handler and of `do_snap_shot`. -/
structure Buffers where
  msgbuf : Mem UInt8
  snap : Mem UInt8

inductive Occasion where
  | can (f : CanFrame) (s : Can700)
  | alert (f : DmsFrame) (s : DmsInfo)
  | snapShot (build : Build)

namespace Occasion

def effects (i : Interface) (w : World) (buffers : Buffers) :
    Occasion → List Effect
  | can f s =>
      (dealWsiAdasCan700 (adasTarget i) { f with msgbuf := buffers.msgbuf } s
        w).2.2
  | alert f s =>
      (dealWsiDmsInfo (dmsTarget i)
        { f with
          msgbuf := buffers.msgbuf
          snapEnv := { f.snapEnv with msgbuf := buffers.snap } } s w).2.2
  | snapShot build =>
      (doSnapShot ⟨build, i⟩ { Env.plain with msgbuf := buffers.snap } w).2

def NoStrayMemory (i : Interface) (w : World) (o : Occasion) : Prop :=
  ∀ buffers buffers',
    sentPayloads (o.effects i w buffers) = sentPayloads (o.effects i w buffers')

/-- Nothing is reported, or a departure that clears the buffer. -/
def Clean (w : World) : Occasion → Prop
  | can f s =>
      maskWarning allWarningMasks f.warning = s.lastWarningData ∨
        f.marks s w = [] ∨ f.LdwDue s w ∧ f.Passes w
  | alert f s =>
      (∀ t, ¬ (dmsStart f s w).Queues f (dmsFilterTime f w.para.dms) t) ∧
        (dmsStart f s w).laterTypes f = []
  | snapShot _ => False

/-- Buffers that hold one byte throughout. -/
def filled (b : UInt8) : Buffers := ⟨fun _ => b, fun _ => b⟩

section

variable (i : Interface) (w : World)

theorem can_stray {f : CanFrame} {s : Can700} {B : UInt8 → Prop}
    {buffers : Buffers} (hB : B (buffers.msgbuf forwardCarSpeedOffset))
    (hnot : ¬ (f.LdwDue s w ∧ f.Passes w)) :
    ∀ e ∈ (can f s).effects i w buffers, StrayReport B e := by
  have hstart : Alerting.Stray B ⟨s, buffers.msgbuf, w, []⟩ := ⟨hB, nofun⟩
  have hevents := canEvents_stray (adasTarget i) f hstart hnot
  unfold effects dealWsiAdasCan700
  simp only
  split_ifs
  · nofun
  · exact hevents.sent

theorem can_marks {f : CanFrame} {s : Can700}
    (hchanged : maskWarning allWarningMasks f.warning ≠ s.lastWarningData)
    (buffers : Buffers) :
    reportMarks ((can f s).effects i w buffers) = f.marks s w :=
  (dealWsiAdasCan700_handled (adasTarget i)
    (f := { f with msgbuf := buffers.msgbuf }) w hchanged).marks

theorem can_cleared {f : CanFrame} {s : Can700} (hldw : f.LdwDue s w)
    (hpasses : f.Passes w) (buffers buffers' : Buffers) :
    (can f s).effects i w buffers' = (can f s).effects i w buffers := by
  have halike := canEvents_alike (adasTarget i) f
    (a := ⟨s, buffers.msgbuf, w, []⟩) hldw hpasses buffers'.msgbuf
  unfold effects dealWsiAdasCan700
  simp only
  split_ifs
  · rfl
  · exact halike.effects

theorem can_noStrayMemory_iff (f : CanFrame) (s : Can700) :
    NoStrayMemory i w (can f s) ↔ Clean w (can f s) := by
  by_cases hsame : maskWarning allWarningMasks f.warning = s.lastWarningData
  · refine iff_of_true (fun buffers buffers' => ?_) (.inl hsame)
    have hnone : ∀ buffers, (can f s).effects i w buffers = [] := by
      intro buffers
      exact congrArg (fun out : Can700 × World × List Effect => out.2.2)
        (dealWsiAdasCan700_same (adasTarget i)
          (f := { f with msgbuf := buffers.msgbuf }) w hsame)
    rw [hnone, hnone]
  by_cases hldw : f.LdwDue s w ∧ f.Passes w
  · refine iff_of_true (fun buffers buffers' => ?_) (.inr (.inr hldw))
    rw [can_cleared i w hldw.1 hldw.2]
  have hstray : ∀ (B : UInt8 → Prop) (buffers : Buffers),
      B (buffers.msgbuf forwardCarSpeedOffset) →
        ∀ e ∈ (can f s).effects i w buffers, StrayReport B e :=
    fun _ _ hB => can_stray i w hB hldw
  have htypes : ∀ buffers, reportTypes ((can f s).effects i w buffers) =
      (f.marks s w).map Prod.fst := by
    intro buffers
    have hbytes := hstray (fun _ => True) buffers trivial
    rw [reportTypes_eq_marks hbytes, can_marks i w hsame]
  rw [show Clean w (can f s) ↔ f.marks s w = [] from
    (or_iff_right hsame).trans (or_iff_left hldw)]
  constructor
  · intro hclean
    by_contra hmarks
    refine sentPayloads_differ (hstray (· = 0) (filled 0) rfl)
      (hstray (· = 1) (filled 1) rfl) ?_ ?_ (hclean _ _)
    · rintro b rfl
      decide
    · rw [htypes]
      simpa using hmarks
  · intro hmarks buffers buffers'
    have hnone : ∀ buffers,
        sentPayloads ((can f s).effects i w buffers) = [] := by
      intro buffers
      apply sentPayloads_eq_nil (hstray (fun _ => True) buffers trivial)
      rw [htypes, hmarks]
      rfl
    rw [hnone, hnone]

theorem alert_stray {f : DmsFrame} {s : DmsInfo} {B : UInt8 → Prop}
    {buffers : Buffers} (hB : B (buffers.msgbuf forwardCarSpeedOffset))
    (hsnap : B (buffers.snap forwardCarSpeedOffset)) :
    ∀ e ∈ (alert f s).effects i w buffers, StrayReport B e := by
  let g : DmsFrame :=
    { f with
      msgbuf := buffers.msgbuf
      snapEnv := { f.snapEnv with msgbuf := buffers.snap } }
  have hstart : (dmsStart g s w).Stray B := ⟨hB, nofun⟩
  have hevents := dmsEvents_stray (dmsTarget i) g hsnap w hstart
  unfold effects dealWsiDmsInfo
  simp only
  split_ifs
  · nofun
  · exact hevents.sent

theorem alert_noStrayMemory_iff (f : DmsFrame) (s : DmsInfo) :
    NoStrayMemory i w (alert f s) ↔ Clean w (alert f s) := by
  have htypes : ∀ buffers : Buffers,
      reportTypes ((alert f s).effects i w buffers) =
        (DmsAlert.byPriority.filter
          ((dmsStart f s w).Queues f (dmsFilterTime f w.para.dms) ·)).map
            DmsAlert.warnType ++ (dmsStart f s w).laterTypes f := by
    intro buffers
    exact (dealWsiDmsInfo_handled i
      { f with
        msgbuf := buffers.msgbuf
        snapEnv := { f.snapEnv with msgbuf := buffers.snap } } s w).types
  have hclean : Clean w (alert f s) ↔ ∀ buffers,
      reportTypes ((alert f s).effects i w buffers) = [] := by
    simp only [htypes, List.append_eq_nil_iff, List.map_eq_nil_iff,
      List.filter_eq_nil_iff, Clean, DmsAlert.mem_byPriority, forall_const,
      decide_eq_true_eq]
    exact ⟨fun h _ => h, fun h => h (filled 0)⟩
  rw [hclean]
  constructor
  · intro h buffers
    by_contra hreports
    have hreports' :
        reportTypes ((alert f s).effects i w (filled 0)) ≠ [] := by
      rwa [htypes] at hreports ⊢
    have hstray : ∀ b, ∀ e ∈ (alert f s).effects i w (filled b),
        StrayReport (· = b) e := fun b =>
      alert_stray i w (rfl : (filled b).msgbuf forwardCarSpeedOffset = b) rfl
    refine sentPayloads_differ (hstray 0) (hstray 1) ?_ hreports' (h _ _)
    rintro b rfl
    decide
  · intro hnone buffers buffers'
    have hquiet : ∀ buffers,
        sentPayloads ((alert f s).effects i w buffers) = [] := by
      intro buffers
      exact sentPayloads_eq_nil
        (alert_stray (B := fun _ => True) i w trivial trivial) (hnone buffers)
    rw [hquiet, hquiet]

theorem doSnapShot_reports (target : Target) (env : Env) :
    reportTypes (doSnapShot target env w).2 ≠ [] := by
  obtain ⟨build, i⟩ := target
  cases build with
  | adas =>
      have hsent := sendReport_reportTypes ⟨.adas, i⟩
        (buildAdasWarnFrame_storing ⟨.adas, i⟩ w sbWarnTypeSnap
          sbWarnStatusNone env.msgbuf)
      exact fun hnone => nomatch hsent.symm.trans hnone
  | dms =>
      exact fun hnone =>
        nomatch (doSnapShot_dmsTypes i env w).symm.trans hnone

theorem snapShot_differs (build : Build) :
    sentPayloads ((snapShot build).effects i w (filled 0)) ≠
      sentPayloads ((snapShot build).effects i w (filled 1)) := by
  have hstray : ∀ b, ∀ e ∈ (snapShot build).effects i w (filled b),
      StrayReport (· = b) e := fun b =>
    doSnapShot_stray ⟨build, i⟩
      (rfl : (filled b).snap forwardCarSpeedOffset = b) w
  refine sentPayloads_differ (hstray 0) (hstray 1) ?_
    (doSnapShot_reports w _ _)
  rintro b rfl
  decide

theorem noStrayMemory_iff (o : Occasion) :
    o.NoStrayMemory i w ↔ o.Clean w := by
  cases o with
  | can f s => exact can_noStrayMemory_iff i w f s
  | alert f s => exact alert_noStrayMemory_iff i w f s
  | snapShot build =>
      exact iff_of_false (fun h => snapShot_differs i w build (h _ _)) id

theorem snapShot_strays :
    ¬ (snapShot .adas).NoStrayMemory .tcp (freshWorld adasTcp) :=
  fun h => snapShot_differs .tcp (freshWorld adasTcp) .adas (h _ _)

end

end Occasion

end SanbaoProt
