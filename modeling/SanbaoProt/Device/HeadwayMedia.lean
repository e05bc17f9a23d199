import SanbaoProt.Device.AdasRun

/-!
# The media of a headway alert

The report that ends a headway alert repeats the media list of the report that
began it.  The list is remembered in a static of the builder, which every alert
goes through: only a report with the status of a begin writes it, and the flag
of `deal_wsi_adas_can700` lets an end be reported only after a begin.
`RemembersOpen` is that relation.
-/

namespace SanbaoProt

open Library

/-- The status of a headway report, and its `mm_num` with the media list. -/
def hwMedia : Effect → Option (UInt8 × List UInt8)
  | .send cmd payload _ =>
      if cmd = sampleCmdWarningReport ∧
          payload[soundTypeOffset]? = some sbWarnTypeHw then
        payload[statusFlagOffset]?.map fun statusFlag =>
          (statusFlag, payload.drop mmNumOffset)
      else none
  | _ => none

def hwMarks (effects : List Effect) : List (UInt8 × List UInt8) :=
  effects.filterMap hwMedia

@[simp] theorem hwMarks_nil : hwMarks [] = [] := rfl

@[simp] theorem hwMarks_append (first second : List Effect) :
    hwMarks (first ++ second) = hwMarks first ++ hwMarks second :=
  List.filterMap_append

theorem hwMarks_statuses (effects : List Effect) :
    (hwMarks effects).map Prod.fst = hwReports effects := by
  have hstatus : ∀ e, (hwMedia e).map Prod.fst = hwStatus e := by
    intro e
    cases e with
    | send cmd payload node =>
        simp only [hwMedia, hwStatus]
        split_ifs
        · rw [Option.map_map]
          exact Option.map_id'
        · rfl
    | _ => rfl
  rw [hwMarks, hwReports, List.map_filterMap]
  exact List.filterMap_congr fun e _ => hstatus e

theorem hwMarks_eq_nil {effects : List Effect}
    (h : hwReports effects = []) : hwMarks effects = [] := by
  rw [← hwMarks_statuses] at h
  exact List.map_eq_nil_iff.mp h

/-- A received frame has no headway alert reported. -/
theorem HandlerSent.noHwMedia {target : Target} {para : AdasPara} {e : Effect}
    (h : HandlerSent target para e) : hwMedia e = none := by
  cases h with
  | send c payload w h =>
      refine if_neg ?_
      rintro ⟨hcode, htype⟩
      have hreport : c = .warningReport := by
        revert hcode
        cases c <;> decide
      rw [hreport] at h
      exact absurd (Option.some.inj (h.1.symm.trans htype)) (by decide)
  | silent h =>
      cases e with
      | send cmd payload node => exact absurd rfl (h cmd payload node)
      | _ => rfl

theorem Handles.noHwMarks {target : Target} {para : AdasPara} {w : World}
    {out : World × List Effect} (h : Handles target para w out) :
    hwMarks out.2 = [] :=
  List.filterMap_eq_nil_iff.mpr fun e he => (h.sent e he).noHwMedia

/-! ## One report -/

/-- The `mm_num` and the media list as they are remembered. -/
def MediaBegin.media (m : MediaBegin) : List UInt8 :=
  m.num :: m.entries.read 0 (m.num.toNat * 5)

namespace Report

theorem drop_payload (r : Report) :
    r.payload.drop mmNumOffset =
      r.mmNum :: r.msgbuf.read warnFrameSize (r.mmNum.toNat * 5) := by
  have hlength : r.length = mmNumOffset + (1 + r.mmNum.toNat * 5) := by
    simp only [length, warnFrameSize, mmNumOffset]
    omega
  have hhead : (r.msgbuf.read 0 mmNumOffset).length = mmNumOffset :=
    Mem.length_read ..
  rw [payload, hlength, Mem.read_add, Nat.zero_add,
    List.drop_left' hhead, Nat.add_comm 1, Mem.read_succ]
  rfl

end Report

namespace Alerting

variable (a : Alerting) (target : Target)

theorem report_hwMarks (statusFlag : UInt8) :
    hwMarks (a.report target sbWarnTypeHw statusFlag id).effects =
      hwMarks a.effects ++
        [(statusFlag, (buildAdasWarnFrame target a.world sbWarnTypeHw
          statusFlag a.msgbuf).payload.drop mmNumOffset)] := by
  let built := buildAdasWarnFrame target a.world sbWarnTypeHw statusFlag
    a.msgbuf
  obtain ⟨hstatus, htype⟩ := buildAdasWarnFrame_head target a.world
    sbWarnTypeHw statusFlag a.msgbuf
  have hbuilt : hwMarks built.effects = [] := hwMarks_eq_nil
    (hwReports_storing (buildAdasWarnFrame_storing target a.world
      sbWarnTypeHw statusFlag a.msgbuf).2)
  have hsent : hwMedia (.send sampleCmdWarningReport built.payload
      (sentNode target built.world sampleCmdWarningReport built.payload)) =
      some (statusFlag, built.payload.drop mmNumOffset) := by
    have htyped : built.payload[soundTypeOffset]? = some sbWarnTypeHw :=
      (built.getElem?_payload (by decide)).trans (congrArg some htype)
    have hflagged : built.payload[statusFlagOffset]? = some statusFlag :=
      (built.getElem?_payload (by decide)).trans (congrArg some hstatus)
    rw [hwMedia, if_pos ⟨rfl, htyped⟩, hflagged]
    rfl
  have hshown : hwMarks [.send sampleCmdWarningReport built.payload
      (sentNode target built.world sampleCmdWarningReport built.payload)] =
      [(statusFlag, built.payload.drop mmNumOffset)] := by
    rw [hwMarks, List.filterMap_cons, hsent]
    rfl
  have heffects : (a.report target sbWarnTypeHw statusFlag id).effects =
      a.effects ++ (built.effects ++ [.send sampleCmdWarningReport
        built.payload (sentNode target built.world sampleCmdWarningReport
          built.payload)]) :=
    a.report_effects target sbWarnTypeHw statusFlag id
  rw [heffects, hwMarks_append, hwMarks_append, hbuilt, hshown,
    List.nil_append]

theorem report_world (type statusFlag : UInt8)
    (finish : Mem UInt8 → Mem UInt8) :
    (a.report target type statusFlag finish).world.mediaBegin =
      (buildAdasWarnFrame target a.world type statusFlag
        a.msgbuf).world.mediaBegin := by
  simp only [report, sendReport, sendMessage_apply]
  rfl

end Alerting

section

variable (target : Target) (w : World) (type : UInt8) (msgbuf : Mem UInt8)

theorem buildAdasWarnFrame_begin_media :
    (buildAdasWarnFrame target w type sbWarnStatusBegin
        msgbuf).world.mediaBegin.media =
      (buildAdasWarnFrame target w type sbWarnStatusBegin
        msgbuf).payload.drop mmNumOffset := by
  have hend : ¬ sbWarnStatusBegin = sbWarnStatusEnd := by decide
  have hcopied : ∀ (entries : Mem UInt8) (r : Report), MediaBegin.media
      ⟨entries.copy 0 (r.msgbuf.read warnFrameSize (r.mmNum.toNat * 5)),
        r.mmNum⟩ =
      r.mmNum :: r.msgbuf.read warnFrameSize (r.mmNum.toNat * 5) := by
    intro entries r
    have hcopy := entries.read_copy 0
      (r.msgbuf.read warnFrameSize (r.mmNum.toNat * 5))
    rw [Mem.length_read] at hcopy
    rw [MediaBegin.media, hcopy]
  rw [Report.drop_payload]
  simp only [buildAdasWarnFrame, if_neg hend, if_true]
  exact hcopied w.mediaBegin.entries _

theorem buildAdasWarnFrame_end_media :
    (buildAdasWarnFrame target w type sbWarnStatusEnd
        msgbuf).payload.drop mmNumOffset = w.mediaBegin.media := by
  rw [Report.drop_payload]
  simp only [buildAdasWarnFrame, if_true, Report.mmNum, Mem.store_self,
    MediaBegin.media]
  congr 1
  have hcopy := (fillReport w (getAdasInfoForStore type w.para.adas) type
    sbWarnStatusEnd msgbuf).msgbuf.read_copy warnFrameSize
    (w.mediaBegin.entries.read 0 (w.mediaBegin.num.toNat * 5))
  rw [Mem.length_read] at hcopy
  refine Eq.trans (Mem.read_congr fun j hj _ => Mem.store_of_ne _ _ ?_) hcopy
  simp only [warnFrameSize, mmNumOffset] at hj ⊢
  omega

end

/-! ## Runs -/

/-- While the start flag is set, the media of the open alert are the
remembered ones. -/
def RemembersOpen (sStartFlag : Bool) (begun : MediaBegin)
    (isOpen : Option (List UInt8)) : Prop :=
  sStartFlag = true → isOpen = some begun.media

section

variable (target : Target) (f : CanFrame)

theorem hwEvent_closes (filterTime : UInt32) {a : Alerting}
    {isOpen : Option (List UInt8)}
    (h : RemembersOpen a.statics.sStartFlag a.world.mediaBegin isOpen)
    (hnone : hwMarks a.effects = []) :
    let a' := atOut (hwEvent target f filterTime a)
    Closes sbWarnStatusBegin sbWarnStatusEnd isOpen (hwMarks a'.effects) ∧
      RemembersOpen a'.statics.sStartFlag a'.world.mediaBegin
        (openAfterAll sbWarnStatusBegin isOpen (hwMarks a'.effects)) := by
  intro a'
  have hsilent : ∀ statics msgbuf, statics.sStartFlag = a.statics.sStartFlag →
      atOut (hwEvent target f filterTime a) =
        ⟨statics, msgbuf, a.world, a.effects⟩ →
      Closes sbWarnStatusBegin sbWarnStatusEnd isOpen (hwMarks a'.effects) ∧
      RemembersOpen a'.statics.sStartFlag a'.world.mediaBegin
        (openAfterAll sbWarnStatusBegin isOpen (hwMarks a'.effects)) := by
    intro statics msgbuf hflag heq
    rw [show a' = _ from heq, hnone]
    simp only [hflag]
    exact ⟨trivial, h⟩
  revert hsilent a'
  unfold hwEvent
  simp only
  split_ifs with hsame hred htime hspeed hend
  · exact fun hsilent => hsilent a.statics a.msgbuf rfl rfl
  · intro _
    let due : Alerting :=
      { a with statics := { a.statics with hwAlert := f.hwNow } }
    have hmarks := due.report_hwMarks target sbWarnStatusBegin
    have hmedia := buildAdasWarnFrame_begin_media target due.world
      sbWarnTypeHw due.msgbuf
    have hdue : hwMarks due.effects = [] := hnone
    rw [← due.report_world target sbWarnTypeHw sbWarnStatusBegin id] at hmedia
    rw [hdue, List.nil_append] at hmarks
    simp only [atOut]
    rw [show hwMarks (due.report target sbWarnTypeHw sbWarnStatusBegin
      id).effects = _ from hmarks]
    refine ⟨⟨fun heq => ?_, trivial⟩, fun _ => congrArg some hmedia.symm⟩
    exact absurd (show sbWarnStatusBegin = sbWarnStatusEnd from heq)
      (by decide)
  · exact fun hsilent =>
      hsilent { a.statics with hwAlert := f.hwNow } a.msgbuf rfl rfl
  · exact fun hsilent => hsilent a.statics a.msgbuf rfl rfl
  · intro _
    have hmarks := a.report_hwMarks target sbWarnStatusEnd
    rw [hnone, List.nil_append, buildAdasWarnFrame_end_media] at hmarks
    simp only [atOut]
    rw [hmarks]
    refine ⟨⟨fun _ => h hend.2, trivial⟩, fun hopen => ?_⟩
    exact absurd hopen Bool.false_ne_true
  · exact fun hsilent => hsilent a.statics a.msgbuf rfl rfl

theorem report_keepsBegun (begun : MediaBegin) :
    ReportsKeep target (fun w _ => w.mediaBegin = begun)
      sbWarnStatusNone := by
  intro a type finish _ hbegun
  rw [a.report_world, buildAdasWarnFrame_begun target a.world type a.msgbuf
    (by decide)]
  exact hbegun

theorem dealWsiAdasCan700_closes (s : Can700) (w : World)
    {isOpen : Option (List UInt8)}
    (h : RemembersOpen s.sStartFlag w.mediaBegin isOpen) :
    let out := dealWsiAdasCan700 target f s w
    Closes sbWarnStatusBegin sbWarnStatusEnd isOpen (hwMarks out.2.2) ∧
      RemembersOpen out.1.sStartFlag out.2.1.mediaBegin
        (openAfterAll sbWarnStatusBegin isOpen (hwMarks out.2.2)) := by
  unfold dealWsiAdasCan700
  split_ifs
  · exact ⟨trivial, h⟩
  · let start : Alerting := ⟨s, f.msgbuf, w, []⟩
    obtain ⟨ldwTime, fcwTime, hwTime, a', hcases⟩ :=
      canEvents_cases f target w start
    have hsame := triggerEvents_sameHeadway target f ldwTime fcwTime start
    have hbegun := triggerEvents_preserves (a := start) f
      (report_keepsBegun target w.mediaBegin) ldwTime fcwTime rfl
    rcases hcases with ⟨hjump, hevents⟩ | ⟨hpass, hevents⟩
    · rw [hjump] at hsame hbegun
      have hmarks : hwMarks a'.effects = [] := hwMarks_eq_nil hsame.reports
      simp only [show canEvents target f w ⟨s, f.msgbuf, w, []⟩ = _ from
        hevents, atOut]
      rw [hmarks, show a'.statics.sStartFlag = s.sStartFlag from hsame.flag,
        show a'.world.mediaBegin = w.mediaBegin from hbegun]
      exact ⟨trivial, h⟩
    · rw [hpass] at hsame hbegun
      have hmarks : hwMarks a'.effects = [] := hwMarks_eq_nil hsame.reports
      have hopen : RemembersOpen a'.statics.sStartFlag a'.world.mediaBegin
          isOpen := by
        rw [show a'.statics.sStartFlag = s.sStartFlag from hsame.flag,
          show a'.world.mediaBegin = w.mediaBegin from hbegun]
        exact h
      simp only [show canEvents target f w ⟨s, f.msgbuf, w, []⟩ = _ from
        hevents]
      exact hwEvent_closes target f hwTime hopen hmarks

end

theorem adasDevice_closes (i : Interface) (s : AdasDevice) (input : AdasInput)
    (isOpen : Option (List UInt8))
    (h : RemembersOpen s.can.sStartFlag s.world.mediaBegin isOpen) :
    let out := (adasDevice i).step s input
    Closes sbWarnStatusBegin sbWarnStatusEnd isOpen (hwMarks out.2) ∧
      RemembersOpen out.1.can.sStartFlag out.1.world.mediaBegin
        (openAfterAll sbWarnStatusBegin isOpen (hwMarks out.2)) := by
  have hquiet : ∀ out : World × List Effect,
      Handles (adasTarget i) s.world.para.adas s.world out →
      Closes sbWarnStatusBegin sbWarnStatusEnd isOpen (hwMarks out.2) ∧
        RemembersOpen s.can.sStartFlag out.1.mediaBegin
          (openAfterAll sbWarnStatusBegin isOpen (hwMarks out.2)) := by
    intro out hhandles
    rw [hhandles.noHwMarks, hhandles.begun]
    exact ⟨trivial, h⟩
  cases input with
  | frame r => exact hquiet _ (device_adasHandles rfl s.world r)
  | can f => exact dealWsiAdasCan700_closes (adasTarget i) f s.can s.world h
  | snap env => exact hquiet _ (doSnapShot_handles rfl env s.world)
  | workStatus => exact hquiet _ (.send .uploadStatus rfl)
  | others world => exact ⟨trivial, h⟩

/-- In the headway reports of a run, the one before an end is a begin with the
same media. -/
theorem hwEnd_repeatsBegin (i : Interface) (world : World)
    (inputs : List AdasInput) {before after : List (UInt8 × List UInt8)}
    {media : List UInt8}
    (h : hwMarks ((adasDevice i).outputs ⟨Can700.zero, world⟩ inputs) =
      before ++ (sbWarnStatusEnd, media) :: after) :
    ∃ earlier, before = earlier ++ [(sbWarnStatusBegin, media)] := by
  have hstart : RemembersOpen Can700.zero.sStartFlag world.mediaBegin none :=
    fun hopen => absurd hopen Bool.false_ne_true
  have hcloses : Closes sbWarnStatusBegin sbWarnStatusEnd none
      (hwMarks ((adasDevice i).outputs ⟨Can700.zero, world⟩ inputs)) :=
    (adasDevice i).closes hwMarks_nil hwMarks_append (adasDevice_closes i)
      hstart inputs
  rw [h] at hcloses
  rcases hcloses.preceded with ⟨-, hopen⟩ | hbefore
  · cases hopen
  · exact hbefore

/-- A snapshot takes ids between the begin and the end of an alert. -/
def redSnapWhite : List AdasInput :=
  [.can (canFrameAt 100 0 2), .snap Env.plain, .can (canFrameAt 120 0 1)]

def threePhotosTwoVideos : List UInt8 :=
  [5, mmPhoto, 0, 0, 0, 1, mmPhoto, 0, 0, 0, 2, mmPhoto, 0, 0, 0, 3,
    mmVideo, 0, 0, 0, 4, mmVideo, 0, 0, 0, 5]

theorem hwEnd_repeatsBegin_redSnapWhite :
    ∃ before, hwMarks ((adasDevice .tcp).outputs
        ⟨Can700.zero, drivingAt 60⟩ redSnapWhite) =
          before ++ [(sbWarnStatusEnd, threePhotosTwoVideos)] ∧
      ∃ earlier, before =
        earlier ++ [(sbWarnStatusBegin, threePhotosTwoVideos)] := by
  have hmarks : hwMarks ((adasDevice .tcp).outputs
      ⟨Can700.zero, drivingAt 60⟩ redSnapWhite) =
      [(sbWarnStatusBegin, threePhotosTwoVideos)] ++
        (sbWarnStatusEnd, threePhotosTwoVideos) :: [] := by decide +kernel
  exact ⟨_, hmarks,
    hwEnd_repeatsBegin .tcp (drivingAt 60) redSnapWhite hmarks⟩

end SanbaoProt
