import SanbaoProt.Device.MediaIds

/-!
# Warning ids

A report takes its warning id when it is begun and keeps it, with its status,
whatever the threads do while its media are listed.  So the ids are those of
the reports in the order in which they were begun.
-/

namespace SanbaoProt

open Library

/-! ## The head of a report under construction -/

namespace Report

theorem anotherVideo_sameHead (r : Report) :
    SameHead r.msgbuf r.anotherVideo.msgbuf := by
  unfold anotherVideo
  split_ifs
  · exact addVideo_sameHead _
  · exact fun _ _ => rfl

theorem loadBegin_sameHead (r : Report) :
    SameHead r.msgbuf r.loadBegin.msgbuf := by
  intro j hj
  simp only [mmNumOffset] at hj
  exact (Mem.store_of_ne _ _ (by simp only [mmNumOffset]; omega)).trans
    (Mem.copy_of_lt _ _ (by simp only [warnFrameSize]; omega))

theorem addPhotos_warningId (r : Report) :
    r.addPhotos.world.ids.warningId = r.world.ids.warningId := by
  unfold addPhotos
  split_ifs <;> rfl

theorem addVideo_warningId (r : Report) :
    r.addVideo.world.ids.warningId = r.world.ids.warningId := by
  unfold addVideo
  split_ifs <;> rfl

theorem anotherVideo_warningId (r : Report) :
    r.anotherVideo.world.ids.warningId = r.world.ids.warningId := by
  unfold anotherVideo
  split_ifs
  · exact addVideo_warningId _
  · rfl

end Report

theorem Phase.run_sameHead (target : Target) (p : Phase) (r : Report) :
    SameHead r.msgbuf (p.run target r).msgbuf := by
  cases p with
  | photos => exact r.addPhotos_sameHead
  | video => exact r.addVideo_sameHead
  | anotherVideo => exact r.anotherVideo_sameHead
  | loadBegin => exact r.loadBegin_sameHead
  | storeAnother =>
      simp only [run]
      split_ifs <;> exact fun _ _ => rfl
  | storePhotos =>
      simp only [run]
      split_ifs <;> exact fun _ _ => rfl
  | _ => exact fun _ _ => rfl

theorem Phase.run_warningId (target : Target) (p : Phase) (r : Report) :
    (p.run target r).world.ids.warningId = r.world.ids.warningId := by
  have hstore : ∀ another, (r.store target another).world.ids.warningId =
      r.world.ids.warningId := fun another =>
    congrArg NextIds.warningId (Report.store_ids target another r)
  cases p with
  | photos => exact r.addPhotos_warningId
  | video => exact r.addVideo_warningId
  | anotherVideo => exact r.anotherVideo_warningId
  | store => exact hstore 0
  | storeAnother =>
      simp only [run]
      split_ifs
      · exact hstore 1
      · rfl
  | storePhotos =>
      simp only [run]
      split_ifs
      · exact hstore 0
      · rfl
  | loadBegin => rfl
  | saveBegin => rfl

theorem fillReport_warningId (w : World) (mm : InfoForStore)
    (type statusFlag : UInt8) (msgbuf : Mem UInt8) :
    (fillReport w mm type statusFlag msgbuf).msgbuf.read 0 4 =
      toBE 4 (w.ids.warningId + 1).toNat := by
  have hcopied := (msgbuf).read_copy 0 (toBE 4 (w.ids.warningId + 1).toNat)
  rw [length_toBE] at hcopied
  rw [← hcopied]
  apply Mem.read_congr
  intro j hj hj'
  simp only [fillReport]
  rw [Mem.store_of_ne _ _ (by simp only [mmNumOffset]; omega),
    Mem.copy_of_lt _ _ (by simp only [timeOffset]; omega),
    Mem.copy_of_lt _ _ (by simp only [altitudeOffset]; omega),
    Mem.store_of_ne _ _ (by simp only [carSpeedOffset]; omega),
    Mem.store_of_ne _ _ (by simp only [soundTypeOffset]; omega),
    Mem.store_of_ne _ _ (by simp only [statusFlagOffset]; omega)]

/-! ## Runs -/

/-- The payload of a report begins with its warning id and its status. -/
structure Building.Headed (id : UInt32) (b : Building) : Prop where
  warningId : b.report.msgbuf.read 0 4 = toBE 4 id.toNat
  statusFlag : b.report.msgbuf statusFlagOffset = b.statusFlag

theorem Building.Headed.sameHead {id : UInt32} {b b' : Building}
    (h : b.Headed id) (hhead : SameHead b.report.msgbuf b'.report.msgbuf)
    (hstatus : b'.statusFlag = b.statusFlag) : b'.Headed id := by
  constructor
  · rw [← h.warningId]
    apply Mem.read_congr
    intro j hj hj'
    exact hhead j (by simp only [mmNumOffset]; omega)
  · rw [hhead statusFlagOffset (by decide), h.statusFlag, hstatus]

theorem Building.next_headed (target : Target) (w : World) {b : Building}
    {id : UInt32} (h : b.Headed id) :
    (b.next target w).2.1.Headed id ∧
      (b.next target w).1.ids.warningId = w.ids.warningId := by
  unfold Building.next
  cases b.todo with
  | nil => exact ⟨h, rfl⟩
  | cons p todo =>
      let found : Report := { b.report with world := w }
      exact ⟨h.sameHead (p.run_sameHead target found) rfl,
        p.run_warningId target found⟩

/-- Only the builders take warning ids. -/
def KeepsWarningId (s : Reporting) : ReportInput → Prop
  | .others world => world.ids.warningId = s.world.ids.warningId
  | _ => True

instance (s : Reporting) (i : ReportInput) :
    Decidable (KeepsWarningId s i) := by
  cases i <;> unfold KeepsWarningId <;> infer_instance

/-- The id of the report with this number, counted from the first. -/
def warningIdOf (start : UInt32) (number : Nat) : UInt32 :=
  start + UInt32.ofNat (number + 1)

structure WarningsIssued (start : UInt32) (s : Reporting) : Prop where
  next : s.world.ids.warningId = start + UInt32.ofNat s.reports.length
  headed : ∀ number (b : Building), s.reports[number]? = some b →
    b.Headed (warningIdOf start number)

theorem WarningsIssued.step {start : UInt32} {s : Reporting}
    (h : WarningsIssued start s) (target : Target) {i : ReportInput}
    (hkeeps : KeepsWarningId s i) :
    WarningsIssued start ((reporting target).step s i).1 := by
  cases i with
  | others world => exact ⟨hkeeps.trans h.next, h.headed⟩
  | start type statusFlag msgbuf =>
      have hnext : s.world.ids.warningId + 1 =
          warningIdOf start s.reports.length := by
        rw [h.next, warningIdOf, UInt32.ofNat_add, UInt32.add_assoc]
        rfl
      constructor
      · change s.world.ids.warningId + 1 = _
        rw [hnext]
        simp [reporting, warningIdOf]
      · intro number b hb
        change (s.reports ++ [_])[number]? = some b at hb
        by_cases hnumber : number < s.reports.length
        · rw [List.getElem?_append_left hnumber] at hb
          exact h.headed number b hb
        · rw [List.getElem?_append_right (Nat.le_of_not_lt hnumber)] at hb
          obtain ⟨hzero, rfl⟩ := List.getElem?_eq_some_iff.mp hb
          rw [List.length_singleton] at hzero
          have hlast : number = s.reports.length := by omega
          subst hlast
          constructor
          · rw [← hnext]
            simpa using fillReport_warningId s.world _ type statusFlag msgbuf
          · simpa using (fillReport_head s.world _ type statusFlag msgbuf).1
  | proceed number =>
      simp only [reporting]
      cases hnumber : s.reports[number]? with
      | none => exact h
      | some b =>
          obtain ⟨hlt, -⟩ := List.getElem?_eq_some_iff.mp hnumber
          obtain ⟨hheaded, hkept⟩ :=
            Building.next_headed target s.world (h.headed number b hnumber)
          constructor
          · simpa using hkept.trans h.next
          · intro other b' hb'
            by_cases hsame : number = other
            · subst hsame
              rw [List.getElem?_set_self hlt] at hb'
              rw [← Option.some.inj hb']
              exact hheaded
            · rw [List.getElem?_set_ne hsame] at hb'
              exact h.headed other b' hb'

theorem WarningsIssued.run {start : UInt32} {s : Reporting}
    (h : WarningsIssued start s) (target : Target)
    {inputs : List ReportInput}
    (hkeeps : (reporting target).EachStep KeepsWarningId s inputs) :
    WarningsIssued start ((reporting target).final s inputs) := by
  induction inputs generalizing s with
  | nil => exact h
  | cons i inputs ih =>
      obtain ⟨hi, hrest⟩ := (Mealy.eachStep_cons s i inputs).mp hkeeps
      rw [Mealy.final_cons]
      exact ih (h.step target hi) hrest

theorem warningIdOf_inj {start : UInt32} {k k' : Nat} (hk : k < 2 ^ 32)
    (hk' : k' < 2 ^ 32) (h : warningIdOf start k = warningIdOf start k') :
    k = k' := by
  have hnat := congrArg UInt32.toNat (UInt32.add_right_inj start |>.mp h)
  simp only [UInt32.toNat_ofNat'] at hnat
  omega

theorem WarningsIssued.nodup {start : UInt32} {s : Reporting}
    (h : WarningsIssued start s) (hlength : s.reports.length ≤ 2 ^ 32) :
    (s.reports.map fun b => b.report.msgbuf.read 0 4).Nodup := by
  rw [List.Nodup, List.pairwise_map, List.pairwise_iff_getElem]
  intro first second hfirst hsecond hlt hsame
  have hid := (h.headed first _ (List.getElem?_eq_getElem hfirst)).warningId
  have hid' :=
    (h.headed second _ (List.getElem?_eq_getElem hsecond)).warningId
  rw [hid, hid'] at hsame
  have hnat := congrArg ofBE hsame
  rw [ofBE_toBE (UInt32.toNat_lt _), ofBE_toBE (UInt32.toNat_lt _)] at hnat
  have hnumber := warningIdOf_inj (by omega) (by omega)
    (UInt32.toNat_inj.mp hnat)
  omega

/-- However the threads take turns, the reports carry consecutive warning ids
in the order in which they were begun, each with its own status, and no two of
2 ^ 32 reports the same one. -/
theorem warningIds_consecutive (target : Target) (w : World)
    (dir : Option (List DirEntry)) {inputs : List ReportInput}
    (hkeeps : (reporting target).EachStep KeepsWarningId
      (reportingStarted w dir) inputs) :
    let reports :=
      ((reporting target).final (reportingStarted w dir) inputs).reports
    (∀ number (b : Building), reports[number]? = some b →
      b.Headed (warningIdOf w.ids.warningId number)) ∧
      (reports.length ≤ 2 ^ 32 →
        (reports.map fun b => b.report.msgbuf.read 0 4).Nodup) := by
  intro reports
  have hstarted : WarningsIssued w.ids.warningId (reportingStarted w dir) :=
    ⟨by simp [reportingStarted], by simp [reportingStarted]⟩
  have hissued := hstarted.run target hkeeps
  exact ⟨hissued.headed, hissued.nodup⟩

/-- A departure and a snapshot at the same time; the later one is listed
first. -/
theorem warningIds_consecutive_twoThreads :
    let inputs : List ReportInput :=
      [.start sbWarnTypeLdw sbWarnStatusNone fun _ => 0,
        .start sbWarnTypeSnap sbWarnStatusNone fun _ => 0, .proceed 1,
        .proceed 1, .proceed 0]
    let reports := ((reporting adasTcp).final
      (reportingStarted (freshWorld adasTcp) none) inputs).reports
    (reports.map fun b => b.report.msgbuf.read 0 4) =
        [[0, 0, 0, 1], [0, 0, 0, 2]] ∧
      (reports.map fun b => b.report.msgbuf.read 0 4).Nodup := by
  intro inputs reports
  have hkeeps : (reporting adasTcp).EachStep KeepsWarningId
      (reportingStarted (freshWorld adasTcp) none) inputs := by
    decide +kernel
  have hids : (reports.map fun b => b.report.msgbuf.read 0 4) =
      [[0, 0, 0, 1], [0, 0, 0, 2]] := by
    decide +kernel
  have hlength : reports.length = 2 := by
    rw [← List.length_map, hids]
    rfl
  exact ⟨hids, (warningIds_consecutive adasTcp (freshWorld adasTcp) none
    hkeeps).2 (by rw [hlength]; decide)⟩

end SanbaoProt
