import Mathlib.Data.List.TakeWhile
import SanbaoProt.Device.ReportPhases

/-!
# Media ids

At start-up the media counter is set to the greatest id in the names of the
media files.  From then on every report under construction takes its ids from
the one counter, block by block, in whatever order the threads come to it.  So
the ids of a run are consecutive, and each report lists those that were handed
out for it.
-/

namespace SanbaoProt

open Library

/-! ## File names -/

/-- The last `width` decimal digits of a number. -/
def decimal : Nat → Nat → List Char
  | 0, _ => []
  | width + 1, n => decimal width (n / 10) ++ [Nat.digitChar (n % 10)]

/-- `%010u`; an id has at most ten digits. -/
def mmFileName (id : UInt32) : List Char := decimal 10 id.toNat

def digitsValue (digits : List Char) : Nat :=
  digits.foldl (fun n c => n * 10 + (c.toNat - '0'.toNat)) 0

def isSpace (c : Char) : Bool := c = ' ' ∨ '\t' ≤ c ∧ c ≤ '\r'

/-- `strtol` to the base 10, for a `long` of 64 bits. -/
def strtol (name : List Char) : Int :=
  let start := name.dropWhile isSpace
  let value (digits : List Char) : Int :=
    digitsValue (digits.takeWhile Char.isDigit)
  if start.head? = some '-' then max (-2 ^ 63) (-value start.tail)
  else if start.head? = some '+' then min (2 ^ 63 - 1) (value start.tail)
  else min (2 ^ 63 - 1) (value start)

def getFileId (filename : List Char) : UInt32 :=
  UInt32.ofInt (strtol filename)

structure DirEntry where
  name : List Char
  isDir : Bool
  deriving DecidableEq, Repr

def maxFileId (maxid : UInt32) (e : DirEntry) : UInt32 :=
  if e.isDir then maxid
  else if maxid > getFileId e.name then maxid
  else getFileId e.name

/-- `none` for a directory that cannot be opened. -/
def getmmFileNumMax : Option (List DirEntry) → UInt32
  | none => 0xFFFFFFFF
  | some entries => entries.foldl maxFileId 0

/-- The media counter after `global_var_init`, and whether the media files are
removed. -/
def startMmId (dir : Option (List DirEntry)) : UInt32 × Bool :=
  if getmmFileNumMax dir = 0xFFFFFFFF then (0, true)
  else (getmmFileNumMax dir, false)

theorem isDigit_decimal {width n : Nat} :
    ∀ c ∈ decimal width n, c.isDigit = true := by
  induction width generalizing n with
  | zero => nofun
  | succ width ih =>
      intro c hc
      rcases List.mem_append.mp hc with hbefore | hlast
      · exact ih c hbefore
      · rw [List.mem_singleton.mp hlast, Nat.isDigit_digitChar]
        exact decide_eq_true (Nat.mod_lt n (by decide))

theorem digitsValue_decimal {width n : Nat} (h : n < 10 ^ width) :
    digitsValue (decimal width n) = n := by
  induction width generalizing n with
  | zero =>
      have hzero : n = 0 := by simpa using h
      rw [hzero]
      rfl
  | succ width ih =>
      have hdiv : n / 10 < 10 ^ width := by
        apply Nat.div_lt_of_lt_mul
        rwa [pow_succ, Nat.mul_comm] at h
      have hbefore := ih hdiv
      have hlast : (Nat.digitChar (n % 10)).toNat = 48 + n % 10 :=
        Nat.toNat_digitChar_of_lt_ten (Nat.mod_lt n (by decide))
      have hzero : '0'.toNat = 48 := rfl
      unfold digitsValue at hbefore ⊢
      rw [decimal, List.foldl_append, hbefore, List.foldl_cons, hlast,
        List.foldl_nil, hzero]
      omega

theorem isDigit_apart {c : Char} (h : c.isDigit = true) :
    isSpace c = false ∧ c ≠ '-' ∧ c ≠ '+' := by
  have hlow : 48 ≤ c.toNat := by
    simp only [Char.isDigit, Bool.and_eq_true, decide_eq_true_eq] at h
    exact UInt32.le_iff_toNat_le.mp h.1
  refine ⟨?_, ?_, ?_⟩
  · have hspace : c ≠ ' ' := by
      rintro rfl
      exact absurd hlow (by decide)
    have hbelow : ¬ c ≤ '\r' := by
      intro hle
      have hle' : c.toNat ≤ 13 := UInt32.le_iff_toNat_le.mp hle
      omega
    simp [isSpace, hspace, hbelow]
  · rintro rfl
    exact absurd hlow (by decide)
  · rintro rfl
    exact absurd hlow (by decide)

theorem strtol_of_digits {name : List Char}
    (hdigits : ∀ c ∈ name, c.isDigit = true)
    (hvalue : digitsValue name < 2 ^ 63) :
    strtol name = digitsValue name := by
  have htake : name.takeWhile Char.isDigit = name :=
    List.takeWhile_eq_self_iff.mpr hdigits
  have hstart : name.dropWhile isSpace = name ∧
      name.head? ≠ some '-' ∧ name.head? ≠ some '+' := by
    cases name with
    | nil => exact ⟨rfl, nofun, nofun⟩
    | cons c name =>
        obtain ⟨hspace, hminus, hplus⟩ :=
          isDigit_apart (hdigits c List.mem_cons_self)
        refine ⟨List.dropWhile_cons_of_neg (by rw [hspace]; decide), ?_, ?_⟩
        · exact fun h => hminus (Option.some.inj h)
        · exact fun h => hplus (Option.some.inj h)
  obtain ⟨hdrop, hminus, hplus⟩ := hstart
  simp only [strtol, hdrop, if_neg hminus, if_neg hplus, htake]
  omega

/-- The name of a media file is read as its id. -/
theorem getFileId_mmFileName (id : UInt32) :
    getFileId (mmFileName id) = id := by
  have hlt := id.toNat_lt
  have hvalue : digitsValue (mmFileName id) = id.toNat :=
    digitsValue_decimal (by omega)
  have hdigits : ∀ c ∈ mmFileName id, c.isDigit = true := isDigit_decimal
  have hread : strtol (mmFileName id) = id.toNat := by
    rw [strtol_of_digits hdigits (by omega), hvalue]
  have hmod : (id.toNat : Int) % 2 ^ 32 = id.toNat := by omega
  rw [getFileId, hread, UInt32.ofInt, hmod, Int.toNat_natCast,
    UInt32.ofNat_toNat]

/-! ## The counter at start-up -/

theorem le_maxFileId (maxid : UInt32) (e : DirEntry) :
    maxid ≤ maxFileId maxid e ∧
      (e.isDir = false → getFileId e.name ≤ maxFileId maxid e) ∧
      (maxFileId maxid e = maxid ∨
        e.isDir = false ∧ maxFileId maxid e = getFileId e.name) := by
  unfold maxFileId
  split_ifs with hdir hgreater
  · exact ⟨UInt32.le_refl _, fun h => absurd (hdir.symm.trans h) nofun,
      .inl rfl⟩
  · exact ⟨UInt32.le_refl _, fun _ => UInt32.le_of_lt hgreater, .inl rfl⟩
  · exact ⟨UInt32.not_lt.mp hgreater, fun _ => UInt32.le_refl _,
      .inr ⟨by simpa using hdir, rfl⟩⟩

theorem foldl_maxFileId (entries : List DirEntry) (maxid : UInt32) :
    maxid ≤ entries.foldl maxFileId maxid ∧
      (∀ e ∈ entries, e.isDir = false →
        getFileId e.name ≤ entries.foldl maxFileId maxid) ∧
      (entries.foldl maxFileId maxid = maxid ∨
        ∃ e ∈ entries, e.isDir = false ∧
          entries.foldl maxFileId maxid = getFileId e.name) := by
  induction entries generalizing maxid with
  | nil => exact ⟨UInt32.le_refl _, nofun, .inl rfl⟩
  | cons e entries ih =>
      obtain ⟨hgrows, hfile, hown⟩ := le_maxFileId maxid e
      obtain ⟨hgrows', hfiles, hown'⟩ := ih (maxFileId maxid e)
      rw [List.foldl_cons]
      refine ⟨UInt32.le_trans hgrows hgrows', ?_, ?_⟩
      · intro e' he' hdir
        rcases List.mem_cons.mp he' with rfl | hlater
        · exact UInt32.le_trans (hfile hdir) hgrows'
        · exact hfiles e' hlater hdir
      · rcases hown' with hsame | ⟨e', he', hdir, hmax⟩
        · rw [hsame]
          rcases hown with hkept | ⟨hdir, hmax⟩
          · exact .inl hkept
          · exact .inr ⟨e, List.mem_cons_self, hdir, hmax⟩
        · exact .inr ⟨e', List.mem_cons_of_mem e he', hdir, hmax⟩

/-- Every file is named after an id below the greatest one. -/
def NamedById (entries : List DirEntry) : Prop :=
  ∀ e ∈ entries, e.isDir = false →
    ∃ id : UInt32, id < 0xFFFFFFFF ∧ e.name = mmFileName id

/-- The counter starts at the greatest id of a file. -/
theorem startMmId_spec {entries : List DirEntry} (h : NamedById entries) :
    startMmId (some entries) =
        (getmmFileNumMax (some entries), false) ∧
      ∀ id, ⟨mmFileName id, false⟩ ∈ entries →
        id ≤ (startMmId (some entries)).1 := by
  obtain ⟨-, hfiles, hown⟩ := foldl_maxFileId entries 0
  have hmax : getmmFileNumMax (some entries) ≠ 0xFFFFFFFF := by
    intro hfull
    change entries.foldl maxFileId 0 = _ at hfull
    rw [hfull] at hown
    rcases hown with hzero | ⟨e, he, hdir, hid⟩
    · exact absurd hzero (by decide)
    · obtain ⟨id, hlt, hname⟩ := h e he hdir
      rw [hname, getFileId_mmFileName] at hid
      rw [← hid] at hlt
      exact absurd hlt (by decide)
  have hstart : startMmId (some entries) =
      (getmmFileNumMax (some entries), false) := if_neg hmax
  refine ⟨hstart, fun id hid => ?_⟩
  have hle := hfiles _ hid rfl
  rw [getFileId_mmFileName] at hle
  rw [hstart]
  exact hle

def reportingStarted (w : World) (dir : Option (List DirEntry)) : Reporting where
  world := { w with ids := { w.ids with mmId := (startMmId dir).1 } }
  reports := []

/-! ## All reports of a run -/

theorem getNextMmIds_increase {num : Nat} {sMmId : UInt32}
    (h : sMmId.toNat + num < 2 ^ 32) :
    (getNextMmIds num sMmId).1.Pairwise (· < ·) := by
  induction num generalizing sMmId with
  | zero => exact List.Pairwise.nil
  | succ num ih =>
      have hnext : (sMmId + 1).toNat = sMmId.toNat + 1 :=
        @toNat_add_ofNat sMmId 1 (by omega)
      refine List.pairwise_cons.mpr ⟨fun id hid => ?_, ih (by omega)⟩
      exact UInt32.lt_iff_toNat_lt.mpr
        ((mem_getNextMmIds (by omega)).mp hid).1

structure Consistent (s : Reporting) (outputs : List (Nat × UInt32)) :
    Prop where
  numbers : ∀ o ∈ outputs, o.1 < s.reports.length
  issued : ∀ number b, s.reports[number]? = some b →
    b.statusFlag ≠ sbWarnStatusEnd →
      ∃ total, total.length ≤ 255 ∧
        ListsIssued total (fun _ _ => True) number s outputs

theorem Building.next_statusFlag (target : Target) (w : World)
    (b : Building) : (b.next target w).2.1.statusFlag = b.statusFlag := by
  unfold Building.next
  cases b.todo with
  | nil => rfl
  | cons p todo => rfl

/-- The reports after a step: those before it, and perhaps a new one. -/
theorem reporting_reports (target : Target) (s : Reporting) (i : ReportInput)
    {number : Nat} {b : Building}
    (hb : ((reporting target).step s i).1.reports[number]? = some b) :
    (∃ before, s.reports[number]? = some before ∧
        before.statusFlag = b.statusFlag) ∨
      ∃ type msgbuf, i = .start type b.statusFlag msgbuf ∧
        number = s.reports.length := by
  cases i with
  | others world => exact .inl ⟨b, hb, rfl⟩
  | start type statusFlag msgbuf =>
      by_cases hnumber : number < s.reports.length
      · refine .inl ⟨b, ?_, rfl⟩
        rw [← hb]
        exact (List.getElem?_append_left hnumber).symm
      · have hnew : [_][number - s.reports.length]? = some b :=
          (List.getElem?_append_right (Nat.le_of_not_lt hnumber)).symm.trans hb
        obtain ⟨hzero, rfl⟩ := List.getElem?_eq_some_iff.mp hnew
        rw [List.length_singleton] at hzero
        refine .inr ⟨type, msgbuf, ?_, by omega⟩
        simp
  | proceed other =>
      simp only [reporting] at hb
      cases hother : s.reports[other]? with
      | none =>
          rw [hother] at hb
          exact .inl ⟨b, hb, rfl⟩
      | some before =>
          simp only [hother] at hb
          by_cases hsame : other = number
          · subst hsame
            obtain ⟨hlt, -⟩ := List.getElem?_eq_some_iff.mp hother
            rw [List.getElem?_set_self hlt] at hb
            refine .inl ⟨before, hother, ?_⟩
            rw [← Option.some.inj hb, before.next_statusFlag]
          · rw [List.getElem?_set_ne hsame] at hb
            exact .inl ⟨b, hb, rfl⟩

/-- Ids are handed out for reports that have been begun. -/
theorem reporting_numbers (target : Target) (s : Reporting)
    (i : ReportInput) :
    s.reports.length ≤ ((reporting target).step s i).1.reports.length ∧
      ∀ o ∈ ((reporting target).step s i).2, o.1 < s.reports.length := by
  cases i with
  | start type statusFlag msgbuf =>
      refine ⟨?_, fun _ ho => absurd ho List.not_mem_nil⟩
      simp [reporting]
  | others world =>
      exact ⟨Nat.le_refl _, fun _ ho => absurd ho List.not_mem_nil⟩
  | proceed number =>
      simp only [reporting]
      cases hnumber : s.reports[number]? with
      | none =>
          exact ⟨Nat.le_refl _, fun _ ho => absurd ho List.not_mem_nil⟩
      | some b =>
          obtain ⟨hlt, -⟩ := List.getElem?_eq_some_iff.mp hnumber
          refine ⟨(List.length_set ..).ge, fun o ho => ?_⟩
          obtain ⟨id, -, rfl⟩ := List.mem_map.mp ho
          exact hlt

theorem Consistent.step {s : Reporting} {outputs : List (Nat × UInt32)}
    (h : Consistent s outputs) (target : Target) (i : ReportInput) :
    Consistent ((reporting target).step s i).1
      (outputs ++ ((reporting target).step s i).2) := by
  obtain ⟨hlength, hnew⟩ := reporting_numbers target s i
  constructor
  · intro o ho
    rcases List.mem_append.mp ho with hbefore | hnow
    · exact (h.numbers o hbefore).trans_le hlength
    · exact (hnew o hnow).trans_le hlength
  · intro number b hb hend
    rcases reporting_reports target s i hb with
      ⟨before, hbefore, hstatus⟩ | ⟨type, msgbuf, rfl, rfl⟩
    · obtain ⟨total, htotal, hissued⟩ :=
        h.issued number before hbefore (hstatus ▸ hend)
      exact ⟨total, htotal,
        hissued.step htotal (fun _ _ _ _ _ => trivial) i⟩
    · refine ⟨_, target.build.length_listedTypes type hend s.world.para, ?_⟩
      change ListsIssued _ _ _ _ (outputs ++ [])
      rw [List.append_nil]
      exact .start target s hend msgbuf h.numbers trivial

theorem reportingStarted_consistent (w : World)
    (dir : Option (List DirEntry)) :
    Consistent (reportingStarted w dir) [] where
  numbers o ho := absurd ho List.not_mem_nil
  issued number b hb := absurd hb (by simp [reportingStarted])

theorem Consistent.run {s : Reporting} {outputs : List (Nat × UInt32)}
    (h : Consistent s outputs) (target : Target) (inputs : List ReportInput) :
    Consistent ((reporting target).final s inputs)
      (outputs ++ (reporting target).outputs s inputs) := by
  induction inputs generalizing s outputs with
  | nil =>
      rw [Mealy.outputs_nil, List.append_nil]
      exact h
  | cons i inputs ih =>
      rw [Mealy.final_cons, Mealy.outputs_cons, ← List.append_assoc]
      exact ih (h.step target i)

/-- The ids in a report, unless it ends an event. -/
def Building.listedIds (b : Building) : List UInt32 :=
  if b.statusFlag ≠ sbWarnStatusEnd then b.report.mediaList.map Prod.snd
  else []

theorem Consistent.listed {s : Reporting} {outputs : List (Nat × UInt32)}
    (h : Consistent s outputs) {number : Nat} {b : Building}
    (hb : s.reports[number]? = some b)
    (hend : b.statusFlag ≠ sbWarnStatusEnd) :
    b.report.mediaList.map Prod.snd = idsOf number outputs := by
  obtain ⟨total, -, b', entries, hb', hlisting, hids, -⟩ :=
    h.issued number b hb hend
  obtain rfl := Option.some.inj (hb.symm.trans hb')
  rw [hlisting.lists.mediaList, hids]

theorem Consistent.listedIds {s : Reporting} {outputs : List (Nat × UInt32)}
    (h : Consistent s outputs) {number : Nat} {b : Building}
    (hb : s.reports[number]? = some b) :
    b.listedIds = idsOf number outputs ∨ b.listedIds = [] := by
  unfold Building.listedIds
  split_ifs with hlisted
  · exact .inl (h.listed hb hlisted)
  · exact .inr rfl

theorem mem_idsOf {number : Nat} {outputs : List (Nat × UInt32)}
    {id : UInt32} : id ∈ idsOf number outputs ↔ (number, id) ∈ outputs := by
  constructor
  · intro h
    obtain ⟨⟨other, id'⟩, ho, rfl⟩ := List.mem_map.mp h
    obtain ⟨hmem, hother⟩ := List.mem_filter.mp ho
    obtain rfl := of_decide_eq_true hother
    exact hmem
  · intro h
    exact List.mem_map.mpr
      ⟨(number, id), List.mem_filter.mpr ⟨h, decide_eq_true rfl⟩, rfl⟩

/-- No id is listed twice, neither in one report nor in two. -/
theorem Consistent.nodup {s : Reporting} {outputs : List (Nat × UInt32)}
    (h : Consistent s outputs) (hids : (outputs.map Prod.snd).Nodup) :
    (s.reports.flatMap Building.listedIds).Nodup := by
  rw [List.nodup_flatMap]
  constructor
  · intro b hb
    obtain ⟨number, hnumber⟩ := List.getElem?_of_mem hb
    rcases h.listedIds hnumber with hlisted | hnone
    · rw [hlisted]
      exact hids.sublist (List.filter_sublist.map _)
    · rw [hnone]
      exact List.nodup_nil
  · rw [List.pairwise_iff_getElem]
    intro first second hfirst hsecond hlt id hid hid'
    have hmem : ∀ number (hnumber : number < s.reports.length),
        id ∈ (s.reports[number]).listedIds → (number, id) ∈ outputs := by
      intro number hnumber hid
      rcases h.listedIds (List.getElem?_eq_getElem hnumber) with
        hlisted | hnone
      · rw [hlisted] at hid
        exact mem_idsOf.mp hid
      · rw [hnone] at hid
        cases hid
    have hsame := List.inj_on_of_nodup_map hids (hmem first hfirst hid)
      (hmem second hsecond hid') rfl
    exact Nat.ne_of_lt hlt (congrArg Prod.fst hsame)

/-- The ids of a run increase, lie above those of the files, and are listed
once each by the report that they were handed out for. -/
theorem mediaIds_fresh (target : Target) (w : World)
    {entries : List DirEntry} (hnames : NamedById entries)
    {inputs : List ReportInput}
    (hwrap : (startMmId (some entries)).1.toNat +
      ((reporting target).outputs (reportingStarted w (some entries))
        inputs).length < 2 ^ 32) :
    let started := reportingStarted w (some entries)
    let outputs := (reporting target).outputs started inputs
    let reports := ((reporting target).final started inputs).reports
    (outputs.map Prod.snd).Pairwise (· < ·) ∧
      (∀ o ∈ outputs, ∀ id, ⟨mmFileName id, false⟩ ∈ entries → id < o.2) ∧
      (∀ number b, reports[number]? = some b →
        b.statusFlag ≠ sbWarnStatusEnd →
          b.report.mediaList.map Prod.snd = idsOf number outputs) ∧
      (reports.flatMap Building.listedIds).Nodup := by
  intro started outputs reports
  have hids : outputs.map Prod.snd =
      (getNextMmIds outputs.length started.world.ids.mmId).1 :=
    (reportingRun_ids target started inputs).1
  have hincrease : (outputs.map Prod.snd).Pairwise (· < ·) := by
    rw [hids]
    exact getNextMmIds_increase hwrap
  have hrun : Consistent ((reporting target).final started inputs) outputs :=
    (reportingStarted_consistent w (some entries)).run target inputs
  refine ⟨hincrease, ?_, ?_, ?_⟩
  · intro o ho id hid
    have hle := UInt32.le_iff_toNat_le.mp ((startMmId_spec hnames).2 id hid)
    have hmem : o.2 ∈ (getNextMmIds outputs.length _).1 :=
      hids ▸ List.mem_map_of_mem ho
    have hgreater := ((mem_getNextMmIds hwrap).mp hmem).1
    exact UInt32.lt_iff_toNat_lt.mpr (hle.trans_lt hgreater)
  · intro number b hb hend
    exact hrun.listed hb hend
  · exact hrun.nodup (hincrease.imp fun hlt => UInt32.ne_of_lt hlt)

/-- The default parameters; a lane departure and a snapshot at the same time,
beside two old files. -/
theorem mediaIds_fresh_twoThreads :
    let entries : List DirEntry :=
      [⟨mmFileName 7, false⟩, ⟨['.'], true⟩, ⟨mmFileName 3, false⟩]
    let inputs : List ReportInput :=
      [.start sbWarnTypeLdw sbWarnStatusNone fun _ => 0,
        .start sbWarnTypeSnap sbWarnStatusNone fun _ => 0, .proceed 0,
        .proceed 1, .proceed 0]
    let started := reportingStarted (freshWorld adasTcp) (some entries)
    let outputs := (reporting adasTcp).outputs started inputs
    let reports := ((reporting adasTcp).final started inputs).reports
    outputs = [(0, 8), (0, 9), (0, 10), (1, 11), (1, 12), (1, 13), (0, 14)] ∧
      (outputs.map Prod.snd).Pairwise (· < ·) ∧ (∀ o ∈ outputs, 7 < o.2) ∧
      reports.map (fun b => b.report.mediaList.map Prod.snd) =
        [[8, 9, 10, 14], [11, 12, 13]] ∧
      (reports.flatMap Building.listedIds).Nodup := by
  intro entries inputs started outputs reports
  have hnames : NamedById entries := by
    intro e he hdir
    simp only [entries, List.mem_cons, List.not_mem_nil, or_false] at he
    rcases he with rfl | rfl | rfl
    · exact ⟨7, by decide, rfl⟩
    · cases hdir
    · exact ⟨3, by decide, rfl⟩
  have hrun : outputs =
      [(0, 8), (0, 9), (0, 10), (1, 11), (1, 12), (1, 13), (0, 14)] := by
    decide +kernel
  have hwrap : (startMmId (some entries)).1.toNat + outputs.length <
      2 ^ 32 := by
    rw [hrun]
    decide +kernel
  obtain ⟨hincrease, hnew, hlisted, hdistinct⟩ :=
    mediaIds_fresh adasTcp (freshWorld adasTcp) hnames hwrap
  refine ⟨hrun, hincrease, fun o ho => ?_, ?_, hdistinct⟩
  · exact hnew o ho 7 (List.mem_cons_self ..)
  · obtain ⟨ldw, snap, hreports, hldw, hsnap⟩ : ∃ ldw snap,
        reports = [ldw, snap] ∧ ldw.statusFlag ≠ sbWarnStatusEnd ∧
          snap.statusFlag ≠ sbWarnStatusEnd :=
      ⟨_, _, rfl, by decide +kernel, by decide +kernel⟩
    have hget : reports[0]? = some ldw ∧ reports[1]? = some snap := by
      rw [hreports]
      exact ⟨rfl, rfl⟩
    have hfirst : _ = idsOf 0 outputs := hlisted 0 ldw hget.1 hldw
    have hsecond : _ = idsOf 1 outputs := hlisted 1 snap hget.2 hsnap
    rw [hrun] at hfirst hsecond
    rw [hreports, List.map_cons, List.map_singleton, hfirst, hsecond]
    decide

end SanbaoProt
