import SanbaoProt.Device.ParaFailure
import SanbaoProt.Device.ParaSetting
import SanbaoProt.Library.Register

/-!
# Parameters as durable registers

Seen from the host each field of the parameters is a register of its own, with
the parameter file as its copy: a set of the host writes the fields that are
not all ones, a factory reset writes all of them, and the program loads the
copy when it is started again.  `own_registers` says so of every run; what
`GET_PARAM` then reads are the registers.
-/

namespace SanbaoProt

open Library

/-! ## The registers of a device -/

section Registers

variable (b : Build) (field : Packed.Field b.paraSize)

def paraRegister : Register Nat where
  settle := RangeCheck.settled b.rangeChecks field
  blank := 0
  fresh := field.value b.paraDefaults

/-- What start up will make of the field. -/
def fileCopy (file : Option (List UInt8)) : Copy Nat :=
  match file with
  | none => .missing
  | some content =>
      if content.length < b.paraSize then .unreadable
      else .readable (field.value
        (b.writeDevPara (Packed.ofList _ (content.take b.paraSize))
          fun _ => 0))

variable {b}

def OwnPara.register (s : OwnPara b) : Register.State Nat :=
  ⟨field.value s.store, fileCopy b field s.file⟩

def SavesAll (b : Build) (outcome : Option Nat) : Prop :=
  ∃ nb, outcome = some nb ∧ b.paraSize ≤ nb

instance (b : Build) (outcome : Option Nat) :
    Decidable (SavesAll b outcome) :=
  match outcome with
  | none => .isFalse (by rintro ⟨nb, ⟨⟩, -⟩)
  | some nb =>
      decidable_of_iff (b.paraSize ≤ nb)
        ⟨fun h => ⟨nb, rfl, h⟩, by rintro ⟨nb', ⟨⟩, h⟩; exact h⟩

/-- What an outcome of `write_file` makes of the copy. -/
def savingOf (b : Build) (outcome : Option Nat) : Saving :=
  if outcome = none then .kept
  else if SavesAll b outcome then .stored
  else .spoiled

def setField (para : Packed b.paraSize) : Option Nat :=
  if field.value para = field.ones then none else some (field.value para)

/-! ### A write -/

variable {field}

theorem rangeChecks_fallBack (b : Build) :
    ∀ c ∈ b.rangeChecks, c.FallsBack := by
  cases b with
  | adas => exact AdasPara.checks_fallBack
  | dms => exact fun _ hc => absurd hc List.not_mem_nil

theorem value_writeDevPara (hfield : field ∈ Packed.fields b.paraWords)
    (para store : Packed b.paraSize) :
    field.value (b.writeDevPara para store) =
      (paraRegister b field).settle
        ((setField field para).getD (field.value store)) := by
  rw [Build.writeDevPara, b.value_paraCheck _ hfield,
    Packed.value_merge b.paraWords_apart para store hfield]
  unfold setField paraRegister
  split_ifs <;> rfl

theorem settle_written (hfield : field ∈ Packed.fields b.paraWords)
    (para store : Packed b.paraSize) :
    (paraRegister b field).settle (field.value (b.writeDevPara para store)) =
      field.value (b.writeDevPara para store) := by
  rw [value_writeDevPara hfield]
  exact RangeCheck.settled_settled (rangeChecks_fallBack b) field _

theorem fileCopy_toList (store : Packed b.paraSize) :
    fileCopy b field (some store.toList) =
      .readable (field.value (b.writeDevPara store fun _ => 0)) := by
  have hall : store.toList.take b.paraSize = store.toList :=
    List.take_of_length_le (Packed.length_toList store).le
  simp [fileCopy, hall]

theorem fileCopy_short {content : List UInt8}
    (h : content.length < b.paraSize) :
    fileCopy b field (some content) = .unreadable :=
  if_pos h

/-- A store that start up restores is saved, or the copy is spoiled. -/
theorem fileCopy_writeFile {store : Packed b.paraSize}
    (hrestored : b.writeDevPara store (fun _ => 0) = store)
    (outcome : Option Nat) (file : Option (List UInt8)) :
    fileCopy b field (writeFile outcome file store.toList).2 =
      Register.save (field.value store) (fileCopy b field file)
        (savingOf b outcome) := by
  cases outcome with
  | none => rfl
  | some nb =>
      by_cases hnb : b.paraSize ≤ nb
      · have hsaves : SavesAll b (some nb) := ⟨nb, rfl, hnb⟩
        have hall : store.toList.take nb = store.toList :=
          List.take_of_length_le (by rwa [Packed.length_toList])
        rw [savingOf, if_neg (Option.some_ne_none nb), if_pos hsaves,
          writeFile, hall, fileCopy_toList, hrestored]
        rfl
      · have hspoils : ¬ SavesAll b (some nb) := by
          rintro ⟨nb', ⟨⟩, h⟩
          exact hnb h
        rw [savingOf, if_neg (Option.some_ne_none nb), if_neg hspoils,
          writeFile, fileCopy_short]
        · rfl
        · rw [List.length_take, Packed.length_toList]
          omega

theorem OwnPara.save_register (hfield : field ∈ Packed.fields b.paraWords)
    {s : OwnPara b} (h : Packed.NoOnes b.paraWords s.store)
    (para : Packed b.paraSize) (outcome : Option Nat) :
    (s.save para outcome).register field =
      (paraRegister b field).step (s.register field)
        (.write (setField field para) (savingOf b outcome)) := by
  have hvalue := value_writeDevPara hfield para s.store
  have hcopy := @fileCopy_writeFile b field _
    (b.writeDevPara_again para h fun _ => 0) outcome s.file
  simp only [OwnPara.register, OwnPara.save, Register.step, hcopy, hvalue]

/-! ### A restart -/

def createdCopy (b : Build) (access : ParaFileAccess) : Option Bool :=
  if access.created then some (decide (SavesAll b access.write)) else none

theorem loadedPara_created {access : ParaFileAccess}
    (h : access.created = true) :
    loadedPara b access none = ⟨b.paraDefaults,
      (writeFile access.write (some []) b.paraDefaults.toList).2⟩ := by
  simp [loadedPara, readLocalParaFile, h, b.writeDevPara_defaults]

/-- The copy of a file that has just been created. -/
theorem fileCopy_created (outcome : Option Nat) :
    fileCopy b field
        (writeFile outcome (some []) b.paraDefaults.toList).2 =
      if decide (SavesAll b outcome) then
        .readable (field.value b.paraDefaults)
      else .unreadable := by
  have hempty : fileCopy b field (some []) = .unreadable :=
    fileCopy_short (by cases b <;> decide)
  rw [fileCopy_writeFile (b.writeDevPara_defaults _), hempty, savingOf]
  by_cases hnone : outcome = none
  · have hspoils : ¬ SavesAll b outcome := by
      rintro ⟨nb, hnb, -⟩
      rw [hnone] at hnb
      cases hnb
    rw [if_pos hnone, decide_eq_false hspoils]
    rfl
  · rw [if_neg hnone]
    by_cases hsaves : SavesAll b outcome
    · simp [hsaves, Register.save]
    · simp [hsaves, Register.save]

theorem loadedPara_register (access : ParaFileAccess) (value : Nat)
    (file : Option (List UInt8)) :
    (loadedPara b access file).register field =
      (paraRegister b field).step ⟨value, fileCopy b field file⟩
        (.restart (createdCopy b access)) := by
  have hblank : field.value (fun _ => 0) = 0 := by
    cases field <;> rfl
  cases file with
  | none =>
      cases hcreated : access.created with
      | false =>
          simp [loadedPara, readLocalParaFile, createdCopy, hcreated,
            OwnPara.register, Register.step, fileCopy, hblank, paraRegister]
      | true =>
          rw [loadedPara_created hcreated, OwnPara.register, fileCopy_created]
          simp [createdCopy, hcreated, Register.step, fileCopy, paraRegister]
  | some content =>
      by_cases hshort : content.length < b.paraSize
      · simp [loadedPara, readLocalParaFile, hshort, OwnPara.register,
          Register.step, fileCopy, hblank, paraRegister]
      · simp [loadedPara, readLocalParaFile, hshort, OwnPara.register,
          Register.step, fileCopy]

end Registers

/-! ## Runs with restarts -/

inductive ParaInput where
  | frame (r : Received)
  | others (changed : World)
  /-- The program is started again. -/
  | restart (access : ParaFileAccess)

def paraRuns (target : Target) : Mealy World ParaInput Effect where
  step w
    | .frame r => (device target).step w r
    | .others changed =>
        ({ changed with para := w.para, files := w.files }, [])
    | .restart access => (startedWorld target access w.files, [])

section Runs

variable (target : Target) {field : Packed.Field target.build.paraSize}

/-- What an input is to the register of a field, if anything. -/
def paraOp (field : Packed.Field target.build.paraSize) :
    ParaInput → Option (Register.Op Nat)
  | .frame r => (writtenPara target r).map fun para =>
      .write (setField field para) (savingOf target.build r.env.paraWrite)
  | .others _ => none
  | .restart access => some (.restart (createdCopy target.build access))

def World.paraNoOnes (w : World) : Prop :=
  Packed.NoOnes target.build.paraWords (w.para.own target.build)

theorem paraRuns_register (hfield : field ∈ Packed.fields
    target.build.paraWords) {w : World} (h : w.paraNoOnes target)
    (i : ParaInput) :
    let w' := ((paraRuns target).step w i).1
    w'.paraNoOnes target ∧
      (w'.ownPara target.build).register field =
        (paraRegister target.build field).run
          ((w.ownPara target.build).register field)
          (paraOp target field i).toList := by
  intro w'
  cases i with
  | frame r =>
      obtain ⟨hown, -⟩ := device_ownPara target w r
      change w'.ownPara target.build = _ at hown
      have hstore : w'.para.own target.build = _ :=
        congrArg OwnPara.store hown
      simp only [paraOp]
      cases hwritten : writtenPara target r with
      | none =>
          rw [hwritten] at hown hstore
          rw [World.paraNoOnes, hstore, hown]
          exact ⟨h, rfl⟩
      | some para =>
          rw [hwritten] at hown hstore
          rw [World.paraNoOnes, hstore, hown]
          exact ⟨target.build.writeDevPara_noOnes para h,
            OwnPara.save_register hfield (s := w.ownPara target.build) h para
              r.env.paraWrite⟩
  | others changed => exact ⟨h, rfl⟩
  | restart access =>
      obtain ⟨hown, -⟩ := startedWorld_ownPara target access w.files
      change w'.ownPara target.build = _ at hown
      have hstore : w'.para.own target.build = _ :=
        congrArg OwnPara.store hown
      rw [World.paraNoOnes, hstore, hown]
      exact ⟨loadedPara_noOnes target.build access _,
        loadedPara_register access _ _⟩

/-- Each field follows its own register. -/
theorem own_registers (hfield : field ∈ Packed.fields target.build.paraWords)
    {w : World} (h : w.paraNoOnes target) (inputs : List ParaInput) :
    (((paraRuns target).final w inputs).ownPara target.build).register field =
      (paraRegister target.build field).run
        ((w.ownPara target.build).register field)
        (inputs.filterMap (paraOp target field)) := by
  induction inputs generalizing w with
  | nil => rfl
  | cons i inputs ih =>
      obtain ⟨hnext, hstep⟩ := paraRuns_register target hfield h i
      rw [Mealy.final_cons, ih hnext, hstep]
      cases hop : paraOp target field i with
      | none => rw [List.filterMap_cons_none hop]; rfl
      | some op => rw [List.filterMap_cons_some hop]; rfl

theorem startedWorld_paraNoOnes (access : ParaFileAccess)
    (files : ParaFiles) :
    (startedWorld target access files).paraNoOnes target := by
  have hown := congrArg OwnPara.store
    (startedWorld_ownPara target access files).1
  change (startedWorld target access files).para.own target.build = _ at hown
  rw [World.paraNoOnes, hown]
  exact loadedPara_noOnes target.build access _

/-! ## What the host reads -/

variable {target}

/-- `GET_PARAM` reads the registers, whatever was received, saved, spoiled and
loaded before. -/
theorem getPara_reads (access : ParaFileAccess) (files : ParaFiles)
    (inputs : List ParaInput) {g : Frame} {s : Received}
    (hget : GetParaFrame target g) (hs : s.Carries g) :
    let w := (paraRuns target).final (startedWorld target access files) inputs
    ∃ reply node,
      ((device target).step w s).2 = [.send sampleCmdGetParam reply node] ∧
        reply.length = target.build.paraSize ∧
        ∀ field ∈ Packed.fields target.build.paraWords,
          field.netValue (Packed.ofList _ reply) =
            ((paraRegister target.build field).run
              ⟨0, fileCopy target.build field (files.own target.build)⟩
              ((ParaInput.restart access :: inputs).filterMap
                (paraOp target field))).value := by
  intro w
  obtain ⟨node, hreply⟩ := getPara_replies hget hs w
  refine ⟨_, node, hreply, Packed.length_toList _, fun field hfield => ?_⟩
  have hruns := own_registers target hfield
    (startedWorld_paraNoOnes target access files) inputs
  rw [(startedWorld_ownPara target access files).1,
    loadedPara_register access 0] at hruns
  rw [Packed.ofList_toList,
    Packed.netValue_swap target.build.paraWords_apart _ hfield]
  exact congrArg Register.State.value hruns

/-- The smoke threshold is set to 255; only ten bytes of the file are written,
and nothing is left of it after a restart. -/
theorem getPara_reads_spoiled :
    let set : Received :=
      .ofFrame { Env.plain with paraWrite := some 10 } setSmoke
    let w := (paraRuns dmsTcp).final
      (startedWorld dmsTcp ⟨true, some 50⟩ ⟨none, none⟩)
      [.frame set, .restart ⟨true, some 50⟩]
    ∃ reply node, ((device dmsTcp).step w (.ofFrame Env.plain getPara)).2 =
        [.send sampleCmdGetParam reply node] ∧
      (Packed.Field.word DmsPara.smokeTimeIntervalThreshold).netValue
        (Packed.ofList 43 reply) = 0 := by
  intro set w
  have hget : GetParaFrame dmsTcp getPara := ⟨rfl, rfl, rfl⟩
  obtain ⟨reply, node, hreply, -, hvalues⟩ :=
    getPara_reads ⟨true, some 50⟩ ⟨none, none⟩
      [.frame set, .restart ⟨true, some 50⟩] hget
      (ofFrame_carries Env.plain getPara)
  have hfield : Packed.Field.word DmsPara.smokeTimeIntervalThreshold ∈
      Packed.fields DmsPara.words := by decide
  exact ⟨reply, node, hreply,
    (hvalues _ hfield).trans (by decide +kernel)⟩

/-- What an input writes to a field, if anything. -/
def writtenField (field : Packed.Field target.build.paraSize) :
    ParaInput → Option Nat
  | .frame r => (writtenPara target r).bind (setField field)
  | _ => none

/-- What the input writes is saved. -/
def ParaInput.Saves (target : Target) : ParaInput → Prop
  | .frame r =>
      (writtenPara target r).isSome → SavesAll target.build r.env.paraWrite
  | _ => True

/-- Start up loads a file of the full size or creates one. -/
def LoadsPara (b : Build) (access : ParaFileAccess) :
    Option (List UInt8) → Prop
  | none => access.created = true ∧ SavesAll b access.write
  | some content => b.paraSize ≤ content.length

theorem LoadsPara.saved {access : ParaFileAccess}
    {file : Option (List UInt8)} (h : LoadsPara target.build access file)
    (hfield : field ∈ Packed.fields target.build.paraWords) :
    ((loadedPara target.build access file).register field).Saved
      (paraRegister target.build field) := by
  cases file with
  | none =>
      obtain ⟨hcreated, hsaves⟩ := h
      have hdefaults := target.build.writeDevPara_defaults fun _ => 0
      rw [loadedPara_created hcreated, OwnPara.register, fileCopy_created,
        decide_eq_true hsaves]
      refine ⟨rfl, ?_⟩
      have hsettled :=
        settle_written hfield target.build.paraDefaults fun _ => 0
      rwa [hdefaults] at hsettled
  | some content =>
      have hlong : ¬ content.length < target.build.paraSize := Nat.not_lt.mpr h
      have hloaded : loadedPara target.build access (some content) =
          ⟨target.build.writeDevPara
            (Packed.ofList _ (content.take target.build.paraSize))
              fun _ => 0, some content⟩ := by
        simp [loadedPara, readLocalParaFile, hlong]
      rw [hloaded, OwnPara.register, fileCopy, if_neg hlong]
      exact ⟨rfl, settle_written hfield _ _⟩

theorem paraOp_saves {i : ParaInput} (h : i.Saves target) :
    ∀ op ∈ paraOp target field i, op.Saves := by
  intro op hop
  cases i with
  | frame r =>
      obtain ⟨para, hwritten, rfl⟩ := Option.map_eq_some_iff.mp hop
      have hsaves : SavesAll target.build r.env.paraWrite :=
        h (by rw [hwritten]; rfl)
      have hopened : r.env.paraWrite ≠ none := by
        obtain ⟨nb, hnb, -⟩ := hsaves
        rw [hnb]
        exact Option.some_ne_none nb
      exact (if_neg hopened).trans (if_pos hsaves)
  | others changed => cases hop
  | restart access =>
      obtain rfl := Option.some.inj hop
      trivial

theorem paraOp_written (i : ParaInput) :
    (paraOp target field i).bind Register.Op.written? =
      writtenField field i := by
  cases i with
  | frame r =>
      simp only [paraOp, writtenField]
      cases writtenPara target r <;> rfl
  | others changed => rfl
  | restart access => rfl

/-- As long as everything is saved, the host reads of each field what was last
written to it, brought into range, however often the program was started. -/
theorem getPara_lastWritten (access : ParaFileAccess) (files : ParaFiles)
    (hloads : LoadsPara target.build access (files.own target.build))
    {inputs : List ParaInput} (hsaved : ∀ i ∈ inputs, i.Saves target)
    {g : Frame} {s : Received} (hget : GetParaFrame target g)
    (hs : s.Carries g) :
    let start := startedWorld target access files
    let w := (paraRuns target).final start inputs
    ∃ reply node,
      ((device target).step w s).2 = [.send sampleCmdGetParam reply node] ∧
        reply.length = target.build.paraSize ∧
        ∀ field ∈ Packed.fields target.build.paraWords,
          field.netValue (Packed.ofList _ reply) =
            ((inputs.filterMap (writtenField field)).getLast?.map
              (RangeCheck.settled target.build.rangeChecks field)).getD
                (field.value (start.para.own target.build)) := by
  intro start w
  obtain ⟨node, hreply⟩ := getPara_replies hget hs w
  refine ⟨_, node, hreply, Packed.length_toList _, fun field hfield => ?_⟩
  have hruns := own_registers target hfield
    (startedWorld_paraNoOnes target access files) inputs
  have hown : start.ownPara target.build = _ :=
    (startedWorld_ownPara target access files).1
  have hstart : ((start.ownPara target.build).register field).Saved
      (paraRegister target.build field) := by
    rw [hown]
    exact hloads.saved hfield
  have hops : ∀ op ∈ inputs.filterMap (paraOp target field), op.Saves := by
    intro op hop
    obtain ⟨i, hi, hiop⟩ := List.mem_filterMap.mp hop
    exact paraOp_saves (hsaved i hi) op hiop
  have hlast := Register.run_lastWritten
    (RangeCheck.settled_settled (rangeChecks_fallBack target.build) field)
    hstart hops
  rw [List.filterMap_filterMap] at hlast
  simp only [paraOp_written] at hlast
  rw [Packed.ofList_toList,
    Packed.netValue_swap target.build.paraWords_apart _ hfield]
  exact (congrArg Register.State.value hruns).trans hlast

/-- The smoke threshold is set to 255, and still is after two restarts. -/
theorem getPara_lastWritten_smoke :
    let inputs : List ParaInput :=
      [.frame (.ofFrame Env.plain setSmoke), .restart ⟨false, none⟩,
        .restart ⟨false, none⟩]
    let w := (paraRuns dmsTcp).final
      (startedWorld dmsTcp ⟨true, some 50⟩ ⟨none, none⟩) inputs
    ∃ reply node, ((device dmsTcp).step w (.ofFrame Env.plain getPara)).2 =
        [.send sampleCmdGetParam reply node] ∧
      (Packed.Field.word DmsPara.smokeTimeIntervalThreshold).netValue
        (Packed.ofList 43 reply) = 255 := by
  intro inputs w
  have hget : GetParaFrame dmsTcp getPara := ⟨rfl, rfl, rfl⟩
  have hloads : LoadsPara dmsTcp.build ⟨true, some 50⟩ none :=
    ⟨rfl, by decide⟩
  have hsaved : ∀ i ∈ inputs, i.Saves dmsTcp := by
    intro i hi
    simp only [inputs, List.mem_cons, List.not_mem_nil, or_false] at hi
    rcases hi with rfl | rfl | rfl
    · exact fun _ => by decide
    · trivial
    · trivial
  obtain ⟨reply, node, hreply, -, hvalues⟩ :=
    getPara_lastWritten ⟨true, some 50⟩ ⟨none, none⟩ hloads hsaved hget
      (ofFrame_carries Env.plain getPara)
  have hfield : Packed.Field.word DmsPara.smokeTimeIntervalThreshold ∈
      Packed.fields DmsPara.words := by decide
  exact ⟨reply, node, hreply,
    (hvalues _ hfield).trans (by decide +kernel)⟩

end Runs

end SanbaoProt
