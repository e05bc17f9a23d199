import Mathlib.Data.List.Chain

/-!
# Machines with outputs

A component that handles one input at a time, keeping state between inputs, is
a `Mealy` machine.  The laws of a component are about whole runs: by
`runPieces_eq` a run does not depend on how its input is cut, `always_iff` takes
a step lemma to every state of a run, `isChain_outputs_iff` one to consecutive
outputs, and a `Simulation` carries the outputs of one machine over to another.
-/

namespace SanbaoProt.Library

structure Mealy (σ ι ο : Type*) where
  step : σ → ι → σ × List ο

namespace Mealy

variable {σ τ ι ο : Type*} (M : Mealy σ ι ο)

def run : σ → List ι → σ × List ο
  | s, [] => (s, [])
  | s, i :: inputs =>
      ((run (M.step s i).1 inputs).1,
        (M.step s i).2 ++ (run (M.step s i).1 inputs).2)

def final (s : σ) (inputs : List ι) : σ := (M.run s inputs).1

def outputs (s : σ) (inputs : List ι) : List ο := (M.run s inputs).2

/-- The input cut into pieces that are handled one call after the other. -/
def runPieces : σ → List (List ι) → σ × List ο
  | s, [] => (s, [])
  | s, piece :: pieces =>
      ((runPieces (M.final s piece) pieces).1,
        M.outputs s piece ++ (runPieces (M.final s piece) pieces).2)

@[simp] theorem final_nil (s : σ) : M.final s [] = s := rfl

@[simp] theorem outputs_nil (s : σ) : M.outputs s [] = [] := rfl

@[simp] theorem final_cons (s : σ) (i : ι) (inputs : List ι) :
    M.final s (i :: inputs) = M.final (M.step s i).1 inputs := rfl

@[simp] theorem outputs_cons (s : σ) (i : ι) (inputs : List ι) :
    M.outputs s (i :: inputs) =
      (M.step s i).2 ++ M.outputs (M.step s i).1 inputs := rfl

variable {M} in
theorem final_of_step {s t : σ} {i : ι} {out : List ο}
    (h : M.step s i = (t, out)) (inputs : List ι) :
    M.final s (i :: inputs) = M.final t inputs := by
  rw [final_cons, h]

variable {M} in
theorem outputs_of_step {s t : σ} {i : ι} {out : List ο}
    (h : M.step s i = (t, out)) (inputs : List ι) :
    M.outputs s (i :: inputs) = out ++ M.outputs t inputs := by
  rw [outputs_cons, h]

theorem final_append (s : σ) (first second : List ι) :
    M.final s (first ++ second) = M.final (M.final s first) second := by
  induction first generalizing s with
  | nil => rfl
  | cons i first ih => simpa using ih (M.step s i).1

theorem outputs_append (s : σ) (first second : List ι) :
    M.outputs s (first ++ second) =
      M.outputs s first ++ M.outputs (M.final s first) second := by
  induction first generalizing s with
  | nil => rfl
  | cons i first ih => simp [ih]

theorem runPieces_eq (s : σ) (pieces : List (List ι)) :
    M.runPieces s pieces =
      (M.final s pieces.flatten, M.outputs s pieces.flatten) := by
  induction pieces generalizing s with
  | nil => rfl
  | cons piece pieces ih =>
      simp [runPieces, ih, final_append, outputs_append]

/-! ## Properties of runs -/

/-- `P` holds in every state of the run, the first and the last included. -/
def Always (P : σ → Prop) (s : σ) (inputs : List ι) : Prop :=
  ∀ before after, inputs = before ++ after → P (M.final s before)

/-- `A` holds of every input of the run and the state that it finds. -/
def EachStep (A : σ → ι → Prop) (s : σ) (inputs : List ι) : Prop :=
  ∀ before i after, inputs = before ++ i :: after → A (M.final s before) i

section

variable {M} {I P : σ → Prop} {A B : σ → ι → Prop}

theorem always_nil (s : σ) : M.Always P s [] ↔ P s := by
  constructor
  · intro h
    exact h [] [] rfl
  · rintro hs before after heq
    obtain ⟨rfl, -⟩ := List.append_eq_nil_iff.mp heq.symm
    exact hs

theorem always_cons (s : σ) (i : ι) (inputs : List ι) :
    M.Always P s (i :: inputs) ↔ P s ∧ M.Always P (M.step s i).1 inputs := by
  constructor
  · intro h
    refine ⟨h [] (i :: inputs) rfl, fun before after heq => ?_⟩
    exact h (i :: before) after (by rw [heq, List.cons_append])
  · rintro ⟨hs, hrest⟩ before after heq
    cases before with
    | nil => exact hs
    | cons j before =>
        obtain ⟨rfl, htail⟩ := List.cons.inj heq
        exact hrest before after htail

theorem eachStep_nil (s : σ) : M.EachStep A s [] := by
  intro before i after heq
  exact absurd heq.symm (by simp)

theorem eachStep_cons (s : σ) (i : ι) (inputs : List ι) :
    M.EachStep A s (i :: inputs) ↔
      A s i ∧ M.EachStep A (M.step s i).1 inputs := by
  constructor
  · intro h
    refine ⟨h [] i inputs rfl, fun before j after heq => ?_⟩
    exact h (i :: before) j after (by rw [heq, List.cons_append])
  · rintro ⟨hs, hrest⟩ before j after heq
    cases before with
    | nil =>
        obtain ⟨rfl, -⟩ := List.cons.inj heq
        exact hs
    | cons k before =>
        obtain ⟨rfl, htail⟩ := List.cons.inj heq
        exact hrest before j after htail

theorem EachStep.left {s : σ} {first second : List ι}
    (h : M.EachStep A s (first ++ second)) : M.EachStep A s first := by
  intro before i after heq
  exact h before i (after ++ second) (by simp [heq])

theorem EachStep.last {s : σ} {inputs : List ι} {i : ι}
    (h : M.EachStep A s (inputs ++ [i])) : A (M.final s inputs) i :=
  h inputs i [] rfl

instance decidableEachStep [∀ s i, Decidable (A s i)] :
    (inputs : List ι) → (s : σ) → Decidable (M.EachStep A s inputs)
  | [], s => isTrue (eachStep_nil s)
  | i :: inputs, s =>
      have := decidableEachStep inputs (M.step s i).1
      decidable_of_iff _ (eachStep_cons s i inputs).symm

/-- What the steps of a run keep holds all along it. -/
theorem always_of_eachStep (hI : ∀ s i, I s → A s i → I (M.step s i).1)
    {s : σ} (hs : I s) {inputs : List ι} (h : M.EachStep A s inputs) :
    M.Always I s inputs := by
  induction inputs generalizing s with
  | nil => exact (always_nil s).mpr hs
  | cons i inputs ih =>
      obtain ⟨hi, hrest⟩ := (eachStep_cons s i inputs).mp h
      exact (always_cons s i inputs).mpr ⟨hs, ih (hI s i hs hi) hrest⟩

/-- An invariant holds all along a run. -/
theorem always_of_step (hI : ∀ s i, I s → I (M.step s i).1) {s : σ}
    (hs : I s) (inputs : List ι) : M.Always I s inputs :=
  always_of_eachStep (A := fun _ _ => True) (fun s i hs _ => hI s i hs) hs
    fun _ _ _ _ => trivial

/-- When, under an invariant, a step keeps `P` exactly if `A` holds of it, `P`
holds all along a run exactly when it holds at the start and `A` of each
step. -/
theorem always_iff (hI : ∀ s i, I s → I (M.step s i).1)
    (hstep : ∀ s i, I s → P s → (P (M.step s i).1 ↔ A s i)) {s : σ}
    (hs : I s) (inputs : List ι) :
    M.Always P s inputs ↔ P s ∧ M.EachStep A s inputs := by
  induction inputs generalizing s with
  | nil =>
      rw [always_nil]
      exact ⟨fun h => ⟨h, eachStep_nil s⟩, fun h => h.1⟩
  | cons i inputs ih =>
      rw [always_cons, eachStep_cons, ih (hI s i hs)]
      refine and_congr_right fun hp => and_congr_left fun _ => ?_
      exact hstep s i hs hp

/-- A step that may fail, and otherwise goes on as the machine, gets through a
run exactly when `A` holds of each step of it. -/
theorem foldlM_isSome_iff {f : σ → ι → Option σ}
    (hok : ∀ s i, A s i → f s i = some (M.step s i).1)
    (hfail : ∀ s i, ¬ A s i → f s i = none) (s : σ) (inputs : List ι) :
    (inputs.foldlM f s).isSome ↔ M.EachStep A s inputs := by
  induction inputs generalizing s with
  | nil => exact ⟨fun _ => eachStep_nil s, fun _ => rfl⟩
  | cons i inputs ih =>
      rw [List.foldlM_cons, eachStep_cons]
      by_cases hi : A s i
      · rw [hok s i hi, Option.bind_eq_bind, Option.bind_some, ih]
        exact ⟨fun h => ⟨hi, h⟩, fun h => h.2⟩
      · rw [hfail s i hi]
        exact ⟨nofun, fun h => absurd h.1 hi⟩

/-- Under an invariant, what every step shows is shown all along a run. -/
theorem outputs_of_invariant {Q : ο → Prop}
    (hstep : ∀ s i, I s → I (M.step s i).1 ∧ ∀ o ∈ (M.step s i).2, Q o)
    {s : σ} (hs : I s) (inputs : List ι) : ∀ o ∈ M.outputs s inputs, Q o := by
  induction inputs generalizing s with
  | nil =>
      intro o ho
      cases ho
  | cons i inputs ih =>
      obtain ⟨hnext, hshown⟩ := hstep s i hs
      intro o ho
      rw [outputs_cons] at ho
      rcases List.mem_append.mp ho with hnow | hlater
      · exact hshown o hnow
      · exact ih hnext o hlater

theorem eachStep_congr (hI : ∀ s i, I s → I (M.step s i).1)
    (h : ∀ s i, I s → (A s i ↔ B s i)) {s : σ} (hs : I s)
    (inputs : List ι) : M.EachStep A s inputs ↔ M.EachStep B s inputs := by
  have hall := always_of_step hI hs inputs
  constructor
  · intro hA before i after heq
    exact (h _ i (hall before (i :: after) heq)).mp (hA before i after heq)
  · intro hB before i after heq
    exact (h _ i (hall before (i :: after) heq)).mpr (hB before i after heq)

end

/-- When a step keeps `P` exactly for the inputs in `A`, `P` holds all along a
run exactly when it holds at the start and every input is in `A`. -/
theorem invariant_iff {P : σ → Prop} {A : ι → Prop}
    (hstep : ∀ s i, P s → (P (M.step s i).1 ↔ A i)) (s : σ)
    (inputs : List ι) :
    (∀ before after, inputs = before ++ after → P (M.final s before)) ↔
      P s ∧ ∀ i ∈ inputs, A i := by
  have hrun : M.Always P s inputs ↔
      P s ∧ M.EachStep (fun _ => A) s inputs :=
    always_iff (I := fun _ => True) (fun _ _ _ => trivial)
      (fun s i _ => hstep s i) trivial inputs
  refine hrun.trans (and_congr_right fun _ => ?_)
  constructor
  · intro h i hi
    obtain ⟨before, after, heq⟩ := List.append_of_mem hi
    exact h before i after heq
  · intro h before i after heq
    exact h i (by simp [heq])

/-! ## Outputs in order -/

/-- `K s o` is what the state `s` still says of an earlier output `o`: it is
known of an output once it is shown, every step in `A` keeps it, and it puts
`o` before whatever the step shows. -/
structure Orders (A : σ → ι → Prop) (K : σ → ο → Prop) (R : ο → ο → Prop) :
    Prop where
  among : ∀ s i, A s i → (M.step s i).2.Pairwise R
  shown : ∀ s i, A s i → ∀ o ∈ (M.step s i).2, K (M.step s i).1 o
  keeps : ∀ s i o, A s i → K s o → K (M.step s i).1 o
  before : ∀ s i o, A s i → K s o → ∀ o' ∈ (M.step s i).2, R o o'

namespace Orders

variable {M} {A : σ → ι → Prop} {K : σ → ο → Prop} {R : ο → ο → Prop}

theorem before_outputs (h : M.Orders A K R) {s : σ} {o : ο} (ho : K s o)
    {inputs : List ι} (hrun : M.EachStep A s inputs) :
    ∀ o' ∈ M.outputs s inputs, R o o' := by
  induction inputs generalizing s with
  | nil =>
      intro o' ho'
      cases ho'
  | cons i inputs ih =>
      obtain ⟨hi, hrest⟩ := (eachStep_cons s i inputs).mp hrun
      intro o' ho'
      rw [outputs_cons] at ho'
      rcases List.mem_append.mp ho' with hnow | hlater
      · exact h.before s i o hi ho o' hnow
      · exact ih (h.keeps s i o hi ho) hrest o' hlater

/-- The outputs of a run stand in order. -/
theorem pairwise (h : M.Orders A K R) {s : σ} {inputs : List ι}
    (hrun : M.EachStep A s inputs) : (M.outputs s inputs).Pairwise R := by
  induction inputs generalizing s with
  | nil => exact List.Pairwise.nil
  | cons i inputs ih =>
      obtain ⟨hi, hrest⟩ := (eachStep_cons s i inputs).mp hrun
      rw [outputs_cons, List.pairwise_append]
      refine ⟨h.among s i hi, ih hrest, fun o ho => ?_⟩
      exact h.before_outputs (h.shown s i hi o ho) hrest

end Orders

/-! ## Outputs in a chain -/

/-- What `f` reads in the outputs of a run is a chain exactly when every step
continues the chain read before it. -/
theorem isChain_outputs_iff {κ : Type*} (f : ο → Option κ)
    (R : κ → κ → Prop) (s : σ) (inputs : List ι) :
    ((M.outputs s inputs).filterMap f).IsChain R ↔
      ∀ before i after, inputs = before ++ i :: after →
        ((M.step (M.final s before) i).2.filterMap f).IsChain R ∧
          ∀ a ∈ ((M.outputs s before).filterMap f).getLast?,
            ∀ b ∈ ((M.step (M.final s before) i).2.filterMap f).head?,
              R a b := by
  induction inputs using List.reverseRecOn with
  | nil =>
      refine iff_of_true List.isChain_nil fun before i after heq => ?_
      exact absurd heq.symm (by simp)
  | append_singleton inputs i ih =>
      rw [outputs_append, outputs_cons, outputs_nil, List.append_nil,
        List.filterMap_append, List.isChain_append, ih]
      constructor
      · rintro ⟨hbefore, hlast⟩ before j after heq
        rcases List.eq_nil_or_concat after with rfl | ⟨after, k, rfl⟩
        · obtain ⟨rfl, hi⟩ := List.append_inj' heq rfl
          obtain ⟨rfl, -⟩ := List.cons.inj hi
          exact hlast
        · rw [List.concat_eq_append, ← List.cons_append,
            ← List.append_assoc] at heq
          exact hbefore before j after (List.append_inj' heq rfl).1
      · intro h
        refine ⟨fun before j after heq => ?_, h inputs i [] rfl⟩
        exact h before j (after ++ [i])
          (by rw [heq, List.append_assoc, List.cons_append])

/-- `N` follows `M` step by step and shows the same outputs. -/
structure Simulation (N : Mealy τ ι ο) (R : σ → τ → Prop) : Prop where
  step : ∀ s t i, R s t →
    R (M.step s i).1 (N.step t i).1 ∧ (M.step s i).2 = (N.step t i).2

namespace Simulation

variable {M} {N : Mealy τ ι ο} {R : σ → τ → Prop}

theorem run (hsim : Simulation M N R) {s : σ} {t : τ} (h : R s t)
    (inputs : List ι) :
    R (M.final s inputs) (N.final t inputs) ∧
      M.outputs s inputs = N.outputs t inputs := by
  induction inputs generalizing s t with
  | nil => exact ⟨h, rfl⟩
  | cons i inputs ih =>
      obtain ⟨hnext, houtputs⟩ := hsim.step s t i h
      obtain ⟨hfinal, hrest⟩ := ih hnext
      exact ⟨hfinal, by simp [houtputs, hrest]⟩

end Simulation

end Mealy

end SanbaoProt.Library
