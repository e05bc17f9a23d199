import SanbaoProt.Library.Mealy

/-!
# Alternation

Marks that come in pairs, an opening one and then a closing one.  A machine
whose steps show the mark that is due, or none, shows an alternating list along
every run.  Where marks carry values, `Closes` says of a list of them that each
closing mark repeats the value of an opening mark right before it.
-/

namespace SanbaoProt.Library

variable {α β σ ι ο : Type*}

/-- The marks alternate; the flag says that a pair is open. -/
def Alternates (first second : α) : Bool → List α → Prop
  | _, [] => True
  | false, x :: xs => x = first ∧ Alternates first second true xs
  | true, x :: xs => x = second ∧ Alternates first second false xs

/-- What one step may show, and the flag after it. -/
inductive Due (first second : α) : Bool → List α → Bool → Prop where
  | silent (isOpen : Bool) : Due first second isOpen [] isOpen
  | opening : Due first second false [first] true
  | closing : Due first second true [second] false

theorem Due.alternates {first second : α} {isOpen isOpen' : Bool}
    {xs ys : List α} (h : Due first second isOpen xs isOpen')
    (hrest : Alternates first second isOpen' ys) :
    Alternates first second isOpen (xs ++ ys) := by
  cases h with
  | silent => exact hrest
  | opening => exact ⟨rfl, hrest⟩
  | closing => exact ⟨rfl, hrest⟩

/-- Alternation along the runs whose inputs are admissible. -/
theorem Mealy.alternates (M : Mealy σ ι ο) {first second : α}
    {mark : ο → Option α} (isOpen : σ → Bool) {P : σ → Prop}
    {A : σ → ι → Prop}
    (hstep : ∀ s i, P s → A s i → P (M.step s i).1 ∧
      Due first second (isOpen s) ((M.step s i).2.filterMap mark)
        (isOpen (M.step s i).1))
    {s : σ} (hs : P s) (inputs : List ι)
    (hinputs : ∀ before i after, inputs = before ++ i :: after →
      A (M.final s before) i) :
    Alternates first second (isOpen s)
      ((M.outputs s inputs).filterMap mark) := by
  induction inputs generalizing s with
  | nil =>
      cases isOpen s with
      | false => trivial
      | true => trivial
  | cons i inputs ih =>
      obtain ⟨hnext, hdue⟩ := hstep s i hs (hinputs [] i inputs rfl)
      rw [M.outputs_cons, List.filterMap_append]
      apply hdue.alternates
      apply ih hnext
      intro before j after heq
      have := hinputs (i :: before) j after (by simp [heq])
      simpa using this

/-! ## Marks with values -/

section

variable [DecidableEq α] (first second : α)

/-- The value that is open after a mark. -/
def openAfter (mark : α × β) : Option β :=
  if mark.1 = first then some mark.2 else none

/-- The value that is open after a list of marks. -/
def openAfterAll (isOpen : Option β) : List (α × β) → Option β
  | [] => isOpen
  | mark :: marks => openAfterAll (openAfter first mark) marks

/-- A closing mark carries the value that is open. -/
def Closes : Option β → List (α × β) → Prop
  | _, [] => True
  | isOpen, mark :: marks =>
      (mark.1 = second → isOpen = some mark.2) ∧
        Closes (openAfter first mark) marks

variable {first second} {isOpen : Option β}

theorem Closes.append {xs ys : List (α × β)}
    (h : Closes first second isOpen xs)
    (h' : Closes first second (openAfterAll first isOpen xs) ys) :
    Closes first second isOpen (xs ++ ys) := by
  induction xs generalizing isOpen with
  | nil => exact h'
  | cons mark xs ih => exact ⟨h.1, ih h.2 h'⟩

/-- Right before a closing mark stands an opening mark of the same value. -/
theorem Closes.preceded {before after : List (α × β)} {value : β}
    (h : Closes first second isOpen (before ++ (second, value) :: after)) :
    (before = [] ∧ isOpen = some value) ∨
      ∃ earlier, before = earlier ++ [(first, value)] := by
  induction before generalizing isOpen with
  | nil => exact .inl ⟨rfl, h.1 rfl⟩
  | cons mark before ih =>
      rcases ih h.2 with ⟨rfl, hopen⟩ | ⟨earlier, rfl⟩
      · have hmark : mark.1 = first := by
          by_contra hother
          rw [openAfter, if_neg hother] at hopen
          cases hopen
        rw [openAfter, if_pos hmark] at hopen
        refine .inr ⟨[], ?_⟩
        rw [← hmark, ← Option.some.inj hopen]
        rfl
      · exact .inr ⟨mark :: earlier, rfl⟩

/-- A machine that knows which value is open closes it along every run. -/
theorem Mealy.closes (M : Mealy σ ι ο) {marks : List ο → List (α × β)}
    (hnil : marks [] = [])
    (happend : ∀ xs ys, marks (xs ++ ys) = marks xs ++ marks ys)
    {P : σ → Option β → Prop}
    (hstep : ∀ s i isOpen, P s isOpen →
      Closes first second isOpen (marks (M.step s i).2) ∧
        P (M.step s i).1
          (openAfterAll first isOpen (marks (M.step s i).2)))
    {s : σ} (hs : P s isOpen) (inputs : List ι) :
    Closes first second isOpen (marks (M.outputs s inputs)) := by
  induction inputs generalizing s isOpen with
  | nil =>
      rw [M.outputs_nil, hnil]
      trivial
  | cons i inputs ih =>
      obtain ⟨hcloses, hknows⟩ := hstep s i isOpen hs
      rw [M.outputs_cons, happend]
      exact hcloses.append (ih hknows)

end

end SanbaoProt.Library
