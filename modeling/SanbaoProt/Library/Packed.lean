import Mathlib.Data.Fintype.Basic
import Mathlib.Logic.Function.Basic

/-!
# Packed records

A packed C structure is its bytes.  A field of one byte is an index, a field of
two bytes is the pair of the indices of its low and its high byte.  A record
travels with its words big-endian and is merged into another one field by
field, a field of all ones meaning "keep": `netValue_swap`, `value_swap` and
`value_merge` say so of the values of the fields.
-/

namespace SanbaoProt.Library

abbrev Packed (n : Nat) := Fin n → UInt8

abbrev PackedWord (n : Nat) := Fin n × Fin n

namespace Packed

variable {n : Nat}

def word (p : Packed n) (w : PackedWord n) : Nat :=
  (p w.1).toNat + 256 * (p w.2).toNat

def setWord (p : Packed n) (w : PackedWord n) (low high : UInt8) : Packed n :=
  Function.update (Function.update p w.1 low) w.2 high

theorem setWord_apply (p : Packed n) (w : PackedWord n) (low high : UInt8)
    (i : Fin n) :
    p.setWord w low high i =
      if i = w.2 then high else if i = w.1 then low else p i := by
  simp only [setWord, Function.update_apply]

def toList (p : Packed n) : List UInt8 := List.ofFn p

def ofList (n : Nat) (bytes : List UInt8) : Packed n :=
  fun i => bytes.getD i 0

@[simp] theorem length_toList (p : Packed n) : p.toList.length = n := by
  simp [toList]

@[simp] theorem ofList_toList (p : Packed n) : ofList n p.toList = p := by
  funext i
  simp [ofList, toList]

/-- Exchange the two bytes of a word (`ntohs` and `htons`). -/
def swapWord (p : Packed n) (w : PackedWord n) : Packed n :=
  p.setWord w (p w.2) (p w.1)

theorem swapWord_of_ne (p : Packed n) {w : PackedWord n} {i : Fin n}
    (hlow : i ≠ w.1) (hhigh : i ≠ w.2) : p.swapWord w i = p i := by
  simp [swapWord, setWord, hlow, hhigh]

/-- An update of one word: it sets the two bytes of the word only, and looks
at no other byte. -/
structure LocalUpdate (step : Packed n → PackedWord n → Packed n) :
    Prop where
  frame : ∀ p w i, i ≠ w.1 → i ≠ w.2 → step p w i = p i
  congr : ∀ p q w i, i = w.1 ∨ i = w.2 → p w.1 = q w.1 → p w.2 = q w.2 →
    step p w i = step q w i

def cells (words : List (PackedWord n)) : List (Fin n) :=
  words.flatMap fun w => [w.1, w.2]

theorem mem_cells {words : List (PackedWord n)} {i : Fin n} :
    i ∈ cells words ↔ ∃ w ∈ words, i = w.1 ∨ i = w.2 := by
  simp [cells]

theorem ne_of_mem_nodup_cells {words : List (PackedWord n)}
    (hnodup : (cells words).Nodup) {w : PackedWord n} (hw : w ∈ words) :
    w.1 ≠ w.2 := by
  obtain ⟨before, after, rfl⟩ := List.append_of_mem hw
  simp only [cells, List.flatMap_append, List.flatMap_cons] at hnodup
  have hpair := (List.nodup_append.mp
    (List.nodup_append.mp hnodup).2.1).1
  simpa using hpair

namespace LocalUpdate

variable {step : Packed n → PackedWord n → Packed n}

theorem foldl_of_ne (h : LocalUpdate step) {words : List (PackedWord n)}
    {i : Fin n} (hi : i ∉ cells words) (p : Packed n) :
    words.foldl step p i = p i := by
  induction words generalizing p with
  | nil => rfl
  | cons w words ih =>
      simp only [cells, List.flatMap_cons, List.mem_append, List.mem_cons,
        List.not_mem_nil, or_false, not_or] at hi
      rw [List.foldl_cons, ih hi.2, h.frame p w i hi.1.1 hi.1.2]

theorem foldl_of_mem (h : LocalUpdate step) {words : List (PackedWord n)}
    (hnodup : (cells words).Nodup) {w : PackedWord n} (hw : w ∈ words)
    {i : Fin n} (hi : i = w.1 ∨ i = w.2) (p : Packed n) :
    words.foldl step p i = step p w i := by
  induction words generalizing p with
  | nil => cases hw
  | cons w' words ih =>
      have hsplit : cells (w' :: words) = [w'.1, w'.2] ++ cells words := rfl
      rw [hsplit, List.nodup_append] at hnodup
      obtain ⟨-, hrest, hapart⟩ := hnodup
      rw [List.foldl_cons]
      rcases List.mem_cons.mp hw with rfl | hlater
      · apply h.foldl_of_ne
        intro hmem
        exact hapart i (by simpa using hi) i hmem rfl
      · rw [ih hrest hlater]
        -- the earlier word shares no byte with this one
        have hkeep : ∀ j, j = w.1 ∨ j = w.2 → step p w' j = p j := by
          intro j hj
          have hmem : j ∈ cells words := mem_cells.mpr ⟨w, hlater, hj⟩
          exact h.frame p w' j
            (fun heq => hapart w'.1 (by simp) j hmem heq.symm)
            (fun heq => hapart w'.2 (by simp) j hmem heq.symm)
        exact h.congr _ _ w i hi (hkeep w.1 (.inl rfl))
          (hkeep w.2 (.inr rfl))

end LocalUpdate

theorem swapWord_local : LocalUpdate (swapWord (n := n)) where
  frame p _ _ hlow hhigh := swapWord_of_ne p hlow hhigh
  congr p q w i hi hlow hhigh := by
    simp only [swapWord, setWord_apply, hlow, hhigh]
    rcases hi with rfl | rfl <;> simp

theorem foldl_swapWord_of_ne {words : List (PackedWord n)} {i : Fin n}
    (hi : ∀ w ∈ words, i ≠ w.1 ∧ i ≠ w.2) (p : Packed n) :
    words.foldl swapWord p i = p i := by
  apply swapWord_local.foldl_of_ne
  rw [mem_cells]
  rintro ⟨w, hw, hlow | hhigh⟩
  · exact (hi w hw).1 hlow
  · exact (hi w hw).2 hhigh

/-! ## Merging -/

def mergeWord (new out : Packed n) (w : PackedWord n) : Packed n :=
  if new.word w ≠ 0xFFFF then out.setWord w (new w.1) (new w.2) else out

def merge (words : List (PackedWord n)) (new old : Packed n) : Packed n :=
  let out := words.foldl (mergeWord new) old
  fun i =>
    if ∃ w ∈ words, i = w.1 ∨ i = w.2 then out i
    else if new i ≠ 0xFF then new i
    else out i

theorem mergeWord_local (new : Packed n) : LocalUpdate (mergeWord new) where
  frame p w i hlow hhigh := by
    unfold mergeWord
    split_ifs
    · rw [setWord_apply, if_neg hhigh, if_neg hlow]
    · rfl
  congr p q w i hi hlow hhigh := by
    unfold mergeWord
    split_ifs
    · simp only [setWord_apply]
      rcases hi with rfl | rfl <;> simp
    · rcases hi with rfl | rfl
      · exact hlow
      · exact hhigh

theorem word_mergeWord {w : PackedWord n} (hne : w.1 ≠ w.2)
    (new out : Packed n) :
    (mergeWord new out w).word w =
      if new.word w = 0xFFFF then out.word w else new.word w := by
  by_cases hones : new.word w = 0xFFFF
  · rw [mergeWord, if_neg (not_not.mpr hones), if_pos hones]
  · rw [mergeWord, if_pos hones, if_neg hones]
    simp only [word, setWord_apply, if_neg hne, if_true]

theorem word_ne_of_low {p : Packed n} {w : PackedWord n}
    (h : p w.1 ≠ 0xFF) : p.word w ≠ 0xFFFF := by
  intro hword
  have hlow := (p w.1).toNat_lt
  have hhigh := (p w.2).toNat_lt
  apply h
  apply UInt8.toNat_inj.mp
  simp only [word] at hword
  change (p w.1).toNat = 255
  omega

theorem mergeWord_of_low {new : Packed n} {w : PackedWord n}
    (h : new w.1 ≠ 0xFF) (out : Packed n) (i : Fin n) :
    mergeWord new out w i = if i = w.1 ∨ i = w.2 then new i else out i := by
  rw [mergeWord, if_pos (word_ne_of_low h), setWord_apply]
  by_cases hhigh : i = w.2
  · simp [hhigh]
  by_cases hlow : i = w.1
  · subst hlow
    simp [hhigh]
  · simp [hhigh, hlow]

theorem foldl_mergeWord {new : Packed n} (h : ∀ i, new i ≠ 0xFF)
    (words : List (PackedWord n)) (out : Packed n) (i : Fin n)
    (hi : ∃ w ∈ words, i = w.1 ∨ i = w.2) :
    words.foldl (mergeWord new) out i = new i := by
  induction words using List.reverseRecOn with
  | nil => simp at hi
  | append_singleton words w ih =>
      rw [List.foldl_append, List.foldl_cons, List.foldl_nil,
        mergeWord_of_low (h w.1)]
      split_ifs with hhere
      · rfl
      · apply ih
        obtain ⟨w', hmem, hw'⟩ := hi
        rcases List.mem_append.mp hmem with hearlier | hlast
        · exact ⟨w', hearlier, hw'⟩
        · rw [List.mem_singleton.mp hlast] at hw'
          exact absurd hw' hhere

/-- A record without a byte of all ones replaces the old one. -/
theorem merge_of_ne {new : Packed n} (h : ∀ i, new i ≠ 0xFF)
    (words : List (PackedWord n)) (old : Packed n) :
    merge words new old = new := by
  funext i
  simp only [merge]
  split_ifs with hword hbyte
  · exact foldl_mergeWord h words old i hword
  · rfl
  · exact absurd (h i) hbyte

theorem merge_byte {words : List (PackedWord n)} {i : Fin n}
    (hi : ∀ w ∈ words, i ≠ w.1 ∧ i ≠ w.2) (new old : Packed n) :
    merge words new old i = if new i ≠ 0xFF then new i else old i := by
  have hword : ¬ ∃ w ∈ words, i = w.1 ∨ i = w.2 := by
    rintro ⟨w, hw, hlow | hhigh⟩
    · exact (hi w hw).1 hlow
    · exact (hi w hw).2 hhigh
  have hkeep := (mergeWord_local new).foldl_of_ne
    (fun hmem => hword (mem_cells.mp hmem)) old
  simp only [merge, hword, if_false, hkeep]

/-- A record of ones keeps everything. -/
theorem merge_ones (words : List (PackedWord n)) (old : Packed n) :
    merge words (fun _ => 0xFF) old = old := by
  have hbyte : (0xFF : UInt8).toNat = 255 := rfl
  have hones : ∀ w : PackedWord n, word (fun _ => 0xFF) w = 0xFFFF :=
    fun w => by simp only [word, hbyte]
  have hwords : words.foldl (mergeWord fun _ => 0xFF) old = old := by
    induction words with
    | nil => rfl
    | cons w words ih =>
        rw [List.foldl_cons, mergeWord, if_neg (not_not.mpr (hones w)), ih]
  funext i
  simp [merge, hwords]

/-! ## Fields -/

/-- A record is made of bytes and words; a word is little-endian in memory. -/
inductive Field (n : Nat) where
  | byte (i : Fin n)
  | word (w : PackedWord n)
  deriving DecidableEq, Repr

namespace Field

def value (p : Packed n) : Field n → Nat
  | .byte i => (p i).toNat
  | .word w => p.word w

/-- The value of a field of a record that is big-endian, as it travels. -/
def netValue (p : Packed n) : Field n → Nat
  | .byte i => (p i).toNat
  | .word w => 256 * (p w.1).toNat + (p w.2).toNat

def ones : Field n → Nat
  | .byte _ => 0xFF
  | .word _ => 0xFFFF

def cells : Field n → List (Fin n)
  | .byte i => [i]
  | .word w => [w.1, w.2]

theorem value_congr {field : Field n} {p q : Packed n}
    (h : ∀ i ∈ field.cells, p i = q i) : field.value p = field.value q := by
  cases field with
  | byte i => exact congrArg UInt8.toNat (h i (by simp [cells]))
  | word w =>
      have hlow := h w.1 (by simp [cells])
      have hhigh := h w.2 (by simp [cells])
      simp only [value, Packed.word, hlow, hhigh]

end Field

def fields (words : List (PackedWord n)) : List (Field n) :=
  words.map Field.word ++
    ((List.finRange n).filter fun i => i ∉ cells words).map Field.byte

theorem mem_fields {words : List (PackedWord n)} {field : Field n} :
    field ∈ fields words ↔
      (∃ w ∈ words, field = .word w) ∨
        ∃ i, i ∉ cells words ∧ field = .byte i := by
  simp only [fields, List.mem_append, List.mem_map, List.mem_filter,
    List.mem_finRange, true_and, decide_eq_true_eq, eq_comm (b := field)]

/-- Records that agree on every field are equal. -/
theorem ext_fields {words : List (PackedWord n)} {p q : Packed n}
    (h : ∀ field ∈ fields words, field.value p = field.value q) : p = q := by
  funext i
  by_cases hi : i ∈ cells words
  · obtain ⟨w, hw, hword⟩ := mem_cells.mp hi
    have hvalue : p.word w = q.word w :=
      h (.word w) (mem_fields.mpr (.inl ⟨w, hw, rfl⟩))
    have hlow := (p w.1).toNat_lt
    have hlow' := (q w.1).toNat_lt
    simp only [word] at hvalue
    apply UInt8.toNat_inj.mp
    rcases hword with rfl | rfl
    · omega
    · omega
  · exact UInt8.toNat_inj.mp
      (h (.byte i) (mem_fields.mpr (.inr ⟨i, hi, rfl⟩)))

/-- No field of the record is all ones. -/
def NoOnes (words : List (PackedWord n)) (p : Packed n) : Prop :=
  ∀ field ∈ fields words, field.value p ≠ field.ones

theorem swapWords_word {words : List (PackedWord n)}
    (hnodup : (cells words).Nodup) {w : PackedWord n} (hw : w ∈ words)
    (p : Packed n) :
    words.foldl swapWord p w.1 = p w.2 ∧
      words.foldl swapWord p w.2 = p w.1 := by
  rw [swapWord_local.foldl_of_mem hnodup hw (.inl rfl),
    swapWord_local.foldl_of_mem hnodup hw (.inr rfl), swapWord,
    setWord_apply, setWord_apply, if_neg (ne_of_mem_nodup_cells hnodup hw),
    if_pos rfl, if_pos rfl]
  exact ⟨rfl, rfl⟩

theorem netValue_swap {words : List (PackedWord n)}
    (hnodup : (cells words).Nodup) (p : Packed n) {field : Field n}
    (hfield : field ∈ fields words) :
    field.netValue (words.foldl swapWord p) = field.value p := by
  rcases mem_fields.mp hfield with ⟨w, hw, rfl⟩ | ⟨i, hi, rfl⟩
  · obtain ⟨hlow, hhigh⟩ := swapWords_word hnodup hw p
    rw [Field.netValue, hlow, hhigh, Nat.add_comm]
    rfl
  · rw [Field.netValue, swapWord_local.foldl_of_ne hi]
    rfl

theorem value_swap {words : List (PackedWord n)}
    (hnodup : (cells words).Nodup) (p : Packed n) {field : Field n}
    (hfield : field ∈ fields words) :
    field.value (words.foldl swapWord p) = field.netValue p := by
  rcases mem_fields.mp hfield with ⟨w, hw, rfl⟩ | ⟨i, hi, rfl⟩
  · obtain ⟨hlow, hhigh⟩ := swapWords_word hnodup hw p
    rw [Field.value, word, hlow, hhigh, Nat.add_comm]
    rfl
  · rw [Field.value, swapWord_local.foldl_of_ne hi]
    rfl

/-- A field that is not all ones is replaced, the others are kept. -/
theorem value_merge {words : List (PackedWord n)}
    (hnodup : (cells words).Nodup) (new old : Packed n) {field : Field n}
    (hfield : field ∈ fields words) :
    field.value (merge words new old) =
      if field.value new = field.ones then field.value old
      else field.value new := by
  rcases mem_fields.mp hfield with ⟨w, hw, rfl⟩ | ⟨i, hi, rfl⟩
  · have hne : w.1 ≠ w.2 := ne_of_mem_nodup_cells hnodup hw
    have hlow : ∃ w' ∈ words, w.1 = w'.1 ∨ w.1 = w'.2 := ⟨w, hw, .inl rfl⟩
    have hhigh : ∃ w' ∈ words, w.2 = w'.1 ∨ w.2 = w'.2 := ⟨w, hw, .inr rfl⟩
    have hmerge : (merge words new old).word w =
        (mergeWord new old w).word w := by
      simp only [word, merge, if_pos hlow, if_pos hhigh,
        (mergeWord_local new).foldl_of_mem hnodup hw (.inl rfl),
        (mergeWord_local new).foldl_of_mem hnodup hw (.inr rfl)]
    exact hmerge.trans (word_mergeWord hne new old)
  · have hapart : ∀ w ∈ words, i ≠ w.1 ∧ i ≠ w.2 := fun w hw =>
      ⟨fun heq => hi (mem_cells.mpr ⟨w, hw, .inl heq⟩),
        fun heq => hi (mem_cells.mpr ⟨w, hw, .inr heq⟩)⟩
    have hbyte : (new i).toNat = 0xFF ↔ new i = 0xFF := by
      rw [← UInt8.toNat_inj]
      rfl
    simp only [Field.value, Field.ones, merge_byte hapart, hbyte]
    split_ifs <;> simp_all

theorem NoOnes.merge {words : List (PackedWord n)}
    (hnodup : (cells words).Nodup) {old : Packed n} (h : NoOnes words old)
    (new : Packed n) : NoOnes words (merge words new old) := by
  intro field hfield
  rw [value_merge hnodup new old hfield]
  split_ifs with hones
  · exact h field hfield
  · exact hones

/-- A record without a field of all ones replaces the old one. -/
theorem NoOnes.merge_eq {words : List (PackedWord n)}
    (hnodup : (cells words).Nodup) {new : Packed n} (h : NoOnes words new)
    (old : Packed n) : Packed.merge words new old = new := by
  refine ext_fields fun field (hfield : field ∈ fields words) => ?_
  rw [value_merge hnodup new old hfield, if_neg (h field hfield)]

end Packed

end SanbaoProt.Library
