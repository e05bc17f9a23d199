import Mathlib.Algebra.Group.Nat.Even
import Mathlib.Data.List.DropRight
import SanbaoProt.Device.WsiMessage
import SanbaoProt.Library.Mealy

/-!
# Stores through the null pointer

What `msgpack_object_get` does with a message depends only on the objects in it
that are not maps, in the order in which they are visited.  An object inside a
key is visited without a frame; it is stored all the same if a field whose name
came earlier still waits for a value of its kind.
-/

namespace SanbaoProt

open Library

/-- An object that is not a map, and the pointer that it is visited with. -/
structure WsiLeaf where
  object : MsgpackObject
  can : CanPtr

mutual

def MsgpackObject.leaves : MsgpackObject → CanPtr → List WsiLeaf
  | .scalar type u64, can => [⟨.scalar type u64, can⟩]
  | .bin ptr size, can => [⟨.bin ptr size, can⟩]
  | .str ptr size, can => [⟨.str ptr size, can⟩]
  | .map entries, can => leavesOfEntries entries can
  | .unknown u64, can => [⟨.unknown u64, can⟩]

def leavesOfEntries : List (MsgpackObject × MsgpackObject) → CanPtr →
    List WsiLeaf
  | [], _ => []
  | (key, val) :: rest, can =>
      key.leaves .null ++ val.leaves can ++ leavesOfEntries rest can

end

namespace WsiLeaf

/-- The field whose name the string begins with. -/
def names (x : WsiLeaf) : Option MsgDataType :=
  match x.object with
  | .str ptr _ =>
      [MsgDataType.data, .source, .time, .topic].find? (startsWith ptr)
  | _ => none

def isString (x : WsiLeaf) : Bool :=
  match x.object with
  | .str _ _ => true
  | _ => false

/-- The object is of the kind that belongs to the field. -/
def fits (x : WsiLeaf) : MsgDataType → Bool
  | .data => match x.object with
    | .bin _ _ => true
    | _ => false
  | .time => match x.object with
    | .scalar _ _ => true
    | _ => false
  | .source => x.isString
  | .topic => x.isString

/-- How many bytes a store of the object writes. -/
def stored (x : WsiLeaf) : Nat :=
  match x.object with
  | .scalar _ _ => 8
  | .bin _ size => fitting 8 size
  | .str _ size => fitting 20 size
  | _ => 0

/-- The value of the field it names would be a string. -/
def namesString (x : WsiLeaf) : Bool :=
  x.names = some .source || x.names = some .topic

end WsiLeaf

/-- A string that comes after these is read as a name and not as a value: among
the last strings, those that name `source` or `topic` go in pairs. -/
def ReadAsName (before : List WsiLeaf) : Prop :=
  Even ((before.filter WsiLeaf.isString).rtakeWhile
    WsiLeaf.namesString).length

/-- The name of the field was the last one read, and no value of its kind has
come since. -/
def Awaits (before : List WsiLeaf) (f : MsgDataType) : Prop :=
  ∃ front name back, before = front ++ name :: back ∧ name.names = some f ∧
    ReadAsName front ∧ ∀ x ∈ back, x.names = none ∧ x.fits f = false

/-! ## The mode after some objects -/

/-- `data_type` over the objects of the messages. -/
def wsiMode : Mealy (Option MsgDataType) WsiLeaf Unit where
  step m x := (if m.any x.fits then none else x.names.or m, [])

theorem WsiLeaf.names_of_not_string {x : WsiLeaf} (h : x.isString = false) :
    x.names = none := by
  obtain ⟨object, can⟩ := x
  cases object with
  | str ptr size => cases h
  | _ => rfl

theorem WsiLeaf.fits_of_string {x : WsiLeaf} (h : x.isString = true)
    (f : MsgDataType) : x.fits f = (f = .source || f = .topic) := by
  obtain ⟨object, can⟩ := x
  cases object with
  | str ptr size => cases f <;> rfl
  | _ => cases h

theorem readAsName_concat (before : List WsiLeaf) (x : WsiLeaf) :
    ReadAsName (before ++ [x]) ↔
      if x.isString then (x.namesString → ¬ ReadAsName before)
      else ReadAsName before := by
  unfold ReadAsName
  cases hstring : x.isString with
  | false => simp [List.filter_append, hstring]
  | true =>
      rw [List.filter_append, List.filter_singleton, hstring, cond_true,
        List.rtakeWhile_concat]
      cases hnames : x.namesString with
      | false => simp
      | true => simp [Nat.even_add_one]

theorem awaits_concat (before : List WsiLeaf) (x : WsiLeaf) (f : MsgDataType) :
    Awaits (before ++ [x]) f ↔
      x.names = some f ∧ ReadAsName before ∨
        Awaits before f ∧ x.names = none ∧ x.fits f = false := by
  constructor
  · rintro ⟨front, name, back, heq, hname, hread, hback⟩
    induction back using List.reverseRecOn with
    | nil =>
        obtain ⟨rfl, hlast⟩ := List.append_inj' heq rfl
        obtain ⟨rfl, -⟩ := List.cons.inj hlast
        exact .inl ⟨hname, hread⟩
    | append_singleton back last _ =>
        rw [← List.cons_append, ← List.append_assoc] at heq
        obtain ⟨rfl, hlast⟩ := List.append_inj' heq rfl
        obtain ⟨rfl, -⟩ := List.cons.inj hlast
        obtain ⟨hback, hx⟩ := List.forall_mem_append.mp hback
        exact .inr ⟨⟨front, name, back, rfl, hname, hread, hback⟩,
          hx x List.mem_cons_self⟩
  · rintro (⟨hname, hread⟩ | ⟨⟨front, name, back, rfl, hname, hread, hback⟩, hx⟩)
    · exact ⟨before, x, [], rfl, hname, hread, nofun⟩
    · refine ⟨front, name, back ++ [x], by simp, hname, hread, ?_⟩
      rintro y hy
      rcases List.mem_append.mp hy with hold | hnew
      · exact hback y hold
      · rw [List.mem_singleton.mp hnew]
        exact hx

theorem not_awaits_nil (f : MsgDataType) : ¬ Awaits [] f := by
  rintro ⟨front, name, back, heq, -⟩
  exact absurd heq.symm (List.append_ne_nil_of_right_ne_nil _ nofun)

theorem wsiMode_final_concat (before : List WsiLeaf) (x : WsiLeaf) :
    wsiMode.final none (before ++ [x]) =
      if (wsiMode.final none before).any x.fits then none
      else x.names.or (wsiMode.final none before) := by
  rw [Mealy.final_append]
  rfl

theorem wsiMode_step_eq_some (m : Option MsgDataType) (x : WsiLeaf)
    (f : MsgDataType) :
    (if m.any x.fits then none else x.names.or m) = some f ↔
      x.names = some f ∧ m ≠ some .source ∧ m ≠ some .topic ∨
        m = some f ∧ x.names = none ∧ x.fits f = false := by
  cases hstring : x.isString with
  | false =>
      have hnames := WsiLeaf.names_of_not_string hstring
      cases m with
      | none => simp [hnames]
      | some g =>
          cases hfits : x.fits g with
          | false =>
              simp only [hnames, Option.any_some, hfits]
              grind
          | true =>
              simp only [hnames, Option.any_some, hfits]
              grind
  | true =>
      have hfits := WsiLeaf.fits_of_string hstring
      cases m with
      | none => simp
      | some g =>
          cases g with
          | data | time =>
              cases x.names with
              | none => cases f <;> simp [hfits]
              | some h => simp [hfits]
          | source | topic => cases f <;> simp [hfits]

theorem wsiMode_step_strings (m : Option MsgDataType) (x : WsiLeaf) :
    ((if m.any x.fits then none else x.names.or m) ≠ some .source ∧
        (if m.any x.fits then none else x.names.or m) ≠ some .topic) ↔
      if x.isString then
        (x.namesString → ¬ (m ≠ some .source ∧ m ≠ some .topic))
      else m ≠ some .source ∧ m ≠ some .topic := by
  cases hstring : x.isString with
  | false =>
      have hnames := WsiLeaf.names_of_not_string hstring
      have hsource : x.fits .source = false := hstring
      have htopic : x.fits .topic = false := hstring
      cases m with
      | none => simp [hnames]
      | some g => cases g <;> simp [hnames, hsource, htopic]
  | true =>
      have hfits := WsiLeaf.fits_of_string hstring
      cases m with
      | none => simp [WsiLeaf.namesString]
      | some g =>
          cases g with
          | data | time =>
              cases hnames : x.names with
              | none => simp [WsiLeaf.namesString, hfits, hnames]
              | some h => simp [WsiLeaf.namesString, hfits, hnames]
          | source | topic => simp [hfits]

/-- By induction from the last object: a string is read as a name exactly if
neither `source` nor `topic` waits for it. -/
theorem wsiMode_final (before : List WsiLeaf) :
    (∀ f, wsiMode.final none before = some f ↔ Awaits before f) ∧
      (ReadAsName before ↔ wsiMode.final none before ≠ some .source ∧
        wsiMode.final none before ≠ some .topic) := by
  induction before using List.reverseRecOn with
  | nil =>
      refine ⟨fun f => ?_, ?_⟩
      · exact ⟨nofun, fun h => absurd h (not_awaits_nil f)⟩
      · simp [ReadAsName]
  | append_singleton before x ih =>
      obtain ⟨hawaits, hread⟩ := ih
      rw [wsiMode_final_concat, wsiMode_step_strings, readAsName_concat, hread]
      refine ⟨fun f => ?_, Iff.rfl⟩
      rw [awaits_concat, ← hawaits, hread]
      exact wsiMode_step_eq_some _ x f

/-! ## Stores -/

/-- The object is not stored through the null pointer. -/
def StoresSafely (m : Option MsgDataType) (x : WsiLeaf) : Prop :=
  m.any x.fits → x.can = .null → x.stored = 0

instance (m : Option MsgDataType) (x : WsiLeaf) :
    Decidable (StoresSafely m x) :=
  inferInstanceAs (Decidable (m.any x.fits → x.can = .null → x.stored = 0))

def WsiLeaf.visit (m : Option MsgDataType) (x : WsiLeaf) :
    Option (Option MsgDataType) :=
  if StoresSafely m x then some (wsiMode.step m x).1 else none

theorem WsiLeaf.foldlM_visit_singleton (m : Option MsgDataType)
    (x : WsiLeaf) : [x].foldlM WsiLeaf.visit m = x.visit m := by
  simp

theorem CanPtr.store_dataType (can : CanPtr) (n : Nat)
    (f : WsiFrame → WsiFrame) (s : WsiParse) :
    (can.store n f s).map WsiParse.dataType =
      if can = .null → n = 0 then some s.dataType else none := by
  cases can with
  | null =>
      unfold store
      split_ifs <;> simp_all
  | frame => simp [store]

theorem msgpackScalarGet_dataType (type : MsgpackScalar) (u64 : UInt64)
    (can : CanPtr) (s : WsiParse) :
    (msgpackScalarGet u64 can s).map WsiParse.dataType =
      WsiLeaf.visit s.dataType ⟨.scalar type u64, can⟩ := by
  obtain ⟨m, frame⟩ := s
  cases m with
  | none => rfl
  | some g =>
      cases g with
      | time =>
          simp [msgpackScalarGet, CanPtr.store_dataType, WsiLeaf.visit,
            StoresSafely, WsiLeaf.fits, WsiLeaf.stored, wsiMode]
      | _ => rfl

theorem msgpackBinGet_dataType (ptr : Mem UInt8) (size : Nat) (can : CanPtr)
    (s : WsiParse) :
    (msgpackBinGet ptr size can s).map WsiParse.dataType =
      WsiLeaf.visit s.dataType ⟨.bin ptr size, can⟩ := by
  obtain ⟨m, frame⟩ := s
  cases m with
  | none => rfl
  | some g =>
      cases g with
      | data =>
          simp [msgpackBinGet, CanPtr.store_dataType, WsiLeaf.visit,
            StoresSafely, WsiLeaf.fits, WsiLeaf.stored, wsiMode]
      | _ => rfl

theorem msgpackStrGet_dataType (ptr : Mem UInt8) (size : Nat) (can : CanPtr)
    (s : WsiParse) :
    (msgpackStrGet ptr size can s).map WsiParse.dataType =
      WsiLeaf.visit s.dataType ⟨.str ptr size, can⟩ := by
  obtain ⟨m, frame⟩ := s
  by_cases hm : m = some .source ∨ m = some .topic
  · rcases hm with rfl | rfl
    · simp [msgpackStrGet, CanPtr.store_dataType, WsiLeaf.visit, StoresSafely,
        WsiLeaf.fits, WsiLeaf.isString, WsiLeaf.stored, wsiMode]
    · simp [msgpackStrGet, CanPtr.store_dataType, WsiLeaf.visit, StoresSafely,
        WsiLeaf.fits, WsiLeaf.isString, WsiLeaf.stored, wsiMode]
  · obtain ⟨hsource, htopic⟩ := not_or.mp hm
    have hfits : m.any (WsiLeaf.fits ⟨.str ptr size, can⟩) = false := by
      cases m with
      | none => rfl
      | some g => cases g <;> simp_all [WsiLeaf.fits]
    simp only [msgpackStrGet, hsource, htopic, if_false, WsiLeaf.visit,
      StoresSafely, hfits, wsiMode, WsiLeaf.names, List.find?]
    cases startsWith ptr .data <;> cases startsWith ptr .source <;>
      cases startsWith ptr .time <;> cases startsWith ptr .topic <;> simp

mutual

theorem msgpackObjectGet_dataType (o : MsgpackObject) (can : CanPtr)
    (s : WsiParse) :
    (msgpackObjectGet o can s).map WsiParse.dataType =
      (o.leaves can).foldlM WsiLeaf.visit s.dataType := by
  cases o with
  | scalar type u64 =>
      rw [MsgpackObject.leaves, WsiLeaf.foldlM_visit_singleton]
      exact msgpackScalarGet_dataType type u64 can s
  | bin ptr size =>
      rw [MsgpackObject.leaves, WsiLeaf.foldlM_visit_singleton]
      exact msgpackBinGet_dataType ptr size can s
  | str ptr size =>
      rw [MsgpackObject.leaves, WsiLeaf.foldlM_visit_singleton]
      exact msgpackStrGet_dataType ptr size can s
  | map entries => exact msgpackEntriesGet_dataType entries can s
  | unknown u64 =>
      rw [MsgpackObject.leaves, WsiLeaf.foldlM_visit_singleton]
      obtain ⟨m, frame⟩ := s
      cases m with
      | none => rfl
      | some g => cases g <;> rfl

theorem msgpackEntriesGet_dataType
    (entries : List (MsgpackObject × MsgpackObject)) (can : CanPtr)
    (s : WsiParse) :
    (msgpackEntriesGet entries can s).map WsiParse.dataType =
      (leavesOfEntries entries can).foldlM WsiLeaf.visit s.dataType := by
  cases entries with
  | nil => rfl
  | cons entry rest =>
      obtain ⟨key, val⟩ := entry
      rw [msgpackEntriesGet, leavesOfEntries, List.foldlM_append,
        List.foldlM_append, ← msgpackObjectGet_dataType key .null s]
      cases msgpackObjectGet key .null s with
      | none => rfl
      | some s =>
          have hval := msgpackObjectGet_dataType val can s
          simp only [Option.bind_eq_bind, Option.bind_some, Option.map_some,
            ← hval]
          cases msgpackObjectGet val can s with
          | none => rfl
          | some s => exact msgpackEntriesGet_dataType rest can s

end

theorem storesSafely_iff (before : List WsiLeaf) (x : WsiLeaf) :
    StoresSafely (wsiMode.final none before) x ↔
      (x.can = .null → x.stored ≠ 0 →
        ∀ f, Awaits before f → x.fits f = false) := by
  have hawaits := (wsiMode_final before).1
  unfold StoresSafely
  constructor
  · intro hsafe hnull hstored f hf
    by_contra hfits
    refine hstored (hsafe ?_ hnull)
    rw [(hawaits f).mpr hf]
    exact eq_true_of_ne_false hfits
  · intro h hany hnull
    by_contra hstored
    obtain ⟨f, hm, hfits⟩ := (Option.any_eq_true _ _).mp hany
    rw [h hnull hstored f ((hawaits f).mp hm)] at hfits
    cases hfits

/-- The messages one after the other; each is unpacked into a frame of its
own. -/
def unpackWsiMsgs : List MsgpackObject → Option MsgDataType →
    Option (Option MsgDataType × List WsiFrame)
  | [], m => some (m, [])
  | o :: rest, m => do
      let s ← unpackWsiMsg o m
      let (m, frames) ← unpackWsiMsgs rest s.dataType
      pure (m, s.can :: frames)

theorem unpackWsiMsgs_dataType (history : List MsgpackObject)
    (m : Option MsgDataType) :
    (unpackWsiMsgs history m).map Prod.fst =
      (history.flatMap (·.leaves .frame)).foldlM WsiLeaf.visit m := by
  induction history generalizing m with
  | nil => rfl
  | cons o rest ih =>
      have hfirst := msgpackObjectGet_dataType o .frame ⟨m, .zero⟩
      rw [List.flatMap_cons, List.foldlM_append, ← hfirst]
      simp only [unpackWsiMsgs, unpackWsiMsg]
      cases msgpackObjectGet o .frame ⟨m, .zero⟩ with
      | none => rfl
      | some s =>
          simp only [Option.map_some, Option.bind_eq_bind, Option.bind_some,
            ← ih s.dataType]
          cases unpackWsiMsgs rest s.dataType with
          | none => rfl
          | some out => rfl

/-- No message of a history is stored through the null pointer exactly when no
object inside a key is of the kind of the field that waits, but for strings and
binaries of no bytes. -/
theorem unpackWsiMsgs_isSome_iff (history : List MsgpackObject) :
    (unpackWsiMsgs history none).isSome ↔
      ∀ before x after,
        history.flatMap (·.leaves .frame) = before ++ x :: after →
        x.can = .null → x.stored ≠ 0 →
        ∀ f, Awaits before f → x.fits f = false := by
  have hrun := Mealy.foldlM_isSome_iff (M := wsiMode) (A := StoresSafely)
    (f := WsiLeaf.visit) (fun _ _ hsafe => if_pos hsafe)
    (fun _ _ hunsafe => if_neg hunsafe) none
    (history.flatMap (·.leaves .frame))
  rw [← unpackWsiMsgs_dataType, Option.isSome_map] at hrun
  refine hrun.trans (forall_congr' fun before => forall_congr' fun x =>
    forall_congr' fun after => forall_congr' fun _ => ?_)
  exact storesSafely_iff before x

/-- The value of `source` is a number, so that the next key is stored. -/
def numberedSource : MsgpackObject :=
  .map [(.str (Mem.ofList MsgDataType.source.name) 6,
      .scalar .positiveInteger 1),
    (.str (Mem.ofList ['x'.toUInt8]) 1, .scalar .positiveInteger 2)]

theorem unpackWsiMsgs_numberedSource :
    unpackWsiMsgs [numberedSource] none = none := rfl

end SanbaoProt
