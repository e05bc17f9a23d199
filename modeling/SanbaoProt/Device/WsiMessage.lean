import Mathlib.Data.List.Nodup
import Mathlib.Data.List.Perm.Basic
import SanbaoProt.Library.Memory

/-!
# Fields of a websocket message

`msgpack_object_get` of `wsi.cpp` walks a message and picks four fields out of
it.  Keys and values go through the same branches: a static holds the field
whose name was read last, and the value that follows resets it.  Keys are
visited without a frame to write to, so a store there ends the process.
-/

namespace SanbaoProt

open Library

inductive MsgDataType where
  | data
  | source
  | time
  | topic
  deriving DecidableEq, Repr

/-- The types that share a branch. -/
inductive MsgpackScalar where
  | nil
  | boolean
  | positiveInteger
  | negativeInteger
  | float32
  | float64
  | ext
  | array
  deriving DecidableEq, Repr

/-- `u64` is the first word of the union.  A string is not terminated: its
pointer leads on into the rest of the message. -/
inductive MsgpackObject where
  | scalar (type : MsgpackScalar) (u64 : UInt64)
  | bin (ptr : Mem UInt8) (size : Nat)
  | str (ptr : Mem UInt8) (size : Nat)
  | map (entries : List (MsgpackObject × MsgpackObject))
  /-- A type that the library does not know. -/
  | unknown (u64 : UInt64)

structure WsiFrame where
  warning : Vector UInt8 8
  source : Vector UInt8 20
  time : UInt64
  topic : Vector UInt8 20
  deriving DecidableEq, Repr

def WsiFrame.zero : WsiFrame :=
  ⟨Vector.replicate 8 0, Vector.replicate 20 0, 0, Vector.replicate 20 0⟩

inductive CanPtr where
  | null
  | frame
  deriving DecidableEq, Repr

/-- `data_type` (`none` is 0) and the frame of `unpack_wsi_msg`. -/
structure WsiParse where
  dataType : Option MsgDataType
  can : WsiFrame
  deriving DecidableEq, Repr

/-- A store of `n` bytes through the pointer. -/
def CanPtr.store (can : CanPtr) (n : Nat) (f : WsiFrame → WsiFrame)
    (s : WsiParse) : Option WsiParse :=
  match can with
  | .null => if n = 0 then some s else none
  | .frame => some { s with can := f s.can }

/-- How much of a value fits in a field of `n` bytes. -/
def fitting (n size : Nat) : Nat := if size > n then n else size

def memcpyField {n : Nat} (dst : Vector UInt8 n) (ptr : Mem UInt8)
    (size : Nat) : Vector UInt8 n :=
  Vector.ofFn fun i => if i.val < fitting n size then ptr i else dst[i]

def MsgDataType.name : MsgDataType → List UInt8
  | data => ['d', 'a', 't', 'a'].map fun c => .ofNat c.toNat
  | source => ['s', 'o', 'u', 'r', 'c', 'e'].map fun c => .ofNat c.toNat
  | time => ['t', 'i', 'm', 'e'].map fun c => .ofNat c.toNat
  | topic => ['t', 'o', 'p', 'i', 'c'].map fun c => .ofNat c.toNat

/-- `!strncmp(ptr, name, strlen(name))`. -/
def startsWith (ptr : Mem UInt8) (field : MsgDataType) : Bool :=
  ptr.read 0 field.name.length == field.name

def msgpackScalarGet (u64 : UInt64) (can : CanPtr) (s : WsiParse) :
    Option WsiParse :=
  if s.dataType = some .time then
    can.store 8 (fun f => { f with time := u64 }) { s with dataType := none }
  else some s

def msgpackBinGet (ptr : Mem UInt8) (size : Nat) (can : CanPtr)
    (s : WsiParse) : Option WsiParse :=
  if s.dataType = some .data then
    can.store (fitting 8 size)
      (fun f => { f with warning := memcpyField f.warning ptr size })
      { s with dataType := none }
  else some s

def msgpackStrGet (ptr : Mem UInt8) (size : Nat) (can : CanPtr)
    (s : WsiParse) : Option WsiParse :=
  if s.dataType = some .source then
    can.store (fitting 20 size)
      (fun f => { f with source := memcpyField f.source ptr size })
      { s with dataType := none }
  else if s.dataType = some .topic then
    can.store (fitting 20 size)
      (fun f => { f with topic := memcpyField f.topic ptr size })
      { s with dataType := none }
  else if startsWith ptr .data then some { s with dataType := some .data }
  else if startsWith ptr .source then some { s with dataType := some .source }
  else if startsWith ptr .time then some { s with dataType := some .time }
  else if startsWith ptr .topic then some { s with dataType := some .topic }
  else some s

mutual

/-- `none` is a store through the null pointer. -/
def msgpackObjectGet : MsgpackObject → CanPtr → WsiParse → Option WsiParse
  | .scalar _ u64, can, s => msgpackScalarGet u64 can s
  | .bin ptr size, can, s => msgpackBinGet ptr size can s
  | .str ptr size, can, s => msgpackStrGet ptr size can s
  | .map entries, can, s => msgpackEntriesGet entries can s
  | .unknown _, _, s => some s

def msgpackEntriesGet : List (MsgpackObject × MsgpackObject) → CanPtr →
    WsiParse → Option WsiParse
  | [], _, s => some s
  | (key, val) :: rest, can, s => do
      let s ← msgpackObjectGet key .null s
      let s ← msgpackObjectGet val can s
      msgpackEntriesGet rest can s

end

/-- The frame of a message that `data_type` finds as an earlier one left it. -/
def unpackWsiMsg (o : MsgpackObject) (dataType : Option MsgDataType) :
    Option WsiParse :=
  msgpackObjectGet o .frame ⟨dataType, .zero⟩

/-! ## Well-formed messages -/

/-- A field of a message and its value. -/
inductive WsiValue where
  | data (bytes : List UInt8)
  | source (bytes : List UInt8)
  | time (value : UInt64)
  | topic (bytes : List UInt8)
  deriving DecidableEq, Repr

namespace WsiValue

def dataType : WsiValue → MsgDataType
  | data _ => .data
  | source _ => .source
  | time _ => .time
  | topic _ => .topic

def data? : WsiValue → Option (List UInt8)
  | data bytes => some bytes
  | _ => none

def source? : WsiValue → Option (List UInt8)
  | source bytes => some bytes
  | _ => none

def time? : WsiValue → Option UInt64
  | time value => some value
  | _ => none

def topic? : WsiValue → Option (List UInt8)
  | topic bytes => some bytes
  | _ => none

end WsiValue

/-- An entry of a map whose key is the name of a field and whose value is of the
kind that belongs to it. -/
inductive WsiEntry : MsgpackObject × MsgpackObject → WsiValue → Prop where
  | data {key ptr : Mem UInt8} {size : Nat}
      (hkey : key.read 0 4 = MsgDataType.data.name) :
      WsiEntry (.str key 4, .bin ptr size) (.data (ptr.read 0 size))
  | source {key ptr : Mem UInt8} {size : Nat}
      (hkey : key.read 0 6 = MsgDataType.source.name) :
      WsiEntry (.str key 6, .str ptr size) (.source (ptr.read 0 size))
  | time {key : Mem UInt8} {value : UInt64}
      (hkey : key.read 0 4 = MsgDataType.time.name) :
      WsiEntry (.str key 4, .scalar .positiveInteger value) (.time value)
  | topic {key ptr : Mem UInt8} {size : Nat}
      (hkey : key.read 0 5 = MsgDataType.topic.name) :
      WsiEntry (.str key 5, .str ptr size) (.topic (ptr.read 0 size))

/-- The first `n` bytes, followed by zeros. -/
def truncated (n : Nat) (bytes : List UInt8) : Vector UInt8 n :=
  Vector.ofFn fun i => (bytes.take n).getD i 0

/-- `out` is what the message gives for a field, or zero if it has none. -/
def FieldIs {β γ : Type*} (pick : WsiValue → Option β) (store : β → γ)
    (zero : γ) (values : List WsiValue) (out : γ) : Prop :=
  (∀ v ∈ values, ∀ b, pick v = some b → out = store b) ∧
    ((∀ v ∈ values, pick v = none) → out = zero)

structure WsiFrame.Extracts (can : WsiFrame) (values : List WsiValue) :
    Prop where
  warning : FieldIs WsiValue.data? (truncated 8) (Vector.replicate 8 0) values
    can.warning
  source : FieldIs WsiValue.source? (truncated 20) (Vector.replicate 20 0)
    values can.source
  time : FieldIs WsiValue.time? id 0 values can.time
  topic : FieldIs WsiValue.topic? (truncated 20) (Vector.replicate 20 0) values
    can.topic

/-! ### One entry -/

/-- The bytes over the first of the field, which keeps the others. -/
def overwrite {n : Nat} (dst : Vector UInt8 n) (bytes : List UInt8) :
    Vector UInt8 n :=
  Vector.ofFn fun i => bytes.getD i dst[i]

theorem memcpyField_eq {n : Nat} (dst : Vector UInt8 n) (ptr : Mem UInt8)
    (size : Nat) : memcpyField dst ptr size = overwrite dst (ptr.read 0 size) := by
  apply Vector.ext
  intro i hi
  simp only [memcpyField, overwrite, Vector.getElem_ofFn,
    List.getD_eq_getElem?_getD]
  by_cases hin : i < size
  · have hfits : i < fitting n size := by
      unfold fitting
      split_ifs <;> omega
    have hlength : i < (ptr.read 0 size).length := by
      rw [Mem.length_read]
      exact hin
    simp [hfits, List.getElem?_eq_getElem hlength]
  · have hout : ¬ i < fitting n size := by
      unfold fitting
      split_ifs <;> omega
    have hlength : (ptr.read 0 size).length ≤ i := by
      rw [Mem.length_read]
      omega
    simp [hout, List.getElem?_eq_none hlength]

theorem overwrite_zero (n : Nat) (bytes : List UInt8) :
    overwrite (Vector.replicate n 0) bytes = truncated n bytes := by
  apply Vector.ext
  intro i hi
  simp [overwrite, truncated, List.getD_eq_getElem?_getD]

def WsiFrame.set (can : WsiFrame) : WsiValue → WsiFrame
  | .data bytes => { can with warning := overwrite can.warning bytes }
  | .source bytes => { can with source := overwrite can.source bytes }
  | .time value => { can with time := value }
  | .topic bytes => { can with topic := overwrite can.topic bytes }

theorem MsgDataType.name_inj {a b : MsgDataType}
    (h : a.name.take 2 = b.name.take 2) : a = b := by
  cases a <;> cases b <;> first | rfl | exact absurd h (by decide)

theorem startsWith_inj {ptr : Mem UInt8} {a b : MsgDataType}
    (ha : startsWith ptr a) (hb : startsWith ptr b) : a = b := by
  have htwo : ∀ c : MsgDataType, startsWith ptr c →
      ptr.read 0 2 = c.name.take 2 := by
    intro c hc
    have hread : ptr.read 0 c.name.length = c.name := eq_of_beq hc
    have hlength : 2 ≤ c.name.length := by
      cases c <;> decide
    rw [← hread, Mem.take_read ptr 0 hlength]
  exact MsgDataType.name_inj ((htwo a ha).symm.trans (htwo b hb))

theorem startsWith_eq {ptr : Mem UInt8} {a : MsgDataType}
    (ha : startsWith ptr a) (b : MsgDataType) :
    startsWith ptr b = decide (a = b) := by
  cases hb : startsWith ptr b with
  | false =>
      refine (decide_eq_false fun heq => ?_).symm
      rw [← heq, ha] at hb
      cases hb
  | true => exact (decide_eq_true (startsWith_inj ha hb)).symm

/-- The key sets `data_type`, the value is stored and resets it. -/
theorem WsiEntry.get {entry : MsgpackObject × MsgpackObject} {v : WsiValue}
    (h : WsiEntry entry v) (can : WsiFrame) :
    msgpackObjectGet entry.1 .null ⟨none, can⟩ = some ⟨some v.dataType, can⟩ ∧
      msgpackObjectGet entry.2 .frame ⟨some v.dataType, can⟩ =
        some ⟨none, can.set v⟩ := by
  have hname {key : Mem UInt8} {f : MsgDataType} {n : Nat}
      (hkey : key.read 0 f.name.length = f.name) :
      msgpackObjectGet (.str key n) .null ⟨none, can⟩ = some ⟨some f, can⟩ := by
    have hstarts := startsWith_eq (beq_iff_eq.mpr hkey)
    cases f <;> simp [msgpackObjectGet, msgpackStrGet, hstarts]
  cases h with
  | data hkey =>
      refine ⟨hname hkey, ?_⟩
      simp [msgpackObjectGet, msgpackBinGet, WsiValue.dataType, CanPtr.store,
        WsiFrame.set, memcpyField_eq]
  | source hkey =>
      refine ⟨hname hkey, ?_⟩
      simp [msgpackObjectGet, msgpackStrGet, WsiValue.dataType, CanPtr.store,
        WsiFrame.set, memcpyField_eq]
  | time hkey =>
      refine ⟨hname hkey, ?_⟩
      simp [msgpackObjectGet, msgpackScalarGet, WsiValue.dataType,
        CanPtr.store, WsiFrame.set]
  | topic hkey =>
      refine ⟨hname hkey, ?_⟩
      simp [msgpackObjectGet, msgpackStrGet, WsiValue.dataType, CanPtr.store,
        WsiFrame.set, memcpyField_eq]

theorem msgpackEntriesGet_fields {entries : List (MsgpackObject × MsgpackObject)}
    {values : List WsiValue} (h : List.Forall₂ WsiEntry entries values)
    (can : WsiFrame) :
    msgpackEntriesGet entries .frame ⟨none, can⟩ =
      some ⟨none, values.foldl WsiFrame.set can⟩ := by
  induction h generalizing can with
  | nil => rfl
  | @cons entry v entries values hentry _ ih =>
      obtain ⟨hkey, hval⟩ := hentry.get can
      obtain ⟨key, val⟩ := entry
      simp only [msgpackEntriesGet, hkey, hval, Option.bind_eq_bind,
        Option.bind_some]
      exact ih (can.set v)

/-! ### All entries -/

section Field

variable {β γ : Type*} {pick : WsiValue → Option β} {store : β → γ} {zero : γ}

theorem filterMap_pick {f : MsgDataType} {values : List WsiValue}
    (hpick : ∀ v b, pick v = some b → v.dataType = f)
    (hdistinct : (values.map WsiValue.dataType).Nodup) {v : WsiValue}
    (hv : v ∈ values) {b : β} (hb : pick v = some b) :
    values.filterMap pick = [b] := by
  obtain ⟨front, back, rfl⟩ := List.append_of_mem hv
  rw [List.map_append, List.map_cons, List.nodup_middle, ← List.map_append,
    List.nodup_cons] at hdistinct
  have hother : ∀ w ∈ front ++ back, pick w = none := by
    intro w hw
    cases hpicked : pick w with
    | none => rfl
    | some c =>
        refine absurd (List.mem_map.mpr ⟨w, hw, ?_⟩) hdistinct.1
        rw [hpick w c hpicked, hpick v b hb]
  obtain ⟨hfront, hback⟩ := List.forall_mem_append.mp hother
  rw [List.filterMap_append, List.filterMap_cons_some hb,
    List.filterMap_eq_nil_iff.mpr hfront, List.filterMap_eq_nil_iff.mpr hback]
  rfl

/-- A field on which every value but its own has no effect. -/
theorem fieldIs_foldl {f : MsgDataType} {values : List WsiValue}
    (hpick : ∀ v b, pick v = some b → v.dataType = f)
    (hdistinct : (values.map WsiValue.dataType).Nodup) (get : WsiFrame → γ)
    (put : γ → β → γ)
    (hset : ∀ (can : WsiFrame) v,
      get (can.set v) = (pick v).elim (get can) (put (get can)))
    (hstore : ∀ b, put zero b = store b) {can : WsiFrame}
    (hzero : get can = zero) :
    FieldIs pick store zero values (get (values.foldl WsiFrame.set can)) := by
  have hfold : ∀ (vs : List WsiValue) (can : WsiFrame),
      get (vs.foldl WsiFrame.set can) =
        (vs.filterMap pick).foldl put (get can) := by
    intro vs
    induction vs with
    | nil => exact fun _ => rfl
    | cons v vs ih =>
        intro can
        rw [List.foldl_cons, ih, hset]
        cases hv : pick v with
        | none => rw [List.filterMap_cons_none hv, Option.elim_none]
        | some b =>
            rw [List.filterMap_cons_some hv, Option.elim_some, List.foldl_cons]
  rw [hfold, hzero]
  constructor
  · intro v hv b hb
    rw [filterMap_pick hpick hdistinct hv hb]
    exact hstore b
  · intro hnone
    rw [List.filterMap_eq_nil_iff.mpr hnone]
    rfl

end Field

theorem WsiFrame.extracts_foldl {values : List WsiValue}
    (hdistinct : (values.map WsiValue.dataType).Nodup) :
    (values.foldl WsiFrame.set .zero).Extracts values := by
  constructor
  · refine fieldIs_foldl (f := .data) ?_ hdistinct WsiFrame.warning overwrite ?_
      (overwrite_zero 8) rfl
    · intro v b hb
      cases v with
      | data bytes => rfl
      | _ => cases hb
    · intro can v
      cases v <;> simp only [set, WsiValue.data?, Option.elim]
  · refine fieldIs_foldl (f := .source) ?_ hdistinct WsiFrame.source overwrite
      ?_ (overwrite_zero 20) rfl
    · intro v b hb
      cases v with
      | source bytes => rfl
      | _ => cases hb
    · intro can v
      cases v <;> simp only [set, WsiValue.source?, Option.elim]
  · refine fieldIs_foldl (f := .time) ?_ hdistinct WsiFrame.time
      (fun _ value => value) ?_ (fun _ => rfl) rfl
    · intro v b hb
      cases v with
      | time value => rfl
      | _ => cases hb
    · intro can v
      cases v <;> simp only [set, WsiValue.time?, Option.elim]
  · refine fieldIs_foldl (f := .topic) ?_ hdistinct WsiFrame.topic overwrite
      ?_ (overwrite_zero 20) rfl
    · intro v b hb
      cases v with
      | topic bytes => rfl
      | _ => cases hb
    · intro can v
      cases v <;> simp only [set, WsiValue.topic?, Option.elim]

theorem FieldIs.unique {β γ : Type*} {pick : WsiValue → Option β}
    {store : β → γ} {zero : γ} {values values' : List WsiValue}
    (hsame : ∀ v, v ∈ values ↔ v ∈ values') {out out' : γ}
    (h : FieldIs pick store zero values out)
    (h' : FieldIs pick store zero values' out') : out = out' := by
  by_cases hnone : ∀ v ∈ values, pick v = none
  · have hnone' := fun v hv => hnone v ((hsame v).mpr hv)
    rw [h.2 hnone, h'.2 hnone']
  · push Not at hnone
    obtain ⟨v, hv, hsome⟩ := hnone
    obtain ⟨b, hb⟩ := Option.ne_none_iff_exists'.mp hsome
    rw [h.1 v hv b hb, h'.1 v ((hsame v).mp hv) b hb]

theorem WsiFrame.Extracts.unique {values values' : List WsiValue}
    (hsame : ∀ v, v ∈ values ↔ v ∈ values') {can can' : WsiFrame}
    (h : can.Extracts values) (h' : can'.Extracts values') : can = can' := by
  have hwarning := h.warning.unique hsame h'.warning
  have hsource := h.source.unique hsame h'.source
  have htime := h.time.unique hsame h'.time
  have htopic := h.topic.unique hsame h'.topic
  obtain ⟨warning, source, time, topic⟩ := can
  simp only at hwarning hsource htime htopic
  rw [hwarning, hsource, htime, htopic]

theorem unpackWsiMsg_extracts
    {entries : List (MsgpackObject × MsgpackObject)} {values : List WsiValue}
    (h : List.Forall₂ WsiEntry entries values)
    (hdistinct : (values.map WsiValue.dataType).Nodup) :
    unpackWsiMsg (.map entries) none =
        some ⟨none, values.foldl WsiFrame.set .zero⟩ ∧
      (values.foldl WsiFrame.set .zero).Extracts values :=
  ⟨msgpackEntriesGet_fields h .zero, WsiFrame.extracts_foldl hdistinct⟩

/-- The fields of a well-formed message are found in whatever order its entries
are. -/
theorem unpackWsiMsg_fields {entries : List (MsgpackObject × MsgpackObject)}
    {values : List WsiValue} (h : List.Forall₂ WsiEntry entries values)
    (hdistinct : (values.map WsiValue.dataType).Nodup) :
    ∃ can : WsiFrame, can.Extracts values ∧
      ∀ entries', entries'.Perm entries →
        unpackWsiMsg (.map entries') none = some ⟨none, can⟩ := by
  obtain ⟨-, hextracts⟩ := unpackWsiMsg_extracts h hdistinct
  refine ⟨values.foldl WsiFrame.set .zero, hextracts, fun entries' hperm => ?_⟩
  obtain ⟨values', h', hperm'⟩ := List.perm_comp_forall₂ hperm h
  have hdistinct' := ((hperm'.map WsiValue.dataType).nodup_iff).mpr hdistinct
  obtain ⟨hget', hextracts'⟩ := unpackWsiMsg_extracts h' hdistinct'
  rw [hget', hextracts'.unique (fun _ => hperm'.mem_iff) hextracts]

/-- The topic of the message is the name of another field. -/
theorem unpackWsiMsg_fields_topicTime :
    ∃ can : WsiFrame,
      can.Extracts [.topic MsgDataType.time.name, .time 7] ∧
        ∀ entries', entries'.Perm
          [(.str (Mem.ofList MsgDataType.topic.name) 5,
            .str (Mem.ofList MsgDataType.time.name) 4),
            (.str (Mem.ofList MsgDataType.time.name) 4,
              .scalar .positiveInteger 7)] →
          unpackWsiMsg (.map entries') none = some ⟨none, can⟩ :=
  unpackWsiMsg_fields
    (.cons (.topic rfl) (.cons (.time rfl) .nil)) (by decide)

end SanbaoProt
