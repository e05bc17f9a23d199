import Mathlib.Tactic.IntervalCases
import SanbaoProt.Device.WsiMessage
import SanbaoProt.Library.Mealy
import SanbaoProt.Library.Throttle
import SanbaoProt.Protocol

/-!
# The websocket client

`pthread_websocket_client` holds one connection to the program that watches the
camera.  On each connection `callback_lws_communicate` asks for the topics of
its build, one at a time as the connection becomes writeable, and hands over
what it receives.  Both go by statics that outlive the connection.
-/

namespace SanbaoProt

open Library

/-! ## Requests -/

def bytesOf (text : String) : List UInt8 :=
  text.toList.map fun c => .ofNat c.toNat

def messageCan700 : List UInt8 := bytesOf "output.can.0x700"

def messageCan760 : List UInt8 := bytesOf "output.can.0x760"

def dmsAlert0x100 : List UInt8 := bytesOf "dms.alert.0x100"

/-- `Subscribe_Msg`: the topic that is asked for at an index. -/
def subscribeMsg (b : Build) (index : Nat) : Option (List UInt8) :=
  match b, index with
  | .adas, 1 => some messageCan700
  | .adas, 2 => some messageCan760
  | .dms, 1 => some dmsAlert0x100
  | _, _ => none

def messageIndexMax : Build → Nat
  | .adas => 3
  | .dms => 2

/-- A string of less than 32 bytes. -/
def msgpackPackStr (body : List UInt8) : List UInt8 :=
  .ofNat (0xA0 + body.length) :: body

def packWsiMsg (len : Nat) (name : List UInt8) : List UInt8 :=
  let fields := [bytesOf "topic", bytesOf "subscribe", bytesOf "source",
    bytesOf "client-name", bytesOf "data", name]
  (0x83 :: fields.flatMap msgpackPackStr).take len

def lwsWriteBufLen : Nat := 512

/-! ## The client -/

inductive LwsCallback where
  | established
  | closed
  | receive (o : MsgpackObject)
  | connectionError
  | writeable
  | wsiDestroy
  /-- A reason that is answered without looking at the client. -/
  | other

/-- The statics of `wsi.cpp` and the variables of the thread. -/
structure WsiClient where
  msgSendIndex : Nat
  /-- `wsi_dumb` is not null. -/
  wsiDumb : Bool
  rlDumb : UInt32
  dataType : Option MsgDataType
  /-- A message has been stored through the null pointer. -/
  crashed : Bool

def WsiClient.start : WsiClient := ⟨0, false, 0, none, false⟩

inductive WsiEffect where
  | connect (now : Nat)
  | onWritable
  | write (data : List UInt8)
  | can700 (can : WsiFrame)
  | can760 (can : WsiFrame)
  | dmsInfo (can : WsiFrame)
  deriving DecidableEq, Repr

def topicIs (can : WsiFrame) (name : List UInt8) : Prop :=
  can.topic.toList.take name.length = name

instance (can : WsiFrame) (name : List UInt8) : Decidable (topicIs can name) :=
  inferInstanceAs (Decidable (_ = _))

/-- The end of `unpack_wsi_msg`. -/
def dealWsi (b : Build) (can : WsiFrame) : List WsiEffect :=
  match b with
  | .adas =>
      if topicIs can messageCan700 then [.can700 can]
      else if topicIs can messageCan760 then [.can760 can]
      else []
  | .dms => [.dmsInfo can]

/-- `LWS_CALLBACK_CLIENT_WRITEABLE`. -/
def lwsWriteable (b : Build) (s : WsiClient) : WsiClient × List WsiEffect :=
  match subscribeMsg b s.msgSendIndex with
  | some name =>
      let datacmd := packWsiMsg lwsWriteBufLen name
      ({ s with msgSendIndex := s.msgSendIndex + 1 },
        (if datacmd.length < lwsWriteBufLen ∧ 0 < datacmd.length then
          [.write datacmd] else []) ++ [.onWritable])
  | none =>
      if s.msgSendIndex < messageIndexMax b then
        ({ s with msgSendIndex := s.msgSendIndex + 1 }, [])
      else (s, [])

def callbackLwsCommunicate (b : Build) (s : WsiClient) :
    LwsCallback → WsiClient × List WsiEffect
  | .established => (s, [.onWritable])
  | .closed => ({ s with msgSendIndex := 0, wsiDumb := false }, [])
  | .receive o =>
      match unpackWsiMsg o s.dataType with
      | none => ({ s with crashed := true }, [])
      | some parse => ({ s with dataType := parse.dataType },
          dealWsi b parse.can)
  | .connectionError => ({ s with wsiDumb := false }, [])
  | .writeable => lwsWriteable b s
  | .wsiDestroy => ({ s with msgSendIndex := 0, wsiDumb := false }, [])
  | .other => (s, [])

/-- Whether a connect may be tried, and when the last one was. -/
def ratelimitConnects (last : UInt32) (secs : Nat) (now : Nat) :
    Bool × UInt32 :=
  if (now : Int) - last.toNat < secs then (false, last)
  else (true, .ofNat now)

inductive WsiInput where
  /-- The head of the loop; the connect, if there is one, may fail. -/
  | connecting (now : Nat) (accepted : Bool)
  | callback (reason : LwsCallback)

def wsiConnecting (s : WsiClient) (now : Nat) (accepted : Bool) :
    WsiClient × List WsiEffect :=
  if s.wsiDumb then (s, [])
  else
    let (allowed, rlDumb) := ratelimitConnects s.rlDumb 2 now
    if allowed then
      ({ s with rlDumb := rlDumb, wsiDumb := accepted }, [.connect now])
    else (s, [])

def wsiClient (b : Build) : Mealy WsiClient WsiInput WsiEffect where
  step s i :=
    if s.crashed then (s, [])
    else
      match i with
      | .connecting now accepted => wsiConnecting s now accepted
      | .callback reason => callbackLwsCommunicate b s reason

theorem wsiClient_crashed {b : Build} {s : WsiClient}
    (h : s.crashed = true) (i : WsiInput) :
    (wsiClient b).step s i = (s, []) :=
  if_pos h

theorem wsiClient_step {b : Build} {s : WsiClient} (h : s.crashed = false)
    (i : WsiInput) :
    (wsiClient b).step s i =
      match i with
      | .connecting now accepted => wsiConnecting s now accepted
      | .callback reason => callbackLwsCommunicate b s reason :=
  if_neg (Bool.eq_false_iff.mp h)

theorem wsiClient_outputs_crashed {b : Build} {s : WsiClient}
    (h : s.crashed = true) (inputs : List WsiInput) :
    (wsiClient b).outputs s inputs = [] := by
  induction inputs with
  | nil => rfl
  | cons i inputs ih =>
      rw [Mealy.outputs_cons, wsiClient_crashed h]
      exact ih

/-! ## One session -/

section Sessions

variable (b : Build)

/-- The topics that are asked for, in order. -/
def topics : Build → List (List UInt8)
  | .adas => [messageCan700, messageCan760]
  | .dms => [dmsAlert0x100]

def WsiInput.resets : WsiInput → Bool
  | .callback .closed => true
  | .callback .wsiDestroy => true
  | _ => false

def WsiInput.isWriteable : WsiInput → Bool
  | .callback .writeable => true
  | _ => false

def WsiEffect.write? : WsiEffect → Option (List UInt8)
  | write data => some data
  | _ => none

/-- What has been written when this is the next index. -/
def requested (index : Nat) : List (List UInt8) :=
  ((topics b).take (index - 1)).map (packWsiMsg lwsWriteBufLen)

theorem dealWsi_writes (can : WsiFrame) :
    (dealWsi b can).filterMap WsiEffect.write? = [] := by
  cases b with
  | adas =>
      simp only [dealWsi]
      split_ifs <;> rfl
  | dms => rfl

theorem wsiConnecting_session (s : WsiClient) (now : Nat) (accepted : Bool) :
    let out := wsiConnecting s now accepted
    out.1.msgSendIndex = s.msgSendIndex ∧
      out.2.filterMap WsiEffect.write? = [] := by
  unfold wsiConnecting
  simp only
  split_ifs <;> exact ⟨rfl, rfl⟩

theorem lwsWriteable_session {s : WsiClient}
    (h : s.msgSendIndex ≤ messageIndexMax b) :
    let out := lwsWriteable b s
    out.1.msgSendIndex = min (s.msgSendIndex + 1) (messageIndexMax b) ∧
      requested b s.msgSendIndex ++ out.2.filterMap WsiEffect.write? =
        requested b out.1.msgSendIndex := by
  obtain ⟨index, wsiDumb, rlDumb, dataType, crashed⟩ := s
  cases b with
  | adas =>
      change index ≤ 3 at h
      interval_cases index <;> exact ⟨rfl, rfl⟩
  | dms =>
      change index ≤ 2 at h
      interval_cases index <;> exact ⟨rfl, rfl⟩

/-- A step of a session goes on from what has been requested. -/
theorem wsiClient_session {s : WsiClient}
    (h : s.msgSendIndex ≤ messageIndexMax b) {i : WsiInput}
    (hi : i.resets = false) :
    let out := (wsiClient b).step s i
    out.1.msgSendIndex ≤ messageIndexMax b ∧
      requested b s.msgSendIndex ++ out.2.filterMap WsiEffect.write? =
        requested b out.1.msgSendIndex ∧
      (s.crashed = false → out.1.msgSendIndex =
        min (s.msgSendIndex + if i.isWriteable then 1 else 0)
          (messageIndexMax b)) := by
  intro out
  have hquiet : ∀ out' : WsiClient × List WsiEffect, out = out' →
      out'.1.msgSendIndex = s.msgSendIndex →
      out'.2.filterMap WsiEffect.write? = [] → i.isWriteable = false →
        out.1.msgSendIndex ≤ messageIndexMax b ∧
          requested b s.msgSendIndex ++ out.2.filterMap WsiEffect.write? =
            requested b out.1.msgSendIndex ∧
          (s.crashed = false → out.1.msgSendIndex =
            min (s.msgSendIndex + if i.isWriteable then 1 else 0)
              (messageIndexMax b)) := by
    intro out' hout hindex hwrites hwriteable
    rw [hout, hindex, hwrites, hwriteable, List.append_nil]
    exact ⟨h, rfl, fun _ => (Nat.min_eq_left h).symm⟩
  cases hcrashed : s.crashed with
  | true =>
      have hout : out = (s, []) := wsiClient_crashed hcrashed i
      rw [hout]
      exact ⟨h, List.append_nil _, fun hfalse => by cases hfalse⟩
  | false =>
      have hout : out = _ := wsiClient_step hcrashed i
      rw [hcrashed] at hquiet
      cases i with
      | connecting now accepted =>
          obtain ⟨hindex, hwrites⟩ := wsiConnecting_session s now accepted
          exact hquiet _ hout hindex hwrites rfl
      | callback reason =>
          cases reason with
          | writeable =>
              obtain ⟨hindex, hwrites⟩ := lwsWriteable_session b h
              change out = lwsWriteable b s at hout
              rw [hout]
              exact ⟨hindex ▸ Nat.min_le_right _ _, hwrites, fun _ => hindex⟩
          | receive o =>
              simp only [callbackLwsCommunicate] at hout
              cases hparse : unpackWsiMsg o s.dataType with
              | none =>
                  rw [hparse] at hout
                  exact hquiet _ hout rfl rfl rfl
              | some parse =>
                  rw [hparse] at hout
                  exact hquiet _ hout rfl (dealWsi_writes b parse.can) rfl
          | closed => cases hi
          | wsiDestroy => cases hi
          | established => exact hquiet _ hout rfl rfl rfl
          | connectionError => exact hquiet _ hout rfl rfl rfl
          | other => exact hquiet _ hout rfl rfl rfl

theorem wsiClient_crashed_final {s : WsiClient} (inputs : List WsiInput)
    (h : ((wsiClient b).final s inputs).crashed = false) :
    s.crashed = false := by
  induction inputs generalizing s with
  | nil => exact h
  | cons i inputs ih =>
      have hnext := ih h
      cases hcrashed : s.crashed with
      | false => rfl
      | true =>
          rw [wsiClient_crashed hcrashed] at hnext
          exact hcrashed.symm.trans hnext

theorem wsiClient_session_run {s : WsiClient}
    (h : s.msgSendIndex ≤ messageIndexMax b) {inputs : List WsiInput}
    (hsession : ∀ i ∈ inputs, i.resets = false) :
    let s' := (wsiClient b).final s inputs
    requested b s.msgSendIndex ++
        ((wsiClient b).outputs s inputs).filterMap WsiEffect.write? =
          requested b s'.msgSendIndex ∧
      (s'.crashed = false → s'.msgSendIndex =
        min (s.msgSendIndex + inputs.countP WsiInput.isWriteable)
          (messageIndexMax b)) := by
  induction inputs generalizing s with
  | nil => exact ⟨List.append_nil _, fun _ => (Nat.min_eq_left h).symm⟩
  | cons i inputs ih =>
      obtain ⟨hbound, hwrites, hindex⟩ :=
        wsiClient_session b h (hsession i List.mem_cons_self)
      obtain ⟨hlater, hfinal⟩ :=
        ih hbound fun i' hi' => hsession i' (List.mem_cons_of_mem i hi')
      rw [Mealy.outputs_cons, Mealy.final_cons, List.filterMap_append,
        ← List.append_assoc, hwrites]
      refine ⟨hlater, fun hcrashed => ?_⟩
      have hnow := hindex (wsiClient_crashed_final b (i :: inputs) hcrashed)
      rw [hfinal hcrashed, hnow, List.countP_cons]
      omega

/-- Where the last input has reset the index, or nothing has happened yet. -/
theorem wsiClient_sessionStart {before : List WsiInput}
    (hbefore : ∀ i ∈ before.getLast?, i.resets = true)
    (hcrashed : ((wsiClient b).final .start before).crashed = false) :
    ((wsiClient b).final .start before).msgSendIndex = 0 := by
  induction before using List.reverseRecOn with
  | nil => rfl
  | append_singleton before i _ =>
      have hresets : i.resets = true := hbefore i (by simp)
      rw [Mealy.final_append] at hcrashed ⊢
      have hrunning := wsiClient_crashed_final b [i] hcrashed
      rw [Mealy.final_cons, Mealy.final_nil, wsiClient_step hrunning]
      cases i with
      | connecting now accepted => cases hresets
      | callback reason =>
          cases reason with
          | closed => rfl
          | wsiDestroy => rfl
          | _ => cases hresets

/-- In each session the topics are asked for once and in order, the first when
the connection is writeable for the second time. -/
theorem wsi_requests (b : Build) (before session : List WsiInput)
    (hbefore : ∀ i ∈ before.getLast?, i.resets = true)
    (hsession : ∀ i ∈ session, i.resets = false) :
    let s := (wsiClient b).final .start before
    let writes := ((wsiClient b).outputs s session).filterMap WsiEffect.write?
    writes <+: (topics b).map (packWsiMsg lwsWriteBufLen) ∧
      (((wsiClient b).final s session).crashed = false →
        writes = ((topics b).take
          (session.countP WsiInput.isWriteable - 1)).map
            (packWsiMsg lwsWriteBufLen)) := by
  intro s writes
  cases hcrashed : s.crashed with
  | true =>
      have hnone : writes = [] := by
        rw [show writes = _ from congrArg (List.filterMap WsiEffect.write?)
          (wsiClient_outputs_crashed hcrashed session)]
        rfl
      rw [hnone]
      refine ⟨List.nil_prefix, fun hrunning => ?_⟩
      have := wsiClient_crashed_final b session hrunning
      rw [hcrashed] at this
      cases this
  | false =>
      have hstart : s.msgSendIndex = 0 :=
        wsiClient_sessionStart b hbefore hcrashed
      have hbound : s.msgSendIndex ≤ messageIndexMax b := by
        rw [hstart]
        exact Nat.zero_le _
      obtain ⟨hwrites, hindex⟩ := wsiClient_session_run b hbound hsession
      have hnothing : requested b s.msgSendIndex = [] := by
        rw [hstart]
        rfl
      rw [hnothing, List.nil_append] at hwrites
      change writes = _ at hwrites
      have hlength : (topics b).length = messageIndexMax b - 1 := by
        cases b <;> rfl
      constructor
      · rw [hwrites]
        exact (List.take_prefix _ _).map _
      · intro hrunning
        rw [hwrites, hindex hrunning, hstart, Nat.zero_add, requested]
        congr 1
        rcases Nat.le_total (session.countP WsiInput.isWriteable)
          (messageIndexMax b) with hle | hle
        · rw [Nat.min_eq_left hle]
        · rw [Nat.min_eq_right hle, List.take_of_length_le hlength.le,
            List.take_of_length_le (by omega)]

/-- Both topics of the ADAS build, at the second and the third time. -/
theorem wsi_requests_adas :
    ((wsiClient .adas).outputs .start
      ([.connecting 2 true, .callback .established] ++
        List.replicate 5 (.callback .writeable))).filterMap
          WsiEffect.write? =
      [packWsiMsg lwsWriteBufLen messageCan700,
        packWsiMsg lwsWriteBufLen messageCan760] := by
  have hrequests := wsi_requests .adas []
    ([.connecting 2 true, .callback .established] ++
      List.replicate 5 (.callback .writeable))
    (fun _ h => absurd h (Option.not_mem_none _)) (by decide)
  exact hrequests.2 (by decide +kernel)

end Sessions

/-! ## What is handed over -/

section Messages

/-- A message with distinct fields of the right kinds. -/
def WsiMessage (o : MsgpackObject) (values : List WsiValue) : Prop :=
  ∃ entries, o = .map entries ∧ List.Forall₂ WsiEntry entries values ∧
    (values.map WsiValue.dataType).Nodup

def WsiInput.received? : WsiInput → Option MsgpackObject
  | .callback (.receive o) => some o
  | _ => none

def WsiEffect.dealt? : WsiEffect → Option WsiEffect
  | can700 can => some (.can700 can)
  | can760 can => some (.can760 can)
  | dmsInfo can => some (.dmsInfo can)
  | _ => none

/-- The topic of the message begins with this name. -/
def OnTopic (name : List UInt8) (values : List WsiValue) : Prop :=
  ∃ topic ∈ values.filterMap WsiValue.topic?, name <+: topic

instance (name : List UInt8) (values : List WsiValue) :
    Decidable (OnTopic name values) :=
  inferInstanceAs (Decidable (∃ _ ∈ _, _))

/-- What the build makes of a message. -/
def dealtMessage (b : Build) (can : WsiFrame) (values : List WsiValue) :
    List WsiEffect :=
  match b with
  | .adas =>
      if OnTopic messageCan700 values then [.can700 can]
      else if OnTopic messageCan760 values then [.can760 can]
      else []
  | .dms => [.dmsInfo can]

theorem prefix_truncated {n : Nat} {name : List UInt8}
    (hn : name.length ≤ n) (hzero : (0 : UInt8) ∉ name)
    (bytes : List UInt8) :
    name <+: (truncated n bytes).toList ↔ name <+: bytes := by
  simp only [List.prefix_iff_getElem?]
  refine forall_congr' fun i => forall_congr' fun hi => ?_
  have hcell : (truncated n bytes).toList[i]? = some (bytes[i]?.getD 0) := by
    have hin : i < n := Nat.lt_of_lt_of_le hi hn
    simp [truncated, hin]
  have hne : name[i] ≠ 0 := fun h => hzero (h ▸ List.getElem_mem hi)
  rw [hcell, Option.some.injEq]
  cases bytes[i]? with
  | none => simp [hne.symm]
  | some c => simp

theorem topicIs_iff {can : WsiFrame} {values : List WsiValue}
    (h : can.Extracts values) {name : List UInt8} (hn : name.length ≤ 20)
    (hne : name ≠ []) (hzero : (0 : UInt8) ∉ name) :
    topicIs can name ↔ OnTopic name values := by
  have hbegins : topicIs can name ↔ name <+: can.topic.toList := by
    rw [List.prefix_iff_eq_take, topicIs, eq_comm]
  rw [hbegins]
  constructor
  · intro htopic
    by_cases hnone : ∀ v ∈ values, v.topic? = none
    · have hempty : can.topic = truncated 20 [] := by
        rw [h.topic.2 hnone]
        rfl
      rw [hempty, prefix_truncated hn hzero] at htopic
      exact absurd (List.prefix_nil.mp htopic) hne
    · push Not at hnone
      obtain ⟨v, hv, hsome⟩ := hnone
      obtain ⟨bytes, hbytes⟩ := Option.ne_none_iff_exists'.mp hsome
      rw [h.topic.1 v hv bytes hbytes, prefix_truncated hn hzero] at htopic
      exact ⟨bytes, List.mem_filterMap.mpr ⟨v, hv, hbytes⟩, htopic⟩
  · rintro ⟨bytes, hmem, hbytes⟩
    obtain ⟨v, hv, htopic⟩ := List.mem_filterMap.mp hmem
    rw [h.topic.1 v hv bytes htopic, prefix_truncated hn hzero]
    exact hbytes

theorem dealWsi_eq (b : Build) {can : WsiFrame} {values : List WsiValue}
    (h : can.Extracts values) :
    dealWsi b can = dealtMessage b can values := by
  cases b with
  | adas =>
      have h700 := @topicIs_iff can values h messageCan700 (by decide)
        (by decide) (by decide)
      have h760 := @topicIs_iff can values h messageCan760 (by decide)
        (by decide) (by decide)
      simp only [dealWsi, dealtMessage, h700, h760]
  | dms => rfl

theorem dealtMessage_dealt (b : Build) (can : WsiFrame)
    (values : List WsiValue) :
    (dealtMessage b can values).filterMap WsiEffect.dealt? =
      dealtMessage b can values := by
  cases b with
  | adas =>
      simp only [dealtMessage]
      split_ifs <;> rfl
  | dms => rfl

theorem wsiConnecting_deals (s : WsiClient) (now : Nat) (accepted : Bool) :
    let out := wsiConnecting s now accepted
    out.1.dataType = s.dataType ∧ out.1.crashed = s.crashed ∧
      out.2.filterMap WsiEffect.dealt? = [] := by
  unfold wsiConnecting
  simp only
  split_ifs <;> simp [WsiEffect.dealt?]

theorem lwsWriteable_deals (b : Build) (s : WsiClient) :
    let out := lwsWriteable b s
    out.1.dataType = s.dataType ∧ out.1.crashed = s.crashed ∧
      out.2.filterMap WsiEffect.dealt? = [] := by
  unfold lwsWriteable
  cases subscribeMsg b s.msgSendIndex with
  | none =>
      simp only
      split_ifs <;> simp [WsiEffect.dealt?]
  | some name =>
      simp only
      split_ifs <;> simp [WsiEffect.dealt?]

/-- Nothing is pending of an earlier message. -/
def WsiClient.Ready (s : WsiClient) : Prop :=
  s.dataType = none ∧ s.crashed = false

/-- A callback other than a reception. -/
theorem wsiClient_quiet {b : Build} {s : WsiClient} (h : s.Ready)
    {i : WsiInput} (hi : i.received? = none) :
    let out := (wsiClient b).step s i
    out.1.Ready ∧ out.2.filterMap WsiEffect.dealt? = [] := by
  intro out
  have hout : out = _ := wsiClient_step h.2 i
  have hkeeps : ∀ out' : WsiClient × List WsiEffect, out = out' →
      out'.1.dataType = s.dataType ∧ out'.1.crashed = s.crashed ∧
        out'.2.filterMap WsiEffect.dealt? = [] →
      out.1.Ready ∧ out.2.filterMap WsiEffect.dealt? = [] := by
    rintro out' hsame ⟨htype, hcrashed, hdealt⟩
    rw [hsame]
    exact ⟨⟨htype.trans h.1, hcrashed.trans h.2⟩, hdealt⟩
  cases i with
  | connecting now accepted =>
      exact hkeeps _ hout (wsiConnecting_deals s now accepted)
  | callback reason =>
      cases reason with
      | receive o => cases hi
      | writeable => exact hkeeps _ hout (lwsWriteable_deals b s)
      | _ => exact hkeeps _ hout ⟨rfl, rfl, rfl⟩

theorem wsiClient_message {b : Build} {s : WsiClient} (h : s.Ready)
    {o : MsgpackObject} {values : List WsiValue} (ho : WsiMessage o values) :
    let out := (wsiClient b).step s (.callback (.receive o))
    out.1.Ready ∧ ∃ can : WsiFrame, can.Extracts values ∧
      out.2.filterMap WsiEffect.dealt? = dealtMessage b can values := by
  intro out
  obtain ⟨entries, rfl, hentries, hdistinct⟩ := ho
  obtain ⟨hparse, hextracts⟩ := unpackWsiMsg_extracts hentries hdistinct
  have hout : out = ({ s with dataType := none },
      dealWsi b (values.foldl WsiFrame.set .zero)) := by
    refine (wsiClient_step h.2 _).trans ?_
    simp only [callbackLwsCommunicate, h.1, hparse]
  rw [hout]
  refine ⟨⟨rfl, h.2⟩, _, hextracts, ?_⟩
  rw [dealWsi_eq b hextracts, dealtMessage_dealt]

theorem wsiClient_messages {b : Build} {s : WsiClient} (h : s.Ready)
    {inputs : List WsiInput} {messages : List (List WsiValue)}
    (hmessages : List.Forall₂ WsiMessage
      (inputs.filterMap WsiInput.received?) messages) :
    ((wsiClient b).final s inputs).Ready ∧
      ∃ cans : List WsiFrame, List.Forall₂ WsiFrame.Extracts cans messages ∧
        ((wsiClient b).outputs s inputs).filterMap WsiEffect.dealt? =
          (List.zipWith (dealtMessage b) cans messages).flatten := by
  induction inputs generalizing s messages with
  | nil =>
      cases hmessages
      exact ⟨h, [], .nil, rfl⟩
  | cons i inputs ih =>
      rw [Mealy.final_cons, Mealy.outputs_cons, List.filterMap_append]
      cases hi : i.received? with
      | none =>
          rw [List.filterMap_cons_none hi] at hmessages
          obtain ⟨hready, hquiet⟩ := wsiClient_quiet (b := b) h hi
          rw [hquiet]
          exact ih hready hmessages
      | some o =>
          rw [List.filterMap_cons_some hi] at hmessages
          obtain ⟨values, messages, hfirst, hrest, rfl⟩ :=
            List.forall₂_cons_left_iff.mp hmessages
          obtain rfl : i = .callback (.receive o) := by
            cases i with
            | connecting now accepted => cases hi
            | callback reason =>
                cases reason with
                | receive o' =>
                    obtain rfl := Option.some.inj hi
                    rfl
                | _ => cases hi
          obtain ⟨hready, can, hcan, hdealt⟩ := wsiClient_message h hfirst
          obtain ⟨hfinal, cans, hcans, hlater⟩ := ih hready hrest
          refine ⟨hfinal, can :: cans, .cons hcan hcans, ?_⟩
          rw [hdealt, hlater]
          rfl

/-- Well-formed messages are handed over one by one with their fields, in the
ADAS build by their topic, whatever else happens on the connection. -/
theorem wsi_delivers (b : Build) {inputs : List WsiInput}
    {messages : List (List WsiValue)}
    (hmessages : List.Forall₂ WsiMessage
      (inputs.filterMap WsiInput.received?) messages) :
    ((wsiClient b).final .start inputs).crashed = false ∧
      ∃ cans : List WsiFrame, List.Forall₂ WsiFrame.Extracts cans messages ∧
        ((wsiClient b).outputs .start inputs).filterMap WsiEffect.dealt? =
          (List.zipWith (dealtMessage b) cans messages).flatten := by
  have hready : WsiClient.start.Ready := ⟨rfl, rfl⟩
  obtain ⟨hfinal, hdelivers⟩ := wsiClient_messages (b := b) hready hmessages
  exact ⟨hfinal.2, hdelivers⟩

/-- A message on the topic of 0x760 and one without a topic. -/
theorem wsi_delivers_can760 :
    let inputs : List WsiInput :=
      [.callback (.receive (.map
        [(.str (Mem.ofList MsgDataType.topic.name) 5,
          .str (Mem.ofList messageCan760) 16),
        (.str (Mem.ofList MsgDataType.data.name) 4,
          .bin (Mem.ofList [0x05]) 1)])),
      .callback .connectionError, .callback (.receive (.map []))]
    ∃ can : WsiFrame, can.Extracts [.topic messageCan760, .data [0x05]] ∧
      ((wsiClient .adas).outputs .start inputs).filterMap WsiEffect.dealt? =
        [.can760 can] := by
  intro inputs
  have hfirst : WsiMessage (.map
      [(.str (Mem.ofList MsgDataType.topic.name) 5,
        .str (Mem.ofList messageCan760) 16),
      (.str (Mem.ofList MsgDataType.data.name) 4,
        .bin (Mem.ofList [0x05]) 1)])
      [.topic messageCan760, .data [0x05]] :=
    ⟨_, rfl, .cons (.topic rfl) (.cons (.data rfl) .nil), by decide⟩
  have hmessages : List.Forall₂ WsiMessage
      (inputs.filterMap WsiInput.received?)
      [[.topic messageCan760, .data [0x05]], []] :=
    .cons hfirst (.cons ⟨_, rfl, .nil, by decide⟩ .nil)
  obtain ⟨-, cans, hcans, hdealt⟩ := wsi_delivers .adas hmessages
  obtain ⟨can, rest, hcan, hrest, rfl⟩ := List.forall₂_cons_right_iff.mp hcans
  obtain ⟨can', rest, -, hnil, rfl⟩ := List.forall₂_cons_right_iff.mp hrest
  obtain rfl := List.forall₂_nil_right_iff.mp hnil
  refine ⟨can, hcan, hdealt.trans ?_⟩
  have h700 : ¬ OnTopic messageCan700
      [.topic messageCan760, .data [0x05]] := by decide
  have h760 : OnTopic messageCan760
      [.topic messageCan760, .data [0x05]] := by decide
  have hnone : ∀ name, ¬ OnTopic name [] := by
    rintro name ⟨topic, htopic, -⟩
    cases htopic
  simp [dealtMessage, h700, h760, hnone]

end Messages

/-! ## Connecting -/

section Connecting

variable {b : Build}

def WsiInput.ends : WsiInput → Bool
  | .callback .connectionError => true
  | i => i.resets

def WsiEffect.connect? : WsiEffect → Option Nat
  | connect now => some now
  | _ => none

/-- Two seconds after the last one, of whose time 32 bits are kept. -/
def connectThrottle : Throttle UInt32 Nat where
  stamp now := .ofNat now
  due last now := last.toNat + 2 ≤ now

instance (last : UInt32) (now : Nat) :
    Decidable (connectThrottle.due last now) :=
  inferInstanceAs (Decidable (_ ≤ _))

theorem ratelimitConnects_eq (last : UInt32) (now : Nat) :
    ratelimitConnects last 2 now =
      if connectThrottle.due last now then (true, connectThrottle.stamp now)
      else (false, last) := by
  have hdue : connectThrottle.due last now ↔
      ¬ (now : Int) - last.toNat < (2 : Nat) := by
    change last.toNat + 2 ≤ now ↔ _
    omega
  by_cases hearly : (now : Int) - last.toNat < (2 : Nat)
  · rw [ratelimitConnects, if_pos hearly, if_neg fun h => hdue.mp h hearly]
  · rw [ratelimitConnects, if_neg hearly, if_pos (hdue.mpr hearly)]
    rfl

theorem dealWsi_connects (b : Build) (can : WsiFrame) :
    (dealWsi b can).filterMap WsiEffect.connect? = [] := by
  cases b with
  | adas =>
      simp only [dealWsi]
      split_ifs <;> rfl
  | dms => rfl

theorem lwsWriteable_connects (b : Build) (s : WsiClient) :
    let out := lwsWriteable b s
    out.1.rlDumb = s.rlDumb ∧ out.1.wsiDumb = s.wsiDumb ∧
      out.2.filterMap WsiEffect.connect? = [] := by
  unfold lwsWriteable
  cases subscribeMsg b s.msgSendIndex with
  | none =>
      simp only
      split_ifs <;> simp [WsiEffect.connect?]
  | some name =>
      simp only
      split_ifs <;> simp [WsiEffect.connect?]

/-- A callback does not connect, and only some of them end the connection. -/
theorem callback_connects (s : WsiClient) (reason : LwsCallback) :
    let out := callbackLwsCommunicate b s reason
    out.1.rlDumb = s.rlDumb ∧ out.2.filterMap WsiEffect.connect? = [] ∧
      ((WsiInput.callback reason).ends = false →
        out.1.wsiDumb = s.wsiDumb) := by
  cases reason with
  | writeable =>
      obtain ⟨hrl, hdumb, hnone⟩ := lwsWriteable_connects b s
      exact ⟨hrl, hnone, fun _ => hdumb⟩
  | receive o =>
      simp only [callbackLwsCommunicate]
      cases unpackWsiMsg o s.dataType with
      | none => exact ⟨rfl, rfl, fun _ => rfl⟩
      | some parse => exact ⟨rfl, dealWsi_connects b parse.can, fun _ => rfl⟩
  | established => exact ⟨rfl, rfl, fun _ => rfl⟩
  | other => exact ⟨rfl, rfl, fun _ => rfl⟩
  | closed => exact ⟨rfl, rfl, fun h => by cases h⟩
  | wsiDestroy => exact ⟨rfl, rfl, fun h => by cases h⟩
  | connectionError => exact ⟨rfl, rfl, fun h => by cases h⟩

/-- A step connects if it is a due one without a connection. -/
theorem wsiClient_connects (s : WsiClient) (i : WsiInput) :
    let out := (wsiClient b).step s i
    (out.2.filterMap WsiEffect.connect? = [] ∧
        out.1.rlDumb = s.rlDumb ∧
        (i.ends = false → out.1.wsiDumb = s.wsiDumb)) ∨
      ∃ now accepted, i = .connecting now accepted ∧ s.wsiDumb = false ∧
        connectThrottle.due s.rlDumb now ∧
        out.2.filterMap WsiEffect.connect? = [now] ∧
        out.1.rlDumb = connectThrottle.stamp now ∧
        out.1.wsiDumb = accepted := by
  intro out
  cases hcrashed : s.crashed with
  | true =>
      have hout : out = (s, []) := wsiClient_crashed hcrashed i
      rw [hout]
      exact .inl ⟨rfl, rfl, fun _ => rfl⟩
  | false =>
      have hout : out = _ := wsiClient_step hcrashed i
      cases i with
      | callback reason =>
          obtain ⟨hrl, hnone, hkeeps⟩ := callback_connects (b := b) s reason
          rw [hout]
          exact .inl ⟨hnone, hrl, hkeeps⟩
      | connecting now accepted =>
          simp only [wsiConnecting, ratelimitConnects_eq] at hout
          rw [hout]
          cases hdumb : s.wsiDumb with
          | true => exact .inl ⟨rfl, rfl, fun _ => hdumb⟩
          | false =>
              by_cases hdue : connectThrottle.due s.rlDumb now
              · rw [if_pos hdue]
                exact .inr ⟨now, accepted, rfl, rfl, hdue, rfl, rfl, rfl⟩
              · rw [if_neg hdue]
                exact .inl ⟨rfl, rfl, fun _ => hdumb⟩

theorem connects_taken (s : WsiClient) (inputs : List WsiInput) :
    ∃ nows, ((wsiClient b).outputs s inputs).filterMap WsiEffect.connect? =
      connectThrottle.taken s.rlDumb nows := by
  induction inputs generalizing s with
  | nil => exact ⟨[], rfl⟩
  | cons i inputs ih =>
      obtain ⟨nows, hnows⟩ := ih ((wsiClient b).step s i).1
      rw [Mealy.outputs_cons, List.filterMap_append, hnows]
      rcases wsiClient_connects (b := b) s i with
        ⟨hnone, hrl, -⟩ | ⟨now, accepted, -, -, hdue, hsome, hrl, -⟩
      · rw [hnone, hrl]
        exact ⟨nows, rfl⟩
      · rw [hsome, hrl]
        exact ⟨now :: nows, (Throttle.taken_of_due hdue nows).symm⟩

/-- While there is a connection there is no connect. -/
theorem connected_quiet {s : WsiClient} (h : s.wsiDumb = true)
    {inputs : List WsiInput} (hends : ∀ i ∈ inputs, i.ends = false) :
    ((wsiClient b).outputs s inputs).filterMap WsiEffect.connect? = [] := by
  induction inputs generalizing s with
  | nil => rfl
  | cons i inputs ih =>
      rw [Mealy.outputs_cons, List.filterMap_append]
      rcases wsiClient_connects (b := b) s i with
        ⟨hnone, -, hkeeps⟩ | ⟨now, accepted, -, hdumb, -⟩
      · have hdumb := (hkeeps (hends i List.mem_cons_self)).trans h
        rw [hnone, ih hdumb fun i' hi' =>
          hends i' (List.mem_cons_of_mem i hi')]
        rfl
      · rw [h] at hdumb
        cases hdumb

/-- The client connects at most every two seconds, and once it is connected not
before the connection has ended. -/
theorem wsi_connects (b : Build) (inputs : List WsiInput) :
    (((wsiClient b).outputs .start inputs).filterMap
        WsiEffect.connect?).IsChain (fun last now => last % 2 ^ 32 + 2 ≤ now) ∧
      ∀ before now after,
        .connect now ∈ ((wsiClient b).step ((wsiClient b).final .start before)
          (.connecting now true)).2 →
        (∀ i ∈ after, i.ends = false) →
          ((wsiClient b).outputs ((wsiClient b).final .start
            (before ++ [.connecting now true])) after).filterMap
              WsiEffect.connect? = [] := by
  constructor
  · obtain ⟨nows, hnows⟩ := connects_taken (b := b) .start inputs
    rw [hnows]
    refine (Throttle.taken_due connectThrottle _ nows).2.imp
      fun last now hdue => ?_
    change (UInt32.ofNat last).toNat + 2 ≤ now at hdue
    rwa [UInt32.toNat_ofNat'] at hdue
  · intro before now after hconnect hends
    refine connected_quiet ?_ hends
    rw [Mealy.final_append, Mealy.final_cons, Mealy.final_nil]
    rcases wsiClient_connects (b := b) ((wsiClient b).final .start before)
      (.connecting now true) with
      ⟨hnone, -⟩ | ⟨now', accepted, hi, -, -, -, -, hdumb⟩
    · have hmem := List.mem_filterMap.mpr
        ⟨_, hconnect, (rfl : WsiEffect.connect? (.connect now) = some now)⟩
      rw [hnone] at hmem
      cases hmem
    · obtain ⟨-, rfl⟩ := WsiInput.connecting.inj hi
      exact hdumb

end Connecting

end SanbaoProt
