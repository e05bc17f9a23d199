import SanbaoProt.Library.Mealy
import SanbaoProt.Protocol

/-!
# The byte-at-a-time decoder

`unescapleMsg` is the decoder of the source: three static variables, an array
it writes one cell of at a time, and the length of the frame it has completed,
or zero.  `Receiver` is what the decoder is for: it holds the list of bytes of
the frame being received and forgets the array.  `unescaple_simulates` makes
the decoder on the array an implementation of the receiver on lists, and the
laws of the stream are proved of the receiver.
-/

namespace SanbaoProt

open Library

structure Decoder where
  getHead : Bool
  gotEscChar : Bool
  cnt : Nat
  deriving DecidableEq, Repr

theorem esc_ne_magic : sampleProtEscChar ≠ sampleProtMagic := by decide

def clearFrameFlag : Decoder := ⟨false, false, 0⟩

/-- What one call does: new statics, the cell of `msg` it sets, its result. -/
structure Unescapled where
  flags : Decoder
  store : Option (Nat × UInt8)
  framelen : Nat
  deriving DecidableEq, Repr

def unescapleMsg (d : Decoder) (ch : UInt8) (msglen : Nat) : Unescapled :=
  if d.cnt + 1 > msglen then ⟨clearFrameFlag, none, 0⟩
  else if d.getHead = false then
    if ch = sampleProtMagic ∧ d.cnt = 0 then
      ⟨{ d with getHead := true, cnt := d.cnt + 1 },
        some (d.cnt, sampleProtMagic), 0⟩
    else ⟨d, none, 0⟩
  else if ch = sampleProtMagic ∧ d.cnt > 0 then
    if d.cnt < 6 then
      ⟨{ d with getHead := true, cnt := 1 }, some (0, sampleProtMagic), 0⟩
    else ⟨clearFrameFlag, some (d.cnt, sampleProtMagic), d.cnt + 1⟩
  else if ch = sampleProtEscChar ∧ d.gotEscChar = false then
    ⟨{ d with gotEscChar := true, cnt := d.cnt + 1 }, some (d.cnt, ch), 0⟩
  else if d.gotEscChar = true ∧ ch = 0x02 then
    ⟨{ d with gotEscChar := false }, some (d.cnt - 1, sampleProtMagic), 0⟩
  else if d.gotEscChar = true ∧ ch = 0x01 then
    ⟨{ d with gotEscChar := false }, some (d.cnt - 1, sampleProtEscChar), 0⟩
  else
    ⟨{ d with gotEscChar := false, cnt := d.cnt + 1 }, some (d.cnt, ch), 0⟩

theorem unescapleMsg_framelen {d : Decoder} {ch : UInt8} {msglen : Nat}
    (h : 0 < (unescapleMsg d ch msglen).framelen) :
    (unescapleMsg d ch msglen).flags = clearFrameFlag := by
  revert h
  unfold unescapleMsg
  split_ifs <;> simp

def Unescapled.apply (r : Unescapled) (msg : Mem UInt8) : Mem UInt8 :=
  match r.store with
  | none => msg
  | some (i, v) => msg.store i v

inductive DecoderEvent where
  | stored (index : Nat)
  | delivered (frame : List UInt8)
  deriving DecidableEq, Repr

def Unescapled.stores (r : Unescapled) : List DecoderEvent :=
  match r.store with
  | none => []
  | some (i, _) => [.stored i]

/-- The decoder as `prot_parse` drives it, on the bytes of its input. -/
def unescaple : Mealy (Decoder × Mem UInt8) UInt8 DecoderEvent where
  step s ch :=
    let r := unescapleMsg s.1 ch slipDataBufSize
    let msg := r.apply s.2
    ((r.flags, msg),
      r.stores ++
        if 0 < r.framelen then [.delivered (msg.read 0 r.framelen)] else [])

def deliveries (events : List DecoderEvent) : List (List UInt8) :=
  events.filterMap fun
    | .stored _ => none
    | .delivered frame => some frame

def storedIndices (events : List DecoderEvent) : List Nat :=
  events.filterMap fun
    | .stored i => some i
    | .delivered _ => none

@[simp] theorem deliveries_nil : deliveries [] = [] := rfl

@[simp] theorem deliveries_stored (i : Nat) (events : List DecoderEvent) :
    deliveries (.stored i :: events) = deliveries events := rfl

@[simp] theorem deliveries_delivered (frame : List UInt8)
    (events : List DecoderEvent) :
    deliveries (.delivered frame :: events) = frame :: deliveries events := rfl

@[simp] theorem deliveries_append (first second : List DecoderEvent) :
    deliveries (first ++ second) = deliveries first ++ deliveries second :=
  List.filterMap_append

@[simp] theorem storedIndices_nil : storedIndices [] = [] := rfl

@[simp] theorem storedIndices_stored (i : Nat) (events : List DecoderEvent) :
    storedIndices (.stored i :: events) = i :: storedIndices events := rfl

@[simp] theorem storedIndices_delivered (frame : List UInt8)
    (events : List DecoderEvent) :
    storedIndices (.delivered frame :: events) = storedIndices events := rfl

@[simp] theorem storedIndices_append (first second : List DecoderEvent) :
    storedIndices (first ++ second) =
      storedIndices first ++ storedIndices second :=
  List.filterMap_append

/-! ## The receiver on lists -/

/-- Between frames, or with the bytes of a frame and the open escape. -/
inductive Receiver where
  | idle
  | inFrame (received : List UInt8 × Bool)
  deriving DecidableEq, Repr

def receiver : Mealy Receiver UInt8 DecoderEvent where
  step
    | .idle, ch =>
        if ch = sampleProtMagic then
          (.inFrame ([sampleProtMagic], false), [.stored 0])
        else (.idle, [])
    | .inFrame received, ch =>
        if received.1.length + 1 > slipDataBufSize then (.idle, [])
        else if ch = sampleProtMagic then
          if received.1.length < 6 then
            (.inFrame ([sampleProtMagic], received.2), [.stored 0])
          else
            (.idle, [.stored received.1.length,
              .delivered (received.1 ++ [sampleProtMagic])])
        else
          (.inFrame (slip.absorb received ch),
            [.stored ((slip.absorb received ch).1.length - 1)])

def Represents (s : Decoder × Mem UInt8) : Receiver → Prop
  | .idle => s.1 = clearFrameFlag
  | .inFrame received =>
      received.1 ≠ [] ∧
        s.1 = ⟨true, received.2, received.1.length⟩ ∧
        s.2.read 0 received.1.length = received.1

private theorem represents_idle_step (msg : Mem UInt8) (ch : UInt8) :
    Represents (unescaple.step (clearFrameFlag, msg) ch).1
        (receiver.step .idle ch).1 ∧
      (unescaple.step (clearFrameFlag, msg) ch).2 =
        (receiver.step .idle ch).2 := by
  by_cases hch : ch = sampleProtMagic
  · subst hch
    refine ⟨?_, rfl⟩
    simp [receiver, unescaple, Represents, unescapleMsg, clearFrameFlag,
      Unescapled.apply, slipDataBufSize, ptrQueueBufSize, Mem.read_succ]
  · simp [receiver, unescaple, Represents, unescapleMsg, clearFrameFlag,
      Unescapled.stores, hch]

private theorem represents_append {msg : Mem UInt8} {buf : List UInt8}
    (hread : msg.read 0 buf.length = buf) (pending : Bool) (c : UInt8) :
    Represents (⟨true, pending, buf.length + 1⟩, msg.store buf.length c)
      (.inFrame (buf ++ [c], pending)) := by
  refine ⟨by simp, by simp, ?_⟩
  have := msg.read_store_last 0 buf.length c
  simp only [Nat.zero_add] at this
  rw [List.length_append, List.length_singleton]
  simp only [this, hread]

private theorem represents_replace {msg : Mem UInt8} {buf : List UInt8}
    (hbuf : buf ≠ []) (hread : msg.read 0 buf.length = buf) (c : UInt8) :
    Represents (⟨true, false, buf.length⟩, msg.store (buf.length - 1) c)
      (.inFrame (buf.dropLast ++ [c], false)) := by
  have hpos := List.length_pos_of_ne_nil hbuf
  have hprefix : msg.read 0 buf.dropLast.length = buf.dropLast := by
    have hsplit : msg.read 0 buf.length =
        buf.dropLast ++ [buf.getLast hbuf] := by
      rw [hread, List.dropLast_append_getLast]
    exact Mem.read_prefix hsplit
  have hlength : buf.dropLast.length + 1 = buf.length := by
    rw [List.length_dropLast]
    omega
  have h := represents_append hprefix false c
  rw [hlength] at h
  have hindex : buf.dropLast.length = buf.length - 1 := by simp
  rw [hindex] at h
  exact h

private theorem represents_inFrame_step {s : Decoder × Mem UInt8}
    {received : List UInt8 × Bool} (h : Represents s (.inFrame received))
    (ch : UInt8) :
    Represents (unescaple.step s ch).1
        (receiver.step (.inFrame received) ch).1 ∧
      (unescaple.step s ch).2 = (receiver.step (.inFrame received) ch).2 := by
  obtain ⟨d, msg⟩ := s
  obtain ⟨buf, pending⟩ := received
  obtain ⟨hbuf, hd, hread⟩ := h
  simp only at hbuf hd hread
  subst hd
  have hpos := List.length_pos_of_ne_nil hbuf
  by_cases hlong : buf.length + 1 > slipDataBufSize
  · simp only [receiver, unescaple, unescapleMsg, if_pos hlong]
    exact ⟨rfl, rfl⟩
  by_cases hmagic : ch = sampleProtMagic
  · by_cases hshort : buf.length < 6
    · simp only [receiver, unescaple, unescapleMsg, if_neg hlong]
      simp [hmagic, hpos, hshort, Represents, Unescapled.apply,
        Unescapled.stores, Mem.read_succ]
    · have hlast := msg.read_store_last 0 buf.length sampleProtMagic
      rw [hread, Nat.zero_add] at hlast
      simp only [receiver, unescaple, unescapleMsg, if_neg hlong]
      simp [hmagic, hpos, hshort, Represents, Unescapled.apply,
        Unescapled.stores, hlast]
  by_cases hopen : ch = sampleProtEscChar ∧ pending = false
  · obtain ⟨rfl, rfl⟩ := hopen
    have habsorb := slip.absorb_esc buf
    have hstep : unescaple.step (⟨true, false, buf.length⟩, msg)
        sampleProtEscChar =
        ((⟨true, true, buf.length + 1⟩,
          msg.store buf.length sampleProtEscChar),
          [.stored buf.length]) := by
      simp only [unescaple, unescapleMsg, if_neg hlong]
      simp [esc_ne_magic, Unescapled.apply, Unescapled.stores]
    rw [hstep]
    simp only [receiver, if_neg hlong, if_neg hmagic]
    rw [show slip.absorb (buf, false) sampleProtEscChar =
      (buf ++ [sampleProtEscChar], true) from habsorb]
    exact ⟨represents_append hread true _, by simp⟩
  by_cases hflag : pending = true ∧ ch = 0x02
  · obtain ⟨rfl, rfl⟩ := hflag
    have hstep : unescaple.step (⟨true, true, buf.length⟩, msg) 0x02 =
        ((⟨true, false, buf.length⟩,
          msg.store (buf.length - 1) sampleProtMagic),
          [.stored (buf.length - 1)]) := by
      simp only [unescaple, unescapleMsg, if_neg hlong]
      simp [hmagic, Unescapled.apply, Unescapled.stores]
    rw [hstep]
    simp only [receiver, if_neg hlong, if_neg hmagic]
    rw [show slip.absorb (buf, true) 0x02 =
      (buf.dropLast ++ [sampleProtMagic], false) from
        slip.absorb_flagCode buf]
    exact ⟨represents_replace hbuf hread _, by simp⟩
  by_cases hesc : pending = true ∧ ch = 0x01
  · obtain ⟨rfl, rfl⟩ := hesc
    have hstep : unescaple.step (⟨true, true, buf.length⟩, msg) 0x01 =
        ((⟨true, false, buf.length⟩,
          msg.store (buf.length - 1) sampleProtEscChar),
          [.stored (buf.length - 1)]) := by
      simp only [unescaple, unescapleMsg, if_neg hlong]
      simp [hmagic, Unescapled.apply, Unescapled.stores]
    rw [hstep]
    simp only [receiver, if_neg hlong, if_neg hmagic]
    rw [show slip.absorb (buf, true) 0x01 =
      (buf.dropLast ++ [sampleProtEscChar], false) from
        slip.absorb_escCode buf]
    exact ⟨represents_replace hbuf hread _, by simp⟩
  · have habsorb : slip.absorb (buf, pending) ch = (buf ++ [ch], false) :=
      slip.absorb_other hopen hflag hesc
    have hstep : unescaple.step (⟨true, pending, buf.length⟩, msg) ch =
        ((⟨true, false, buf.length + 1⟩, msg.store buf.length ch),
          [.stored buf.length]) := by
      simp only [unescaple, unescapleMsg, if_neg hlong]
      simp [hmagic, hopen, hflag, hesc, Unescapled.apply, Unescapled.stores]
    rw [hstep]
    simp only [receiver, if_neg hlong, if_neg hmagic, habsorb]
    exact ⟨represents_append hread false ch, by simp⟩

/-- The decoder on the array implements the receiver on lists. -/
theorem unescaple_simulates :
    Mealy.Simulation unescaple receiver Represents where
  step s r ch h := by
    cases r with
    | idle =>
        obtain ⟨d, msg⟩ := s
        have hd : d = clearFrameFlag := h
        subst hd
        exact represents_idle_step msg ch
    | inFrame received => exact represents_inFrame_step h ch

end SanbaoProt
