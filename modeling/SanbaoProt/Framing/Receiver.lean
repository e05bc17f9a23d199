import SanbaoProt.Framing.Decoder

/-!
# What the receiver makes of a stream

The pieces a stream is made of: filler between frames, the body of a frame, a
complete frame after its head, and the wire form of a frame after any bytes.
The only trace that earlier bytes can leave in a new frame is the escape flag,
which a restart on a delimiter does not clear.
-/

namespace SanbaoProt

open Library

/-- A frame of the length that `prot_init_pre` provides a buffer for. -/
structure WellFormedFrame extends Frame where
  fits : payload.length + 9 ≤ dataBufSize

theorem receiver_filler {filler : List UInt8}
    (hfiller : sampleProtMagic ∉ filler) :
    receiver.run .idle filler = (.idle, []) := by
  induction filler with
  | nil => rfl
  | cons ch filler ih =>
      simp only [List.mem_cons, not_or] at hfiller
      have hstep : receiver.step .idle ch = (.idle, []) := by
        simp [receiver, Ne.symm hfiller.1]
      simp [Mealy.run, hstep, ih hfiller.2]

theorem receiver_text (received : List UInt8 × Bool) {ch : UInt8}
    (hroom : received.1.length < slipDataBufSize)
    (hch : ch ≠ sampleProtMagic) :
    receiver.step (.inFrame received) ch =
      (.inFrame (slip.absorb received ch),
        [.stored ((slip.absorb received ch).1.length - 1)]) := by
  have hfits : ¬ received.1.length + 1 > slipDataBufSize := by omega
  simp only [receiver, if_neg hfits, if_neg hch]

theorem receiver_body (received : List UInt8 × Bool) {body : List UInt8}
    (hne : received.1 ≠ []) (hbody : sampleProtMagic ∉ body)
    (hroom : (slip.absorbAll received body).1.length < slipDataBufSize) :
    receiver.final (.inFrame received) body =
        .inFrame (slip.absorbAll received body) ∧
      deliveries (receiver.outputs (.inFrame received) body) = [] := by
  induction body generalizing received with
  | nil => exact ⟨rfl, rfl⟩
  | cons ch body ih =>
      simp only [List.mem_cons, not_or] at hbody
      have hlength := slip.length_le_absorbAll hne (ch :: body)
      have hstep := receiver_text received (by omega) (Ne.symm hbody.1)
      obtain ⟨hfinal, hdeliveries⟩ := ih (slip.absorb received ch)
        (slip.absorb_ne_nil received ch) hbody.2 hroom
      constructor
      · rw [Mealy.final_cons, hstep, hfinal]
        rfl
      · rw [Mealy.outputs_cons, hstep]
        simpa using hdeliveries

theorem receiver_tail (received : List UInt8 × Bool)
    (hlong : 6 ≤ received.1.length)
    (hroom : received.1.length < slipDataBufSize) :
    receiver.step (.inFrame received) sampleProtMagic =
      (.idle, [.stored received.1.length,
        .delivered (received.1 ++ [sampleProtMagic])]) := by
  have hfits : ¬ received.1.length + 1 > slipDataBufSize := by omega
  have hshort : ¬ received.1.length < 6 := by omega
  simp only [receiver, if_neg hfits, if_neg hshort, ↓reduceIte]

theorem receiver_restart {received : List UInt8 × Bool}
    (hshort : received.1.length < 6) :
    receiver.step (.inFrame received) sampleProtMagic =
      (.inFrame ([sampleProtMagic], received.2), [.stored 0]) := by
  have hfits : ¬ received.1.length + 1 > slipDataBufSize := by
    have hsize : 7 ≤ slipDataBufSize := by decide
    omega
  simp only [receiver, if_neg hfits, if_pos hshort, ↓reduceIte]

theorem receiver_frame {body : List UInt8} {pending : Bool}
    (hbody : sampleProtMagic ∉ body)
    (hlong : 6 ≤ (slip.absorbAll ([sampleProtMagic], pending) body).1.length)
    (hroom : (slip.absorbAll ([sampleProtMagic], pending) body).1.length <
      slipDataBufSize) :
    let start := Receiver.inFrame ([sampleProtMagic], pending)
    receiver.final start (body ++ [sampleProtMagic]) = .idle ∧
      deliveries (receiver.outputs start body) = [] ∧
      deliveries (receiver.outputs start (body ++ [sampleProtMagic])) =
        [(slip.absorbAll ([sampleProtMagic], pending) body).1 ++
          [sampleProtMagic]] := by
  intro start
  obtain ⟨hfinal, hdeliveries⟩ :=
    receiver_body ([sampleProtMagic], pending) (by simp) hbody hroom
  have htail := receiver_tail _ hlong hroom
  refine ⟨?_, hdeliveries, ?_⟩
  · rw [Mealy.final_append, hfinal, Mealy.final_cons, htail]
    rfl
  · rw [Mealy.outputs_append, hfinal, deliveries_append, hdeliveries,
      Mealy.outputs_cons, htail]
    rfl

def Receiver.restarts : Receiver → Bool
  | .idle => true
  | .inFrame received => decide (received.1.length < 6)

def Receiver.pending : Receiver → Bool
  | .idle => false
  | .inFrame received => received.2

theorem receiver_head {r : Receiver} (h : r.restarts = true) :
    receiver.step r sampleProtMagic =
      (.inFrame ([sampleProtMagic], r.pending), [.stored 0]) := by
  cases r with
  | idle => rfl
  | inFrame received =>
      exact receiver_restart (by simpa [Receiver.restarts] using h)

/-- The bytes that stand for the head and the checksum of a frame whose wire
form is received with the escape flag set. -/
def mangledHead (checksum : UInt8) : List UInt8 :=
  (slip.absorbAll ([sampleProtMagic], true) (slip.stuffOne checksum)).1

theorem absorbAll_stuffOne_pending (checksum : UInt8) :
    slip.absorbAll ([sampleProtMagic], true) (slip.stuffOne checksum) =
      (if checksum = 0x01 then [sampleProtEscChar]
        else if checksum = 0x02 then [sampleProtMagic]
        else if checksum = sampleProtEscChar then
          [sampleProtMagic, sampleProtEscChar, 0x01]
        else if checksum = sampleProtMagic then
          [sampleProtMagic, sampleProtEscChar, 0x02]
        else [sampleProtMagic, checksum], false) := by
  by_cases hescCode : checksum = 0x01
  · subst hescCode
    decide
  by_cases hflagCode : checksum = 0x02
  · subst hflagCode
    decide
  by_cases hesc : checksum = sampleProtEscChar
  · subst hesc
    decide
  by_cases hmagic : checksum = sampleProtMagic
  · subst hmagic
    decide
  rw [if_neg hescCode, if_neg hflagCode, if_neg hesc, if_neg hmagic,
    slip.stuffOne_plain hmagic hesc]
  exact slip.absorb_other (fun h => hesc h.1) (fun h => hflagCode h.2)
    (fun h => hescCode h.2)

theorem mangledHead_length (checksum : UInt8) :
    (mangledHead checksum).length =
      if checksum = 0x01 then 1
      else if checksum = 0x02 then 1
      else if checksum = sampleProtEscChar then 3
      else if checksum = sampleProtMagic then 3
      else 2 := by
  rw [mangledHead, absorbAll_stuffOne_pending]
  split_ifs <;> rfl

theorem mangledHead_eq (checksum : UInt8)
    (h : checksum ∉ [0x01, 0x02, sampleProtEscChar, sampleProtMagic]) :
    mangledHead checksum = [sampleProtMagic, checksum] := by
  simp only [List.mem_cons, List.not_mem_nil, or_false, not_or] at h
  obtain ⟨hescCode, hflagCode, hesc, hmagic⟩ := h
  rw [mangledHead, absorbAll_stuffOne_pending, if_neg hescCode,
    if_neg hflagCode, if_neg hesc, if_neg hmagic]

theorem mangledHead_length_ne (checksum : UInt8)
    (h : checksum ∈ [0x01, 0x02, sampleProtEscChar, sampleProtMagic]) :
    (mangledHead checksum).length ≠ 2 := by
  simp only [List.mem_cons, List.not_mem_nil, or_false] at h
  rcases h with rfl | rfl | rfl | rfl <;> decide

theorem absorbAll_wire_body (f : Frame) (pending : Bool) :
    (slip.absorbAll ([sampleProtMagic], pending) (slip.stuff f.middle)).1 =
      (if pending then mangledHead f.checksum
        else [sampleProtMagic, f.checksum]) ++
        (toBE 2 f.serialNum.toNat ++ f.summed) := by
  cases pending with
  | false => rw [Stuffing.absorbAll_stuff]; simp [Frame.middle]
  | true =>
      have hopen : slip.absorbAll ([sampleProtMagic], true)
          (slip.stuffOne f.checksum) = (mangledHead f.checksum, false) := by
        rw [mangledHead, absorbAll_stuffOne_pending]
      rw [Frame.middle, Stuffing.stuff_cons, Stuffing.absorbAll_append,
        hopen, Stuffing.absorbAll_stuff]
      rfl

theorem length_absorbAll_wire_body (f : WellFormedFrame) (pending : Bool) :
    let received := (slip.absorbAll ([sampleProtMagic], pending)
      (slip.stuff f.middle)).1
    6 ≤ received.length ∧ received.length < slipDataBufSize := by
  intro received
  have hfits := f.fits
  have hhead := mangledHead_length f.checksum
  have hlength : received.length =
      (if pending then (mangledHead f.checksum).length else 2) +
        (2 + (f.payload.length + 4)) := by
    simp only [received, absorbAll_wire_body, List.length_append,
      length_toBE, Frame.length_summed]
    cases pending <;> rfl
  simp only [slipDataBufSize, ptrQueueBufSize, dataBufSize] at hfits ⊢
  cases pending <;> simp only [Bool.false_eq_true, if_false, if_true] at hlength
  · constructor <;> omega
  · split_ifs at hhead <;> constructor <;> omega

/-- The wire form of a frame, from any state in which a delimiter is a head. -/
theorem receiver_wire {r : Receiver} (h : r.restarts = true)
    (f : WellFormedFrame) :
    receiver.final r f.wire = .idle ∧
      deliveries (receiver.outputs r f.wire.dropLast) = [] ∧
      deliveries (receiver.outputs r f.wire) =
        [(if r.pending then mangledHead f.checksum
          else [sampleProtMagic, f.checksum]) ++
          (toBE 2 f.serialNum.toNat ++ f.summed) ++ [sampleProtMagic]] := by
  obtain ⟨hlong, hroom⟩ := length_absorbAll_wire_body f r.pending
  obtain ⟨hfinal, hbefore, hdelivered⟩ := receiver_frame
    (Frame.magic_not_mem_stuff f.middle) hlong hroom
  have hdrop : f.wire.dropLast = sampleProtMagic :: slip.stuff f.middle := by
    rw [Frame.wire, ← List.cons_append, List.dropLast_concat]
  have hhead := receiver_head h
  refine ⟨?_, ?_, ?_⟩
  · rw [Frame.wire, Mealy.final_cons, hhead, hfinal]
  · rw [hdrop, Mealy.outputs_cons, hhead]
    simpa using hbefore
  · rw [Frame.wire, Mealy.outputs_cons, hhead]
    simpa [absorbAll_wire_body] using hdelivered

theorem receiver_wire_idle (f : WellFormedFrame) :
    receiver.final .idle f.wire = .idle ∧
      deliveries (receiver.outputs .idle f.wire.dropLast) = [] ∧
      deliveries (receiver.outputs .idle f.wire) = [f.bytes] := by
  obtain ⟨hfinal, hbefore, hdelivered⟩ := receiver_wire (r := .idle) rfl f
  refine ⟨hfinal, hbefore, ?_⟩
  simpa [Receiver.pending, Frame.bytes, Frame.middle] using hdelivered

/-! ## Restart on a delimiter -/

/-- `f` is delivered at the last byte of its wire form, nothing before it. -/
def DeliversOnlyAtEnd (s : Decoder × Mem UInt8) (f : Frame) : Prop :=
  deliveries (unescaple.outputs s f.wire.dropLast) = [] ∧
    deliveries (unescaple.outputs s f.wire) = [f.bytes]

instance (s : Decoder × Mem UInt8) (f : Frame) :
    Decidable (DeliversOnlyAtEnd s f) :=
  inferInstanceAs (Decidable (_ ∧ _))

def decoderAfter (msg : Mem UInt8) (stream : List UInt8) :
    Decoder × Mem UInt8 :=
  unescaple.final (clearFrameFlag, msg) stream

def Decoder.restarts (d : Decoder) : Bool := !d.getHead || decide (d.cnt < 6)

theorem represents_decoderAfter (msg : Mem UInt8) (stream : List UInt8) :
    Represents (decoderAfter msg stream) (receiver.final .idle stream) :=
  (unescaple_simulates.run (s := (clearFrameFlag, msg)) (t := .idle) rfl
    stream).1

theorem Represents.restarts {s : Decoder × Mem UInt8} {r : Receiver}
    (h : Represents s r) : s.1.restarts = r.restarts := by
  cases r with
  | idle =>
      have hd : s.1 = clearFrameFlag := h
      rw [hd]
      rfl
  | inFrame received =>
      rw [h.2.1]
      simp [Decoder.restarts, Receiver.restarts]

theorem Represents.pending {s : Decoder × Mem UInt8} {r : Receiver}
    (h : Represents s r) : s.1.gotEscChar = r.pending := by
  cases r with
  | idle =>
      have hd : s.1 = clearFrameFlag := h
      rw [hd]
      rfl
  | inFrame received =>
      rw [h.2.1]
      rfl

/-- A restart delivers the next frame exactly when no escape is left open or
the checksum is not one of the four bytes an open escape takes part in. -/
theorem restart_delivers_iff (msg : Mem UInt8) (stream : List UInt8)
    (f : WellFormedFrame)
    (hrestart : (decoderAfter msg stream).1.restarts = true) :
    DeliversOnlyAtEnd (decoderAfter msg stream) f.toFrame ↔
      (decoderAfter msg stream).1.gotEscChar = false ∨
        f.checksum ∉ [0x01, 0x02, sampleProtEscChar, sampleProtMagic] := by
  have hrep := represents_decoderAfter msg stream
  rw [hrep.restarts] at hrestart
  obtain ⟨-, hbefore, hdelivered⟩ := receiver_wire hrestart f
  unfold DeliversOnlyAtEnd
  rw [(unescaple_simulates.run hrep _).2, (unescaple_simulates.run hrep _).2,
    hbefore, hdelivered, hrep.pending]
  have hbytes : f.bytes = [sampleProtMagic, f.checksum] ++
      (toBE 2 f.serialNum.toNat ++ f.summed) ++ [sampleProtMagic] := by
    simp [Frame.bytes, Frame.middle]
  rw [hbytes]
  constructor
  · rintro ⟨-, heq⟩
    by_contra hstuck
    simp only [not_or, Bool.not_eq_false] at hstuck
    obtain ⟨hpending, hchecksum⟩ := hstuck
    have hlength := congrArg (fun frames => frames.flatten.length) heq
    have hhead := mangledHead_length_ne f.checksum (not_not.mp hchecksum)
    simp only [hpending, if_true, List.flatten_cons, List.flatten_nil,
      List.append_nil, List.length_append, List.length_cons,
      List.length_nil] at hlength
    omega
  · intro hclean
    refine ⟨rfl, ?_⟩
    rcases hclean with hpending | hchecksum
    · simp [hpending]
    · cases r : (receiver.final .idle stream).pending
      · simp
      · simp [mangledHead_eq f.checksum hchecksum]

def checksumOneFrame : WellFormedFrame where
  serialNum := 1
  vendorId := vendorId
  deviceId := sampleDeviceIdAdas
  cmd := sampleCmdQuery
  payload := [0x28]
  fits := by decide

theorem restart_delivers_after_head :
    DeliversOnlyAtEnd (decoderAfter (fun _ => 0) [0x7E])
        checksumOneFrame.toFrame ↔
      (decoderAfter (fun _ => 0) [0x7E]).1.gotEscChar = false ∨
        checksumOneFrame.checksum ∉
          [0x01, 0x02, sampleProtEscChar, sampleProtMagic] :=
  restart_delivers_iff (fun _ => 0) [0x7E] checksumOneFrame (by decide)

/-- After `7E 7D` the frame with checksum `0x01` is not delivered. -/
theorem restart_loses_checksum :
    (decoderAfter (fun _ => 0) [0x7E, 0x7D]).1.restarts = true ∧
      ¬ DeliversOnlyAtEnd (decoderAfter (fun _ => 0) [0x7E, 0x7D])
        checksumOneFrame.toFrame := by
  decide +kernel

end SanbaoProt
