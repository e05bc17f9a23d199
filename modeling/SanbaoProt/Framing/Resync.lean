import SanbaoProt.Framing.Receiver

/-!
# Resynchronisation

Whatever came before, a whole frame brings the receiver back into step: its
head is a head, or it ends a frame or an overflow, and then its tail is taken
as a head and gives way to the next one.  Either way no escape is left open, so
the second frame of any two is delivered as it was sent.
-/

namespace SanbaoProt

open Library

/-- Between frames, or in a frame that the next delimiter starts afresh. -/
def Receiver.InStep (r : Receiver) : Prop :=
  r = .idle ∨ r = .inFrame ([sampleProtMagic], false)

theorem Receiver.InStep.restarts {r : Receiver} (h : r.InStep) :
    r.restarts = true ∧ r.pending = false := by
  rcases h with rfl | rfl
  · exact ⟨rfl, rfl⟩
  · exact ⟨by decide, rfl⟩

/-- A delimiter that is not a head leaves the receiver between frames. -/
theorem receiver_notHead {r : Receiver} (h : r.restarts = false) :
    (receiver.step r sampleProtMagic).1 = .idle := by
  cases r with
  | idle => cases h
  | inFrame received =>
      have hlong : ¬ received.1.length < 6 := by
        simpa [Receiver.restarts] using h
      simp only [receiver]
      split_ifs
      · rfl
      · rfl

theorem receiver_wire_inStep (r : Receiver) (f : WellFormedFrame) :
    (receiver.final r f.wire).InStep := by
  cases hrestart : r.restarts with
  | true => exact .inl (receiver_wire hrestart f).1
  | false =>
      have hbody := receiver_filler (Frame.magic_not_mem_stuff f.middle)
      have hidle : receiver.final .idle (slip.stuff f.middle) = .idle := by
        rw [Mealy.final, hbody]
      right
      rw [Frame.wire, Mealy.final_cons, receiver_notHead hrestart,
        Mealy.final_append, hidle]
      rfl

theorem Receiver.InStep.delivers {s : Decoder × Mem UInt8} {r : Receiver}
    (h : r.InStep) (hrep : Represents s r) (f : WellFormedFrame) :
    DeliversOnlyAtEnd s f.toFrame := by
  obtain ⟨hrestart, hpending⟩ := h.restarts
  obtain ⟨-, hbefore, hdelivered⟩ := receiver_wire hrestart f
  constructor
  · rw [(unescaple_simulates.run hrep _).2, hbefore]
  · rw [(unescaple_simulates.run hrep _).2, hdelivered, hpending]
    simp [Frame.bytes, Frame.middle]

/-- After any stream and one more frame, the next frame is delivered exactly,
and the decoder is idle after it. -/
theorem decoder_resynchronises (msg : Mem UInt8) (stream : List UInt8)
    (first second : WellFormedFrame) :
    DeliversOnlyAtEnd (decoderAfter msg (stream ++ first.wire))
        second.toFrame ∧
      (decoderAfter msg (stream ++ first.wire ++ second.wire)).1 =
        clearFrameFlag := by
  have hrep := represents_decoderAfter msg (stream ++ first.wire)
  have hin : (receiver.final .idle (stream ++ first.wire)).InStep := by
    rw [Mealy.final_append]
    exact receiver_wire_inStep _ first
  constructor
  · exact hin.delivers hrep second
  · have hidle := (receiver_wire hin.restarts.1 second).1
    have hafter := represents_decoderAfter msg
      (stream ++ first.wire ++ second.wire)
    rw [Mealy.final_append, hidle] at hafter
    exact hafter

end SanbaoProt
