import SanbaoProt.Framing.Parse

/-!
# The receive loop on frames

Whatever bytes arrive, the receive loop does what its handler does on the
frames that the receiver takes from them and whose checksum is right, until
the handler ends the process.
-/

namespace SanbaoProt

open Library

/-- A frame in the receive buffer and its length. -/
structure Delivery where
  msg : Mem UInt8
  len : Nat

def Delivery.bytes (d : Delivery) : List UInt8 := d.msg.read 0 d.len

def Delivery.ofBytes (frame : List UInt8) : Delivery :=
  ⟨Mem.ofList frame, frame.length⟩

@[simp] theorem Delivery.bytes_ofBytes (frame : List UInt8) :
    (Delivery.ofBytes frame).bytes = frame := Mem.read_ofList frame

/-- The check that `prot_parse` makes of a completed frame. -/
def isChecked (frame : List UInt8) : Bool :=
  sampleCalcSum (Mem.ofList frame) frame.length = Mem.ofList frame 1

def checkedFrames (r : Receiver) (stream : List UInt8) : List (List UInt8) :=
  (deliveries (receiver.outputs r stream)).filter isChecked

theorem checkedFrames_cons (r : Receiver) (ch : UInt8)
    (stream : List UInt8) :
    checkedFrames r (ch :: stream) =
      (deliveries (receiver.step r ch).2).filter isChecked ++
        checkedFrames (receiver.step r ch).1 stream := by
  simp [checkedFrames]

/-! ## The frames of the receiver -/

/-- A frame is closed by the delimiter, behind six bytes at least. -/
structure Closed (frame : List UInt8) : Prop where
  long : 7 ≤ frame.length
  last : frame.getLast? = some sampleProtMagic

theorem receiver_step_closed (r : Receiver) (ch : UInt8) :
    ∀ frame ∈ deliveries (receiver.step r ch).2, Closed frame := by
  have hstored : ∀ i, deliveries [.stored i] = [] := fun _ => rfl
  cases r with
  | idle =>
      simp only [receiver]
      split_ifs <;> simp [hstored]
  | inFrame received =>
      simp only [receiver]
      split_ifs with hfull hmagic hshort
      · simp
      · simp [hstored]
      · intro frame hframe
        have heq : frame = received.1 ++ [sampleProtMagic] := by
          simpa [deliveries] using hframe
        rw [heq]
        constructor
        · simp
          omega
        · simp
      · simp [hstored]

theorem checkedFrames_closed (r : Receiver) (stream : List UInt8) :
    ∀ frame ∈ checkedFrames r stream, Closed frame := by
  induction stream generalizing r with
  | nil => simp [checkedFrames]
  | cons ch stream ih =>
      intro frame hframe
      rw [checkedFrames_cons] at hframe
      rcases List.mem_append.mp hframe with hnow | hlater
      · exact receiver_step_closed r ch frame (List.mem_of_mem_filter hnow)
      · exact ih _ frame hlater

theorem isChecked_bytes {msg : Mem UInt8} {frame : List UInt8}
    (hlong : 7 ≤ frame.length) (h : msg.read 0 frame.length = frame) :
    isChecked frame = decide (sampleCalcSum msg frame.length = msg 1) := by
  have hagree : Mem.AgreeBelow frame.length (Mem.ofList frame) msg :=
    Mem.agreeBelow_of_read (Mem.read_ofList frame) h
  unfold isChecked sampleCalcSum
  rw [hagree 1 (by omega), hagree.read (by omega)]

/-! ## The loop -/

variable {ω : Type*} (H : Handler ω)

/-- The handler on one frame; nothing happens once the process has ended. -/
def Handler.handle (w : ω) (d : Delivery) : ω :=
  if H.exited w then w else (H.onCmd w d.msg d.len).1

def Handler.handleAll (w : ω) (frames : List Delivery) : ω :=
  frames.foldl H.handle w

theorem Handler.handleAll_exited {w : ω} (h : H.exited w = true)
    (frames : List Delivery) : H.handleAll w frames = w := by
  induction frames with
  | nil => rfl
  | cons d frames ih =>
      have hstep : H.handle w d = w := if_pos h
      rw [handleAll, List.foldl_cons, hstep]
      exact ih

/-- A byte that completes no frame leaves the world alone; one that completes
a frame has the handler called on it if it passes its check. -/
theorem protParse_step_frame {s : ParseState ω} {r : Receiver}
    (hexited : H.exited s.world = false) (h : Tracks s r) (ch : UInt8) :
    ∃ frames : List Delivery,
      frames.map Delivery.bytes =
          (deliveries (receiver.step r ch).2).filter isChecked ∧
        ((protParse H).step s ch).1.world = H.handleAll s.world frames := by
  have houtputs : (unescaple.step (s.flags, s.rcvData) ch).2 =
      (receiver.step r ch).2 := (unescaple_simulates.step _ _ ch h).2
  let u := unescapleMsg s.flags ch slipDataBufSize
  let msg := u.apply s.rcvData
  by_cases hopen : u.framelen = 0
  · have hnone : deliveries (receiver.step r ch).2 = [] := by
      rw [← houtputs]
      simp only [unescaple]
      rw [show unescapleMsg s.flags ch slipDataBufSize = u from rfl, hopen]
      unfold Unescapled.stores
      cases u.store <;> rfl
    refine ⟨[], by rw [hnone]; rfl, ?_⟩
    have hquiet := (protParse_step_quiet H hexited
      (by rw [houtputs]; exact hnone)).1
    rw [hquiet]
    rfl
  · have hpos : 0 < u.framelen := Nat.pos_of_ne_zero hopen
    let frame := msg.read 0 u.framelen
    have hlength : frame.length = u.framelen := Mem.length_read msg 0 _
    have hdelivered : deliveries (receiver.step r ch).2 = [frame] := by
      rw [← houtputs]
      simp only [unescaple]
      rw [show unescapleMsg s.flags ch slipDataBufSize = u from rfl,
        if_pos hpos]
      unfold Unescapled.stores
      cases u.store <;> rfl
    have hclosed : Closed frame :=
      receiver_step_closed r ch frame (by rw [hdelivered]; simp)
    have hchecked : isChecked frame =
        decide (sampleCalcSum msg u.framelen = msg 1) := by
      rw [← hlength]
      exact isChecked_bytes hclosed.long (by rw [hlength])
    have hworld : ((protParse H).step s ch).1.world =
        if isChecked frame then (H.onCmd s.world msg u.framelen).1
        else s.world := by
      simp only [protParse, hexited, Bool.false_eq_true, if_false]
      rw [show unescapleMsg s.flags ch slipDataBufSize = u from rfl,
        if_pos hpos, hchecked]
      by_cases hsum : sampleCalcSum msg u.framelen = msg 1
      · simp [msg, hsum]
      · simp [msg, hsum]
    rw [hworld, hdelivered]
    cases hframe : isChecked frame with
    | true =>
        have hhandle : H.handle s.world ⟨msg, u.framelen⟩ =
            (H.onCmd s.world msg u.framelen).1 :=
          if_neg (by rw [hexited]; decide)
        refine ⟨[⟨msg, u.framelen⟩], ?_, ?_⟩
        · simp [hframe, Delivery.bytes, frame]
        · exact hhandle.symm
    | false => exact ⟨[], by simp [hframe], rfl⟩

/-- The world after a stream is that of a handler which is called on the
frames of the stream, one after the other. -/
theorem protParse_frames {s : ParseState ω} {r : Receiver} (h : Tracks s r)
    (stream : List UInt8) :
    ∃ frames : List Delivery,
      frames.map Delivery.bytes = checkedFrames r stream ∧
        ((protParse H).final s stream).world =
          H.handleAll s.world frames := by
  induction stream generalizing s r with
  | nil => exact ⟨[], rfl, rfl⟩
  | cons ch stream ih =>
      cases hexited : H.exited s.world with
      | true =>
          -- The bytes that are left do nothing, and no more do their frames.
          refine ⟨(checkedFrames r (ch :: stream)).map .ofBytes, ?_, ?_⟩
          · simp [Function.comp_def]
          · rw [H.handleAll_exited hexited, Mealy.final,
              protParse_exited H hexited]
      | false =>
          obtain ⟨now, hnow, hstep⟩ := protParse_step_frame H hexited h ch
          obtain ⟨later, hlater, hrest⟩ :=
            ih (protParse_step_tracks H hexited h ch).1
          refine ⟨now ++ later, ?_, ?_⟩
          · rw [List.map_append, hnow, hlater, checkedFrames_cons]
          · rw [Mealy.final_cons, hrest, hstep, Handler.handleAll,
              Handler.handleAll, Handler.handleAll, List.foldl_append]

end SanbaoProt
