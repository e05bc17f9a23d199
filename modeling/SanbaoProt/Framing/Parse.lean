import SanbaoProt.Framing.Segments

/-!
# The receive loop

`protParse` hands every byte of a read to the decoder, checks the checksum of
a completed frame and calls the command handler on the buffer it lies in.  The
handler may change the world and the buffer, and it may end the process, after
which nothing more happens.  The laws of this file hold for every handler.
-/

namespace SanbaoProt

open Library

/-- What `prot_parse` sees of `sample_on_cmd`. -/
structure Handler (ω : Type*) where
  onCmd : ω → Mem UInt8 → Nat → ω × Mem UInt8
  exited : ω → Bool

structure ParseState (ω : Type*) where
  flags : Decoder
  rcvData : Mem UInt8
  world : ω

inductive ParseEvent where
  | stored (index : Nat)
  | called (frame : List UInt8)
  deriving DecidableEq, Repr

def Unescapled.parseStores (r : Unescapled) : List ParseEvent :=
  match r.store with
  | none => []
  | some (i, _) => [.stored i]

variable {ω : Type*} (H : Handler ω)

def protParse : Mealy (ParseState ω) UInt8 ParseEvent where
  step s ch :=
    if H.exited s.world then (s, [])
    else
      let r := unescapleMsg s.flags ch slipDataBufSize
      let msgbuf := r.apply s.rcvData
      if 0 < r.framelen then
        if sampleCalcSum msgbuf r.framelen ≠ msgbuf 1 then
          (⟨r.flags, msgbuf, s.world⟩, r.parseStores)
        else
          let after := H.onCmd s.world msgbuf r.framelen
          (⟨r.flags, after.2, after.1⟩,
            r.parseStores ++ [.called (msgbuf.read 0 r.framelen)])
      else (⟨r.flags, msgbuf, s.world⟩, r.parseStores)

def calls (events : List ParseEvent) : List (List UInt8) :=
  events.filterMap fun
    | .stored _ => none
    | .called frame => some frame

def parseIndices (events : List ParseEvent) : List Nat :=
  events.filterMap fun
    | .stored i => some i
    | .called _ => none

@[simp] theorem calls_append (first second : List ParseEvent) :
    calls (first ++ second) = calls first ++ calls second :=
  List.filterMap_append

@[simp] theorem parseIndices_append (first second : List ParseEvent) :
    parseIndices (first ++ second) =
      parseIndices first ++ parseIndices second :=
  List.filterMap_append

theorem parseIndices_parseStores (r : Unescapled) :
    parseIndices r.parseStores = storedIndices r.stores := by
  unfold Unescapled.parseStores Unescapled.stores
  cases r.store <;> rfl

theorem calls_parseStores (r : Unescapled) : calls r.parseStores = [] := by
  unfold Unescapled.parseStores
  cases r.store <;> rfl

theorem protParse_exited {s : ParseState ω} (h : H.exited s.world = true)
    (stream : List UInt8) : (protParse H).run s stream = (s, []) := by
  induction stream with
  | nil => rfl
  | cons ch stream ih =>
      have hstep : (protParse H).step s ch = (s, []) := by
        simp [protParse, h]
      simp [Mealy.run, hstep, ih]

/-! ## Buffer indices -/

theorem protParse_step_indices {s : ParseState ω}
    (h : H.exited s.world = false) (ch : UInt8) :
    parseIndices ((protParse H).step s ch).2 =
        storedIndices (unescaple.step (s.flags, s.rcvData) ch).2 ∧
      ((protParse H).step s ch).1.flags =
        (unescaple.step (s.flags, s.rcvData) ch).1.1 := by
  have hindices := parseIndices_parseStores
    (unescapleMsg s.flags ch slipDataBufSize)
  have hnone : ∀ frame, parseIndices [.called frame] = [] := fun _ => rfl
  have hdelivered : ∀ frame, storedIndices [.delivered frame] = [] :=
    fun _ => rfl
  simp only [protParse, unescaple, h, Bool.false_eq_true, if_false]
  split_ifs <;> simp [hindices, hnone, hdelivered]

/-- The parser has the flags of the receiver, whatever the buffer holds: the
handler may rewrite the buffer only while the receiver is idle. -/
def Tracks (s : ParseState ω) (r : Receiver) : Prop :=
  Represents (s.flags, s.rcvData) r

theorem protParse_step_tracks {s : ParseState ω} {r : Receiver}
    (hexited : H.exited s.world = false) (h : Tracks s r) (ch : UInt8) :
    Tracks ((protParse H).step s ch).1 (receiver.step r ch).1 ∧
      parseIndices ((protParse H).step s ch).2 =
        storedIndices (receiver.step r ch).2 := by
  obtain ⟨hnext, houtputs⟩ := unescaple_simulates.step _ _ ch h
  obtain ⟨hindices, hflags⟩ := protParse_step_indices H hexited ch
  refine ⟨?_, by rw [hindices, houtputs]⟩
  cases hr : (receiver.step r ch).1 with
  | idle =>
      rw [hr] at hnext
      have hclear : (unescaple.step (s.flags, s.rcvData) ch).1.1 =
          clearFrameFlag := hnext
      change ((protParse H).step s ch).1.flags = clearFrameFlag
      rw [hflags, hclear]
  | inFrame received =>
      rw [hr] at hnext
      have hopen : (unescapleMsg s.flags ch slipDataBufSize).framelen = 0 := by
        by_contra hframe
        have hclosed := unescapleMsg_framelen (Nat.pos_of_ne_zero hframe)
        have := hnext.2.1
        rw [show (unescaple.step (s.flags, s.rcvData) ch).1.1 =
          clearFrameFlag from hclosed] at this
        simp [clearFrameFlag] at this
      have hsame : (((protParse H).step s ch).1.flags,
          ((protParse H).step s ch).1.rcvData) =
          (unescaple.step (s.flags, s.rcvData) ch).1 := by
        simp [protParse, unescaple, hexited, hopen]
      unfold Tracks
      rw [hsame]
      exact hnext

/-- The bytes that are handed to the decoder before the process ends. -/
def received : ParseState ω → List UInt8 → List UInt8
  | _, [] => []
  | s, ch :: stream =>
      if H.exited s.world then []
      else ch :: received ((protParse H).step s ch).1 stream

theorem protParse_tracks {s : ParseState ω} {r : Receiver}
    (h : Tracks s r) (stream : List UInt8) :
    parseIndices ((protParse H).outputs s stream) =
      storedIndices (receiver.outputs r (received H s stream)) := by
  induction stream generalizing s r with
  | nil => rfl
  | cons ch stream ih =>
      cases hexited : H.exited s.world with
      | true =>
          rw [Mealy.outputs, protParse_exited H hexited]
          simp [received, hexited, parseIndices]
      | false =>
          obtain ⟨hnext, hindices⟩ := protParse_step_tracks H hexited h ch
          simp [received, hexited, hindices, ih hnext]

/-- From the initial flags, the cells of `rcvData` set by the receive loop lie
below `bound` exactly when no frame it opens grows larger. -/
theorem protParse_stores_iff {bound : Nat} (hlong : 6 ≤ bound)
    (hbound : bound < slipDataBufSize) (rcvData : Mem UInt8) (world : ω)
    (stream : List UInt8) :
    (∀ i ∈ parseIndices
        ((protParse H).outputs ⟨clearFrameFlag, rcvData, world⟩ stream),
        i < bound) ↔
      SizesAtMost bound
        (frameSizes (received H ⟨clearFrameFlag, rcvData, world⟩ stream)) := by
  have htracks : Tracks (ω := ω) ⟨clearFrameFlag, rcvData, world⟩ .idle := rfl
  rw [protParse_tracks H htracks, ← receiver_stores_iff hlong hbound]
  rfl

/-! ## Frames on the stream -/

theorem protParse_step_quiet {s : ParseState ω}
    (hexited : H.exited s.world = false) {ch : UInt8}
    (hquiet : deliveries (unescaple.step (s.flags, s.rcvData) ch).2 = []) :
    ((protParse H).step s ch).1 =
        ⟨(unescaple.step (s.flags, s.rcvData) ch).1.1,
          (unescaple.step (s.flags, s.rcvData) ch).1.2, s.world⟩ ∧
      calls ((protParse H).step s ch).2 = [] := by
  have hopen : (unescapleMsg s.flags ch slipDataBufSize).framelen = 0 := by
    by_contra hframe
    simp [unescaple, Nat.pos_of_ne_zero hframe] at hquiet
  have hstep : (protParse H).step s ch =
      (⟨(unescaple.step (s.flags, s.rcvData) ch).1.1,
        (unescaple.step (s.flags, s.rcvData) ch).1.2, s.world⟩,
        (unescapleMsg s.flags ch slipDataBufSize).parseStores) := by
    simp [protParse, unescaple, hexited, hopen]
  rw [hstep]
  exact ⟨rfl, calls_parseStores _⟩

theorem protParse_quiet {s : ParseState ω}
    (hexited : H.exited s.world = false) {stream : List UInt8}
    (hquiet : deliveries
      (unescaple.outputs (s.flags, s.rcvData) stream) = []) :
    (protParse H).final s stream =
        ⟨(unescaple.final (s.flags, s.rcvData) stream).1,
          (unescaple.final (s.flags, s.rcvData) stream).2, s.world⟩ ∧
      calls ((protParse H).outputs s stream) = [] ∧
      received H s stream = stream := by
  induction stream generalizing s with
  | nil => exact ⟨rfl, rfl, rfl⟩
  | cons ch stream ih =>
      rw [Mealy.outputs_cons, deliveries_append, List.append_eq_nil_iff]
        at hquiet
      obtain ⟨hnext, hfirst⟩ := protParse_step_quiet H hexited hquiet.1
      obtain ⟨hfinal, hcalls, hreceived⟩ :=
        ih (s := ((protParse H).step s ch).1) (by rw [hnext]; exact hexited)
          (by rw [hnext]; exact hquiet.2)
      refine ⟨?_, ?_, ?_⟩
      · rw [Mealy.final_cons, hfinal, hnext]
        rfl
      · rw [Mealy.outputs_cons, calls_append, hcalls, hfirst]
        rfl
      · simp [received, hexited, hreceived]

theorem openFrame_received {s : ParseState ω}
    (hexited : H.exited s.world = false) (hidle : s.flags = clearFrameFlag)
    {body : List UInt8} (hbody : sampleProtMagic ∉ body)
    (hesc : sampleProtEscChar ∉ body)
    (hroom : body.length + 1 < slipDataBufSize) :
    received H s (sampleProtMagic :: body) = sampleProtMagic :: body ∧
      frameSizes (sampleProtMagic :: body) = [body.length + 1] := by
  have hplain := slip.absorbAll_plain [sampleProtMagic] hesc
  have hrep : Represents (s.flags, s.rcvData) .idle := hidle
  constructor
  · have hquiet := (receiver_body ([sampleProtMagic], false) (by simp)
      hbody (by rw [hplain]; simpa using hroom)).2
    refine (protParse_quiet H hexited ?_).2.2
    rw [(unescaple_simulates.run hrep _).2,
      Mealy.outputs_of_step (receiver_head (r := .idle) rfl)]
    simpa [Receiver.pending] using hquiet
  · have hsplit : (sampleProtMagic :: body).splitOn sampleProtMagic =
        [] :: body.splitOn sampleProtMagic :=
      List.splitOn_append_cons_self_of_not_mem
        (show sampleProtMagic ∉ [] by simp) body
    rw [frameSizes, hsplit, List.splitOn_eq_singleton hbody, List.tail_cons,
      openedSizes, bodyReceived, hplain]
    simp

theorem protParse_complete {s : ParseState ω} {ch : UInt8} {f : Frame}
    (hexited : H.exited s.world = false)
    (hframe : deliveries (unescaple.step (s.flags, s.rcvData) ch).2 =
      [f.bytes]) :
    ∃ msgbuf : Mem UInt8, msgbuf.read 0 f.bytes.length = f.bytes ∧
      ((protParse H).step s ch).1 =
        ⟨clearFrameFlag, (H.onCmd s.world msgbuf f.bytes.length).2,
          (H.onCmd s.world msgbuf f.bytes.length).1⟩ ∧
      calls ((protParse H).step s ch).2 = [f.bytes] := by
  let r := unescapleMsg s.flags ch slipDataBufSize
  have hstores : deliveries r.stores = [] := by
    unfold Unescapled.stores
    cases r.store <;> rfl
  have hpos : 0 < r.framelen := by
    by_contra hopen
    simp [unescaple, r, hopen, hstores] at hframe
  have hread : (r.apply s.rcvData).read 0 r.framelen = f.bytes := by
    simpa [unescaple, r, hpos, hstores] using hframe
  have hlength : r.framelen = f.bytes.length := by
    rw [← hread, Mem.length_read]
  have hflags : r.flags = clearFrameFlag := unescapleMsg_framelen hpos
  rw [hlength] at hread hpos
  refine ⟨r.apply s.rcvData, hread, ?_⟩
  have hchecksum := sampleCalcSum_of_read hread
  have hstep : (protParse H).step s ch =
      (⟨clearFrameFlag,
        (H.onCmd s.world (r.apply s.rcvData) f.bytes.length).2,
        (H.onCmd s.world (r.apply s.rcvData) f.bytes.length).1⟩,
        r.parseStores ++ [.called f.bytes]) := by
    simp only [protParse, hexited, Bool.false_eq_true, if_false]
    rw [show unescapleMsg s.flags ch slipDataBufSize = r from rfl, hlength,
      if_pos hpos, if_neg (by simpa using hchecksum), hread, hflags]
  rw [hstep]
  exact ⟨rfl, by rw [calls_append, calls_parseStores]; rfl⟩

theorem protParse_wire {s : ParseState ω} (f : WellFormedFrame)
    (hexited : H.exited s.world = false) (hidle : s.flags = clearFrameFlag) :
    ∃ msgbuf : Mem UInt8, msgbuf.read 0 f.bytes.length = f.bytes ∧
      (protParse H).final s f.wire =
        ⟨clearFrameFlag, (H.onCmd s.world msgbuf f.bytes.length).2,
          (H.onCmd s.world msgbuf f.bytes.length).1⟩ ∧
      calls ((protParse H).outputs s f.wire) = [f.bytes] := by
  have hrep : Represents (s.flags, s.rcvData) .idle := hidle
  obtain ⟨-, hbefore, hdelivered⟩ := receiver_wire_idle f
  rw [← (unescaple_simulates.run hrep _).2] at hbefore hdelivered
  have hwire : f.wire = f.wire.dropLast ++ [sampleProtMagic] := by
    rw [Frame.wire, ← List.cons_append, List.dropLast_concat]
  obtain ⟨hfinal, hcalls, -⟩ := protParse_quiet H hexited hbefore
  have htail : deliveries (unescaple.step
      (unescaple.final (s.flags, s.rcvData) f.wire.dropLast)
      sampleProtMagic).2 = [f.bytes] := by
    rw [hwire, Mealy.outputs_append, deliveries_append, hbefore] at hdelivered
    simpa using hdelivered
  generalize unescaple.final (s.flags, s.rcvData) f.wire.dropLast = opened
    at htail hfinal
  obtain ⟨msgbuf, hread, hstep, hcalled⟩ := protParse_complete H
    (s := ⟨opened.1, opened.2, s.world⟩) hexited htail
  refine ⟨msgbuf, hread, ?_, ?_⟩
  · rw [hwire, Mealy.final_append, hfinal]
    exact hstep
  · rw [hwire, Mealy.outputs_append, calls_append, hcalls, hfinal]
    simpa using hcalled

theorem protParse_filler {s : ParseState ω} {filler : List UInt8}
    (hexited : H.exited s.world = false) (hidle : s.flags = clearFrameFlag)
    (hfiller : sampleProtMagic ∉ filler) :
    ((protParse H).final s filler).flags = clearFrameFlag ∧
      ((protParse H).final s filler).world = s.world ∧
      calls ((protParse H).outputs s filler) = [] := by
  have hrep : Represents (s.flags, s.rcvData) .idle := hidle
  have hrun := receiver_filler hfiller
  obtain ⟨hflags, houtputs⟩ := unescaple_simulates.run hrep filler
  rw [show receiver.final .idle filler = .idle from congrArg Prod.fst hrun]
    at hflags
  have hquiet : deliveries
      (unescaple.outputs (s.flags, s.rcvData) filler) = [] := by
    rw [houtputs, Mealy.outputs, hrun]
    rfl
  obtain ⟨hfinal, hcalls, -⟩ := protParse_quiet H hexited hquiet
  exact ⟨by rw [hfinal]; exact hflags, by rw [hfinal], hcalls⟩

structure Framed extends WellFormedFrame where
  filler : List UInt8
  clean : sampleProtMagic ∉ filler

def streamOf (framed : List Framed) : List UInt8 :=
  framed.flatMap fun f => f.wire ++ f.filler

/-- The entries of a list up to and including the first that stops. -/
def throughFirst {α : Type*} (stops : α → Bool) : List α → List α
  | [] => []
  | x :: xs => x :: if stops x then [] else throughFirst stops xs

/-- The frames of a stream reach the handler in order, up to the first one
that ends the process. -/
theorem protParse_streamOf {stops : Frame → Bool}
    (hstops : ∀ w msgbuf (f : WellFormedFrame), H.exited w = false →
      msgbuf.read 0 f.bytes.length = f.bytes →
      H.exited (H.onCmd w msgbuf f.bytes.length).1 = stops f.toFrame)
    {s : ParseState ω} (hexited : H.exited s.world = false)
    (hidle : s.flags = clearFrameFlag) (framed : List Framed) :
    calls ((protParse H).outputs s (streamOf framed)) =
        (throughFirst (fun f => stops f.toFrame) framed).map
          (fun f => f.bytes) ∧
      ((protParse H).final s (streamOf framed)).flags = clearFrameFlag := by
  induction framed generalizing s with
  | nil => exact ⟨rfl, hidle⟩
  | cons f framed ih =>
      obtain ⟨msgbuf, hread, hfinal, hcalls⟩ :=
        protParse_wire H f.toWellFormedFrame hexited hidle
      have hafter := hstops s.world msgbuf f.toWellFormedFrame hexited hread
      have hsplit : streamOf (f :: framed) =
          f.wire ++ (f.filler ++ streamOf framed) := by
        simp [streamOf]
      rw [hsplit, Mealy.outputs_append, Mealy.final_append, calls_append,
        hcalls, hfinal, throughFirst, List.map_cons]
      cases hstop : stops f.toFrame with
      | true =>
          rw [hstop] at hafter
          rw [Mealy.outputs, Mealy.final, protParse_exited H hafter]
          exact ⟨rfl, rfl⟩
      | false =>
          rw [hstop] at hafter
          obtain ⟨hflags, hworld, hsilent⟩ := protParse_filler H
            (s := ⟨clearFrameFlag, (H.onCmd s.world msgbuf f.bytes.length).2,
              (H.onCmd s.world msgbuf f.bytes.length).1⟩)
            hafter rfl f.clean
          obtain ⟨hrest, hend⟩ := ih (by rw [hworld]; exact hafter) hflags
          rw [Mealy.outputs_append, Mealy.final_append, calls_append, hsilent,
            hrest]
          exact ⟨rfl, hend⟩

end SanbaoProt
