import SanbaoProt.Framing.Receiver

/-!
# A stream as delimited segments

Cut at its delimiters a stream is a list of segments.  The first is filler;
after a head comes a body.  A body of fewer than six cells is given up for the
next segment, any other is closed by its delimiter and followed by filler.
`frameSizes` reads off the sizes that the frames of a stream reach in the
message buffer, and `receiver_stores_iff` compares them with the cells that the
receiver sets.
-/

namespace SanbaoProt

open Library

def bodyReceived (pending : Bool) (body : List UInt8) : List UInt8 × Bool :=
  slip.absorbAll ([sampleProtMagic], pending) body

/-- The sizes reached by the frames of the segments that follow a head. -/
def openedSizes : Bool → List (List UInt8) → List Nat
  | _, [] => []
  | pending, [body] => [(bodyReceived pending body).1.length]
  | pending, body :: next :: rest =>
      if (bodyReceived pending body).1.length < 6 then
        openedSizes (bodyReceived pending body).2 (next :: rest)
      else
        ((bodyReceived pending body).1.length + 1) :: openedSizes false rest

/-- The sizes, unescaped and with their delimiters, of the frames of a stream. -/
def frameSizes (stream : List UInt8) : List Nat :=
  openedSizes false (stream.splitOn sampleProtMagic).tail

def StoresBelow (bound : Nat) (events : List DecoderEvent) : Prop :=
  ∀ i ∈ storedIndices events, i < bound

def SizesAtMost (bound : Nat) (sizes : List Nat) : Prop :=
  ∀ size ∈ sizes, size ≤ bound

@[simp] theorem sizesAtMost_nil (bound : Nat) : SizesAtMost bound [] := by
  simp [SizesAtMost]

@[simp] theorem sizesAtMost_cons (bound size : Nat) (sizes : List Nat) :
    SizesAtMost bound (size :: sizes) ↔
      size ≤ bound ∧ SizesAtMost bound sizes := by
  simp [SizesAtMost]

@[simp] theorem storesBelow_nil (bound : Nat) : StoresBelow bound [] := by
  simp [StoresBelow]

@[simp] theorem storesBelow_append (bound : Nat)
    (first second : List DecoderEvent) :
    StoresBelow bound (first ++ second) ↔
      StoresBelow bound first ∧ StoresBelow bound second := by
  simp [StoresBelow, or_imp, forall_and]

@[simp] theorem storesBelow_stored (bound i : Nat)
    (events : List DecoderEvent) :
    StoresBelow bound (.stored i :: events) ↔
      i < bound ∧ StoresBelow bound events := by
  simp [StoresBelow]

@[simp] theorem storesBelow_delivered (bound : Nat) (frame : List UInt8)
    (events : List DecoderEvent) :
    StoresBelow bound (.delivered frame :: events) ↔
      StoresBelow bound events := by
  simp [StoresBelow]

theorem receiver_filler_append {filler rest : List UInt8}
    (hfiller : sampleProtMagic ∉ filler) :
    receiver.outputs .idle (filler ++ sampleProtMagic :: rest) =
      .stored 0 :: receiver.outputs (.inFrame ([sampleProtMagic], false))
        rest := by
  have hrun := receiver_filler hfiller
  have hfinal : receiver.final .idle filler = .idle :=
    congrArg Prod.fst hrun
  have houtputs : receiver.outputs .idle filler = [] :=
    congrArg Prod.snd hrun
  rw [Mealy.outputs_append, houtputs, hfinal]
  rfl

theorem receiver_idle_segments {bound : Nat} (hpos : 0 < bound)
    {filler : List UInt8} (hfiller : sampleProtMagic ∉ filler)
    (segments : List (List UInt8)) :
    StoresBelow bound (receiver.outputs .idle
        ([sampleProtMagic].intercalate (filler :: segments))) ↔
      StoresBelow bound (receiver.outputs (.inFrame ([sampleProtMagic], false))
        ([sampleProtMagic].intercalate segments)) := by
  cases segments with
  | nil =>
      rw [List.intercalate_singleton, List.intercalate_nil, Mealy.outputs,
        receiver_filler hfiller]
      simp
  | cons body rest =>
      rw [List.intercalate_cons_cons, List.append_assoc, List.singleton_append,
        receiver_filler_append hfiller, storesBelow_stored]
      exact and_iff_right hpos

section

variable {bound : Nat} (hbound : bound < slipDataBufSize)

include hbound

/-- While the buffer holds at most `bound` bytes the overflow reset is out of
reach, and the cells set tell how far the body gets. -/
theorem receiver_body_stores_iff {received : List UInt8 × Bool}
    {body : List UInt8} (hbody : sampleProtMagic ∉ body)
    (hne : received.1 ≠ []) (hlength : received.1.length ≤ bound) :
    (StoresBelow bound (receiver.outputs (.inFrame received) body) ↔
        (slip.absorbAll received body).1.length ≤ bound) ∧
      ((slip.absorbAll received body).1.length ≤ bound →
        receiver.final (.inFrame received) body =
          .inFrame (slip.absorbAll received body)) := by
  induction body generalizing received with
  | nil => simpa using hlength
  | cons ch body ih =>
      simp only [List.mem_cons, not_or] at hbody
      have hstep := receiver_text received (by omega) (Ne.symm hbody.1)
      have hne' := slip.absorb_ne_nil received ch
      have hpos := List.length_pos_of_ne_nil hne'
      have hgrow := slip.length_absorb_le received ch
      rw [Mealy.outputs_cons, Mealy.final_cons, hstep, storesBelow_append]
      simp only [storesBelow_stored, storesBelow_nil, and_true,
        Stuffing.absorbAll_cons]
      by_cases hnext : (slip.absorb received ch).1.length ≤ bound
      · obtain ⟨hiff, hfinal⟩ := ih hbody.2 hne' hnext
        refine ⟨?_, hfinal⟩
        rw [hiff]
        exact and_iff_right (by omega)
      · have hlater := slip.length_le_absorbAll hne' body
        constructor
        · constructor
          · rintro ⟨hindex, -⟩
            omega
          · intro h
            omega
        · intro h
          omega

theorem receiver_opened_stores_iff (hone : 1 ≤ bound) (pending : Bool)
    {body : List UInt8} (hbody : sampleProtMagic ∉ body) :
    (StoresBelow bound
        (receiver.outputs (.inFrame ([sampleProtMagic], pending)) body) ↔
        (bodyReceived pending body).1.length ≤ bound) ∧
      ((bodyReceived pending body).1.length ≤ bound →
        receiver.final (.inFrame ([sampleProtMagic], pending)) body =
          .inFrame (bodyReceived pending body)) :=
  receiver_body_stores_iff hbound hbody (by simp) hone

theorem receiver_segments_stores_iff (hlong : 6 ≤ bound) (pending : Bool)
    (segments : List (List UInt8))
    (hsegments : ∀ segment ∈ segments, sampleProtMagic ∉ segment) :
    StoresBelow bound
        (receiver.outputs (.inFrame ([sampleProtMagic], pending))
          ([sampleProtMagic].intercalate segments)) ↔
      SizesAtMost bound (openedSizes pending segments) := by
  have hone : 1 ≤ bound := by omega
  induction pending, segments using openedSizes.induct with
  | case1 pending => simp [openedSizes, List.intercalate_nil]
  | case2 pending body =>
      have h := (receiver_opened_stores_iff hbound hone pending
        (hsegments body (by simp))).1
      simpa [openedSizes, List.intercalate_singleton] using h
  | case3 pending body next rest hshort ih =>
      obtain ⟨hiff, hfinal⟩ := receiver_opened_stores_iff hbound hone pending
        (hsegments body (by simp))
      have hroom : (bodyReceived pending body).1.length ≤ bound := by omega
      have hstart := receiver_restart hshort
      have hrest : StoresBelow bound (receiver.outputs
            (.inFrame ([sampleProtMagic], (bodyReceived pending body).2))
            ([sampleProtMagic].intercalate (next :: rest))) ↔
          SizesAtMost bound
            (openedSizes (bodyReceived pending body).2 (next :: rest)) :=
        ih fun segment h => hsegments segment (List.mem_cons_of_mem _ h)
      have hpos : 0 < bound := by omega
      rw [openedSizes, if_pos hshort, ← hrest, List.intercalate_cons_cons,
        List.append_assoc, List.singleton_append, Mealy.outputs_append,
        hfinal hroom, Mealy.outputs_of_step hstart, storesBelow_append, hiff,
        and_iff_right hroom, List.singleton_append, storesBelow_stored,
        and_iff_right hpos]
  | case4 pending body next rest hshort ih =>
      obtain ⟨hiff, hfinal⟩ := receiver_opened_stores_iff hbound hone pending
        (hsegments body (by simp))
      have hnext := hsegments next (by simp)
      have hrest : StoresBelow bound (receiver.outputs
            (.inFrame ([sampleProtMagic], false))
            ([sampleProtMagic].intercalate rest)) ↔
          SizesAtMost bound (openedSizes false rest) :=
        ih fun segment h => hsegments segment
          (List.mem_cons_of_mem _ (List.mem_cons_of_mem _ h))
      rw [openedSizes, if_neg hshort, sizesAtMost_cons, ← hrest,
        ← receiver_idle_segments (by omega) hnext,
        List.intercalate_cons_cons, List.append_assoc, List.singleton_append,
        Mealy.outputs_append, storesBelow_append, hiff]
      by_cases hroom : (bodyReceived pending body).1.length ≤ bound
      · have htail := receiver_tail (bodyReceived pending body)
          (by omega) (by omega)
        rw [hfinal hroom, Mealy.outputs_of_step htail, and_iff_right hroom,
          List.cons_append, storesBelow_stored, List.singleton_append,
          storesBelow_delivered, Nat.succ_le_iff]
      · constructor
        · rintro ⟨h, -⟩
          exact absurd h hroom
        · rintro ⟨h, -⟩
          omega

end

theorem flag_not_mem_segments (stream : List UInt8) :
    ∀ segment ∈ stream.splitOn sampleProtMagic,
      sampleProtMagic ∉ segment := by
  by_cases hmem : sampleProtMagic ∈ stream
  · obtain ⟨filler, rest, rfl, hfiller⟩ := List.eq_append_cons_of_mem hmem
    rw [List.splitOn_append_cons_self_of_not_mem hfiller]
    intro segment hsegment
    rcases List.mem_cons.mp hsegment with rfl | hrest
    · exact hfiller
    · exact flag_not_mem_segments rest segment hrest
  · rw [List.splitOn_eq_singleton hmem]
    simpa using hmem
termination_by stream.length
decreasing_by
  subst_vars
  simp
  omega

/-- The cells set while a stream is received lie below `bound` exactly when no
frame of the stream reaches a size above it. -/
theorem receiver_stores_iff {bound : Nat} (hlong : 6 ≤ bound)
    (hbound : bound < slipDataBufSize) (stream : List UInt8) :
    StoresBelow bound (receiver.outputs .idle stream) ↔
      SizesAtMost bound (frameSizes stream) := by
  have hsegments := flag_not_mem_segments stream
  have hstream : [sampleProtMagic].intercalate
      (stream.splitOn sampleProtMagic) = stream :=
    List.intercalate_splitOn sampleProtMagic
  cases hcut : stream.splitOn sampleProtMagic with
  | nil => exact absurd hcut (List.splitOn_ne_nil _ _)
  | cons filler segments =>
      rw [hcut] at hsegments hstream
      rw [frameSizes, hcut, List.tail_cons,
        ← receiver_segments_stores_iff hbound hlong false segments
          (fun segment h => hsegments segment (List.mem_cons_of_mem _ h)),
        ← receiver_idle_segments (by omega)
          (hsegments filler (by simp)) segments, hstream]

end SanbaoProt
