import SanbaoProt.Protocol

/-!
# The in-place encoder

`sampleEscapleMsg` scans the frame between its head and its tail.  At a byte
that must not travel as it is, the rest of the array moves up by one cell, the
bound of the loop moves with it, and the byte is overwritten by its two-byte
form.  The cells before the index are encoded, the cells from the index on are
as they were: that is the invariant which `escapleFrom_read` carries.
-/

namespace SanbaoProt

open Library

/-- The loop of `sample_escaple_msg` from index `i` on. -/
def escapleFrom (barray : Mem UInt8) (i escapedLen : Nat) :
    Mem UInt8 × Nat :=
  if i < escapedLen - 1 then
    if barray i = sampleProtMagic then
      escapleFrom
        (((barray.move (i + 1) i (escapedLen - i)).store i
          sampleProtEscChar).store (i + 1) 0x2)
        (i + 2) (escapedLen + 1)
    else if barray i = sampleProtEscChar then
      escapleFrom
        (((barray.move (i + 1) i (escapedLen - i)).store i
          sampleProtEscChar).store (i + 1) 0x1)
        (i + 2) (escapedLen + 1)
    else escapleFrom barray (i + 1) escapedLen
  else (barray, escapedLen)
termination_by escapedLen - 1 - i

def sampleEscapleMsg (barray : Mem UInt8) (msgLen : Nat) : Mem UInt8 × Nat :=
  escapleFrom barray 1 msgLen

private theorem expand_read {barray : Mem UInt8} {done todo : List UInt8}
    {c tail : UInt8} {escapedLen : Nat} (esc code : UInt8)
    (hread : barray.read 0 escapedLen = done ++ (c :: todo ++ [tail])) :
    (((barray.move (done.length + 1) done.length
        (escapedLen - done.length)).store done.length esc).store
        (done.length + 1) code).read 0 (escapedLen + 1) =
      (done ++ [esc, code]) ++ (todo ++ [tail]) := by
  have hlength : escapedLen = done.length + (todo.length + 2) := by
    have := congrArg List.length hread
    simpa using this
  have hrest : barray.read done.length (escapedLen - done.length) =
      c :: todo ++ [tail] := by
    have := Mem.read_suffix hread
    simpa [hlength] using this
  have hdone := Mem.read_prefix hread
  have hmoved : (barray.copy (done.length + 1) (c :: todo ++ [tail])).read
      (done.length + 1) (todo.length + 2) = c :: (todo ++ [tail]) := by
    have := barray.read_copy (done.length + 1) (c :: todo ++ [tail])
    simpa using this
  have htodo : (barray.copy (done.length + 1) (c :: todo ++ [tail])).read
      (done.length + 2) (todo.length + 1) = todo ++ [tail] := by
    rw [Mem.read_succ] at hmoved
    exact (List.cons.inj hmoved).2
  have hsplit : escapedLen + 1 = done.length + (2 + (todo.length + 1)) := by
    omega
  rw [Mem.move, hrest, hsplit, Mem.read_add, Mem.read_add]
  have hleft : ((((barray.copy (done.length + 1)
      (c :: todo ++ [tail])).store done.length esc).store
      (done.length + 1) code).read 0 done.length) = done := by
    rw [Mem.read_store_of_le _ _ (by omega),
      Mem.read_store_of_le _ _ (by omega),
      Mem.read_copy_of_le _ _ (by omega), hdone]
  have hpair : ((((barray.copy (done.length + 1)
      (c :: todo ++ [tail])).store done.length esc).store
      (done.length + 1) code).read (0 + done.length) 2) = [esc, code] := by
    rw [Mem.read_succ, Mem.read_succ, Mem.read_zero, Nat.zero_add,
      Mem.store_of_ne _ _ (by omega), Mem.store_self, Mem.store_self]
  have hright : ((((barray.copy (done.length + 1)
      (c :: todo ++ [tail])).store done.length esc).store
      (done.length + 1) code).read (0 + done.length + 2)
      (todo.length + 1)) = todo ++ [tail] := by
    rw [← htodo, Nat.zero_add]
    apply Mem.read_congr
    intro j hj _
    rw [Mem.store_of_ne _ _ (by omega), Mem.store_of_ne _ _ (by omega)]
  rw [hleft, hpair, hright, List.append_assoc]

private theorem expand_frame {barray : Mem UInt8} {i escapedLen j : Nat}
    (esc code : UInt8) (hi : i < escapedLen) (hj : escapedLen + 1 ≤ j) :
    (((barray.move (i + 1) i (escapedLen - i)).store i esc).store (i + 1)
      code) j = barray j := by
  rw [Mem.store_of_ne _ _ (by omega), Mem.store_of_ne _ _ (by omega),
    Mem.move, Mem.copy_of_ge _ _ (by simp; omega)]

theorem escapleFrom_read (todo done : List UInt8) (barray : Mem UInt8)
    {tail : UInt8} (escapedLen : Nat)
    (hread : barray.read 0 escapedLen = done ++ (todo ++ [tail])) :
    (escapleFrom barray done.length escapedLen).2 =
        done.length + (slip.stuff todo).length + 1 ∧
      (escapleFrom barray done.length escapedLen).1.read 0
          (done.length + (slip.stuff todo).length + 1) =
        done ++ (slip.stuff todo ++ [tail]) ∧
      ∀ j, done.length + (slip.stuff todo).length + 1 ≤ j →
        (escapleFrom barray done.length escapedLen).1 j = barray j := by
  have hlength : escapedLen = done.length + (todo.length + 1) := by
    have := congrArg List.length hread
    simpa using this
  induction todo generalizing done barray escapedLen with
  | nil =>
      rw [escapleFrom, if_neg (by simp [hlength])]
      simpa [hlength] using hread
  | cons c todo ih =>
      have hhere : barray done.length = c := by
        have := Mem.apply_of_read hread done.length (by simp)
        simpa using this
      have hbound : done.length < escapedLen - 1 := by
        simp [hlength]
      have hexpand : ∀ code : UInt8,
          slip.stuff [c] = [sampleProtEscChar, code] →
          let moved := (((barray.move (done.length + 1) done.length
            (escapedLen - done.length)).store done.length
            sampleProtEscChar).store (done.length + 1) code)
          (escapleFrom moved (done.length + 2) (escapedLen + 1)).2 =
              done.length + (slip.stuff (c :: todo)).length + 1 ∧
            (escapleFrom moved (done.length + 2) (escapedLen + 1)).1.read 0
                (done.length + (slip.stuff (c :: todo)).length + 1) =
              done ++ (slip.stuff (c :: todo) ++ [tail]) ∧
            ∀ j, done.length + (slip.stuff (c :: todo)).length + 1 ≤ j →
              (escapleFrom moved (done.length + 2)
                (escapedLen + 1)).1 j = barray j := by
        intro code hcode moved
        have hmoved := expand_read sampleProtEscChar code hread
        have hstuff : slip.stuff (c :: todo) =
            [sampleProtEscChar, code] ++ slip.stuff todo := by
          rw [← hcode, ← Stuffing.stuff_append]
          rfl
        obtain ⟨hlen, hbytes, hframe⟩ := ih
          (done ++ [sampleProtEscChar, code]) moved (escapedLen + 1)
          (by simpa [moved] using hmoved) (by simp [hlength]; omega)
        have hsize : (done ++ [sampleProtEscChar, code]).length =
            done.length + 2 := by simp
        have htotal : done.length + 2 + (slip.stuff todo).length + 1 =
            done.length + (slip.stuff (c :: todo)).length + 1 := by
          simp [hstuff]
          omega
        rw [hsize, htotal] at hlen hbytes hframe
        refine ⟨hlen, ?_, fun j hj => ?_⟩
        · rw [hbytes, hstuff]
          simp
        · rw [hframe j hj]
          exact expand_frame _ _ (by omega) (by
            simp [hstuff, slip.length_stuff] at hj
            simp at hlength
            omega)
      rw [escapleFrom, if_pos hbound, hhere]
      by_cases hmagic : c = sampleProtMagic
      · rw [if_pos hmagic]
        exact hexpand 0x2 (by subst hmagic; decide)
      rw [if_neg hmagic]
      by_cases hesc : c = sampleProtEscChar
      · rw [if_pos hesc]
        exact hexpand 0x1 (by subst hesc; decide)
      rw [if_neg hesc]
      have hplain : slip.stuffOne c = [c] := slip.stuffOne_plain hmagic hesc
      obtain ⟨hlen, hbytes, hframe⟩ := ih (done ++ [c]) barray escapedLen
        (by simpa using hread) (by simp [hlength]; omega)
      have hsize : (done ++ [c]).length = done.length + 1 := by simp
      have htotal : done.length + 1 + (slip.stuff todo).length + 1 =
          done.length + (slip.stuff (c :: todo)).length + 1 := by
        simp [hplain]
        omega
      rw [hsize, htotal] at hlen hbytes hframe
      refine ⟨hlen, ?_, hframe⟩
      rw [hbytes, Stuffing.stuff_cons, hplain]
      simp

theorem sampleEscapleMsg_read {barray : Mem UInt8} {head tail : UInt8}
    {middle : List UInt8}
    (hread : barray.read 0 (middle.length + 2) =
      head :: (middle ++ [tail])) :
    (sampleEscapleMsg barray (middle.length + 2)).2 =
        (slip.stuff middle).length + 2 ∧
      (sampleEscapleMsg barray (middle.length + 2)).1.read 0
          ((slip.stuff middle).length + 2) =
        head :: (slip.stuff middle ++ [tail]) ∧
      ∀ j, (slip.stuff middle).length + 2 ≤ j →
        (sampleEscapleMsg barray (middle.length + 2)).1 j = barray j := by
  have h := escapleFrom_read middle [head] barray (middle.length + 2)
    (by simpa using hread)
  have hsize : [head].length + (slip.stuff middle).length + 1 =
      (slip.stuff middle).length + 2 := by
    simp
    omega
  rw [hsize] at h
  exact h

/-- The encoder on a frame in memory produces its wire form. -/
theorem sampleEscapleMsg_frame {barray : Mem UInt8} {f : Frame}
    (hread : barray.read 0 f.bytes.length = f.bytes) :
    (sampleEscapleMsg barray f.bytes.length).2 = f.wire.length ∧
      (sampleEscapleMsg barray f.bytes.length).1.read 0 f.wire.length =
        f.wire ∧
      ∀ j, f.wire.length ≤ j →
        (sampleEscapleMsg barray f.bytes.length).1 j = barray j := by
  have hlength : f.bytes.length = f.middle.length + 2 := by simp
  have hwire : f.wire.length = (slip.stuff f.middle).length + 2 := by
    simp [Frame.wire]
  rw [hlength, hwire]
  exact sampleEscapleMsg_read (by rw [← hlength, hread]; rfl)

/-! ## Refinement of the stuffing -/

/-- The cells that the loop reads or writes: the one at the index, and from
there to the end of the moved rest. -/
def escapleTouched (barray : Mem UInt8) (i escapedLen : Nat) : List Nat :=
  if i < escapedLen - 1 then
    if barray i = sampleProtMagic then
      List.range' i (escapedLen + 1 - i) ++ escapleTouched
        (((barray.move (i + 1) i (escapedLen - i)).store i
          sampleProtEscChar).store (i + 1) 0x2)
        (i + 2) (escapedLen + 1)
    else if barray i = sampleProtEscChar then
      List.range' i (escapedLen + 1 - i) ++ escapleTouched
        (((barray.move (i + 1) i (escapedLen - i)).store i
          sampleProtEscChar).store (i + 1) 0x1)
        (i + 2) (escapedLen + 1)
    else i :: escapleTouched barray (i + 1) escapedLen
  else []
termination_by escapedLen - 1 - i

theorem le_escapleFrom (barray : Mem UInt8) (i escapedLen : Nat) :
    escapedLen ≤ (escapleFrom barray i escapedLen).2 := by
  fun_induction escapleFrom barray i escapedLen with
  | case1 barray i escapedLen hin hmagic ih => omega
  | case2 barray i escapedLen hin hmagic hesc ih => omega
  | case3 barray i escapedLen hin hmagic hesc ih => exact ih
  | case4 barray i escapedLen hin => exact Nat.le_refl _

theorem lt_of_mem_moved (moved : Mem UInt8) {i escapedLen j : Nat}
    (hj : j ∈ List.range' i (escapedLen + 1 - i)) :
    j < (escapleFrom moved (i + 2) (escapedLen + 1)).2 := by
  have hgrown := le_escapleFrom moved (i + 2) (escapedLen + 1)
  have hrange := List.mem_range'_1.mp hj
  omega

theorem lt_of_mem_escapleTouched {barray : Mem UInt8} {i escapedLen j : Nat}
    (hj : j ∈ escapleTouched barray i escapedLen) :
    j < (escapleFrom barray i escapedLen).2 := by
  fun_induction escapleFrom barray i escapedLen with
  | case1 barray i escapedLen hin hmagic ih =>
      rw [escapleTouched, if_pos hin, if_pos hmagic] at hj
      rcases List.mem_append.mp hj with hhere | hlater
      · exact lt_of_mem_moved _ hhere
      · exact ih hlater
  | case2 barray i escapedLen hin hmagic hesc ih =>
      rw [escapleTouched, if_pos hin, if_neg hmagic, if_pos hesc] at hj
      rcases List.mem_append.mp hj with hhere | hlater
      · exact lt_of_mem_moved _ hhere
      · exact ih hlater
  | case3 barray i escapedLen hin hmagic hesc ih =>
      rw [escapleTouched, if_pos hin, if_neg hmagic, if_neg hesc] at hj
      rcases List.mem_cons.mp hj with hhere | hlater
      · have hgrown := le_escapleFrom barray (i + 1) escapedLen
        omega
      · exact ih hlater
  | case4 barray i escapedLen hin =>
      rw [escapleTouched, if_neg hin] at hj
      cases hj

theorem ne_magic_of_read {barray : Mem UInt8} {head tail : UInt8}
    {middle : List UInt8}
    (hread : barray.read 0 ((slip.stuff middle).length + 2) =
      head :: (slip.stuff middle ++ [tail])) {j : Nat} (hpos : 0 < j)
    (hj : j < (slip.stuff middle).length + 1) :
    barray j ≠ sampleProtMagic := by
  intro hmagic
  cases j with
  | zero => exact Nat.lt_irrefl 0 hpos
  | succ k =>
      have hinside : k < (slip.stuff middle).length := by omega
      have hcell := Mem.apply_of_read hread (k + 1) (by simp; omega)
      rw [Nat.zero_add, hmagic, List.getElem_cons_succ,
        List.getElem_append_left hinside] at hcell
      have hmem := List.getElem_mem hinside
      rw [← hcell] at hmem
      exact slip.flag_not_mem_stuff middle hmem

/-- The array afterwards: the head, the stuffed middle and the tail. -/
theorem sampleEscapleMsg_refines {barray : Mem UInt8} {msgLen : Nat}
    (h : 2 ≤ msgLen) :
    let middle := barray.read 1 (msgLen - 2)
    let escaped := sampleEscapleMsg barray msgLen
    escaped.1.read 0 escaped.2 =
        barray 0 :: (slip.stuff middle ++ [barray (msgLen - 1)]) ∧
      escaped.2 = msgLen + middle.count sampleProtMagic +
        middle.count sampleProtEscChar ∧
      (∀ j ∈ escapleTouched barray 1 msgLen, j < escaped.2) ∧
      (∀ j, escaped.2 ≤ j → escaped.1 j = barray j) ∧
      ∀ j, 0 < j → j < escaped.2 - 1 → escaped.1 j ≠ sampleProtMagic := by
  intro middle escaped
  have hmiddle : middle.length = msgLen - 2 := Mem.length_read barray 1 _
  have hlen : msgLen = middle.length + 2 := by omega
  have hread : barray.read 0 (middle.length + 2) =
      barray 0 :: (middle ++ [barray (msgLen - 1)]) := by
    rw [Mem.read_succ, Mem.read_succ_last, hmiddle]
    have hlast : 0 + 1 + (msgLen - 2) = msgLen - 1 := by omega
    rw [hlast]
  obtain ⟨hsize, hbytes, hframe⟩ := sampleEscapleMsg_read hread
  rw [← hlen] at hsize hbytes hframe
  change escaped.2 = _ at hsize
  have hstuff := slip.length_stuff middle
  refine ⟨?_, ?_, fun j hj => lt_of_mem_escapleTouched hj, ?_, ?_⟩
  · rw [hsize]
    exact hbytes
  · change _ = middle.length + middle.count sampleProtMagic +
      middle.count sampleProtEscChar at hstuff
    omega
  · intro j hj
    exact hframe j (by omega)
  · intro j hpos hj
    exact ne_magic_of_read hbytes hpos (by omega)

/-- A middle of a magic and an escape byte. -/
theorem sampleEscapleMsg_refines_four :
    let barray : Mem UInt8 := Mem.ofList [0x7E, 0x7E, 0x7D, 0x7E]
    let middle := barray.read 1 (4 - 2)
    let escaped := sampleEscapleMsg barray 4
    escaped.1.read 0 escaped.2 =
        barray 0 :: (slip.stuff middle ++ [barray (4 - 1)]) ∧
      escaped.2 = 4 + middle.count sampleProtMagic +
        middle.count sampleProtEscChar ∧
      (∀ j ∈ escapleTouched barray 1 4, j < escaped.2) ∧
      (∀ j, escaped.2 ≤ j → escaped.1 j = barray j) ∧
      ∀ j, 0 < j → j < escaped.2 - 1 → escaped.1 j ≠ sampleProtMagic :=
  sampleEscapleMsg_refines (by decide)

end SanbaoProt
