import SanbaoProt.Protocol

/-!
# The two send hooks

`tcp_snd` and `uart_snd` hand a frame to `write`, which may take a part of it or
fail for the moment.  Both go on after a part.  At a failure that will pass,
`tcp_snd` tries again and `uart_snd` returns what it has written so far, so
that the rest of the frame is never sent.
-/

namespace SanbaoProt

open Library

inductive Errno where
  | eintr
  | eagain
  | enobufs
  | other
  deriving DecidableEq, Repr

/-- The failure will pass. -/
def Errno.Transient (e : Errno) : Prop := e = .eintr ∨ e = .eagain

instance (e : Errno) : Decidable e.Transient :=
  inferInstanceAs (Decidable (_ ∨ _))

/-- `write` takes as many bytes as there is room for, or fails. -/
inductive WriteOutcome where
  | took (room : Nat)
  | failed (errno : Errno)
  deriving DecidableEq, Repr

/-- The fields of `prot_handle` that the hooks read. -/
structure SndHandle where
  fd : Int
  sndDataS : Mem UInt8
  sndlen : Nat

/-! ## The hooks -/

/-- The bytes written and the value returned, if the outcomes last until then.
A `write` of nothing leaves `errno` as it was. -/
def tcpSndLoop (buf : Mem UInt8) (len offset : Nat) (errno : Errno)
    (outcomes : List WriteOutcome) : List UInt8 × Option Int :=
  if offset < len then
    match outcomes with
    | [] => ([], none)
    | .failed e :: outcomes =>
        if e.Transient then tcpSndLoop buf len offset e outcomes
        else ([], some (-1))
    | .took room :: outcomes =>
        let ret := min room (len - offset)
        if ret = 0 then
          if errno.Transient then tcpSndLoop buf len offset errno outcomes
          else ([], some (-1))
        else
          let rest := tcpSndLoop buf len (offset + ret) errno outcomes
          (buf.read offset ret ++ rest.1, rest.2)
  else ([], some 0)

def tcpSnd (handle : SndHandle) (errno : Errno)
    (outcomes : List WriteOutcome) : List UInt8 × Option Int :=
  if handle.fd < 0 then ([], some (-1))
  else tcpSndLoop handle.sndDataS handle.sndlen 0 errno outcomes

def uartSndLoop (buf : Mem UInt8) (count offset nleft : Nat)
    (outcomes : List WriteOutcome) : List UInt8 × Option Int :=
  if 0 < nleft then
    match outcomes with
    | [] => ([], none)
    | .failed e :: _ =>
        if e.Transient then ([], some (count - nleft))
        else ([], some (-1))
    | .took room :: outcomes =>
        let r := min room nleft
        if r = 0 then ([], some (-2))
        else
          let rest := uartSndLoop buf count (offset + r) (nleft - r) outcomes
          (buf.read offset r ++ rest.1, rest.2)
  else ([], some count)

def uartSnd (handle : SndHandle) (outcomes : List WriteOutcome) :
    List UInt8 × Option Int :=
  uartSndLoop handle.sndDataS handle.sndlen 0 handle.sndlen outcomes

/-! ## Whole frames -/

def SndHandle.frame (handle : SndHandle) : List UInt8 :=
  handle.sndDataS.read 0 handle.sndlen

/-- A prefix of the frame is written, and all of it if the value that is
returned is not negative. -/
def Transmits (frame : List UInt8) (sent : List UInt8 × Option Int) : Prop :=
  sent.1 <+: frame ∧ ∀ ret, sent.2 = some ret → 0 ≤ ret → sent.1 = frame

namespace Transmits

variable {frame : List UInt8}

theorem fails {ret : Int} (h : ret < 0) : Transmits frame ([], some ret) := by
  refine ⟨List.nil_prefix, fun ret' heq hret => ?_⟩
  obtain rfl := Option.some.inj heq
  omega

theorem waits : Transmits frame ([], none) :=
  ⟨List.nil_prefix, nofun⟩

theorem done (ret : Int) : Transmits [] ([], some ret) :=
  ⟨List.nil_prefix, fun _ _ _ => rfl⟩

/-- A part of the frame has been written already. -/
theorem append_iff (first : List UInt8) (sent : List UInt8 × Option Int) :
    Transmits (first ++ frame) (first ++ sent.1, sent.2) ↔
      Transmits frame sent := by
  simp only [Transmits, List.prefix_append_right_inj,
    List.append_cancel_left_eq]

end Transmits

theorem tcpSndLoop_transmits (buf : Mem UInt8) (len offset : Nat)
    (errno : Errno) (outcomes : List WriteOutcome) :
    Transmits (buf.read offset (len - offset))
      (tcpSndLoop buf len offset errno outcomes) := by
  fun_induction tcpSndLoop buf len offset errno outcomes with
  | case1 => exact .waits
  | case2 offset errno hleft e outcomes htransient ih => exact ih
  | case3 => exact .fails (by decide)
  | case4 offset errno hleft room outcomes ret hnothing htransient ih =>
      exact ih
  | case5 => exact .fails (by decide)
  | case6 offset errno hleft room outcomes ret hpart rest ih =>
      have hsplit : len - offset = ret + (len - (offset + ret)) := by omega
      rw [hsplit, Mem.read_add]
      exact (Transmits.append_iff _ _).mpr ih
  | case7 offset errno outcomes hdone =>
      rw [Nat.sub_eq_zero_of_le (Nat.le_of_not_lt hdone)]
      exact .done 0

theorem tcpSnd_transmits (handle : SndHandle) (errno : Errno)
    (outcomes : List WriteOutcome) :
    Transmits handle.frame (tcpSnd handle errno outcomes) := by
  unfold tcpSnd
  split_ifs
  · exact .fails (by decide)
  · exact tcpSndLoop_transmits handle.sndDataS handle.sndlen 0 errno outcomes

/-- A failure that will pass comes while bytes are left, and only parts of the
frame were written before it. -/
def Interrupted (len : Nat) (outcomes : List WriteOutcome) : Prop :=
  ∃ (rooms : List Nat) (e : Errno) (later : List WriteOutcome),
    outcomes = rooms.map .took ++ .failed e :: later ∧ e.Transient ∧
      (∀ room ∈ rooms, 0 < room) ∧ rooms.sum < len

theorem interrupted_failed_iff {len : Nat} (hleft : 0 < len) (e : Errno)
    (outcomes : List WriteOutcome) :
    Interrupted len (.failed e :: outcomes) ↔ e.Transient := by
  constructor
  · rintro ⟨rooms, e', later, heq, htransient, -, -⟩
    cases rooms with
    | nil =>
        obtain rfl := WriteOutcome.failed.inj (List.cons.inj heq).1
        exact htransient
    | cons room rooms => exact nomatch heq
  · intro htransient
    exact ⟨[], e, outcomes, rfl, htransient, nofun, hleft⟩

theorem interrupted_took_iff (len room : Nat) (outcomes : List WriteOutcome) :
    Interrupted len (.took room :: outcomes) ↔
      0 < room ∧ room < len ∧ Interrupted (len - room) outcomes := by
  constructor
  · rintro ⟨rooms, e, later, heq, htransient, hrooms, hsum⟩
    cases rooms with
    | nil => exact nomatch heq
    | cons room' rooms =>
        obtain ⟨hroom, hrest⟩ := List.cons.inj heq
        obtain rfl := WriteOutcome.took.inj hroom
        rw [List.sum_cons] at hsum
        refine ⟨hrooms room List.mem_cons_self, by omega, ?_⟩
        exact ⟨rooms, e, later, hrest, htransient,
          fun r hr => hrooms r (List.mem_cons_of_mem _ hr), by omega⟩
  · rintro ⟨hroom, hlt, rooms, e, later, rfl, htransient, hrooms, hsum⟩
    refine ⟨room :: rooms, e, later, rfl, htransient, ?_, ?_⟩
    · exact List.forall_mem_cons.mpr ⟨hroom, hrooms⟩
    · rw [List.sum_cons]
      omega

theorem not_interrupted_nil (len : Nat) : ¬ Interrupted len [] := by
  rintro ⟨rooms, e, later, heq, -⟩
  cases rooms with
  | nil => exact nomatch heq
  | cons room rooms => exact nomatch heq

theorem not_interrupted_zero (outcomes : List WriteOutcome) :
    ¬ Interrupted 0 outcomes := by
  rintro ⟨rooms, e, later, -, -, -, hsum⟩
  exact Nat.not_lt_zero _ hsum

theorem uartSndLoop_transmits_iff (buf : Mem UInt8)
    (count offset nleft : Nat) (hcount : nleft ≤ count)
    (outcomes : List WriteOutcome) :
    Transmits (buf.read offset nleft)
        (uartSndLoop buf count offset nleft outcomes) ↔
      ¬ Interrupted nleft outcomes := by
  fun_induction uartSndLoop buf count offset nleft outcomes with
  | case1 offset nleft hleft =>
      exact iff_of_true .waits (not_interrupted_nil nleft)
  | case2 offset nleft hleft e outcomes htransient =>
      rw [interrupted_failed_iff hleft]
      refine iff_of_false (fun h => ?_) (not_not_intro htransient)
      have hnone := h.2 _ rfl (by omega)
      have hlength := congrArg List.length hnone
      rw [Mem.length_read] at hlength
      exact Nat.ne_of_lt hleft hlength
  | case3 offset nleft hleft e outcomes hhard =>
      rw [interrupted_failed_iff hleft]
      exact iff_of_true (.fails (by decide)) hhard
  | case4 offset nleft hleft room outcomes r hnothing =>
      rw [interrupted_took_iff]
      exact iff_of_true (.fails (by decide)) fun h => by omega
  | case5 offset nleft hleft room outcomes r hpart rest ih =>
      have hsplit : nleft = r + (nleft - r) := by omega
      have hrest : Interrupted nleft (.took room :: outcomes) ↔
          Interrupted (nleft - r) outcomes := by
        rw [interrupted_took_iff]
        rcases Nat.lt_or_ge room nleft with hlt | hall
        · have hr : r = room := Nat.min_eq_left (Nat.le_of_lt hlt)
          rw [hr]
          exact ⟨fun h => h.2.2, fun h => ⟨by omega, hlt, h⟩⟩
        · have hr : r = nleft := Nat.min_eq_right hall
          rw [hr, Nat.sub_self]
          exact iff_of_false (fun h => by omega) (not_interrupted_zero outcomes)
      rw [hrest, ← ih (by omega)]
      nth_rewrite 1 [hsplit]
      rw [Mem.read_add]
      exact Transmits.append_iff _ _
  | case6 offset nleft outcomes hdone =>
      obtain rfl := Nat.eq_zero_of_not_pos hdone
      exact iff_of_true (.done count) (not_interrupted_zero _)

/-- Both hooks transmit whole frames exactly if `uart_snd` is not
interrupted. -/
theorem sendHooks_transmit_iff (handle : SndHandle) (errno : Errno)
    (tcpOutcomes uartOutcomes : List WriteOutcome) :
    Transmits handle.frame (tcpSnd handle errno tcpOutcomes) ∧
        Transmits handle.frame (uartSnd handle uartOutcomes) ↔
      ¬ Interrupted handle.sndlen uartOutcomes := by
  have huart := uartSndLoop_transmits_iff handle.sndDataS handle.sndlen 0
    handle.sndlen (Nat.le_refl _) uartOutcomes
  rw [and_iff_right (tcpSnd_transmits handle errno tcpOutcomes)]
  exact huart

/-- One byte of three is written, and `write` would block. -/
theorem uartSnd_interrupted :
    let handle : SndHandle := ⟨3, fun _ => sampleProtMagic, 3⟩
    uartSnd handle [.took 1, .failed .eagain, .took 2] =
        ([sampleProtMagic], some 1) ∧
      ¬ Transmits handle.frame
        (uartSnd handle [.took 1, .failed .eagain, .took 2]) := by
  intro handle
  have hsent : uartSnd handle [.took 1, .failed .eagain, .took 2] =
      ([sampleProtMagic], some 1) := by decide
  refine ⟨hsent, fun h => ?_⟩
  rw [hsent] at h
  exact absurd (h.2 1 rfl (by decide)) (by decide)

end SanbaoProt
