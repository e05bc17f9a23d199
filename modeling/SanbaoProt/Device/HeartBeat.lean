import SanbaoProt.Device.Connection

/-!
# The heart beat

Once a second `check_heart_beat` looks whether a `SPEED_INFO` frame has come in,
and after `check_heart_period` misses in a row it closes the connection.  Its
statics live as long as the process: the misses of a connection that ends
otherwise are still counted when the next one is established.  `Session` is the
history that a statement about one connection needs; the program does not have
it.
-/

namespace SanbaoProt

open Library

structure HeartConfig where
  useHeart : Bool
  checkHeartPeriod : UInt32

/-- `heart_beat_status` is the `heartBeat` of the world. -/
structure HeartBeat where
  world : World
  status : ConnectStatus
  now : Nat
  sRecordLast : Nat
  count : UInt32

inductive HeartEvent where
  /-- `do_stat_reset` and `CONNECT_ON` after `try_connect`. -/
  | connected
  /-- `tcp_rcv` closes the socket. -/
  | peerClosed
  | frame (r : Received)
  | pass (secs : Nat)
  | checkHeartBeat
  | others (changed : World)

inductive HeartOutput where
  | closed
  deriving DecidableEq, Repr

/-- Whether `secs` have passed, and the time to remember. -/
def limitRecordTime (now last secs : Nat) : Bool × Nat :=
  if now - last < secs then (false, last) else (true, now)

namespace HeartBeat

/-- `tcp_socket_close`. -/
def tcpSocketClose (s : HeartBeat) : HeartBeat × List HeartOutput :=
  if s.status = .on then ({ s with status := .off }, [.closed]) else (s, [])

def checkHeartBeat (config : HeartConfig) (s : HeartBeat) :
    HeartBeat × List HeartOutput :=
  if config.useHeart then
    if s.status = .off then ({ s with sRecordLast := s.now }, [])
    else
      let limited := limitRecordTime s.now s.sRecordLast 1
      let timed := { s with sRecordLast := limited.2 }
      if limited.1 then
        if s.world.heartBeat = false then
          if s.count + 1 ≥ config.checkHeartPeriod then
            { timed with count := 0 }.tcpSocketClose
          else ({ timed with count := s.count + 1 }, [])
        else
          ({ timed with
            count := 0
            world := { s.world with heartBeat := false } }, [])
      else (timed, [])
  else (s, [])

/-- The one-second check is made. -/
def Due (config : HeartConfig) (s : HeartBeat) : Prop :=
  config.useHeart = true ∧ s.status = .on ∧
    (limitRecordTime s.now s.sRecordLast 1).1 = true

instance (config : HeartConfig) (s : HeartBeat) : Decidable (s.Due config) :=
  inferInstanceAs (Decidable (_ ∧ _))

end HeartBeat

def heart (config : HeartConfig) (target : Target) :
    Mealy HeartBeat HeartEvent HeartOutput where
  step s
    | .connected =>
        ({ s with world := doStatReset s.world, status := .on }, [])
    | .peerClosed => (s, [])
    | .frame r => ({ s with world := ((device target).step s.world r).1 }, [])
    | .pass secs => ({ s with now := s.now + secs }, [])
    | .checkHeartBeat => s.checkHeartBeat config
    | .others changed =>
        ({ s with
          world := { changed with heartBeat := s.world.heartBeat } }, [])

/-! ## What a check can do -/

inductive Checked (config : HeartConfig) (s : HeartBeat) :
    HeartBeat × List HeartOutput → Prop where
  | undue (hdue : ¬ s.Due config) (sRecordLast : Nat) :
      Checked config s ({ s with sRecordLast := sRecordLast }, [])
  | alive (hdue : s.Due config) (halive : s.world.heartBeat = true) :
      Checked config s
        ({ s with
          sRecordLast := s.now
          count := 0
          world := { s.world with heartBeat := false } }, [])
  | miss (hdue : s.Due config) (hdeath : s.world.heartBeat = false)
      (hcount : s.count + 1 < config.checkHeartPeriod) :
      Checked config s
        ({ s with sRecordLast := s.now, count := s.count + 1 }, [])
  | timeout (hdue : s.Due config) (hdeath : s.world.heartBeat = false)
      (hcount : config.checkHeartPeriod ≤ s.count + 1) :
      Checked config s
        ({ s with sRecordLast := s.now, count := 0, status := .off },
          [.closed])

theorem limitRecordTime_snd {now last secs : Nat}
    (h : (limitRecordTime now last secs).1 = true) :
    (limitRecordTime now last secs).2 = now := by
  unfold limitRecordTime at *
  split_ifs at *
  rfl

theorem checkHeartBeat_checked (config : HeartConfig) (s : HeartBeat) :
    Checked config s (s.checkHeartBeat config) := by
  unfold HeartBeat.checkHeartBeat
  by_cases hdue : s.Due config
  · obtain ⟨huse, hon, htime⟩ := hdue
    have hon' : s.status ≠ .off := by
      rw [hon]
      decide
    simp only [huse, if_true, if_neg hon', htime, limitRecordTime_snd htime]
    split_ifs with hdeath hcount
    · have hclose : HeartBeat.tcpSocketClose
          { s with sRecordLast := s.now, count := 0 } =
          ({ s with sRecordLast := s.now, count := 0, status := .off },
            [.closed]) := if_pos hon
      rw [hclose]
      exact .timeout ⟨huse, hon, htime⟩ hdeath hcount
    · exact .miss ⟨huse, hon, htime⟩ hdeath (UInt32.not_le.mp hcount)
    · exact .alive ⟨huse, hon, htime⟩ (by simpa using hdeath)
  · by_cases huse : config.useHeart
    · rw [if_pos huse]
      by_cases hoff : s.status = .off
      · rw [if_pos hoff]
        exact .undue hdue s.now
      · have hon : s.status = .on := by
          cases hstatus : s.status with
          | off => exact absurd hstatus hoff
          | on => rfl
        have htime : ¬ (limitRecordTime s.now s.sRecordLast 1).1 = true :=
          fun htime => hdue ⟨huse, hon, htime⟩
        simp only [if_neg hoff, if_neg htime]
        exact .undue hdue _
    · simp only [huse]
      exact .undue hdue s.sRecordLast

/-! ## The history of a connection -/

structure Session where
  /-- One-second checks since the connection was established. -/
  checks : Nat
  /-- One-second checks since the last `SPEED_INFO` frame. -/
  quiet : Nat
  /-- Misses counted before the connection was established, unless the count
  has been reset since. -/
  carried : Nat

def SpeedInfo (target : Target) (r : Received) : Prop :=
  isForDevice target r.msg ∧ headerCmd r.msg = sampleCmdSpeedInfo

instance (target : Target) (r : Received) : Decidable (SpeedInfo target r) :=
  inferInstanceAs (Decidable (_ ∧ _))

def Session.next (config : HeartConfig) (target : Target) (s : HeartBeat)
    (session : Session) : HeartEvent → Session
  | .connected => { session with checks := 0, carried := s.count.toNat }
  | .frame r =>
      if SpeedInfo target r then { session with quiet := 0 } else session
  | .checkHeartBeat =>
      if s.Due config then
        { checks := session.checks + 1
          quiet := session.quiet + 1
          carried :=
            if (s.checkHeartBeat config).1.count = 0 then 0
            else session.carried }
      else session
  | _ => session

/-- The program with the history beside it. -/
def watched (config : HeartConfig) (target : Target) :
    Mealy (HeartBeat × Session) HeartEvent HeartOutput where
  step s e :=
    ((((heart config target).step s.1 e).1, s.2.next config target s.1 e),
      ((heart config target).step s.1 e).2)

theorem watched_follows (config : HeartConfig) (target : Target) :
    Mealy.Simulation (watched config target) (heart config target)
      fun s t => s.1 = t where
  step := by
    rintro s t e rfl
    exact ⟨rfl, rfl⟩

def startedWatch (target : Target) (access : ParaFileAccess)
    (files : ParaFiles) (now : Nat) : HeartBeat × Session :=
  (⟨startedWorld target access files, .off, now, 0, 0⟩, ⟨0, 0, 0⟩)

/-- A check that closes the connection has been preceded by enough silent checks
on that connection. -/
def PerConnection (config : HeartConfig) (target : Target)
    (s : HeartBeat × Session) (e : HeartEvent) : Prop :=
  let next := (watched config target).step s e
  .closed ∈ next.2 → config.checkHeartPeriod.toNat ≤ next.1.2.checks ∧
    config.checkHeartPeriod.toNat ≤ next.1.2.quiet

/-- A check that closes the connection finds no miss in the count that comes
from an earlier one. -/
def NothingCarried (config : HeartConfig) (target : Target)
    (s : HeartBeat × Session) (e : HeartEvent) : Prop :=
  .closed ∈ ((watched config target).step s e).2 → s.2.carried = 0

structure Counted (config : HeartConfig) (s : HeartBeat × Session) :
    Prop where
  misses : s.2.carried = 0 ∧ s.1.count.toNat ≤ s.2.checks ∨
    s.2.carried ≠ 0 ∧ s.1.count.toNat = s.2.checks + s.2.carried
  quiet : s.1.world.heartBeat = false → s.1.count.toNat ≤ s.2.quiet
  below : s.1.count = 0 ∨ s.1.count < config.checkHeartPeriod

theorem device_heartBeat (target : Target) (w : World) (r : Received) :
    ((device target).step w r).1.heartBeat =
      (w.heartBeat || decide (SpeedInfo target r)) := by
  simp only [device, Handled.result_fst, sampleOnCmd]
  split_ifs with hfor
  · by_cases hspeed : headerCmd r.msg = sampleCmdSpeedInfo
    · have hinfo : SpeedInfo target r := ⟨hfor, hspeed⟩
      rw [handleCmd, hspeed, decide_eq_true hinfo, Bool.or_true]
      rfl
    · have hinfo : ¬ SpeedInfo target r := fun h => hspeed h.2
      have hkeep := (handleCmd_coreStep target r.env
        { w with send := recordRecvNum (headerSerialNum r.msg) w.send } r.msg
        r.len).keepsHeartBeat
          (fun hc => hspeed (SampleCmd.code_of_ofCode hc))
      rw [Handled.result_fst] at hkeep
      rw [hkeep, decide_eq_false hinfo, Bool.or_false]
  · have hinfo : ¬ SpeedInfo target r := fun h => hfor h.1
    rw [decide_eq_false hinfo, Bool.or_false]

/-- The record that a speed frame of the right length brings. -/
def receivedRealTime (target : Target) (r : Received) : Option RealTimeData :=
  if SpeedInfo target r ∧ r.len = headerSize + 1 + 26 then
    some (Packed.ofList 26 (r.msg.read payloadOffset 26))
  else none

theorem device_realTime (target : Target) (w : World) (r : Received) :
    ((device target).step w r).1.realTime =
      (receivedRealTime target r).getD w.realTime := by
  simp only [device, Handled.result_fst, sampleOnCmd]
  split_ifs with hfor
  · by_cases hspeed : headerCmd r.msg = sampleCmdSpeedInfo
    · have hinfo : SpeedInfo target r := ⟨hfor, hspeed⟩
      rw [handleCmd, hspeed]
      change (((writeRealTimeData r.msg r.len).andThen
        (.modify fun w' => { w' with heartBeat := true })) _).1.realTime = _
      unfold writeRealTimeData receivedRealTime
      by_cases hlen : r.len = headerSize + 1 + 26
      · rw [if_pos hlen, if_pos ⟨hinfo, hlen⟩]
        rfl
      · rw [if_neg hlen, if_neg fun h => hlen h.2]
        rfl
    · have hinfo : ¬ (SpeedInfo target r ∧ r.len = headerSize + 1 + 26) :=
        fun h => hspeed h.1.2
      have hkeep := (handleCmd_coreStep target r.env
        { w with send := recordRecvNum (headerSerialNum r.msg) w.send } r.msg
        r.len).keepsRealTime
          (fun hc => hspeed (SampleCmd.code_of_ofCode hc))
      rw [Handled.result_fst] at hkeep
      rw [hkeep, receivedRealTime, if_neg hinfo, Option.getD_none]
  · have hinfo : ¬ (SpeedInfo target r ∧ r.len = headerSize + 1 + 26) :=
      fun h => hfor h.1.1
    rw [receivedRealTime, if_neg hinfo, Option.getD_none]

theorem startedWorld_realTime (target : Target) (access : ParaFileAccess)
    (files : ParaFiles) :
    (startedWorld target access files).realTime = World.zero.realTime := by
  obtain ⟨build, interface⟩ := target
  cases build <;> rfl

theorem Counted.toNat_succ {config : HeartConfig} {s : HeartBeat × Session}
    (h : Counted config s) : (s.1.count + 1).toNat = s.1.count.toNat + 1 := by
  have hlt : s.1.count.toNat + 1 < 2 ^ 32 := by
    rcases h.below with hzero | hbelow
    · rw [hzero]
      decide
    · have hcount := UInt32.lt_iff_toNat_lt.mp hbelow
      have hperiod := config.checkHeartPeriod.toNat_lt
      omega
  rw [UInt32.toNat_add]
  exact Nat.mod_eq_of_lt hlt

theorem Counted.check {config : HeartConfig} {target : Target}
    {s : HeartBeat × Session} (h : Counted config s) :
    Counted config ((watched config target).step s .checkHeartBeat).1 := by
  obtain ⟨beat, session⟩ := s
  have hsucc : (beat.count + 1).toNat = beat.count.toNat + 1 := h.toNat_succ
  obtain ⟨hmisses, hquiet, hbelow⟩ := h
  simp only at hmisses hquiet
  have hchecked := checkHeartBeat_checked config beat
  simp only [watched, heart, Session.next]
  generalize beat.checkHeartBeat config = out at hchecked ⊢
  cases hchecked with
  | undue hdue =>
      rw [if_neg hdue]
      exact ⟨hmisses, hquiet, hbelow⟩
  | alive hdue =>
      rw [if_pos hdue]
      exact ⟨.inl ⟨rfl, Nat.zero_le _⟩, fun _ => Nat.zero_le _, .inl rfl⟩
  | miss hdue hdeath hcount =>
      have hcounted : beat.count + 1 ≠ 0 := by
        intro hzero
        rw [hzero] at hsucc
        cases hsucc
      have hbefore := hquiet hdeath
      rw [if_pos hdue, if_neg hcounted]
      refine ⟨?_, fun _ => ?_, .inr hcount⟩
      · simp only [hsucc]
        omega
      · simp only [hsucc]
        omega
  | timeout hdue =>
      rw [if_pos hdue]
      exact ⟨.inl ⟨rfl, Nat.zero_le _⟩, fun _ => Nat.zero_le _, .inl rfl⟩

theorem Counted.step {config : HeartConfig} {target : Target}
    {s : HeartBeat × Session} (h : Counted config s) (e : HeartEvent) :
    Counted config ((watched config target).step s e).1 := by
  cases e with
  | connected =>
      refine ⟨?_, h.quiet, h.below⟩
      simp only [watched, heart, Session.next]
      omega
  | frame r =>
      have hbeat := device_heartBeat target s.1.world r
      simp only [watched, heart, Session.next]
      split_ifs with hspeed
      · refine ⟨h.misses, fun hdeath => ?_, h.below⟩
        rw [hbeat, decide_eq_true hspeed, Bool.or_true] at hdeath
        cases hdeath
      · refine ⟨h.misses, fun hdeath => h.quiet ?_, h.below⟩
        rwa [hbeat, decide_eq_false hspeed, Bool.or_false] at hdeath
  | checkHeartBeat => exact h.check
  | peerClosed => exact h
  | pass secs => exact ⟨h.misses, h.quiet, h.below⟩
  | others changed => exact ⟨h.misses, h.quiet, h.below⟩

theorem Counted.perConnection_iff {config : HeartConfig} {target : Target}
    {s : HeartBeat × Session} (h : Counted config s) (e : HeartEvent) :
    PerConnection config target s e ↔ NothingCarried config target s e := by
  cases e with
  | checkHeartBeat =>
      obtain ⟨beat, session⟩ := s
      have hsucc : (beat.count + 1).toNat = beat.count.toNat + 1 :=
        h.toNat_succ
      obtain ⟨hmisses, hquiet, hbelow⟩ := h
      simp only at hmisses hquiet hbelow
      have hchecked := checkHeartBeat_checked config beat
      simp only [PerConnection, NothingCarried, watched, heart, Session.next]
      generalize beat.checkHeartBeat config = out at hchecked ⊢
      cases hchecked with
      | undue hdue => exact iff_of_true nofun nofun
      | alive hdue => exact iff_of_true nofun nofun
      | miss hdue => exact iff_of_true nofun nofun
      | timeout hdue hdeath hcount =>
          have hcount' := UInt32.le_iff_toNat_le.mp hcount
          have hbefore := hquiet hdeath
          have hbelow' : beat.count.toNat = 0 ∨
              beat.count.toNat < config.checkHeartPeriod.toNat :=
            hbelow.imp (congrArg UInt32.toNat) UInt32.lt_iff_toNat_lt.mp
          rw [hsucc] at hcount'
          simp only [if_pos hdue, List.mem_singleton, forall_const]
          omega
  | _ => exact iff_of_true nofun nofun

/-- The heart beat is timed per connection exactly in the runs in which no check
closes a connection on misses carried over from an earlier one. -/
theorem heartBeat_perConnection_iff (config : HeartConfig) (target : Target)
    (access : ParaFileAccess) (files : ParaFiles) (now : Nat)
    (events : List HeartEvent) :
    (watched config target).EachStep (PerConnection config target)
        (startedWatch target access files now) events ↔
      (watched config target).EachStep (NothingCarried config target)
        (startedWatch target access files now) events := by
  have hstart : Counted config (startedWatch target access files now) :=
    ⟨.inl ⟨rfl, Nat.le_refl _⟩, fun _ => Nat.le_refl _, .inl rfl⟩
  exact Mealy.eachStep_congr (fun _ e h => h.step e)
    (fun _ e h => h.perConnection_iff e) hstart events

instance (config : HeartConfig) (target : Target) (s : HeartBeat × Session)
    (e : HeartEvent) : Decidable (PerConnection config target s e) :=
  inferInstanceAs (Decidable (_ → _ ∧ _))

/-- Two misses, then the host closes the connection; the next connection is
closed at its first check. -/
theorem heartBeat_carried :
    ¬ ∀ (config : HeartConfig) (target : Target) (access : ParaFileAccess)
      (files : ParaFiles) (now : Nat) (events : List HeartEvent),
      (watched config target).EachStep (PerConnection config target)
        (startedWatch target access files now) events := by
  intro h
  have hclosed := h ⟨true, 3⟩ adasTcp ⟨true, some 50⟩ ⟨none, none⟩ 0
    [.connected, .pass 1, .checkHeartBeat, .pass 1, .checkHeartBeat,
      .peerClosed, .connected, .pass 1, .checkHeartBeat]
  exact absurd hclosed (by decide +kernel)

end SanbaoProt
