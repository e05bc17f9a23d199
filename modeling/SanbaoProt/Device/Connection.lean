import SanbaoProt.Device.Wakeup

/-!
# The connection status

`pthread_process_recv` replaces the socket of `g_handle` and connects it,
`tcp_rcv` and `handle_distroy` close it, and so does `tcp_socket_close` of the
thread that checks the heart beat, which alone takes the status back.  The
statements of the three threads interleave; what the system calls answer comes
with each event.
-/

namespace SanbaoProt

open Library

/-- The socket behind `g_handle.fd`. -/
inductive Socket where
  | absent
  | created
  | connected
  | closed
  deriving DecidableEq, Repr

/-- What `pthread_process_recv` does next. -/
inductive RecvPhase where
  | init
  | onConnect
  /-- `try_connect` has succeeded; the status is set next. -/
  | setStatus
  | rcv
  | distroy
  | exited
  deriving DecidableEq, Repr

/-- What `tcp_socket_close` does next. -/
inductive ClosePhase where
  | idle
  | close
  | setStatus
  deriving DecidableEq, Repr

inductive InitResult where
  | ok
  | noSocket
  /-- The socket is in the handle, but an option cannot be set. -/
  | noOption
  deriving DecidableEq, Repr

inductive ConnectResult where
  | ok
  | badFd
  | failed
  deriving DecidableEq, Repr

inductive RcvResult where
  /-- Data, a timeout or an interrupt. -/
  | ok
  | selectError
  | readError
  | peerClosed
  deriving DecidableEq, Repr

structure Link where
  socket : Socket
  status : ConnectStatus
  recv : RecvPhase
  close : ClosePhase
  /-- `send_package` has found the status on and not returned yet. -/
  sending : Bool
  deriving DecidableEq, Repr

inductive LinkEvent where
  | socketInit (result : InitResult)
  | tryConnect (result : ConnectResult)
  | connectOn
  | tcpRcv (result : RcvResult)
  | forceExit
  | handleDistroy
  /-- `tcp_socket_close` is called and reads the status. -/
  | heartBeatTimeout
  | tcpSocketClose
  | connectOff
  /-- `send_package` reads the status. -/
  | sendPackage
  | dequeue
  | transmit
  | sent
  deriving DecidableEq, Repr

inductive LinkOutput where
  | dequeued
  | transmitted
  deriving DecidableEq, Repr

/-- `socket_close`. -/
def socketClose : Socket → Socket
  | .absent => .absent
  | _ => .closed

def Link.started : Link := ⟨.absent, .off, .init, .idle, false⟩

def link : Mealy Link LinkEvent LinkOutput where
  step s
    | .socketInit result =>
        if s.recv = .init then
          match result with
          | .ok => ({ s with socket := .created, recv := .onConnect }, [])
          | .noSocket => ({ s with recv := .distroy }, [])
          | .noOption => ({ s with socket := .created, recv := .distroy }, [])
        else (s, [])
    | .tryConnect result =>
        if s.recv = .onConnect then
          match result with
          | .ok =>
              if s.socket = .created then
                ({ s with socket := .connected, recv := .setStatus }, [])
              else (s, [])
          | .badFd => ({ s with recv := .init }, [])
          | .failed => (s, [])
        else (s, [])
    | .connectOn =>
        if s.recv = .setStatus then ({ s with status := .on, recv := .rcv }, [])
        else (s, [])
    | .tcpRcv result =>
        if s.recv = .rcv then
          match result with
          | .ok => (s, [])
          | .selectError => ({ s with recv := .init }, [])
          | _ =>
              ({ s with socket := socketClose s.socket, recv := .init }, [])
        else (s, [])
    | .forceExit =>
        if s.recv = .onConnect ∨ s.recv = .rcv then
          ({ s with recv := .distroy }, [])
        else (s, [])
    | .handleDistroy =>
        if s.recv = .distroy then
          ({ s with socket := socketClose s.socket, recv := .exited }, [])
        else (s, [])
    | .heartBeatTimeout =>
        if s.close = .idle ∧ s.status = .on then ({ s with close := .close }, [])
        else (s, [])
    | .tcpSocketClose =>
        if s.close = .close then
          ({ s with socket := socketClose s.socket, close := .setStatus }, [])
        else (s, [])
    | .connectOff =>
        if s.close = .setStatus then
          ({ s with status := .off, close := .idle }, [])
        else (s, [])
    | .sendPackage =>
        if s.sending = false ∧ s.status = .on then
          ({ s with sending := true }, [])
        else (s, [])
    | .dequeue => (s, if s.sending then [.dequeued] else [])
    | .transmit => (s, if s.sending then [.transmitted] else [])
    | .sent => ({ s with sending := false }, [])

namespace Link

def Truthful (s : Link) : Prop := s.status = .on → s.socket = .connected

/-- Nothing is dequeued or transmitted without a connection. -/
def SendsConnected (s : Link) (e : LinkEvent) : Prop :=
  (link.step s e).2 ≠ [] → s.socket = .connected

/-- The statements that close or replace the socket of the handle. -/
def EndsSocket (s : Link) : LinkEvent → Prop
  | .socketInit result => s.recv = .init ∧ result ≠ .noSocket
  | .tcpRcv result =>
      s.recv = .rcv ∧ (result = .readError ∨ result = .peerClosed)
  | .handleDistroy => s.recv = .distroy
  | .tcpSocketClose => s.close = .close
  | _ => False

def EndsOff (s : Link) (e : LinkEvent) : Prop :=
  s.EndsSocket e → s.socket = .connected → s.status = .off

/-- What holds as long as no connection ends while the status is on. -/
structure Steady (s : Link) : Prop where
  truthful : s.Truthful
  connected : s.recv = .setStatus → s.socket = .connected
  closing : s.close = .close → s.status = .on
  closed : s.close ≠ .setStatus
  sending : s.sending = true → s.status = .on

theorem Steady.off_of_ends {s : Link} {e : LinkEvent} (h : s.Steady)
    (hends : s.EndsOff e) (hend : s.EndsSocket e) : s.status = .off := by
  cases hstatus : s.status with
  | off => rfl
  | on =>
      have hoff := hends hend (h.truthful hstatus)
      rw [hstatus] at hoff
      cases hoff

/-- With the status off neither of the other threads is under way. -/
theorem Steady.replace {s : Link} (h : s.Steady) (hoff : s.status = .off)
    (socket : Socket) {recv : RecvPhase} (hrecv : recv ≠ .setStatus) :
    Steady { s with socket := socket, recv := recv } where
  truthful hon := nomatch hoff.symm.trans hon
  connected hset := absurd hset hrecv
  closing := h.closing
  closed := h.closed
  sending := h.sending

theorem Steady.proceed {s : Link} (h : s.Steady) {recv : RecvPhase}
    (hrecv : recv ≠ .setStatus) : Steady { s with recv := recv } :=
  ⟨h.truthful, fun hset => absurd hset hrecv, h.closing, h.closed, h.sending⟩

theorem Steady.step {s : Link} {e : LinkEvent} (h : s.Steady)
    (hends : s.EndsOff e) : (link.step s e).1.Steady := by
  cases e with
  | socketInit result =>
      simp only [link]
      split_ifs with hrecv
      · cases result with
        | ok =>
            have hoff := h.off_of_ends hends ⟨hrecv, by decide⟩
            exact h.replace hoff .created (by decide)
        | noSocket => exact h.proceed (by decide)
        | noOption =>
            have hoff := h.off_of_ends hends ⟨hrecv, by decide⟩
            exact h.replace hoff .created (by decide)
      · exact h
  | tryConnect result =>
      cases result with
      | ok =>
          simp only [link]
          split_ifs
          · exact ⟨fun _ => rfl, fun _ => rfl, h.closing, h.closed, h.sending⟩
          · exact h
          · exact h
      | badFd =>
          simp only [link]
          split_ifs
          · exact h.proceed (by decide)
          · exact h
      | failed =>
          simp only [link, ite_self]
          exact h
  | connectOn =>
      simp only [link]
      split_ifs with hrecv
      · exact ⟨fun _ => h.connected hrecv, nofun, fun _ => rfl, h.closed,
          fun _ => rfl⟩
      · exact h
  | tcpRcv result =>
      simp only [link]
      split_ifs with hrecv
      · cases result with
        | ok => exact h
        | selectError => exact h.proceed (by decide)
        | readError =>
            have hoff := h.off_of_ends hends ⟨hrecv, .inl rfl⟩
            exact h.replace hoff _ (by decide)
        | peerClosed =>
            have hoff := h.off_of_ends hends ⟨hrecv, .inr rfl⟩
            exact h.replace hoff _ (by decide)
      · exact h
  | forceExit =>
      simp only [link]
      split_ifs
      · exact h.proceed (by decide)
      · exact h
  | handleDistroy =>
      simp only [link]
      split_ifs with hrecv
      · exact h.replace (h.off_of_ends hends hrecv) _ (by decide)
      · exact h
  | heartBeatTimeout =>
      simp only [link]
      split_ifs with htimeout
      · exact ⟨h.truthful, h.connected, fun _ => htimeout.2, nofun,
          h.sending⟩
      · exact h
  | tcpSocketClose =>
      simp only [link]
      split_ifs with hclose
      · -- the status was on when it was read, and nobody else takes it back
        have hoff := h.off_of_ends hends hclose
        rw [h.closing hclose] at hoff
        cases hoff
      · exact h
  | connectOff =>
      simp only [link]
      split_ifs with hclose
      · exact absurd hclose h.closed
      · exact h
  | sendPackage =>
      simp only [link]
      split_ifs with hsend
      · exact ⟨h.truthful, h.connected, h.closing, h.closed,
          fun _ => hsend.2⟩
      · exact h
  | dequeue => exact h
  | transmit => exact h
  | sent =>
      exact ⟨h.truthful, h.connected, h.closing, h.closed, nofun⟩

theorem link_outputs {s : Link} {e : LinkEvent} (h : (link.step s e).2 ≠ []) :
    s.sending = true := by
  by_contra hidle
  apply h
  cases e with
  | dequeue => exact if_neg hidle
  | transmit => exact if_neg hidle
  | _ =>
      simp only [link]
      repeat' split
      all_goals rfl

theorem link_ends {s : Link} {e : LinkEvent} (h : s.EndsSocket e) :
    (link.step s e).1.status = s.status ∧
      (link.step s e).1.socket ≠ .connected := by
  have hclose : socketClose s.socket ≠ .connected := by
    cases s.socket <;> decide
  cases e with
  | socketInit result =>
      obtain ⟨hrecv, hresult⟩ := h
      simp only [link, if_pos hrecv]
      cases result with
      | ok => exact ⟨rfl, nofun⟩
      | noSocket => exact absurd rfl hresult
      | noOption => exact ⟨rfl, nofun⟩
  | tcpRcv result =>
      obtain ⟨hrecv, hresult⟩ := h
      simp only [link, if_pos hrecv]
      rcases hresult with rfl | rfl
      · exact ⟨rfl, hclose⟩
      · exact ⟨rfl, hclose⟩
  | handleDistroy =>
      simp only [link, if_pos (show s.recv = .distroy from h)]
      exact ⟨trivial, hclose⟩
  | tcpSocketClose =>
      simp only [link, if_pos (show s.close = .close from h)]
      exact ⟨trivial, hclose⟩
  | _ => cases h

end Link

/-- The status is truthful, and nothing is sent without a connection, exactly in
the runs in which no connection ends while the status is on. -/
theorem link_truthful_iff (events : List LinkEvent) :
    link.Always Link.Truthful .started events ∧
        link.EachStep Link.SendsConnected .started events ↔
      link.EachStep Link.EndsOff .started events := by
  constructor
  · rintro ⟨htruthful, -⟩ before e after heq hend -
    have hnext := htruthful (before ++ [e]) after (by simp [heq])
    rw [Mealy.final_append] at hnext
    obtain ⟨hstatus, hsocket⟩ := Link.link_ends hend
    cases hoff : (link.final .started before).status with
    | off => rfl
    | on => exact absurd (hnext (hstatus.trans hoff)) hsocket
  · intro h
    have hstart : Link.started.Steady :=
      ⟨nofun, nofun, nofun, nofun, nofun⟩
    have hsteady := Mealy.always_of_eachStep (fun _ _ => Link.Steady.step)
      hstart h
    refine ⟨fun before after heq => (hsteady before after heq).truthful, ?_⟩
    intro before e after heq houtput
    have hnow := hsteady before (e :: after) heq
    exact hnow.truthful (hnow.sending (Link.link_outputs houtput))

/-- The host closes the connection, and the next message is taken from the
queue for a closed socket. -/
theorem link_not_truthful :
    ¬ ∀ events, link.Always Link.Truthful .started events ∧
      link.EachStep Link.SendsConnected .started events := by
  intro h
  obtain ⟨-, hsends⟩ := h [.socketInit .ok, .tryConnect .ok, .connectOn,
    .tcpRcv .peerClosed, .sendPackage, .dequeue]
  have hclosed := hsends [.socketInit .ok, .tryConnect .ok, .connectOn,
    .tcpRcv .peerClosed, .sendPackage] .dequeue [] rfl
  exact absurd (hclosed (by decide)) (by decide)

end SanbaoProt
