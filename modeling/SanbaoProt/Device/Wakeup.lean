import SanbaoProt.Device.Threads

/-!
# Wake-ups of the sender thread

`message_queue_send` posts the semaphore once for each message; the sender takes
a wake-up first and looks at the connection status afterwards.  With the link
down it keeps the message in the queue but the wake-up is gone, so what matters
is what is left of the queue when the status is switched on.
-/

namespace SanbaoProt

open Library

/-- `process_socket_status`. -/
inductive ConnectStatus where
  | off
  | on
  deriving DecidableEq, Repr

/-- Where the sender thread is in its loop. -/
inductive LoopPhase where
  | waiting
  /-- `sem_wait` has returned, the status has not been read. -/
  | woken
  /-- The status has been found on, nothing has been popped. -/
  | connected
  | sending
  deriving DecidableEq, Repr

/-- The wake-up that the sender still holds. -/
def LoopPhase.wakeUps : LoopPhase → Nat
  | .woken => 1
  | .connected => 1
  | _ => 0

structure SendLoop where
  world : World
  status : ConnectStatus
  phase : LoopPhase

inductive SendEvent where
  | messageQueueSend (pHeader : Mem UInt8) (cmd : UInt8)
      (payload : List UInt8)
  | semWait
  | getStatus
  | pop
  | done
  | doStatReset
  | setStatus (status : ConnectStatus)
  /-- Whatever else the threads do. -/
  | others (changed : World)

def sendLoop (target : Target) : Mealy SendLoop SendEvent SendNode where
  step s
    | .messageQueueSend pHeader cmd payload =>
        ({ s with
          world :=
            (messageQueueSend target s.world pHeader cmd payload).world }, [])
    | .semWait =>
        if s.phase = .waiting ∧ 0 < s.world.send.sem then
          ({ s with
            world :=
              { s.world with
                send := { s.world.send with sem := s.world.send.sem - 1 } }
            phase := .woken }, [])
        else (s, [])
    | .getStatus =>
        if s.phase = .woken then
          match s.status with
          | .off => ({ s with phase := .waiting }, [])
          | .on => ({ s with phase := .connected }, [])
        else (s, [])
    | .pop =>
        if s.phase = .connected then
          match ptrQueuePop s.world.send.queue (some ptrQueueBufSize) with
          | none => ({ s with phase := .waiting }, [])
          | some (node, rest) =>
              ({ s with
                world :=
                  { s.world with send := { s.world.send with queue := rest } }
                phase := .sending }, [node])
        else (s, [])
    | .done =>
        if s.phase = .sending then ({ s with phase := .waiting }, [])
        else (s, [])
    | .doStatReset => ({ s with world := doStatReset s.world }, [])
    | .setStatus status => ({ s with status := status }, [])
    | .others changed =>
        ({ s with
          world :=
            { changed with
              send :=
                { changed.send with
                  queue := s.world.send.queue
                  sem := s.world.send.sem } } }, [])

def startedSendLoop (target : Target) (access : ParaFileAccess)
    (files : ParaFiles) : SendLoop :=
  ⟨startedWorld target access files, .off, .waiting⟩

/-- The sender in `sem_wait` on a link that is up has a wake-up for each queued
message. -/
def SendLoop.Wakes (s : SendLoop) : Prop :=
  s.status = .on → s.phase = .waiting →
    s.world.send.queue.length ≤ s.world.send.sem

instance (s : SendLoop) : Decidable s.Wakes :=
  inferInstanceAs (Decidable (_ → _ → _))

/-- Each queued message has a wake-up, be it one that the sender has taken and
not used yet. -/
def SendLoop.Covered (s : SendLoop) : Prop :=
  s.world.send.queue.length ≤ s.world.send.sem + s.phase.wakeUps

/-- The status is not switched on while a message is queued whose wake-up the
sender has spent on a link that was down. -/
def KeepsWakeUps (s : SendLoop) (e : SendEvent) : Prop :=
  e = .setStatus .on → s.Covered

theorem messageQueueSend_covered {s : SendLoop} (h : s.Covered)
    (target : Target) (pHeader : Mem UInt8) (cmd : UInt8)
    (payload : List UInt8) :
    ((sendLoop target).step s (.messageQueueSend pHeader cmd payload)).1.Covered
    := by
  have hsent :=
    (messageQueueSend_spec target s.world pHeader cmd payload).1
  have hpush := length_ptrQueuePush_eq s.world.send.queue
    (sentNode target s.world cmd payload)
  unfold SendLoop.Covered at *
  simp only [sendLoop, hsent, sentWorld, hpush]
  split_ifs <;> omega

theorem covered_step {target : Target} {s : SendLoop} {e : SendEvent}
    (h : s.status = .on → s.Covered) (hkeeps : KeepsWakeUps s e) :
    ((sendLoop target).step s e).1.status = .on →
      ((sendLoop target).step s e).1.Covered := by
  intro hon
  cases e with
  | messageQueueSend pHeader cmd payload =>
      exact messageQueueSend_covered (h hon) target pHeader cmd payload
  | semWait =>
      simp only [sendLoop] at hon ⊢
      split_ifs at hon ⊢ with hwait
      · have hcovered := h hon
        simp only [SendLoop.Covered, LoopPhase.wakeUps, hwait.1] at hcovered ⊢
        omega
      · exact h hon
  | getStatus =>
      simp only [sendLoop] at hon ⊢
      split_ifs at hon ⊢ with hwoken
      · cases hstatus : s.status with
        | off =>
            rw [hstatus] at hon
            cases hon
        | on =>
            have hcovered := h hstatus
            rw [SendLoop.Covered, hwoken] at hcovered
            exact hcovered
      · exact h hon
  | pop =>
      simp only [sendLoop] at hon ⊢
      split_ifs at hon ⊢ with hphase
      · cases hqueue : s.world.send.queue with
        | nil =>
            rw [hqueue] at hon
            change s.world.send.queue.length ≤ _
            rw [hqueue]
            exact Nat.zero_le _
        | cons node rest =>
            rw [hqueue, ptrQueuePop_cons] at hon
            have hcovered := h hon
            rw [SendLoop.Covered, hqueue, hphase] at hcovered
            rw [ptrQueuePop_cons]
            exact Nat.le_of_succ_le_succ hcovered
      · exact h hon
  | done =>
      simp only [sendLoop] at hon ⊢
      split_ifs at hon ⊢ with hphase
      · have hcovered := h hon
        rw [SendLoop.Covered, hphase] at hcovered
        exact hcovered
      · exact h hon
  | doStatReset => exact Nat.zero_le _
  | setStatus status =>
      have hset : status = .on := hon
      exact hkeeps (congrArg SendEvent.setStatus hset)
  | others changed => exact h hon

/-- When nothing is switched on over a spent wake-up, the sender never waits
with a message that nothing will wake it for. -/
theorem sendLoop_wakes (target : Target) (access : ParaFileAccess)
    (files : ParaFiles) (events : List SendEvent)
    (h : (sendLoop target).EachStep KeepsWakeUps
      (startedSendLoop target access files) events) :
    (sendLoop target).Always SendLoop.Wakes
      (startedSendLoop target access files) events := by
  have hstart : (startedSendLoop target access files).status = .on →
      (startedSendLoop target access files).Covered := by
    intro hon
    cases hon
  have hcovered := Mealy.always_of_eachStep
    (I := fun s : SendLoop => s.status = .on → s.Covered)
    (fun _ _ => covered_step) hstart h
  intro before after heq hon hwaiting
  have hstate := hcovered before after heq hon
  rwa [SendLoop.Covered, hwaiting] at hstate

theorem pop_final (target : Target) {w : World}
    (h : 0 < w.send.queue.length) :
    ∃ w', (sendLoop target).final ⟨w, .on, .connected⟩ [.pop, .done] =
        ⟨w', .on, .waiting⟩ ∧ w'.send.sem = w.send.sem ∧
      w'.send.queue.length + 1 = w.send.queue.length := by
  cases hqueue : w.send.queue with
  | nil =>
      rw [hqueue] at h
      cases h
  | cons node rest =>
      refine ⟨{ w with send := { w.send with queue := rest } }, ?_, rfl, rfl⟩
      simp [sendLoop, hqueue, ptrQueuePop_cons]

/-- Any other switching on leaves the sender short of a wake-up once it is back
in `sem_wait`. -/
theorem sendLoop_lost (target : Target) (s : SendLoop)
    (h : ¬ KeepsWakeUps s (.setStatus .on)) :
    ∃ later, (∀ e ∈ later, e = .getStatus ∨ e = .pop ∨ e = .done) ∧
      ¬ ((sendLoop target).final s (.setStatus .on :: later)).Wakes := by
  have hshort : ¬ s.Covered := fun hcovered => h fun _ => hcovered
  obtain ⟨w, status, phase⟩ := s
  have hwakes : ∀ w' : World, w'.send.sem < w'.send.queue.length →
      ¬ SendLoop.Wakes ⟨w', .on, .waiting⟩ := fun w' hlt hwakes =>
    absurd (hwakes rfl rfl) (Nat.not_le_of_lt hlt)
  cases phase with
  | waiting =>
      exact ⟨[], by simp, hwakes w (Nat.lt_of_not_le hshort)⟩
  | sending =>
      exact ⟨[.done], by simp, hwakes w (Nat.lt_of_not_le hshort)⟩
  | woken =>
      have hlt : w.send.sem + 1 < w.send.queue.length :=
        Nat.lt_of_not_le hshort
      obtain ⟨w', hfinal, hsem, hqueue⟩ :=
        pop_final target (Nat.zero_lt_of_lt hlt)
      refine ⟨[.getStatus, .pop, .done], by simp, ?_⟩
      change ¬ ((sendLoop target).final ⟨w, .on, .connected⟩
        [.pop, .done]).Wakes
      rw [hfinal]
      exact hwakes w' (by omega)
  | connected =>
      have hlt : w.send.sem + 1 < w.send.queue.length :=
        Nat.lt_of_not_le hshort
      obtain ⟨w', hfinal, hsem, hqueue⟩ :=
        pop_final target (Nat.zero_lt_of_lt hlt)
      refine ⟨[.pop, .done], by simp, ?_⟩
      change ¬ ((sendLoop target).final ⟨w, .on, .connected⟩
        [.pop, .done]).Wakes
      rw [hfinal]
      exact hwakes w' (by omega)

def startedAdas : SendLoop :=
  startedSendLoop adasTcp ⟨true, some 50⟩ ⟨none, none⟩

def reportSent : SendEvent :=
  .messageQueueSend (fun _ => 0) sampleCmdWarningReport [1]

/-- A message sent on a link that is up. -/
theorem sendLoop_wakes_report :
    (sendLoop adasTcp).Always SendLoop.Wakes startedAdas
      [.doStatReset, .setStatus .on, reportSent, .semWait, .getStatus, .pop,
        .done] := by
  apply sendLoop_wakes
  simp only [Mealy.eachStep_cons, KeepsWakeUps, reportSent, reduceCtorEq,
    false_implies, true_and]
  exact ⟨fun _ => Nat.zero_le _, Mealy.eachStep_nil _⟩

/-- A message that comes between the clearing of the queue and the switching on,
and meets a sender that finds the link still down. -/
theorem sendLoop_not_wakes :
    ¬ ∀ (target : Target) (access : ParaFileAccess) (files : ParaFiles)
      (events : List SendEvent), (sendLoop target).Always SendLoop.Wakes
        (startedSendLoop target access files) events := by
  intro h
  let events : List SendEvent :=
    [.doStatReset, reportSent, .semWait, .getStatus, .setStatus .on]
  have hlast := h adasTcp ⟨true, some 50⟩ ⟨none, none⟩ events events []
    (List.append_nil _).symm
  exact absurd hlast (by decide +kernel)

end SanbaoProt
