import SanbaoProt.Device.Sender
import SanbaoProt.Device.TransferStep

/-!
# The threads together

The receive thread handles frames and resets the state for a new connection,
the alert threads report, and the sender thread transmits.  `threads` is the
machine of all of them, one event a step; an event that is not possible in a
state changes nothing.  Each step is one of the sender's (`threads_refine`), so
the invariant of the sender holds of every state of a run.
-/

namespace SanbaoProt

open Library

/-- `do_stat_reset`: the whole transfer record and the queue are cleared. -/
def doStatReset (w : World) : World :=
  { w with
    transfer := ⟨0, 0, 0, 0, false⟩
    send := { w.send with queue := [] } }

/-- The other threads leave the transfer, the flag and the queue alone. -/
def othersWorld (w changed : World) : World :=
  { changed with
    send := { w.send with sem := changed.send.sem }
    recvAck := w.recvAck
    transfer := w.transfer }

inductive ThreadEvent where
  | frame (r : Received)
  /-- A warning report of an alert thread. -/
  | alert (payload : List UInt8)
  /-- `auto_send_work_status`. -/
  | workStatus
  | reset
  | others (changed : World)
  | pop
  /-- `send_package` is woken without a connection. -/
  | offline
  | test
  | wake
  | timeout

def senderTurn (s : SenderState) : ThreadEvent → SenderState × List SenderEvent
  | .pop =>
      match s.phase with
      | .idle => if 0 < s.world.send.sem then popMessage s.world else (s, [])
      | _ => (s, [])
  | .offline =>
      match s.phase with
      | .idle =>
          if 0 < s.world.send.sem then
            (⟨{ s.world with
                send := { s.world.send with sem := s.world.send.sem - 1 } },
              .idle⟩, [])
          else (s, [])
      | _ => (s, [])
  | .test =>
      match s.phase with
      | .transmitted node i => testRecvAck s.world node i
      | _ => (s, [])
  | .wake =>
      match s.phase with
      | .waiting node i =>
          if s.world.recvAck = true then clearRecvAck s.world node i
          else (s, [])
      | _ => (s, [])
  | .timeout =>
      match s.phase with
      | .waiting node i => timeoutMessage s.world node i
      | _ => (s, [])
  | _ => (s, [])

def threads (target : Target) : Mealy SenderState ThreadEvent SenderEvent where
  step s e :=
    match e with
    | .frame r =>
        (⟨((device target).step s.world r).1, s.phase⟩,
          [.received r s.world.transfer.packetIndex])
    | .alert payload =>
        (⟨sentWorld target s.world sampleCmdWarningReport payload, s.phase⟩,
          [])
    | .workStatus =>
        (⟨sentWorld target s.world sampleCmdUploadStatus moduleStatus,
          s.phase⟩, [])
    | .reset => (⟨doStatReset s.world, s.phase⟩, [])
    | .others changed => (⟨othersWorld s.world changed, s.phase⟩, [])
    | e => senderTurn s e

def startedThreads (target : Target) (access : ParaFileAccess)
    (files : ParaFiles) : SenderState :=
  ⟨startedWorld target access files, .idle⟩

/-! ## The sender's view -/

/-- What a turn of the sender can be. -/
inductive SenderTurn :
    SenderState → ThreadEvent → SenderState × List SenderEvent → Prop where
  | skip (s : SenderState) (e : ThreadEvent) : SenderTurn s e (s, [])
  | pop (w : World) (hsem : 0 < w.send.sem) :
      SenderTurn ⟨w, .idle⟩ .pop (popMessage w)
  | offline (w : World) (hsem : 0 < w.send.sem) :
      SenderTurn ⟨w, .idle⟩ .offline
        (⟨{ w with send := { w.send with sem := w.send.sem - 1 } }, .idle⟩, [])
  | test (w : World) (node : SendNode) (i : Nat) :
      SenderTurn ⟨w, .transmitted node i⟩ .test (testRecvAck w node i)
  | wake (w : World) (node : SendNode) (i : Nat) (hack : w.recvAck = true) :
      SenderTurn ⟨w, .waiting node i⟩ .wake (clearRecvAck w node i)
  | timeout (w : World) (node : SendNode) (i : Nat) :
      SenderTurn ⟨w, .waiting node i⟩ .timeout (timeoutMessage w node i)

theorem senderTurn_turns (s : SenderState) (e : ThreadEvent) :
    SenderTurn s e (senderTurn s e) := by
  obtain ⟨w, phase⟩ := s
  cases e with
  | pop =>
      cases phase with
      | idle =>
          simp only [senderTurn]
          split_ifs with hsem
          · exact .pop w hsem
          · exact .skip _ _
      | _ => exact .skip _ _
  | offline =>
      cases phase with
      | idle =>
          simp only [senderTurn]
          split_ifs with hsem
          · exact .offline w hsem
          · exact .skip _ _
      | _ => exact .skip _ _
  | test =>
      cases phase with
      | transmitted node i => exact .test w node i
      | _ => exact .skip _ _
  | wake =>
      cases phase with
      | waiting node i =>
          simp only [senderTurn]
          split_ifs with hack
          · exact .wake w node i hack
          · exact .skip _ _
      | _ => exact .skip _ _
  | timeout =>
      cases phase with
      | waiting node i => exact .timeout w node i
      | _ => exact .skip _ _
  | _ => exact .skip _ _

theorem senderTurn_refines (target : Target) (s : SenderState)
    (e : ThreadEvent) :
    senderTurn s e = (s, []) ∨ SenderStep target s (senderTurn s e) := by
  have hturn := senderTurn_turns s e
  generalize senderTurn s e = out at hturn ⊢
  cases hturn with
  | skip => exact .inl rfl
  | pop w hsem => exact .inr (.pop w hsem)
  | offline w => exact .inr (.others w _ .idle rfl id)
  | test w node i => exact .inr (.test w node i)
  | wake w node i hack => exact .inr (.wake w node i hack)
  | timeout w node i => exact .inr (.timeout w node i)

theorem threads_refine (target : Target) (s : SenderState) (e : ThreadEvent) :
    (threads target).step s e = (s, []) ∨
      SenderStep target s ((threads target).step s e) := by
  obtain ⟨w, phase⟩ := s
  cases e with
  | frame r => exact .inr (.frame w phase r)
  | alert payload =>
      have hcore := sentWorld_sameCore target w sampleCmdWarningReport payload
      exact .inr (.others w _ phase hcore.recvAck hcore.queue)
  | workStatus =>
      have hcore :=
        sentWorld_sameCore target w sampleCmdUploadStatus moduleStatus
      exact .inr (.others w _ phase hcore.recvAck hcore.queue)
  | reset =>
      refine .inr (.others w _ phase rfl fun _ node hnode => ?_)
      cases hnode
  | others changed => exact .inr (.others w _ phase rfl id)
  | pop => exact senderTurn_refines target _ .pop
  | offline => exact senderTurn_refines target _ .offline
  | test => exact senderTurn_refines target _ .test
  | wake => exact senderTurn_refines target _ .wake
  | timeout => exact senderTurn_refines target _ .timeout

/-- The states that the sender can reach among the other threads. -/
def SenderReachable (target : Target) (s : SenderState) : Prop :=
  ∃ trace, SenderRun target s trace

theorem startedThreads_reachable (target : Target) (access : ParaFileAccess)
    (files : ParaFiles) :
    SenderReachable target (startedThreads target access files) :=
  ⟨[], .start access files⟩

theorem threads_reachable {target : Target} {s : SenderState}
    (h : SenderReachable target s) (e : ThreadEvent) :
    SenderReachable target ((threads target).step s e).1 := by
  obtain ⟨trace, hrun⟩ := h
  rcases threads_refine target s e with hsame | hstep
  · rw [hsame]
    exact ⟨trace, hrun⟩
  · exact ⟨_, hrun.next hstep⟩

end SanbaoProt
