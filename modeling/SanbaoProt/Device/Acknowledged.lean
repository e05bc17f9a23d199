import SanbaoProt.Device.Sender

/-!
# Own acknowledgements

`recv_ack` does not say which message has been acknowledged.  A run is looked
at message by message: `sinceFirst` is what came since its first transmission,
and `AcksOwn` says of a step that it sets the flag for a message only with an
acknowledgement of its own.  `sender_stops_own` is about the runs of such steps,
and about the steps that are not so.
-/

namespace SanbaoProt

open Library

/-! ## Acknowledgements of a message -/

/-- The media packet in the node has this index. -/
def SendNode.CarriesPacket (node : SendNode) (packetIndex : Nat) : Prop :=
  ∃ f : Frame, node.buf = some f.wire ∧
    ofBE ((f.payload.drop 7).take 2) = packetIndex

theorem sentNode_carriesPacket (target : Target) (w : World) (t : Transfer)
    (data : List UInt8) :
    (sentNode target w sampleCmdUploadMmData
      (mmPacketHeader t ++ data)).CarriesPacket t.packetIndex.toNat := by
  refine ⟨sentFrame target w sampleCmdUploadMmData (mmPacketHeader t ++ data),
    rfl, ?_⟩
  have hindex : ((mmPacketHeader t ++ data).drop 7).take 2 =
      toBE 2 t.packetIndex.toNat := rfl
  change ofBE (((mmPacketHeader t ++ data).drop 7).take 2) = _
  rw [hindex, ofBE_toBE t.packetIndex.toNat_lt]

/-- The acknowledgement is the message's own: it has its command and, for a
media packet, its packet index. -/
def OwnAck (node : SendNode) (r : Received) : Prop :=
  headerCmd r.msg = node.header.cmd ∧
    (node.header.cmd = sampleCmdUploadMmData →
      node.CarriesPacket (ackPacketIndex r.msg))

/-! ## Since the first transmission -/

/-- What came after the last transmission but `i`, of a trace that is given
backwards. -/
def eventsSince : Nat → List SenderEvent → List SenderEvent
  | _, [] => []
  | i, e :: earlier =>
      match e, i with
      | .transmit _, 0 => []
      | .transmit node, i + 1 => .transmit node :: eventsSince i earlier
      | e, i => e :: eventsSince i earlier

/-- The events since the first transmission of a message that has been
retransmitted `i` times. -/
def sinceFirst (i : Nat) (trace : List SenderEvent) : List SenderEvent :=
  (eventsSince i trace.reverse).reverse

@[simp] theorem sinceFirst_transmit (trace : List SenderEvent)
    (node : SendNode) : sinceFirst 0 (trace ++ [.transmit node]) = [] := by
  rw [sinceFirst, List.reverse_concat]
  rfl

@[simp] theorem sinceFirst_retransmit (i : Nat) (trace : List SenderEvent)
    (node : SendNode) :
    sinceFirst (i + 1) (trace ++ [.transmit node]) =
      sinceFirst i trace ++ [.transmit node] := by
  rw [sinceFirst, List.reverse_concat, eventsSince, List.reverse_cons]
  rfl

@[simp] theorem sinceFirst_received (i : Nat) (trace : List SenderEvent)
    (r : Received) (packetIndex : UInt16) :
    sinceFirst i (trace ++ [.received r packetIndex]) =
      sinceFirst i trace ++ [.received r packetIndex] := by
  have hlast : eventsSince i (.received r packetIndex :: trace.reverse) =
      .received r packetIndex :: eventsSince i trace.reverse := rfl
  rw [sinceFirst, List.reverse_concat, hlast, List.reverse_cons]
  rfl

/-- An own acknowledgement has come since the first transmission. -/
def OwnAcked (target : Target) (trace : List SenderEvent) (node : SendNode)
    (i : Nat) : Prop :=
  ∃ r packetIndex, .received r packetIndex ∈ sinceFirst i trace ∧
    Acknowledges target packetIndex r ∧ OwnAck node r

theorem OwnAcked.concat {target : Target} {trace : List SenderEvent}
    {node : SendNode} {i i' : Nat} (h : OwnAcked target trace node i)
    {e : SenderEvent}
    (hsince : sinceFirst i' (trace ++ [e]) = sinceFirst i trace ++ [e]) :
    OwnAcked target (trace ++ [e]) node i' := by
  obtain ⟨r, packetIndex, hmem, hack⟩ := h
  refine ⟨r, packetIndex, ?_, hack⟩
  rw [hsince]
  exact List.mem_append_left _ hmem

/-! ## Runs of own acknowledgements -/

/-- What a step needs so that the flag stands for own acknowledgements. -/
structure AcksOwn (target : Target) (s : SenderState)
    (out : SenderState × List SenderEvent) : Prop where
  /-- The flag is clear when a message is first transmitted. -/
  first : s.phase = .idle → ∀ node, out.2 = [.transmit node] →
    node.header.ackStatus = msgAckWaiting → s.world.recvAck = false
  /-- A frame that sets the flag early enough acknowledges the message. -/
  own : ∀ r packetIndex, out.2 = [.received r packetIndex] →
    Acknowledges target packetIndex r → s.world.recvAck = false →
    ∀ node i, s.phase.message = some (node, i) → i + 1 < 3 → OwnAck node r

/-- The runs whose steps all meet the condition. -/
inductive OwnRun (target : Target) :
    SenderState → List SenderEvent → Prop where
  | start (access : ParaFileAccess) (files : ParaFiles) :
      OwnRun target ⟨startedWorld target access files, .idle⟩ []
  | next {s : SenderState} {trace : List SenderEvent}
      (h : OwnRun target s trace) {out : SenderState × List SenderEvent}
      (hstep : SenderStep target s out) (hown : AcksOwn target s out) :
      OwnRun target out.1 (trace ++ out.2)

theorem OwnRun.senderRun {target : Target} {s : SenderState}
    {trace : List SenderEvent} (h : OwnRun target s trace) :
    SenderRun target s trace := by
  induction h with
  | start access files => exact .start access files
  | next h hstep hown ih => exact ih.next hstep

/-! ## The steps by their messages -/

/-- What a step does to the message in transmission and to the flag. -/
inductive MessageStep (target : Target) (s : SenderState)
    (out : SenderState × List SenderEvent) : Prop where
  | ended (hmessage : out.1.phase.message = none)
      (hfirst : ∀ node, out.2 = [.transmit node] →
        node.header.ackStatus ≠ msgAckWaiting)
      (hnone : ∀ r packetIndex, out.2 ≠ [.received r packetIndex])
  | first (node : SendNode) (hidle : s.phase = .idle)
      (hack : node.header.ackStatus = msgAckWaiting)
      (hphase : out.1.phase = .transmitted node 0)
      (hout : out.2 = [.transmit node])
      (hflag : out.1.world.recvAck = s.world.recvAck)
  | again (node : SendNode) (i : Nat)
      (hbefore : s.phase.message = some (node, i))
      (hafter : out.1.phase.message = some (node, i + 1))
      (hout : out.2 = [.transmit node])
      (hflag : out.1.world.recvAck = s.world.recvAck)
  | received (r : Received) (packetIndex : UInt16)
      (hphase : out.1.phase = s.phase)
      (hout : out.2 = [.received r packetIndex])
      (hflag : out.1.world.recvAck = true ↔
        s.world.recvAck = true ∨ Acknowledges target packetIndex r)
  | kept (hmessage : out.1.phase.message = s.phase.message)
      (hout : out.2 = []) (hflag : out.1.world.recvAck = s.world.recvAck)

theorem popMessage_messageStep (target : Target) (w : World) :
    MessageStep target ⟨w, .idle⟩ (popMessage w) := by
  unfold popMessage
  cases ptrQueuePop w.send.queue (some ptrQueueBufSize) with
  | none => exact .ended rfl nofun nofun
  | some popped =>
      obtain ⟨node, queue⟩ := popped
      simp only
      split_ifs with hready hwaiting
      · refine .ended rfl (fun node' hout => ?_) nofun
        cases hout
        rw [hready]
        decide
      · exact .first node rfl hwaiting rfl rfl rfl
      · exact .ended rfl nofun nofun

theorem SenderStep.messageStep {target : Target} {s : SenderState}
    {out : SenderState × List SenderEvent} (h : SenderStep target s out) :
    MessageStep target s out := by
  cases h with
  | pop w => exact popMessage_messageStep target w
  | test w node i =>
      unfold testRecvAck
      split_ifs
      · exact .ended rfl nofun nofun
      · exact .kept rfl rfl rfl
  | wake w node i => exact .ended rfl nofun nofun
  | timeout w node i =>
      unfold timeoutMessage
      split_ifs
      · exact .ended rfl nofun nofun
      · exact .again node i rfl rfl rfl rfl
      · exact .ended rfl nofun nofun
  | frame w phase r =>
      exact .received r _ rfl rfl (device_recvAck_iff target w r)
  | others w w' phase hack => exact .kept rfl rfl hack

/-- The events since its first transmission are behind that one, and no
acknowledgement is among them as long as the flag is clear. -/
structure SinceInvariant (target : Target) (s : SenderState)
    (trace : List SenderEvent) : Prop where
  behind : ∀ node i, s.phase.message = some (node, i) →
    ∃ earlier, trace = earlier ++ .transmit node :: sinceFirst i trace
  unanswered : s.world.recvAck = false →
    ∀ node i, s.phase.message = some (node, i) →
      ∀ r packetIndex, .received r packetIndex ∈ sinceFirst i trace →
        ¬ Acknowledges target packetIndex r

theorem SinceInvariant.behind_concat {target : Target} {s : SenderState}
    {trace : List SenderEvent} (h : SinceInvariant target s trace)
    {node : SendNode} {i i' : Nat}
    (hmessage : s.phase.message = some (node, i)) {e : SenderEvent}
    (hsince : sinceFirst i' (trace ++ [e]) = sinceFirst i trace ++ [e]) :
    ∃ earlier, trace ++ [e] =
      earlier ++ .transmit node :: sinceFirst i' (trace ++ [e]) := by
  obtain ⟨earlier, htrace⟩ := h.behind node i hmessage
  refine ⟨earlier, ?_⟩
  rw [hsince, ← List.cons_append, ← List.append_assoc, ← htrace]

theorem step_sinceInvariant {target : Target} {s : SenderState}
    {trace : List SenderEvent} (h : SinceInvariant target s trace)
    {out : SenderState × List SenderEvent} (hstep : SenderStep target s out) :
    SinceInvariant target out.1 (trace ++ out.2) := by
  cases hstep.messageStep with
  | ended hmessage hfirst hnone =>
      refine ⟨fun node i hnode => ?_, fun _ node i hnode => ?_⟩
      · rw [hmessage] at hnode
        cases hnode
      · rw [hmessage] at hnode
        cases hnode
  | first node hidle hack hphase hout hflag =>
      rw [hout]
      refine ⟨fun node' i hnode => ?_, fun _ node' i hnode => ?_⟩
      · rw [hphase] at hnode
        cases hnode
        exact ⟨trace, by rw [sinceFirst_transmit]⟩
      · rw [hphase] at hnode
        cases hnode
        rw [sinceFirst_transmit]
        intro r packetIndex hmem
        cases hmem
  | again node i hbefore hafter hout hflag =>
      rw [hout]
      refine ⟨fun node' i' hnode => ?_, fun hclear node' i' hnode => ?_⟩
      · rw [hafter] at hnode
        cases hnode
        exact h.behind_concat hbefore (sinceFirst_retransmit i trace node)
      · rw [hafter] at hnode
        cases hnode
        rw [hflag] at hclear
        intro r packetIndex hmem
        rw [sinceFirst_retransmit] at hmem
        rcases List.mem_append.mp hmem with hold | hlast
        · exact h.unanswered hclear node i hbefore r packetIndex hold
        · cases List.mem_singleton.mp hlast
  | received r packetIndex hphase hout hflag =>
      rw [hout]
      refine ⟨fun node i hnode => ?_, fun hclear node i hnode => ?_⟩
      · rw [hphase] at hnode
        exact h.behind_concat hnode
          (sinceFirst_received i trace r packetIndex)
      · rw [hphase] at hnode
        have hquiet := mt hflag.mpr (by rw [hclear]; decide)
        obtain ⟨hbefore, hnot⟩ := not_or.mp hquiet
        intro r' index hmem
        rw [sinceFirst_received] at hmem
        rcases List.mem_append.mp hmem with hold | hlast
        · exact h.unanswered (Bool.eq_false_iff.mpr hbefore) node i hnode r'
            index hold
        · cases List.mem_singleton.mp hlast
          exact hnot
  | kept hmessage hout hflag =>
      rw [hout, List.append_nil]
      refine ⟨fun node i hnode => ?_, fun hclear node i hnode => ?_⟩
      · exact h.behind node i (hmessage ▸ hnode)
      · exact h.unanswered (hflag ▸ hclear) node i (hmessage ▸ hnode)

theorem SenderRun.sinceInvariant {target : Target} {s : SenderState}
    {trace : List SenderEvent} (h : SenderRun target s trace) :
    SinceInvariant target s trace := by
  induction h with
  | start access files =>
      refine ⟨fun node i hnode => ?_, fun _ node i hnode => ?_⟩
      · cases hnode
      · cases hnode
  | next h hstep ih => exact step_sinceInvariant ih hstep

/-! ## The flag -/

/-- The flag, when it is set for a message, has been set by its own
acknowledgement. -/
def FlagOwn (target : Target) (s : SenderState) (trace : List SenderEvent) :
    Prop :=
  s.world.recvAck = true → ∀ node i, s.phase.message = some (node, i) →
    i + 1 < 3 → OwnAcked target trace node i

theorem step_flagOwn {target : Target} {s : SenderState}
    {trace : List SenderEvent} (h : FlagOwn target s trace)
    {out : SenderState × List SenderEvent} (hstep : SenderStep target s out)
    (hown : AcksOwn target s out) :
    FlagOwn target out.1 (trace ++ out.2) := by
  intro hset node i hnode hearly
  cases hstep.messageStep with
  | ended hmessage hfirst hnone =>
      rw [hmessage] at hnode
      cases hnode
  | first node' hidle hack hphase hout hflag =>
      rw [hflag, hown.first hidle node' hout hack] at hset
      cases hset
  | again node' i' hbefore hafter hout hflag =>
      rw [hafter] at hnode
      cases hnode
      rw [hout]
      exact (h (hflag ▸ hset) node i' hbefore (by omega)).concat
        (sinceFirst_retransmit i' trace node)
  | received r packetIndex hphase hout hflag =>
      rw [hphase] at hnode
      rw [hout]
      cases hbefore : s.world.recvAck with
      | true =>
          exact (h hbefore node i hnode hearly).concat
            (sinceFirst_received i trace r packetIndex)
      | false =>
          have hack := (hflag.mp hset).resolve_left (by rw [hbefore]; decide)
          refine ⟨r, packetIndex, ?_, hack,
            hown.own r packetIndex hout hack hbefore node i hnode hearly⟩
          rw [sinceFirst_received]
          exact List.mem_append_right _ (List.mem_singleton.mpr rfl)
  | kept hmessage hout hflag =>
      rw [hout, List.append_nil]
      exact h (hflag ▸ hset) node i (hmessage ▸ hnode) hearly

theorem OwnRun.flagOwn {target : Target} {s : SenderState}
    {trace : List SenderEvent} (h : OwnRun target s trace) :
    FlagOwn target s trace := by
  induction h with
  | start access files =>
      intro _ node i hnode
      cases hnode
  | next h hstep hown ih => exact step_flagOwn ih hstep hown

/-- The next turn of the sender stops the message. -/
theorem exists_stopsEarly (target : Target) {s : SenderState}
    (hset : s.world.recvAck = true) {node : SendNode} {i : Nat}
    (hmessage : s.phase.message = some (node, i)) (hearly : i + 1 < 3) :
    ∃ out, StopsEarly target s out node i := by
  obtain ⟨w, phase⟩ := s
  cases phase with
  | idle => cases hmessage
  | transmitted node' i' =>
      cases hmessage
      refine ⟨testRecvAck w node i, .test w node i, rfl, hearly, ?_⟩
      rw [testRecvAck, if_pos hset]
      rfl
  | waiting node' i' =>
      cases hmessage
      exact ⟨clearRecvAck w node i, .wake w node i hset, rfl, hearly, rfl⟩

theorem OwnAcked.of_received {target : Target} {trace : List SenderEvent}
    {node : SendNode} {i : Nat} {r : Received} {packetIndex : UInt16}
    (h : OwnAcked target (trace ++ [.received r packetIndex]) node i)
    (hbefore : ∀ r packetIndex, .received r packetIndex ∈ sinceFirst i trace →
      ¬ Acknowledges target packetIndex r) : OwnAck node r := by
  obtain ⟨r', index, hmem, hack, hown⟩ := h
  rw [sinceFirst_received] at hmem
  rcases List.mem_append.mp hmem with hold | hlast
  · exact absurd hack (hbefore r' index hold)
  · cases List.mem_singleton.mp hlast
    exact hown

/-- After a step against the condition the message in transmission is stopped
without an acknowledgement of its own, if the sender has the next turn. -/
theorem stopped_unacknowledged {target : Target} {s : SenderState}
    {trace : List SenderEvent} (h : SenderRun target s trace)
    {out : SenderState × List SenderEvent} (hstep : SenderStep target s out)
    (hown : ¬ AcksOwn target s out) :
    ∃ node i stop, StopsEarly target out.1 stop node i ∧
      ¬ OwnAcked target (trace ++ out.2) node i := by
  cases hstep.messageStep with
  | ended hmessage hfirst hnone =>
      refine absurd ⟨fun _ node hout hack => ?_, fun r packetIndex hout => ?_⟩
        hown
      · exact absurd hack (hfirst node hout)
      · exact absurd hout (hnone r packetIndex)
  | first node hidle hack hphase hout hflag =>
      have hset : out.1.world.recvAck = true := by
        by_contra hclear
        refine hown ⟨fun _ _ _ _ => ?_, fun r packetIndex hreceived => ?_⟩
        · rw [← hflag]
          exact Bool.eq_false_iff.mpr hclear
        · rw [hout] at hreceived
          cases hreceived
      obtain ⟨stop, hstop⟩ := exists_stopsEarly target hset
        (by rw [hphase]; rfl) (by decide : 0 + 1 < 3)
      refine ⟨node, 0, stop, hstop, ?_⟩
      rw [hout]
      rintro ⟨r, packetIndex, hmem, -⟩
      rw [sinceFirst_transmit] at hmem
      cases hmem
  | again node i hbefore hafter hout hflag =>
      refine absurd ⟨fun hidle => ?_, fun r packetIndex hreceived => ?_⟩ hown
      · rw [hidle] at hbefore
        cases hbefore
      · rw [hout] at hreceived
        cases hreceived
  | received r packetIndex hphase hout hflag =>
      -- the frame sets the flag for a message that it does not acknowledge
      have hforeign : ∃ node i, s.phase.message = some (node, i) ∧
          i + 1 < 3 ∧ s.world.recvAck = false ∧
          Acknowledges target packetIndex r ∧ ¬ OwnAck node r := by
        by_contra hnone
        refine hown ⟨fun _ node htransmit => ?_, ?_⟩
        · rw [hout] at htransmit
          cases htransmit
        · intro r' index hreceived hack hclear node i hmessage hearly
          rw [hout] at hreceived
          cases hreceived
          by_contra hother
          exact hnone ⟨node, i, hmessage, hearly, hclear, hack, hother⟩
      obtain ⟨node, i, hmessage, hearly, hclear, hack, hother⟩ := hforeign
      obtain ⟨stop, hstop⟩ := exists_stopsEarly target
        (hflag.mpr (.inr hack)) (by rw [hphase, hmessage]) hearly
      refine ⟨node, i, stop, hstop, ?_⟩
      rw [hout]
      intro howned
      exact hother (howned.of_received
        (h.sinceInvariant.unanswered hclear node i hmessage))
  | kept hmessage hout hflag =>
      refine absurd ⟨fun _ node htransmit => ?_, fun r index hreceived => ?_⟩
        hown
      · rw [hout] at htransmit
        cases htransmit
      · rw [hout] at hreceived
        cases hreceived

/-- In a run whose steps all meet the condition, a message is stopped before
its third transmission by its own acknowledgement only; a step that does not
meet it can be followed by a stop without one. -/
theorem sender_stops_own (target : Target) :
    (∀ s trace, OwnRun target s trace → ∀ out node i,
      StopsEarly target s out node i →
        (∃ earlier, trace = earlier ++ .transmit node :: sinceFirst i trace) ∧
          OwnAcked target trace node i) ∧
    ∀ s trace, SenderRun target s trace → ∀ out, SenderStep target s out →
      ¬ AcksOwn target s out → ∃ node i stop,
        StopsEarly target out.1 stop node i ∧
          ¬ OwnAcked target (trace ++ out.2) node i := by
  constructor
  · intro s trace hrun out node i hstops
    have hflag := (hstops.flag hrun.senderRun.invariant.counted).1
    exact ⟨hrun.senderRun.sinceInvariant.behind node i hstops.message,
      hrun.flagOwn hflag node i hstops.message hstops.early⟩
  · intro s trace hrun out hstep hown
    exact stopped_unacknowledged hrun hstep hown

/-! ## A status report -/

theorem acksOwn_of_silent {target : Target} {s : SenderState}
    {out : SenderState × List SenderEvent} (hout : out.2 = []) :
    AcksOwn target s out := by
  refine ⟨fun _ node htransmit => ?_, fun r packetIndex hreceived => ?_⟩
  · rw [hout] at htransmit
    cases htransmit
  · rw [hout] at hreceived
    cases hreceived

theorem OwnRun.silent {target : Target} {s : SenderState}
    {trace : List SenderEvent} (h : OwnRun target s trace)
    {out : SenderState × List SenderEvent} (hstep : SenderStep target s out)
    (hout : out.2 = []) : OwnRun target out.1 trace := by
  have hnext := h.next hstep (acksOwn_of_silent hout)
  rw [hout, List.append_nil] at hnext
  exact hnext

theorem popMessage_waiting {w : World} {node : SendNode}
    {queue : List SendNode}
    (hpop : ptrQueuePop w.send.queue (some ptrQueueBufSize) =
      some (node, queue)) (hack : node.header.ackStatus = msgAckWaiting) :
    ∃ w', w'.recvAck = w.recvAck ∧
      popMessage w = (⟨w', .transmitted node 0⟩, [.transmit node]) := by
  have hready : ¬ node.header.ackStatus = msgAckReady := by
    rw [hack]
    decide
  unfold popMessage
  simp only [hpop]
  rw [if_neg hready, if_pos hack]
  refine ⟨_, ?_, rfl⟩
  rfl

def queuedStatus : World :=
  sentWorld adasTcp (freshWorld adasTcp) sampleCmdUploadStatus moduleStatus

def statusNode : SendNode :=
  sentNode adasTcp (freshWorld adasTcp) sampleCmdUploadStatus moduleStatus

def emptyAck (cmd : UInt8) : Received :=
  .ofFrame Env.plain ⟨1, vendorId, sampleDeviceIdAdas, cmd, []⟩

theorem queuedStatus_run : OwnRun adasTcp ⟨queuedStatus, .idle⟩ [] := by
  have hstart : OwnRun adasTcp ⟨freshWorld adasTcp, .idle⟩ [] :=
    .start ⟨true, some 50⟩ ⟨none, none⟩
  have hcore := sentWorld_sameCore adasTcp (freshWorld adasTcp)
    sampleCmdUploadStatus moduleStatus
  have hothers : SenderStep adasTcp ⟨freshWorld adasTcp, .idle⟩
      (⟨queuedStatus, .idle⟩, []) :=
    .others (freshWorld adasTcp) queuedStatus .idle hcore.recvAck hcore.queue
  have hsent := hstart.silent hothers rfl
  exact hsent

theorem emptyAck_acknowledges (packetIndex : UInt16) :
    Acknowledges adasTcp packetIndex (emptyAck sampleCmdUploadStatus) ∧
      Acknowledges adasTcp packetIndex (emptyAck sampleCmdWarningReport) := by
  constructor
  · exact ⟨by decide +kernel, .inr (.inl (by decide +kernel))⟩
  · exact ⟨by decide +kernel, .inl (by decide +kernel)⟩

theorem emptyAck_ownAck :
    OwnAck statusNode (emptyAck sampleCmdUploadStatus) := by
  refine ⟨by decide +kernel, fun hupload => ?_⟩
  exact absurd hupload (by decide +kernel)

/-- The report is transmitted twice, then acknowledged. -/
theorem answeredStatus_run : ∃ w packetIndex, w.recvAck = true ∧
    OwnRun adasTcp ⟨w, .transmitted statusNode 1⟩
      [.transmit statusNode, .transmit statusNode,
        .received (emptyAck sampleCmdUploadStatus) packetIndex] := by
  obtain ⟨w, hw, hpop⟩ := @popMessage_waiting queuedStatus statusNode []
    (by decide +kernel) rfl
  have hclear : w.recvAck = false := hw
  have hfirst := queuedStatus_run.next (.pop queuedStatus (by decide +kernel))
    ⟨fun _ _ _ _ => rfl, fun r packetIndex hout => by
      rw [hpop] at hout
      cases hout⟩
  rw [hpop] at hfirst
  have htest : testRecvAck w statusNode 0 = (⟨w, .waiting statusNode 0⟩, []) :=
    if_neg (by rw [hclear]; decide)
  have hwaiting := hfirst.silent (.test w statusNode 0) (by rw [htest])
  rw [htest] at hwaiting
  have hsecond := hwaiting.next (.timeout w statusNode 0)
    ⟨fun hidle => (by cases hidle), fun r packetIndex hout => (by cases hout)⟩
  have hanswered := hsecond.next
    (.frame w (.transmitted statusNode 1) (emptyAck sampleCmdUploadStatus))
    ⟨fun hidle => (by cases hidle), fun r packetIndex hout _ _ node i hnode _ =>
      (by cases hout; cases hnode; exact emptyAck_ownAck)⟩
  exact ⟨_, _, (device_recvAck_iff adasTcp w _).mpr
    (.inr (emptyAck_acknowledges w.transfer.packetIndex).1), hanswered⟩

/-- The first transmission of the report after an acknowledgement of
another message. -/
theorem staleStatus_run : ∃ s packetIndex,
    SenderRun adasTcp s
      [.received (emptyAck sampleCmdWarningReport) packetIndex] ∧
    ∃ out, SenderStep adasTcp s out ∧ s.phase = .idle ∧
      out.2 = [.transmit statusNode] ∧
      out.1.phase = .transmitted statusNode 0 ∧ s.world.recvAck = true ∧
      out.1.world.recvAck = true := by
  have hframe := queuedStatus_run.senderRun.next
    (.frame queuedStatus .idle (emptyAck sampleCmdWarningReport))
  have hset := (device_recvAck_iff adasTcp queuedStatus _).mpr
    (.inr (emptyAck_acknowledges queuedStatus.transfer.packetIndex).2)
  refine ⟨_, _, hframe, ?_⟩
  obtain ⟨w, hw, hpop⟩ := @popMessage_waiting
    ((device adasTcp).step queuedStatus (emptyAck sampleCmdWarningReport)).1
    statusNode [] (by decide +kernel) rfl
  refine ⟨_, .pop _ (by decide +kernel), rfl, ?_, ?_, hset, ?_⟩
  · rw [hpop]
  · rw [hpop]
  · rw [hpop]
    exact hw.trans hset

/-- The report is stopped by its own acknowledgement in one run, and by that
of another message in the other. -/
theorem sender_stops_own_status :
    (∃ w packetIndex,
      let s : SenderState := ⟨w, .transmitted statusNode 1⟩
      let trace := [.transmit statusNode, .transmit statusNode,
        .received (emptyAck sampleCmdUploadStatus) packetIndex]
      OwnRun adasTcp s trace ∧
        StopsEarly adasTcp s (testRecvAck w statusNode 1) statusNode 1 ∧
        OwnAcked adasTcp trace statusNode 1) ∧
    ∃ s packetIndex node i stop,
      let trace := [.received (emptyAck sampleCmdWarningReport) packetIndex,
        .transmit statusNode]
      SenderRun adasTcp s trace ∧ StopsEarly adasTcp s stop node i ∧
        ¬ OwnAcked adasTcp trace node i := by
  constructor
  · obtain ⟨w, packetIndex, hset, hrun⟩ := answeredStatus_run
    have hstops : StopsEarly adasTcp ⟨w, .transmitted statusNode 1⟩
        (testRecvAck w statusNode 1) statusNode 1 := by
      refine ⟨.test w statusNode 1, rfl, by decide, ?_⟩
      rw [testRecvAck, if_pos hset]
      rfl
    exact ⟨w, packetIndex, hrun, hstops,
      ((sender_stops_own adasTcp).1 _ _ hrun _ statusNode 1 hstops).2⟩
  · obtain ⟨s, packetIndex, hrun, out, hstep, hidle, hout, -, hset, -⟩ :=
      staleStatus_run
    have hagainst : ¬ AcksOwn adasTcp s out := by
      intro hown
      rw [hown.first hidle statusNode hout rfl] at hset
      cases hset
    obtain ⟨node, i, stop, hstops, hnot⟩ :=
      (sender_stops_own adasTcp).2 s _ hrun out hstep hagainst
    have hnext := hrun.next hstep
    rw [hout] at hnext hnot
    exact ⟨out.1, packetIndex, node, i, stop, hnext, hstops, hnot⟩

/-- An acknowledgement that came too early, and of another command, stops the
status report after its first transmission. -/
theorem sender_stops_stale :
    ¬ ∀ s trace, SenderRun adasTcp s trace → ∀ out node i,
      StopsEarly adasTcp s out node i → OwnAcked adasTcp trace node i := by
  intro hown
  obtain ⟨s, packetIndex, hrun, out, hstep, -, hout, hphase, -, hset⟩ :=
    staleStatus_run
  obtain ⟨stop, hstops⟩ := exists_stopsEarly adasTcp hset
    (by rw [hphase]; rfl) (by decide : 0 + 1 < 3)
  have hnext := hrun.next hstep
  rw [hout] at hnext
  obtain ⟨r, index, hmem, -⟩ := hown _ _ hnext stop statusNode 0 hstops
  rw [sinceFirst_transmit] at hmem
  cases hmem

end SanbaoProt
