import SanbaoProt.Device.MediaTransfer
import SanbaoProt.Device.Threads

/-!
# The transfer record among the threads

The record of the media transfer is shared.  The sender clears its flag when it
gives up a message, whichever message that is, and leaves the packet counters
as they are; the receive thread takes an acknowledgement by the counters alone.
The results below say for whole runs when this does no harm.
-/

namespace SanbaoProt

open Library

/-! ## Giving up -/

/-- The third wait for an acknowledgement of the message times out. -/
def GivesUp (s : SenderState) (e : ThreadEvent) (node : SendNode) : Prop :=
  e = .timeout ∧ ∃ i, s.phase = .waiting node i ∧
    node.header.sendRepeat + UInt8.ofNat (i + 1) ≥ 3

theorem Transfer.released_eq_iff (t : Transfer) :
    t.released = t ↔ t.mmDataTransWaiting = false := by
  obtain ⟨type, id, packetTotalNum, packetIndex, waiting⟩ := t
  simp [Transfer.released, eq_comm]

theorem threads_givesUp (target : Target) {s : SenderState} {e : ThreadEvent}
    {node : SendNode} (h : GivesUp s e node) :
    ((threads target).step s e).1.world.transfer =
      s.world.transfer.released := by
  obtain ⟨rfl, i, hphase, hcount⟩ := h
  simp only [threads, senderTurn, hphase, timeoutMessage, if_pos hcount]
  rfl

theorem popMessage_transfer (w : World) :
    (popMessage w).1.world.transfer = w.transfer := by
  unfold popMessage
  cases ptrQueuePop w.send.queue (some ptrQueueBufSize) with
  | none => rfl
  | some popped =>
      simp only
      split_ifs
      · rfl
      · rfl
      · rfl

theorem senderTurn_transfer {s : SenderState} {e : ThreadEvent}
    (h : ∀ node, ¬ GivesUp s e node) :
    (senderTurn s e).1.world.transfer = s.world.transfer := by
  have hturn := senderTurn_turns s e
  generalize senderTurn s e = out at hturn ⊢
  cases hturn with
  | skip => rfl
  | pop w => exact popMessage_transfer w
  | offline w => rfl
  | test w node i =>
      unfold testRecvAck
      split_ifs
      · rfl
      · rfl
  | wake w node i => rfl
  | timeout w node i =>
      unfold timeoutMessage
      split_ifs with hcount
      · exact absurd ⟨rfl, i, rfl, hcount⟩ (h node)
      · rfl
      · rfl

/-- Only frames, resets and giving up touch the transfer. -/
theorem threads_transfer (target : Target) (s : SenderState)
    (e : ThreadEvent) :
    (∃ r, e = .frame r) ∨ e = .reset ∨ (∃ node, GivesUp s e node) ∨
      ((threads target).step s e).1.world.transfer = s.world.transfer := by
  by_cases hgives : ∃ node, GivesUp s e node
  · exact .inr (.inr (.inl hgives))
  have hturn := senderTurn_transfer fun node h => hgives ⟨node, h⟩
  cases e with
  | frame r => exact .inl ⟨r, rfl⟩
  | alert payload => exact .inr (.inr (.inr rfl))
  | workStatus => exact .inr (.inr (.inr rfl))
  | reset => exact .inr (.inl rfl)
  | others changed => exact .inr (.inr (.inr rfl))
  | pop => exact .inr (.inr (.inr hturn))
  | offline => exact .inr (.inr (.inr hturn))
  | test => exact .inr (.inr (.inr hturn))
  | wake => exact .inr (.inr (.inr hturn))
  | timeout => exact .inr (.inr (.inr hturn))

/-- In a run, giving up messages other than media packets never touches the
transfer exactly when no transfer is active each time that it happens. -/
theorem giveUp_keepsTransfer_iff (target : Target) (access : ParaFileAccess)
    (files : ParaFiles) (events : List ThreadEvent) :
    let start := startedThreads target access files
    (threads target).EachStep (fun s e => ∀ node, GivesUp s e node →
        node.header.cmd ≠ sampleCmdUploadMmData →
        ((threads target).step s e).1.world.transfer = s.world.transfer)
        start events ↔
      (threads target).EachStep (fun s e => ∀ node, GivesUp s e node →
        node.header.cmd ≠ sampleCmdUploadMmData →
        s.world.transfer.mmDataTransWaiting = false) start events := by
  intro start
  refine Mealy.eachStep_congr (I := fun _ => True) (fun _ _ _ => trivial)
    (fun s e _ => ?_) trivial events
  refine forall_congr' fun node => forall₂_congr fun hgives _ => ?_
  rw [threads_givesUp target hgives, Transfer.released_eq_iff]

def oneByteFile : TransferableFile := ⟨[0x55], by decide, by decide⟩

def oneByteEnv : Env :=
  { Env.plain with
    media := fun id => if id = 7 then some oneByteFile.content else none }

def oneByteRequest : Received :=
  .ofFrame oneByteEnv ⟨1, vendorId, sampleDeviceIdAdas, sampleCmdReqMmData,
    0 :: toBE 4 7⟩

def alertGivenUp : List ThreadEvent :=
  [.alert [], .pop, .test, .timeout, .test, .timeout, .test]

def freshThreads (target : Target) : SenderState :=
  startedThreads target ⟨true, some 50⟩ ⟨none, none⟩

/-- The third timeout of a warning report releases the transfer of a file. -/
theorem giveUp_releasesTransfer :
    ¬ ∀ events, (threads adasTcp).EachStep (fun s e => ∀ node,
      GivesUp s e node → node.header.cmd ≠ sampleCmdUploadMmData →
      ((threads adasTcp).step s e).1.world.transfer = s.world.transfer)
      (freshThreads adasTcp) events := by
  intro h
  let run := alertGivenUp ++ [.frame oneByteRequest]
  let node := sentNode adasTcp (freshWorld adasTcp) sampleCmdWarningReport []
  have hphase : ((threads adasTcp).final (freshThreads adasTcp) run).phase =
      .waiting node 2 := by decide +kernel
  have hsame := h (run ++ [.timeout]) run .timeout [] rfl node
    ⟨rfl, 2, hphase, by decide⟩ (by decide)
  exact absurd hsame (by decide +kernel)

/-! ## Acknowledgements of another file -/

/-- The media id in an acknowledgement; no handler looks at it. -/
def ackMmId (msg : Mem UInt8) : UInt32 :=
  UInt32.ofNat (ofBE (msg.read (payloadOffset + 1) 4))

/-- A further packet is sent, the transfer is completed, or the flag is set. -/
def Advances (effects : List Effect) : Prop :=
  mediaPackets effects ≠ [] ∨ DeclaresOver effects ∨ .noticeAck ∈ effects

theorem device_advances_iff {target : Target} {w : World} {r : Received}
    (hcmd : headerCmd r.msg = sampleCmdUploadMmData) :
    Advances ((device target).step w r).2 ↔ TakesAck target w r := by
  constructor
  · intro hadvances
    by_contra hack
    have hnothing : ((device target).step w r).2 = [] := by
      rcases device_ignoresAck hcmd hack with hstep | hstep
      · rw [hstep]
      · rw [hstep]
    rw [hnothing] at hadvances
    rcases hadvances with hpackets | ⟨id, hover⟩ | hnotice
    · exact hpackets rfl
    · cases hover
    · cases hnotice
  · intro hack
    refine .inr (.inr ?_)
    by_cases hlast : w.transfer.packetTotalNum = w.transfer.packetIndex
    · rw [device_takesLast hack hlast]
      exact List.mem_cons_self
    · rw [device_takesNext hack hlast]
      exact List.mem_cons_self

/-- Along a run the transfer advances on acknowledgements of its own media only
exactly when every acknowledgement that is taken, which is decided by the ack
byte and the packet index, carries its id. -/
theorem ownAcks_iff (target : Target) (access : ParaFileAccess)
    (files : ParaFiles) (events : List ThreadEvent) :
    let start := startedThreads target access files
    (threads target).EachStep (fun s e => ∀ r, e = .frame r →
        headerCmd r.msg = sampleCmdUploadMmData →
        Advances ((device target).step s.world r).2 →
        ackMmId r.msg = s.world.transfer.id) start events ↔
      (threads target).EachStep (fun s e => ∀ r, e = .frame r →
        TakesAck target s.world r → ackMmId r.msg = s.world.transfer.id)
        start events := by
  intro start
  refine Mealy.eachStep_congr (I := fun _ => True) (fun _ _ _ => trivial)
    (fun s e _ => ?_) trivial events
  refine forall₂_congr fun r _ => ?_
  constructor
  · intro h hack
    exact h hack.cmd ((device_advances_iff hack.cmd).mpr hack)
  · intro h hcmd hadvances
    exact h ((device_advances_iff hcmd).mp hadvances)

def twoFiles : Env :=
  { Env.plain with
    media := fun id => if id = 7 ∨ id = 8 then some [0x55] else none }

def mediaRequest (env : Env) (id : Nat) : Received :=
  .ofFrame env ⟨1, vendorId, sampleDeviceIdAdas, sampleCmdReqMmData,
    0 :: toBE 4 id⟩

/-- A duplicate of the acknowledgement of file 7 completes file 8. -/
theorem foreignAck_completes :
    ¬ ∀ events, (threads adasTcp).EachStep (fun s e => ∀ r,
      e = .frame r → headerCmd r.msg = sampleCmdUploadMmData →
      Advances ((device adasTcp).step s.world r).2 →
      ackMmId r.msg = s.world.transfer.id) (freshThreads adasTcp) events := by
  intro h
  let ack := mediaAck twoFiles .adas 7 1 0
  let run : List ThreadEvent := [.frame (mediaRequest twoFiles 7), .frame ack,
    .frame (mediaRequest twoFiles 8)]
  have hadvances : Advances ((device adasTcp).step
      ((threads adasTcp).final (freshThreads adasTcp) run).world ack).2 :=
    .inr (.inr (by decide +kernel))
  have hown := h (run ++ [.frame ack]) run (.frame ack) [] rfl ack rfl
    (by decide +kernel) hadvances
  exact absurd hown (by decide +kernel)

/-! ## Late acknowledgements -/

/-- Without an active transfer no frame but a request that is accepted makes
the device send a packet. -/
def QuietWhenIdle (target : Target) (w : World) : Prop :=
  w.transfer.mmDataTransWaiting = false → ∀ r, ¬ AcceptsRequest target w r →
    mediaPackets ((device target).step w r).2 = []

/-- The counters of a transfer that is not active stand at the start or the
end. -/
def AtRest (t : Transfer) : Prop :=
  t.mmDataTransWaiting = false →
    t.packetIndex = 0 ∨ t.packetTotalNum = t.packetIndex

theorem atRest_quiet {target : Target} {w : World} (h : AtRest w.transfer) :
    QuietWhenIdle target w := by
  intro hidle r hrequest
  by_cases hack : TakesAck target w r
  · rcases h hidle with hzero | htotal
    · have hindex := hack.index
      rw [hzero] at hindex
      exact absurd hindex.symm (Nat.succ_ne_zero _)
    · rw [device_takesLast hack htotal]
      rfl
  · exact (device_keepsTransfer hrequest hack).2.1

/-- Every file is long enough for another packet. -/
def longFiles (packetIndex : UInt16) : Env :=
  { Env.plain with
    media := fun _ => some (List.replicate
      ((cInt (packetIndex.toNat * imageSizePerPacket)).toNat + 1) 0) }

theorem nextData_longFiles (t : Transfer) :
    ∃ data, nextData (longFiles t.packetIndex) t = some data := by
  refine ⟨_, nextData_of_media rfl rfl (readPacket_ne_nil ?_)⟩
  rw [List.length_replicate]
  exact Nat.lt_succ_self _

theorem quiet_iff_atRest (target : Target) (w : World) :
    QuietWhenIdle target w ↔ AtRest w.transfer := by
  refine ⟨fun hquiet hidle => ?_, atRest_quiet⟩
  by_contra hopen
  obtain ⟨hstarted, hmore⟩ := not_or.mp hopen
  have hpositive : w.transfer.packetIndex.toNat ≠ 0 := fun hzero =>
    hstarted (UInt16.toNat_inj.mp hzero)
  have hindex : w.transfer.packetIndex.toNat =
      (w.transfer.packetIndex.toNat - 1) + 1 := by omega
  have hack : TakesAck target w _ :=
    mediaAck_takes hindex (longFiles w.transfer.packetIndex) 0 0
  have hnone := hquiet hidle _ fun h => absurd (hack.cmd.symm.trans h.cmd)
    (by decide)
  obtain ⟨data, hdata⟩ := nextData_longFiles w.transfer
  rw [device_sendsNext hack hmore hdata] at hnone
  exact absurd hnone (List.cons_ne_nil _ _)

theorem sampleSendImage_waiting (target : Target) (env : Env) (w : World) :
    (sampleSendImage target env w).1.transfer.mmDataTransWaiting =
      w.transfer.mmDataTransWaiting := by
  cases hdata : nextData env w.transfer with
  | none => rw [sampleSendImage_none hdata]
  | some data =>
      rw [sampleSendImage_some hdata]
      rfl

/-- No frame leaves the counters of an inactive transfer in between. -/
theorem device_atRest {target : Target} {w : World} (h : AtRest w.transfer)
    (r : Received) : AtRest ((device target).step w r).1.transfer := by
  by_cases hrequest : AcceptsRequest target w r
  · intro hidle
    rw [device_accepts hrequest, sampleSendImage_waiting] at hidle
    cases hidle
  by_cases hack : TakesAck target w r
  · by_cases hlast : w.transfer.packetTotalNum = w.transfer.packetIndex
    · intro _
      rw [device_takesLast hack hlast]
      exact .inr hlast
    · intro hidle
      rw [device_takesNext hack hlast, sampleSendImage_waiting] at hidle
      rcases h hidle with hzero | htotal
      · have hindex := hack.index
        rw [hzero] at hindex
        exact absurd hindex.symm (Nat.succ_ne_zero _)
      · exact absurd htotal hlast
  · rw [(device_keepsTransfer hrequest hack).1]
    exact h

theorem threads_atRest_iff (target : Target) (s : SenderState)
    (e : ThreadEvent) (h : AtRest s.world.transfer) :
    AtRest ((threads target).step s e).1.world.transfer ↔
      ∀ node, GivesUp s e node → s.world.transfer.packetIndex = 0 ∨
        s.world.transfer.packetTotalNum = s.world.transfer.packetIndex := by
  rcases threads_transfer target s e with ⟨r, rfl⟩ | rfl | ⟨node, hgives⟩ |
    hkeep
  · exact iff_of_true (device_atRest h r) fun node hgives =>
      ThreadEvent.noConfusion hgives.1
  · exact iff_of_true (fun _ => .inl rfl) fun node hgives =>
      ThreadEvent.noConfusion hgives.1
  · rw [threads_givesUp target hgives]
    exact ⟨fun hrest _ _ => hrest rfl, fun hcounters _ =>
      hcounters node hgives⟩
  · rw [hkeep]
    refine iff_of_true h fun node hgives => h ?_
    rw [← Transfer.released_eq_iff, ← threads_givesUp target hgives, hkeep]

theorem startedThreads_transfer (target : Target) (access : ParaFileAccess)
    (files : ParaFiles) :
    (startedThreads target access files).world.transfer =
      ⟨0, 0, 0, 0, false⟩ := by
  unfold startedThreads startedWorld globalVarInit
  cases target.build with
  | adas => rfl
  | dms => rfl

/-- Along a run no packet is sent without an active transfer exactly when
nothing is given up while the counters of the transfer are between its first
packet and its last. -/
theorem noLatePackets_iff (target : Target) (access : ParaFileAccess)
    (files : ParaFiles) (events : List ThreadEvent) :
    let start := startedThreads target access files
    (threads target).Always (fun s => QuietWhenIdle target s.world) start
        events ↔
      (threads target).EachStep (fun s e => ∀ node, GivesUp s e node →
        s.world.transfer.packetIndex = 0 ∨
          s.world.transfer.packetTotalNum = s.world.transfer.packetIndex)
        start events := by
  intro start
  have hrest : AtRest start.world.transfer := by
    rw [startedThreads_transfer]
    exact fun _ => .inl rfl
  have hrun := Mealy.always_iff (M := threads target) (I := fun _ => True)
    (P := fun s => AtRest s.world.transfer) (fun _ _ _ => trivial)
    (fun s e _ => threads_atRest_iff target s e) (s := start) trivial events
  rw [and_iff_right hrest] at hrun
  rw [← hrun]
  exact forall₃_congr fun before after _ => quiet_iff_atRest target _

/-- A file of two packets. -/
def twoPackets : Env :=
  { Env.plain with
    media := fun _ => some (List.replicate (imageSizePerPacket + 1) 0x55) }

theorem twoPackets_size (id : UInt32) :
    getFileSize (twoPackets.media id) = imageSizePerPacket + 1 := by
  have hlength : getFileSize (twoPackets.media id) =
      cInt ((List.replicate (imageSizePerPacket + 1) (0x55 : UInt8)).length :
        Nat) := rfl
  rw [hlength, List.length_replicate]
  decide

theorem twoPackets_accepts {w : World}
    (h : w.transfer.mmDataTransWaiting = false) :
    AcceptsRequest adasTcp w (mediaRequest twoPackets 7) where
  forDevice := .inl rfl
  cmd := rfl
  idle := h
  length := by decide
  found := by
    rw [show (mediaRequest twoPackets 7).env = twoPackets from rfl,
      twoPackets_size]
    decide

theorem twoPackets_transfer {w : World}
    (h : w.transfer.mmDataTransWaiting = false) :
    ((device adasTcp).step w (mediaRequest twoPackets 7)).1.transfer =
      ⟨0, 7, 2, 1, true⟩ := by
  have hstarted : requestedTransfer (mediaRequest twoPackets 7) =
      ⟨0, 7, 2, 0, true⟩ := by
    rw [requestedTransfer, show (mediaRequest twoPackets 7).env = twoPackets
      from rfl, twoPackets_size]
    decide +kernel
  have hread : readPacket (List.replicate (imageSizePerPacket + 1) 0x55)
      (requestedTransfer (mediaRequest twoPackets 7)).packetIndex ≠ [] := by
    apply readPacket_ne_nil
    rw [hstarted, List.length_replicate]
    decide
  have hdata : nextData (mediaRequest twoPackets 7).env
      (requestedTransfer (mediaRequest twoPackets 7)) = _ :=
    nextData_of_media rfl rfl hread
  rw [device_starts (twoPackets_accepts h) hdata]
  change (requestedTransfer (mediaRequest twoPackets 7)).advance = _
  rw [hstarted]
  rfl

theorem twoPackets_notQuiet {s : SenderState} {node : SendNode} {i : Nat}
    (hidle : s.world.transfer.mmDataTransWaiting = false)
    (hphase : s.phase = .waiting node i)
    (hcount : node.header.sendRepeat + UInt8.ofNat (i + 1) ≥ 3) :
    ¬ QuietWhenIdle adasTcp ((threads adasTcp).final s
      [.frame (mediaRequest twoPackets 7), .timeout]).world := by
  let s' := ((threads adasTcp).step s
    (.frame (mediaRequest twoPackets 7))).1
  have htransfer : s'.world.transfer = ⟨0, 7, 2, 1, true⟩ :=
    twoPackets_transfer hidle
  have hgives : GivesUp s' .timeout node := ⟨rfl, i, hphase, hcount⟩
  rw [quiet_iff_atRest]
  change ¬ AtRest ((threads adasTcp).step s' .timeout).1.world.transfer
  rw [threads_givesUp adasTcp hgives, htransfer]
  intro hrest
  exact absurd (hrest rfl) (by decide)

/-- After the third timeout of a warning report in the middle of a transfer,
an acknowledgement has the next packet sent. -/
theorem latePacket_sent :
    ¬ ∀ events, (threads adasTcp).Always
      (fun s => QuietWhenIdle adasTcp s.world) (freshThreads adasTcp)
      events := by
  intro h
  have hphase : ((threads adasTcp).final (freshThreads adasTcp)
      alertGivenUp).phase = .waiting (sentNode adasTcp (freshWorld adasTcp)
        sampleCmdWarningReport []) 2 := by decide +kernel
  have hquiet := h (alertGivenUp ++
    [.frame (mediaRequest twoPackets 7), .timeout]) _ []
    (List.append_nil _).symm
  rw [Mealy.final_append] at hquiet
  exact twoPackets_notQuiet (by decide +kernel) hphase (by decide) hquiet

end SanbaoProt
