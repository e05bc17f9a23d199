import SanbaoProt.Device.FrameOnly
import SanbaoProt.Device.Process
import SanbaoProt.Framing.Frames

/-!
# The device on a byte stream

The laws of the device are about the frames that it receives.  The process
receives bytes, in reads of any size, into a buffer that is never cleared.
`process_refines_device` says that it does to them what the device does to the
frames that the receiver takes from the stream, and `process_frameOnly` that
nothing else matters when the frames are as long as their handlers take them
to be.
-/

namespace SanbaoProt

open Library

/-- The process and what it has done. -/
structure Recorded where
  process : Process
  effects : List Effect

def recordingHandler (target : Target) : Handler Recorded where
  onCmd p msg len :=
    let handled := (sampleHandler target).onCmd p.process msg len
    let done := sampleOnCmd target (p.process.envs 0) p.process.world msg len
    (⟨handled.1, p.effects ++ done.effects⟩, handled.2)
  exited p := (sampleHandler target).exited p.process

/-- The receive loop of a process that has done nothing yet. -/
def receiveLoop (target : Target) (rcvData : Mem UInt8) (p : Process)
    (reads : List (List UInt8)) : Recorded :=
  ((protParse (recordingHandler target)).runPieces
    ⟨clearFrameFlag, rcvData, ⟨p, []⟩⟩ reads).1.world

/-! ## The device until it ends -/

def runningDevice (target : Target) : Mealy World Received Effect where
  step w r := if w.running then (device target).step w r else (w, [])

theorem runningDevice_ended (target : Target) {w : World}
    (h : w.running = false) (frames : List Received) :
    (runningDevice target).final w frames = w ∧
      (runningDevice target).outputs w frames = [] := by
  have hstep : ∀ r, (runningDevice target).step w r = (w, []) := by
    intro r
    simp [runningDevice, h]
  induction frames with
  | nil => exact ⟨rfl, rfl⟩
  | cons r frames ih =>
      rw [Mealy.final_of_step (hstep r), Mealy.outputs_of_step (hstep r)]
      exact ih

def receivedAs (envs : Nat → Env) : List Delivery → List Received
  | [] => []
  | d :: frames =>
      ⟨d.msg, d.len, envs 0⟩ :: receivedAs (fun n => envs (n + 1)) frames

theorem handleAll_recorded (target : Target) (p : Recorded)
    (frames : List Delivery) :
    let received := receivedAs p.process.envs frames
    let after := (recordingHandler target).handleAll p frames
    after.process.world =
        (runningDevice target).final p.process.world received ∧
      after.effects = p.effects ++
        (runningDevice target).outputs p.process.world received := by
  induction frames generalizing p with
  | nil => simp [Handler.handleAll, receivedAs]
  | cons d frames ih =>
      intro received after
      cases hrunning : p.process.world.running with
      | false =>
          have hexited : (recordingHandler target).exited p = true := by
            simp [recordingHandler, sampleHandler, hrunning]
          obtain ⟨hfinal, houtputs⟩ :=
            runningDevice_ended target hrunning received
          have hafter : after = p :=
            Handler.handleAll_exited _ hexited (d :: frames)
          rw [hafter, hfinal, houtputs, List.append_nil]
          exact ⟨rfl, rfl⟩
      | true =>
          have hexited : (recordingHandler target).exited p = false := by
            simp [recordingHandler, sampleHandler, hrunning]
          have hhandle : (recordingHandler target).handle p d =
              ((recordingHandler target).onCmd p d.msg d.len).1 :=
            if_neg (by rw [hexited]; decide)
          let r : Received := ⟨d.msg, d.len, p.process.envs 0⟩
          let rest := receivedAs (fun n => p.process.envs (n + 1)) frames
          have hreceived : received = r :: rest := rfl
          have hstep : (runningDevice target).step p.process.world r =
              (device target).step p.process.world r := by
            simp [runningDevice, hrunning]
          have hafter : after = (recordingHandler target).handleAll
              ((recordingHandler target).onCmd p d.msg d.len).1 frames := by
            rw [← hhandle]
            rfl
          obtain ⟨hworld, heffects⟩ :=
            ih ((recordingHandler target).onCmd p d.msg d.len).1
          rw [hafter]
          constructor
          · rw [hworld, hreceived, Mealy.final_of_step hstep]
            rfl
          · rw [heffects, hreceived, Mealy.outputs_of_step hstep,
              ← List.append_assoc]
            rfl

/-! ## Bytes and frames -/

theorem receiveLoop_frames (target : Target) (rcvData : Mem UInt8)
    (p : Process) (reads : List (List UInt8)) :
    ∃ frames : List Delivery,
      frames.map Delivery.bytes = checkedFrames .idle reads.flatten ∧
        receiveLoop target rcvData p reads =
          (recordingHandler target).handleAll ⟨p, []⟩ frames := by
  have htracks : Tracks (ω := Recorded)
      ⟨clearFrameFlag, rcvData, ⟨p, []⟩⟩ .idle := rfl
  obtain ⟨frames, hframes, hworld⟩ := protParse_frames
    (recordingHandler target) htracks reads.flatten
  refine ⟨frames, hframes, ?_⟩
  rw [receiveLoop, Mealy.runPieces_eq, hworld]

/-- Whatever bytes arrive, in whatever reads and behind whatever the buffer
held, the process does what the device does on the frames of the stream. -/
theorem process_refines_device (target : Target) (rcvData : Mem UInt8)
    (p : Process) (reads : List (List UInt8)) :
    ∃ frames : List Delivery,
      frames.map Delivery.bytes = checkedFrames .idle reads.flatten ∧
        (receiveLoop target rcvData p reads).process.world =
          (runningDevice target).final p.world (receivedAs p.envs frames) ∧
        (receiveLoop target rcvData p reads).effects =
          (runningDevice target).outputs p.world
            (receivedAs p.envs frames) := by
  obtain ⟨frames, hframes, hloop⟩ :=
    receiveLoop_frames target rcvData p reads
  obtain ⟨hworld, heffects⟩ := handleAll_recorded target ⟨p, []⟩ frames
  refine ⟨frames, hframes, ?_, ?_⟩
  · rw [hloop, hworld]
  · rw [hloop, heffects, List.nil_append]

/-! ## Nothing but the frames -/

/-- A transferred upgrade packet without its head or sum, or an acknowledgement
of a media packet without its last byte. -/
def TooShort (frame : List UInt8) : Prop :=
  let msg := Mem.ofList frame
  headerCmd msg = sampleCmdUpgrade ∧ msg payloadOffset = upgradeCmdTrans ∧
      (frame.length < payloadOffset + 5 ∨
        frame.length < payloadOffset + 9 ∧ upgradePacketIndex msg = 0) ∨
    headerCmd msg = sampleCmdUploadMmData ∧ frame.length < payloadOffset + 10

instance (frame : List UInt8) : Decidable (TooShort frame) :=
  inferInstanceAs (Decidable (_ ∨ _))

/-- A frame that is closed before its payload begins has no command. -/
theorem sampleOnCmd_headless {target : Target} {w : World} {env : Env}
    {msg : Mem UInt8} (len : Nat) (h : msg 7 = sampleProtMagic) :
    (sampleOnCmd target env w msg len).result =
      if isForDevice target msg then
        ({ w with send := recordRecvNum (headerSerialNum msg) w.send }, [])
      else (w, []) := by
  have hnone : SampleCmd.ofCode (headerCmd msg) = none := by
    rw [headerCmd, h]
    decide
  unfold sampleOnCmd
  split_ifs
  · rw [handleCmd, hnone]
    rfl
  · rfl

theorem not_isForDevice {target : Target} {msg : Mem UInt8}
    (h : msg 6 = sampleProtMagic) : ¬ isForDevice target msg := by
  unfold isForDevice headerDeviceId
  rw [h]
  cases target.build <;> decide

/-- A frame that is long enough for its handler is all that the handler
reads. -/
theorem sampleOnCmd_bytes {frame : List UInt8} (hclosed : Closed frame)
    (hfull : ¬ TooShort frame) {msg : Mem UInt8}
    (h : msg.read 0 frame.length = frame) (target : Target) (env : Env)
    (w : World) :
    (sampleOnCmd target env w msg frame.length).result =
      (sampleOnCmd target env w (Mem.ofList frame) frame.length).result := by
  have hagree : Mem.AgreeBelow frame.length (Mem.ofList frame) msg :=
    Mem.agreeBelow_of_read (Mem.read_ofList frame) h
  have hlong := hclosed.long
  have hdevice : isForDevice target msg ↔
      isForDevice target (Mem.ofList frame) := by
    rw [isForDevice, isForDevice, headerDeviceId, headerDeviceId,
      hagree 6 (by omega)]
  have hserial : headerSerialNum msg = headerSerialNum (Mem.ofList frame) := by
    rw [headerSerialNum, headerSerialNum, hagree.read (by omega)]
  have hlast : ∀ i, frame.length = i + 1 →
      Mem.ofList frame i = sampleProtMagic := by
    intro i hi
    have hget := hclosed.last
    rw [List.getLast?_eq_getElem?, hi, Nat.add_sub_cancel] at hget
    simp [Mem.ofList, List.getD, hget]
  by_cases hfor : isForDevice target (Mem.ofList frame)
  · have hmore : frame.length ≠ 7 := by
      intro hseven
      exact not_isForDevice (hlast 6 hseven) hfor
    by_cases height : frame.length = 8
    · have hmagic := hlast 7 height
      have hmagic' : msg 7 = sampleProtMagic :=
        (hagree 7 (by omega)).symm.trans hmagic
      rw [sampleOnCmd_headless _ hmagic, sampleOnCmd_headless _ hmagic',
        if_pos hfor, if_pos (hdevice.mpr hfor), hserial]
    · have hn : emptyFrameLen ≤ frame.length := by
        simp only [emptyFrameLen, headerSize]
        omega
      rw [sampleOnCmd, sampleOnCmd, if_pos hfor, if_pos (hdevice.mpr hfor),
        hserial]
      symm
      apply handleCmd_congr hagree hn
      · intro hcmd
        apply recvUpgradeFile_congr hagree hn
        intro htrans
        constructor
        · by_contra hshort
          exact hfull (.inl ⟨hcmd, htrans, .inl (by omega)⟩)
        · intro hzero
          by_contra hshort
          exact hfull (.inl ⟨hcmd, htrans, .inr ⟨by omega, hzero⟩⟩)
      · intro hcmd
        apply recvAckAndSendImage_congr hagree
        by_contra hshort
        exact hfull (.inr ⟨hcmd, by omega⟩)
  · rw [sampleOnCmd, sampleOnCmd, if_neg hfor, if_neg (mt hdevice.mp hfor)]
    rfl

theorem runningDevice_bytes (target : Target) (w : World)
    (envs : Nat → Env) {frames : List Delivery}
    (hclosed : ∀ frame ∈ frames.map Delivery.bytes, Closed frame)
    (hfull : ∀ frame ∈ frames.map Delivery.bytes, ¬ TooShort frame) :
    let bare := (frames.map Delivery.bytes).map Delivery.ofBytes
    (runningDevice target).run w (receivedAs envs frames) =
      (runningDevice target).run w (receivedAs envs bare) := by
  induction frames generalizing w envs with
  | nil => rfl
  | cons d frames ih =>
      have hlength : d.bytes.length = d.len := Mem.length_read d.msg 0 d.len
      have hread : d.msg.read 0 d.bytes.length = d.bytes := by
        rw [hlength, Delivery.bytes]
      have hresult := sampleOnCmd_bytes (hclosed _ List.mem_cons_self)
        (hfull _ List.mem_cons_self) hread target (envs 0) w
      rw [hlength] at hresult
      have hstep : (runningDevice target).step w ⟨d.msg, d.len, envs 0⟩ =
          (runningDevice target).step w
            ⟨Mem.ofList d.bytes, d.bytes.length, envs 0⟩ := by
        simp only [runningDevice, device, hlength, hresult]
      have hrest := ih ((runningDevice target).step w
          ⟨Mem.ofList d.bytes, d.bytes.length, envs 0⟩).1
        (fun n => envs (n + 1))
        (fun frame hframe => hclosed frame (List.mem_cons_of_mem _ hframe))
        (fun frame hframe => hfull frame (List.mem_cons_of_mem _ hframe))
      simp only [receivedAs, List.map_cons, Mealy.run, hstep]
      simp only at hrest
      rw [hrest]
      rfl

/-- Neither the reads nor what the buffer held matter to a host that sends no
frame which is too short for its handler. -/
theorem process_frameOnly (target : Target) (rcvData : Mem UInt8)
    (p : Process) (reads : List (List UInt8))
    (hfull : ∀ frame ∈ checkedFrames .idle reads.flatten,
      ¬ TooShort frame) :
    let frames := (checkedFrames .idle reads.flatten).map Delivery.ofBytes
    (receiveLoop target rcvData p reads).process.world =
        (runningDevice target).final p.world (receivedAs p.envs frames) ∧
      (receiveLoop target rcvData p reads).effects =
        (runningDevice target).outputs p.world (receivedAs p.envs frames) := by
  obtain ⟨frames, hframes, hloop⟩ :=
    receiveLoop_frames target rcvData p reads
  obtain ⟨hworld, heffects⟩ := handleAll_recorded target ⟨p, []⟩ frames
  have hclosed : ∀ frame ∈ frames.map Delivery.bytes, Closed frame := by
    rw [hframes]
    exact checkedFrames_closed _ _
  have hlong : ∀ frame ∈ frames.map Delivery.bytes, ¬ TooShort frame := by
    rw [hframes]
    exact hfull
  have hbytes := runningDevice_bytes target p.world p.envs hclosed hlong
  rw [hframes] at hbytes
  constructor
  · rw [hloop, hworld]
    exact congrArg Prod.fst hbytes
  · rw [hloop, heffects, List.nil_append]
    exact congrArg Prod.snd hbytes

/-- Two commands in three reads, the second of which ends the process. -/
theorem process_frameOnly_queryThenRun :
    let stream := streamOf runThenQuery.reverse
    let reads := [stream.take 4, (stream.drop 4).take 12, stream.drop 16]
    let loop := receiveLoop adasTcp (fun i => UInt8.ofNat i) freshProcess reads
    loop.effects = (runningDevice adasTcp).outputs freshProcess.world
        (receivedAs freshProcess.envs
          (runThenQuery.reverse.map fun f => .ofBytes f.bytes)) ∧
      loop.process.world.running = false := by
  intro stream reads loop
  have hframes : checkedFrames .idle reads.flatten =
      runThenQuery.reverse.map fun f => f.bytes := by
    decide +kernel
  have hfull : ∀ frame ∈ checkedFrames .idle reads.flatten,
      ¬ TooShort frame := by
    rw [hframes]
    decide +kernel
  obtain ⟨hworld, heffects⟩ := process_frameOnly adasTcp
    (fun i => UInt8.ofNat i) freshProcess reads hfull
  constructor
  · rw [hframes, List.map_map] at heffects
    exact heffects
  · rw [hframes] at hworld
    rw [hworld]
    decide +kernel

end SanbaoProt
