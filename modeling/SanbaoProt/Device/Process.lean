import SanbaoProt.Device.Footprint
import SanbaoProt.Framing.Parse

/-!
# The receive process

The receive loop with the command handlers of the device.  Only one command
ends the process, so the frames of a stream are all handled unless one of them
is that command.
-/

namespace SanbaoProt

open Library

structure Process where
  world : World
  envs : Nat → Env

def sampleHandler (target : Target) : Handler Process where
  onCmd p msg len :=
    let handled := sampleOnCmd target (p.envs 0) p.world msg len
    (⟨handled.world, fun n => p.envs (n + 1)⟩, handled.buffer)
  exited p := !p.world.running

def stopsDevice (target : Target) (f : Frame) : Bool :=
  (f.deviceId == target.build.deviceId || f.deviceId == sampleDeviceIdBrdcst)
    && f.cmd == sampleCmdUpgrade && f.payload.head? == some upgradeCmdRun

theorem recvUpgradeFile_running (target : Target) (env : Env)
    (msg : Mem UInt8) (len : Nat) (w : World) :
    (recvUpgradeFile target env msg len w).1.running =
      (w.running && msg payloadOffset != upgradeCmdRun) := by
  have htrans : (recvUpgradeTrans target env msg len w).1.running =
      w.running := by
    unfold recvUpgradeTrans
    simp only
    split_ifs <;> simp [upgradeReply, upgradeFileCmd, sentWorld]
  unfold recvUpgradeFile
  simp only
  split_ifs with hrun hclean hstart htransfer
  · simp [hrun]
  · simp [hrun, sentWorld]
  · simp [hrun, sentWorld]
  · simp [hrun, htrans]
  · simp [hrun]

theorem handleCmd_running (target : Target) (env : Env) (w : World)
    (msg : Mem UInt8) (len : Nat) :
    (handleCmd target env w msg len).world.running =
      (w.running && !(headerCmd msg == sampleCmdUpgrade &&
        msg payloadOffset == upgradeCmdRun)) := by
  by_cases hupgrade : headerCmd msg = sampleCmdUpgrade
  · rw [handleCmd_upgrade target env w len hupgrade]
    simp [Handled.andThen, recvUpgradeFile_running, hupgrade, bne]
  · have hother : SampleCmd.ofCode (headerCmd msg) ≠ some .upgrade :=
      fun h => hupgrade (SampleCmd.code_of_ofCode h)
    have hkeep := (handleCmd_coreStep target env w msg len).running hother
    rw [Handled.result_fst] at hkeep
    simp [hkeep, hupgrade]

theorem sampleOnCmd_running (target : Target) (env : Env) (w : World)
    {msg : Mem UInt8} {f : Frame} (h : InBuffer f msg) (len : Nat) :
    (sampleOnCmd target env w msg len).world.running =
      (w.running && !stopsDevice target f) := by
  obtain ⟨-, hdevice, hcmd⟩ := h.header
  have hfirst : (msg payloadOffset == upgradeCmdRun) =
      (f.payload.head? == some upgradeCmdRun) := by
    rw [Bool.eq_iff_iff, beq_iff_eq, beq_iff_eq]
    exact h.first (by decide)
  unfold sampleOnCmd stopsDevice
  split_ifs with hfor
  · rw [isForDevice, hdevice] at hfor
    rw [handleCmd_running, hcmd, hfirst]
    rcases hfor with hown | hbroadcast
    · simp [hown]
    · simp [hbroadcast]
  · rw [isForDevice, hdevice, not_or] at hfor
    simp [hfor.1, hfor.2]

theorem sampleHandler_exited (target : Target) (p : Process)
    (msg : Mem UInt8) (f : WellFormedFrame)
    (hrunning : (sampleHandler target).exited p = false)
    (h : msg.read 0 f.bytes.length = f.bytes) :
    (sampleHandler target).exited
        ((sampleHandler target).onCmd p msg f.bytes.length).1 =
      stopsDevice target f.toFrame := by
  have hafter := sampleOnCmd_running target (p.envs 0) p.world h
    f.bytes.length
  have hworld : p.world.running = true := by
    simpa [sampleHandler] using hrunning
  simp only [sampleHandler, hafter, hworld, Bool.true_and, Bool.not_not]

/-! ## Runs of the receive loop -/

def startState (rcvData : Mem UInt8) (p : Process) : ParseState Process :=
  ⟨clearFrameFlag, rcvData, p⟩

/-- The bytes of the reads that the receive loop gets to see. -/
def receivedBytes (target : Target) (rcvData : Mem UInt8) (p : Process)
    (reads : List (List UInt8)) : List UInt8 :=
  received (sampleHandler target) (startState rcvData p) reads.flatten

/-- However the stream is cut, the handler is called on the frames of the
stream, in order, up to the first that ends the process. -/
theorem parse_frames (target : Target) (rcvData : Mem UInt8) (p : Process)
    (hrunning : p.world.running = true) (lead : List UInt8)
    (hlead : sampleProtMagic ∉ lead) (framed : List Framed)
    (reads : List (List UInt8))
    (hreads : reads.flatten = lead ++ streamOf framed) :
    let run := (protParse (sampleHandler target)).runPieces
      (startState rcvData p) reads
    calls run.2 =
        (throughFirst (fun f => stopsDevice target f.toFrame) framed).map
          (fun f => f.bytes) ∧
      run.1.flags = clearFrameFlag := by
  intro run
  have hexited : (sampleHandler target).exited p = false := by
    simp [sampleHandler, hrunning]
  have hrun : run = _ := (protParse (sampleHandler target)).runPieces_eq
    (startState rcvData p) reads
  obtain ⟨hflags, hworld, hsilent⟩ := protParse_filler (sampleHandler target)
    (s := startState rcvData p) hexited rfl hlead
  obtain ⟨hcalls, hidle⟩ := protParse_streamOf (sampleHandler target)
    (sampleHandler_exited target)
    (s := (protParse (sampleHandler target)).final (startState rcvData p)
      lead)
    (by rw [hworld]; exact hexited) hflags framed
  rw [hrun, hreads, Mealy.outputs_append, Mealy.final_append, calls_append,
    hsilent, hcalls]
  exact ⟨rfl, hidle⟩

def freshProcess : Process := ⟨World.zero, fun _ => Env.plain⟩

def runThenQuery : List Framed :=
  [{ serialNum := 1, vendorId := vendorId, deviceId := sampleDeviceIdAdas
     cmd := sampleCmdUpgrade, payload := [upgradeCmdRun], fits := by decide
     filler := [0x20], clean := by decide },
   { serialNum := 2, vendorId := vendorId, deviceId := sampleDeviceIdAdas
     cmd := sampleCmdQuery, payload := [], fits := by decide
     filler := [], clean := by decide }]

theorem parse_frames_runThenQuery :
    let stream := [0x0D] ++ streamOf runThenQuery
    let run := (protParse (sampleHandler adasTcp)).runPieces
      (startState (fun _ => 0) freshProcess) [stream.take 3, stream.drop 3]
    calls run.2 =
        (throughFirst (fun f => stopsDevice adasTcp f.toFrame)
          runThenQuery).map (fun f => f.bytes) ∧
      run.1.flags = clearFrameFlag :=
  parse_frames adasTcp (fun _ => 0) freshProcess rfl [0x0D] (by decide)
    runThenQuery _ (by simp)

theorem parse_loses_query :
    calls ((protParse (sampleHandler adasTcp)).runPieces
      (startState (fun _ => 0) freshProcess) [streamOf runThenQuery]).2 ≠
      runThenQuery.map fun f => f.bytes := by
  decide +kernel

/-- The cells of `rcvData` that are set lie inside the buffer exactly when no
frame of the stream, unescaped and delimiters included, is longer than it. -/
theorem parse_stores_within_iff (target : Target) (rcvData : Mem UInt8)
    (p : Process) (reads : List (List UInt8)) :
    (∀ i ∈ parseIndices ((protParse (sampleHandler target)).runPieces
        (startState rcvData p) reads).2, i < dataBufSize) ↔
      ∀ size ∈ frameSizes (receivedBytes target rcvData p reads),
        size ≤ dataBufSize := by
  rw [Mealy.runPieces_eq]
  exact protParse_stores_iff (sampleHandler target) (by decide) (by decide)
    rcvData p reads.flatten

theorem parse_stores_outside :
    ¬ ∀ i ∈ parseIndices ((protParse (sampleHandler adasTcp)).runPieces
        (startState (fun _ => 0) freshProcess)
        [[sampleProtMagic], List.replicate dataBufSize 0]).2,
      i < dataBufSize := by
  have hexited : (sampleHandler adasTcp).exited freshProcess = false := rfl
  have hmagic : sampleProtMagic ∉ List.replicate dataBufSize (0 : UInt8) := by
    simp [List.mem_replicate, sampleProtMagic]
  have hesc : sampleProtEscChar ∉ List.replicate dataBufSize (0 : UInt8) := by
    simp [List.mem_replicate, sampleProtEscChar]
  obtain ⟨hreceived, hsizes⟩ := openFrame_received (sampleHandler adasTcp)
    (s := startState (fun _ => 0) freshProcess) hexited rfl hmagic hesc
    (by rw [List.length_replicate]; decide)
  have hstream : [[sampleProtMagic],
      List.replicate dataBufSize (0 : UInt8)].flatten =
      sampleProtMagic :: List.replicate dataBufSize 0 := by
    rw [List.flatten_cons, List.flatten_cons, List.flatten_nil,
      List.append_nil, List.singleton_append]
  intro hbelow
  rw [Mealy.runPieces_eq, hstream] at hbelow
  have hfits := (protParse_stores_iff (sampleHandler adasTcp) (by decide)
    (by decide) (fun _ => 0) freshProcess _).mp hbelow
  have hlong : dataBufSize + 1 ≤ dataBufSize := by
    apply hfits
    change _ ∈ frameSizes (received _ (startState _ _) _)
    rw [hreceived, hsizes, List.length_replicate]
    exact List.mem_singleton_self _
  omega

end SanbaoProt
