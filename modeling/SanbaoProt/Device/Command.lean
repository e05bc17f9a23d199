import SanbaoProt.Device.Report
import SanbaoProt.Device.Send

/-!
# The command handlers

`sampleOnCmd` and the functions that it dispatches to.  The frame is read from
the receive buffer and three of the replies are built in that same buffer, so a
handler takes and returns the buffer along with the world.
-/

namespace SanbaoProt

open Library

/-- The result of a handler that may build its reply in the receive buffer. -/
structure Handled where
  world : World
  buffer : Mem UInt8
  effects : List Effect

namespace Handled

def result (h : Handled) : World × List Effect := (h.world, h.effects)

@[simp] theorem result_fst (h : Handled) : h.result.1 = h.world := rfl

@[simp] theorem result_snd (h : Handled) : h.result.2 = h.effects := rfl

def andThen (h : Handled) (a : Act) : Handled :=
  { h with
    world := (a h.world).1
    effects := h.effects ++ (a h.world).2 }

end Handled

/-! ## The header of a received frame -/

def headerSerialNum (msg : Mem UInt8) : UInt16 :=
  UInt16.ofNat (ofBE (msg.read 2 2))

def headerDeviceId (msg : Mem UInt8) : UInt8 := msg 6

def headerCmd (msg : Mem UInt8) : UInt8 := msg 7

def payloadOffset : Nat := 8

def emptyFrameLen : Nat := headerSize + 1

def InBuffer (f : Frame) (msg : Mem UInt8) : Prop :=
  msg.read 0 f.bytes.length = f.bytes

theorem InBuffer.header {f : Frame} {msg : Mem UInt8} (h : InBuffer f msg) :
    headerSerialNum msg = f.serialNum ∧ headerDeviceId msg = f.deviceId ∧
      headerCmd msg = f.cmd := by
  have hsplit : f.bytes = [sampleProtMagic, f.checksum] ++
      (toBE 2 f.serialNum.toNat ++ (toBE 2 f.vendorId.toNat ++
        [f.deviceId, f.cmd] ++ (f.payload ++ [sampleProtMagic]))) := by
    simp [Frame.bytes, Frame.middle, Frame.summed]
  have hserial : msg.read 2 2 = toBE 2 f.serialNum.toNat := by
    have hread := h
    rw [InBuffer, hsplit] at hread
    have := Mem.read_prefix (Mem.read_suffix hread)
    simpa using this
  refine ⟨?_, ?_, ?_⟩
  · rw [headerSerialNum, hserial, ofBE_toBE f.serialNum.toNat_lt]
    simp
  · have := Mem.apply_of_read h 6 (by simp)
    simpa [headerDeviceId, hsplit, toBE_two] using this
  · have := Mem.apply_of_read h 7 (by simp)
    simpa [headerCmd, hsplit, toBE_two] using this

theorem InBuffer.payload {f : Frame} {msg : Mem UInt8} (h : InBuffer f msg) :
    msg.read payloadOffset (f.payload.length + 1) =
      f.payload ++ [sampleProtMagic] := by
  have hsplit : f.bytes = (sampleProtMagic :: f.checksum ::
      (toBE 2 f.serialNum.toNat ++ toBE 2 f.vendorId.toNat ++
        [f.deviceId, f.cmd])) ++ (f.payload ++ [sampleProtMagic]) := by
    simp [Frame.bytes, Frame.middle, Frame.summed]
  have hread := h
  rw [InBuffer, hsplit] at hread
  have := Mem.read_suffix hread
  simpa [payloadOffset] using this

theorem InBuffer.first {f : Frame} {msg : Mem UInt8} (h : InBuffer f msg)
    {b : UInt8} (hb : b ≠ sampleProtMagic) :
    msg payloadOffset = b ↔ f.payload.head? = some b := by
  have hread := h.payload
  rw [Mem.read_succ] at hread
  cases hpayload : f.payload with
  | nil =>
      rw [hpayload] at hread
      rw [(List.cons.inj hread).1]
      exact iff_of_false hb.symm (by simp)
  | cons first rest =>
      rw [hpayload] at hread
      rw [(List.cons.inj hread).1]
      simp

theorem InBuffer.agree {f : Frame} {msg msg' : Mem UInt8}
    (h : InBuffer f msg) (h' : InBuffer f msg') :
    Mem.AgreeBelow f.bytes.length msg msg' :=
  Mem.agreeBelow_of_read h h'

theorem InBuffer.read {f : Frame} {msg : Mem UInt8} (h : InBuffer f msg)
    {off size : Nat} (hin : off + size ≤ f.bytes.length) :
    msg.read off size = (f.bytes.drop off).take size := by
  rw [Mem.read_eq_iff]
  refine ⟨by rw [List.length_take, List.length_drop]; omega, ?_⟩
  intro i hi
  rw [List.length_take, List.length_drop] at hi
  have hcell := Mem.apply_of_read h (off + i) (by omega)
  rw [Nat.zero_add] at hcell
  rw [hcell, List.getElem_take, List.getElem_drop]

theorem inBuffer_copy (f : Frame) (m : Mem UInt8) :
    InBuffer f (m.copy 0 f.bytes) :=
  Mem.read_copy m 0 f.bytes

/-! ## Acknowledgements -/

def noticeAckMsg : Act := fun w => ({ w with recvAck := true }, [.noticeAck])

def recvWarningAck (len : Nat) : Act :=
  if len = emptyFrameLen then noticeAckMsg else .skip

def recvUploadStatusCmdAck (len : Nat) : Act :=
  if len = emptyFrameLen then noticeAckMsg else .skip

/-! ## Media transfer -/

/-- The value of a C `int` that is given `n`. -/
def cInt (n : Int) : Int := n.bmod (2 ^ 32)

theorem cInt_of_range {n : Int} (hlow : -2 ^ 31 ≤ n) (hhigh : n < 2 ^ 31) :
    cInt n = n := by
  rw [cInt, Int.bmod_def]
  split_ifs <;> omega

def getFileSize (file : Option (List UInt8)) : Int :=
  match file with
  | none => -1
  | some content => cInt content.length

def packetTotalNum (filesize : Int) : UInt16 :=
  UInt16.ofInt ((cInt (filesize + imageSizePerPacket - 1)).tdiv
    imageSizePerPacket)

/-- What `fseek` and `fread` give of a packet; a negative offset is refused
and leaves the position at the start. -/
def readPacket (content : List UInt8) (packetIndex : UInt16) : List UInt8 :=
  let offset := cInt (packetIndex.toNat * imageSizePerPacket)
  (content.drop offset.toNat).take imageSizePerPacket

def mmPacketHeader (t : Transfer) : List UInt8 :=
  t.type :: (toBE 4 t.id.toNat ++ toBE 2 t.packetTotalNum.toNat ++
    toBE 2 t.packetIndex.toNat)

def sampleSendImage (target : Target) (env : Env) : Act := fun w =>
  match env.media w.transfer.id with
  | none => (w, [])
  | some content =>
      let data := readPacket content w.transfer.packetIndex
      if env.allocated = true ∧ data ≠ [] then
        ((sendMessage target sampleCmdUploadMmData
          (mmPacketHeader w.transfer ++ data)).andThen (.modify fun w' =>
            { w' with
              transfer :=
                { w'.transfer with
                  packetIndex := w'.transfer.packetIndex + 1 } })) w
      else (w, [])

def mmHeaderSize : Nat := 5

def requestedId (msg : Mem UInt8) : UInt32 :=
  UInt32.ofNat (ofBE (msg.read (payloadOffset + 1) 4))

def startedTransfer (msg : Mem UInt8) (filesize : Int) : Transfer where
  type := msg payloadOffset
  id := requestedId msg
  packetTotalNum := packetTotalNum filesize
  packetIndex := 0
  mmDataTransWaiting := true

def sendMmReqAck (target : Target) (env : Env) (w : World)
    (msg : Mem UInt8) (len : Nat) : Handled :=
  if w.transfer.mmDataTransWaiting = true ∨
      len ≠ mmHeaderSize + headerSize + 1 then ⟨w, msg, []⟩
  else
    let filesize := getFileSize (env.media (requestedId msg))
    if 0 < filesize then
      let ack := messageQueueSend target w msg sampleCmdReqMmData []
      Handled.andThen
        ⟨{ ack.world with transfer := startedTransfer msg filesize },
          ack.buffer, ack.effects⟩
        (sampleSendImage target env)
    else ⟨w, msg, []⟩

def ackPacketIndex (msg : Mem UInt8) : Nat :=
  ofBE (msg.read (payloadOffset + 7) 2)

def ackByte (msg : Mem UInt8) : UInt8 := msg (payloadOffset + 9)

def recvAckAndSendImage (target : Target) (env : Env) (msg : Mem UInt8) :
    Act := fun w =>
  if ackByte msg ≠ 0 then (w, [])
  else if w.transfer.packetIndex.toNat ≠ ackPacketIndex msg + 1 then (w, [])
  else if w.transfer.packetTotalNum = w.transfer.packetIndex then
    (noticeAckMsg.andThen fun w' =>
      ({ w' with
          transfer := { w'.transfer with mmDataTransWaiting := false } },
        [.transmitOver w'.transfer.id])) w
  else (noticeAckMsg.andThen (sampleSendImage target env)) w

/-- An acknowledgement with another ack byte or index is dropped. -/
theorem recvAckAndSendImage_idle {target : Target} {env : Env} {w : World}
    {msg : Mem UInt8}
    (h : ¬ (ackByte msg = 0 ∧
      w.transfer.packetIndex.toNat = ackPacketIndex msg + 1)) :
    recvAckAndSendImage target env msg w = (w, []) := by
  unfold recvAckAndSendImage
  split_ifs with hnegative hindex
  · rfl
  · rfl
  · exact absurd ⟨not_not.mp hnegative, not_not.mp hindex⟩ h
  · exact absurd ⟨not_not.mp hnegative, not_not.mp hindex⟩ h

/-! ## Upgrade -/

def upgradeCmdStart : UInt8 := 0x1
def upgradeCmdClean : UInt8 := 0x2
def upgradeCmdTrans : UInt8 := 0x3
def upgradeCmdRun : UInt8 := 0x4

/-- `lseek` and `write`: a gap before the data reads as zeros. -/
def writeAt (file : Option (List UInt8)) (offset : Nat) (data : List UInt8) :
    List UInt8 :=
  let content := file.getD []
  if data = [] then content
  else
    content.take offset ++ List.replicate (offset - content.length) 0 ++
      data ++ content.drop (offset + data.length)

def upgradeReply (target : Target) (msg : Mem UInt8) (result : UInt8) : Act :=
  sendMessage target sampleCmdUpgrade (msg.read payloadOffset 5 ++ [result])

def upgradePacketNum (msg : Mem UInt8) : Nat :=
  ofBE (msg.read (payloadOffset + 1) 2)

def upgradePacketIndex (msg : Mem UInt8) : Nat :=
  ofBE (msg.read (payloadOffset + 3) 2)

def upgradeData (msg : Mem UInt8) (len : Nat) : List UInt8 :=
  msg.read (payloadOffset + 5) (len - (headerSize + 1 + 5))

def writeUpgradeData (env : Env) (u : Upgrade) (data : List UInt8) : Upgrade :=
  let written := data.take env.upgradeWritten
  let opened : Upgrade :=
    if env.upgradeOpened = true then
      { u with
        file := some (writeAt u.file u.offset.toNat written)
        offset := u.offset + UInt32.ofNat written.length }
    else u
  { opened with sumNew := u.sumNew + byteSum data }

def upgradeFileCmd : Act := fun w =>
  ({ w with upgrade := { w.upgrade with file := none } },
    [.upgrade w.upgrade.file])

def recvUpgradeTrans (target : Target) (env : Env) (msg : Mem UInt8)
    (len : Nat) : Act := fun w =>
  if upgradePacketIndex msg = 0 then
    ((Act.modify fun w' =>
      { w' with
        upgrade :=
          { w'.upgrade with
            file := none
            sum := UInt32.ofNat (ofBE (msg.read (payloadOffset + 5) 4)) } })
      |>.andThen (upgradeReply target msg 0)) w
  else
    let u := writeUpgradeData env w.upgrade (upgradeData msg len)
    let received := { w with upgrade := u }
    if upgradePacketIndex msg + 1 = upgradePacketNum msg then
      if u.sumNew = u.sum then
        (upgradeFileCmd.andThen (upgradeReply target msg 0)) received
      else upgradeReply target msg 1 received
    else upgradeReply target msg 0 received

def recvUpgradeFile (target : Target) (env : Env) (msg : Mem UInt8)
    (len : Nat) : Act :=
  let messageId := msg payloadOffset
  if messageId = upgradeCmdRun then
    (sendMessage target sampleCmdUpgrade [messageId, 0]).andThen fun w =>
      ({ w with running := false }, [.exit])
  else if messageId = upgradeCmdClean then
    Act.andThen
      (fun w =>
        ({ w with upgrade := { w.upgrade with file := none } },
          [.cleanUpgradeBin]))
      (sendMessage target sampleCmdUpgrade [messageId, 0])
  else if messageId = upgradeCmdStart then
    sendMessage target sampleCmdUpgrade [messageId, 0]
  else if messageId = upgradeCmdTrans then
    recvUpgradeTrans target env msg len
  else .skip

/-! ## Parameters -/

def doFactoryReset (env : Env) (devId : UInt8) : Act := fun w =>
  if devId = sampleDeviceIdAdas then
    let store := setAdasParaSettingDefault w.para.adas
    ({ w with
        para := { w.para with adas := store }
        files :=
          { w.files with
            adas := (writeFile env.paraWrite w.files.adas
              store.toList).2 } }, [])
  else if devId = sampleDeviceIdDms then
    let store := setDmsParaSettingDefault w.para.dms
    ({ w with
        para := { w.para with dms := store }
        files :=
          { w.files with
            dms := (writeFile env.paraWrite w.files.dms store.toList).2 } },
      [])
  else (w, [])

def receivedPara {n : Nat} (words : List (PackedWord n)) (msg : Mem UInt8) :
    Packed n :=
  words.foldl Packed.swapWord (Packed.ofList n (msg.read payloadOffset n))

/-- The part of `recv_para_setting` before the reply, and whether the set was
stored and saved. -/
def storeReceivedPara (env : Env) (msg : Mem UInt8) (len : Nat) (w : World) :
    World × Bool :=
  if headerDeviceId msg = sampleDeviceIdAdas ∧ len = headerSize + 1 + 50 then
    let store := writeDevParaAdas (receivedPara AdasPara.words msg) w.para.adas
    let saved := writeFile env.paraWrite w.files.adas store.toList
    ({ w with
        para := { w.para with adas := store }
        files := { w.files with adas := saved.2 } }, saved.1 = 0)
  else if headerDeviceId msg = sampleDeviceIdDms ∧
      len = headerSize + 1 + 43 then
    let store := writeDevParaDms (receivedPara DmsPara.words msg) w.para.dms
    let saved := writeFile env.paraWrite w.files.dms store.toList
    ({ w with
        para := { w.para with dms := store }
        files := { w.files with dms := saved.2 } }, saved.1 = 0)
  else (w, false)

def recvParaSetting (target : Target) (env : Env) (msg : Mem UInt8)
    (len : Nat) : Act := fun w =>
  let stored := storeReceivedPara env msg len w
  sendMessage target sampleCmdSetParam [if stored.2 = true then 0 else 1]
    stored.1

def sendParaSetting (target : Target) (msg : Mem UInt8) (len : Nat) : Act :=
  fun w =>
    if len ≠ emptyFrameLen then (w, [])
    else if headerDeviceId msg = sampleDeviceIdAdas then
      sendMessage target sampleCmdGetParam
        (AdasPara.words.foldl Packed.swapWord w.para.adas).toList w
    else if headerDeviceId msg = sampleDeviceIdDms then
      sendMessage target sampleCmdGetParam
        (DmsPara.words.foldl Packed.swapWord w.para.dms).toList w
    else (w, [])

/-! ## Status, device information, snapshots -/

def writeRealTimeData (msg : Mem UInt8) (len : Nat) : Act :=
  if len = headerSize + 1 + 26 then
    .modify fun w =>
      { w with realTime := Packed.ofList 26 (msg.read payloadOffset 26) }
  else .skip

def devInfoField (text : List Char) : List UInt8 :=
  15 :: (text.map fun c => UInt8.ofNat c.toNat) ++
    List.replicate (15 - text.length) 0

def devInfo : List UInt8 :=
  devInfoField ['M', 'I', 'N', 'I', 'E', 'Y', 'E'] ++
    devInfoField ['M', '4'] ++
    devInfoField ['1', '.', '0', '.', '0'] ++
    devInfoField ['1', '.', '2', '.', '0'] ++
    devInfoField ['0', 'x', 'F', '0', '3', '2', '1', '5', '6', '4'] ++
    devInfoField ['S', 'A', 'M', 'P', 'L', 'E']

def moduleWorking : UInt8 := 0x02

def moduleStatus : List UInt8 := moduleWorking :: List.replicate 4 0

def replyWorkStatus (target : Target) (len : Nat) : Act :=
  if len = emptyFrameLen then
    sendMessage target sampleCmdReqStatus moduleStatus
  else .skip

def sendSnapShotAck (target : Target) (len : Nat) : Act :=
  if len = emptyFrameLen then sendMessage target sampleCmdSnapShot [0]
  else .skip

def sendReport (target : Target) (r : Report) : World × List Effect :=
  let sent := sendMessage target sampleCmdWarningReport r.payload r.world
  (sent.1, r.effects ++ sent.2)

def doSnapShot (target : Target) (env : Env) : Act := fun w =>
  sendReport target
    (match target.build with
    | .dms =>
        buildDmsWarnFrame target w dmsSanpshotEvent sbWarnStatusNone
          env.msgbuf
    | .adas =>
        buildAdasWarnFrame target w sbWarnTypeSnap sbWarnStatusNone
          env.msgbuf)

/-! ## The dispatcher -/

def isForDevice (target : Target) (msg : Mem UInt8) : Prop :=
  headerDeviceId msg = target.build.deviceId ∨
    headerDeviceId msg = sampleDeviceIdBrdcst

instance (target : Target) (msg : Mem UInt8) :
    Decidable (isForDevice target msg) :=
  inferInstanceAs (Decidable (_ ∨ _))

theorem InBuffer.forDevice_iff {f : Frame} {msg : Mem UInt8}
    (h : InBuffer f msg) {target : Target} :
    isForDevice target msg ↔
      f.deviceId = target.build.deviceId ∨
        f.deviceId = sampleDeviceIdBrdcst := by
  obtain ⟨-, hdevice, -⟩ := h.header
  rw [isForDevice, hdevice]

inductive SampleCmd where
  | query
  | factoryReset
  | speedInfo
  | deviceInfo
  | upgrade
  | getParam
  | setParam
  | warningReport
  | reqStatus
  | uploadStatus
  | reqMmData
  | uploadMmData
  | snapShot
  deriving DecidableEq, Repr

namespace SampleCmd

def code : SampleCmd → UInt8
  | query => sampleCmdQuery
  | factoryReset => sampleCmdFactoryReset
  | speedInfo => sampleCmdSpeedInfo
  | deviceInfo => sampleCmdDeviceInfo
  | upgrade => sampleCmdUpgrade
  | getParam => sampleCmdGetParam
  | setParam => sampleCmdSetParam
  | warningReport => sampleCmdWarningReport
  | reqStatus => sampleCmdReqStatus
  | uploadStatus => sampleCmdUploadStatus
  | reqMmData => sampleCmdReqMmData
  | uploadMmData => sampleCmdUploadMmData
  | snapShot => sampleCmdSnapShot

def all : List SampleCmd :=
  [query, factoryReset, speedInfo, deviceInfo, upgrade, getParam, setParam,
    warningReport, reqStatus, uploadStatus, reqMmData, uploadMmData, snapShot]

def ofCode (byte : UInt8) : Option SampleCmd :=
  all.find? fun cmd => cmd.code == byte

@[simp] theorem ofCode_code (cmd : SampleCmd) : ofCode cmd.code = some cmd := by
  cases cmd <;> rfl

theorem code_of_ofCode {byte : UInt8} {cmd : SampleCmd}
    (h : ofCode byte = some cmd) : byte = cmd.code := by
  have := List.find?_some h
  exact (beq_iff_eq.mp this).symm

end SampleCmd

def handleCmd (target : Target) (env : Env) (w : World) (msg : Mem UInt8)
    (len : Nat) : Handled :=
  let unchanged : Handled := ⟨w, msg, []⟩
  match SampleCmd.ofCode (headerCmd msg) with
  | some .query =>
      let sent := messageQueueSend target w msg sampleCmdQuery []
      ⟨sent.world, sent.buffer, sent.effects⟩
  | some .factoryReset =>
      let sent := messageQueueSend target w msg sampleCmdFactoryReset []
      Handled.andThen ⟨sent.world, sent.buffer, sent.effects⟩
        (doFactoryReset env (headerDeviceId sent.buffer))
  | some .speedInfo =>
      unchanged.andThen ((writeRealTimeData msg len).andThen
        (.modify fun w' => { w' with heartBeat := true }))
  | some .deviceInfo =>
      unchanged.andThen (sendMessage target sampleCmdDeviceInfo devInfo)
  | some .upgrade =>
      unchanged.andThen (recvUpgradeFile target env msg len)
  | some .getParam => unchanged.andThen (sendParaSetting target msg len)
  | some .setParam => unchanged.andThen (recvParaSetting target env msg len)
  | some .warningReport => unchanged.andThen (recvWarningAck len)
  | some .reqStatus => unchanged.andThen (replyWorkStatus target len)
  | some .uploadStatus => unchanged.andThen (recvUploadStatusCmdAck len)
  | some .reqMmData => sendMmReqAck target env w msg len
  | some .uploadMmData =>
      unchanged.andThen (recvAckAndSendImage target env msg)
  | some .snapShot =>
      unchanged.andThen ((sendSnapShotAck target len).andThen
        (doSnapShot target env))
  | none => unchanged

section

variable (target : Target) (env : Env) (w : World) {msg : Mem UInt8}
  (len : Nat)

theorem handleCmd_factoryReset (h : headerCmd msg = sampleCmdFactoryReset) :
    handleCmd target env w msg len =
      let sent := messageQueueSend target w msg sampleCmdFactoryReset []
      Handled.andThen ⟨sent.world, sent.buffer, sent.effects⟩
        (doFactoryReset env (headerDeviceId sent.buffer)) := by
  rw [handleCmd, h]
  rfl

theorem handleCmd_upgrade (h : headerCmd msg = sampleCmdUpgrade) :
    handleCmd target env w msg len =
      Handled.andThen ⟨w, msg, []⟩ (recvUpgradeFile target env msg len) := by
  rw [handleCmd, h]
  rfl

theorem handleCmd_setParam (h : headerCmd msg = sampleCmdSetParam) :
    handleCmd target env w msg len =
      Handled.andThen ⟨w, msg, []⟩ (recvParaSetting target env msg len) := by
  rw [handleCmd, h]
  rfl

theorem handleCmd_reqMmData (h : headerCmd msg = sampleCmdReqMmData) :
    handleCmd target env w msg len = sendMmReqAck target env w msg len := by
  rw [handleCmd, h]
  rfl

theorem handleCmd_uploadMmData (h : headerCmd msg = sampleCmdUploadMmData) :
    handleCmd target env w msg len =
      Handled.andThen ⟨w, msg, []⟩ (recvAckAndSendImage target env msg) := by
  rw [handleCmd, h]
  rfl

end

def sampleOnCmd (target : Target) (env : Env) (w : World) (msg : Mem UInt8)
    (len : Nat) : Handled :=
  if isForDevice target msg then
    handleCmd target env
      { w with send := recordRecvNum (headerSerialNum msg) w.send } msg len
  else ⟨w, msg, []⟩

end SanbaoProt
