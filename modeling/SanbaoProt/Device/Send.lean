import SanbaoProt.Device.World
import SanbaoProt.Framing.Escape

/-!
# Sending

`messageQueueSend` builds a frame in the buffer it is given, escapes it in
place and hands a copy to the send queue.  `messageQueueSend_spec` says what
this comes to: the node is the wire form of a `Frame`, the buffer starts with
the same bytes, and only the send side of the world changes.
-/

namespace SanbaoProt

open Library

def msgAckReady : UInt8 := 0
def msgAckWaiting : UInt8 := 1

def masterIsMe (cmd : UInt8) : Bool :=
  cmd == sampleCmdWarningReport || cmd == sampleCmdUploadMmData ||
    cmd == sampleCmdUploadStatus

def ackStatus (cmd : UInt8) : UInt8 :=
  if masterIsMe cmd then msgAckWaiting else msgAckReady

/-- `do_serial_num(&num, GET_NEXT_SEND_NUM)` on a variable holding zero. -/
def getNextSendNum (s : SendSide) : UInt16 × SendSide :=
  if s.sendSerialNum = 0xFF then (0, { s with sendSerialNum := 0 })
  else (s.sendSerialNum + 1, { s with sendSerialNum := s.sendSerialNum + 1 })

/-- `do_serial_num(&num, RECORD_RECV_NUM)`. -/
def recordRecvNum (num : UInt16) (s : SendSide) : SendSide :=
  { s with
    recvSerialNum := num
    sendSerialNum := if num > s.sendSerialNum then num else s.sendSerialNum }

def serialNum (cmd : UInt8) (s : SendSide) : UInt16 × SendSide :=
  if masterIsMe cmd then getNextSendNum s else (s.recvSerialNum, s)

structure Sent where
  buffer : Mem UInt8
  world : World
  effects : List Effect

def messageQueueSend (target : Target) (w : World) (pHeader : Mem UInt8)
    (cmd : UInt8) (payload : List UInt8) : Sent :=
  let serial := serialNum cmd w.send
  let header := [sampleProtMagic, 0] ++ toBE 2 serial.1.toNat ++
    toBE 2 vendorId.toNat ++ [target.build.deviceId, cmd]
  let msgLen := headerSize + 1 + payload.length
  let filled := ((pHeader.copy 0 header).copy headerSize payload).store
    (headerSize + payload.length) sampleProtMagic
  let summed := filled.store 1 (sampleCalcSum filled msgLen)
  let escaped := sampleEscapleMsg summed msgLen
  let node : SendNode :=
    ⟨⟨cmd, serial.2.sIndex % 0xFF, ackStatus cmd, 0⟩,
      some (escaped.1.read 0 escaped.2)⟩
  { buffer := escaped.1
    world :=
      { w with
        send :=
          { serial.2 with
            sIndex := serial.2.sIndex + 1
            queue := (ptrQueuePush w.send.queue node).2
            sem := w.send.sem + 1 } }
    effects := [.send cmd payload node] }

def sentFrame (target : Target) (w : World) (cmd : UInt8)
    (payload : List UInt8) : Frame where
  serialNum := (serialNum cmd w.send).1
  vendorId := vendorId
  deviceId := target.build.deviceId
  cmd := cmd
  payload := payload

def sentNode (target : Target) (w : World) (cmd : UInt8)
    (payload : List UInt8) : SendNode :=
  ⟨⟨cmd, (serialNum cmd w.send).2.sIndex % 0xFF, ackStatus cmd, 0⟩,
    some (sentFrame target w cmd payload).wire⟩

def sentWorld (target : Target) (w : World) (cmd : UInt8)
    (payload : List UInt8) : World :=
  { w with
    send :=
      { (serialNum cmd w.send).2 with
        sIndex := (serialNum cmd w.send).2.sIndex + 1
        queue :=
          (ptrQueuePush w.send.queue (sentNode target w cmd payload)).2
        sem := w.send.sem + 1 } }

private theorem filled_read (pHeader : Mem UInt8) (header payload : List UInt8)
    (tail : UInt8) :
    (((pHeader.copy 0 header).copy header.length payload).store
      (header.length + payload.length) tail).read 0
      (header.length + payload.length + 1) =
      header ++ (payload ++ [tail]) := by
  have hlast := ((pHeader.copy 0 header).copy header.length payload)
    |>.read_store_last 0 (header.length + payload.length) tail
  rw [Nat.zero_add] at hlast
  have hpayload := (pHeader.copy 0 header).read_copy header.length payload
  rw [hlast, Mem.read_add, Nat.zero_add, hpayload,
    Mem.read_copy_of_le _ _ (by omega), Mem.read_copy, List.append_assoc]

private theorem summed_read (pHeader : Mem UInt8) (f : Frame) :
    let header := [sampleProtMagic, 0] ++ toBE 2 f.serialNum.toNat ++
      toBE 2 f.vendorId.toNat ++ [f.deviceId, f.cmd]
    let filled := ((pHeader.copy 0 header).copy headerSize f.payload).store
      (headerSize + f.payload.length) sampleProtMagic
    (filled.store 1 (sampleCalcSum filled
      (headerSize + 1 + f.payload.length))).read 0 f.bytes.length =
      f.bytes := by
  intro header filled
  have hsize : header.length = headerSize := by simp [header, headerSize]
  have hlength : f.bytes.length = 1 + (1 + (f.payload.length + 7)) := by
    simp
    omega
  have hfilled : filled.read 0 (1 + (1 + (f.payload.length + 7))) =
      header ++ (f.payload ++ [sampleProtMagic]) := by
    have := filled_read pHeader header f.payload sampleProtMagic
    rw [hsize] at this
    rw [show 1 + (1 + (f.payload.length + 7)) =
      headerSize + f.payload.length + 1 by simp only [headerSize]; omega]
    exact this
  have hrest : header ++ (f.payload ++ [sampleProtMagic]) =
      [sampleProtMagic] ++ ([0] ++ (toBE 2 f.serialNum.toNat ++
        (f.summed ++ [sampleProtMagic]))) := by
    simp [header, Frame.summed]
  rw [hrest] at hfilled
  have hafter : filled.read 2 (f.payload.length + 7) =
      toBE 2 f.serialNum.toNat ++ (f.summed ++ [sampleProtMagic]) := by
    have := Mem.read_suffix (Mem.read_suffix (by simpa using hfilled :
      filled.read 0 (1 + (1 + (f.payload.length + 7))) =
        [sampleProtMagic] ++ ([0] ++ _)))
    rw [show f.payload.length + 7 = (toBE 2 f.serialNum.toNat ++
      (f.summed ++ [sampleProtMagic])).length by simp; omega]
    simpa using this
  have hsummed : filled.read 4 (f.payload.length + 4) = f.summed := by
    have := Mem.read_prefix (Mem.read_suffix hafter)
    simpa using this
  have hchecksum : sampleCalcSum filled (headerSize + 1 + f.payload.length) =
      f.checksum := by
    rw [sampleCalcSum, show headerSize + 1 + f.payload.length - 5 =
      f.payload.length + 4 by simp only [headerSize]; omega, hsummed,
      Frame.checksum]
  have hhead : filled 0 = sampleProtMagic := by
    have := Mem.apply_of_read hfilled 0 (by simp)
    simpa using this
  rw [hlength, Mem.read_add, Mem.read_add, hchecksum]
  have hkeep : (filled.store 1 f.checksum).read 2 (f.payload.length + 7) =
      filled.read 2 (f.payload.length + 7) :=
    Mem.read_congr fun i hi _ => Mem.store_of_ne _ _ (by omega)
  simp only [Nat.zero_add, Nat.reduceAdd]
  rw [hkeep, hafter]
  simp [Mem.read_succ, Mem.store_of_ne, hhead, Frame.bytes, Frame.middle]

/-- The node is the wire form of a frame, which is left in the buffer too. -/
theorem messageQueueSend_spec (target : Target) (w : World)
    (pHeader : Mem UInt8) (cmd : UInt8) (payload : List UInt8) :
    let sent := messageQueueSend target w pHeader cmd payload
    sent.world = sentWorld target w cmd payload ∧
      sent.effects = [.send cmd payload (sentNode target w cmd payload)] ∧
      sent.buffer.read 0 (sentFrame target w cmd payload).wire.length =
        (sentFrame target w cmd payload).wire := by
  intro sent
  have hsummed := summed_read pHeader (sentFrame target w cmd payload)
  have hlength : (sentFrame target w cmd payload).bytes.length =
      headerSize + 1 + payload.length := by
    simp [sentFrame, headerSize]
    omega
  obtain ⟨hlen, hwire, -⟩ := sampleEscapleMsg_frame hsummed
  rw [hlength] at hlen hwire
  have hbuf := hwire
  rw [← hlen] at hbuf
  have hnode : sent.effects =
      [.send cmd payload (sentNode target w cmd payload)] := by
    rw [sentNode, ← hbuf]
    rfl
  have hworld : sent.world = sentWorld target w cmd payload := by
    rw [sentWorld, sentNode, ← hbuf]
    rfl
  exact ⟨hworld, hnode, hwire⟩

def sendMessage (target : Target) (cmd : UInt8) (payload : List UInt8) :
    Act := fun w =>
  let sent := messageQueueSend target w (fun _ => 0) cmd payload
  (sent.world, sent.effects)

@[simp] theorem sendMessage_apply (target : Target) (cmd : UInt8)
    (payload : List UInt8) (w : World) :
    sendMessage target cmd payload w =
      (sentWorld target w cmd payload,
        [.send cmd payload (sentNode target w cmd payload)]) := by
  obtain ⟨hworld, heffects, -⟩ :=
    messageQueueSend_spec target w (fun _ => 0) cmd payload
  simp only [sendMessage, hworld, heffects]

end SanbaoProt
