import SanbaoProt.Library.Bytes
import SanbaoProt.Library.Memory
import SanbaoProt.Library.Stuffing

/-!
# Protocol constants and frames

The constants of `prot.h` and the frame that travels on the wire: an 8-byte
`SBProtHeader`, the payload and the tail delimiter.  A `Frame` holds the fields
of the header apart from the checksum, which is computed by `sampleCalcSum`, so
every value of the type is checksum valid.
-/

namespace SanbaoProt

open Library

/-- The two device builds (`ENABLE_ADAS`, `ENABLE_DMS`). -/
inductive Build where
  | adas
  | dms
  deriving DecidableEq, Repr

/-- The two link layers (`TCP_INTERFACE`, `RS232_INTERFACE`). -/
inductive Interface where
  | tcp
  | rs232
  deriving DecidableEq, Repr

def sampleDeviceIdBrdcst : UInt8 := 0x0
def sampleDeviceIdAdas : UInt8 := 0x64
def sampleDeviceIdDms : UInt8 := 0x65

def sampleCmdQuery : UInt8 := 0x2F
def sampleCmdFactoryReset : UInt8 := 0x30
def sampleCmdSpeedInfo : UInt8 := 0x31
def sampleCmdDeviceInfo : UInt8 := 0x32
def sampleCmdUpgrade : UInt8 := 0x33
def sampleCmdGetParam : UInt8 := 0x34
def sampleCmdSetParam : UInt8 := 0x35
def sampleCmdWarningReport : UInt8 := 0x36
def sampleCmdReqStatus : UInt8 := 0x37
def sampleCmdUploadStatus : UInt8 := 0x38
def sampleCmdReqMmData : UInt8 := 0x50
def sampleCmdUploadMmData : UInt8 := 0x51
def sampleCmdSnapShot : UInt8 := 0x52

def sampleProtMagic : UInt8 := 0x7E
def sampleProtEscChar : UInt8 := 0x7D

def vendorId : UInt16 := 0x1234

def imageSizePerPacket : Nat := 64 * 1024
def ptrQueueBufSize : Nat := 2 * (imageSizePerPacket + 64)
def dataBufSize : Nat := imageSizePerPacket
def slipDataBufSize : Nat := ptrQueueBufSize

def headerSize : Nat := 8

def Build.deviceId : Build → UInt8
  | .adas => sampleDeviceIdAdas
  | .dms => sampleDeviceIdDms

def slip : Stuffing UInt8 where
  flag := sampleProtMagic
  esc := sampleProtEscChar
  flagCode := 0x02
  escCode := 0x01
  esc_ne_flag := by decide
  flagCode_ne_flag := by decide
  escCode_ne_flag := by decide
  escCode_ne_flagCode := by decide

def byteSum (bytes : List UInt8) : UInt32 :=
  bytes.foldl (fun chksum b => chksum + b.toUInt32) 0

theorem byteSum_append (xs ys : List UInt8) :
    byteSum (xs ++ ys) = byteSum xs + byteSum ys := by
  have hfold : ∀ (zs : List UInt8) (start : UInt32),
      zs.foldl (fun chksum b => chksum + b.toUInt32) start =
        start + byteSum zs := by
    intro zs
    induction zs with
    | nil => simp [byteSum]
    | cons z zs ih =>
        intro start
        have hbytes : byteSum (z :: zs) = z.toUInt32 + byteSum zs := by
          rw [byteSum, List.foldl_cons, ih, UInt32.zero_add]
        rw [List.foldl_cons, ih, hbytes, UInt32.add_assoc]
  rw [byteSum, List.foldl_append, hfold ys]
  rfl

/-- The bytes from the vendor id up to the tail are summed. -/
def sampleCalcSum (msg : Mem UInt8) (msgLen : Nat) : UInt8 :=
  (byteSum (msg.read 4 (msgLen - 5))).toUInt8

structure Frame where
  serialNum : UInt16
  vendorId : UInt16
  deviceId : UInt8
  cmd : UInt8
  payload : List UInt8
  deriving DecidableEq, Repr

namespace Frame

def summed (f : Frame) : List UInt8 :=
  toBE 2 f.vendorId.toNat ++ [f.deviceId, f.cmd] ++ f.payload

def checksum (f : Frame) : UInt8 := (byteSum f.summed).toUInt8

def middle (f : Frame) : List UInt8 :=
  f.checksum :: (toBE 2 f.serialNum.toNat ++ f.summed)

def bytes (f : Frame) : List UInt8 :=
  sampleProtMagic :: (f.middle ++ [sampleProtMagic])

def wire (f : Frame) : List UInt8 :=
  sampleProtMagic :: (slip.stuff f.middle ++ [sampleProtMagic])

@[simp] theorem length_summed (f : Frame) :
    f.summed.length = f.payload.length + 4 := by
  simp [summed]
  omega

@[simp] theorem length_middle (f : Frame) :
    f.middle.length = f.payload.length + 7 := by
  simp [middle]
  omega

@[simp] theorem length_bytes (f : Frame) :
    f.bytes.length = f.payload.length + 9 := by
  simp [bytes]

theorem magic_not_mem_stuff (xs : List UInt8) :
    sampleProtMagic ∉ slip.stuff xs :=
  slip.flag_not_mem_stuff xs

end Frame

theorem headerBytes_of_read {msg : Mem UInt8} {f : Frame}
    (h : msg.read 0 f.bytes.length = f.bytes) :
    msg 1 = f.checksum ∧
      msg.read 4 (f.bytes.length - 5) = f.summed := by
  constructor
  · have := Mem.apply_of_read h 1 (by simp)
    simpa [Frame.bytes, Frame.middle] using this
  · have hsplit : f.bytes =
        [sampleProtMagic, f.checksum, UInt8.ofNat (f.serialNum.toNat / 256),
          UInt8.ofNat f.serialNum.toNat] ++
        (f.summed ++ [sampleProtMagic]) := by
      simp [Frame.bytes, Frame.middle, toBE_two]
    rw [hsplit] at h
    have hrest := Mem.read_prefix (Mem.read_suffix h)
    simpa using hrest

theorem sampleCalcSum_of_read {msg : Mem UInt8} {f : Frame}
    (h : msg.read 0 f.bytes.length = f.bytes) :
    sampleCalcSum msg f.bytes.length = msg 1 := by
  obtain ⟨hchecksum, hsummed⟩ := headerBytes_of_read h
  rw [sampleCalcSum, hsummed, hchecksum, Frame.checksum]

end SanbaoProt
