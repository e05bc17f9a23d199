import SanbaoProt.Para
import SanbaoProt.Queue

/-!
# The state of the device

The globals and the function-local statics that the receive thread works on,
and the effects by which it is seen from outside.  The receive handlers are
taken as atomic: the mutexes of the source protect each of the parts on its
own.  What a handler asks of the operating system while it runs is given by an
`Env`, one for each handled frame.
-/

namespace SanbaoProt

open Library

structure SendStatus where
  cmd : UInt8
  index : UInt8
  ackStatus : UInt8
  sendRepeat : UInt8
  deriving DecidableEq, Repr

abbrev SendNode := PtrQueueNode SendStatus

structure InfoForStore where
  getAnotherCameraVideo : UInt8
  warnType : UInt8
  photoEnable : Bool
  videoEnable : Bool
  videoTime : UInt8
  photoTimePeriod : UInt8
  photoNum : UInt8
  /-- The ids that are stored from `photo_id[0]` on; the array has ten
  elements, and more than that go behind it. -/
  photoId : List UInt32
  videoId : UInt32
  deriving DecidableEq, Repr

inductive Effect where
  /-- A call of `message_queue_send` and the node it hands to the queue. -/
  | send (cmd : UInt8) (payload : List UInt8) (node : SendNode)
  | noticeAck
  | mmIds (num : Nat)
  | pushMm (info : InfoForStore)
  | remove (id : UInt32)
  | transmitOver (id : UInt32)
  | cleanUpgradeBin
  /-- `UPGRADE_FILE_CMD` is run on the upgrade file as it is. -/
  | upgrade (file : Option (List UInt8))
  | exit
  deriving DecidableEq, Repr

structure ParaStore where
  adas : AdasPara
  dms : DmsPara
  deriving DecidableEq

structure ParaFiles where
  adas : Option (List UInt8)
  dms : Option (List UInt8)
  deriving DecidableEq

abbrev RealTimeData := Packed 26

def RealTimeData.carSpeed : Fin 26 := 0

structure NextIds where
  warningId : UInt32
  mmId : UInt32
  deriving DecidableEq, Repr

structure SendSide where
  sendSerialNum : UInt16
  recvSerialNum : UInt16
  sIndex : UInt8
  queue : List SendNode
  sem : Nat
  deriving DecidableEq, Repr

structure MediaBegin where
  entries : Mem UInt8
  num : UInt8

structure Transfer where
  type : UInt8
  id : UInt32
  packetTotalNum : UInt16
  packetIndex : UInt16
  mmDataTransWaiting : Bool
  deriving DecidableEq, Repr

/-- The statics of `recv_upgrade_file` that live on, and the upgrade file. -/
structure Upgrade where
  sum : UInt32
  sumNew : UInt32
  offset : UInt32
  file : Option (List UInt8)
  deriving DecidableEq, Repr

structure World where
  para : ParaStore
  files : ParaFiles
  realTime : RealTimeData
  heartBeat : Bool
  ids : NextIds
  send : SendSide
  imageQueue : List (PtrQueueNode InfoForStore)
  mediaBegin : MediaBegin
  recvAck : Bool
  transfer : Transfer
  upgrade : Upgrade
  running : Bool

def World.zero : World where
  para := ⟨fun _ => 0, fun _ => 0⟩
  files := ⟨none, none⟩
  realTime := fun _ => 0
  heartBeat := false
  ids := ⟨0, 0⟩
  send := ⟨0, 0, 0, [], 0⟩
  imageQueue := []
  mediaBegin := ⟨fun _ => 0, 0⟩
  recvAck := false
  transfer := ⟨0, 0, 0, 0, false⟩
  upgrade := ⟨0, 0, 0, none⟩
  running := true

structure Target where
  build : Build
  interface : Interface
  deriving DecidableEq, Repr

def adasTcp : Target := ⟨.adas, .tcp⟩

def dmsTcp : Target := ⟨.dms, .tcp⟩

structure Env where
  /-- What `fwrite` takes of a parameter file, if it can be opened. -/
  paraWrite : Option Nat
  media : UInt32 → Option (List UInt8)
  /-- The two allocations of `sample_send_image`. -/
  allocated : Bool
  upgradeOpened : Bool
  /-- How many bytes `write` takes for the upgrade file. -/
  upgradeWritten : Nat
  msgbuf : Mem UInt8

/-- Every request to the operating system succeeds; there are no files. -/
def Env.plain : Env where
  paraWrite := some 50
  media := fun _ => none
  allocated := true
  upgradeOpened := true
  upgradeWritten := dataBufSize
  msgbuf := fun _ => 0

/-! ## Sequences of actions -/

abbrev Act := World → World × List Effect

namespace Act

def skip : Act := fun w => (w, [])

def modify (f : World → World) : Act := fun w => (f w, [])

def emit (e : Effect) : Act := fun w => (w, [e])

def andThen (first second : Act) : Act := fun w =>
  ((second (first w).1).1, (first w).2 ++ (second (first w).1).2)

@[simp] theorem skip_apply (w : World) : skip w = (w, []) := rfl

@[simp] theorem modify_apply (f : World → World) (w : World) :
    modify f w = (f w, []) := rfl

@[simp] theorem emit_apply (e : Effect) (w : World) :
    emit e w = (w, [e]) := rfl

@[simp] theorem andThen_fst (first second : Act) (w : World) :
    (first.andThen second w).1 = (second (first w).1).1 := rfl

@[simp] theorem andThen_snd (first second : Act) (w : World) :
    (first.andThen second w).2 =
      (first w).2 ++ (second (first w).1).2 := rfl

end Act

end SanbaoProt
