import SanbaoProt.Device.AdasRun
import SanbaoProt.Device.ParaFailure

/-!
# The buffers that frames are built in

Escaping can double all of a frame but its two delimiters, and nothing checks
that the result fits the buffer of the caller.  It does in every case: most
payloads are short, the device information holds no byte that is escaped, the
list of a report has at most eleven entries, and a media packet stays just
below the size of a queue slot.
-/

namespace SanbaoProt

open Library

/-! ## The callers -/

/-- The sizes of the buffer that a caller passes its payload in and of the one
that the frame is built in. -/
structure SendBuffers where
  payload : Nat
  frame : Nat

/-- A query, a reset and a media request are answered in `rcvData`. -/
def sendBuffers (payload : List UInt8) : SampleCmd → SendBuffers
  | .query => ⟨0, dataBufSize⟩
  | .factoryReset => ⟨0, dataBufSize⟩
  | .speedInfo => ⟨0, 0⟩
  | .deviceInfo => ⟨96, 128⟩
  | .upgrade =>
      ⟨if payload.head? = some upgradeCmdTrans then 6 else 2, 256⟩
  | .getParam => ⟨50, 256⟩
  | .setParam => ⟨1, 128⟩
  | .warningReport => ⟨512, 512⟩
  | .reqStatus => ⟨5, 256⟩
  | .uploadStatus => ⟨5, 256⟩
  | .reqMmData => ⟨0, dataBufSize⟩
  | .uploadMmData =>
      ⟨imageSizePerPacket + headerSize + 10 + 64,
        2 * (imageSizePerPacket + headerSize + 10 + 64)⟩
  | .snapShot => ⟨1, 256⟩

def adasFrame (c : SampleCmd) (serialNum : UInt16) (contents : List UInt8) :
    Frame where
  serialNum := serialNum
  vendorId := vendorId
  deviceId := sampleDeviceIdAdas
  cmd := c.code
  payload := contents

/-- The payload fits, and so does the frame with any serial number and any
contents of the same length; those of the device information are fixed. -/
def FitsBuffers (c : SampleCmd) (payload : List UInt8) : Prop :=
  payload.length ≤ (sendBuffers payload c).payload ∧
    ∀ (serialNum : UInt16) (contents : List UInt8),
      contents.length = payload.length →
      (c = .deviceInfo → contents = payload) →
      (adasFrame c serialNum contents).wire.length ≤
          (sendBuffers payload c).frame ∧
        (adasFrame c serialNum contents).wire.length ≤ ptrQueueBufSize

theorem length_wire_le (f : Frame) :
    f.wire.length ≤ 2 * (f.payload.length + 7) + 2 := by
  have hstuff := slip.length_stuff_le f.middle
  rw [Frame.length_middle] at hstuff
  simp only [Frame.wire, List.length_cons, List.length_append, List.length_nil]
  omega

theorem length_deviceInfoFrame_le (serialNum : UInt16) :
    (adasFrame .deviceInfo serialNum devInfo).wire.length ≤ 108 := by
  let f := adasFrame .deviceInfo serialNum devInfo
  have hfixed : (slip.stuff f.summed).length = 100 := by
    have : f.summed = (adasFrame .deviceInfo 0 devInfo).summed := rfl
    rw [this]
    decide +kernel
  have hsplit : f.middle =
      (f.checksum :: toBE 2 f.serialNum.toNat) ++ f.summed := by
    simp [Frame.middle]
  have hhead := slip.length_stuff_le (f.checksum :: toBE 2 f.serialNum.toNat)
  rw [List.length_cons, length_toBE] at hhead
  change f.wire.length ≤ 108
  rw [Frame.wire, hsplit, Stuffing.stuff_append]
  simp only [List.length_cons, List.length_append, List.length_nil, hfixed]
  omega

/-- A frame that fits although each byte between its delimiters is escaped. -/
theorem FitsBuffers.of_doubled {c : SampleCmd} {payload : List UInt8}
    (hpayload : payload.length ≤ (sendBuffers payload c).payload)
    (hframe : 2 * (payload.length + 7) + 2 ≤ (sendBuffers payload c).frame)
    (hslot : 2 * (payload.length + 7) + 2 ≤ ptrQueueBufSize) :
    FitsBuffers c payload := by
  refine ⟨hpayload, fun serialNum contents hlength _ => ?_⟩
  have hwire := length_wire_le (adasFrame c serialNum contents)
  rw [show (adasFrame c serialNum contents).payload.length = _ from
    hlength] at hwire
  exact ⟨hwire.trans hframe, hwire.trans hslot⟩

theorem deviceInfo_fits : FitsBuffers .deviceInfo devInfo := by
  refine ⟨by decide, fun serialNum contents _ hfixed => ?_⟩
  rw [hfixed rfl]
  have hwire := length_deviceInfoFrame_le serialNum
  exact ⟨hwire.trans (by decide), hwire.trans (by decide)⟩

theorem report_fits {payload : List UInt8}
    (h : payload.length ≤ warnFrameSize + alertMediaMax * 5) :
    FitsBuffers .warningReport payload := by
  simp only [warnFrameSize, alertMediaMax] at h
  apply FitsBuffers.of_doubled <;>
    simp only [sendBuffers, ptrQueueBufSize, imageSizePerPacket] <;> omega

def Report.ListFits (r : Report) : Prop := r.mmNum.toNat ≤ alertMediaMax

theorem Report.ListFits.fits {r : Report} (h : r.ListFits) :
    FitsBuffers .warningReport r.payload := by
  apply report_fits
  rw [Report.ListFits] at h
  rw [Report.payload, Mem.length_read, Report.length]
  omega

theorem handlerPayload_fits {para : AdasPara} {payload : List UInt8}
    {c : SampleCmd} (h : handlerPayload para payload c)
    (hphotos : (para AdasPara.photoNum).toNat ≤ warnSnapNumMax) :
    FitsBuffers c payload := by
  have hempty : payload = [] → 2 * (payload.length + 7) + 2 = 16 := by
    rintro rfl
    rfl
  cases c with
  | deviceInfo =>
      rw [show payload = devInfo from h]
      exact deviceInfo_fits
  | speedInfo => exact h.elim
  | warningReport => exact report_fits (h.2 hphotos)
  | upgrade =>
      simp only [handlerPayload] at h
      apply FitsBuffers.of_doubled <;>
        simp only [sendBuffers, ptrQueueBufSize, imageSizePerPacket] <;>
        split_ifs at h ⊢ <;> omega
  | uploadMmData =>
      simp only [handlerPayload, imageSizePerPacket] at h
      apply FitsBuffers.of_doubled <;>
        simp only [sendBuffers, ptrQueueBufSize, imageSizePerPacket,
          headerSize] <;> omega
  | query =>
      rw [show payload = [] from h]
      exact .of_doubled (by decide) (by decide) (by decide)
  | factoryReset =>
      rw [show payload = [] from h]
      exact .of_doubled (by decide) (by decide) (by decide)
  | reqMmData =>
      rw [show payload = [] from h]
      exact .of_doubled (by decide) (by decide) (by decide)
  | _ =>
      simp only [handlerPayload] at h
      apply FitsBuffers.of_doubled <;>
        simp only [sendBuffers, ptrQueueBufSize, imageSizePerPacket] <;>
        omega

/-! ## Every message of a run -/

/-- A message that fits the buffers of its caller and that the queue keeps
whole. -/
def SendsFitting (target : Target) (e : Effect) : Prop :=
  ∀ cmd payload node, e = .send cmd payload node →
    ∃ c : SampleCmd, cmd = c.code ∧ FitsBuffers c payload ∧
      (∃ w, node = sentNode target w cmd payload) ∧
      node.buf.map (List.take ptrQueueBufSize) = node.buf

section

variable {i : Interface}

theorem FitsBuffers.sends {c : SampleCmd} {payload : List UInt8}
    (h : FitsBuffers c payload) (w : World) :
    SendsFitting (adasTarget i)
      (.send c.code payload (sentNode (adasTarget i) w c.code payload)) := by
  intro cmd payload' node heq
  obtain ⟨rfl, rfl, rfl⟩ := Effect.send.inj heq
  refine ⟨c, rfl, h, ⟨w, rfl⟩, ?_⟩
  exact congrArg some (List.take_of_length_le (h.2 _ payload rfl fun _ => rfl).2)

theorem HandlerSent.fits {para : AdasPara} {e : Effect}
    (h : HandlerSent (adasTarget i) para e)
    (hphotos : (para AdasPara.photoNum).toNat ≤ warnSnapNumMax) :
    SendsFitting (adasTarget i) e := by
  cases h with
  | send c payload w h => exact (handlerPayload_fits h hphotos).sends w
  | silent h => exact fun cmd payload node heq => absurd heq (h cmd payload node)

theorem report_keepsFitting (statusFlag : UInt8) :
    ReportsKeep (adasTarget i) (fun w effects => MediaBounded w ∧
      ∀ e ∈ effects, SendsFitting (adasTarget i) e) statusFlag := by
  rintro a type finish hfinish ⟨hbounded, hsent⟩
  let built := buildAdasWarnFrame (adasTarget i) a.world type statusFlag
    a.msgbuf
  let r : Report := { built with msgbuf := finish built.msgbuf }
  obtain ⟨hnum, hnext⟩ := buildAdasWarnFrame_mmNum_le (adasTarget i) a.world
    type a.msgbuf hbounded statusFlag
  have hrnum : r.ListFits := by
    rw [Report.ListFits, show r.mmNum = built.mmNum from hfinish built.msgbuf]
    exact hnum
  have hfits : FitsBuffers .warningReport r.payload := hrnum.fits
  have hstores := buildAdasWarnFrame_storing (adasTarget i) a.world type
    statusFlag a.msgbuf
  have hworld : (a.report (adasTarget i) type statusFlag finish).world =
      sentWorld (adasTarget i) built.world sampleCmdWarningReport
        r.payload := by
    simp only [Alerting.report, sendReport, sendMessage_apply]
    rfl
  refine ⟨?_, ?_⟩
  · rw [hworld]
    exact ⟨hnext.photoNum, hnext.begun⟩
  · rw [Alerting.report_effects]
    intro e he
    rcases List.mem_append.mp he with hbefore | hreport
    · exact hsent e hbefore
    · rcases List.mem_append.mp hreport with hstored | hsend
      · intro cmd payload node heq
        exact absurd heq (storing_silent hstores.2 e hstored cmd payload node)
      · rw [List.mem_singleton.mp hsend]
        exact hfits.sends _

theorem AdasPara.photoNum_le {para : AdasPara}
    (h : ∀ c ∈ AdasPara.checks, c.holds para = true) :
    (para AdasPara.photoNum).toNat ≤ warnSnapNumMax := by
  have hcheck := h (.byte AdasPara.photoNum 1 10 3) (by decide)
  exact RangeCheck.value_le_bound hcheck

theorem OwnPara.save_store {b : Build} (s : OwnPara b)
    (para : Packed b.paraSize) (outcome : Option Nat) :
    (s.save para outcome).store = b.writeDevPara para s.store := rfl

theorem Build.writeDevPara_inRange (para store : Packed Build.adas.paraSize) :
    ∀ c ∈ AdasPara.checks,
      c.holds (Build.adas.writeDevPara para store) = true := by
  have hwrite : Build.adas.writeDevPara = writeDevParaAdas := rfl
  rw [hwrite]
  exact (writeDevParaAdas_inRange para store).1

theorem device_photoNum_le {w : World}
    (h : (w.para.adas AdasPara.photoNum).toNat ≤ warnSnapNumMax)
    (r : Received) :
    (((device (adasTarget i)).step w r).1.para.adas
      AdasPara.photoNum).toNat ≤ warnSnapNumMax := by
  obtain ⟨hown, -⟩ := device_ownPara (adasTarget i) w r
  have hstore : ((device (adasTarget i)).step w r).1.para.adas = _ :=
    congrArg OwnPara.store hown
  cases hwritten : writtenPara (adasTarget i) r with
  | none =>
      simp only [hwritten] at hstore
      rw [hstore]
      exact h
  | some para =>
      simp only [hwritten] at hstore
      have hsaved := OwnPara.save_store (w.ownPara (adasTarget i).build) para
        r.env.paraWrite
      have hmerged : ((device (adasTarget i)).step w r).1.para.adas =
          Build.adas.writeDevPara para (w.ownPara .adas).store :=
        hstore.trans hsaved
      rw [hmerged]
      exact AdasPara.photoNum_le (Build.writeDevPara_inRange para _)

theorem adasStarted_bounded (access : ParaFileAccess) (files : ParaFiles) :
    MediaBounded (adasStarted i access files).world := by
  have hstore : (adasStarted i access files).world.para.adas =
      (readLocalAdasParaFile access files.adas fun _ => 0).2.1 := rfl
  have hbegun : (adasStarted i access files).world.mediaBegin.num = 0 := rfl
  refine ⟨?_, by rw [hbegun]; decide⟩
  rw [hstore]
  by_cases hloads : Loadable 50 access files.adas
  · obtain ⟨-, hdefault | ⟨para, hpara⟩⟩ := readLocalParaFile_loaded hloads
      setAdasParaSettingDefault writeDevParaAdas fun _ => 0
    · rw [readLocalAdasParaFile, hdefault, setAdasParaSettingDefault_eq]
      decide
    · rw [readLocalAdasParaFile, hpara]
      exact AdasPara.photoNum_le (writeDevParaAdas_inRange _ _).1
  · obtain ⟨-, hkept⟩ := readLocalParaFile_failed hloads
      setAdasParaSettingDefault writeDevParaAdas fun _ => 0
    rw [readLocalAdasParaFile, hkept]
    exact Nat.zero_le _

theorem adasDevice_step_fits (s : AdasDevice) (input : AdasInput)
    (h : MediaBounded s.world) :
    MediaBounded ((adasDevice i).step s input).1.world ∧
      ∀ e ∈ ((adasDevice i).step s input).2,
        SendsFitting (adasTarget i) e := by
  cases input with
  | frame r =>
      have hhandles : Handles (adasTarget i) s.world.para.adas s.world
          ((device (adasTarget i)).step s.world r) :=
        device_adasHandles rfl s.world r
      refine ⟨⟨device_photoNum_le h.photoNum r, ?_⟩, fun e he =>
        (hhandles.sent e he).fits h.photoNum⟩
      exact hhandles.begun.symm ▸ h.begun
  | can f =>
      exact dealWsiAdasCan700_preserves f (report_keepsFitting _)
        (report_keepsFitting _) (report_keepsFitting _) s.can
        ⟨h, fun e he => by cases he⟩
  | snap env =>
      have hhandles : Handles (adasTarget i) s.world.para.adas s.world
          (doSnapShot (adasTarget i) env s.world) :=
        doSnapShot_handles rfl env s.world
      have hpara := (doSnapShot_quiet (adasTarget i) env s.world).1.para
      refine ⟨⟨?_, ?_⟩, fun e he => (hhandles.sent e he).fits h.photoNum⟩
      · exact hpara.symm ▸ h.photoNum
      · exact hhandles.begun.symm ▸ h.begun
  | workStatus =>
      have hhandles : Handles (adasTarget i) s.world.para.adas s.world
          (autoSendWorkStatus (adasTarget i) s.world) :=
        .send .uploadStatus rfl
      refine ⟨?_, fun e he => (hhandles.sent e he).fits h.photoNum⟩
      exact ⟨h.photoNum, h.begun⟩
  | others world => exact ⟨⟨h.photoNum, h.begun⟩, fun e he => by cases he⟩

end

/-- Every message that the ADAS device sends along a run fits the buffers of
its caller, escaped and with any serial number, and the queue keeps it whole.
So would a report of any type and status, in every state of the run. -/
theorem adasFrames_fit (i : Interface) (access : ParaFileAccess)
    (files : ParaFiles) (inputs : List AdasInput) :
    let start := adasStarted i access files
    (∀ e ∈ (adasDevice i).outputs start inputs,
        SendsFitting (adasTarget i) e) ∧
      ∀ type statusFlag msgbuf, FitsBuffers .warningReport
        (buildAdasWarnFrame (adasTarget i)
          ((adasDevice i).final start inputs).world type statusFlag
          msgbuf).payload := by
  intro start
  have hstart : MediaBounded start.world := adasStarted_bounded access files
  constructor
  · exact Mealy.outputs_of_invariant (I := fun s => MediaBounded s.world)
      adasDevice_step_fits hstart inputs
  · intro type statusFlag msgbuf
    have hbounded := Mealy.always_of_step (M := adasDevice i)
      (I := fun s => MediaBounded s.world)
      (fun s input hs => (adasDevice_step_fits s input hs).1) hstart inputs
      inputs [] (List.append_nil inputs).symm
    have hfits : (buildAdasWarnFrame (adasTarget i) _ type statusFlag
        msgbuf).ListFits := (buildAdasWarnFrame_mmNum_le (adasTarget i) _ type
      msgbuf hbounded statusFlag).1
    exact hfits.fits

def askDeviceInfo : Frame where
  serialNum := 0x7E7E
  vendorId := vendorId
  deviceId := sampleDeviceIdAdas
  cmd := sampleCmdDeviceInfo
  payload := []

theorem adasFrames_fit_deviceInfo :
    ∃ node, Effect.send sampleCmdDeviceInfo devInfo node ∈
        (adasDevice .tcp).outputs
          (adasStarted .tcp ⟨true, some 50⟩ ⟨none, none⟩)
          [.frame (.ofFrame Env.plain askDeviceInfo)] ∧
      SendsFitting (adasTarget .tcp)
        (.send sampleCmdDeviceInfo devInfo node) := by
  have hmem : ∃ node, Effect.send sampleCmdDeviceInfo devInfo node ∈
      (adasDevice .tcp).outputs
        (adasStarted .tcp ⟨true, some 50⟩ ⟨none, none⟩)
        [.frame (.ofFrame Env.plain askDeviceInfo)] :=
    ⟨_, List.mem_singleton_self _⟩
  obtain ⟨node, hsent⟩ := hmem
  exact ⟨node, hsent,
    (adasFrames_fit .tcp ⟨true, some 50⟩ ⟨none, none⟩ _).1 _ hsent⟩

end SanbaoProt
