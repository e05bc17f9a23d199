import SanbaoProt.Device.ParaStep

/-!
# Setting parameters and reading them back

A set travels with its words big-endian in both directions.  The reply to the
next `GET_PARAM` carries, field by field, the value that was sent, or the value
that was stored where all ones were sent; the ADAS set has been checked on the
way.  `Unwritten` are the runs between the two frames.
-/

namespace SanbaoProt

open Library

/-- The frame lies at the start of the receive buffer and its length is
passed. -/
structure Received.Carries (r : Received) (f : Frame) : Prop where
  inBuffer : InBuffer f r.msg
  length : r.len = f.bytes.length

structure SetParaFrame (target : Target) (f : Frame) : Prop where
  cmd : f.cmd = sampleCmdSetParam
  device : f.deviceId = target.build.deviceId
  size : f.payload.length = target.build.paraSize

structure GetParaFrame (target : Target) (f : Frame) : Prop where
  cmd : f.cmd = sampleCmdGetParam
  device : f.deviceId = target.build.deviceId
  empty : f.payload = []

theorem SetParaFrame.sets {target : Target} {f : Frame}
    (h : SetParaFrame target f) {r : Received} (hr : r.Carries f) :
    SetsPara target r := by
  obtain ⟨-, hdevice, hcmd⟩ := hr.inBuffer.header
  refine ⟨hcmd.trans h.cmd, hdevice.trans h.device, ?_⟩
  rw [hr.length, Frame.length_bytes, h.size]
  simp only [headerSize]
  omega

theorem receivedPara_eq {n : Nat} (words : List (PackedWord n)) {f : Frame}
    {msg : Mem UInt8} (h : InBuffer f msg) (hsize : f.payload.length = n) :
    receivedPara words msg =
      words.foldl Packed.swapWord (Packed.ofList n f.payload) := by
  have hread := h.payload
  have hpayload : msg.read payloadOffset n = f.payload := by
    rw [← hsize]
    rw [Mem.read_add] at hread
    exact (List.append_inj hread (by simp)).1
  rw [receivedPara, hpayload]

/-! ## The store after a set -/

section

variable {target : Target} {f : Frame} {r : Received}

theorem setPara_merges (h : SetParaFrame target f) (hr : r.Carries f)
    (w : World) :
    ∃ merged : Packed target.build.paraSize,
      ((device target).step w r).1.para.own target.build =
          target.build.paraCheck merged ∧
        ∀ field ∈ Packed.fields target.build.paraWords,
          field.value merged =
            if field.netValue (Packed.ofList _ f.payload) = field.ones then
              field.value (w.para.own target.build)
            else field.netValue (Packed.ofList _ f.payload) := by
  obtain ⟨hown, -⟩ := device_ownPara target w r
  have hwritten : writtenPara target r = some _ := if_pos (h.sets hr)
  simp only [hwritten] at hown
  refine ⟨_, congrArg OwnPara.store hown, ?_⟩
  intro field hfield
  have hsent : field.value (receivedPara target.build.paraWords r.msg) =
      field.netValue (Packed.ofList _ f.payload) := by
    rw [receivedPara_eq _ hr.inBuffer h.size]
    exact Packed.value_swap target.build.paraWords_apart _ hfield
  have hmerge := Packed.value_merge target.build.paraWords_apart
    (receivedPara target.build.paraWords r.msg) (w.para.own target.build)
    hfield
  rw [hsent] at hmerge
  exact hmerge

theorem device_keepsOther (target : Target) (w : World) (r : Received) :
    ((device target).step w r).1.para.own target.build.other =
      w.para.own target.build.other :=
  congrArg OwnPara.store (device_ownPara target w r).2

theorem device_unwritten (h : writtenPara target r = none) (w : World) :
    ((device target).step w r).1.para.own target.build =
      w.para.own target.build := by
  obtain ⟨hown, -⟩ := device_ownPara target w r
  rw [h] at hown
  exact congrArg OwnPara.store hown

/-- The runs in which no frame writes a set. -/
inductive Unwritten (target : Target) (w : World) : World → Prop where
  | refl : Unwritten target w w
  | frame {w' : World} (h : Unwritten target w w') {r : Received}
      (hnone : writtenPara target r = none) :
      Unwritten target w ((device target).step w' r).1
  | others {w' w'' : World} (h : Unwritten target w w')
      (hpara : w''.para = w'.para) : Unwritten target w w''

theorem Unwritten.own {w w' : World} (h : Unwritten target w w') :
    w'.para.own target.build = w.para.own target.build := by
  induction h with
  | refl => rfl
  | frame h hnone ih => exact (device_unwritten hnone _).trans ih
  | others h hpara ih => rw [hpara, ih]

theorem Unwritten.other {w w' : World} (h : Unwritten target w w') :
    w'.para.own target.build.other = w.para.own target.build.other := by
  induction h with
  | refl => rfl
  | frame h hnone ih => exact (device_keepsOther target _ _).trans ih
  | others h hpara ih => rw [hpara, ih]

/-! ## The reply -/

theorem sendParaSetting_own {msg : Mem UInt8}
    (h : headerDeviceId msg = target.build.deviceId) (w : World) :
    (sendParaSetting target msg emptyFrameLen w).2 =
      let reply := (target.build.paraWords.foldl Packed.swapWord
        (w.para.own target.build)).toList
      [.send sampleCmdGetParam reply
        (sentNode target w sampleCmdGetParam reply)] := by
  unfold sendParaSetting
  obtain ⟨b, i⟩ := target
  cases b with
  | adas =>
      have hadas : headerDeviceId msg = sampleDeviceIdAdas := h
      rw [if_neg (not_not.mpr rfl), if_pos hadas, sendMessage_apply]
      rfl
  | dms =>
      have hdms : headerDeviceId msg = sampleDeviceIdDms := h
      have hadas : headerDeviceId msg ≠ sampleDeviceIdAdas := by
        rw [hdms]
        decide
      rw [if_neg (not_not.mpr rfl), if_neg hadas, if_pos hdms,
        sendMessage_apply]
      rfl

theorem getPara_replies (h : GetParaFrame target f) (hr : r.Carries f)
    (w : World) :
    ∃ node, ((device target).step w r).2 =
      [.send sampleCmdGetParam (target.build.paraWords.foldl Packed.swapWord
        (w.para.own target.build)).toList node] := by
  obtain ⟨-, hdevice, hcmd⟩ := hr.inBuffer.header
  have hown : headerDeviceId r.msg = target.build.deviceId :=
    hdevice.trans h.device
  have hlen : r.len = emptyFrameLen := by
    rw [hr.length, Frame.length_bytes, h.empty]
    rfl
  have hget : headerCmd r.msg = sampleCmdGetParam := hcmd.trans h.cmd
  have hfor : isForDevice target r.msg := .inl hown
  let noted : World :=
    { w with send := recordRecvNum (headerSerialNum r.msg) w.send }
  have hstep : ((device target).step w r).2 =
      (sendParaSetting target r.msg r.len noted).2 := by
    simp only [device, Handled.result_snd, sampleOnCmd, if_pos hfor]
    rw [handleCmd, hget]
    rfl
  rw [hstep, hlen, sendParaSetting_own hown]
  exact ⟨_, rfl⟩

/-- The parameters read back after a set are the merged ones, and the store of
the other device is untouched throughout. -/
theorem setPara_getPara {g : Frame} {s : Received}
    (hset : SetParaFrame target f) (hr : r.Carries f)
    (hget : GetParaFrame target g) (hs : s.Carries g) (w : World)
    {w' : World} (hbetween : Unwritten target ((device target).step w r).1 w') :
    let old := w.para.own target.build
    let sent : Packed target.build.paraSize := Packed.ofList _ f.payload
    let fields := Packed.fields target.build.paraWords
    ∃ (merged : Packed target.build.paraSize) (reply : List UInt8)
        (node : SendNode),
      (∀ field ∈ fields, field.value merged =
        if field.netValue sent = field.ones then field.value old
        else field.netValue sent) ∧
      ((device target).step w' s).2 = [.send sampleCmdGetParam reply node] ∧
      reply.length = target.build.paraSize ∧
      (∀ field ∈ fields, field.netValue (Packed.ofList _ reply) =
        field.value (target.build.paraCheck merged)) ∧
      w'.para.own target.build.other = w.para.own target.build.other ∧
      ((device target).step w' s).1.para.own target.build.other =
        w.para.own target.build.other := by
  intro old sent fields
  obtain ⟨merged, hstore, hmerged⟩ := setPara_merges hset hr w
  obtain ⟨node, hreply⟩ := getPara_replies hget hs w'
  have hother : w'.para.own target.build.other =
      w.para.own target.build.other :=
    hbetween.other.trans (device_keepsOther target w r)
  refine ⟨merged, _, node, hmerged, hreply, Packed.length_toList _, ?_, hother,
    (device_keepsOther target w' s).trans hother⟩
  intro field hfield
  rw [Packed.ofList_toList,
    Packed.netValue_swap target.build.paraWords_apart _ hfield,
    hbetween.own, hstore]

end

/-- All ones but for the smoke threshold, of which only the low byte is. -/
def setSmoke : Frame where
  serialNum := 1
  vendorId := vendorId
  deviceId := sampleDeviceIdDms
  cmd := sampleCmdSetParam
  payload := List.replicate 21 0xFF ++ [0x00, 0xFF] ++ List.replicate 20 0xFF

def getPara : Frame where
  serialNum := 2
  vendorId := vendorId
  deviceId := sampleDeviceIdDms
  cmd := sampleCmdGetParam
  payload := []

theorem ofFrame_carries (env : Env) (f : Frame) :
    (Received.ofFrame env f).Carries f :=
  ⟨Mem.read_ofList f.bytes, rfl⟩

theorem setPara_getPara_smoke :
    let w := freshWorld dmsTcp
    let w' := ((device dmsTcp).step w (.ofFrame Env.plain setSmoke)).1
    ∃ reply node, ((device dmsTcp).step w' (.ofFrame Env.plain getPara)).2 =
        [.send sampleCmdGetParam reply node] ∧
      (Packed.Field.word DmsPara.smokeTimeIntervalThreshold).netValue
        (Packed.ofList 43 reply) = 255 := by
  intro w w'
  have hset : SetParaFrame dmsTcp setSmoke := ⟨rfl, rfl, rfl⟩
  have hget : GetParaFrame dmsTcp getPara := ⟨rfl, rfl, rfl⟩
  obtain ⟨merged, reply, node, hmerged, hreply, -, hvalues, -⟩ :=
    setPara_getPara hset (ofFrame_carries Env.plain setSmoke) hget
      (ofFrame_carries Env.plain getPara) w .refl
  have hfield : Packed.Field.word DmsPara.smokeTimeIntervalThreshold ∈
      Packed.fields DmsPara.words := by decide
  have hvalue := hvalues _ hfield
  have hsmoke := hmerged _ hfield
  exact ⟨reply, node, hreply, hvalue.trans (hsmoke.trans (by decide +kernel))⟩

end SanbaoProt
