import SanbaoProt.Device.Footprint

/-!
# What a frame does to the media transfer

There are two ways for a received frame to move the transfer: a request that is
accepted starts it, and an acknowledgement that is taken sends the next packet
or ends it.  Neither looks at the media id of the acknowledgement, and the
second does not look at whether a transfer is active.  `device_keepsTransfer`
says that every other frame leaves the transfer alone.
-/

namespace SanbaoProt

open Library

/-! ## Packets among the effects -/

def mediaPackets (effects : List Effect) : List (List UInt8) :=
  effects.filterMap fun
    | .send cmd payload _ =>
        if cmd = sampleCmdUploadMmData then some payload else none
    | _ => none

@[simp] theorem mediaPackets_nil : mediaPackets [] = [] := rfl

@[simp] theorem mediaPackets_append (first second : List Effect) :
    mediaPackets (first ++ second) =
      mediaPackets first ++ mediaPackets second :=
  List.filterMap_append

@[simp] theorem mediaPackets_noticeAck (effects : List Effect) :
    mediaPackets (.noticeAck :: effects) = mediaPackets effects := rfl

@[simp] theorem mediaPackets_transmitOver (id : UInt32)
    (effects : List Effect) :
    mediaPackets (.transmitOver id :: effects) = mediaPackets effects := rfl

@[simp] theorem mediaPackets_upload (payload : List UInt8) (node : SendNode)
    (effects : List Effect) :
    mediaPackets (.send sampleCmdUploadMmData payload node :: effects) =
      payload :: mediaPackets effects := rfl

def DeclaresOver (effects : List Effect) : Prop :=
  ∃ id, .transmitOver id ∈ effects

@[simp] theorem declaresOver_append (first second : List Effect) :
    DeclaresOver (first ++ second) ↔
      DeclaresOver first ∨ DeclaresOver second := by
  simp [DeclaresOver, exists_or]

def Effect.isMedia : Effect → Bool
  | .send cmd _ _ => cmd = sampleCmdUploadMmData
  | .transmitOver _ => true
  | _ => false

theorem no_media (effects : List Effect)
    (h : ∀ e ∈ effects, e.isMedia = false) :
    mediaPackets effects = [] ∧ ¬ DeclaresOver effects := by
  constructor
  · rw [mediaPackets, List.filterMap_eq_nil_iff]
    intro e he
    have hmedia := h e he
    cases e with
    | send cmd payload node =>
        have hcmd : cmd ≠ sampleCmdUploadMmData := of_decide_eq_false hmedia
        simp [hcmd]
    | _ => rfl
  · rintro ⟨id, hid⟩
    exact absurd (h _ hid) (by simp [Effect.isMedia])

theorem isMedia_of_reporting {e : Effect} (h : e.isReporting = true) :
    e.isMedia = false := by
  cases e with
  | send cmd payload node => simpa [Effect.isMedia, Effect.isReporting] using h
  | transmitOver id => cases h
  | _ => rfl

theorem isMedia_of_upgrading {e : Effect} (h : e.isUpgrading = true) :
    e.isMedia = false := by
  cases e with
  | send cmd payload node => cases h
  | transmitOver id => cases h
  | _ => rfl

theorem CoreStep.keepsTransfer {w : World} {cmd : Option SampleCmd}
    {out : World × List Effect} (h : CoreStep w cmd out)
    (hreq : cmd ≠ some .reqMmData) (hupload : cmd ≠ some .uploadMmData) :
    out.1.transfer = w.transfer ∧ mediaPackets out.2 = [] ∧
      ¬ DeclaresOver out.2 := by
  cases h with
  | quiet h =>
      exact ⟨h.1.transfer,
        no_media _ fun e he => isMedia_of_reporting (h.2 e he)⟩
  | para _ _ _ h =>
      exact ⟨h.1.transfer,
        no_media _ fun e he => isMedia_of_reporting (h.2 e he)⟩
  | speed _ h =>
      exact ⟨h.1.transfer,
        no_media _ fun e he => isMedia_of_reporting (h.2 e he)⟩
  | ack =>
      refine ⟨rfl, no_media _ fun e he => ?_⟩
      rw [List.mem_singleton.mp he]
      rfl
  | upgrade h =>
      obtain ⟨⟨upgrade, running, hcore⟩, heffects⟩ := h
      refine ⟨hcore.transfer, no_media _ fun e he => ?_⟩
      rcases heffects e he with hreporting | hupgrading
      · exact isMedia_of_reporting hreporting
      · exact isMedia_of_upgrading hupgrading
  | media hcmd _ =>
      rcases hcmd with rfl | rfl
      · exact absurd rfl hreq
      · exact absurd rfl hupload

/-! ## Requests and acknowledgements -/

structure AcceptsRequest (target : Target) (w : World) (r : Received) :
    Prop where
  forDevice : isForDevice target r.msg
  cmd : headerCmd r.msg = sampleCmdReqMmData
  idle : w.transfer.mmDataTransWaiting = false
  length : r.len = mmHeaderSize + headerSize + 1
  found : 0 < getFileSize (r.env.media (requestedId r.msg))

theorem sendMmReqAck_refused (target : Target) (env : Env) (w : World)
    (msg : Mem UInt8) (len : Nat)
    (h : ¬ (w.transfer.mmDataTransWaiting = false ∧
      len = mmHeaderSize + headerSize + 1 ∧
      0 < getFileSize (env.media (requestedId msg)))) :
    sendMmReqAck target env w msg len = ⟨w, msg, []⟩ := by
  unfold sendMmReqAck
  simp only
  split_ifs with hrefused hfound
  · rfl
  · obtain ⟨hidle, hlength⟩ := not_or.mp hrefused
    exact absurd ⟨Bool.eq_false_iff.mpr hidle, not_not.mp hlength, hfound⟩ h
  · rfl

/-- The acknowledgements that `recv_ack_and_send_image` goes along with. -/
structure TakesAck (target : Target) (w : World) (r : Received) : Prop where
  forDevice : isForDevice target r.msg
  cmd : headerCmd r.msg = sampleCmdUploadMmData
  positive : ackByte r.msg = 0
  index : w.transfer.packetIndex.toNat = ackPacketIndex r.msg + 1

/-- The world in which the handler of a frame starts. -/
def notedWorld (w : World) (r : Received) : World :=
  { w with send := recordRecvNum (headerSerialNum r.msg) w.send }

/-! ## The next packet -/

/-- The data that `sample_send_image` gets to send, if any. -/
def nextData (env : Env) (t : Transfer) : Option (List UInt8) :=
  match env.media t.id with
  | none => none
  | some content =>
      let data := readPacket content t.packetIndex
      if env.allocated = true ∧ data ≠ [] then some data else none

def Transfer.advance (t : Transfer) : Transfer :=
  { t with packetIndex := t.packetIndex + 1 }

def Transfer.released (t : Transfer) : Transfer :=
  { t with mmDataTransWaiting := false }

def nextPayload (t : Transfer) (data : List UInt8) : List UInt8 :=
  mmPacketHeader t ++ data

def packetSent (target : Target) (w : World) (data : List UInt8) : World :=
  { sentWorld target w sampleCmdUploadMmData (nextPayload w.transfer data) with
    transfer := w.transfer.advance }

theorem toNat_advance {t : Transfer}
    (h : t.packetIndex.toNat < t.packetTotalNum.toNat) :
    t.advance.packetIndex.toNat = t.packetIndex.toNat + 1 := by
  have hlt := t.packetTotalNum.toNat_lt
  change (t.packetIndex + 1).toNat = _
  rw [UInt16.toNat_add]
  exact Nat.mod_eq_of_lt (by
    change t.packetIndex.toNat + 1 < 2 ^ 16
    omega)

section

variable {target : Target} {env : Env} {w : World} {data : List UInt8}

theorem sampleSendImage_none (h : nextData env w.transfer = none) :
    sampleSendImage target env w = (w, []) := by
  unfold nextData at h
  unfold sampleSendImage
  cases hmedia : env.media w.transfer.id with
  | none => rfl
  | some content =>
      simp only [hmedia] at h ⊢
      split_ifs at h ⊢ with hsend
      rfl

theorem sampleSendImage_some (h : nextData env w.transfer = some data) :
    sampleSendImage target env w =
      (packetSent target w data,
        [.send sampleCmdUploadMmData (nextPayload w.transfer data)
          (sentNode target w sampleCmdUploadMmData
            (nextPayload w.transfer data))]) := by
  unfold nextData at h
  unfold sampleSendImage
  cases hmedia : env.media w.transfer.id with
  | none => simp [hmedia] at h
  | some content =>
      simp only [hmedia] at h ⊢
      split_ifs at h ⊢ with hsend
      obtain rfl := Option.some.inj h
      rw [Act.andThen, sendMessage_apply]
      rfl

theorem readPacket_ne_nil {content : List UInt8} {packetIndex : UInt16}
    (h : (cInt (packetIndex.toNat * imageSizePerPacket)).toNat <
      content.length) : readPacket content packetIndex ≠ [] := by
  have hsize : 0 < imageSizePerPacket := by decide
  rw [readPacket, ← List.length_pos_iff, List.length_take, List.length_drop]
  omega

theorem nextData_of_media {t : Transfer} {content : List UInt8}
    (hallocated : env.allocated = true) (hmedia : env.media t.id = some content)
    (hdata : readPacket content t.packetIndex ≠ []) :
    nextData env t = some (readPacket content t.packetIndex) := by
  unfold nextData
  simp only [hmedia]
  exact if_pos ⟨hallocated, hdata⟩

theorem nextData_ne_nil {t : Transfer} (h : nextData env t = some data) :
    data ≠ [] := by
  unfold nextData at h
  cases hmedia : env.media t.id with
  | none => simp [hmedia] at h
  | some content =>
      simp only [hmedia] at h
      split_ifs at h with hsend
      obtain rfl := Option.some.inj h
      exact hsend.2

theorem nextData_length_le {t : Transfer} (h : nextData env t = some data) :
    data.length ≤ imageSizePerPacket := by
  unfold nextData at h
  cases hmedia : env.media t.id with
  | none => simp [hmedia] at h
  | some content =>
      simp only [hmedia] at h
      split_ifs at h with hsend
      obtain rfl := Option.some.inj h
      exact List.length_take_le _ _

end

/-! ## The step of a frame -/

section

variable {target : Target} {w : World} {r : Received}

theorem device_handles (h : isForDevice target r.msg) :
    (device target).step w r =
      (handleCmd target r.env (notedWorld w r) r.msg r.len).result := by
  simp only [device, sampleOnCmd]
  rw [if_pos h]
  rfl

theorem device_skips (h : ¬ isForDevice target r.msg) :
    (device target).step w r = (w, []) := by
  simp only [device, sampleOnCmd]
  rw [if_neg h]
  rfl

def requestedTransfer (r : Received) : Transfer :=
  startedTransfer r.msg (getFileSize (r.env.media (requestedId r.msg)))

/-- The world of a request that has been accepted and acknowledged. -/
def requestedWorld (target : Target) (w : World) (r : Received) : World :=
  { sentWorld target (notedWorld w r) sampleCmdReqMmData [] with
    transfer := requestedTransfer r }

theorem device_accepts (h : AcceptsRequest target w r) :
    (device target).step w r =
      ((sampleSendImage target r.env (requestedWorld target w r)).1,
        .send sampleCmdReqMmData []
          (sentNode target (notedWorld w r) sampleCmdReqMmData []) ::
          (sampleSendImage target r.env (requestedWorld target w r)).2) := by
  have hrefused : ¬ ((notedWorld w r).transfer.mmDataTransWaiting = true ∨
      r.len ≠ mmHeaderSize + headerSize + 1) := by
    rw [not_or, not_not]
    exact ⟨Bool.eq_false_iff.mp h.idle, h.length⟩
  obtain ⟨hworld, heffects, -⟩ := messageQueueSend_spec target
    (notedWorld w r) r.msg sampleCmdReqMmData []
  rw [device_handles h.forDevice, handleCmd_reqMmData _ _ _ _ h.cmd,
    sendMmReqAck, if_neg hrefused]
  simp only
  rw [if_pos h.found]
  simp only [Handled.result, Handled.andThen, hworld, heffects]
  rfl

theorem device_starts (h : AcceptsRequest target w r) {data : List UInt8}
    (hdata : nextData r.env (requestedTransfer r) = some data) :
    (device target).step w r =
      (packetSent target (requestedWorld target w r) data,
        [.send sampleCmdReqMmData []
            (sentNode target (notedWorld w r) sampleCmdReqMmData []),
          .send sampleCmdUploadMmData (nextPayload (requestedTransfer r) data)
            (sentNode target (requestedWorld target w r) sampleCmdUploadMmData
              (nextPayload (requestedTransfer r) data))]) := by
  have hsent : sampleSendImage target r.env (requestedWorld target w r) = _ :=
    sampleSendImage_some hdata
  rw [device_accepts h, hsent]
  rfl

theorem device_startsNone (h : AcceptsRequest target w r)
    (hdata : nextData r.env (requestedTransfer r) = none) :
    (device target).step w r =
      (requestedWorld target w r,
        [.send sampleCmdReqMmData []
          (sentNode target (notedWorld w r) sampleCmdReqMmData [])]) := by
  have hsent : sampleSendImage target r.env (requestedWorld target w r) = _ :=
    sampleSendImage_none hdata
  rw [device_accepts h, hsent]

/-- The world in which an acknowledgement has been noticed. -/
def ackedWorld (w : World) (r : Received) : World :=
  { notedWorld w r with recvAck := true }

theorem recvAckAndSendImage_taken (h : TakesAck target w r) :
    (device target).step w r =
      recvAckAndSendImage target r.env r.msg (notedWorld w r) ∧
      ¬ ackByte r.msg ≠ 0 ∧
      ¬ (notedWorld w r).transfer.packetIndex.toNat ≠
        ackPacketIndex r.msg + 1 := by
  rw [device_handles h.forDevice, handleCmd_uploadMmData _ _ _ _ h.cmd]
  exact ⟨rfl, not_not.mpr h.positive, not_not.mpr h.index⟩

theorem device_takesLast (h : TakesAck target w r)
    (hlast : w.transfer.packetTotalNum = w.transfer.packetIndex) :
    (device target).step w r =
      ({ ackedWorld w r with transfer := w.transfer.released },
        [.noticeAck, .transmitOver w.transfer.id]) := by
  obtain ⟨hstep, hack, hindex⟩ := recvAckAndSendImage_taken h
  rw [hstep, recvAckAndSendImage, if_neg hack, if_neg hindex]
  exact if_pos hlast

theorem device_takesNext (h : TakesAck target w r)
    (hmore : w.transfer.packetTotalNum ≠ w.transfer.packetIndex) :
    (device target).step w r =
      ((sampleSendImage target r.env (ackedWorld w r)).1,
        .noticeAck :: (sampleSendImage target r.env (ackedWorld w r)).2) := by
  obtain ⟨hstep, hack, hindex⟩ := recvAckAndSendImage_taken h
  rw [hstep, recvAckAndSendImage, if_neg hack, if_neg hindex]
  exact if_neg hmore

theorem device_sendsNext (h : TakesAck target w r)
    (hmore : w.transfer.packetTotalNum ≠ w.transfer.packetIndex)
    {data : List UInt8} (hdata : nextData r.env w.transfer = some data) :
    (device target).step w r =
      (packetSent target (ackedWorld w r) data,
        [.noticeAck, .send sampleCmdUploadMmData (nextPayload w.transfer data)
          (sentNode target (ackedWorld w r) sampleCmdUploadMmData
            (nextPayload w.transfer data))]) := by
  have hsent : sampleSendImage target r.env (ackedWorld w r) = _ :=
    sampleSendImage_some hdata
  rw [device_takesNext h hmore, hsent]
  rfl

theorem device_sendsNone (h : TakesAck target w r)
    (hmore : w.transfer.packetTotalNum ≠ w.transfer.packetIndex)
    (hdata : nextData r.env w.transfer = none) :
    (device target).step w r = (ackedWorld w r, [.noticeAck]) := by
  have hsent : sampleSendImage target r.env (ackedWorld w r) = _ :=
    sampleSendImage_none hdata
  rw [device_takesNext h hmore, hsent]

/-- An acknowledgement that is not taken is without effect. -/
theorem device_ignoresAck (hcmd : headerCmd r.msg = sampleCmdUploadMmData)
    (hack : ¬ TakesAck target w r) :
    (device target).step w r = (w, []) ∨
      (device target).step w r = (notedWorld w r, []) := by
  by_cases hfor : isForDevice target r.msg
  · right
    rw [device_handles hfor, handleCmd_uploadMmData _ _ _ _ hcmd]
    exact recvAckAndSendImage_idle (w := notedWorld w r) fun htaken =>
      hack ⟨hfor, hcmd, htaken.1, htaken.2⟩
  · exact .inl (device_skips hfor)

/-- A frame that neither starts nor acknowledges leaves the transfer as it
is, sends no packet and declares nothing over. -/
theorem device_keepsTransfer (hrequest : ¬ AcceptsRequest target w r)
    (hack : ¬ TakesAck target w r) :
    ((device target).step w r).1.transfer = w.transfer ∧
      mediaPackets ((device target).step w r).2 = [] ∧
      ¬ DeclaresOver ((device target).step w r).2 := by
  have hsilent : ¬ DeclaresOver [] := by simp [DeclaresOver]
  by_cases hfor : isForDevice target r.msg
  · by_cases hreq : headerCmd r.msg = sampleCmdReqMmData
    · have hrefused := sendMmReqAck_refused target r.env (notedWorld w r)
        r.msg r.len fun haccept => hrequest
          ⟨hfor, hreq, haccept.1, haccept.2.1, haccept.2.2⟩
      rw [device_handles hfor, handleCmd_reqMmData _ _ _ _ hreq, hrefused]
      exact ⟨rfl, rfl, hsilent⟩
    by_cases hupload : headerCmd r.msg = sampleCmdUploadMmData
    · rcases device_ignoresAck hupload hack with hstep | hstep
      · rw [hstep]
        exact ⟨rfl, rfl, hsilent⟩
      · rw [hstep]
        exact ⟨rfl, rfl, hsilent⟩
    rw [device_handles hfor]
    exact (handleCmd_coreStep target r.env (notedWorld w r) r.msg
      r.len).keepsTransfer (fun hc => hreq (SampleCmd.code_of_ofCode hc))
      (fun hc => hupload (SampleCmd.code_of_ofCode hc))
  · rw [device_skips hfor]
    exact ⟨rfl, rfl, hsilent⟩

end

end SanbaoProt
