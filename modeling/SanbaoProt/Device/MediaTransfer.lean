import SanbaoProt.Device.TransferStep
import SanbaoProt.Library.Slices

/-!
# Media transfer

A file is sent as packets, each sent when the one before it is acknowledged.
`Progress` is the invariant of a transfer: the packets handed to the send queue
so far are the first `packet_index` packets of the file.  It holds whatever
frames are handled and whatever the other threads do to the rest of the world,
until another request is accepted.
-/

namespace SanbaoProt

open Library

/-! ## The packets of a file -/

def packetCount (file : List UInt8) : Nat := sliceCount imageSizePerPacket file

def packetData (file : List UInt8) (k : Nat) : List UInt8 :=
  slice imageSizePerPacket file k

/-- The payload of packet `k`: an `MmPacketIndex` and the data. -/
def mediaPacket (type : UInt8) (id : UInt32) (file : List UInt8) (k : Nat) :
    List UInt8 :=
  type :: (toBE 4 id.toNat ++ toBE 2 (packetCount file) ++ toBE 2 k) ++
    packetData file k

/-- The sizes for which the packet counters do not overflow. -/
structure TransferableFile where
  content : List UInt8
  nonempty : 1 ≤ content.length
  fits : content.length ≤ 2 ^ 31 - imageSizePerPacket

namespace TransferableFile

variable (f : TransferableFile)

theorem packetCount_lt : packetCount f.content < 2 ^ 15 := by
  have hfits := f.fits
  simp only [packetCount, sliceCount, imageSizePerPacket] at *
  omega

theorem getFileSize_eq : getFileSize (some f.content) = f.content.length := by
  have hfits := f.fits
  have hrange : f.content.length < 2 ^ 31 := by
    simp only [imageSizePerPacket] at hfits
    omega
  exact cInt_of_range (by omega) (by omega)

theorem packetTotalNum_eq :
    packetTotalNum f.content.length = UInt16.ofNat (packetCount f.content) := by
  have hfits := f.fits
  have hnonempty := f.nonempty
  have hsum : cInt (f.content.length + imageSizePerPacket - 1) =
      ((f.content.length + imageSizePerPacket - 1 : Nat) : Int) := by
    simp only [imageSizePerPacket] at *
    rw [cInt_of_range] <;> omega
  have hcount := f.packetCount_lt
  have hquotient : packetCount f.content =
      (f.content.length + imageSizePerPacket - 1) / imageSizePerPacket := by
    rw [packetCount, sliceCount]
  rw [packetTotalNum, hsum, ← Int.ofNat_tdiv, ← hquotient]
  exact uint16_ofInt_natCast (by omega)

theorem readPacket_eq {index : UInt16} (h : index.toNat < 2 ^ 15) :
    readPacket f.content index = packetData f.content index.toNat := by
  have hoffset : cInt (index.toNat * imageSizePerPacket) =
      ((index.toNat * imageSizePerPacket : Nat) : Int) := by
    simp only [imageSizePerPacket]
    rw [cInt_of_range] <;> omega
  simp only [readPacket, hoffset]
  rfl

end TransferableFile

/-! ## The invariant of a transfer -/

structure SamePacket (t t' : Transfer) : Prop where
  type_eq : t'.type = t.type
  id_eq : t'.id = t.id
  total_eq : t'.packetTotalNum = t.packetTotalNum
  index_eq : t'.packetIndex = t.packetIndex

theorem SamePacket.of_eq {t t' : Transfer} (h : t' = t) : SamePacket t t' :=
  ⟨by rw [h], by rw [h], by rw [h], by rw [h]⟩

structure Progress (f : TransferableFile) (type : UInt8) (id : UInt32)
    (t : Transfer) (sent : List (List UInt8)) : Prop where
  type_eq : t.type = type
  id_eq : t.id = id
  total_eq : t.packetTotalNum.toNat = packetCount f.content
  index_le : t.packetIndex.toNat ≤ packetCount f.content
  sent_eq : sent = (List.range t.packetIndex.toNat).map
    (mediaPacket type id f.content)

section

variable {f : TransferableFile} {type : UInt8} {id : UInt32}
  {t : Transfer} {sent : List (List UInt8)}

theorem Progress.of_same {t' : Transfer} (h : Progress f type id t sent)
    (hsame : SamePacket t t') : Progress f type id t' sent where
  type_eq := hsame.type_eq.trans h.type_eq
  id_eq := hsame.id_eq.trans h.id_eq
  total_eq := by rw [hsame.total_eq, h.total_eq]
  index_le := by rw [hsame.index_eq]; exact h.index_le
  sent_eq := by rw [hsame.index_eq]; exact h.sent_eq

theorem Progress.length_sent (h : Progress f type id t sent) :
    sent.length = t.packetIndex.toNat := by
  rw [h.sent_eq, List.length_map, List.length_range]

theorem Progress.index_lt (h : Progress f type id t sent) :
    t.packetIndex.toNat < 2 ^ 15 :=
  Nat.lt_of_le_of_lt h.index_le f.packetCount_lt

theorem Progress.nextPacket (h : Progress f type id t sent) :
    mmPacketHeader t ++ readPacket f.content t.packetIndex =
      mediaPacket type id f.content t.packetIndex.toNat := by
  rw [f.readPacket_eq h.index_lt, mmPacketHeader, h.type_eq, h.id_eq,
    h.total_eq]
  rfl

theorem Progress.advance (h : Progress f type id t sent)
    (hdata : readPacket f.content t.packetIndex ≠ []) :
    Progress f type id { t with packetIndex := t.packetIndex + 1 }
      (sent ++ [mediaPacket type id f.content t.packetIndex.toNat]) := by
  have hmore : t.packetIndex.toNat < packetCount f.content := by
    rw [f.readPacket_eq h.index_lt] at hdata
    exact (slice_ne_nil_iff f.content (by decide) _).mp hdata
  have hnext : (t.packetIndex + 1).toNat = t.packetIndex.toNat + 1 :=
    toNat_advance (by rw [h.total_eq]; exact hmore)
  refine ⟨h.type_eq, h.id_eq, h.total_eq, ?_, ?_⟩
  · change (t.packetIndex + 1).toNat ≤ _
    rw [hnext]
    exact hmore
  · change _ = (List.range (t.packetIndex + 1).toNat).map _
    rw [hnext, List.range_succ, List.map_append, ← h.sent_eq]
    rfl

theorem sampleSendImage_progress {w : World}
    (h : Progress f type id w.transfer sent) {env : Env}
    (hfile : env.media id = some f.content) (target : Target) :
    Progress f type id (sampleSendImage target env w).1.transfer
        (sent ++ mediaPackets (sampleSendImage target env w).2) ∧
      ¬ DeclaresOver (sampleSendImage target env w).2 := by
  have hpacket := h.nextPacket
  unfold sampleSendImage
  rw [h.id_eq, hfile]
  simp only
  split_ifs with hsend
  · simp only [Act.andThen_fst, Act.andThen_snd, sendMessage_apply,
      Act.modify_apply, List.append_nil, mediaPackets_upload,
      mediaPackets_nil, hpacket]
    exact ⟨h.advance hsend.2, by simp [DeclaresOver]⟩
  · rw [mediaPackets_nil, List.append_nil]
    exact ⟨h, by simp [DeclaresOver]⟩

end

/-! ## Runs -/

theorem Progress.begin {f : TransferableFile} {r : Received}
    (hfile : r.env.media (requestedId r.msg) = some f.content) :
    Progress f (r.msg payloadOffset) (requestedId r.msg) (requestedTransfer r)
      [] := by
  have hlt := f.packetCount_lt
  refine ⟨rfl, rfl, ?_, Nat.zero_le _, rfl⟩
  change (packetTotalNum (getFileSize _)).toNat = _
  rw [hfile, f.getFileSize_eq, f.packetTotalNum_eq, UInt16.toNat_ofNat']
  exact Nat.mod_eq_of_lt (by omega)

theorem acceptedRequest_progress {f : TransferableFile} {target : Target}
    {w : World} {r : Received} (h : AcceptsRequest target w r)
    (hfile : r.env.media (requestedId r.msg) = some f.content) :
    let out := (device target).step w r
    Progress f (r.msg payloadOffset) (requestedId r.msg) out.1.transfer
      (mediaPackets out.2) ∧ ¬ DeclaresOver out.2 := by
  obtain ⟨hprogress, hopen⟩ := sampleSendImage_progress
    (w := requestedWorld target w r) (Progress.begin hfile) hfile target
  rw [device_accepts h]
  refine ⟨hprogress, fun hover => hopen ?_⟩
  simpa [DeclaresOver] using hover

theorem device_progress {f : TransferableFile} {type : UInt8} {id : UInt32}
    {target : Target} {w : World} {sent : List (List UInt8)}
    (h : Progress f type id w.transfer sent) {r : Received}
    (hnot : ¬ AcceptsRequest target w r)
    (hfile : r.env.media id = some f.content) :
    let out := (device target).step w r
    Progress f type id out.1.transfer (sent ++ mediaPackets out.2) ∧
      (DeclaresOver out.2 →
        out.1.transfer.packetIndex.toNat = packetCount f.content) := by
  by_cases hack : TakesAck target w r
  · by_cases hlast : w.transfer.packetTotalNum = w.transfer.packetIndex
    · rw [device_takesLast hack hlast]
      simp only [mediaPackets_noticeAck, mediaPackets_transmitOver,
        mediaPackets_nil, List.append_nil]
      refine ⟨h.of_same ⟨rfl, rfl, rfl, rfl⟩, fun _ => ?_⟩
      rw [← h.total_eq, hlast]
      rfl
    · obtain ⟨hprogress, hopen⟩ := sampleSendImage_progress
        (w := ackedWorld w r) h hfile target
      rw [device_takesNext hack hlast]
      refine ⟨hprogress, fun hover => absurd ?_ hopen⟩
      simpa [DeclaresOver] using hover
  · obtain ⟨htransfer, hpackets, hover⟩ := device_keepsTransfer hnot hack
    intro out
    rw [show mediaPackets out.2 = [] from hpackets, List.append_nil]
    exact ⟨h.of_same (.of_eq htransfer), fun hout => absurd hout hover⟩

/-- The runs that begin with an accepted request for the file and end before
the next one.  Between frames the other threads may change anything but the
packet of the transfer. -/
inductive TransferRun (target : Target) (f : TransferableFile)
    (type : UInt8) (id : UInt32) : World → List Effect → Prop where
  | request {w : World} {r : Received} (h : AcceptsRequest target w r)
      (htype : r.msg payloadOffset = type) (hid : requestedId r.msg = id)
      (hfile : r.env.media id = some f.content) :
      TransferRun target f type id ((device target).step w r).1
        ((device target).step w r).2
  | frame {w : World} {effects : List Effect}
      (h : TransferRun target f type id w effects) {r : Received}
      (hnot : ¬ AcceptsRequest target w r)
      (hfile : r.env.media id = some f.content) :
      TransferRun target f type id ((device target).step w r).1
        (effects ++ ((device target).step w r).2)
  | others {w w' : World} {effects : List Effect}
      (h : TransferRun target f type id w effects)
      (hsame : SamePacket w.transfer w'.transfer) :
      TransferRun target f type id w' effects

theorem TransferRun.progress {target : Target} {f : TransferableFile}
    {type : UInt8} {id : UInt32} {w : World} {effects : List Effect}
    (h : TransferRun target f type id w effects) :
    Progress f type id w.transfer (mediaPackets effects) ∧
      (DeclaresOver effects →
        w.transfer.packetIndex.toNat = packetCount f.content) := by
  induction h with
  | request h htype hid hfile =>
      subst htype hid
      obtain ⟨hprogress, hopen⟩ := acceptedRequest_progress h hfile
      exact ⟨hprogress, fun hover => absurd hover hopen⟩
  | @frame w effects h r hnot hfile ih =>
      obtain ⟨hbefore, hcomplete⟩ := ih
      obtain ⟨hafter, hnow⟩ := device_progress hbefore hnot hfile
      rw [mediaPackets_append]
      refine ⟨hafter, fun hover => ?_⟩
      rcases (declaresOver_append _ _).mp hover with hearlier | hlast
      · have hlength := hafter.length_sent
        have hle := hafter.index_le
        rw [List.length_append, hbefore.length_sent,
          hcomplete hearlier] at hlength
        omega
      · exact hnow hlast
  | others h hsame ih =>
      refine ⟨ih.1.of_same hsame, fun hover => ?_⟩
      rw [hsame.index_eq]
      exact ih.2 hover

def dataOfPacket (packet : List UInt8) : List UInt8 := packet.drop 9

@[simp] theorem dataOfPacket_mediaPacket (type : UInt8) (id : UInt32)
    (file : List UInt8) (k : Nat) :
    dataOfPacket (mediaPacket type id file k) = packetData file k := by
  have hheader : (type :: (toBE 4 id.toNat ++ toBE 2 (packetCount file) ++
      toBE 2 k)).length = 9 := by simp
  rw [dataOfPacket, mediaPacket, ← hheader, List.drop_left]

theorem packetData_length {file : List UInt8} {k : Nat}
    (h : k < packetCount file) :
    1 ≤ (packetData file k).length ∧
      (packetData file k).length ≤ imageSizePerPacket := by
  constructor
  · exact List.length_pos_iff.mpr
      ((slice_ne_nil_iff file (by decide) k).mpr h)
  · exact length_slice_le imageSizePerPacket file k

/-- At any moment of a transfer the packets handed to the send queue are
packets `0, 1, 2, …` of the file, in order and each once; when the transfer is
declared over they are the whole file. -/
theorem transfer_delivers {target : Target} {f : TransferableFile}
    {type : UInt8} {id : UInt32} {w : World} {effects : List Effect}
    (h : TransferRun target f type id w effects) :
    ∃ count, mediaPackets effects =
        (List.range count).map (mediaPacket type id f.content) ∧
      count ≤ packetCount f.content ∧ packetCount f.content < 2 ^ 15 ∧
      (∀ packet ∈ mediaPackets effects,
        1 ≤ (dataOfPacket packet).length ∧
          (dataOfPacket packet).length ≤ imageSizePerPacket) ∧
      (DeclaresOver effects →
        ((mediaPackets effects).map dataOfPacket).flatten = f.content) := by
  obtain ⟨hprogress, hcomplete⟩ := h.progress
  refine ⟨w.transfer.packetIndex.toNat, hprogress.sent_eq,
    hprogress.index_le, f.packetCount_lt, ?_, ?_⟩
  · intro packet hpacket
    rw [hprogress.sent_eq] at hpacket
    obtain ⟨k, hk, rfl⟩ := List.mem_map.mp hpacket
    rw [dataOfPacket_mediaPacket]
    exact packetData_length
      (Nat.lt_of_lt_of_le (List.mem_range.mp hk) hprogress.index_le)
  · intro hover
    rw [hprogress.sent_eq, hcomplete hover, List.map_map]
    have hdata : dataOfPacket ∘ mediaPacket type id f.content =
        packetData f.content := by
      funext k
      rw [Function.comp_apply, dataOfPacket_mediaPacket]
    rw [hdata]
    exact flatten_all_slices f.content (by decide)

/-! ## A host that acknowledges each packet -/

def mediaAck (env : Env) (b : Build) (id total index : Nat) : Received :=
  .ofFrame env ⟨2, vendorId, b.deviceId, sampleCmdUploadMmData,
    0 :: toBE 4 id ++ toBE 2 total ++ toBE 2 index ++ [0]⟩

theorem mediaAck_takes {target : Target} {w : World} {index : Nat}
    (h : w.transfer.packetIndex.toNat = index + 1) (env : Env)
    (id total : Nat) :
    TakesAck target w (mediaAck env target.build id total index) := by
  have hlt := w.transfer.packetIndex.toNat_lt
  have hbuffer : InBuffer _ (mediaAck env target.build id total index).msg :=
    Mem.read_ofList _
  obtain ⟨-, hdevice, hcmd⟩ := hbuffer.header
  refine ⟨.inl hdevice, hcmd, rfl, ?_⟩
  have hindex : (mediaAck env target.build id total index).msg.read
      (payloadOffset + 7) 2 = toBE 2 index := rfl
  rw [ackPacketIndex, hindex, ofBE_toBE (by omega), h]

section

variable {target : Target} {f : TransferableFile} {w : World} {r : Received}

theorem TransferableFile.nextData_some {env : Env} {t : Transfer}
    (hallocated : env.allocated = true)
    (hfile : env.media t.id = some f.content)
    (hmore : t.packetIndex.toNat < packetCount f.content) :
    ∃ data, nextData env t = some data := by
  have hlt := f.packetCount_lt
  refine ⟨_, nextData_of_media hallocated hfile ?_⟩
  rw [f.readPacket_eq (by omega)]
  exact List.length_pos_iff.mp (packetData_length hmore).1

/-- A request is accepted, and as many packets have been sent. -/
theorem exists_transferRun (hrequest : AcceptsRequest target w r)
    (hfile : r.env.media (requestedId r.msg) = some f.content)
    (hallocated : r.env.allocated = true) (j : Nat)
    (hj : j < packetCount f.content) :
    ∃ w' effects, TransferRun target f (r.msg payloadOffset)
        (requestedId r.msg) w' effects ∧
      w'.transfer.packetIndex.toNat = j + 1 := by
  have hlt := f.packetCount_lt
  induction j with
  | zero =>
      obtain ⟨data, hdata⟩ := f.nextData_some (t := requestedTransfer r)
        hallocated hfile hj
      refine ⟨_, _, .request hrequest rfl rfl hfile, ?_⟩
      rw [device_starts hrequest hdata]
      rfl
  | succ j ih =>
      obtain ⟨w', effects, hrun, hindex⟩ := ih (by omega)
      have hprogress := hrun.progress.1
      have hack : TakesAck target w' (mediaAck r.env target.build
          (requestedId r.msg).toNat (packetCount f.content) j) :=
        mediaAck_takes hindex r.env _ _
      have hnot : ¬ AcceptsRequest target w' (mediaAck r.env target.build
          (requestedId r.msg).toNat (packetCount f.content) j) :=
        fun h => absurd (hack.cmd.symm.trans h.cmd) (by decide)
      refine ⟨_, _, hrun.frame hnot hfile, ?_⟩
      have hmore : w'.transfer.packetTotalNum ≠ w'.transfer.packetIndex := by
        intro hlast
        have htotal := hprogress.total_eq
        rw [hlast, hindex] at htotal
        omega
      have hmedia : r.env.media w'.transfer.id = some f.content := by
        rw [hprogress.id_eq]
        exact hfile
      obtain ⟨data, hdata⟩ := f.nextData_some hallocated hmedia
        (by rw [hindex]; exact hj)
      have hnext : ((device target).step w' _).1.transfer =
          w'.transfer.advance :=
        congrArg (fun out => out.1.transfer)
          (device_sendsNext hack hmore hdata)
      have hadvance : w'.transfer.advance.packetIndex.toNat =
          w'.transfer.packetIndex.toNat + 1 := by
        apply toNat_advance
        rw [hprogress.total_eq, hindex]
        exact hj
      rw [hnext, hadvance, hindex]

/-- The acknowledgement of the last packet ends the transfer. -/
theorem exists_transferRun_over (hrequest : AcceptsRequest target w r)
    (hfile : r.env.media (requestedId r.msg) = some f.content)
    (hallocated : r.env.allocated = true) :
    ∃ w' effects, TransferRun target f (r.msg payloadOffset)
      (requestedId r.msg) w' effects ∧ DeclaresOver effects := by
  have hpos : 0 < packetCount f.content := by
    have hnonempty := f.nonempty
    simp only [packetCount, sliceCount, imageSizePerPacket]
    omega
  obtain ⟨w', effects, hrun, hindex⟩ := exists_transferRun hrequest hfile
    hallocated (packetCount f.content - 1) (by omega)
  have hprogress := hrun.progress.1
  have hack : TakesAck target w' (mediaAck r.env target.build
      (requestedId r.msg).toNat (packetCount f.content)
      (packetCount f.content - 1)) :=
    mediaAck_takes hindex r.env _ _
  have hnot : ¬ AcceptsRequest target w' (mediaAck r.env target.build
      (requestedId r.msg).toNat (packetCount f.content)
      (packetCount f.content - 1)) :=
    fun h => absurd (hack.cmd.symm.trans h.cmd) (by decide)
  have hlast : w'.transfer.packetTotalNum = w'.transfer.packetIndex := by
    apply UInt16.toNat_inj.mp
    rw [hprogress.total_eq, hindex]
    omega
  refine ⟨_, _, hrun.frame hnot hfile, ?_⟩
  rw [declaresOver_append, device_takesLast hack hlast]
  exact .inr ⟨w'.transfer.id, by simp⟩

end

def twoPacketFile : TransferableFile where
  content := List.replicate (imageSizePerPacket + 1) 0x55
  nonempty := by
    rw [List.length_replicate]
    decide
  fits := by
    rw [List.length_replicate]
    decide

theorem twoPacketFile_count : packetCount twoPacketFile.content = 2 := by
  have hlength : twoPacketFile.content.length = imageSizePerPacket + 1 :=
    List.length_replicate
  rw [packetCount, sliceCount, hlength]
  decide

def twoPacketEnv : Env :=
  { Env.plain with
    media := fun id => if id = 7 then some twoPacketFile.content else none }

def requestFrame : Frame where
  serialNum := 1
  vendorId := vendorId
  deviceId := sampleDeviceIdAdas
  cmd := sampleCmdReqMmData
  payload := 0 :: toBE 4 7

theorem requestFrame_id (env : Env) :
    requestedId (Received.ofFrame env requestFrame).msg = 7 ∧
      (Received.ofFrame env requestFrame).msg payloadOffset = 0 := by
  have hmsg : (Received.ofFrame env requestFrame).msg =
      Mem.ofList requestFrame.bytes := rfl
  rw [hmsg]
  decide +kernel

theorem twoPacketEnv_media : twoPacketEnv.media 7 =
    some twoPacketFile.content := by
  change (if (7 : UInt32) = 7 then some twoPacketFile.content else none) = _
  exact if_pos rfl

theorem requestFrame_accepted : AcceptsRequest adasTcp World.zero
    (.ofFrame twoPacketEnv requestFrame) := by
  have hbuffer : InBuffer requestFrame
      (Received.ofFrame twoPacketEnv requestFrame).msg := Mem.read_ofList _
  obtain ⟨-, hdevice, hcmd⟩ := hbuffer.header
  refine ⟨.inl hdevice, hcmd, rfl, rfl, ?_⟩
  rw [(requestFrame_id twoPacketEnv).1]
  change 0 < getFileSize (twoPacketEnv.media 7)
  rw [twoPacketEnv_media, twoPacketFile.getFileSize_eq]
  exact_mod_cast twoPacketFile.nonempty

theorem transfer_delivers_twoPackets :
    ∃ w effects, TransferRun adasTcp twoPacketFile 0 7 w effects ∧
      (mediaPackets effects).length = 2 ∧
      ((mediaPackets effects).map dataOfPacket).flatten =
        twoPacketFile.content := by
  obtain ⟨hid, htype⟩ := requestFrame_id twoPacketEnv
  have hfile : twoPacketEnv.media (requestedId
      (Received.ofFrame twoPacketEnv requestFrame).msg) =
        some twoPacketFile.content := by
    rw [hid]
    exact twoPacketEnv_media
  obtain ⟨w, effects, hrun, hover⟩ :=
    exists_transferRun_over requestFrame_accepted hfile rfl
  rw [hid, htype] at hrun
  have hlength : (mediaPackets effects).length = 2 := by
    rw [hrun.progress.1.length_sent, hrun.progress.2 hover,
      twoPacketFile_count]
  obtain ⟨-, -, -, -, -, hwhole⟩ := transfer_delivers hrun
  exact ⟨w, effects, hrun, hlength, hwhole hover⟩

end SanbaoProt
