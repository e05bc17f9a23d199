import SanbaoProt.Device.Footprint

/-!
# The installer

The frames that transfer an upgrade image drive a small machine over the
statics of `recv_upgrade_file` and the file: `installer`.  The device follows
it (`device_installs`).  `takeData_run_appends` says what the file comes to
when the offset is the length of the file, `takeData_run_length` how long it is
when the offset is not.
-/

namespace SanbaoProt

open Library

/-! ## The file -/

theorem writeAt_end (file : Option (List UInt8)) (data : List UInt8) :
    writeAt file (file.getD []).length data = file.getD [] ++ data := by
  unfold writeAt
  simp only
  split_ifs with hdata
  · rw [hdata, List.append_nil]
  · rw [List.take_length, Nat.sub_self, List.replicate_zero,
      List.append_nil, List.drop_eq_nil_of_le (by omega), List.append_nil]

theorem length_writeAt (file : Option (List UInt8)) (offset : Nat)
    {data : List UInt8} (hdata : data ≠ []) :
    (writeAt file offset data).length =
      max (file.getD []).length (offset + data.length) := by
  unfold writeAt
  simp only
  rw [if_neg hdata]
  simp only [List.length_append, List.length_take, List.length_replicate,
    List.length_drop]
  omega

theorem length_le_writeAt (file : Option (List UInt8)) (offset : Nat)
    (data : List UInt8) :
    (file.getD []).length ≤ (writeAt file offset data).length := by
  by_cases hdata : data = []
  · rw [writeAt, if_pos hdata]
  · rw [length_writeAt file offset hdata]
    exact Nat.le_max_left _ _

/-! ## One packet -/

def dataOf (r : Received) : List UInt8 := upgradeData r.msg r.len

def writtenOf (r : Received) : List UInt8 :=
  if r.env.upgradeOpened = true then (dataOf r).take r.env.upgradeWritten
  else []

def takeData (u : Upgrade) (r : Received) : Upgrade :=
  writeUpgradeData r.env u (dataOf r)

@[simp] theorem takeData_sum (u : Upgrade) (r : Received) :
    (takeData u r).sum = u.sum := by
  unfold takeData writeUpgradeData
  simp only
  split_ifs
  · rfl
  · rfl

@[simp] theorem takeData_sumNew (u : Upgrade) (r : Received) :
    (takeData u r).sumNew = u.sumNew + byteSum (dataOf r) := by
  simp only [takeData, writeUpgradeData]

@[simp] theorem takeData_offset (u : Upgrade) (r : Received) :
    (takeData u r).offset =
      u.offset + UInt32.ofNat (writtenOf r).length := by
  unfold takeData writeUpgradeData writtenOf
  simp only
  split_ifs
  · rfl
  · exact (UInt32.add_zero _).symm

theorem takeData_file (u : Upgrade) {r : Received}
    (hopened : r.env.upgradeOpened = true) :
    (takeData u r).file =
      some (writeAt u.file u.offset.toNat (writtenOf r)) := by
  simp only [takeData, writeUpgradeData, writtenOf, hopened, if_true]

theorem takeData_file_closed (u : Upgrade) {r : Received}
    (hclosed : r.env.upgradeOpened ≠ true) :
    (takeData u r).file = u.file ∧ writtenOf r = [] := by
  unfold takeData writeUpgradeData writtenOf
  simp only [if_neg hclosed, and_self]

def Upgrade.AtEnd (u : Upgrade) : Prop :=
  u.offset.toNat = (u.file.getD []).length

theorem takeData_appends {u : Upgrade} (h : u.AtEnd) {r : Received}
    (hfits : (u.file.getD []).length + (writtenOf r).length < 2 ^ 32) :
    (takeData u r).AtEnd ∧
      (takeData u r).file.getD [] = u.file.getD [] ++ writtenOf r := by
  have hfile : (takeData u r).file.getD [] =
      u.file.getD [] ++ writtenOf r := by
    by_cases hopened : r.env.upgradeOpened = true
    · rw [takeData_file u hopened, h, writeAt_end]
      rfl
    · obtain ⟨hkeep, hnone⟩ := takeData_file_closed u hopened
      rw [hkeep, hnone, List.append_nil]
  refine ⟨?_, hfile⟩
  rw [Upgrade.AtEnd, hfile, takeData_offset, UInt32.toNat_add, h,
    UInt32.toNat_ofNat', List.length_append, Nat.add_mod_mod]
  exact Nat.mod_eq_of_lt hfits

/-! ## Several packets -/

theorem takeData_run (u : Upgrade) (frames : List Received) :
    let u' := frames.foldl takeData u
    u'.sum = u.sum ∧
      u'.sumNew = u.sumNew + byteSum (frames.flatMap dataOf) ∧
      u'.offset =
        u.offset + UInt32.ofNat (frames.flatMap writtenOf).length := by
  induction frames generalizing u with
  | nil =>
      exact ⟨rfl, (UInt32.add_zero _).symm, (UInt32.add_zero _).symm⟩
  | cons r frames ih =>
      obtain ⟨hsum, hnew, hoffset⟩ := ih (takeData u r)
      refine ⟨?_, ?_, ?_⟩
      · rw [List.foldl_cons, hsum, takeData_sum]
      · rw [List.foldl_cons, hnew, takeData_sumNew, List.flatMap_cons,
          byteSum_append, UInt32.add_assoc]
      · rw [List.foldl_cons, hoffset, takeData_offset, List.flatMap_cons,
          List.length_append, UInt32.ofNat_add, UInt32.add_assoc]

theorem takeData_run_appends {u : Upgrade} (h : u.AtEnd)
    (frames : List Received)
    (hfits : (u.file.getD []).length +
      (frames.flatMap writtenOf).length < 2 ^ 32) :
    (frames.foldl takeData u).file.getD [] =
      u.file.getD [] ++ frames.flatMap writtenOf := by
  induction frames generalizing u with
  | nil => simp
  | cons r frames ih =>
      rw [List.flatMap_cons, List.length_append] at hfits
      obtain ⟨hend, hfile⟩ := takeData_appends h (r := r) (by omega)
      have hlength : ((takeData u r).file.getD []).length =
          (u.file.getD []).length + (writtenOf r).length := by
        rw [hfile, List.length_append]
      rw [List.foldl_cons, ih hend (by omega), hfile, List.flatMap_cons,
        List.append_assoc]

theorem takeData_run_nothing (u : Upgrade) {frames : List Received}
    (h : frames.flatMap writtenOf = []) :
    (frames.foldl takeData u).file.getD [] = u.file.getD [] := by
  induction frames generalizing u with
  | nil => rfl
  | cons r frames ih =>
      obtain ⟨hnone, hrest⟩ := List.append_eq_nil_iff.mp h
      rw [List.foldl_cons, ih (takeData u r) hrest]
      by_cases hopened : r.env.upgradeOpened = true
      · rw [takeData_file u hopened, hnone, writeAt, if_pos rfl]
        rfl
      · rw [(takeData_file_closed u hopened).1]

/-- With an offset left from before, the file is at least as long as the
offset and the data together, or as the offset can count. -/
theorem takeData_run_length (u : Upgrade) (start done : Nat)
    (hstart : start < 2 ^ 32)
    (hoffset : u.offset.toNat = (start + done) % 2 ^ 32)
    (hlength : done = 0 ∨
      min (start + done) (2 ^ 32) ≤ (u.file.getD []).length)
    (frames : List Received) :
    let total := done + (frames.flatMap writtenOf).length
    total = 0 ∨ min (start + total) (2 ^ 32) ≤
      ((frames.foldl takeData u).file.getD []).length := by
  induction frames generalizing u done with
  | nil => simpa using hlength
  | cons r frames ih =>
      have hnext : (takeData u r).offset.toNat =
          (start + (done + (writtenOf r).length)) % 2 ^ 32 := by
        rw [takeData_offset, UInt32.toNat_add, hoffset, UInt32.toNat_ofNat',
          Nat.add_mod_mod, Nat.mod_add_mod, Nat.add_assoc]
      have hlonger : done + (writtenOf r).length = 0 ∨
          min (start + (done + (writtenOf r).length)) (2 ^ 32) ≤
            ((takeData u r).file.getD []).length := by
        by_cases hopened : r.env.upgradeOpened = true
        · rw [takeData_file u hopened, Option.getD_some]
          by_cases hdata : writtenOf r = []
          · have hkeep := length_le_writeAt u.file u.offset.toNat
              (writtenOf r)
            rw [hdata] at hkeep ⊢
            simp only [List.length_nil, Nat.add_zero]
            rcases hlength with hnone | hsome
            · exact .inl hnone
            · exact .inr (Nat.le_trans hsome hkeep)
          · right
            have hpos := List.length_pos_iff.mpr hdata
            rw [length_writeAt _ _ hdata, hoffset]
            by_cases hcount : start + done < 2 ^ 32
            · rw [Nat.mod_eq_of_lt hcount]
              omega
            · omega
        · obtain ⟨hkeep, hnone⟩ := takeData_file_closed u hopened
          rw [hkeep, hnone, List.length_nil, Nat.add_zero]
          exact hlength
      have := ih (takeData u r) (done + (writtenOf r).length) hnext hlonger
      simpa only [List.flatMap_cons, List.length_append, List.foldl_cons,
        Nat.add_assoc] using this

/-! ## The machine of a transfer -/

/-- What is seen of a transfer: the script, the acknowledgement bytes. -/
inductive Install where
  | run (file : Option (List UInt8))
  | ack (byte : UInt8)
  deriving DecidableEq, Repr

def announcedSum (msg : Mem UInt8) : UInt32 :=
  UInt32.ofNat (ofBE (msg.read (payloadOffset + 5) 4))

abbrev IsLast (msg : Mem UInt8) : Prop :=
  upgradePacketIndex msg + 1 = upgradePacketNum msg

def checkImage (u : Upgrade) : Upgrade × List Install :=
  if u.sumNew = u.sum then
    ({ u with file := none }, [.run u.file, .ack 0])
  else (u, [.ack 1])

def installStep (u : Upgrade) (r : Received) : Upgrade × List Install :=
  if upgradePacketIndex r.msg = 0 then
    ({ u with file := none, sum := announcedSum r.msg }, [.ack 0])
  else if IsLast r.msg then checkImage (takeData u r)
  else (takeData u r, [.ack 0])

def installer : Mealy Upgrade Received Install := ⟨installStep⟩

theorem installer_first (u : Upgrade) {r : Received}
    (hfirst : upgradePacketIndex r.msg = 0) :
    installer.step u r =
      ({ u with file := none, sum := announcedSum r.msg }, [.ack 0]) :=
  if_pos hfirst

theorem installer_more (u : Upgrade) {r : Received}
    (hdata : upgradePacketIndex r.msg ≠ 0) (hmore : ¬ IsLast r.msg) :
    installer.step u r = (takeData u r, [.ack 0]) :=
  (if_neg hdata).trans (if_neg hmore)

theorem installer_last (u : Upgrade) {r : Received}
    (hdata : upgradePacketIndex r.msg ≠ 0) (hlast : IsLast r.msg) :
    installer.step u r = checkImage (takeData u r) :=
  (if_neg hdata).trans (if_pos hlast)

def Effect.install : Effect → Option Install
  | .upgrade file => some (.run file)
  | .send cmd payload _ =>
      if cmd = sampleCmdUpgrade then payload.getLast?.map .ack else none
  | _ => none

structure IsTransfer (target : Target) (r : Received) : Prop where
  forDevice : isForDevice target r.msg
  cmd : headerCmd r.msg = sampleCmdUpgrade
  message : r.msg payloadOffset = upgradeCmdTrans

theorem upgradeReply_install (target : Target) (msg : Mem UInt8)
    (result : UInt8) (w : World) :
    (upgradeReply target msg result w).1.upgrade = w.upgrade ∧
      (upgradeReply target msg result w).2.filterMap Effect.install =
        [.ack result] := by
  rw [upgradeReply, sendMessage_apply]
  refine ⟨rfl, ?_⟩
  simp [Effect.install]

theorem recvUpgradeTrans_install (target : Target) (r : Received)
    (w : World) :
    (recvUpgradeTrans target r.env r.msg r.len w).1.upgrade =
        (installStep w.upgrade r).1 ∧
      (recvUpgradeTrans target r.env r.msg r.len w).2.filterMap
        Effect.install = (installStep w.upgrade r).2 := by
  let received : World := { w with upgrade := takeData w.upgrade r }
  have hreply : ∀ result (w' : World), _ := upgradeReply_install target r.msg
  have htake : writeUpgradeData r.env w.upgrade (upgradeData r.msg r.len) =
      takeData w.upgrade r := rfl
  unfold recvUpgradeTrans installStep
  by_cases hfirst : upgradePacketIndex r.msg = 0
  · simp only [if_pos hfirst]
    exact hreply 0 _
  simp only [if_neg hfirst, htake]
  by_cases hlast : IsLast r.msg
  · rw [if_pos hlast, if_pos hlast, checkImage]
    by_cases hsum : (takeData w.upgrade r).sumNew = (takeData w.upgrade r).sum
    · rw [if_pos hsum, if_pos hsum]
      obtain ⟨hupgrade, hack⟩ := hreply 0 (upgradeFileCmd received).1
      refine ⟨hupgrade, ?_⟩
      rw [Act.andThen_snd, List.filterMap_append]
      exact congrArg (Install.run (takeData w.upgrade r).file :: ·) hack
    · rw [if_neg hsum, if_neg hsum]
      exact hreply 1 received
  · rw [if_neg hlast, if_neg hlast]
    exact hreply 0 received

theorem device_install {target : Target} {r : Received}
    (h : IsTransfer target r) (w : World) :
    ((device target).step w r).1.upgrade =
        (installer.step w.upgrade r).1 ∧
      ((device target).step w r).2.filterMap Effect.install =
        (installer.step w.upgrade r).2 := by
  let noted : World :=
    { w with send := recordRecvNum (headerSerialNum r.msg) w.send }
  have hout : (device target).step w r =
      recvUpgradeTrans target r.env r.msg r.len noted := by
    have hfile : recvUpgradeFile target r.env r.msg r.len =
        recvUpgradeTrans target r.env r.msg r.len := by
      unfold recvUpgradeFile
      rw [h.message]
      rfl
    simp only [device, sampleOnCmd]
    rw [if_pos h.forDevice, handleCmd_upgrade _ _ _ _ h.cmd, hfile]
    rfl
  rw [hout]
  exact recvUpgradeTrans_install target r noted

theorem device_installs (target : Target) (frames : List Received)
    (h : ∀ r ∈ frames, IsTransfer target r) (w : World) :
    ((device target).final w frames).upgrade =
        installer.final w.upgrade frames ∧
      ((device target).outputs w frames).filterMap Effect.install =
        installer.outputs w.upgrade frames := by
  induction frames generalizing w with
  | nil => exact ⟨rfl, rfl⟩
  | cons r frames ih =>
      obtain ⟨hupgrade, hinstall⟩ := device_install (h r (by simp)) w
      obtain ⟨hfinal, houtputs⟩ := ih (fun r' hr' => h r' (by simp [hr']))
        ((device target).step w r).1
      rw [hupgrade] at hfinal houtputs
      constructor
      · exact hfinal
      · rw [Mealy.outputs_cons, List.filterMap_append, hinstall, houtputs]
        rfl

end SanbaoProt
