import SanbaoProt.Device.Installer

/-!
# Upgrade

What an upgrade leaves behind.  The packets of a transfer in order write their
data one behind the other and the last one decides; what they find in the
statics is what the transfers before them have left there.  For frames in any
order only the sum and the order of arrival are known of the file that the
script is run on.
-/

namespace SanbaoProt

open Library

/-! ## A transfer in order -/

structure SumPacket (target : Target) (announced : UInt32) (r : Received) :
    Prop extends IsTransfer target r where
  index_eq : upgradePacketIndex r.msg = 0
  sum_eq : announcedSum r.msg = announced

structure DataPacket (target : Target) (num index : Nat)
    (data : List UInt8) (r : Received) : Prop
    extends IsTransfer target r where
  num_eq : upgradePacketNum r.msg = num
  index_eq : upgradePacketIndex r.msg = index
  length_eq : r.len = headerSize + 1 + 5 + data.length
  fits : r.len ≤ dataBufSize
  data_eq : r.msg.read (payloadOffset + 5) data.length = data
  opened : r.env.upgradeOpened = true
  written : data.length ≤ r.env.upgradeWritten

/-- The packets from `index` to `num - 1` in order. -/
inductive DataPackets (target : Target) (num : Nat) :
    Nat → List (List UInt8) → List Received → Prop where
  | nil : DataPackets target num num [] []
  | cons {index : Nat} {data : List UInt8} {r : Received}
      {datas : List (List UInt8)} {frames : List Received}
      (h : DataPacket target num index data r)
      (hrest : DataPackets target num (index + 1) datas frames) :
      DataPackets target num index (data :: datas) (r :: frames)

namespace DataPacket

variable {target : Target} {num index : Nat} {data : List UInt8}
  {r : Received}

theorem dataOf_eq (h : DataPacket target num index data r) :
    dataOf r = data := by
  rw [dataOf, upgradeData, h.length_eq, Nat.add_sub_cancel_left, h.data_eq]

theorem writtenOf_eq (h : DataPacket target num index data r) :
    writtenOf r = data := by
  rw [writtenOf, if_pos h.opened, h.dataOf_eq,
    List.take_of_length_le h.written]

theorem num_lt (h : DataPacket target num index data r) : num < 2 ^ 16 := by
  have hlt := ofBE_lt (r.msg.read (payloadOffset + 1) 2)
  rw [← h.num_eq, upgradePacketNum]
  simpa using hlt

end DataPacket

namespace DataPackets

variable {target : Target} {num index : Nat} {datas : List (List UInt8)}
  {frames : List Received}

theorem packet_of_mem (h : DataPackets target num index datas frames) :
    ∀ r ∈ frames, ∃ index data, DataPacket target num index data r := by
  induction h with
  | nil => simp
  | cons h _ ih =>
      intro r hr
      rcases List.mem_cons.mp hr with rfl | hr
      · exact ⟨_, _, h⟩
      · exact ih r hr

theorem isTransfer (h : DataPackets target num index datas frames) :
    ∀ r ∈ frames, IsTransfer target r := by
  intro r hr
  obtain ⟨_, _, hpacket⟩ := h.packet_of_mem r hr
  exact hpacket.toIsTransfer

theorem data_eq (h : DataPackets target num index datas frames) :
    frames.flatMap dataOf = datas.flatten ∧
      frames.flatMap writtenOf = datas.flatten := by
  induction h with
  | nil => exact ⟨rfl, rfl⟩
  | cons h _ ih =>
      rw [List.flatMap_cons, List.flatMap_cons, List.flatten_cons,
        h.dataOf_eq, h.writtenOf_eq, ih.1, ih.2]
      exact ⟨rfl, rfl⟩

theorem index_add_length (h : DataPackets target num index datas frames) :
    index + datas.length = num := by
  induction h with
  | nil => rfl
  | cons _ _ ih =>
      rw [List.length_cons]
      omega

theorem length_flatten_le (h : DataPackets target num index datas frames) :
    datas.flatten.length ≤ datas.length * dataBufSize := by
  induction h with
  | nil => simp
  | cons h _ ih =>
      have hfits := h.fits
      rw [h.length_eq] at hfits
      rw [List.flatten_cons, List.length_append, List.length_cons,
        Nat.succ_mul]
      omega

theorem length_flatten_lt (h : DataPackets target num index datas frames) :
    datas.flatten.length < 2 ^ 32 := by
  have hle := h.length_flatten_le
  have hcount := h.index_add_length
  cases h with
  | nil => simp
  | cons h _ =>
      have hnum := h.num_lt
      simp only [dataBufSize, imageSizePerPacket] at hle
      omega

/-- The last packet decides; the ones before it are acknowledged. -/
theorem install (h : DataPackets target num index datas frames)
    (hindex : 0 < index) (hne : frames ≠ []) (u : Upgrade) :
    installer.final u frames = (checkImage (frames.foldl takeData u)).1 ∧
      installer.outputs u frames =
        List.replicate (frames.length - 1) (.ack 0) ++
          (checkImage (frames.foldl takeData u)).2 := by
  induction h generalizing u with
  | nil => exact absurd rfl hne
  | @cons index data r datas frames h hrest ih =>
      have hfirst : upgradePacketIndex r.msg ≠ 0 := by
        rw [h.index_eq]
        omega
      cases hrest with
      | nil =>
          have hlast : IsLast r.msg := by
            rw [IsLast, h.index_eq, h.num_eq]
          rw [Mealy.final_cons, Mealy.final_nil, Mealy.outputs_cons,
            Mealy.outputs_nil, List.append_nil, List.foldl_cons,
            List.foldl_nil, installer_last u hfirst hlast]
          exact ⟨rfl, rfl⟩
      | @cons _ data' r' datas frames h' hrest =>
          have hmore : ¬ IsLast r.msg := by
            have hcount :=
              (DataPackets.cons h' hrest).index_add_length
            rw [IsLast, h.index_eq, h.num_eq]
            rw [List.length_cons] at hcount
            omega
          have hstep := installer_more u hfirst hmore
          obtain ⟨hfinal, houtputs⟩ := ih (Nat.succ_pos _)
            (List.cons_ne_nil _ _) (takeData u r)
          rw [Mealy.final_of_step hstep, Mealy.outputs_of_step hstep, hfinal,
            houtputs]
          exact ⟨rfl, rfl⟩

end DataPackets

/-! ## Retrying -/

namespace DataPackets

variable {target : Target} {num index : Nat} {datas : List (List UInt8)}
  {frames : List Received}

theorem opened (h : DataPackets target num index datas frames) :
    ∀ r ∈ frames, r.env.upgradeOpened = true := by
  intro r hr
  obtain ⟨_, _, hpacket⟩ := h.packet_of_mem r hr
  exact hpacket.opened

theorem file_exists (h : DataPackets target num index datas frames)
    (hne : frames ≠ []) (u : Upgrade) :
    ∃ content, (frames.foldl takeData u).file = some content := by
  obtain ⟨before, last, rfl⟩ :=
    (List.eq_nil_or_concat' frames).resolve_left hne
  rw [List.foldl_append]
  exact ⟨_, takeData_file _ (h.opened last (by simp))⟩

theorem file_eq_iff (h : DataPackets target num index datas frames)
    (hne : frames ≠ []) {u : Upgrade} (hfile : u.file = none) :
    (frames.foldl takeData u).file = some datas.flatten ↔
      u.offset = 0 ∨ datas.flatten = [] := by
  have hwritten := h.data_eq.2
  have hlt := h.length_flatten_lt
  obtain ⟨content, hcontent⟩ := h.file_exists hne u
  have hgetD : (frames.foldl takeData u).file = some datas.flatten ↔
      (frames.foldl takeData u).file.getD [] = datas.flatten := by
    rw [hcontent]
    simp
  rw [hgetD]
  constructor
  · intro heq
    by_contra hcond
    obtain ⟨hoffset, hdata⟩ := not_or.mp hcond
    have hpos : u.offset.toNat ≠ 0 := fun hzero =>
      hoffset (UInt32.toNat_inj.mp hzero)
    have htotal := List.length_pos_iff.mpr hdata
    have hlength := takeData_run_length u u.offset.toNat 0
      u.offset.toNat_lt (Nat.mod_eq_of_lt u.offset.toNat_lt).symm
      (.inl rfl) frames
    simp only [heq, hwritten, Nat.zero_add] at hlength
    omega
  · rintro (hoffset | hdata)
    · have hend : u.AtEnd := by
        rw [Upgrade.AtEnd, hoffset, hfile]
        rfl
      have happends := takeData_run_appends hend frames (by
        rw [hfile, hwritten]
        simpa using hlt)
      rw [happends, hfile, hwritten]
      rfl
    · rw [takeData_run_nothing u (hwritten.trans hdata), hfile, hdata]
      rfl

end DataPackets

def installs (effects : List Effect) : List Install :=
  effects.filterMap Effect.install

def scriptFiles (seen : List Install) : List (Option (List UInt8)) :=
  seen.filterMap fun
    | .run file => some file
    | .ack _ => none

/-- The file as the last packet leaves it: the one that the script is run on,
or else the one that is there in the end. -/
def uploadedFile (file : Option (List UInt8)) (seen : List Install) :
    Option (List UInt8) :=
  (scriptFiles seen).getLast?.getD file

def ScriptRuns (seen : List Install) : Prop :=
  scriptFiles seen ≠ [] ∧ seen.getLast? = some (.ack 0)

theorem checkImage_seen (u : Upgrade) (count : Nat) :
    let seen := .ack 0 :: (List.replicate count (.ack 0) ++ (checkImage u).2)
    uploadedFile (checkImage u).1.file seen = u.file ∧
      (ScriptRuns seen ↔ u.sumNew = u.sum) := by
  have hsilent : ∀ count, scriptFiles (List.replicate count (.ack 0)) = [] := by
    intro count
    rw [scriptFiles, List.filterMap_eq_nil_iff]
    intro seen hseen
    rw [List.eq_of_mem_replicate hseen]
  have hfiles : ∀ rest, scriptFiles (.ack 0 ::
      (List.replicate count (.ack 0) ++ rest)) = scriptFiles rest := by
    intro rest
    have := hsilent count
    simp only [scriptFiles, List.filterMap_cons, List.filterMap_append] at *
    rw [this, List.nil_append]
  have hlast : ∀ rest : List Install, rest ≠ [] →
      (.ack 0 :: (List.replicate count (.ack 0) ++ rest)).getLast? =
        rest.getLast? := by
    intro rest hrest
    rw [← List.cons_append, List.getLast?_append_of_ne_nil _ hrest]
  intro seen
  simp only [seen, uploadedFile, ScriptRuns, hfiles, checkImage]
  split_ifs with hsum
  · rw [hlast _ (by simp)]
    simp [scriptFiles, hsum]
  · rw [hlast _ (by simp)]
    simp [scriptFiles, hsum]

/-- The image is what was sent, and it is run exactly if its sum is the
announced one. -/
def TransferInstalls (target : Target) (w : World) (frames : List Received)
    (content : List UInt8) (announced : UInt32) : Prop :=
  let seen := installs ((device target).outputs w frames)
  uploadedFile ((device target).final w frames).upgrade.file seen =
      some content ∧
    (ScriptRuns seen ↔ byteSum content = announced)

/-- A transfer does what it should exactly when the statics that it starts from
do not count: nothing is written at the old offset, and the old sum does not
change the comparison. -/
theorem transferInstalls_iff (target : Target) (access : ParaFileAccess)
    (files : ParaFiles) (history : List Received) {announced : UInt32}
    {num : Nat} {first : Received} {datas : List (List UInt8)}
    {frames : List Received} (hfirst : SumPacket target announced first)
    (hdata : DataPackets target num 1 datas frames) (hne : frames ≠ []) :
    let w := (device target).final (startedWorld target access files) history
    TransferInstalls target w (first :: frames) datas.flatten announced ↔
      (w.upgrade.offset = 0 ∨ datas.flatten = []) ∧
        (w.upgrade.sumNew = 0 ∨
          byteSum datas.flatten ≠ announced ∧
            w.upgrade.sumNew + byteSum datas.flatten ≠ announced) := by
  intro w
  let begun : Upgrade := { w.upgrade with file := none, sum := announced }
  have hbegun : installer.step w.upgrade first = (begun, [.ack 0]) := by
    rw [installer_first w.upgrade hfirst.index_eq, hfirst.sum_eq]
  obtain ⟨hfinal, houtputs⟩ :=
    device_installs target (first :: frames) (by
      intro r hr
      rcases List.mem_cons.mp hr with rfl | hr
      · exact hfirst.toIsTransfer
      · exact hdata.isTransfer r hr) w
  obtain ⟨hchecked, hseen⟩ := hdata.install (by decide) hne begun
  rw [Mealy.final_of_step hbegun, hchecked] at hfinal
  rw [Mealy.outputs_of_step hbegun, hseen] at houtputs
  obtain ⟨hsum, hnew, -⟩ := takeData_run begun frames
  obtain ⟨hfile, hscript⟩ := checkImage_seen (frames.foldl takeData begun)
    (frames.length - 1)
  have himage := hdata.file_eq_iff hne (u := begun) rfl
  unfold TransferInstalls
  simp only [installs, houtputs, hfinal, List.singleton_append] at *
  rw [hfile, hscript, hsum, hnew, himage, hdata.data_eq.1]
  refine and_congr_right fun _ => ?_
  change (w.upgrade.sumNew + byteSum datas.flatten = announced ↔ _) ↔ _
  constructor
  · intro h
    by_cases hequal : byteSum datas.flatten = announced
    · left
      have := h.mpr hequal
      rw [hequal] at this
      exact UInt32.add_eq_right.mp this
    · exact .inr ⟨hequal, fun hlate => hequal (h.mp hlate)⟩
  · rintro (hzero | ⟨hequal, hlate⟩)
    · rw [hzero, UInt32.zero_add]
    · exact iff_of_false hlate hequal

def transferFrame (num index : Nat) (rest : List UInt8) : Received :=
  .ofFrame Env.plain ⟨1, vendorId, sampleDeviceIdAdas, sampleCmdUpgrade,
    upgradeCmdTrans :: toBE 2 num ++ toBE 2 index ++ rest⟩

def fiveFrames : List Received :=
  [transferFrame 2 0 (toBE 4 5), transferFrame 2 1 [5]]

theorem transferInstalls_first :
    TransferInstalls adasTcp (freshWorld adasTcp) fiveFrames [5] 5 := by
  refine (@transferInstalls_iff adasTcp ⟨true, some 50⟩ ⟨none, none⟩ [] 5 2
    (transferFrame 2 0 (toBE 4 5)) [[5]] [transferFrame 2 1 [5]]
    ⟨⟨?_, ?_, ?_⟩, ?_, ?_⟩
    (.cons ⟨⟨?_, ?_, ?_⟩, ?_, ?_, ?_, ?_, ?_, ?_, ?_⟩ .nil)
    (by simp)).mpr ?_
  all_goals decide +kernel

/-- The same transfer once more is written behind the old one and refused. -/
theorem transferInstalls_not_again :
    ¬ TransferInstalls adasTcp
      ((device adasTcp).final (freshWorld adasTcp) fiveFrames) fiveFrames
      [5] 5 := by
  rintro ⟨hfile, -⟩
  exact absurd hfile (by decide +kernel)

/-! ## Any order -/

def imageData (r : Received) : List UInt8 :=
  if upgradePacketIndex r.msg = 0 then [] else dataOf r

def imageWritten (r : Received) : List UInt8 :=
  if upgradePacketIndex r.msg = 0 then [] else writtenOf r

def latestSum (sum : UInt32) (r : Received) : UInt32 :=
  if upgradePacketIndex r.msg = 0 then announcedSum r.msg else sum

theorem checkImage_keeps (u : Upgrade) :
    (checkImage u).1.sum = u.sum ∧ (checkImage u).1.sumNew = u.sumNew := by
  unfold checkImage
  split_ifs
  · exact ⟨rfl, rfl⟩
  · exact ⟨rfl, rfl⟩

theorem installer_sums (u : Upgrade) (r : Received) :
    (installer.step u r).1.sum = latestSum u.sum r ∧
      (installer.step u r).1.sumNew = u.sumNew + byteSum (imageData r) := by
  unfold latestSum imageData
  by_cases hfirst : upgradePacketIndex r.msg = 0
  · rw [installer_first u hfirst, if_pos hfirst, if_pos hfirst]
    exact ⟨rfl, (UInt32.add_zero _).symm⟩
  · rw [if_neg hfirst, if_neg hfirst, ← takeData_sum u r,
      ← takeData_sumNew u r]
    by_cases hlast : IsLast r.msg
    · rw [installer_last u hfirst hlast]
      exact checkImage_keeps (takeData u r)
    · rw [installer_more u hfirst hlast]
      exact ⟨rfl, rfl⟩

theorem installer_run_sums (u : Upgrade) (frames : List Received) :
    (installer.final u frames).sum = frames.foldl latestSum u.sum ∧
      (installer.final u frames).sumNew =
        u.sumNew + byteSum (frames.flatMap imageData) := by
  induction frames generalizing u with
  | nil => exact ⟨rfl, (UInt32.add_zero _).symm⟩
  | cons r frames ih =>
      obtain ⟨hsum, hnew⟩ := installer_sums u r
      obtain ⟨hlatest, htotal⟩ := ih (installer.step u r).1
      rw [Mealy.final_cons, hlatest, htotal, hsum, hnew, List.foldl_cons,
        List.flatMap_cons, byteSum_append, UInt32.add_assoc]
      exact ⟨rfl, rfl⟩

theorem installer_runs {u : Upgrade} {r : Received}
    {file : Option (List UInt8)}
    (h : .run file ∈ (installer.step u r).2) :
    upgradePacketIndex r.msg ≠ 0 ∧ IsLast r.msg ∧
      (takeData u r).sumNew = (takeData u r).sum ∧
      file = (takeData u r).file := by
  by_cases hfirst : upgradePacketIndex r.msg = 0
  · rw [installer_first u hfirst] at h
    simp at h
  · by_cases hlast : IsLast r.msg
    · rw [installer_last u hfirst hlast, checkImage] at h
      split_ifs at h with hsum
      · refine ⟨hfirst, hlast, hsum, ?_⟩
        simpa using h
      · simp at h
    · rw [installer_more u hfirst hlast] at h
      simp at h

theorem installer_onlySums (u : Upgrade) {frames : List Received}
    (hne : frames ≠ [])
    (h : ∀ r ∈ frames, upgradePacketIndex r.msg = 0) :
    (installer.final u frames).file = none ∧
      (installer.final u frames).offset = u.offset := by
  induction frames generalizing u with
  | nil => exact absurd rfl hne
  | cons r frames ih =>
      rw [Mealy.final_cons, installer_first u (h r (by simp))]
      cases frames with
      | nil => exact ⟨rfl, rfl⟩
      | cons r' frames =>
          exact ih _ (List.cons_ne_nil _ _)
            fun r'' hr'' => h r'' (List.mem_cons_of_mem _ hr'')

theorem installer_onlyData (u : Upgrade) {frames : List Received}
    (h : ∀ r ∈ frames, upgradePacketIndex r.msg ≠ 0)
    (hsilent : ∀ file, .run file ∉ installer.outputs u frames) :
    installer.final u frames = frames.foldl takeData u := by
  induction frames generalizing u with
  | nil => rfl
  | cons r frames ih =>
      have hstep : (installer.step u r).1 = takeData u r := by
        have hdata := h r (by simp)
        by_cases hlast : IsLast r.msg
        · have hquiet : (takeData u r).sumNew ≠ (takeData u r).sum := by
            intro hsum
            apply hsilent (takeData u r).file
            rw [Mealy.outputs_cons, installer_last u hdata hlast, checkImage,
              if_pos hsum]
            simp
          rw [installer_last u hdata hlast, checkImage, if_neg hquiet]
        · rw [installer_more u hdata hlast]
      rw [Mealy.final_cons, hstep, List.foldl_cons]
      apply ih _ fun r' hr' => h r' (by simp [hr'])
      intro file hfile
      apply hsilent file
      rw [Mealy.outputs_cons, hstep]
      exact List.mem_append_right _ hfile

theorem mem_installs_run {effects : List Effect}
    {file : Option (List UInt8)} :
    .run file ∈ installs effects ↔ .upgrade file ∈ effects := by
  constructor
  · intro h
    obtain ⟨e, he, hseen⟩ := List.mem_filterMap.mp h
    cases e with
    | upgrade file' =>
        cases hseen
        exact he
    | send cmd payload node =>
        simp only [Effect.install] at hseen
        split_ifs at hseen
        simp at hseen
    | _ => cases hseen
  · intro h
    exact List.mem_filterMap.mpr ⟨_, h, rfl⟩

/-- The frames before the first script: the sum, perhaps repeated, and then
data only. -/
structure FirstAttempt (target : Target) (w : World)
    (sums datas : List Received) : Prop where
  announced : sums ≠ []
  sums_first : ∀ r ∈ sums, upgradePacketIndex r.msg = 0
  datas_next : ∀ r ∈ datas, upgradePacketIndex r.msg ≠ 0
  noScript : ∀ file,
    .upgrade file ∉ (device target).outputs w (sums ++ datas)

theorem imageWritten_sums {sums : List Received}
    (h : ∀ r ∈ sums, upgradePacketIndex r.msg = 0) :
    sums.flatMap imageWritten = [] :=
  List.flatMap_eq_nil_iff.mpr fun r hr => if_pos (h r hr)

theorem imageWritten_datas {datas : List Received}
    (h : ∀ r ∈ datas, upgradePacketIndex r.msg ≠ 0) :
    datas.flatMap imageWritten = datas.flatMap writtenOf :=
  List.flatMap_congr fun r hr => if_neg (h r hr)

/-- From the start of the process, the script is only run when a packet that
calls itself the last arrives and all data received so far has the sum that was
announced last.  In the first attempt the file then holds the data packets in
the order of their arrival. -/
theorem upgrade_installs {target : Target} {w : World}
    {leftover : Option (List UInt8)} (hw : w.upgrade = ⟨0, 0, 0, leftover⟩)
    {before : List Received} {r : Received}
    (htransfer : ∀ r' ∈ before ++ [r], IsTransfer target r')
    {file : Option (List UInt8)}
    (hrun : .upgrade file ∈
      ((device target).step ((device target).final w before) r).2) :
    upgradePacketIndex r.msg ≠ 0 ∧ IsLast r.msg ∧
      byteSum ((before ++ [r]).flatMap imageData) =
        before.foldl latestSum 0 ∧
      ∀ sums datas, before = sums ++ datas →
        FirstAttempt target w sums datas →
        ((before ++ [r]).flatMap imageWritten).length < 2 ^ 32 →
        file.getD [] = (before ++ [r]).flatMap imageWritten := by
  obtain ⟨hfinal, houtputs⟩ := device_installs target before
    (fun r' hr' => htransfer r' (List.mem_append_left _ hr')) w
  have hstep := (device_install (htransfer r (by simp))
    ((device target).final w before)).2
  have hseen := mem_installs_run.mpr hrun
  rw [installs, hstep, hfinal] at hseen
  obtain ⟨hdata, hlast, hsum, hfile⟩ := installer_runs hseen
  obtain ⟨hlatest, htotal⟩ := installer_run_sums w.upgrade before
  have hadds : imageData r = dataOf r ∧ imageWritten r = writtenOf r :=
    ⟨if_neg hdata, if_neg hdata⟩
  refine ⟨hdata, hlast, ?_, ?_⟩
  · rw [takeData_sum, takeData_sumNew, hlatest, htotal, hw] at hsum
    rw [List.flatMap_append, byteSum_append, List.flatMap_singleton,
      hadds.1, ← hsum]
    simp
  · rintro sums datas rfl hfirst hfits
    obtain ⟨hnone, hoffset⟩ := installer_onlySums w.upgrade
      hfirst.announced hfirst.sums_first
    have hwritten : (sums ++ datas ++ [r]).flatMap imageWritten =
        (datas ++ [r]).flatMap writtenOf := by
      rw [List.append_assoc, List.flatMap_append,
        imageWritten_sums hfirst.sums_first, List.nil_append]
      apply imageWritten_datas
      intro r' hr'
      rcases List.mem_append.mp hr' with hearlier | hnow
      · exact hfirst.datas_next r' hearlier
      · rw [List.mem_singleton.mp hnow]
        exact hdata
    have hsilent : ∀ file, .run file ∉ installer.outputs
        (installer.final w.upgrade sums) datas := by
      intro file' hscript
      apply hfirst.noScript file'
      rw [← mem_installs_run, installs, houtputs, Mealy.outputs_append]
      exact List.mem_append_right _ hscript
    have hend : (installer.final w.upgrade sums).AtEnd := by
      rw [Upgrade.AtEnd, hnone, hoffset, hw]
      rfl
    have happends := takeData_run_appends hend (datas ++ [r]) (by
      rw [hnone, ← hwritten]
      simpa using hfits)
    rw [hnone, List.foldl_append] at happends
    rw [hfile, hwritten, Mealy.final_append,
      installer_onlyData _ hfirst.datas_next hsilent]
    exact happends

/-- The sum and two of three data packets. -/
def sixFrames : List Received :=
  [transferFrame 4 0 (toBE 4 6), transferFrame 4 1 [1], transferFrame 4 2 [2]]

theorem upgrade_installs_threePackets :
    byteSum ((sixFrames ++ [transferFrame 4 3 [3]]).flatMap imageData) =
        sixFrames.foldl latestSum 0 ∧
      (some [1, 2, 3]).getD [] =
        (sixFrames ++ [transferFrame 4 3 [3]]).flatMap imageWritten := by
  have htransfer : ∀ r ∈ sixFrames ++ [transferFrame 4 3 [3]],
      IsTransfer adasTcp r := by
    have hpacket : ∀ num index rest,
        IsTransfer adasTcp (transferFrame num index rest) := by
      intro num index rest
      have hbuffer : InBuffer _ (transferFrame num index rest).msg :=
        Mem.read_ofList _
      obtain ⟨-, hdevice, hcmd⟩ := hbuffer.header
      exact ⟨.inl hdevice, hcmd, rfl⟩
    intro r hr
    simp only [sixFrames, List.cons_append, List.nil_append, List.mem_cons,
      List.not_mem_nil, or_false] at hr
    rcases hr with rfl | rfl | rfl | rfl
    · exact hpacket _ _ _
    · exact hpacket _ _ _
    · exact hpacket _ _ _
    · exact hpacket _ _ _
  obtain ⟨-, -, hsum, hfile⟩ := @upgrade_installs adasTcp
    (freshWorld adasTcp) none rfl sixFrames (transferFrame 4 3 [3]) htransfer
    (some [1, 2, 3]) (by decide +kernel)
  refine ⟨hsum, hfile (sixFrames.take 1) (sixFrames.drop 1) rfl
    ⟨?_, ?_, ?_, ?_⟩ (by decide +kernel)⟩
  · decide
  · decide +kernel
  · decide +kernel
  · intro file hscript
    have hseen : installs ((device adasTcp).outputs (freshWorld adasTcp)
        (sixFrames.take 1 ++ sixFrames.drop 1)) =
          [.ack 0, .ack 0, .ack 0] := by decide +kernel
    rw [← mem_installs_run, hseen] at hscript
    simp at hscript

/-- Packet 2 before packet 1: the sum does not tell. -/
theorem upgrade_installs_outOfOrder :
    ¬ ∀ file, .upgrade file ∈ (device adasTcp).outputs (freshWorld adasTcp)
        [transferFrame 4 0 (toBE 4 6), transferFrame 4 2 [2],
          transferFrame 4 1 [1], transferFrame 4 3 [3]] →
      file = some ([1] ++ [2] ++ [3]) := by
  intro h
  have hwrong := h (some [2, 1, 3]) (by decide +kernel)
  cases hwrong

end SanbaoProt
