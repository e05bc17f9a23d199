import SanbaoProt.Device.Queued

/-!
# The serial numbers of self-initiated messages

`do_serial_num` counts the messages of which the device is the master and takes
over any greater serial number that is received.  After `0xFF` it starts anew at
zero; after `0xFFFF` the counter overflows to the same number.  A received
frame can then raise it to `0xFF` again, so that zero is sent twice in a row.
-/

namespace SanbaoProt

open Library

/-! ## The counter -/

def nextSerialNum (sendSerialNum : UInt16) : UInt16 :=
  if sendSerialNum = 0xFF then 0 else sendSerialNum + 1

/-- The counter goes on with zero. -/
def WrapsAt (sendSerialNum : UInt16) : Prop :=
  sendSerialNum = 0xFF ∨ sendSerialNum = 0xFFFF

instance (c : UInt16) : Decidable (WrapsAt c) :=
  inferInstanceAs (Decidable (_ ∨ _))

theorem getNextSendNum_eq (s : SendSide) :
    getNextSendNum s =
      (nextSerialNum s.sendSerialNum,
        { s with sendSerialNum := nextSerialNum s.sendSerialNum }) := by
  unfold getNextSendNum nextSerialNum
  split_ifs
  · rfl
  · rfl

theorem toNat_nextSerialNum (c : UInt16) :
    (nextSerialNum c).toNat =
      if c.toNat = 0xFF then 0 else (c.toNat + 1) % 2 ^ 16 := by
  have hwrap : c = 0xFF ↔ c.toNat = 0xFF := UInt16.toNat_inj.symm
  unfold nextSerialNum
  by_cases hc : c = 0xFF
  · rw [if_pos hc, if_pos (hwrap.mp hc)]
    rfl
  · rw [if_neg hc, if_neg (mt hwrap.mpr hc), UInt16.toNat_add]
    rfl

/-- When the counter has not fallen since it gave `nextSerialNum c`, it gives
the same number again only if both times it starts anew. -/
theorem nextSerialNum_eq_iff {c c' : UInt16} (h : nextSerialNum c ≤ c') :
    nextSerialNum c = nextSerialNum c' ↔ WrapsAt c ∧ WrapsAt c' := by
  have hlt := c.toNat_lt
  have hlt' := c'.toNat_lt
  rw [UInt16.le_iff_toNat_le, toNat_nextSerialNum] at h
  rw [← UInt16.toNat_inj, toNat_nextSerialNum, toNat_nextSerialNum, WrapsAt,
    WrapsAt, ← UInt16.toNat_inj, ← UInt16.toNat_inj, ← UInt16.toNat_inj,
    ← UInt16.toNat_inj]
  change _ ↔ (c.toNat = 255 ∨ c.toNat = 65535) ∧
    (c'.toNat = 255 ∨ c'.toNat = 65535)
  split_ifs at h ⊢ <;> omega

theorem le_recordRecvNum (num : UInt16) (s : SendSide) :
    s.sendSerialNum ≤ (recordRecvNum num s).sendSerialNum := by
  unfold recordRecvNum
  simp only
  split_ifs with hgreater
  · exact UInt16.le_of_lt hgreater
  · exact UInt16.le_refl _

/-! ## The number that a message carries -/

/-- The serial number in the bytes of a node. -/
def carriedSerialNum (node : SendNode) : UInt16 :=
  let bytes := (slip.absorbAll ([], false) (node.buf.getD []).tail).1
  UInt16.ofNat (ofBE ((bytes.drop 1).take 2))

theorem carriedSerialNum_wire (header : SendStatus) (f : Frame) :
    carriedSerialNum ⟨header, some f.wire⟩ = f.serialNum := by
  have hmiddle : slip.absorbAll ([], false) (slip.stuff f.middle) =
      (f.middle, false) := slip.absorbAll_stuff [] f.middle
  have hbytes : (slip.absorbAll ([], false)
      (slip.stuff f.middle ++ [sampleProtMagic])).1 =
        f.middle ++ [sampleProtMagic] := by
    rw [slip.absorbAll_append, hmiddle]
    rfl
  have hserial : ((f.middle ++ [sampleProtMagic]).drop 1).take 2 =
      toBE 2 f.serialNum.toNat := rfl
  change UInt16.ofNat (ofBE (((slip.absorbAll ([], false)
    (slip.stuff f.middle ++ [sampleProtMagic])).1.drop 1).take 2)) = _
  rw [hbytes, hserial, ofBE_toBE f.serialNum.toNat_lt, UInt16.ofNat_toNat]

def Effect.selfSerialNum : Effect → Option UInt16
  | .send cmd _ node =>
      if masterIsMe cmd then some (carriedSerialNum node) else none
  | _ => none

/-- The serial numbers of the self-initiated messages. -/
def selfSerialNums (effects : List Effect) : List UInt16 :=
  effects.filterMap Effect.selfSerialNum

theorem selfSerialNums_append (first second : List Effect) :
    selfSerialNums (first ++ second) =
      selfSerialNums first ++ selfSerialNums second :=
  List.filterMap_append

theorem selfSerialNums_sent (target : Target) (w : World) (cmd : UInt8)
    (payload : List UInt8) :
    selfSerialNums [.send cmd payload (sentNode target w cmd payload)] =
      if masterIsMe cmd then [nextSerialNum w.send.sendSerialNum] else [] := by
  have hcarried : carriedSerialNum (sentNode target w cmd payload) =
      (serialNum cmd w.send).1 := carriedSerialNum_wire _ _
  unfold selfSerialNums
  rw [List.filterMap_cons, Effect.selfSerialNum, hcarried]
  by_cases hmaster : masterIsMe cmd
  · simp [serialNum, hmaster, getNextSendNum_eq]
  · simp [hmaster]

theorem sentWorld_sendSerialNum (target : Target) (w : World) (cmd : UInt8)
    (payload : List UInt8) :
    (sentWorld target w cmd payload).send.sendSerialNum =
      if masterIsMe cmd then nextSerialNum w.send.sendSerialNum
      else w.send.sendSerialNum := by
  change (serialNum cmd w.send).2.sendSerialNum = _
  unfold serialNum
  split_ifs
  · rw [getNextSendNum_eq]
  · rfl

/-! ## Runs -/

inductive SerialInput where
  /-- The serial number of a received frame is recorded. -/
  | received (serialNum : UInt16)
  | messageQueueSend (pHeader : Mem UInt8) (cmd : UInt8) (payload : List UInt8)
  /-- Whatever else becomes of the world. -/
  | others (world : World)

def SerialInput.SelfInitiated : SerialInput → Bool
  | .messageQueueSend _ cmd _ => masterIsMe cmd
  | _ => false

def serials (target : Target) : Mealy World SerialInput Effect where
  step w
    | .received serialNum =>
        ({ w with send := recordRecvNum serialNum w.send }, [])
    | .messageQueueSend pHeader cmd payload =>
        let sent := messageQueueSend target w pHeader cmd payload
        (sent.world, sent.effects)
    | .others world =>
        ({ world with
            send :=
              { world.send with
                sendSerialNum := w.send.sendSerialNum
                recvSerialNum := w.send.recvSerialNum } }, [])

theorem serials_send (target : Target) (w : World) (pHeader : Mem UInt8)
    (cmd : UInt8) (payload : List UInt8) :
    (serials target).step w (.messageQueueSend pHeader cmd payload) =
      (sentWorld target w cmd payload,
        [.send cmd payload (sentNode target w cmd payload)]) := by
  obtain ⟨hworld, heffects, -⟩ :=
    messageQueueSend_spec target w pHeader cmd payload
  exact Prod.ext hworld heffects

/-- The counter that each self-initiated send of a run finds. -/
def foundCounters (target : Target) : World → List SerialInput → List UInt16
  | _, [] => []
  | w, i :: inputs =>
      (if i.SelfInitiated then [w.send.sendSerialNum] else []) ++
        foundCounters target ((serials target).step w i).1 inputs

section

variable (target : Target) (w : World)

theorem serials_step (i : SerialInput) :
    selfSerialNums ((serials target).step w i).2 =
        (if i.SelfInitiated then [nextSerialNum w.send.sendSerialNum]
        else []) ∧
      if i.SelfInitiated then
        ((serials target).step w i).1.send.sendSerialNum =
          nextSerialNum w.send.sendSerialNum
      else
        w.send.sendSerialNum ≤
          ((serials target).step w i).1.send.sendSerialNum := by
  cases i with
  | received num => exact ⟨rfl, le_recordRecvNum num w.send⟩
  | messageQueueSend pHeader cmd payload =>
      have hnums := selfSerialNums_sent target w cmd payload
      have hcounter := sentWorld_sendSerialNum target w cmd payload
      rw [serials_send, SerialInput.SelfInitiated]
      refine ⟨hnums, ?_⟩
      rw [hcounter]
      split_ifs
      · rfl
      · exact UInt16.le_refl _
  | others world => exact ⟨rfl, UInt16.le_refl _⟩

theorem selfSerialNums_outputs (inputs : List SerialInput) :
    selfSerialNums ((serials target).outputs w inputs) =
      (foundCounters target w inputs).map nextSerialNum := by
  induction inputs generalizing w with
  | nil => rfl
  | cons i inputs ih =>
      rw [Mealy.outputs_cons, selfSerialNums_append, ih,
        (serials_step target w i).1, foundCounters, List.map_append]
      split_ifs
      · rfl
      · rfl

/-- From one self-initiated send to the next the counter does not fall. -/
theorem foundCounters_rise (inputs : List SerialInput) :
    (∀ c ∈ (foundCounters target w inputs).head?,
        w.send.sendSerialNum ≤ c) ∧
      (foundCounters target w inputs).IsChain
        fun c c' => nextSerialNum c ≤ c' := by
  induction inputs generalizing w with
  | nil => exact ⟨nofun, List.isChain_nil⟩
  | cons i inputs ih =>
      obtain ⟨hhead, hchain⟩ := ih ((serials target).step w i).1
      have hstep := (serials_step target w i).2
      rw [foundCounters]
      by_cases hself : i.SelfInitiated
      · rw [if_pos hself] at hstep ⊢
        rw [hstep] at hhead
        refine ⟨fun c hc => ?_, List.isChain_cons.mpr ⟨hhead, hchain⟩⟩
        rw [← Option.some.inj hc]
        exact UInt16.le_refl _
      · rw [if_neg hself] at hstep ⊢
        exact ⟨fun c hc => UInt16.le_trans hstep (hhead c hc), hchain⟩

end

theorem isChain_congr {α : Type*} {R S T : α → α → Prop}
    (h : ∀ a b, R a b → (S a b ↔ T a b)) {l : List α} (hl : l.IsChain R) :
    l.IsChain S ↔ l.IsChain T := by
  induction hl with
  | nil => exact iff_of_true List.isChain_nil List.isChain_nil
  | singleton a =>
      exact iff_of_true (List.isChain_singleton a) (List.isChain_singleton a)
  | cons_cons hab _ ih =>
      rw [List.isChain_cons_cons, List.isChain_cons_cons, ih, h _ _ hab]

/-- Consecutive self-initiated messages differ in their serial numbers exactly
when the counter never starts anew at two such sends in a row. -/
theorem serialNums_differ_iff (target : Target) (w : World)
    (inputs : List SerialInput) :
    (selfSerialNums ((serials target).outputs w inputs)).IsChain (· ≠ ·) ↔
      (foundCounters target w inputs).IsChain fun c c' =>
        ¬ (WrapsAt c ∧ WrapsAt c') := by
  have hrise := (foundCounters_rise target w inputs).2
  rw [selfSerialNums_outputs, List.isChain_map]
  exact isChain_congr (fun c c' h => not_congr (nextSerialNum_eq_iff h)) hrise

def warning : SerialInput :=
  .messageQueueSend (fun _ => 0) sampleCmdWarningReport []

/-- Two frames with the serial number 0xFF, a report after each. -/
theorem serialNums_repeat :
    ¬ (selfSerialNums ((serials adasTcp).outputs (freshWorld adasTcp)
      [.received 0xFF, warning, .received 0xFF, warning])).IsChain
        (· ≠ ·) := by
  have hfound : foundCounters adasTcp (freshWorld adasTcp)
      [.received 0xFF, warning, .received 0xFF, warning] = [0xFF, 0xFF] := by
    decide +kernel
  rw [selfSerialNums_outputs, hfound]
  decide

/-! ## The device -/

theorem selfSerialNums_of_noNodes {effects : List Effect}
    (h : sentNodes effects = []) : selfSerialNums effects = [] := by
  rw [sentNodes, List.filterMap_eq_nil_iff] at h
  rw [selfSerialNums, List.filterMap_eq_nil_iff]
  intro e he
  have hnode := h e he
  cases e with
  | send cmd payload node => cases hnode
  | _ => rfl

theorem serials_others (target : Target) {w w' : World}
    (h : w'.send = w.send) :
    ((serials target).step w (.others w')).1 = w' := by
  change
    { w' with
      send :=
        { w'.send with
          sendSerialNum := w.send.sendSerialNum
          recvSerialNum := w.send.recvSerialNum } } = w'
  rw [← h]

/-- What a handler sends is a run of sends. -/
theorem Sends.serials {target : Target} {w : World}
    {out : World × List Effect} (h : Sends target w out) :
    ∃ inputs : List SerialInput,
      (serials target).final w inputs = out.1 ∧
        selfSerialNums ((serials target).outputs w inputs) =
          selfSerialNums out.2 := by
  induction h with
  | @none w w' hsend effects heffects =>
      refine ⟨[.others w'], ?_, ?_⟩
      · exact serials_others target hsend
      · exact (selfSerialNums_of_noNodes heffects).symm
  | send w cmd payload =>
      refine ⟨[.messageQueueSend (fun _ => 0) cmd payload], ?_, ?_⟩
      · rw [Mealy.final_cons, serials_send]
        rfl
      · rw [Mealy.outputs_cons, serials_send]
        rfl
  | after _ _ hfirst hsecond =>
      obtain ⟨first, hfinal, hfirst⟩ := hfirst
      obtain ⟨second, hfinal', hsecond⟩ := hsecond
      refine ⟨first ++ second, ?_, ?_⟩
      · rw [Mealy.final_append, hfinal, hfinal']
      · rw [Mealy.outputs_append, selfSerialNums_append, hfirst, hfinal,
          hsecond, selfSerialNums_append]

/-- A run of the device takes its serial numbers as a run of `serials` does. -/
theorem device_serials (target : Target) (w : World) (rs : List Received) :
    ∃ inputs : List SerialInput,
      (serials target).final w inputs = (device target).final w rs ∧
        selfSerialNums ((serials target).outputs w inputs) =
          selfSerialNums ((device target).outputs w rs) := by
  induction rs generalizing w with
  | nil => exact ⟨[], rfl, rfl⟩
  | cons r rs ih =>
      obtain ⟨later, hfinal, hlater⟩ := ih ((device target).step w r).1
      by_cases hfor : isForDevice target r.msg
      · obtain ⟨sends, hsends, hsent⟩ := (device_sends target w hfor).serials
        refine ⟨.received (headerSerialNum r.msg) :: (sends ++ later), ?_, ?_⟩
        · rw [Mealy.final_cons, Mealy.final_append, Mealy.final_cons,
            ← hfinal, ← hsends]
          rfl
        · rw [Mealy.outputs_cons, Mealy.outputs_append, Mealy.outputs_cons]
          simp only [selfSerialNums_append]
          rw [← hlater, ← hsent, ← hsends]
          rfl
      · have hstep : (device target).step w r = (w, []) := by
          simp only [device, sampleOnCmd, if_neg hfor]
          rfl
        rw [hstep] at hfinal hlater
        rw [Mealy.final_of_step hstep, Mealy.outputs_of_step hstep]
        exact ⟨later, hfinal, hlater⟩

end SanbaoProt
