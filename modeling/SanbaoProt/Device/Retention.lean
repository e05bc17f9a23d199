import SanbaoProt.Device.MediaRecords
import SanbaoProt.Library.Retention

/-!
# The media directory

A media file is named after its id alone, so the directory is a set of ids.
The capture thread writes into it while a report is being built: a report hands
out ids, removes what the new files replace and queues the record, and between
any two of these a file of an earlier record may appear.
-/

namespace SanbaoProt

open Library

structure MediaDir where
  sMmId : UInt32
  files : Finset UInt32
  /-- The ids in the records that have been queued. -/
  announced : List UInt32
  /-- What the report under construction has still to do. -/
  todo : List Effect

inductive MediaEvent where
  | report (build : Build) (w : World) (type statusFlag : UInt8)
      (msgbuf : Mem UInt8)
  | proceed
  | capture (id : UInt32)

def InfoForStore.ids (mm : InfoForStore) : List UInt32 := mm.media.map Prod.snd

namespace MediaDir

def empty (sMmId : UInt32) (files : Finset UInt32) : MediaDir :=
  ⟨sMmId, files, [], []⟩

def effect (d : MediaDir) : Effect → MediaDir
  | .mmIds num => { d with sMmId := d.sMmId + UInt32.ofNat num }
  | .remove id => { d with files := d.files.erase id }
  | .pushMm mm => { d with announced := d.announced ++ mm.ids }
  | _ => d

end MediaDir

def mediaDir (target : Target) : Mealy MediaDir MediaEvent Effect where
  step d
    | .report build w type statusFlag msgbuf =>
        ({ d with
          todo := (build.buildWarnFrame target w type statusFlag
            msgbuf).effects }, [])
    | .proceed =>
        match d.todo with
        | [] => (d, [])
        | e :: todo => ({ d.effect e with todo := todo }, [e])
    | .capture id => ({ d with files := insert id d.files }, [])

/-- One report is built after the other, and none of its ids wraps; a capture
writes an announced id before a thousand further ones are handed out. -/
def MediaEvent.Allowed (target : Target) (d : MediaDir) : MediaEvent → Prop
  | .report build w type statusFlag msgbuf =>
      d.todo = [] ∧ w.ids.mmId = d.sMmId ∧
        d.sMmId.toNat + (mmIdRequests (build.buildWarnFrame target w type
          statusFlag msgbuf).effects).sum < 2 ^ 32
  | .proceed => True
  | .capture id =>
      id ∈ d.announced ∧ d.sMmId.toNat < id.toNat + saveMediaNumMax.toNat

instance (target : Target) (d : MediaDir) :
    (event : MediaEvent) → Decidable (event.Allowed target d)
  | .report .. => inferInstanceAs (Decidable (_ ∧ _))
  | .proceed => inferInstanceAs (Decidable True)
  | .capture _ => inferInstanceAs (Decidable (_ ∧ _))

/-! ## Ids handed out -/

theorem getNextMmIds_snd (num : Nat) (sMmId : UInt32) :
    (getNextMmIds num sMmId).2 = sMmId + UInt32.ofNat num := by
  induction num generalizing sMmId with
  | zero => simp [getNextMmIds]
  | succ num ih =>
      rw [getNextMmIds, ih, UInt32.ofNat_add, UInt32.add_assoc,
        UInt32.add_comm 1]
      rfl

theorem toNat_add_ofNat {sMmId : UInt32} {num : Nat}
    (h : sMmId.toNat + num < 2 ^ 32) :
    (sMmId + UInt32.ofNat num).toNat = sMmId.toNat + num := by
  have hnum : (UInt32.ofNat num).toNat = num := by
    refine UInt32.toNat_ofNat_of_lt' ?_
    change num < 2 ^ 32
    omega
  rw [UInt32.toNat_add, hnum]
  exact Nat.mod_eq_of_lt h

theorem toNat_getNextMmIds_snd {sMmId : UInt32} {num : Nat}
    (h : sMmId.toNat + num < 2 ^ 32) :
    (getNextMmIds num sMmId).2.toNat = sMmId.toNat + num := by
  rw [getNextMmIds_snd, toNat_add_ofNat h]

theorem getNextMmIds_add (num num' : Nat) (sMmId : UInt32) :
    getNextMmIds (num + num') sMmId =
      ((getNextMmIds num sMmId).1 ++
        (getNextMmIds num' (getNextMmIds num sMmId).2).1,
        (getNextMmIds num' (getNextMmIds num sMmId).2).2) := by
  induction num generalizing sMmId with
  | zero => simp [getNextMmIds]
  | succ num ih =>
      rw [Nat.add_right_comm, getNextMmIds, ih]
      rfl

theorem mem_getNextMmIds {num : Nat} {sMmId id : UInt32}
    (h : sMmId.toNat + num < 2 ^ 32) :
    id ∈ (getNextMmIds num sMmId).1 ↔
      sMmId.toNat < id.toNat ∧ id.toNat ≤ sMmId.toNat + num := by
  induction num generalizing sMmId with
  | zero =>
      simp only [getNextMmIds, List.not_mem_nil, false_iff]
      omega
  | succ num ih =>
      have hnext : (sMmId + 1).toNat = sMmId.toNat + 1 :=
        @toNat_add_ofNat sMmId 1 (by omega)
      rw [getNextMmIds, List.mem_cons, ih (by omega), hnext]
      rw [← UInt32.toNat_inj, hnext]
      omega

/-! ## The records of a report -/

/-- The records hold the ids that are handed out one after the other. -/
def InSequence : UInt32 → List InfoForStore → UInt32 → Prop
  | sMmId, [], last => last = sMmId
  | sMmId, mm :: records, last =>
      mm.ids = (getNextMmIds mm.asks.sum sMmId).1 ∧
        InSequence (getNextMmIds mm.asks.sum sMmId).2 records last

theorem withPhotos_ids (mm : InfoForStore) (sMmId : UInt32) :
    let photos := withPhotos mm sMmId
    (Report.photoEntries photos.1).map Prod.snd =
        (getNextMmIds photos.1.photoAsks.sum sMmId).1 ∧
      photos.2 = (getNextMmIds photos.1.photoAsks.sum sMmId).2 := by
  unfold withPhotos Report.photoEntries InfoForStore.photoAsks
  by_cases hphoto : mm.photoEnable
  · simp [hphoto, Function.comp_def]
  · simp [hphoto, getNextMmIds]

theorem withVideo_ids (mm : InfoForStore) (sMmId : UInt32) :
    (withVideo mm sMmId).1.ids =
        (Report.photoEntries mm).map Prod.snd ++
          (getNextMmIds mm.videoAsks.sum sMmId).1 ∧
      (withVideo mm sMmId).2 = (getNextMmIds mm.videoAsks.sum sMmId).2 := by
  rw [InfoForStore.ids, Report.withVideo_media]
  unfold withVideo InfoForStore.videoAsks
  by_cases hvideo : mm.videoEnable <;> simp [hvideo, getNextMmIds]

theorem ownRecord_ids (mm : InfoForStore) (sMmId : UInt32) :
    (ownRecord mm sMmId).1.ids =
        (getNextMmIds (ownRecord mm sMmId).1.asks.sum sMmId).1 ∧
      (ownRecord mm sMmId).2 =
        (getNextMmIds (ownRecord mm sMmId).1.asks.sum sMmId).2 := by
  let photos := withPhotos mm sMmId
  obtain ⟨hphotos, hnext⟩ := withPhotos_ids mm sMmId
  obtain ⟨hvideo, hlast⟩ := withVideo_ids photos.1 photos.2
  have hasks : (ownRecord mm sMmId).1.asks.sum =
      photos.1.photoAsks.sum + photos.1.videoAsks.sum := by
    change (withVideo photos.1 photos.2).1.asks.sum = _
    rw [withVideo_asks, InfoForStore.asks, List.sum_append]
  rw [hasks, getNextMmIds_add, ← hphotos, ← hnext]
  exact ⟨hvideo, hlast⟩

theorem alertRecords_inSequence (mm : InfoForStore) (sMmId : UInt32) :
    InSequence sMmId (alertRecords mm sMmId).1 (alertRecords mm sMmId).2 := by
  obtain ⟨hids, hnext⟩ := ownRecord_ids mm sMmId
  unfold alertRecords
  simp only
  split_ifs with hfilm
  · refine ⟨hids, ?_, ?_⟩
    · rw [← hnext]
      simp [InfoForStore.ids, InfoForStore.media, InfoForStore.asks,
        InfoForStore.photoAsks, InfoForStore.videoAsks, hfilm, getNextMmIds]
    · rw [← hnext]
      simp [InSequence, InfoForStore.asks, InfoForStore.photoAsks,
        InfoForStore.videoAsks, hfilm, getNextMmIds]
  · exact ⟨hids, hnext⟩

theorem snapRecords_inSequence {mm : InfoForStore} (sMmId : UInt32)
    (hvideo : mm.videoEnable = false) :
    InSequence sMmId (snapRecords mm sMmId).1 (snapRecords mm sMmId).2 := by
  obtain ⟨hphotos, hnext⟩ := withPhotos_ids mm sMmId
  unfold snapRecords
  split_ifs
  · let photos := withPhotos mm sMmId
    have hids : photos.1.ids =
        (Report.photoEntries photos.1).map Prod.snd := by
      rw [InfoForStore.ids, Report.withPhotos_media sMmId hvideo]
    have hasks : photos.1.asks = photos.1.photoAsks := by
      rw [InfoForStore.asks, (withPhotos_asks mm sMmId).2,
        InfoForStore.videoAsks, hvideo]
      exact List.append_nil _
    refine ⟨?_, ?_⟩
    · change photos.1.ids = (getNextMmIds photos.1.asks.sum sMmId).1
      rw [hids, hasks, hphotos]
    · change photos.2 = (getNextMmIds photos.1.asks.sum sMmId).2
      rw [hasks, hnext]
  · rfl

theorem Build.storedRecords_inSequence (build : Build) (w : World)
    (type statusFlag : UInt8) :
    InSequence w.ids.mmId (build.storedRecords w type statusFlag).1
      (build.storedRecords w type statusFlag).2 := by
  have hcases := build.storedRecords_cases w type statusFlag
  generalize build.storedRecords w type statusFlag = records at hcases ⊢
  cases hcases with
  | none => rfl
  | alert => exact alertRecords_inSequence _ _
  | snap hvideo => exact snapRecords_inSequence _ hvideo

/-! ## A report as a plan -/

def Effect.upkeep : Effect → Option Upkeep
  | .mmIds num => some (.extend num)
  | .remove id => some (.drop id.toNat)
  | _ => none

def plan (effects : List Effect) : List Upkeep :=
  effects.filterMap Effect.upkeep

/-- What a queued record holds has been handed out before. -/
def Announcing : Nat → List Effect → Prop
  | _, [] => True
  | newest, .mmIds num :: effects => Announcing (newest + num) effects
  | newest, .pushMm mm :: effects =>
      (∀ id ∈ mm.ids, 0 < id.toNat ∧ id.toNat ≤ newest) ∧
        Announcing newest effects
  | newest, _ :: effects => Announcing newest effects

theorem InfoForStore.mem_ids {mm : InfoForStore} {id : UInt32} :
    id ∈ mm.ids ↔ mm.photoEnable = true ∧ id ∈ mm.photoId ∨
      mm.videoEnable = true ∧ id = mm.videoId := by
  unfold ids media
  by_cases hphoto : mm.photoEnable <;> by_cases hvideo : mm.videoEnable <;>
    simp [hphoto, hvideo, Function.comp_def]

/-- For each file of a record the file a thousand ids before it is removed. -/
theorem remove_mem_clearOldMediaFile {mm : InfoForStore} {id : UInt32}
    (h : id ∈ mm.ids) (hlimit : id > saveMediaNumMax) (w : World) :
    .remove (id - saveMediaNumMax) ∈ (clearOldMediaFile mm w).2 := by
  have hreplaced : .remove (id - saveMediaNumMax) ∈ removeReplaced id := by
    rw [removeReplaced, if_pos hlimit]
    exact List.mem_singleton_self _
  rcases InfoForStore.mem_ids.mp h with ⟨hphoto, hmem⟩ | ⟨hvideo, rfl⟩
  · refine List.mem_append_left _ ?_
    rw [if_pos hphoto]
    exact List.mem_append_left _ (List.mem_flatMap.mpr ⟨id, hmem, hreplaced⟩)
  · refine List.mem_append_right _ ?_
    rw [if_pos hvideo]
    exact List.mem_append_left _ hreplaced

section

variable {newest : Nat} {effects rest : List Effect}

theorem plan_append (first second : List Effect) :
    plan (first ++ second) = plan first ++ plan second :=
  List.filterMap_append

theorem plan_mmIds (nums : List Nat) :
    plan (nums.map .mmIds) = nums.map .extend := by
  simp [plan, List.filterMap_map, Function.comp_def, Effect.upkeep]

theorem balanced_removes {limit : Nat}
    (hremoves : ∀ e ∈ effects, ∃ id, e = .remove id)
    (h : Balanced limit newest (plan rest)) :
    Balanced limit newest (plan (effects ++ rest)) := by
  induction effects with
  | nil => exact h
  | cons e effects ih =>
      obtain ⟨id, rfl⟩ := hremoves e List.mem_cons_self
      exact ih fun e he => hremoves e (List.mem_cons_of_mem _ he)

theorem announcing_removes (hremoves : ∀ e ∈ effects, ∃ id, e = .remove id)
    (h : Announcing newest rest) : Announcing newest (effects ++ rest) := by
  induction effects with
  | nil => exact h
  | cons e effects ih =>
      obtain ⟨id, rfl⟩ := hremoves e List.mem_cons_self
      exact ih fun e he => hremoves e (List.mem_cons_of_mem _ he)

theorem announcing_mmIds (nums : List Nat)
    (h : Announcing (newest + nums.sum) rest) :
    Announcing newest (nums.map .mmIds ++ rest) := by
  induction nums generalizing newest with
  | nil => simpa using h
  | cons num nums ih =>
      rw [List.sum_cons, ← Nat.add_assoc] at h
      exact ih h

theorem pushMmQueue_effects (target : Target) (mm : InfoForStore) (w : World) :
    (pushMmQueue target mm w).2 = [] ∨
      (pushMmQueue target mm w).2 = [.pushMm mm] := by
  unfold pushMmQueue
  cases target.interface with
  | tcp => exact .inr rfl
  | rs232 => exact .inl rfl

end

section

variable {sMmId last : UInt32} {mm : InfoForStore} {rest : List Effect}
  (target : Target)

theorem balanced_stored
    (hids : mm.ids = (getNextMmIds mm.asks.sum sMmId).1)
    (hwrap : sMmId.toNat + mm.asks.sum < 2 ^ 32)
    (h : Balanced saveMediaNumMax.toNat (sMmId.toNat + mm.asks.sum)
      (plan rest)) :
    Balanced saveMediaNumMax.toNat sMmId.toNat
      (plan (mm.stored target ++ rest)) := by
  have hplan : plan (mm.stored target ++ rest) =
      mm.asks.map .extend ++ plan ((clearOldMediaFile mm World.zero).2 ++
        ((pushMmQueue target mm World.zero).2 ++ rest)) := by
    rw [InfoForStore.stored, List.append_assoc, List.append_assoc,
      plan_append, plan_mmIds]
  rw [hplan]
  apply Balanced.extends
  · intro id hnew hle hlimit
    let new := UInt32.ofNat id
    have hnat : new.toNat = id := by
      refine UInt32.toNat_ofNat_of_lt' ?_
      change id < 2 ^ 32
      omega
    have hmem : new ∈ mm.ids := by
      rw [hids, mem_getNextMmIds hwrap, hnat]
      exact ⟨hnew, hle⟩
    have hgt : new > saveMediaNumMax := UInt32.lt_iff_toNat_lt.mpr (by omega)
    have hold : (new - saveMediaNumMax).toNat = id - saveMediaNumMax.toNat := by
      rw [UInt32.toNat_sub_of_le _ _ (UInt32.le_of_lt hgt), hnat]
    have hremove := List.mem_append_left
      ((pushMmQueue target mm World.zero).2 ++ rest)
      (remove_mem_clearOldMediaFile hmem hgt World.zero)
    rw [← hold]
    exact List.mem_filterMap.mpr ⟨_, hremove, rfl⟩
  · apply balanced_removes fun e he => clearOldMediaFile_removes he
    rcases pushMmQueue_effects target mm World.zero with hpush | hpush
    · rw [hpush]
      exact h
    · rw [hpush]
      exact h

theorem announcing_stored
    (hids : mm.ids = (getNextMmIds mm.asks.sum sMmId).1)
    (hwrap : sMmId.toNat + mm.asks.sum < 2 ^ 32)
    (h : Announcing (sMmId.toNat + mm.asks.sum) rest) :
    Announcing sMmId.toNat (mm.stored target ++ rest) := by
  rw [InfoForStore.stored, List.append_assoc, List.append_assoc]
  apply announcing_mmIds
  apply announcing_removes fun e he => clearOldMediaFile_removes he
  rcases pushMmQueue_effects target mm World.zero with hpush | hpush
  · rw [hpush]
    exact h
  · rw [hpush]
    refine ⟨fun id hid => ?_, h⟩
    rw [hids, mem_getNextMmIds hwrap] at hid
    omega

theorem mmIdRequests_stored (mm : InfoForStore) :
    mmIdRequests (mm.stored target) = mm.asks := by
  have hasks : mmIdRequests (mm.asks.map .mmIds) = mm.asks := by
    simp [mmIdRequests, List.filterMap_map]
  have hclear : mmIdRequests (clearOldMediaFile mm World.zero).2 = [] :=
    mmIdRequests_removes fun e he => clearOldMediaFile_removes he
  have hpush : mmIdRequests (pushMmQueue target mm World.zero).2 = [] := by
    rcases pushMmQueue_effects target mm World.zero with hpush | hpush
    · rw [hpush, mmIdRequests_nil]
    · rw [hpush]
      rfl
  rw [InfoForStore.stored, mmIdRequests_append, mmIdRequests_append, hasks,
    hclear, hpush, List.append_nil, List.append_nil]

/-- What a report does with its records is a plan that keeps the newest
thousand files. -/
theorem records_plan {records : List InfoForStore}
    (hids : InSequence sMmId records last)
    (hwrap : sMmId.toNat + (mmIdRequests
      (records.flatMap (InfoForStore.stored target))).sum < 2 ^ 32) :
    Balanced saveMediaNumMax.toNat sMmId.toNat
        (plan (records.flatMap (InfoForStore.stored target))) ∧
      Announcing sMmId.toNat
        (records.flatMap (InfoForStore.stored target)) := by
  induction records generalizing sMmId with
  | nil => exact ⟨trivial, trivial⟩
  | cons mm records ih =>
      obtain ⟨hown, hrest⟩ := hids
      rw [List.flatMap_cons, mmIdRequests_append, mmIdRequests_stored,
        List.sum_append] at hwrap
      have hnext : (getNextMmIds mm.asks.sum sMmId).2.toNat =
          sMmId.toNat + mm.asks.sum := toNat_getNextMmIds_snd (by omega)
      obtain ⟨hbalanced, hannouncing⟩ := ih hrest (by omega)
      rw [hnext] at hbalanced hannouncing
      rw [List.flatMap_cons]
      exact ⟨balanced_stored target hown (by omega) hbalanced,
        announcing_stored target hown (by omega) hannouncing⟩

end

/-! ## Runs -/

namespace MediaDir

def store (d : MediaDir) : NumberedStore :=
  ⟨d.sMmId.toNat, d.files.image UInt32.toNat⟩

structure Sound (d : MediaDir) : Prop where
  owing : Owing saveMediaNumMax.toNat d.store (plan d.todo)
  announcing : Announcing d.sMmId.toNat d.todo
  announced : ∀ id ∈ d.announced, 0 < id.toNat ∧ id.toNat ≤ d.sMmId.toNat
  unwrapped : d.sMmId.toNat + (mmIdRequests d.todo).sum < 2 ^ 32

variable {d : MediaDir} {target : Target}

theorem Sound.report (h : d.Sound) (build : Build) (w : World)
    (type statusFlag : UInt8) (msgbuf : Mem UInt8)
    (hallowed : (MediaEvent.report build w type statusFlag msgbuf).Allowed
      target d) :
    ((mediaDir target).step d
      (.report build w type statusFlag msgbuf)).1.Sound := by
  obtain ⟨htodo, hmmId, hwrap⟩ := hallowed
  have hstores := build.buildWarnFrame_stores target w type statusFlag msgbuf
  have hids := build.storedRecords_inSequence w type statusFlag
  rw [hmmId] at hids
  have heffects := hstores.effects
  have hplan := records_plan target hids (by rw [← heffects]; exact hwrap)
  rw [← heffects] at hplan
  have howing := h.owing
  rw [htodo] at howing
  exact ⟨howing.start hplan.1, hplan.2, h.announced, hwrap⟩

theorem Sound.proceed (h : d.Sound) :
    ((mediaDir target).step d .proceed).1.Sound := by
  obtain ⟨sMmId, files, announced, todo⟩ := d
  cases todo with
  | nil => exact h
  | cons e todo =>
      obtain ⟨howing, hannouncing, hannounced, hwrap⟩ := h
      cases e with
      | mmIds num =>
          change sMmId.toNat + (num + (mmIdRequests todo).sum) < 2 ^ 32 at hwrap
          have hnext := @toNat_add_ofNat sMmId num (by omega)
          have hstore : store ⟨sMmId + UInt32.ofNat num, files, announced,
              todo⟩ = (store ⟨sMmId, files, announced, todo⟩).apply
                (.extend num) := by
            rw [store, hnext]
            rfl
          refine ⟨?_, ?_, fun id hid => ?_, ?_⟩
          · change Owing _ (store ⟨sMmId + UInt32.ofNat num, files, announced,
              todo⟩) (plan todo)
            rw [hstore]
            exact Owing.apply howing
          · change Announcing (sMmId + UInt32.ofNat num).toNat todo
            rw [hnext]
            exact hannouncing
          · change 0 < id.toNat ∧ id.toNat ≤ (sMmId + UInt32.ofNat num).toNat
            obtain ⟨hpos, hle⟩ := hannounced id hid
            rw [hnext]
            exact ⟨hpos, Nat.le_add_right_of_le hle⟩
          · change (sMmId + UInt32.ofNat num).toNat +
              (mmIdRequests todo).sum < _
            rw [hnext]
            omega
      | remove id =>
          refine ⟨?_, hannouncing, hannounced, hwrap⟩
          have hstore : store ⟨sMmId, files.erase id, announced, todo⟩ =
              (store ⟨sMmId, files, announced, todo⟩).apply
                (.drop id.toNat) := by
            rw [store, Finset.image_erase fun _ _ => UInt32.toNat_inj.mp]
            rfl
          change Owing _ (store ⟨sMmId, files.erase id, announced, todo⟩)
            (plan todo)
          rw [hstore]
          exact Owing.apply howing
      | pushMm mm =>
          refine ⟨howing, hannouncing.2, fun id hid => ?_, hwrap⟩
          rcases List.mem_append.mp hid with hold | hnew
          · exact hannounced id hold
          · exact hannouncing.1 id hnew
      | _ => exact ⟨howing, hannouncing, hannounced, hwrap⟩

theorem Sound.capture (h : d.Sound) {id : UInt32}
    (hallowed : (MediaEvent.capture id).Allowed target d) :
    ((mediaDir target).step d (.capture id)).1.Sound := by
  obtain ⟨hannounced, hrecent⟩ := hallowed
  obtain ⟨hpos, hle⟩ := h.announced id hannounced
  refine ⟨?_, h.announcing, h.announced, h.unwrapped⟩
  have hwrite := h.owing.write hpos hle hrecent
  rw [NumberedStore.write] at hwrite
  simpa [store, mediaDir, Finset.image_insert] using hwrite

theorem Sound.step (h : d.Sound) (event : MediaEvent)
    (hallowed : event.Allowed target d) :
    ((mediaDir target).step d event).1.Sound := by
  cases event with
  | report build w type statusFlag msgbuf =>
      exact h.report build w type statusFlag msgbuf hallowed
  | proceed => exact h.proceed
  | capture id => exact h.capture hallowed

/-- Each file has one of the last thousand ids, so there are no more of
them. -/
def Retained (d : MediaDir) : Prop :=
  (∀ id ∈ d.files, d.sMmId.toNat < id.toNat + saveMediaNumMax.toNat ∧
    id.toNat ≤ d.sMmId.toNat) ∧ d.files.card ≤ saveMediaNumMax.toNat

theorem Sound.retained (h : d.Sound) (htodo : d.todo = []) : d.Retained := by
  have howing := h.owing
  rw [htodo] at howing
  constructor
  · intro id hid
    exact howing.within (Finset.mem_image_of_mem _ hid)
  · have hcard := howing.card_le
    rwa [store, Finset.card_image_of_injective _
      fun _ _ => UInt32.toNat_inj.mp] at hcard

end MediaDir

/-- Between reports only the newest thousand media files exist, whatever the
reports and however the captures fall between their steps. -/
theorem media_retained (target : Target) (files : Finset UInt32)
    (sMmId : UInt32) (events : List MediaEvent)
    (hstart : ∀ id ∈ files, 1 ≤ id.toNat ∧ id.toNat ≤ sMmId.toNat ∧
      sMmId.toNat < id.toNat + saveMediaNumMax.toNat)
    (hallowed : (mediaDir target).EachStep
      (fun d event => event.Allowed target d) (.empty sMmId files) events) :
    (mediaDir target).Always (fun d => d.todo = [] → d.Retained)
      (.empty sMmId files) events := by
  have hsound : (MediaDir.empty sMmId files).Sound := by
    refine ⟨⟨trivial, fun id hid => ?_, fun id hid => ?_⟩, trivial, ?_,
      sMmId.toNat_lt⟩
    · obtain ⟨file, hfile, rfl⟩ := Finset.mem_image.mp hid
      obtain ⟨hpos, hle, -⟩ := hstart file hfile
      exact ⟨hpos, hle⟩
    · obtain ⟨file, hfile, rfl⟩ := Finset.mem_image.mp hid
      exact .inl (hstart file hfile).2.2
    · intro id hid
      cases hid
  have hrun := Mealy.always_of_eachStep (I := MediaDir.Sound)
    (fun d event h => h.step event) hsound hallowed
  intro before after heq
  exact (hrun before after heq).retained

/-- The thousand and first file takes the place of the first. -/
theorem media_retained_warning :
    let w : World :=
      { startedWorld adasTcp ⟨true, some 50⟩ ⟨none, none⟩ with
        ids := ⟨0, 1000⟩ }
    (mediaDir adasTcp).Always (fun d => d.todo = [] → d.Retained)
      (.empty 1000 {1, 1000})
      (.report .adas w sbWarnTypeFcw sbWarnStatusNone (fun _ => 0) ::
        List.replicate 12 .proceed ++ [.capture 1001] ++
        List.replicate 30 .proceed) :=
  media_retained adasTcp {1, 1000} 1000 _ (by simp [saveMediaNumMax])
    (by decide +kernel)

end SanbaoProt
