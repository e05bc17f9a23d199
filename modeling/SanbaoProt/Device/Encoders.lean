import SanbaoProt.Device.AdasFrames
import SanbaoProt.Device.SaveMedia

/-!
# The encoders of the ADAS device

The media thread configures the encoders once before its loop, and then in each
pass that finds nothing to record.  What is stored can change between two
passes, and a pass that pulls a record looks at no parameters.
-/

namespace SanbaoProt

open Library

/-! ## Sizes -/

def EncoderCall.recordSize? : EncoderCall → Option Size
  | recordConfigure _ width height _ => some (width, height)
  | _ => none

def EncoderCall.jpegSize? : EncoderCall → Option Size
  | jpegEncConfigure _ width height _ _ => some (width, height)
  | _ => none

/-- The size that an index stands for; zero stands for none. -/
def sizeOf (table : List Size) (index : UInt32) : Option Size :=
  if HasRow table index then table[index.toNat - 1]? else none

/-! ## The device and its media thread -/

structure EncodingDevice where
  device : AdasDevice
  save : SaveMedia

inductive EncodingInput where
  | device (input : AdasInput)
  /-- The call before the loop. -/
  | configure
  /-- A pass of the loop. -/
  | pass

/-- The threads of the device, and the media thread. -/
def encodingDevice (i : Interface) (config : CoderConfig) :
    Mealy EncodingDevice EncodingInput SaveEvent where
  step s
    | .device input =>
        ({ s with device := ((adasDevice i).step s.device input).1 }, [])
    | .configure =>
        let out := configAdasVideoResolution config s.device.world.para.adas
          s.save.sType
        ({ s with save := { s.save with sType := out.1 } },
          out.2.map .encoder)
    | .pass =>
        let world := s.device.world
        let out := savePass .adas config world.para world.imageQueue s.save
        (⟨{ s.device with world := { world with imageQueue := out.1 } },
            out.2.1⟩, out.2.2)

def encodingStarted (i : Interface) (access : ParaFileAccess)
    (files : ParaFiles) : EncodingDevice :=
  ⟨adasStarted i access files, SaveMedia.started⟩

def encoderCall : SaveEvent → Option EncoderCall
  | .encoder call => some call
  | _ => none

/-- The pass finds nothing to record. -/
def EncodingDevice.Idle (s : EncodingDevice) : Prop :=
  pullMmQueue s.device.world.imageQueue = none

/-! ## What the encoders are configured with -/

theorem HasRow.sizeOf {table : List Size} {index : UInt32}
    (h : HasRow table index) :
    ∃ size, table[index.toNat - 1]? = some size ∧
      sizeOf table index = some size := by
  obtain ⟨hpos, hle⟩ := h
  have hne : 0 < index.toNat := hpos
  have hlt : index.toNat - 1 < table.length := by omega
  refine ⟨table[index.toNat - 1], List.getElem?_eq_getElem hlt, ?_⟩
  rw [SanbaoProt.sizeOf, if_pos ⟨hpos, hle⟩, List.getElem?_eq_getElem hlt]

section AdasEncoders

variable (config : CoderConfig)

theorem recordCalls_size {index : UInt32} (h : HasRow adasReslution index) :
    ∃ size, sizeOf adasReslution index = some size ∧
      ((recordCalls .adas config index).filterMap
        EncoderCall.recordSize?).getLast? = some size := by
  obtain ⟨size, hrow, hsize⟩ := h.sizeOf
  have hrate : index.toNat - 1 < (Build.codeRate config .adas).length := by
    have hlength : (Build.codeRate config .adas).length = 7 :=
      config.adasBitRate.length_toList
    have hseven : index.toNat ≤ 7 := h.2
    omega
  have hrow' : Build.adas.reslution[index.toNat - 1]? = some size := hrow
  refine ⟨size, hsize, ?_⟩
  rw [recordCalls, hrow', List.getElem?_eq_getElem hrate]
  rfl

theorem jpegEncCalls_size {index : UInt32} (h : HasRow imageReslution index) :
    ∃ size, sizeOf imageReslution index = some size ∧
      ((jpegEncCalls .adas config index).filterMap
        EncoderCall.jpegSize?).getLast? = some size := by
  obtain ⟨size, hrow, hsize⟩ := h.sizeOf
  refine ⟨size, hsize, ?_⟩
  rw [jpegEncCalls, hrow]
  rfl

theorem filterMap_isVideo (calls : List EncoderCall) :
    (calls.filter EncoderCall.isVideo).filterMap EncoderCall.recordSize? =
        calls.filterMap EncoderCall.recordSize? ∧
      (calls.filter fun call => !call.isVideo).filterMap
          EncoderCall.jpegSize? = calls.filterMap EncoderCall.jpegSize? := by
  constructor
  · rw [List.filterMap_filter]
    refine List.filterMap_congr fun call _ => ?_
    cases call <;> rfl
  · rw [List.filterMap_filter]
    refine List.filterMap_congr fun call _ => ?_
    cases call <;> rfl

/-- The sizes configured last are those of the indices in `s_type`. -/
theorem encoders_sizes (paras : List AdasPara) :
    let calls := (encoders .adas config).outputs SType.zero paras
    let sType := (encoders .adas config).final SType.zero paras
    (calls.filterMap EncoderCall.recordSize?).getLast? =
        sizeOf adasReslution sType.video ∧
      (calls.filterMap EncoderCall.jpegSize?).getLast? =
        sizeOf imageReslution sType.image := by
  intro calls sType
  obtain ⟨hvideo, himage, hfinal⟩ :=
    encoders_run .adas config paras SType.zero
  obtain ⟨hrecord, hjpeg⟩ := filterMap_isVideo calls
  have hsType : sType = _ := hfinal
  rw [← hrecord, ← hjpeg, hsType]
  constructor
  · rw [hvideo]
    exact Follower.follow_latest _
      (fun index h => recordCalls_size config h) (by decide)
  · rw [himage]
    exact Follower.follow_latest _
      (fun index h => jpegEncCalls_size config h) (by decide)

end AdasEncoders

/-- What is stored when the file cannot be loaded, before a set is written. -/
def AdasPara.Blank (para : AdasPara) : Prop := para = fun _ => 0

def AdasPara.InRange (para : AdasPara) : Prop :=
  ∀ c ∈ AdasPara.checks, c.holds para = true

theorem writeDevParaAdas_checked (para store : AdasPara) :
    AdasPara.InRange (writeDevParaAdas para store) := by
  unfold writeDevParaAdas
  exact adasParaCheck_holds _

theorem AdasPara.InRange.hasRow {para : AdasPara} (h : para.InRange) :
    HasRow adasReslution (index1 .adas para) ∧
      HasRow imageReslution (index2 .adas para) := by
  have hrow {table : List Size} {byte : UInt8}
      (hlow : (1 : UInt8) ≤ byte) (hhigh : byte.toNat ≤ table.length) :
      HasRow table (.ofNat byte.toNat) := by
    have hone : 1 ≤ byte.toNat := hlow
    have hlt := byte.toNat_lt
    have hindex : (UInt32.ofNat byte.toNat).toNat = byte.toNat := by
      rw [UInt32.toNat_ofNat']
      omega
    refine ⟨?_, by rw [hindex]; exact hhigh⟩
    change 0 < (UInt32.ofNat byte.toNat).toNat
    omega
  have hvideo := h (.byte AdasPara.videoResolution 1 7 1)
    (by simp [AdasPara.checks])
  have himage := h (.byte AdasPara.imageResolution 1 6 1)
    (by simp [AdasPara.checks])
  simp only [RangeCheck.holds, Bool.and_eq_true, decide_eq_true_eq]
    at hvideo himage
  exact ⟨hrow hvideo.1 hvideo.2, hrow himage.1 himage.2⟩

section

variable {i : Interface}

theorem report_keepsPara (para : ParaStore) (statusFlag : UInt8) :
    ReportsKeep (adasTarget i) (fun w _ => w.para = para) statusFlag := by
  rintro a type finish - hpara
  have hstores := buildAdasWarnFrame_storing (adasTarget i) a.world type
    statusFlag a.msgbuf
  have hworld : (a.report (adasTarget i) type statusFlag finish).world.para =
      (buildAdasWarnFrame (adasTarget i) a.world type statusFlag
        a.msgbuf).world.para := by
    simp only [Alerting.report, sendReport, sendMessage_apply]
    rfl
  rw [hworld, hstores.1.para]
  exact hpara

/-- The parameters are kept or written by `write_dev_para`. -/
theorem adasDevice_para (s : AdasDevice) (input : AdasInput) :
    ((adasDevice i).step s input).1.world.para.adas = s.world.para.adas ∨
      AdasPara.InRange ((adasDevice i).step s input).1.world.para.adas := by
  cases input with
  | frame r =>
      obtain ⟨hown, -⟩ := device_ownPara (adasTarget i) s.world r
      have hstore := congrArg OwnPara.store hown
      cases hwritten : writtenPara (adasTarget i) r with
      | none =>
          simp only [hwritten] at hstore
          exact .inl hstore
      | some para =>
          simp only [hwritten] at hstore
          have hsaved := OwnPara.save_store
            (s.world.ownPara (adasTarget i).build) para r.env.paraWrite
          have hmerged : ((adasDevice i).step s (.frame r)).1.world.para.adas =
              Build.adas.writeDevPara para (s.world.ownPara .adas).store :=
            hstore.trans hsaved
          have hwrite : Build.adas.writeDevPara = writeDevParaAdas := rfl
          rw [hmerged, hwrite]
          exact .inr (writeDevParaAdas_checked para _)
  | can f =>
      refine .inl (congrArg ParaStore.adas ?_)
      have hkeep := report_keepsPara (i := i) s.world.para
      exact dealWsiAdasCan700_preserves f (hkeep _) (hkeep _) (hkeep _) s.can
        rfl
  | snap env =>
      have hquiet := doSnapShot_quiet (adasTarget i) env s.world
      exact .inl (congrArg ParaStore.adas hquiet.1.para)
  | workStatus => exact .inl rfl
  | others world => exact .inl rfl

/-! ## Runs -/

variable (config : CoderConfig)

theorem addCapture_sType (b : Build) (mm : InfoForStore) (s : SaveMedia) :
    (addCapture b mm s).1.sType = s.sType := by
  unfold addCapture
  simp only
  split_ifs
  · rfl
  · rfl

theorem filterMap_encoder (calls : List EncoderCall) :
    (calls.map SaveEvent.encoder).filterMap encoderCall = calls := by
  rw [List.filterMap_map]
  exact List.filterMap_some

theorem savePass_idle {para : ParaStore}
    {queue : List (PtrQueueNode InfoForStore)} (h : pullMmQueue queue = none)
    (s : SaveMedia) :
    let out := savePass .adas config para queue s
    (out.2.1.sType, out.2.2.filterMap encoderCall) =
      configAdasVideoResolution config para.adas s.sType := by
  simp only [savePass, h, filterMap_encoder]
  rfl

/-- A step configures the encoders from the parameters that it finds, or does
not touch them. -/
theorem encodingDevice_step (s : EncodingDevice) (input : EncodingInput) :
    let out := (encodingDevice i config).step s input
    (out.1.save.sType = s.save.sType ∧ out.2.filterMap encoderCall = []) ∨
      (out.1.save.sType, out.2.filterMap encoderCall) =
        configAdasVideoResolution config s.device.world.para.adas
          s.save.sType := by
  cases input with
  | device input => exact .inl ⟨rfl, rfl⟩
  | configure =>
      refine .inr (Prod.ext rfl ?_)
      exact filterMap_encoder _
  | pass =>
      cases hpull : pullMmQueue s.device.world.imageQueue with
      | none => exact .inr (savePass_idle config hpull s.save)
      | some pulled =>
          refine .inl ?_
          simp only [encodingDevice, savePass, hpull]
          rw [addCapture_events]
          exact ⟨addCapture_sType _ _ _, rfl⟩

theorem encodingDevice_para (s : EncodingDevice) (input : EncodingInput) :
    let para := ((encodingDevice i config).step s
      input).1.device.world.para.adas
    para = s.device.world.para.adas ∨ AdasPara.InRange para := by
  cases input with
  | device input => exact adasDevice_para s.device input
  | configure => exact .inl rfl
  | pass => exact .inl rfl

/-- The calls of a run are those for the parameters that it finds. -/
theorem encodingDevice_run (inputs : List EncodingInput)
    (s : EncodingDevice) : ∃ paras,
    ((encodingDevice i config).outputs s inputs).filterMap encoderCall =
        (encoders .adas config).outputs s.save.sType paras ∧
      ((encodingDevice i config).final s inputs).save.sType =
        (encoders .adas config).final s.save.sType paras := by
  induction inputs generalizing s with
  | nil => exact ⟨[], rfl, rfl⟩
  | cons input inputs ih =>
      obtain ⟨paras, houtputs, hfinal⟩ :=
        ih ((encodingDevice i config).step s input).1
      rw [Mealy.outputs_cons, Mealy.final_cons, List.filterMap_append,
        houtputs, hfinal]
      rcases encodingDevice_step config s input with ⟨hkept, hnone⟩ | hpass
      · refine ⟨paras, ?_, ?_⟩
        · rw [hnone, hkept]
          rfl
        · rw [hkept]
      · have hstep : (encoders .adas config).step s.save.sType
            s.device.world.para.adas =
              (((encodingDevice i config).step s input).1.save.sType,
                ((encodingDevice i config).step s input).2.filterMap
                  encoderCall) := hpass.symm
        exact ⟨s.device.world.para.adas :: paras,
          (Mealy.outputs_of_step hstep paras).symm,
          (Mealy.final_of_step hstep paras).symm⟩

/-- Before the first set is written nothing has been configured. -/
def EncodingDevice.Sound (s : EncodingDevice) : Prop :=
  AdasPara.InRange s.device.world.para.adas ∨
    AdasPara.Blank s.device.world.para.adas ∧ s.save.sType = SType.zero

theorem configAdasVideoResolution_blank {para : AdasPara}
    (h : para.Blank) :
    configAdasVideoResolution config para SType.zero = (SType.zero, []) := by
  rw [h]
  rfl

theorem EncodingDevice.Sound.step {s : EncodingDevice} (h : s.Sound)
    (input : EncodingInput) :
    ((encodingDevice i config).step s input).1.Sound := by
  rcases encodingDevice_para (i := i) config s input with hkept | hrange
  · rcases h with hrange | ⟨hblank, hzero⟩
    · refine .inl ?_
      rw [hkept]
      exact hrange
    · refine .inr ⟨hkept.trans hblank, ?_⟩
      rcases encodingDevice_step config s input with ⟨hsame, -⟩ | hpass
      · exact hsame.trans hzero
      · rw [hzero, configAdasVideoResolution_blank config hblank] at hpass
        exact congrArg Prod.fst hpass
  · exact .inl hrange

theorem encodingStarted_sound (access : ParaFileAccess) (files : ParaFiles) :
    (encodingStarted i access files).Sound := by
  have hstore : (encodingStarted i access files).device.world.para.adas =
      (readLocalAdasParaFile access files.adas fun _ => 0).2.1 := rfl
  rw [EncodingDevice.Sound, hstore]
  by_cases hloads : Loadable 50 access files.adas
  · refine .inl ?_
    obtain ⟨-, hdefault | ⟨para, hpara⟩⟩ := readLocalParaFile_loaded hloads
      setAdasParaSettingDefault writeDevParaAdas fun _ => 0
    · rw [readLocalAdasParaFile, hdefault, setAdasParaSettingDefault]
      exact writeDevParaAdas_checked _ _
    · rw [readLocalAdasParaFile, hpara]
      exact writeDevParaAdas_checked _ _
  · obtain ⟨-, hkept⟩ := readLocalParaFile_failed hloads
      setAdasParaSettingDefault writeDevParaAdas fun _ => 0
    rw [readLocalAdasParaFile, hkept]
    exact .inr ⟨rfl, rfl⟩

/-- Configuring leaves the indices in the parameters in `s_type`. -/
theorem EncodingDevice.Sound.configured {s : EncodingDevice} (h : s.Sound) :
    (configAdasVideoResolution config s.device.world.para.adas
      s.save.sType).1 =
      ⟨index1 .adas s.device.world.para.adas,
        index2 .adas s.device.world.para.adas⟩ := by
  rcases h with hrange | ⟨hblank, hzero⟩
  · obtain ⟨hvideo, himage⟩ := hrange.hasRow
    exact SType.mk.injEq .. ▸ ⟨if_pos hvideo, if_pos himage⟩
  · rw [hblank, hzero]
    rfl

end

/-- Whatever happened before, after a pass that finds nothing to record the
encoders have the sizes that the parameters ask for. -/
theorem adasEncoders_current (i : Interface) (config : CoderConfig)
    (access : ParaFileAccess) (files : ParaFiles)
    (inputs : List EncodingInput)
    (hidle : ((encodingDevice i config).final (encodingStarted i access files)
      inputs).Idle) :
    let start := encodingStarted i access files
    let calls := ((encodingDevice i config).outputs start
      (inputs ++ [.pass])).filterMap encoderCall
    let para := ((encodingDevice i config).final start
      inputs).device.world.para.adas
    (calls.filterMap EncoderCall.recordSize?).getLast? =
        sizeOf adasReslution (index1 .adas para) ∧
      (calls.filterMap EncoderCall.jpegSize?).getLast? =
        sizeOf imageReslution (index2 .adas para) := by
  intro start calls para
  have hsound : ((encodingDevice i config).final start inputs).Sound :=
    Mealy.always_of_step (fun _ input h => h.step config input)
      (encodingStarted_sound access files) inputs inputs []
      (List.append_nil _).symm
  obtain ⟨paras, houtputs, hfinal⟩ :=
    encodingDevice_run (i := i) config (inputs ++ [.pass]) start
  obtain ⟨hvideo, himage⟩ := encoders_sizes config paras
  let before := (encodingDevice i config).final start inputs
  have hpass := @savePass_idle config before.device.world.para
    before.device.world.imageQueue hidle before.save
  have hsType : (encoders .adas config).final SType.zero paras =
      ⟨index1 .adas para, index2 .adas para⟩ := by
    refine hfinal.symm.trans ?_
    rw [Mealy.final_append]
    exact (congrArg Prod.fst hpass).trans (hsound.configured config)
  have hcalls : calls = (encoders .adas config).outputs SType.zero paras :=
    houtputs
  rw [hsType] at hvideo himage
  rw [hcalls]
  exact ⟨hvideo, himage⟩

/-- A set of the resolutions: 352 by 288 for photos, 1920 by 1080 for
videos. -/
def setResolutions : Received :=
  .ofFrame Env.plain ⟨1, vendorId, sampleDeviceIdAdas, sampleCmdSetParam,
    ((List.replicate 50 0xFF).set 9 1).set 10 7⟩

/-- The first pass pulls the record of a snapshot. -/
def resolutionInputs : List EncodingInput :=
  [.configure, .device (.snap Env.plain), .device (.frame setResolutions),
    .pass]

theorem adasEncoders_current_resolutions :
    let start := encodingStarted .tcp ⟨true, some 50⟩ ⟨none, none⟩
    let calls := ((encodingDevice .tcp plainCoders).outputs start
      (resolutionInputs ++ [.pass])).filterMap encoderCall
    (calls.filterMap EncoderCall.recordSize?).getLast? = some (1920, 1080) ∧
      (calls.filterMap EncoderCall.jpegSize?).getLast? = some (352, 288) := by
  intro start calls
  have hidle : ((encodingDevice .tcp plainCoders).final start
      resolutionInputs).Idle := by
    unfold EncodingDevice.Idle
    decide +kernel
  obtain ⟨hvideo, himage⟩ := adasEncoders_current .tcp plainCoders
    ⟨true, some 50⟩ ⟨none, none⟩ resolutionInputs hidle
  constructor
  · refine hvideo.trans ?_
    decide +kernel
  · refine himage.trans ?_
    decide +kernel

end SanbaoProt
