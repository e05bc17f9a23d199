import SanbaoProt.Device.Capture
import SanbaoProt.Device.ParaStep
import SanbaoProt.Library.Follow

/-!
# The resolution of the encoders

While there is nothing to record, the media thread compares the resolutions in
the parameters with those it configured last.  An index that has no row in its
table is passed over and leaves the encoder as it is.
-/

namespace SanbaoProt

open Library

inductive EncoderCall where
  | recordStop (camera : Camera)
  | recordConfigure (camera : Camera) (width height : Int) (bitRate : UInt32)
  | recordStart (camera : Camera)
  | jpegEncStop (camera : Camera)
  | jpegEncConfigure (camera : Camera) (width height fps quality : Int)
  | jpegEncStart (camera : Camera)
  deriving DecidableEq, Repr

def EncoderCall.isVideo : EncoderCall → Bool
  | recordStop _ => true
  | recordConfigure _ _ _ _ => true
  | recordStart _ => true
  | _ => false

abbrev Size := Int × Int

def dmsReslution : List Size :=
  [(352, 288), (704, 288), (704, 576), (960, 576), (1280, 720), (1920, 1080)]

def adasReslution : List Size :=
  [(352, 288), (704, 288), (704, 576), (960, 576), (640, 480), (1280, 720),
    (1920, 1080)]

def imageReslution : List Size :=
  [(352, 288), (704, 288), (704, 576), (640, 480), (1280, 720), (1920, 1080)]

/-- The fields of `g_configini` that configure the encoders. -/
structure CoderConfig where
  jpegCoderFps : Int8
  adasBitRate : Vector UInt32 7
  dmsBitRate : Vector UInt32 6

def plainCoders : CoderConfig :=
  ⟨15, Vector.replicate 7 1024, Vector.replicate 6 1024⟩

namespace Build

def camera : Build → Camera
  | .adas => .adas
  | .dms => .dms

def reslution : Build → List Size
  | .adas => adasReslution
  | .dms => dmsReslution

def codeRate (config : CoderConfig) : Build → List UInt32
  | .adas => config.adasBitRate.toList
  | .dms => config.dmsBitRate.toList

def videoResolution : (b : Build) → Fin b.paraSize
  | .adas => AdasPara.videoResolution
  | .dms => DmsPara.videoResolution

def imageResolution : (b : Build) → Fin b.paraSize
  | .adas => AdasPara.imageResolution
  | .dms => DmsPara.imageResolution

end Build

section Follow

variable (b : Build) (config : CoderConfig)

def recordCalls (index : UInt32) : List EncoderCall :=
  match b.reslution[index.toNat - 1]?, (b.codeRate config)[index.toNat - 1]? with
  | some size, some rate =>
      [.recordStop b.camera,
        .recordConfigure b.camera size.1 size.2 (rate * 1024),
        .recordStart b.camera]
  | _, _ => []

def jpegEncCalls (index : UInt32) : List EncoderCall :=
  match imageReslution[index.toNat - 1]? with
  | some size =>
      [.jpegEncStop b.camera,
        .jpegEncConfigure b.camera size.1 size.2 config.jpegCoderFps.toInt 50,
        .jpegEncStart b.camera]
  | none => []

def HasRow (table : List Size) (index : UInt32) : Prop :=
  index > 0 ∧ index.toNat ≤ table.length

instance (table : List Size) : DecidablePred (HasRow table) :=
  fun index => inferInstanceAs (Decidable (_ ∧ index.toNat ≤ table.length))

def videoFollower : Follower UInt32 EncoderCall :=
  ⟨HasRow b.reslution, recordCalls b config⟩

def imageFollower : Follower UInt32 EncoderCall :=
  ⟨HasRow imageReslution, jpegEncCalls b config⟩

instance : DecidablePred (videoFollower b config).valid :=
  inferInstanceAs (DecidablePred (HasRow b.reslution))

instance : DecidablePred (imageFollower b config).valid :=
  inferInstanceAs (DecidablePred (HasRow imageReslution))

/-- The static `s_type`. -/
structure SType where
  video : UInt32
  image : UInt32
  deriving DecidableEq, Repr

def SType.zero : SType := ⟨0, 0⟩

def index1 (para : Packed b.paraSize) : UInt32 :=
  .ofNat (para b.videoResolution).toNat

def index2 (para : Packed b.paraSize) : UInt32 :=
  .ofNat (para b.imageResolution).toNat

/-- Both indices are looked at before `s_type` is written. -/
def configVideoResolution (para : Packed b.paraSize) (sType : SType) :
    SType × List EncoderCall :=
  (⟨(videoFollower b config).keep sType.video (index1 b para),
      (imageFollower b config).keep sType.image (index2 b para)⟩,
    (videoFollower b config).acts sType.video (index1 b para) ++
      (imageFollower b config).acts sType.image (index2 b para))

def encoders : Mealy SType (Packed b.paraSize) EncoderCall where
  step sType para := configVideoResolution b config para sType

end Follow

def configAdasVideoResolution (config : CoderConfig) (para : AdasPara)
    (sType : SType) : SType × List EncoderCall :=
  configVideoResolution .adas config para sType

def configDmsVideoResolution (config : CoderConfig) (para : DmsPara)
    (sType : SType) : SType × List EncoderCall :=
  configVideoResolution .dms config para sType

/-! ## The calls of a run -/

section Run

variable (b : Build) (config : CoderConfig)

theorem recordCalls_isVideo (index : UInt32) :
    ∀ call ∈ recordCalls b config index, call.isVideo = true := by
  unfold recordCalls
  split <;> simp [EncoderCall.isVideo]

theorem jpegEncCalls_isVideo (index : UInt32) :
    ∀ call ∈ jpegEncCalls b config index, call.isVideo = false := by
  unfold jpegEncCalls
  split <;> simp [EncoderCall.isVideo]

theorem mem_acts {α β : Type*} [DecidableEq α] {F : Follower α β}
    [DecidablePred F.valid] {last a : α} {call : β}
    (h : call ∈ F.acts last a) : call ∈ F.act a := by
  unfold Follower.acts at h
  split_ifs at h
  · exact h
  · cases h
  · cases h

/-- The video encoder and the jpeg encoder each follow their own index. -/
theorem encoders_run (paras : List (Packed b.paraSize)) (sType : SType) :
    let video := (videoFollower b config).follow
    let image := (imageFollower b config).follow
    let outputs := (encoders b config).outputs sType paras
    outputs.filter EncoderCall.isVideo =
        video.outputs sType.video (paras.map (index1 b)) ∧
      outputs.filter (fun call => !call.isVideo) =
        image.outputs sType.image (paras.map (index2 b)) ∧
      (encoders b config).final sType paras =
        ⟨video.final sType.video (paras.map (index1 b)),
          image.final sType.image (paras.map (index2 b))⟩ := by
  induction paras generalizing sType with
  | nil => exact ⟨rfl, rfl, rfl⟩
  | cons para paras ih =>
      obtain ⟨hvideo, himage, hfinal⟩ :=
        ih (configVideoResolution b config para sType).1
      have hv : ∀ call ∈ (videoFollower b config).acts sType.video
          (index1 b para), call.isVideo = true :=
        fun call h => recordCalls_isVideo b config _ call (mem_acts h)
      have hi : ∀ call ∈ (imageFollower b config).acts sType.image
          (index2 b para), call.isVideo = false :=
        fun call h => jpegEncCalls_isVideo b config _ call (mem_acts h)
      simp only [Mealy.outputs_cons, Mealy.final_cons, List.map_cons,
        List.filter_append]
      refine ⟨?_, ?_, hfinal⟩
      · refine congrArg₂ (· ++ ·) ?_ hvideo
        change List.filter _ (_ ++ _) = _
        rw [List.filter_append, List.filter_eq_self.mpr hv,
          List.filter_eq_nil_iff.mpr (by simpa using hi), List.append_nil]
        rfl
      · refine congrArg₂ (· ++ ·) ?_ himage
        change List.filter _ (_ ++ _) = _
        rw [List.filter_append, List.filter_eq_nil_iff.mpr (by simpa using hv),
          List.filter_eq_self.mpr (by simpa using hi), List.nil_append]
        rfl

/-- Along a run the encoders are configured once for each change of their
index, the indices without a row left out. -/
theorem encoders_calls (paras : List (Packed b.paraSize)) :
    let calls := (encoders b config).outputs SType.zero paras
    calls.filter EncoderCall.isVideo =
        ((videoFollower b config).changes 0 (paras.map (index1 b))).flatMap
          (recordCalls b config) ∧
      calls.filter (fun call => !call.isVideo) =
        ((imageFollower b config).changes 0 (paras.map (index2 b))).flatMap
          (jpegEncCalls b config) := by
  intro calls
  obtain ⟨hvideo, himage, -⟩ := encoders_run b config paras SType.zero
  exact ⟨hvideo.trans ((videoFollower b config).follow_run 0 _).1,
    himage.trans ((imageFollower b config).follow_run 0 _).1⟩

end Run

end SanbaoProt
