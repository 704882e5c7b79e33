import Streaming.Codec.SpsParser

/-!
# Sequence parameter sets as they are written

The syntax of the standard, as far as the parser can follow it: the parameters
of the hypothetical reference decoder are left out, for which the parser takes
one entry too few, and the two kinds of samples have one bit depth.
-/

namespace Streaming
namespace Codec

open Foundation Util

/-- A code that is read right wherever it begins. -/
def IsCode (k : Nat) : Prop :=
  k + 1 < 2 ^ 26

instance (k : Nat) : Decidable (IsCode k) :=
  inferInstanceAs (Decidable (_ < _))

def IsSignedCode (v : Int) : Prop :=
  IsCode (signedNumber v)

def flagBits (flag : Bool) : List Bool :=
  [flag]

/-- What is there when the flag in front of it says so. -/
def optionBits {α : Type} (bits : α -> List Bool) : Option α -> List Bool
  | none => [false]
  | some a => true :: bits a

/-!
## Scaling lists
-/

/-- A list is predicted, the default one, or given in the order of the scan.
What is not given is like the last value. -/
inductive ScalingList where
  | predicted
  | preset
  | values (first : Nat) (more : List Nat)

def scalingDelta (last next : Nat) : Int :=
  ((next : Int) - last + 128) % 256 - 128

def deltaBits : Nat -> List Nat -> List Bool
  | _, [] => []
  | last, next :: more =>
      expGolombSigned (scalingDelta last next) ++ deltaBits next more

namespace ScalingList

/-- Values that do not fill the list are ended with a 0. -/
def bits (size : Nat) : ScalingList -> List Bool
  | predicted => [false]
  | preset => true :: deltaBits 8 [0]
  | values first more =>
      true :: deltaBits 8
        (first :: if more.length + 1 < size then more ++ [0] else more)

/-- The scan says where each value goes. -/
def place : List Nat -> List Nat -> List Nat -> List Nat
  | k :: scan, value :: more, factors => place scan more (factors.set k value)
  | _, _, factors => factors

def factors (size : Nat) (jvt fallback : List Nat) : ScalingList -> List Nat
  | predicted => fallback
  | preset => jvt
  | values first more =>
      place (if size = 16 then zigzagScan else ffZigzagDirect)
        (first :: more ++
          List.replicate (size - (more.length + 1)) ((first :: more).getLastD 0))
        (List.replicate size 16)

def Valid (size : Nat) : ScalingList -> Prop
  | predicted => True
  | preset => True
  | values first more => more.length + 1 <= size ∧
      forall value, value ∈ first :: more -> 0 < value ∧ value < 256

end ScalingList

structure ScalingMatrices where
  intraY4 : ScalingList
  intraCr4 : ScalingList
  intraCb4 : ScalingList
  interY4 : ScalingList
  interCr4 : ScalingList
  interCb4 : ScalingList
  intraY8 : ScalingList
  interY8 : ScalingList
  /-- These four are there for the format 4:4:4. -/
  intraCr8 : ScalingList
  interCr8 : ScalingList
  intraCb8 : ScalingList
  interCb8 : ScalingList

namespace ScalingMatrices

def bits (chroma : Nat) (m : ScalingMatrices) : List Bool :=
  m.intraY4.bits 16 ++ (m.intraCr4.bits 16 ++ (m.intraCb4.bits 16 ++
    (m.interY4.bits 16 ++ (m.interCr4.bits 16 ++ (m.interCb4.bits 16 ++
      (m.intraY8.bits 64 ++ (m.interY8.bits 64 ++
        if chroma = 3 then
          m.intraCr8.bits 64 ++ (m.interCr8.bits 64 ++
            (m.intraCb8.bits 64 ++ m.interCb8.bits 64))
        else [])))))))

def matrix4 (m : ScalingMatrices) : List (List Nat) :=
  let intraY := m.intraY4.factors 16 defaultScaling4Intra defaultScaling4Intra
  let intraCr := m.intraCr4.factors 16 defaultScaling4Intra intraY
  let intraCb := m.intraCb4.factors 16 defaultScaling4Intra intraCr
  let interY := m.interY4.factors 16 defaultScaling4Inter defaultScaling4Inter
  let interCr := m.interCr4.factors 16 defaultScaling4Inter interY
  let interCb := m.interCb4.factors 16 defaultScaling4Inter interCr
  [intraY, intraCr, intraCb, interY, interCr, interCb]

def matrix8 (chroma : Nat) (m : ScalingMatrices) : List (List Nat) :=
  let intraY := m.intraY8.factors 64 defaultScaling8Intra defaultScaling8Intra
  let interY := m.interY8.factors 64 defaultScaling8Inter defaultScaling8Inter
  if chroma = 3 then
    let intraCr := m.intraCr8.factors 64 defaultScaling8Intra intraY
    let interCr := m.interCr8.factors 64 defaultScaling8Inter interY
    let intraCb := m.intraCb8.factors 64 defaultScaling8Intra intraCr
    let interCb := m.interCb8.factors 64 defaultScaling8Inter interCr
    [intraY, intraCr, intraCb, interY, interCr, interCb]
  else
    let flat := List.replicate 64 16
    [intraY, flat, flat, interY, flat, flat]

def Valid (m : ScalingMatrices) : Prop :=
  m.intraY4.Valid 16 ∧ m.intraCr4.Valid 16 ∧ m.intraCb4.Valid 16 ∧
    m.interY4.Valid 16 ∧ m.interCr4.Valid 16 ∧ m.interCb4.Valid 16 ∧
    m.intraY8.Valid 64 ∧ m.interY8.Valid 64 ∧ m.intraCr8.Valid 64 ∧
    m.interCr8.Valid 64 ∧ m.intraCb8.Valid 64 ∧ m.interCb8.Valid 64

end ScalingMatrices

/-!
## The format, the order and the size of pictures
-/

/-- What only the high profiles have. -/
structure ChromaFormat where
  chromaFormatIdc : Nat
  bitDepthMinus8 : Nat
  transformBypass : Bool
  scaling : Option ScalingMatrices

namespace ChromaFormat

def bits (c : ChromaFormat) : List Bool :=
  expGolomb c.chromaFormatIdc ++
    ((if c.chromaFormatIdc = 3 then flagBits false else []) ++
      (expGolomb c.bitDepthMinus8 ++ (expGolomb c.bitDepthMinus8 ++
        (flagBits c.transformBypass ++
          optionBits (ScalingMatrices.bits c.chromaFormatIdc) c.scaling))))

def Valid (c : ChromaFormat) : Prop :=
  c.chromaFormatIdc <= 3 ∧ c.bitDepthMinus8 <= 6 ∧
    forall m, c.scaling = some m -> m.Valid

end ChromaFormat

inductive PictureOrder where
  | byCount (log2MaxLsbMinus4 : Nat)
  | byCycle (deltaAlwaysZero : Bool) (offsetForNonRefPic : Int)
      (offsetForTopToBottomField : Int) (offsetForRefFrame : List Int)
  | byOutput

namespace PictureOrder

def offsetBits : List Int -> List Bool
  | [] => []
  | offset :: offsets => expGolombSigned offset ++ offsetBits offsets

def bits : PictureOrder -> List Bool
  | byCount n => expGolomb 0 ++ expGolomb n
  | byCycle zero nonRef topToBottom offsets =>
      expGolomb 1 ++ (flagBits zero ++ (expGolombSigned nonRef ++
        (expGolombSigned topToBottom ++
          (expGolomb offsets.length ++ offsetBits offsets))))
  | byOutput => expGolomb 2

def Valid : PictureOrder -> Prop
  | byCount n => n <= 12
  | byCycle _ nonRef topToBottom offsets =>
      IsSignedCode nonRef ∧ IsSignedCode topToBottom ∧ offsets.length < 256 ∧
        forall offset, offset ∈ offsets -> IsSignedCode offset
  | byOutput => True

end PictureOrder

structure Cropping where
  left : Nat
  right : Nat
  top : Nat
  bottom : Nat

def Cropping.bits (c : Cropping) : List Bool :=
  expGolomb c.left ++ (expGolomb c.right ++ (expGolomb c.top ++ expGolomb c.bottom))

/-!
## Usability information
-/

inductive AspectRatio where
  | indicated (idc : Nat)
  | extended (num den : Nat)

def AspectRatio.bits : AspectRatio -> List Bool
  | indicated idc => binary 8 idc
  | extended num den => binary 8 255 ++ (binary 16 num ++ binary 16 den)

def AspectRatio.Valid : AspectRatio -> Prop
  | indicated idc => idc < 17
  | extended num den => num < 2 ^ 16 ∧ den < 2 ^ 16

def AspectRatio.ratio : AspectRatio -> AvRational
  | indicated idc => ffH264PixelSspect.getD idc {}
  | extended num den => { num, den }

structure Colours where
  primaries : Nat
  transfer : Nat
  matrix : Nat

def Colours.bits (c : Colours) : List Bool :=
  binary 8 c.primaries ++ (binary 8 c.transfer ++ binary 8 c.matrix)

structure VideoSignal where
  format : Nat
  fullRange : Bool
  colours : Option Colours

def VideoSignal.bits (v : VideoSignal) : List Bool :=
  binary 3 v.format ++ (flagBits v.fullRange ++ optionBits Colours.bits v.colours)

def VideoSignal.Valid (v : VideoSignal) : Prop :=
  v.format < 8 ∧ forall c, v.colours = some c ->
    c.primaries < 256 ∧ c.transfer < 256 ∧ c.matrix < 256

structure Timing where
  numUnitsInTick : Nat
  timeScale : Nat
  fixedFrameRate : Bool

def Timing.bits (t : Timing) : List Bool :=
  binary 32 t.numUnitsInTick ++ (binary 32 t.timeScale ++ flagBits t.fixedFrameRate)

/-- Larger numbers are not read right everywhere. -/
def Timing.Valid (t : Timing) : Prop :=
  0 < t.numUnitsInTick ∧ t.numUnitsInTick < 2 ^ 24 ∧ 0 < t.timeScale ∧
    t.timeScale < 2 ^ 24

structure Restriction where
  motionVectorsBeyondPicture : Bool
  maxBytesPerPicDenom : Nat
  maxBitsPerMbDenom : Nat
  log2MaxMvLengthHorizontal : Nat
  log2MaxMvLengthVertical : Nat
  numReorderFrames : Nat
  maxDecFrameBuffering : Nat

def Restriction.bits (r : Restriction) : List Bool :=
  flagBits r.motionVectorsBeyondPicture ++ (expGolomb r.maxBytesPerPicDenom ++
    (expGolomb r.maxBitsPerMbDenom ++ (expGolomb r.log2MaxMvLengthHorizontal ++
      (expGolomb r.log2MaxMvLengthVertical ++ (expGolomb r.numReorderFrames ++
        expGolomb r.maxDecFrameBuffering)))))

def Restriction.Valid (r : Restriction) : Prop :=
  IsCode r.maxBytesPerPicDenom ∧ IsCode r.maxBitsPerMbDenom ∧
    IsCode r.log2MaxMvLengthHorizontal ∧ IsCode r.log2MaxMvLengthVertical ∧
    r.numReorderFrames <= 16 ∧ IsCode r.maxDecFrameBuffering

structure Vui where
  aspectRatio : Option AspectRatio
  overscan : Option Bool
  videoSignal : Option VideoSignal
  chromaLocation : Option (Nat × Nat)
  timing : Option Timing
  picStruct : Bool
  restriction : Option Restriction

namespace Vui

/-- The fields up to the place where the parser looks how much is left. -/
def frontBits (v : Vui) : List Bool :=
  optionBits AspectRatio.bits v.aspectRatio ++
    (optionBits flagBits v.overscan ++
      (optionBits VideoSignal.bits v.videoSignal ++
        optionBits (fun location => expGolomb location.1 ++ expGolomb location.2)
          v.chromaLocation))

/-- There are no parameters of the reference decoder. -/
def pictureBits (v : Vui) : List Bool :=
  flagBits false ++ (flagBits false ++ flagBits v.picStruct)

def backBits (v : Vui) : List Bool :=
  optionBits Timing.bits v.timing ++ (v.pictureBits ++
    optionBits Restriction.bits v.restriction)

def Valid (v : Vui) : Prop :=
  (forall a, v.aspectRatio = some a -> a.Valid) ∧
    (forall s, v.videoSignal = some s -> s.Valid) ∧
    (forall l, v.chromaLocation = some l -> IsCode l.1 ∧ IsCode l.2) ∧
    (forall t, v.timing = some t -> t.Valid) ∧
    forall r, v.restriction = some r -> r.Valid

end Vui

/-!
## The whole parameter set
-/

structure SeqParameterSet where
  profileIdc : Nat
  constraintSet0 : Bool
  constraintSet1 : Bool
  constraintSet2 : Bool
  constraintSet3 : Bool
  constraintSet4 : Bool
  constraintSet5 : Bool
  levelIdc : Nat
  id : Nat
  /-- Only the high profiles have it. -/
  chromaFormat : ChromaFormat
  log2MaxFrameNumMinus4 : Nat
  pictureOrder : PictureOrder
  maxNumRefFrames : Nat
  gapsInFrameNumAllowed : Bool
  picWidthInMbsMinus1 : Nat
  picHeightInMapUnitsMinus1 : Nat
  frameMbsOnly : Bool
  /-- Only where there are fields. -/
  mbAdaptiveFrameField : Bool
  direct8x8Inference : Bool
  cropping : Option Cropping
  vui : Option Vui

namespace SeqParameterSet

def IsHigh (s : SeqParameterSet) : Prop :=
  (s.profileIdc : Int) ∈ highProfiles

instance (s : SeqParameterSet) : Decidable s.IsHigh :=
  inferInstanceAs (Decidable (_ ∈ _))

def chromaFormatIdc (s : SeqParameterSet) : Nat :=
  if s.IsHigh then s.chromaFormat.chromaFormatIdc else 1

def bitDepth (s : SeqParameterSet) : Nat :=
  if s.IsHigh then s.chromaFormat.bitDepthMinus8 + 8 else 8

def profileBits (s : SeqParameterSet) : List Bool :=
  binary 8 s.profileIdc ++ (flagBits s.constraintSet0 ++
    (flagBits s.constraintSet1 ++ (flagBits s.constraintSet2 ++
      (flagBits s.constraintSet3 ++ (flagBits s.constraintSet4 ++
        (flagBits s.constraintSet5 ++ (binary 2 0 ++ (binary 8 s.levelIdc ++
          expGolomb s.id))))))))

def formatBits (s : SeqParameterSet) : List Bool :=
  if s.IsHigh then s.chromaFormat.bits else []

def pictureBits (s : SeqParameterSet) : List Bool :=
  expGolomb s.maxNumRefFrames ++ (flagBits s.gapsInFrameNumAllowed ++
    (expGolomb s.picWidthInMbsMinus1 ++ (expGolomb s.picHeightInMapUnitsMinus1 ++
      (flagBits s.frameMbsOnly ++
        ((if s.frameMbsOnly then [] else flagBits s.mbAdaptiveFrameField) ++
          flagBits s.direct8x8Inference)))))

/-- Up to the flag of the usability information. -/
def frontBits (s : SeqParameterSet) : List Bool :=
  s.profileBits ++ (s.formatBits ++ (expGolomb s.log2MaxFrameNumMinus4 ++
    (s.pictureOrder.bits ++ (s.pictureBits ++
      optionBits Cropping.bits s.cropping))))

def bits (s : SeqParameterSet) : List Bool :=
  s.frontBits ++ optionBits (fun v => v.frontBits ++ v.backBits) s.vui

/-- The 1 behind a number of bits, and zeros up to the end of the byte. -/
def trailingBits (n : Nat) : List Bool :=
  true :: List.replicate (7 - n % 8) false

def rbsp (s : SeqParameterSet) : Bytes :=
  packBits (s.bits ++ trailingBits s.bits.length)

/-- What the unit holds behind its first byte. -/
def payload (s : SeqParameterSet) : Bytes :=
  escape 0 s.rbsp

/-!
The samples in a chroma sample, in lines of the whole frame.
-/

def cropUnitX (s : SeqParameterSet) : Nat :=
  if s.chromaFormatIdc = 1 ∨ s.chromaFormatIdc = 2 then 2 else 1

def cropUnitY (s : SeqParameterSet) : Nat :=
  (if s.frameMbsOnly then 1 else 2) * (if s.chromaFormatIdc = 1 then 2 else 1)

def picWidth (s : SeqParameterSet) : Nat :=
  16 * (s.picWidthInMbsMinus1 + 1)

def picHeight (s : SeqParameterSet) : Nat :=
  16 * (s.picHeightInMapUnitsMinus1 + 1) * (if s.frameMbsOnly then 1 else 2)

/-- The parser aligns what is cut off on the left. -/
def keptLeft (s : SeqParameterSet) (c : Cropping) : Nat :=
  c.left - c.left % (if s.bitDepth > 8 then 16 else 32)

def CroppingValid (s : SeqParameterSet) (c : Cropping) : Prop :=
  (IsCode c.left ∧ IsCode c.right ∧ IsCode c.top ∧ IsCode c.bottom) ∧
    (s.keptLeft c <= intMax / 4 / s.cropUnitX ∧
      c.right <= intMax / 4 / s.cropUnitX ∧ c.top <= intMax / 4 / s.cropUnitY ∧
        c.bottom <= intMax / 4 / s.cropUnitY) ∧
    (s.keptLeft c + c.right) * s.cropUnitX < s.picWidth ∧
    (c.top + c.bottom) * s.cropUnitY < s.picHeight

structure Valid (s : SeqParameterSet) : Prop where
  profileIdc : s.profileIdc < 256
  levelIdc : s.levelIdc < 256
  id : s.id < 32
  chromaFormat : s.IsHigh -> s.chromaFormat.Valid
  log2MaxFrameNumMinus4 : s.log2MaxFrameNumMinus4 <= 12
  pictureOrder : s.pictureOrder.Valid
  maxNumRefFrames : s.maxNumRefFrames <= 16
  picWidth : IsCode s.picWidthInMbsMinus1
  picHeight : IsCode s.picHeightInMapUnitsMinus1
  cropping : forall c, s.cropping = some c -> s.CroppingValid c
  vui : forall v, s.vui = some v -> v.Valid

end SeqParameterSet

/-!
## What the parser makes of it
-/

def flagValue (flag : Bool) : Int :=
  flag.toNat

def ChromaFormat.store (c : ChromaFormat) (t : Sps) : Sps :=
  { t with
    iChromaFormatIdc := c.chromaFormatIdc
    iBitDepthLuma := c.bitDepthMinus8 + 8
    iBitDepthChroma := c.bitDepthMinus8 + 8
    iTransformBypass := flagValue c.transformBypass
    iResidualColorTransformFlag := 0
    iScalingMatrixPresent :=
      if c.scaling.isSome then 1 else t.iScalingMatrixPresent
    aau8ScalingMatrix4 :=
      c.scaling.elim t.aau8ScalingMatrix4 ScalingMatrices.matrix4
    aau8ScalingMatrix8 :=
      c.scaling.elim t.aau8ScalingMatrix8
        (ScalingMatrices.matrix8 c.chromaFormatIdc) }

def PictureOrder.store (t : Sps) : PictureOrder -> Sps
  | byCount n => { t with iPocType := 0, iLog2MaxPocLsb := n + 4 }
  | byCycle zero nonRef topToBottom offsets => { t with
      iPocType := 1
      iDeltaPicOrderAlwaysZeroFlag := flagValue zero
      iOffsetForNonRefPic := nonRef
      iOffsetForTopToBottomField := topToBottom
      iPocCycleLength := offsets.length
      asOffsetForRefFrame := offsets.map asShort ++
        t.asOffsetForRefFrame.drop offsets.length }
  | byOutput => { t with iPocType := 2 }

/-- No ratio has a denominator 0. -/
def AvRational.nonzero (r : AvRational) : AvRational :=
  if r.den = 0 then { r with den := 1 } else r

namespace Vui

def storeSignal (t : Sps) (v : VideoSignal) : Sps :=
  { t with
    iVideoSignalTypePresentFlag := 1
    iFullRange := flagValue v.fullRange
    iColourDescriptionPresentFlag := flagValue v.colours.isSome
    tColorPrimaries :=
      v.colours.elim t.tColorPrimaries fun c => specified 10 c.primaries
    tColorTrc := v.colours.elim t.tColorTrc fun c => specified 16 c.transfer
    tColorspace := v.colours.elim t.tColorspace fun c => specified 11 c.matrix }

def storeFront (v : Vui) (t : Sps) : Sps :=
  let t := { t with tSar := v.aspectRatio.elim {} AspectRatio.ratio }
  v.videoSignal.elim { t with iVideoSignalTypePresentFlag := 0 } (storeSignal t)

def storeTiming (t : Sps) (timing : Timing) : Sps :=
  { t with
    iTimingInfoPresentFlag := 1
    u32NumUnitsInTick := timing.numUnitsInTick
    u32TimeScale := timing.timeScale
    iFixedFrameRateFlag := flagValue timing.fixedFrameRate }

def storeBack (v : Vui) (t : Sps) : Sps :=
  let t := v.timing.elim { t with iTimingInfoPresentFlag := 0 } (storeTiming t)
  let t := { t with
    iNalHrdParametersPresentFlag := 0
    iVclHrdParametersPresentFlag := 0
    iPicStructPresentFlag := flagValue v.picStruct }
  v.restriction.elim { t with iBitstreamRestrictionFlag := 0 } fun r =>
    { t with iNumReorderFrames := r.numReorderFrames, iBitstreamRestrictionFlag := 1 }

/-- Fewer than ten bits are not looked at any more. -/
def store (v : Vui) (left : Nat) (t : Sps) : Sps :=
  let t := v.storeFront t
  if left < 10 then t else v.storeBack t

end Vui

namespace SeqParameterSet

def storeProfile (s : SeqParameterSet) : Sps where
  uiSpsId := s.id
  iProfileIdc := s.profileIdc
  iLevelIdc := s.levelIdc
  iTimeOffsetLength := 24
  iConstraintSetFlags := bitsValue [s.constraintSet5, s.constraintSet4,
    s.constraintSet3, s.constraintSet2, s.constraintSet1, s.constraintSet0]
  iFullRange := -1
  aau8ScalingMatrix4 := List.replicate 6 (List.replicate 16 16)
  aau8ScalingMatrix8 := List.replicate 6 (List.replicate 64 16)
  tColorspace := 2

def storeFormat (s : SeqParameterSet) (t : Sps) : Sps :=
  if s.IsHigh then s.chromaFormat.store t
  else { t with iChromaFormatIdc := 1, iBitDepthLuma := 8, iBitDepthChroma := 8 }

def storePicture (s : SeqParameterSet) (t : Sps) : Sps :=
  { t with
    iRefFrameCount := s.maxNumRefFrames
    iGapsInFrameNumAllowedFlag := flagValue s.gapsInFrameNumAllowed
    iMbWidth := s.picWidthInMbsMinus1 + 1
    iMbHeight := s.picHeightInMapUnitsMinus1 + 1
    iFrameMbsOnlyFlag := flagValue s.frameMbsOnly
    iMbAff := if s.frameMbsOnly then 0 else flagValue s.mbAdaptiveFrameField
    iDirect8x8InferenceFlag := flagValue s.direct8x8Inference }

def storeCropping (s : SeqParameterSet) (t : Sps) : Sps :=
  match s.cropping with
  | some c => { t with
      iCrop := 1
      uiCropLeft := s.keptLeft c * s.cropUnitX
      uiCropRight := c.right * s.cropUnitX
      uiCropTop := c.top * s.cropUnitY
      uiCropBottom := c.bottom * s.cropUnitY }
  | none => { t with
      iCrop := 0, uiCropLeft := 0, uiCropRight := 0, uiCropTop := 0,
      uiCropBottom := 0 }

/-- What is stored up to the flag of the usability information. -/
def storeFront (s : SeqParameterSet) : Sps :=
  s.storeCropping (s.storePicture (s.pictureOrder.store
    { s.storeFormat s.storeProfile with
      iLog2MaxFrameNum := s.log2MaxFrameNumMinus4 + 4 }))

/-- The number counts the bits behind the syntax. -/
def storeVui (s : SeqParameterSet) (left : Nat) (t : Sps) : Sps :=
  let t := s.vui.elim { t with iVuiParametersPresentFlag := 0 } fun v =>
    v.store (v.backBits.length + left) { t with iVuiParametersPresentFlag := 1 }
  { t with tSar := t.tSar.nonzero, iNew := 1 }

def stored (s : SeqParameterSet) : Sps :=
  s.storeVui (trailingBits s.bits.length).length s.storeFront

end SeqParameterSet

end Codec
end Streaming
