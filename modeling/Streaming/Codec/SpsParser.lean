import Streaming.Codec.EmulationPrevention
import Streaming.Codec.GolombCodes

/-!
# The H.264 sequence parameter set

`h264DecSeqParameterSet` fills a `T_SPS` field by field.  It is cut up here
where the fields of one kind end.
-/

namespace Streaming
namespace Codec

open Foundation Util

/-- `T_AVRational` -/
structure AvRational where
  num : Int := 0
  den : Int := 0
  deriving DecidableEq, Repr

/-- `T_SPS` -/
structure Sps where
  uiSpsId : Nat := 0
  iProfileIdc : Int := 0
  iLevelIdc : Int := 0
  iChromaFormatIdc : Int := 0
  iTransformBypass : Int := 0
  iLog2MaxFrameNum : Int := 0
  iPocType : Int := 0
  iLog2MaxPocLsb : Int := 0
  iDeltaPicOrderAlwaysZeroFlag : Int := 0
  iOffsetForNonRefPic : Int := 0
  iOffsetForTopToBottomField : Int := 0
  iPocCycleLength : Int := 0
  iRefFrameCount : Int := 0
  iGapsInFrameNumAllowedFlag : Int := 0
  iMbWidth : Int := 0
  iMbHeight : Int := 0
  iFrameMbsOnlyFlag : Int := 0
  iMbAff : Int := 0
  iDirect8x8InferenceFlag : Int := 0
  iCrop : Int := 0
  uiCropLeft : Nat := 0
  uiCropRight : Nat := 0
  uiCropTop : Nat := 0
  uiCropBottom : Nat := 0
  iVuiParametersPresentFlag : Int := 0
  tSar : AvRational := {}
  iVideoSignalTypePresentFlag : Int := 0
  iFullRange : Int := 0
  iColourDescriptionPresentFlag : Int := 0
  tColorPrimaries : Int := 0
  tColorTrc : Int := 0
  tColorspace : Int := 0
  iTimingInfoPresentFlag : Int := 0
  u32NumUnitsInTick : Nat := 0
  u32TimeScale : Nat := 0
  iFixedFrameRateFlag : Int := 0
  asOffsetForRefFrame : List Int := List.replicate 256 0
  iBitstreamRestrictionFlag : Int := 0
  iNumReorderFrames : Int := 0
  iScalingMatrixPresent : Int := 0
  aau8ScalingMatrix4 : List (List Nat) :=
    List.replicate 6 (List.replicate 16 0)
  aau8ScalingMatrix8 : List (List Nat) :=
    List.replicate 6 (List.replicate 64 0)
  iNalHrdParametersPresentFlag : Int := 0
  iVclHrdParametersPresentFlag : Int := 0
  iPicStructPresentFlag : Int := 0
  iTimeOffsetLength : Int := 0
  iCpbCnt : Int := 0
  iInitialCpbRemovalDelayLength : Int := 0
  iCpbRemovalDelayLength : Int := 0
  iDpbOutputDelayLength : Int := 0
  iBitDepthLuma : Int := 0
  iBitDepthChroma : Int := 0
  iResidualColorTransformFlag : Int := 0
  iConstraintSetFlags : Int := 0
  iNew : Int := 0
  deriving DecidableEq, Repr

/-!
## Tables
-/

def defaultScaling4Intra : List Nat :=
  [6, 13, 20, 28, 13, 20, 28, 32, 20, 28, 32, 37, 28, 32, 37, 42]

def defaultScaling4Inter : List Nat :=
  [10, 14, 20, 24, 14, 20, 24, 27, 20, 24, 27, 30, 24, 27, 30, 34]

def defaultScaling8Intra : List Nat :=
  [6, 10, 13, 16, 18, 23, 25, 27, 10, 11, 16, 18, 23, 25, 27, 29,
    13, 16, 18, 23, 25, 27, 29, 31, 16, 18, 23, 25, 27, 29, 31, 33,
    18, 23, 25, 27, 29, 31, 33, 36, 23, 25, 27, 29, 31, 33, 36, 38,
    25, 27, 29, 31, 33, 36, 38, 40, 27, 29, 31, 33, 36, 38, 40, 42]

def defaultScaling8Inter : List Nat :=
  [9, 13, 15, 17, 19, 21, 22, 24, 13, 13, 17, 19, 21, 22, 24, 25,
    15, 17, 19, 21, 22, 24, 25, 27, 17, 19, 21, 22, 24, 25, 27, 28,
    19, 21, 22, 24, 25, 27, 28, 30, 21, 22, 24, 25, 27, 28, 30, 32,
    22, 24, 25, 27, 28, 30, 32, 33, 24, 25, 27, 28, 30, 32, 33, 35]

/-- `sg_atFfH264PixelSspect` -/
def ffH264PixelSspect : List AvRational :=
  [⟨0, 1⟩, ⟨1, 1⟩, ⟨12, 11⟩, ⟨10, 11⟩, ⟨16, 11⟩, ⟨40, 33⟩, ⟨24, 11⟩, ⟨20, 11⟩,
    ⟨32, 11⟩, ⟨80, 33⟩, ⟨18, 11⟩, ⟨15, 11⟩, ⟨64, 33⟩, ⟨160, 99⟩, ⟨4, 3⟩,
    ⟨3, 2⟩, ⟨2, 1⟩]

/-- `sg_au8ZigzagScan`, which has one element more than it lists. -/
def zigzagScan : List Nat :=
  [0, 1, 4, 8, 5, 2, 3, 6, 9, 12, 13, 10, 7, 11, 14, 15, 0]

def ffZigzagDirect : List Nat :=
  [0, 1, 8, 16, 9, 2, 3, 10, 17, 24, 32, 25, 18, 11, 4, 5,
    12, 19, 26, 33, 40, 48, 41, 34, 27, 20, 13, 6, 7, 14, 21, 28,
    35, 42, 49, 56, 57, 50, 43, 36, 29, 22, 15, 23, 30, 37, 44, 51,
    58, 59, 52, 45, 38, 31, 39, 46, 53, 60, 61, 54, 47, 55, 62, 63]

/-!
## Arrays
-/

def storeAt {α : Type} (array : List α) (i : Nat) (a : α) :
    SpsReader (List α) :=
  if i < array.length then return array.set i a else throw .outside

def elementAt {α : Type} (array : List α) (i : Nat) : SpsReader α :=
  match array[i]? with
  | some a => return a
  | none => throw .outside

/-- `memcpy` -/
def copyList {α : Type} (dst src : List α) (n : Nat) : SpsReader (List α) :=
  if n <= dst.length ∧ n <= src.length then
    return src.take n ++ dst.drop n
  else throw .outside

/-- The conversion of an `int` to a `short`. -/
def asShort (x : Int) : Int :=
  if x % 2 ^ 16 < 2 ^ 15 then x % 2 ^ 16 else x % 2 ^ 16 - 2 ^ 16

/-- A value that is only there on a condition. -/
def readIf (c : Prop) [Decidable c] (m : SpsReader Int) : SpsReader Int :=
  if c then m else return 0

/-!
## Scaling lists
-/

/-- The loop, with the turns that it has left. -/
def scalingFactors (pu8Scan pu8JvtList : List Nat) (iSize : Nat) :
    Nat -> Nat -> List Nat -> Nat -> Nat -> SpsReader (List Nat)
  | 0, _, pu8Factors, _, _ => return pu8Factors
  | turns + 1, i, pu8Factors, iLast, iNext => do
      let delta <- readIf (iNext ≠ 0) parseSe
      let iNext := if iNext ≠ 0 then ((iLast + delta) % 256).toNat else iNext
      if i = 0 ∧ iNext = 0 then
        copyList pu8Factors pu8JvtList iSize
      else
        let iLast := if iNext ≠ 0 then iNext else iLast
        let k <- elementAt pu8Scan i
        let pu8Factors <- storeAt pu8Factors k iLast
        scalingFactors pu8Scan pu8JvtList iSize turns (i + 1) pu8Factors iLast
          iNext

def decodeScalingList (pu8Factors : List Nat) (iSize : Nat)
    (pu8JvtList pu8FallbackList : List Nat) : SpsReader (List Nat) := do
  let pu8Scan := if iSize = 16 then zigzagScan else ffZigzagDirect
  let written <- getOneBit
  if written = 0 then
    copyList pu8Factors pu8FallbackList iSize
  else
    scalingFactors pu8Scan pu8JvtList iSize iSize 0 pu8Factors 8 8

/-- The list at an index is decoded where it is. -/
def decodeScalingAt (pau8ScalingMatrix : List (List Nat)) (k iSize : Nat)
    (pu8JvtList pu8FallbackList : List Nat) : SpsReader (List (List Nat)) := do
  let factors <- decodeScalingList (pau8ScalingMatrix.getD k []) iSize pu8JvtList
    pu8FallbackList
  return pau8ScalingMatrix.set k factors

/-- A sequence parameter set falls back to the default lists. -/
def decodeScalingMatrices (ptSps : Sps) : SpsReader Sps := do
  let present <- getOneBit
  if present ≠ 0 then
    let m4 := ptSps.aau8ScalingMatrix4
    let m4 <- decodeScalingAt m4 0 16 defaultScaling4Intra defaultScaling4Intra
    let m4 <- decodeScalingAt m4 1 16 defaultScaling4Intra (m4.getD 0 [])
    let m4 <- decodeScalingAt m4 2 16 defaultScaling4Intra (m4.getD 1 [])
    let m4 <- decodeScalingAt m4 3 16 defaultScaling4Inter defaultScaling4Inter
    let m4 <- decodeScalingAt m4 4 16 defaultScaling4Inter (m4.getD 3 [])
    let m4 <- decodeScalingAt m4 5 16 defaultScaling4Inter (m4.getD 4 [])
    let m8 := ptSps.aau8ScalingMatrix8
    let m8 <- decodeScalingAt m8 0 64 defaultScaling8Intra defaultScaling8Intra
    let m8 <- decodeScalingAt m8 3 64 defaultScaling8Inter defaultScaling8Inter
    if ptSps.iChromaFormatIdc = 3 then
      let m8 <- decodeScalingAt m8 1 64 defaultScaling8Intra (m8.getD 0 [])
      let m8 <- decodeScalingAt m8 4 64 defaultScaling8Inter (m8.getD 3 [])
      let m8 <- decodeScalingAt m8 2 64 defaultScaling8Intra (m8.getD 1 [])
      let m8 <- decodeScalingAt m8 5 64 defaultScaling8Inter (m8.getD 4 [])
      return { ptSps with
        iScalingMatrixPresent := 1
        aau8ScalingMatrix4 := m4
        aau8ScalingMatrix8 := m8 }
    else
      return { ptSps with
        iScalingMatrixPresent := 1
        aau8ScalingMatrix4 := m4
        aau8ScalingMatrix8 := m8 }
  else return ptSps

/-!
## Video usability information

These functions return -1 where the source does, with the fields that they have
set by then.
-/

def skipCpbs : Nat -> SpsReader PUnit
  | 0 => return
  | n + 1 => do
      let _ <- parseUe
      let _ <- parseUe
      let _ <- getOneBit
      skipCpbs n

def decodeHrdPAarameters (ptSps : Sps) : SpsReader (Int × Sps) := do
  let iCpbCount <- parseUe
  if asUnsigned iCpbCount > 32 then
    return (-1, ptSps)
  else
    let _ <- getBits 4
    let _ <- getBits 4
    skipCpbs iCpbCount.toNat
    let initialCpbRemovalDelayLength <- getBits 5
    let cpbRemovalDelayLength <- getBits 5
    let dpbOutputDelayLength <- getBits 5
    let timeOffsetLength <- getBits 5
    return (0, { ptSps with
      iInitialCpbRemovalDelayLength := initialCpbRemovalDelayLength + 1
      iCpbRemovalDelayLength := cpbRemovalDelayLength + 1
      iDpbOutputDelayLength := dpbOutputDelayLength + 1
      iTimeOffsetLength := timeOffsetLength
      iCpbCnt := iCpbCount })

def extendedSar : Nat := 255

def vuiAspectRatio (ptSps : Sps) : SpsReader (Int × Sps) := do
  let iAspectRatioInfoPresentFlag <- getOneBit
  if iAspectRatioInfoPresentFlag ≠ 0 then
    let uiAspectRatioIdc := asUnsigned (<- getBits 8)
    if uiAspectRatioIdc = extendedSar then
      let num <- getBits 16
      let den <- getBits 16
      return (0, { ptSps with tSar := { num, den } })
    else
      match ffH264PixelSspect[uiAspectRatioIdc]? with
      | some tSar => return (0, { ptSps with tSar })
      | none => return (-1, ptSps)
  else return (0, { ptSps with tSar := { num := 0, den := 0 } })

/-- A value of an enumeration that has as many, or `UNSPECIFIED`. -/
def specified (count value : Int) : Int :=
  if value >= count then 2 else value

def vuiOverscan : SpsReader PUnit := do
  let iOverscanInfoPresentFlag <- getOneBit
  let _ <- readIf (iOverscanInfoPresentFlag ≠ 0) getOneBit
  return

def vuiVideoSignal (ptSps : Sps) : SpsReader Sps := do
  let iVideoSignalTypePresentFlag <- getOneBit
  let ptSps := { ptSps with iVideoSignalTypePresentFlag }
  if iVideoSignalTypePresentFlag ≠ 0 then
    let _ <- getBits 3
    let iFullRange <- getOneBit
    let iColourDescriptionPresentFlag <- getOneBit
    let ptSps := { ptSps with iFullRange, iColourDescriptionPresentFlag }
    if iColourDescriptionPresentFlag ≠ 0 then
      let colorPrimaries <- getBits 8
      let colorTrc <- getBits 8
      let colorspace <- getBits 8
      return { ptSps with
        tColorPrimaries := specified 10 colorPrimaries
        tColorTrc := specified 16 colorTrc
        tColorspace := specified 11 colorspace }
    else return ptSps
  else return ptSps

def vuiChromaLocation : SpsReader PUnit := do
  let chromaLocationInfoPresentFlag <- getOneBit
  if chromaLocationInfoPresentFlag ≠ 0 then
    let _ <- parseUe
    let _ <- parseUe
    return
  else return

def vuiTimingInfo (ptSps : Sps) : SpsReader Sps := do
  let iTimingInfoPresentFlag <- getOneBit
  if iTimingInfoPresentFlag ≠ 0 then
    let u32NumUnitsInTick := asUnsigned (<- getBits 32)
    let u32TimeScale := asUnsigned (<- getBits 32)
    let iFixedFrameRateFlag <- getOneBit
    if u32NumUnitsInTick = 0 ∨ u32TimeScale = 0 then
      return { ptSps with iTimingInfoPresentFlag := 0, iFixedFrameRateFlag }
    else
      return { ptSps with
        iTimingInfoPresentFlag, u32NumUnitsInTick, u32TimeScale,
        iFixedFrameRateFlag }
  else return { ptSps with iTimingInfoPresentFlag }

/-- The parameters of one kind, when they are there. -/
def decodeHrdIf (flag : Int) (ptSps : Sps) : SpsReader (Int × Sps) :=
  if flag ≠ 0 then decodeHrdPAarameters ptSps else return (0, ptSps)

def vuiHrd (ptSps : Sps) : SpsReader (Int × Sps) := do
  let iNalHrdParametersPresentFlag <- getOneBit
  let (ret, ptSps) <- decodeHrdIf iNalHrdParametersPresentFlag
    { ptSps with iNalHrdParametersPresentFlag }
  if ret < 0 then
    return (-1, ptSps)
  else
    let iVclHrdParametersPresentFlag <- getOneBit
    let (ret, ptSps) <- decodeHrdIf iVclHrdParametersPresentFlag
      { ptSps with iVclHrdParametersPresentFlag }
    if ret < 0 then
      return (-1, ptSps)
    else
      let _ <- readIf (iNalHrdParametersPresentFlag ≠ 0 ∨
        iVclHrdParametersPresentFlag ≠ 0) getOneBit
      let iPicStructPresentFlag <- getOneBit
      return (0, { ptSps with iPicStructPresentFlag })

def vuiBitstreamRestriction (ptSps : Sps) : SpsReader (Int × Sps) := do
  let iBitstreamRestrictionFlag <- getOneBit
  if iBitstreamRestrictionFlag ≠ 0 then
    let _ <- getOneBit
    let _ <- parseUe
    let _ <- parseUe
    let _ <- parseUe
    let _ <- parseUe
    let iNumReorderFrames <- parseUe
    let _ <- parseUe
    let left := getBitsLeft (<- get)
    let ptSps :=
      if left < 0 then
        { ptSps with iNumReorderFrames := 0, iBitstreamRestrictionFlag := 0 }
      else { ptSps with iNumReorderFrames, iBitstreamRestrictionFlag }
    if asUnsigned ptSps.iNumReorderFrames > 16 then
      return (-1, { ptSps with iNumReorderFrames := 16 })
    else return (0, ptSps)
  else return (0, { ptSps with iBitstreamRestrictionFlag })

def decodeVuiParameters (ptSps : Sps) : SpsReader (Int × Sps) := do
  let (ret, ptSps) <- vuiAspectRatio ptSps
  if ret < 0 then
    return (-1, ptSps)
  else
    vuiOverscan
    let ptSps <- vuiVideoSignal ptSps
    vuiChromaLocation
    let left := getBitsLeft (<- get)
    if left < 10 then
      return (0, ptSps)
    else
      let ptSps <- vuiTimingInfo ptSps
      let (ret, ptSps) <- vuiHrd ptSps
      if ret < 0 then
        return (-1, ptSps)
      else
        let left := getBitsLeft (<- get)
        if left = 0 then
          return (0, ptSps)
        else vuiBitstreamRestriction ptSps

/-!
## The parameter set
-/

/-- `flags |= bit << k` -/
def setFlag (flags : Nat) (bit : Int) (k : Nat) : Nat :=
  flags ||| asUnsigned (bit * 2 ^ k)

def maxSpsCount : Nat := 32

/-- The fields that every profile has, and those that are set in advance. -/
def spsProfile : SpsReader Sps := do
  let iProfileIdc <- getBits 8
  let set0 <- getOneBit
  let set1 <- getOneBit
  let set2 <- getOneBit
  let set3 <- getOneBit
  let set4 <- getOneBit
  let set5 <- getOneBit
  let iConstraintSetFlags := setFlag (setFlag (setFlag (setFlag (setFlag
    (setFlag 0 set0 0) set1 1) set2 2) set3 3) set4 4) set5 5
  let _ <- getBits 2
  let iLevelIdc <- getBits 8
  let uiSpsId := asUnsigned (<- parseUe)
  if uiSpsId >= maxSpsCount then
    throw .refused
  else
    return {
      uiSpsId, iProfileIdc, iLevelIdc
      iTimeOffsetLength := 24
      iConstraintSetFlags := asInt iConstraintSetFlags
      iFullRange := -1
      aau8ScalingMatrix4 := List.replicate 6 (List.replicate 16 16)
      aau8ScalingMatrix8 := List.replicate 6 (List.replicate 64 16)
      tColorspace := 2 }

/-- The profiles with a chroma format. -/
def highProfiles : List Int :=
  [100, 110, 122, 244, 44, 83, 86, 118, 128, 138, 144]

def spsChroma (ptSps : Sps) : SpsReader Sps := do
  let iChromaFormatIdc <- parseUe
  if asUnsigned iChromaFormatIdc > 3 then
    throw .refused
  else
    let iResidualColorTransformFlag <- readIf (iChromaFormatIdc = 3) getOneBit
    if iResidualColorTransformFlag ≠ 0 then
      throw .refused
    else
      let iBitDepthLuma <- checkedInt ((<- parseUe) + 8)
      let iBitDepthChroma <- checkedInt ((<- parseUe) + 8)
      if iBitDepthChroma ≠ iBitDepthLuma then
        throw .refused
      else if iBitDepthLuma < 8 ∨ iBitDepthLuma > 14 ∨ iBitDepthChroma < 8 ∨
          iBitDepthChroma > 14 then
        throw .refused
      else
        let iTransformBypass <- getOneBit
        decodeScalingMatrices { ptSps with
          iChromaFormatIdc, iResidualColorTransformFlag, iBitDepthLuma,
          iBitDepthChroma, iTransformBypass }

def spsFormat (ptSps : Sps) : SpsReader Sps :=
  if ptSps.iProfileIdc ∈ highProfiles then spsChroma ptSps
  else return { ptSps with
    iChromaFormatIdc := 1
    iBitDepthLuma := 8
    iBitDepthChroma := 8 }

def spsFrameNum (ptSps : Sps) : SpsReader Sps := do
  let iLog2MaxFrameNumMinus4 <- parseUe
  if iLog2MaxFrameNumMinus4 < 0 ∨ iLog2MaxFrameNumMinus4 > 12 then
    throw .refused
  else return { ptSps with iLog2MaxFrameNum := iLog2MaxFrameNumMinus4 + 4 }

/-- The loop, with the turns that it has left. -/
def offsetsForRefFrame : Nat -> Nat -> List Int -> SpsReader (List Int)
  | 0, _, asOffsetForRefFrame => return asOffsetForRefFrame
  | turns + 1, i, asOffsetForRefFrame => do
      let offset <- parseSe
      let asOffsetForRefFrame <- storeAt asOffsetForRefFrame i (asShort offset)
      offsetsForRefFrame turns (i + 1) asOffsetForRefFrame

def spsPictureOrder (ptSps : Sps) : SpsReader Sps := do
  let iPocType <- parseUe
  if iPocType = 0 then
    let t <- parseUe
    if asUnsigned t > 12 then
      throw .refused
    else return { ptSps with iPocType, iLog2MaxPocLsb := t + 4 }
  else if iPocType = 1 then
    let iDeltaPicOrderAlwaysZeroFlag <- getOneBit
    let iOffsetForNonRefPic <- parseSe
    let iOffsetForTopToBottomField <- parseSe
    let iPocCycleLength <- parseUe
    if asUnsigned iPocCycleLength >= 256 then
      throw .refused
    else
      let asOffsetForRefFrame <- offsetsForRefFrame iPocCycleLength.toNat 0
        ptSps.asOffsetForRefFrame
      return { ptSps with
        iPocType, iDeltaPicOrderAlwaysZeroFlag, iOffsetForNonRefPic,
        iOffsetForTopToBottomField, iPocCycleLength, asOffsetForRefFrame }
  else if iPocType ≠ 2 then
    throw .refused
  else return { ptSps with iPocType }

def h264MaxPictureCount : Int := 36

def spsPicture (ptSps : Sps) : SpsReader Sps := do
  let iRefFrameCount <- parseUe
  if iRefFrameCount > h264MaxPictureCount - 2 ∨
      asUnsigned iRefFrameCount > 16 then
    throw .refused
  else
    let iGapsInFrameNumAllowedFlag <- getOneBit
    let iMbWidth <- checkedInt ((<- parseUe) + 1)
    let iMbHeight <- checkedInt ((<- parseUe) + 1)
    let iFrameMbsOnlyFlag <- getOneBit
    let iMbAff <- readIf (iFrameMbsOnlyFlag = 0) getOneBit
    let iDirect8x8InferenceFlag <- getOneBit
    return { ptSps with
      iRefFrameCount, iGapsInFrameNumAllowedFlag, iMbWidth, iMbHeight,
      iFrameMbsOnlyFlag, iMbAff, iDirect8x8InferenceFlag }

/-- `INT_MAX`, which no header that is included defines before. -/
def intMax : Nat := 65535

/-- The offsets are in chroma samples, and for fields in every second line. -/
def stepX (ptSps : Sps) : Nat :=
  1 <<< (if ptSps.iChromaFormatIdc = 1 ∨ ptSps.iChromaFormatIdc = 2
    then 1 else 0)

def stepY (ptSps : Sps) : Nat :=
  (2 - ptSps.iFrameMbsOnlyFlag).toNat <<<
    (if ptSps.iChromaFormatIdc = 1 then 1 else 0)

/-- `uiCropLeft &= ~mask` -/
def alignedLeft (ptSps : Sps) (uiCropLeft : Nat) : Nat :=
  uiCropLeft - (uiCropLeft &&& (0x1F >>> (if ptSps.iBitDepthLuma > 8
    then 1 else 0)))

def spsCropping (ptSps : Sps) : SpsReader Sps := do
  let iCrop <- getOneBit
  if iCrop ≠ 0 then
    let uiCropLeft := asUnsigned (<- parseUe)
    let uiCropRight := asUnsigned (<- parseUe)
    let uiCropTop := asUnsigned (<- parseUe)
    let uiCropBottom := asUnsigned (<- parseUe)
    let iWidth <- checkedInt (16 * ptSps.iMbWidth)
    let iHeight <- checkedInt (16 * ptSps.iMbHeight)
    let iHeight <- checkedInt (iHeight * (2 - ptSps.iFrameMbsOnlyFlag))
    let uiCropLeft := alignedLeft ptSps uiCropLeft
    if uiCropLeft > intMax / 4 / stepX ptSps ∨
        uiCropRight > intMax / 4 / stepX ptSps ∨
        uiCropTop > intMax / 4 / stepY ptSps ∨
        uiCropBottom > intMax / 4 / stepY ptSps ∨
        (uiCropLeft + uiCropRight) * stepX ptSps >= asUnsigned iWidth ∨
        (uiCropTop + uiCropBottom) * stepY ptSps >= asUnsigned iHeight then
      throw .refused
    else
      return { ptSps with
        iCrop
        uiCropLeft := uiCropLeft * stepX ptSps
        uiCropRight := uiCropRight * stepX ptSps
        uiCropTop := uiCropTop * stepY ptSps
        uiCropBottom := uiCropBottom * stepY ptSps }
  else
    return { ptSps with
      iCrop := 0
      uiCropLeft := 0
      uiCropRight := 0
      uiCropTop := 0
      uiCropBottom := 0 }

/-- The end that is left out when the usability information is illegal. -/
def spsEnd (ptSps : Sps) : SpsReader Sps := do
  let left := getBitsLeft (<- get)
  if left < 0 then
    throw .refused
  else if ptSps.tSar.den = 0 then
    return { ptSps with tSar := { ptSps.tSar with den := 1 }, iNew := 1 }
  else return { ptSps with iNew := 1 }

/-- An illegal usability information ends the parse, which still returns 0. -/
def spsVui (ptSps : Sps) : SpsReader Sps := do
  let iVuiParametersPresentFlag <- getOneBit
  let ptSps := { ptSps with iVuiParametersPresentFlag }
  if iVuiParametersPresentFlag ≠ 0 then
    let (ret, ptSps) <- decodeVuiParameters ptSps
    if ret < 0 then return ptSps
    else spsEnd ptSps
  else spsEnd ptSps

def seqParameterSet : SpsReader Sps := do
  let ptSps <- spsProfile
  let ptSps <- spsFormat ptSps
  let ptSps <- spsFrameNum ptSps
  let ptSps <- spsPictureOrder ptSps
  let ptSps <- spsPicture ptSps
  let ptSps <- spsCropping ptSps
  spsVui ptSps

/-- The parameter set is there where the source returns 0. -/
def h264DecSeqParameterSet (pvBufSrc : Bytes) : Except SpsFault Sps := do
  let pvBuf <- deEmulationPrevention pvBufSrc
  match seqParameterSet pvBuf with
  | .ok ptSps _ => return ptSps
  | .error fault _ => throw fault

section Result

variable {pvBufSrc : Bytes} {h t : BitContext}

end Result

end Codec
end Streaming
