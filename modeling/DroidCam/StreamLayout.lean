import DroidCam.VideoThreads
import DroidCam.Lib.StridedImage

/-
  DroidCam/StreamLayout.lean
  ==========================
  The buffers of a stream as `decoder_prepare_video` sizes and divides them.

  The header of the stream gives both factors of every size, up to 65535, and all
  products are taken in `int`; `SizesExact` is what the rest of the client relies
  on.  The planes of a picture are packed back to back with truncating divisions,
  while the decoder and the scaler round up.
-/

namespace DroidCam.JpgDecoder

open CArith StridedImage
open VideoThreads (JPG_BACKBUF_MAX)

/-! ### `decoder_prepare_video` -/

/-- A slice pointer, relative to its buffer, and the stride of its rows. -/
structure Slice where
  data : Int
  stride : Int
deriving DecidableEq, Repr

/-- Luma and the two chroma planes of a picture `len` wide. -/
def slices (ySize uvSize len : Int) : List Slice :=
  [⟨0, len⟩, ⟨ySize, len >>> (1 : Nat)⟩, ⟨ySize + uvSize, len >>> (1 : Nat)⟩]

/-- What is set up when the stream has not the size of the device. -/
structure Scaler where
  webcamBufBytes : Int
  swcSrc : List Slice
  swcDst : List Slice
deriving DecidableEq, Repr

/-- What `decoder_prepare_video` leaves: the context, the arguments of its `malloc`
    calls, and where everything starts in the blocks. -/
structure VideoBuffers where
  dec : JpgDecCtx
  inBufBytes : Int
  decodeBufBytes : Int
  scaler : Option Scaler
  jpgFrames : List Int
  tjDst : List Slice
deriving DecidableEq, Repr

/-- `m_webcam_ySize`; the sides of the device are `unsigned`. -/
def webcamYSize (webcamW webcamH : Nat) : Int := toInt32 (toUInt32 (webcamW * webcamH))

/-- `m_webcam_uvSize`. -/
def webcamUvSize (webcamW webcamH : Nat) : Int := (webcamYSize webcamW webcamH).tdiv 4

def scalerOf (webcamW webcamH : Nat) (dec : JpgDecCtx) : Scaler where
  webcamBufBytes := toSize dec.mWebcamYuvSize
  swcSrc := slices dec.mYSize dec.mUvSize dec.dWidth
  swcDst := slices (webcamYSize webcamW webcamH) (webcamUvSize webcamW webcamH)
    (toInt32 webcamW)

/-- The part of `decoder_prepare_video` behind its checks. -/
def videoBuffers (numFrames webcamW webcamH : Nat) (dec : JpgDecCtx) : VideoBuffers where
  dec := dec
  inBufBytes := inBufBytes numFrames dec.mYuv420Size
  decodeBufBytes := toSize dec.mYuv420Size
  scaler :=
    if dec.mWebcamYuvSize ≠ dec.mYuv420Size then some (scalerOf webcamW webcamH dec) else none
  jpgFrames := (List.range numFrames).map (frameData dec.mYuv420Size)
  tjDst := slices dec.mYSize dec.mUvSize dec.dWidth

def headerWidth (header : List UInt8) : Int := be16 (header.getD 0 0) (header.getD 1 0)

def headerHeight (header : List UInt8) : Int := be16 (header.getD 2 0) (header.getD 3 0)

/-- `decoder_prepare_video`; `tj` and `tjXform` say whether turbojpeg gives the
    handles, and the text is the one shown to the user. -/
def decoderPrepareVideo (numFrames webcamW webcamH : Nat) (droidcamDeviceFd : Int)
    (tj tjXform : Bool) (dec : JpgDecCtx) (header : List UInt8) : Except String VideoBuffers :=
  let dec := { dec with mWidth := headerWidth header, mHeight := headerHeight header }
  if droidcamDeviceFd ≤ 0 then .error "Missing video device"
  else if dec.mWidth ≤ 0 ∨ dec.mHeight ≤ 0 then .error "Invalid data stream!"
  else if tj = false then .error "Error creating decoder!"
  else if tjXform = false then .error "Error creating transform!"
  else .ok (videoBuffers numFrames webcamW webcamH (setStreamSizes dec))

theorem be16_bounds (hi lo : UInt8) : 0 ≤ be16 hi lo ∧ be16 hi lo ≤ 65535 := by
  have hhi : hi.toNat < 256 := hi.toNat_lt
  have hlo : lo.toNat < 256 := lo.toNat_lt
  unfold be16
  omega

/-- A stream that is accepted has two positive 16-bit sides. -/
theorem decoderPrepareVideo_ok {n W H : Nat} {fd : Int} {tj tjXform : Bool} {dec : JpgDecCtx}
    {header : List UInt8} {v : VideoBuffers}
    (h : decoderPrepareVideo n W H fd tj tjXform dec header = .ok v) :
    (1 ≤ headerWidth header ∧ headerWidth header ≤ 65535) ∧
      (1 ≤ headerHeight header ∧ headerHeight header ≤ 65535) ∧
      v = videoBuffers n W H (setStreamSizes
        { dec with mWidth := headerWidth header, mHeight := headerHeight header }) := by
  have hw := be16_bounds (header.getD 0 0) (header.getD 1 0)
  have hh := be16_bounds (header.getD 2 0) (header.getD 3 0)
  simp only [decoderPrepareVideo] at h
  split_ifs at h with hfd hsides
  · cases h
    rw [not_or] at hsides
    refine ⟨⟨?_, hw.2⟩, ⟨?_, hh.2⟩, rfl⟩
    · exact Int.add_one_le_of_lt (Int.not_le.mp hsides.1)
    · exact Int.add_one_le_of_lt (Int.not_le.mp hsides.2)

/-! ### Sizes -/

/-- A value that an `int` expression has without wrapping. -/
def FitsInt (x : Int) : Prop := -2147483648 ≤ x ∧ x < 2147483648

/-- The sizes of a stream of `w x h` pixels are those of the pictures in it. -/
structure SizesExact (w h : Int) (v : VideoBuffers) : Prop where
  ySize : v.dec.mYSize = w * h
  uvSize : v.dec.mUvSize = w * h / 4
  yuv420Size : v.dec.mYuv420Size = 3 * (w * h) / 2
  inBufBytes : v.inBufBytes = 3 * (3 * (w * h) / 2) + 4096
  products : FitsInt (w * h) ∧ FitsInt (v.dec.mYSize * 3) ∧
    FitsInt (v.dec.mYuv420Size * JPG_BACKBUF_MAX) ∧
    FitsInt (v.dec.mYuv420Size * JPG_BACKBUF_MAX + spareBytes)
  nonneg : 0 ≤ v.dec.mYSize ∧ 0 ≤ v.dec.mUvSize ∧ 0 ≤ v.dec.mYuv420Size
  inside : ∀ data ∈ v.jpgFrames, 0 ≤ data ∧ data < v.inBufBytes

/-- The greatest picture whose `m_inBuf` an `int` can size. -/
def maxPixels : Int := 477217678

theorem ySize_eq {w h : Int} (hpos : 0 ≤ w * h) (hfits : w * h * 3 < 2147483648) :
    ySize w h = w * h := toInt32_of_fits (by omega) (by omega)

theorem yuv420Size_eq {w h : Int} (hpos : 0 ≤ w * h) (hfits : w * h * 3 < 2147483648) :
    yuv420Size w h = 3 * (w * h) / 2 := by
  rw [yuv420Size, ySize_eq hpos hfits, toInt32_of_fits (by omega) (by omega),
    Int.tdiv_eq_ediv_of_nonneg (by omega), Int.mul_comm]

theorem uvSize_eq {w h : Int} (hpos : 0 ≤ w * h) (hfits : w * h * 3 < 2147483648) :
    uvSize w h = w * h / 4 := by
  rw [uvSize, ySize_eq hpos hfits, Int.tdiv_eq_ediv_of_nonneg hpos]

/-- **The sizes of an accepted stream are exact up to `maxPixels`**, and for no
    greater picture. -/
theorem stream_sizes_exact_iff {W H : Nat} {fd : Int} {tj tjXform : Bool} {dec : JpgDecCtx}
    {header : List UInt8} {v : VideoBuffers}
    (h : decoderPrepareVideo JPG_BACKBUF_MAX W H fd tj tjXform dec header = .ok v) :
    SizesExact (headerWidth header) (headerHeight header) v ↔
      headerWidth header * headerHeight header ≤ maxPixels := by
  obtain ⟨hw, hh, rfl⟩ := decoderPrepareVideo_ok h
  generalize headerWidth header = w at hw ⊢
  generalize headerHeight header = h at hh ⊢
  have hpos : 0 < w * h := Int.mul_pos (by omega) (by omega)
  have hmax : w * h ≤ 65535 * 65535 :=
    Int.mul_le_mul hw.2 hh.2 (by omega) (by omega)
  constructor
  · intro hexact
    -- the last of the products tells: if it is exact, nothing was cut off
    have hbytes := hexact.inBufBytes
    have hgap := toSize_toInt32_gap
      (toInt32 (yuv420Size w h * JPG_BACKBUF_MAX) + spareBytes)
    have hsize : (videoBuffers JPG_BACKBUF_MAX W H (setStreamSizes
        { dec with mWidth := w, mHeight := h })).inBufBytes =
          toSize (toInt32 (toInt32 (yuv420Size w h * JPG_BACKBUF_MAX) + spareBytes)) := rfl
    rw [hsize] at hbytes
    rw [hbytes] at hgap
    unfold maxPixels
    omega
  · intro hsmall
    unfold maxPixels at hsmall
    -- three bytes for each pixel fit an int, and no other product is larger but the last
    have hfits : w * h * 3 < 2147483648 := by omega
    have hy := ySize_eq (Int.le_of_lt hpos) hfits
    have huv := uvSize_eq (Int.le_of_lt hpos) hfits
    have hyuv := yuv420Size_eq (Int.le_of_lt hpos) hfits
    have hnumber : (JPG_BACKBUF_MAX : Int) = 3 := rfl
    have hspare : spareBytes = 4096 := rfl
    have hbytes : inBufBytes JPG_BACKBUF_MAX (yuv420Size w h) = 3 * (3 * (w * h) / 2) + 4096 := by
      rw [inBufBytes, hyuv, hnumber, hspare, toInt32_of_fits (x := 3 * (w * h) / 2 * 3)
        (by omega) (by omega), toInt32_of_fits (by omega) (by omega),
        toSize_of_fits (by omega) (by omega), Int.mul_comm]
    refine ⟨hy, huv, hyuv, hbytes, ?_, ?_, ?_⟩
    · simp only [videoBuffers, setStreamSizes, hy, hyuv, hnumber, hspare, FitsInt]
      omega
    · simp only [videoBuffers, setStreamSizes, hy, huv, hyuv]
      omega
    · intro data hdata
      obtain ⟨i, hi, rfl⟩ := List.mem_map.mp hdata
      have hlt : i < 3 := List.mem_range.mp hi
      show 0 ≤ frameData (yuv420Size w h) i ∧
        frameData (yuv420Size w h) i < inBufBytes JPG_BACKBUF_MAX (yuv420Size w h)
      have hfirst : 0 ≤ (i : Int) * (3 * (w * h) / 2) := Int.mul_nonneg (by omega) (by omega)
      have hlast : (i : Int) * (3 * (w * h) / 2) ≤ 2 * (3 * (w * h) / 2) :=
        Int.mul_le_mul_of_nonneg_right (by omega) (by omega)
      rw [hbytes, frameData, hyuv, toInt32_of_fits (by omega) (by omega)]
      omega

/-- A square of 21845 pixels is within the limit. -/
theorem stream_sizes_exact_iff_square :
    ∃ v, decoderPrepareVideo JPG_BACKBUF_MAX 640 480 1 true true (decoderInit 640 480)
        [85, 85, 85, 85] = .ok v ∧
      SizesExact (headerWidth [85, 85, 85, 85]) (headerHeight [85, 85, 85, 85]) v := by
  have hok : decoderPrepareVideo JPG_BACKBUF_MAX 640 480 1 true true (decoderInit 640 480)
      [85, 85, 85, 85] = .ok _ := rfl
  exact ⟨_, hok, (stream_sizes_exact_iff hok).mpr (by decide)⟩

/-- 32768 x 43691 pixels: `m_ySize * 3` is `2^32 + 32768`, and three frames get a
    block of 53248 bytes. -/
theorem stream_sizes_wrap :
    ∃ v, decoderPrepareVideo JPG_BACKBUF_MAX 640 480 1 true true (decoderInit 640 480)
        [128, 0, 170, 171] = .ok v ∧
      headerWidth [128, 0, 170, 171] = 32768 ∧ headerHeight [128, 0, 170, 171] = 43691 ∧
      v.dec.mYuv420Size = 16384 ∧ v.inBufBytes = 53248 ∧ ¬SizesExact 32768 43691 v := by
  have hok : decoderPrepareVideo JPG_BACKBUF_MAX 640 480 1 true true (decoderInit 640 480)
      [128, 0, 170, 171] = .ok _ := rfl
  refine ⟨_, hok, rfl, rfl, by decide, by decide, fun hexact => ?_⟩
  have hyuv := hexact.yuv420Size
  revert hyuv
  decide

/-! ### Planes

The two libraries round odd sides up, and the client does not. Where a side is odd a
plane gets a row or a column that runs into the next plane. -/

/-- turbojpeg rounds both sides of a 4:2:0 picture up to even. -/
def pad2 (n : Nat) : Nat := (n + 1) / 2 * 2

/-- Width and height of the planes turbojpeg writes. -/
def tjPlaneSizes (w h : Nat) : List (Nat × Nat) :=
  [(pad2 w, pad2 h), (pad2 w / 2, pad2 h / 2), (pad2 w / 2, pad2 h / 2)]

/-- Width and height of the planes the scaler writes. -/
def swsPlaneSizes (w h : Nat) : List (Nat × Nat) :=
  [(w, h), ((w + 1) / 2, (h + 1) / 2), ((w + 1) / 2, (h + 1) / 2)]

/-- The planes that are written when these slices are filled. -/
def writtenPlanes (dst : List Slice) (sizes : List (Nat × Nat)) : List Plane :=
  List.zipWith (fun slice size => ⟨slice.data.toNat, size.1, size.2, slice.stride.toNat⟩) dst sizes

/-- What is written from `tjDstSlice` and from `swcDstSlice` fits its buffer. -/
structure LayoutFits (webcamW webcamH : Nat) (v : VideoBuffers) : Prop where
  decode : FitsBuffer
    (writtenPlanes v.tjDst (tjPlaneSizes v.dec.dWidth.toNat v.dec.dHeight.toNat))
    v.decodeBufBytes.toNat
  webcam : ∀ scaler, v.scaler = some scaler →
    FitsBuffer (writtenPlanes scaler.swcDst (swsPlaneSizes webcamW webcamH))
      scaler.webcamBufBytes.toNat

/-- A picture of `2a x 2b` pixels fills its buffer. -/
theorem fitsBuffer_even (a b : Nat) :
    FitsBuffer [⟨0, 2 * a, 2 * b, 2 * a⟩, ⟨4 * (a * b), a, b, a⟩, ⟨5 * (a * b), a, b, a⟩]
      (6 * (a * b)) := by
  have hluma : 2 * b * (2 * a) = 4 * (a * b) := by ring
  have hchroma : b * a = a * b := Nat.mul_comm b a
  apply FitsBuffer.of_stacked
  · simp
  · simp only [List.pairwise_cons, Plane.stop, hluma, hchroma]
    simp
    omega
  · simp only [List.mem_cons, Plane.stop]
    rintro p (rfl | rfl | rfl | hnil)
    · simp only [hluma]
      omega
    · simp only [hchroma]
      omega
    · simp only [hchroma]
      omega
    · cases hnil

theorem writtenPlanes_slices (ySize uvSize len : Nat) (p q r : Nat × Nat) :
    writtenPlanes (slices ySize uvSize len) [p, q, r] =
      [⟨0, p.1, p.2, len⟩, ⟨ySize, q.1, q.2, len / 2⟩, ⟨ySize + uvSize, r.1, r.2, len / 2⟩] := by
  have hhalf : ((len : Int) >>> (1 : Nat)).toNat = len / 2 := by
    rw [Int.shiftRight_eq_div_pow]
    omega
  have hsum : ((ySize : Int) + uvSize).toNat = ySize + uvSize := by omega
  simp only [writtenPlanes, slices, List.zipWith, hhalf, hsum, Int.toNat_natCast, Int.toNat_zero]

/-- A picture with two even sides is the one of `fitsBuffer_even`. -/
theorem fitsBuffer_of_even {w h : Nat} (hw : Even w) (hh : Even h) :
    FitsBuffer [⟨0, w, h, w⟩, ⟨w * h, w / 2, h / 2, w / 2⟩, ⟨w * h + w * h / 4, w / 2, h / 2, w / 2⟩]
      (3 * (w * h) / 2) := by
  obtain ⟨a, rfl⟩ := hw.two_dvd
  obtain ⟨b, rfl⟩ := hh.two_dvd
  have hprod : 2 * a * (2 * b) = 4 * (a * b) := by ring
  have hsize : 3 * (4 * (a * b)) / 2 = 6 * (a * b) := by omega
  have hquarter : 4 * (a * b) + 4 * (a * b) / 4 = 5 * (a * b) := by omega
  have hfits := fitsBuffer_even a b
  simp only [hprod, hsize, hquarter, Nat.mul_div_cancel_left _ Nat.two_pos]
  exact hfits

/-- The decoder's planes fit when neither side has to be rounded up: an odd width
    makes a row wider than its stride, an odd height puts a row into the next plane. -/
theorem tjPlanes_fit_iff {w h : Nat} (hw : 0 < w) (hh : 0 < h) :
    FitsBuffer (writtenPlanes (slices (w * h : Nat) (w * h / 4 : Nat) w) (tjPlaneSizes w h))
      (3 * (w * h) / 2) ↔ Even w ∧ Even h := by
  rw [tjPlaneSizes, writtenPlanes_slices]
  constructor
  · intro hfits
    have hwidth : pad2 w ≤ w := hfits.rows ⟨0, pad2 w, pad2 h, w⟩ (by simp)
    have hdisjoint := hfits.disjoint
    simp only [List.pairwise_cons, List.mem_cons, forall_eq_or_imp] at hdisjoint
    constructor
    · rw [Nat.even_iff]
      unfold pad2 at hwidth
      omega
    · by_contra hodd
      rw [Nat.not_even_iff] at hodd
      -- the row that was added is the first one of the next plane
      apply Plane.not_disjoint_of_cell (r := h) (c := 0) _ _ _ _ _ hdisjoint.1.1
      · show h < pad2 h
        unfold pad2
        omega
      · show 0 < pad2 w
        unfold pad2
        omega
      · show 0 < pad2 h / 2
        unfold pad2
        omega
      · show 0 < pad2 w / 2
        unfold pad2
        omega
      · show 0 + h * w + 0 = w * h
        ring
  · rintro ⟨hweven, hheven⟩
    have hpad : ∀ {n}, Even n → pad2 n = n := by
      intro n hn
      rw [Nat.even_iff] at hn
      unfold pad2
      omega
    simp only [hpad hweven, hpad hheven]
    exact fitsBuffer_of_even hweven hheven

/-- The scaler's planes fit as well only for even sides; for an odd height the
    first chroma plane has a row in the second. -/
theorem swsPlanes_fit_iff {w h : Nat} (hw : 2 ≤ w) (hh : 2 ≤ h) :
    FitsBuffer (writtenPlanes (slices (w * h : Nat) (w * h / 4 : Nat) w) (swsPlaneSizes w h))
      (3 * (w * h) / 2) ↔ Even w ∧ Even h := by
  rw [swsPlaneSizes, writtenPlanes_slices]
  constructor
  · intro hfits
    have hwidth : (w + 1) / 2 ≤ w / 2 := hfits.rows
      ⟨w * h, (w + 1) / 2, (h + 1) / 2, w / 2⟩ (by simp)
    have hdisjoint := hfits.disjoint
    simp only [List.pairwise_cons, List.mem_cons, forall_eq_or_imp] at hdisjoint
    have hweven : Even w := by
      rw [Nat.even_iff]
      omega
    refine ⟨hweven, ?_⟩
    by_contra hodd
    obtain ⟨a, rfl⟩ := hweven.two_dvd
    obtain ⟨b, rfl⟩ := Nat.not_even_iff_odd.mp hodd
    have hhalf : 2 * a / 2 = a := by omega
    have hprod : 2 * a * (2 * b + 1) / 4 = b * a + a / 2 := by
      have hexp : 2 * a * (2 * b + 1) = 4 * (b * a) + 2 * a := by ring
      rw [hexp]
      omega
    -- the byte behind the last full row belongs to the next plane as well
    apply Plane.not_disjoint_of_cell (r := b) (c := a / 2) _ _ _ _ _ hdisjoint.2.1.1
    · show b < (2 * b + 1 + 1) / 2
      omega
    · show a / 2 < (2 * a + 1) / 2
      omega
    · show 0 < (2 * b + 1 + 1) / 2
      omega
    · show 0 < (2 * a + 1) / 2
      omega
    · show 2 * a * (2 * b + 1) + b * (2 * a / 2) + a / 2 =
        2 * a * (2 * b + 1) + 2 * a * (2 * b + 1) / 4
      rw [hprod, hhalf]
      omega
  · rintro ⟨hweven, hheven⟩
    have hceil : ∀ {n}, Even n → (n + 1) / 2 = n / 2 := by
      intro n hn
      rw [Nat.even_iff] at hn
      omega
    simp only [hceil hweven, hceil hheven]
    exact fitsBuffer_of_even hweven hheven

/-- What `decoder_init` accepts, and the bytes of a frame it computes. -/
theorem decoderInitOf_some {W H : Nat} {dec : JpgDecCtx} (h : decoderInitOf (W, H) = some dec) :
    2 ≤ W ∧ 2 ≤ H ∧ dec.mWebcamYuvSize = (3 * (W * H) / 2 : Nat) ∧
      webcamYSize W H = (W * H : Nat) ∧ webcamUvSize W H = (W * H / 4 : Nat) ∧
      toInt32 W = W ∧ W * H ≤ 9999 * 9999 := by
  rw [decoderInitOf] at h
  split at h
  · cases h
  · rename_i haccepted
    simp only [not_or, Nat.not_lt] at haccepted
    obtain ⟨hW, hH, hW', hH'⟩ := haccepted
    cases h
    have hprod : W * H ≤ 9999 * 9999 := Nat.mul_le_mul hW' hH'
    have hcast : ((W : Int) * H) = ((W * H : Nat) : Int) := (Int.natCast_mul W H).symm
    have hy : webcamYSize W H = (W * H : Nat) := by
      rw [webcamYSize, hcast, toUInt32_of_fits (by omega) (by omega),
        toInt32_of_fits (by omega) (by omega)]
    refine ⟨hW, hH, ?_, hy, ?_, toInt32_of_fits (by omega) (by omega), hprod⟩
    · simp only [decoderInit, hcast]
      rw [toUInt32_of_fits (by omega) (by omega), toInt32_of_fits (by omega) (by omega)]
      omega
    · rw [webcamUvSize, hy, Int.tdiv_eq_ediv_of_nonneg (by omega)]
      omega

/-- The planes of the decoder, for either orientation. -/
theorem decodeFits_iff {w h : Nat} (hw : 0 < w) (hh : 0 < h)
    (hfits : (w : Int) * h * 3 < 2147483648) (invert : Bool) :
    FitsBuffer (writtenPlanes
        (slices (ySize w h) (uvSize w h) (if invert then (h : Int) else w))
        (tjPlaneSizes (if invert then (h : Int) else w).toNat
          (if invert then (w : Int) else h).toNat))
      (toSize (yuv420Size w h)).toNat ↔ Even w ∧ Even h := by
  have hcast : ((w : Int) * h) = ((w * h : Nat) : Int) := (Int.natCast_mul w h).symm
  have hpos : 0 ≤ (w : Int) * h := by omega
  have hy : ySize w h = (w * h : Nat) := (ySize_eq hpos hfits).trans hcast
  have huv : uvSize w h = (w * h / 4 : Nat) := by
    rw [uvSize_eq hpos hfits, hcast]
    omega
  have hsize : (toSize (yuv420Size w h)).toNat = 3 * (w * h) / 2 := by
    rw [yuv420Size_eq hpos hfits, hcast, toSize_of_fits (by omega) (by omega)]
    omega
  rw [hsize, hy, huv]
  cases invert with
  | true =>
      simp only [if_true, Int.toNat_natCast]
      rw [Nat.mul_comm w h, and_comm]
      exact tjPlanes_fit_iff hh hw
  | false =>
      simp only [Bool.false_eq_true, if_false, Int.toNat_natCast]
      exact tjPlanes_fit_iff hw hh

/-- The planes of the scaler. -/
theorem webcamFits_iff {W H : Nat} {dec dec₀ : JpgDecCtx} (hinit : decoderInitOf (W, H) = some dec₀)
    (hwebcam : dec.mWebcamYuvSize = dec₀.mWebcamYuvSize) :
    FitsBuffer (writtenPlanes (scalerOf W H dec).swcDst (swsPlaneSizes W H))
      (scalerOf W H dec).webcamBufBytes.toNat ↔ Even W ∧ Even H := by
  obtain ⟨hW, hH, hsize, hy, huv, hstride, hsmall⟩ := decoderInitOf_some hinit
  have hbytes : (toSize (3 * (W * H) / 2 : Nat)).toNat = 3 * (W * H) / 2 := by
    rw [toSize_of_fits (by omega) (by omega), Int.toNat_natCast]
  simp only [scalerOf, hwebcam, hsize, hy, huv, hstride, hbytes]
  exact swsPlanes_fit_iff hW hH

/-- **The planes fit exactly for even sides**: those of the stream, and those of
    the device if the picture is scaled. -/
theorem plane_layout_fits_iff {n W H : Nat} {fd : Int} {tj tjXform : Bool} {dec dec₀ : JpgDecCtx}
    {header : List UInt8} {v : VideoBuffers} (hinit : decoderInitOf (W, H) = some dec₀)
    (hwebcam : dec.mWebcamYuvSize = dec₀.mWebcamYuvSize)
    (h : decoderPrepareVideo n W H fd tj tjXform dec header = .ok v)
    (hfits : headerWidth header * headerHeight header * 3 < 2147483648) :
    LayoutFits W H v ↔ (Even (headerWidth header) ∧ Even (headerHeight header)) ∧
      (3 * ((W : Int) * H) / 2 = 3 * (headerWidth header * headerHeight header) / 2 ∨
        Even W ∧ Even H) := by
  obtain ⟨hw, hh, rfl⟩ := decoderPrepareVideo_ok h
  obtain ⟨w, hwidth⟩ := Int.eq_ofNat_of_zero_le (Int.le_trans (by decide) hw.1)
  obtain ⟨h, hheight⟩ := Int.eq_ofNat_of_zero_le (Int.le_trans (by decide) hh.1)
  rw [hwidth] at hw
  rw [hheight] at hh
  rw [hwidth, hheight] at hfits ⊢
  generalize hdec : setStreamSizes { dec with mWidth := (w : Int), mHeight := (h : Int) } = stream
  have hyuv : stream.mYuv420Size = yuv420Size w h := by rw [← hdec, setStreamSizes]
  have hy : stream.mYSize = ySize w h := by rw [← hdec, setStreamSizes]
  have huv : stream.mUvSize = uvSize w h := by rw [← hdec, setStreamSizes]
  have hwide : stream.dWidth = if dec.invert then (h : Int) else w := by
    rw [← hdec, setStreamSizes]
  have hhigh : stream.dHeight = if dec.invert then (w : Int) else h := by
    rw [← hdec, setStreamSizes]
  have hwebcam' : stream.mWebcamYuvSize = dec₀.mWebcamYuvSize := by
    rw [← hdec, setStreamSizes]
    exact hwebcam
  have hdecode : FitsBuffer (writtenPlanes (slices stream.mYSize stream.mUvSize stream.dWidth)
      (tjPlaneSizes stream.dWidth.toNat stream.dHeight.toNat)) (toSize stream.mYuv420Size).toNat ↔
        Even (w : Int) ∧ Even (h : Int) := by
    rw [hy, huv, hwide, hhigh, hyuv, Int.even_coe_nat, Int.even_coe_nat]
    exact decodeFits_iff (by omega) (by omega) hfits dec.invert
  have hscale : stream.mWebcamYuvSize ≠ stream.mYuv420Size ↔
      3 * ((W : Int) * H) / 2 ≠ 3 * ((w : Int) * h) / 2 := by
    have hpos : 0 ≤ (w : Int) * h := Int.mul_nonneg (by omega) (by omega)
    rw [hwebcam', hyuv, yuv420Size_eq hpos hfits, (decoderInitOf_some hinit).2.2.1,
      Int.natCast_ediv, Int.natCast_mul, Int.natCast_mul]
    rfl
  constructor
  -- one of the two libraries writes into each buffer, and only what is scaled goes into
  -- the second
  · rintro ⟨hfirst, hsecond⟩
    refine ⟨hdecode.mp hfirst, ?_⟩
    by_contra hneither
    rw [not_or] at hneither
    apply hneither.2
    apply (webcamFits_iff hinit hwebcam').mp
    apply hsecond
    rw [videoBuffers, if_pos (hscale.mpr hneither.1)]
  · rintro ⟨heven, hsecond⟩
    refine ⟨hdecode.mpr heven, fun scaler hscaler => ?_⟩
    simp only [videoBuffers] at hscaler
    split at hscaler
    · rename_i hne
      cases hscaler
      exact (webcamFits_iff hinit hwebcam').mpr (hsecond.resolve_left (hscale.mp hne))
    · cases hscaler

/-- A 640 x 480 stream for a device of 320 x 240 pixels. -/
theorem plane_layout_fits_iff_vga :
    ∃ v, decoderPrepareVideo JPG_BACKBUF_MAX 320 240 1 true true (decoderInit 320 240)
        [2, 128, 1, 224] = .ok v ∧ LayoutFits 320 240 v := by
  have hok : decoderPrepareVideo JPG_BACKBUF_MAX 320 240 1 true true (decoderInit 320 240)
      [2, 128, 1, 224] = .ok _ := rfl
  have hinit : decoderInitOf (320, 240) = some (decoderInit 320 240) := rfl
  refine ⟨_, hok, (plane_layout_fits_iff hinit rfl hok (by decide)).mpr ⟨?_, Or.inr ?_⟩⟩
  · decide
  · decide

/-- A 639 x 480 stream: the decoder writes rows of 640 bytes into rows of 639. -/
theorem plane_layout_overlaps :
    ∃ v, decoderPrepareVideo JPG_BACKBUF_MAX 320 240 1 true true (decoderInit 320 240)
        [2, 127, 1, 224] = .ok v ∧
      v.tjDst = [⟨0, 639⟩, ⟨306720, 319⟩, ⟨383400, 319⟩] ∧ ¬LayoutFits 320 240 v := by
  have hok : decoderPrepareVideo JPG_BACKBUF_MAX 320 240 1 true true (decoderInit 320 240)
      [2, 127, 1, 224] = .ok _ := rfl
  have hinit : decoderInitOf (320, 240) = some (decoderInit 320 240) := rfl
  refine ⟨_, hok, by decide, fun hlayout => ?_⟩
  have hwide := hlayout.decode.rows ⟨0, 640, 480, 639⟩ (by decide)
  exact absurd hwide (by decide)

end DroidCam.JpgDecoder

/-! ### The video thread

The same sizes, reached by the thread step by step. -/

namespace DroidCam.VideoThreads

open JpgDecoder LabelledRun Queue CArith

variable {n : Nat}

/-- The loop over `jpg_frames` gives every descriptor its place. -/
theorem prepareFrames_run {todo : List (Fin n)} :
    ∀ {s : VideoState n}, s.vpc = .prepareFrames todo →
      ∃ t, execute next s (List.replicate (todo.length + 1) (.video .go)) = some t ∧
        t.vpc = .loop ∧ t.decoder = s.decoder ∧ t.inBufSize = s.inBufSize ∧
        (∀ i ∈ todo, (t.frames i).data = frameData s.decoder.mYuv420Size i) ∧
        ∀ i ∉ todo, t.frames i = s.frames i := by
  induction todo with
  | nil =>
      intro s hpc
      refine ⟨{ s with vpc := .loop }, ?_, rfl, rfl, rfl, ?_, fun _ _ => rfl⟩
      · simp [execute, next, videoStep, hpc]
      · intro i hi
        cases hi
  | cons f todo ih =>
      intro s hpc
      -- the state after this descriptor
      obtain ⟨u, hu⟩ : ∃ u, u = { s with
          frames := Function.update s.frames f ⟨frameData s.decoder.mYuv420Size f, 0⟩
          receiveQueue := queueAdd s.receiveQueue f, vpc := .prepareFrames todo } := ⟨_, rfl⟩
      have hstep : next s (.video .go) = some u := by
        rw [hu]
        simp [next, videoStep, hpc]
      obtain ⟨t, hrun, hloop, hdec, hsize, hmem, hnot⟩ := ih (s := u) (by rw [hu])
      have hudec : u.decoder = s.decoder := by rw [hu]
      have husize : u.inBufSize = s.inBufSize := by rw [hu]
      have huframes : u.frames =
          Function.update s.frames f ⟨frameData s.decoder.mYuv420Size f, 0⟩ := by rw [hu]
      refine ⟨t, ?_, hloop, hdec.trans hudec, hsize.trans husize, ?_, ?_⟩
      · rw [List.length_cons, List.replicate_succ, execute, hstep]
        exact hrun
      · intro i hi
        by_cases hlater : i ∈ todo
        · rw [hmem i hlater, hudec]
        · obtain rfl : i = f := (List.mem_cons.mp hi).resolve_right hlater
          rw [hnot i hlater, huframes, Function.update_self]
      · intro i hi
        rw [List.mem_cons, not_or] at hi
        rw [hnot i hi.2, huframes, Function.update_of_ne hi.1]

/-- The steps of the video thread through `decoder_prepare_video`; the flags say
    which allocations succeed. -/
def prepareActs (n : Nat) (scaling inBuf decodeBuf webcamBuf swc : Bool) : List Act :=
  [.video .go, .video (.alloc true), .video (.alloc true), .video (.alloc inBuf),
    .video (.alloc decodeBuf)] ++
    (if scaling then [.video (.alloc webcamBuf), .video (.alloc swc)] else []) ++
    List.replicate (n + 1) (.video .go)

/-- The steps up to the sizes and the two blocks. -/
theorem prepareSizes_run {s : VideoState n} (hpc : s.vpc = .prepareHeader)
    (haccepted : ¬(s.droidcamDeviceFd ≤ 0 ∨ headerWidth s.buf ≤ 0 ∨ headerHeight s.buf ≤ 0))
    (inBuf decodeBuf : Bool) :
    ∃ u, execute next s [.video .go, .video (.alloc true), .video (.alloc true),
        .video (.alloc inBuf), .video (.alloc decodeBuf)] = some u ∧
      u.vpc = (if (setStreamSizes { s.decoder with
            mWidth := headerWidth s.buf, mHeight := headerHeight s.buf }).mWebcamYuvSize ≠
          (setStreamSizes { s.decoder with
            mWidth := headerWidth s.buf, mHeight := headerHeight s.buf }).mYuv420Size
        then .prepareWebcamBuf else .prepareFrames (List.finRange n)) ∧
      u.decoder = setStreamSizes { s.decoder with
        mWidth := headerWidth s.buf, mHeight := headerHeight s.buf } ∧
      u.inBufSize = inBufBytes n (setStreamSizes { s.decoder with
        mWidth := headerWidth s.buf, mHeight := headerHeight s.buf }).mYuv420Size := by
  have hheader : next s (.video .go) = some { s with
      decoder := { s.decoder with mWidth := headerWidth s.buf, mHeight := headerHeight s.buf }
      session := s.session + 1, vpc := .prepareTj } := by
    unfold headerWidth headerHeight at haccepted
    simp only [next, videoStep, hpc, if_neg haccepted, headerWidth, headerHeight]
  rw [execute, hheader, Option.bind_some]
  exact ⟨_, rfl, rfl, rfl, rfl⟩

theorem prepareScaler_run {s : VideoState n} (hpc : s.vpc = .prepareWebcamBuf)
    (webcamBuf swc : Bool) :
    ∃ u, execute next s [.video (.alloc webcamBuf), .video (.alloc swc)] = some u ∧
      u.vpc = .prepareFrames (List.finRange n) ∧ u.decoder = s.decoder ∧
      u.inBufSize = s.inBufSize := by
  have hwebcamBuf : next s (.video (.alloc webcamBuf)) = some { s.allocate .webcamBuf
      (mallocSucceeds (toSize s.decoder.mWebcamYuvSize) webcamBuf) with vpc := .prepareSwc } := by
    simp only [next, videoStep, hpc]
  rw [execute, hwebcamBuf, Option.bind_some]
  exact ⟨_, rfl, rfl, rfl, rfl⟩

/-- **The video thread computes `decoder_prepare_video`.** -/
theorem prepare_run {s : VideoState n} {W H : Nat} {v : VideoBuffers}
    (hpc : s.vpc = .prepareHeader)
    (h : decoderPrepareVideo n W H s.droidcamDeviceFd true true s.decoder s.buf = .ok v)
    (inBuf decodeBuf webcamBuf swc : Bool) :
    ∃ t, execute next s (prepareActs n v.scaler.isSome inBuf decodeBuf webcamBuf swc) = some t ∧
      t.vpc = .loop ∧ t.decoder = v.dec ∧ t.inBufSize = v.inBufBytes ∧
      (List.finRange n).map (fun i => (t.frames i).data) = v.jpgFrames := by
  obtain ⟨hw, hh, rfl⟩ := decoderPrepareVideo_ok h
  have hfd : ¬s.droidcamDeviceFd ≤ 0 := by
    intro hfd
    simp [decoderPrepareVideo, hfd] at h
  have haccepted : ¬(s.droidcamDeviceFd ≤ 0 ∨ headerWidth s.buf ≤ 0 ∨ headerHeight s.buf ≤ 0) := by
    omega
  generalize hdec : setStreamSizes { s.decoder with
    mWidth := headerWidth s.buf, mHeight := headerHeight s.buf } = dec
  -- the state in front of the loop over the descriptors
  obtain ⟨u, hhead, hupc, hudec, husize⟩ : ∃ u, execute next s
      ([.video .go, .video (.alloc true), .video (.alloc true), .video (.alloc inBuf),
        .video (.alloc decodeBuf)] ++
        (if (videoBuffers n W H dec).scaler.isSome
          then [.video (.alloc webcamBuf), .video (.alloc swc)] else [])) = some u ∧
      u.vpc = .prepareFrames (List.finRange n) ∧ u.decoder = dec ∧
      u.inBufSize = inBufBytes n dec.mYuv420Size := by
    obtain ⟨r, hfirst, hrpc, hrdec, hrsize⟩ := prepareSizes_run hpc haccepted inBuf decodeBuf
    rw [hdec] at hrdec hrsize hrpc
    rw [execute_append, hfirst, Option.bind_some]
    split at hrpc
    · rename_i hscale
      have hsome : (videoBuffers n W H dec).scaler.isSome = true := by
        simp only [videoBuffers, if_pos hscale, Option.isSome_some]
      rw [hsome, if_pos rfl]
      obtain ⟨u, hu, hupc, hudec, husize⟩ := prepareScaler_run hrpc webcamBuf swc
      exact ⟨u, hu, hupc, hudec.trans hrdec, husize.trans hrsize⟩
    · rename_i hscale
      have hnone : (videoBuffers n W H dec).scaler.isSome = false := by
        simp only [videoBuffers, if_neg hscale, Option.isSome_none]
      rw [hnone, if_neg (by simp)]
      exact ⟨r, rfl, hrpc, hrdec, hrsize⟩
  obtain ⟨t, hrun, hloop, htdec, htsize, hframes, -⟩ := prepareFrames_run hupc
  rw [List.length_finRange] at hrun
  refine ⟨t, ?_, hloop, htdec.trans hudec, htsize.trans husize, ?_⟩
  · rw [prepareActs, execute_append, hhead]
    exact hrun
  · simp only [videoBuffers]
    rw [← List.map_coe_finRange_eq_range, List.map_map]
    apply List.map_congr_left
    intro i hi
    rw [hframes i hi, hudec, Function.comp_apply]

end DroidCam.VideoThreads
