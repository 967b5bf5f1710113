import DroidCam.Lib.CArith
import Mathlib.Tactic.Ring

/-
  DroidCam/JpgDecoder.lean
  ========================
  The JPEG decoder context of `decoder.c` and the integer arithmetic with which
  `decoder_prepare_video` sizes its buffers.

  * `JpgDecCtx` — the fields of `struct jpg_dec_ctx_s` that decide sizes,
    orientation and the queue limit (buffers and handles are in `VideoThreads`);
  * `ySize`, `yuv420Size`, `inBufBytes`, `frameData` — the sizes computed in
    32-bit `int`, with the wrap where the product does not fit;
  * `InSlot` — the part of `m_inBuf` that belongs to one frame descriptor.
-/

namespace DroidCam.JpgDecoder

open CArith

/-! ### The context -/

/-- The values of `enum TJXOP` the client uses. -/
inductive TjxOp where
  | none
  | hflip
  | vflip
  | rot90
  | rot180
deriving DecidableEq, Repr

/-- The `TJXOPT` flags the client sets. -/
inductive TjxOpt where
  | copyNone
  | trim
deriving DecidableEq, Repr

/-- `transform.options`, which `decoder_init` sets for good. -/
def transformOptions : List TjxOpt := [.copyNone, .trim]

/-- `struct jpg_dec_ctx_s`. -/
structure JpgDecCtx where
  invert : Bool
  subsamp : Int
  mWidth : Int
  mHeight : Int
  dWidth : Int
  dHeight : Int
  mYuv420Size : Int
  mYSize : Int
  mUvSize : Int
  mWebcamYuvSize : Int
  mBufferLimit : Nat
  transformOp : TjxOp
deriving DecidableEq, Repr

/-- The context `decoder_init` leaves behind for a `WEBCAM_W x WEBCAM_H` device:
    zeroed, but for the orientation and the webcam size. -/
def decoderInit (webcamW webcamH : Nat) : JpgDecCtx where
  invert := decide (webcamW < webcamH)
  subsamp := 0
  mWidth := 0
  mHeight := 0
  dWidth := 0
  dHeight := 0
  mYuv420Size := 0
  mYSize := 0
  mUvSize := 0
  mWebcamYuvSize := toInt32 (toUInt32 (webcamW * webcamH * 3) / 2)
  mBufferLimit := 0
  transformOp := .none

/-- The context `decoder_init` makes for the size reported, if it accepts it. -/
def decoderInitOf (webcam : Nat × Nat) : Option JpgDecCtx :=
  if webcam.1 < 2 ∨ webcam.2 < 2 ∨ webcam.1 > 9999 ∨ webcam.2 > 9999 then none
  else some (decoderInit webcam.1 webcam.2)

theorem decoderInitOf_eq {W H : Nat} {dec : JpgDecCtx} (h : decoderInitOf (W, H) = some dec) :
    ((2 ≤ W ∧ W ≤ 9999) ∧ 2 ≤ H ∧ H ≤ 9999) ∧ dec = decoderInit W H := by
  simp only [decoderInitOf] at h
  split at h
  · cases h
  · rename_i hbounds
    cases h
    exact ⟨by omega, rfl⟩

/-- `decoder_horizontal_flip`. -/
def decoderHorizontalFlip (op : TjxOp) : TjxOp :=
  let hFlip := decide (op = .hflip)
  let vFlip := decide (op = .vflip)
  let hvFlip := decide (op = .rot180)
  if hFlip || hvFlip then
    if hvFlip then .vflip else .none
  else
    if vFlip then .rot180 else .hflip

/-- `decoder_vertical_flip`. -/
def decoderVerticalFlip (op : TjxOp) : TjxOp :=
  let hFlip := decide (op = .hflip)
  let vFlip := decide (op = .vflip)
  let hvFlip := decide (op = .rot180)
  if vFlip || hvFlip then
    if hvFlip then .hflip else .none
  else
    if hFlip then .rot180 else .vflip

/-! ### Sizes

All sizes are int in the source, so each product is cut off to 32 bits before it goes
on. -/

/-- `be16toh` of two header bytes. -/
def be16 (hi lo : UInt8) : Int := 256 * hi.toNat + lo.toNat

/-- `m_ySize = m_width * m_height`. -/
def ySize (w h : Int) : Int := toInt32 (w * h)

/-- `m_uvSize = m_ySize / 4`. -/
def uvSize (w h : Int) : Int := (ySize w h).tdiv 4

/-- `m_Yuv420Size = m_ySize * 3 / 2`. -/
def yuv420Size (w h : Int) : Int := (toInt32 (ySize w h * 3)).tdiv 2

/-- The spare bytes at the end of `m_inBuf`. -/
def spareBytes : Int := 4096

/-- The argument of the `malloc` of `m_inBuf`,
    `(m_Yuv420Size * JPG_BACKBUF_MAX + 4096) * sizeof(BYTE)`. -/
def inBufBytes (n : Nat) (yuv : Int) : Int := toSize (toInt32 (toInt32 (yuv * n) + spareBytes))

/-- `malloc` returns a block only for sizes up to `PTRDIFF_MAX`; whether it does
    for such a size is up to the environment. -/
def mallocSucceeds (bytes : Int) (ok : Bool) : Bool := ok && decide (bytes < 9223372036854775808)

/-- `jpg_frames[i].data = &m_inBuf[i*m_Yuv420Size]`, relative to `m_inBuf`. -/
def frameData (yuv : Int) (i : Nat) : Int := toInt32 (i * yuv)

/-- The assignments of `decoder_prepare_video` between the handles and the
    buffers: orientation, sizes, and the cleared subsampling. -/
def setStreamSizes (dec : JpgDecCtx) : JpgDecCtx :=
  { dec with
    dWidth := if dec.invert then dec.mHeight else dec.mWidth
    dHeight := if dec.invert then dec.mWidth else dec.mHeight
    transformOp := if dec.invert then .rot90 else dec.transformOp
    subsamp := 0
    mYSize := ySize dec.mWidth dec.mHeight
    mUvSize := uvSize dec.mWidth dec.mHeight
    mYuv420Size := yuv420Size dec.mWidth dec.mHeight }

theorem yuv420Size_lower (w h : Int) : -1073741824 ≤ yuv420Size w h := by
  have := toInt32_lower (ySize w h * 3)
  have := tdiv_two_near (toInt32 (ySize w h * 3))
  unfold yuv420Size; omega

theorem yuv420Size_upper (w h : Int) : yuv420Size w h < 1073741824 := by
  have := toInt32_upper (ySize w h * 3)
  have := tdiv_two_near (toInt32 (ySize w h * 3))
  unfold yuv420Size; omega

/-! ### Slots -/

/-- Byte `x` of `m_inBuf` belongs to descriptor `i` of `n`: it lies in
    `[i*m_Yuv420Size, (i+1)*m_Yuv420Size)`, or in the spare bytes behind the
    last descriptor. -/
def InSlot (n : Nat) (yuv : Int) (i : Nat) (x : Int) : Prop :=
  i * yuv ≤ x ∧ x < (i + 1) * yuv + if i + 1 = n then spareBytes else 0

/-- The bytes `[off, off + len)` lie in the slot of descriptor `i`. -/
def SpanInSlot (n : Nat) (yuv : Int) (i : Nat) (off len : Int) : Prop :=
  ∀ x, off ≤ x → x < off + len → InSlot n yuv i x

/-- A span is a non-empty interval, so its ends decide. -/
theorem spanInSlot_iff {n : Nat} {yuv : Int} {i : Nat} {off len : Int} (hlen : 0 < len) :
    SpanInSlot n yuv i off len ↔
      i * yuv ≤ off ∧ off + len ≤ (i + 1) * yuv + if i + 1 = n then spareBytes else 0 := by
  constructor
  · intro h
    have hfirst := (h off (le_refl _) (by omega)).1
    have hlast := (h (off + len - 1) (by omega) (by omega)).2
    exact ⟨hfirst, by omega⟩
  · rintro ⟨hlo, hhi⟩ x hx hx'
    exact ⟨by omega, by omega⟩

instance (n : Nat) (yuv : Int) (i : Nat) (off len : Int) : Decidable (SpanInSlot n yuv i off len) :=
  if hlen : 0 < len then
    decidable_of_iff _ (spanInSlot_iff hlen).symm
  else
    isTrue fun x hlo hhi => by omega

theorem SpanInSlot.of_le {n : Nat} {yuv : Int} {i : Nat} {off len len' : Int}
    (h : SpanInSlot n yuv i off len) (hle : len' ≤ len) : SpanInSlot n yuv i off len' :=
  fun x hlo hhi => h x hlo (by omega)

/-- **Slots are disjoint**, whatever the size came out as: when it is not
    positive only the last descriptor has any bytes. -/
theorem slot_disjoint {n : Nat} {yuv : Int} {i j : Nat} {x : Int} (hi : i < n) (hj : j < n)
    (hx : InSlot n yuv i x) (hx' : InSlot n yuv j x) : i = j := by
  -- the earlier of two slots ends before the later one starts
  have key : ∀ {a b : Nat}, a < b → b < n → InSlot n yuv a x → InSlot n yuv b x → False := by
    intro a b hab hb ha hb'
    have hend : x < (a + 1) * yuv := by
      have := ha.2
      rwa [if_neg (by omega), Int.add_zero] at this
    rcases le_or_gt 0 yuv with hpos | hneg
    · have hle : ((a : Int) + 1) * yuv ≤ b * yuv := by
        apply Int.mul_le_mul_of_nonneg_right _ hpos
        omega
      have := hb'.1
      omega
    · have := ha.1
      have hexp : ((a : Int) + 1) * yuv = a * yuv + yuv := by ring
      omega
  rcases Nat.lt_trichotomy i j with hij | hij | hij
  · exact (key hij hj hx hx').elim
  · exact hij
  · exact (key hij hi hx' hx).elim

end DroidCam.JpgDecoder
