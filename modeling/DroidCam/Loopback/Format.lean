import DroidCam.Lib.CArith

/-
  DroidCam/Loopback/Format.lean
  =============================
  Constants and pixel formats of `v4l2loopback-dc.c`, and the size arithmetic
  that turns a width and a height into the size of a buffer slot.

  A `__u32` is a `Nat` below `2^32`; its products are reduced where the C
  expression computes them in `unsigned int`.  Pages have 4096 bytes.
-/

namespace DroidCam.Loopback

open CArith

/-! ### Constants -/

abbrev MAX_BUFFERS : Nat := 16
abbrev MAX_OPENERS : Int := 8
abbrev MAX_TIMEOUT : Int := 100 * 1000 * 1000

abbrev V4L2LOOPBACK_SIZE_MAX_WIDTH : Nat := 8192
abbrev V4L2LOOPBACK_SIZE_MAX_HEIGHT : Nat := 8192
abbrev V4L2LOOPBACK_SIZE_DEFAULT_WIDTH : Nat := 640
abbrev V4L2LOOPBACK_SIZE_DEFAULT_HEIGHT : Nat := 480

abbrev PAGE_SIZE : Nat := 4096

abbrev EPERM : Int := 1
abbrev EIO : Int := 5
abbrev EAGAIN : Int := 11
abbrev ENOMEM : Int := 12
abbrev EFAULT : Int := 14
abbrev EBUSY : Int := 16
abbrev EINVAL : Int := 22

abbrev V4L2_FIELD_ANY : Nat := 0
abbrev V4L2_FIELD_NONE : Nat := 1
abbrev V4L2_COLORSPACE_SRGB : Nat := 8

/-- What the module is loaded with, and the tick rate of the kernel. -/
structure Config where
  width : Int
  height : Int
  hz : Nat

/-- `msecs_to_jiffies` of a value that does not reach `MAX_JIFFY_OFFSET`. -/
def Config.msecsToJiffies (cfg : Config) (m : Nat) : Nat := (m * cfg.hz + 999) / 1000

/-! ### Formats

The table keeps the order of the source, since the first entry with a code is the one
that is found. -/

def v4l2Fourcc (a b c d : Char) : Nat :=
  a.toNat + b.toNat * 256 + c.toNat * 65536 + d.toNat * 16777216

abbrev V4L2_PIX_FMT_YUV420 : Nat := v4l2Fourcc 'Y' 'U' '1' '2'

/-- `struct v4l2l_format`; `planar` is the flag `FORMAT_FLAGS_PLANAR`. -/
structure V4l2lFormat where
  fourcc : Nat
  depth : Nat
  planar : Bool
deriving DecidableEq, Repr

/-- `formats[0]`. -/
def bgr32 : V4l2lFormat := ⟨v4l2Fourcc 'B' 'G' 'R' '4', 32, false⟩

def formats : List V4l2lFormat :=
  [ bgr32,
    ⟨v4l2Fourcc 'R' 'G' 'B' '4', 32, false⟩,
    ⟨v4l2Fourcc 'B' 'G' 'R' '3', 24, false⟩,
    ⟨v4l2Fourcc 'R' 'G' 'B' '3', 24, false⟩,
    ⟨v4l2Fourcc 'Y' 'U' 'Y' 'V', 16, false⟩,
    ⟨v4l2Fourcc 'Y' 'U' 'Y' 'V', 16, false⟩,
    ⟨v4l2Fourcc 'U' 'Y' 'V' 'Y', 16, false⟩,
    ⟨v4l2Fourcc 'Y' 'V' 'Y' 'U', 16, false⟩,
    ⟨v4l2Fourcc 'V' 'Y' 'U' 'Y', 16, false⟩,
    ⟨v4l2Fourcc 'Y' 'Y' 'U' 'V', 16, false⟩,
    ⟨v4l2Fourcc 'Y' 'U' 'V' '4', 32, false⟩,
    ⟨v4l2Fourcc 'G' 'R' 'E' 'Y', 8, false⟩,
    ⟨v4l2Fourcc 'Y' '1' '6' ' ', 16, false⟩,
    ⟨v4l2Fourcc 'Y' 'V' 'U' '9', 9, true⟩,
    ⟨v4l2Fourcc 'Y' 'V' '1' '2', 12, true⟩,
    ⟨v4l2Fourcc 'Y' 'U' 'V' '9', 9, true⟩,
    ⟨V4L2_PIX_FMT_YUV420, 12, true⟩ ]

def formatByFourcc (fourcc : Nat) : Option V4l2lFormat :=
  formats.find? fun f => f.fourcc = fourcc

theorem formatByFourcc_yuv420 :
    formatByFourcc V4L2_PIX_FMT_YUV420 = some ⟨V4L2_PIX_FMT_YUV420, 12, true⟩ := by
  decide

/-- The fields of `struct v4l2_pix_format` that the driver reads or writes. -/
structure V4l2PixFormat where
  width : Nat
  height : Nat
  pixelformat : Nat
  field : Nat
  bytesperline : Nat
  sizeimage : Nat
  colorspace : Nat
deriving DecidableEq, Repr

/-- `pix_format_set_size`. -/
def pixFormatSetSize (f : V4l2PixFormat) (fmt : V4l2lFormat) (width height : Nat) :
    V4l2PixFormat :=
  if fmt.planar then
    { f with
      width, height
      bytesperline := width
      sizeimage := width * height * fmt.depth % 4294967296 / 8 }
  else
    let bytesperline := width * fmt.depth % 4294967296 / 8
    { f with width, height, bytesperline, sizeimage := height * bytesperline % 4294967296 }

/-- `PAGE_ALIGN` of a `__u32`. -/
def pageAlign (x : Nat) : Nat := (x + (PAGE_SIZE - 1)) % 4294967296 / PAGE_SIZE * PAGE_SIZE

/-- The width or height `vidioc_try_fmt_out` settles on. -/
def clampSize (x max default : Nat) : Nat :=
  let x := if x > max then max else x
  if x < 1 then default else x

theorem clampSize_bounds {x max default : Nat} (hlo : 1 ≤ default) (hhi : default ≤ max) :
    1 ≤ clampSize x max default ∧ clampSize x max default ≤ max := by
  simp only [clampSize]
  split <;> split <;> omega

/-- The bytes of a planar 4:2:0 image. -/
def yuv420Size (w h : Nat) : Nat := w * h * 12 / 8

/-- A planar image of 12 bits a pixel within the size limits does not wrap. -/
theorem sizeimage_yuv420 {f : V4l2PixFormat} {fourcc w h : Nat} (hw : w ≤ 8192) (hh : h ≤ 8192) :
    (pixFormatSetSize f ⟨fourcc, 12, true⟩ w h).sizeimage = yuv420Size w h := by
  have hprod : w * h ≤ 8192 * 8192 := Nat.mul_le_mul hw hh
  have hfits : w * h * 12 < 4294967296 := by omega
  simp only [pixFormatSetSize, if_pos, yuv420Size, Nat.mod_eq_of_lt hfits]

theorem yuv420Size_bounds {w h : Nat} (hw₁ : 1 ≤ w) (hh₁ : 1 ≤ h) (hw : w ≤ 8192)
    (hh : h ≤ 8192) :
    1 ≤ yuv420Size w h ∧ yuv420Size w h ≤ 100663296 := by
  have hprod : w * h ≤ 8192 * 8192 := Nat.mul_le_mul hw hh
  have hpos : 1 ≤ w * h := Nat.mul_le_mul hw₁ hh₁
  simp only [yuv420Size]
  omega

/-- The largest image is a whole number of pages, so aligning stays below it. -/
theorem pageAlign_bounds {x : Nat} (hlo : 1 ≤ x) (hhi : x ≤ 100663296) :
    x ≤ pageAlign x ∧ pageAlign x < x + PAGE_SIZE ∧ PAGE_SIZE ≤ pageAlign x ∧
      pageAlign x ≤ 100663296 := by
  simp only [pageAlign, PAGE_SIZE]
  omega

end DroidCam.Loopback
