import DroidCam.Loopback.Slots
import DroidCam.Loopback.Sessions
import DroidCam.JpgDecoder
import DroidCam.Lib.StridedImage

/-
  DroidCam/Loopback/Geometry.lean
  ===============================
  The size of an image, of a buffer's slot, and where the slots lie.

  The open that makes the device ready fixes the format; until the last close no
  call changes it, and whenever there is an image its slots are laid out one
  behind the other.  The client asks the driver for width and height and computes
  the size of a frame on its own.
-/

namespace DroidCam.Loopback

open CArith ByteMemory LabelledRun StridedImage JpgDecoder

/-! ### The format

A device has the format of its parameters from the first open on; the requested format
is overwritten on the way. -/

def Config.frameWidth (cfg : Config) : Nat :=
  clampSize (toUInt32 cfg.width).toNat V4L2LOOPBACK_SIZE_MAX_WIDTH V4L2LOOPBACK_SIZE_DEFAULT_WIDTH

def Config.frameHeight (cfg : Config) : Nat :=
  clampSize (toUInt32 cfg.height).toNat V4L2LOOPBACK_SIZE_MAX_HEIGHT
    V4L2LOOPBACK_SIZE_DEFAULT_HEIGHT

theorem Config.frameWidth_bounds (cfg : Config) : 1 ≤ cfg.frameWidth ∧ cfg.frameWidth ≤ 8192 :=
  clampSize_bounds (by decide) (by decide)

theorem Config.frameHeight_bounds (cfg : Config) : 1 ≤ cfg.frameHeight ∧ cfg.frameHeight ≤ 8192 :=
  clampSize_bounds (by decide) (by decide)

/-- What the open of a device that is not ready makes of the format. -/
structure Formatted (cfg : Config) (d : Device) : Prop where
  width : d.pixFormat.width = cfg.frameWidth
  height : d.pixFormat.height = cfg.frameHeight
  pixelformat : d.pixFormat.pixelformat = V4L2_PIX_FMT_YUV420
  sizeimage : d.pixFormat.sizeimage = cfg.imageSize
  bufferSize : d.bufferSize = cfg.slotSize

theorem Formatted.congr {cfg : Config} {d d' : Device} (hd : Formatted cfg d)
    (hformat : d'.pixFormat = d.pixFormat) (hsize : d'.bufferSize = d.bufferSize) :
    Formatted cfg d' where
  width := hformat ▸ hd.width
  height := hformat ▸ hd.height
  pixelformat := hformat ▸ hd.pixelformat
  sizeimage := hformat ▸ hd.sizeimage
  bufferSize := hsize.trans hd.bufferSize

theorem openFormat_formatted {cfg : Config} {mem : Allocation} {e : Device}
    (hready : e.readyForCapture = false) : Formatted cfg (openFormat cfg mem e) := by
  have hsize : (tryPixFormat (defaultFormat cfg e.pixFormat)).sizeimage = cfg.imageSize :=
    tryPixFormat_default cfg e.pixFormat
  -- the device with the new format, before anything is allocated
  obtain ⟨f, hf, hopen⟩ : ∃ f : Device,
      f = (e.setPixFormat (tryPixFormat (defaultFormat cfg e.pixFormat))).setBufferSize
        cfg.slotSize ∧ openFormat cfg mem e = (f.allocateBuffers mem).2.setReady := by
    refine ⟨_, rfl, ?_⟩
    rw [openFormat, vidiocSFmtOut, vidiocTryFmtOut, if_neg (by simp [hready])]
    simp only [Device.setPixFormat, hready, Bool.false_eq_true, if_false, hsize]
    rfl
  have hformatted : Formatted cfg f := by
    subst hf
    constructor
    · simp only [Device.setBufferSize, Device.setPixFormat, tryPixFormat, defaultFormat,
        formatByFourcc_yuv420, Option.getD_some, pixFormatSetSize, if_true]
      rfl
    · simp only [Device.setBufferSize, Device.setPixFormat, tryPixFormat, defaultFormat,
        formatByFourcc_yuv420, Option.getD_some, pixFormatSetSize, if_true]
      rfl
    · simp only [Device.setBufferSize, Device.setPixFormat, tryPixFormat, defaultFormat,
        formatByFourcc_yuv420, Option.getD_some]
    · exact hsize
    · rfl
  have hmove := (f.allocateBuffers_slots mem).bufferSize
  rw [hopen]
  exact hformatted.congr hmove.2.2 hmove.1

/-! ### The invariant

The format holds of a ready device, the layout of any device with an image: `mmap` may
allocate before the device is ready again. -/

/-- The slots lie where `init_buffers` puts them, and fill the image. -/
structure LaidOut (d : Device) : Prop where
  slots : d.slots = d.initBuffers.slots
  imagesize : d.imagesize = d.bufferSize * d.ring.buffersNumber

/-- A ready device has the format of the open; an image has its slots. -/
structure Framed (cfg : Config) (d : Device) : Prop where
  formatted : d.readyForCapture = true → Formatted cfg d
  laidOut : d.image.isSome = true → LaidOut d

theorem SlotMove.laidOut {d d' : Device} (h : SlotMove d d')
    (hd : d.image.isSome = true → LaidOut d) (hsome : d'.image.isSome = true) : LaidOut d' := by
  obtain ⟨hsize, hnumber, -⟩ := h.bufferSize
  have hinit : d'.slots = d.initBuffers.slots → d'.slots = d'.initBuffers.slots := by
    intro hslots
    rw [initBuffers_slots_congr hslots, initBuffers_slots_idem]
    exact hslots
  constructor
  · rcases h.slots with hsame | hslots
    · rcases h.made hsome with ⟨hbefore, -⟩ | ⟨hslots, -⟩
      · rw [initBuffers_slots_congr hsame, hsame]
        exact (hd hbefore).slots
      · exact hinit hslots
    · exact hinit hslots
  · rw [hsize, hnumber]
    rcases h.made hsome with ⟨hbefore, himagesize⟩ | ⟨-, himagesize⟩
    · rw [himagesize]
      exact (hd hbefore).imagesize
    · exact himagesize

theorem Framed.move {cfg : Config} {d d' : Device} (hd : Framed cfg d) (h : SlotMove d d')
    (hready : d'.readyForCapture = d.readyForCapture) : Framed cfg d' where
  formatted := by
    intro hready'
    have hformatted := hd.formatted (hready.symm.trans hready')
    exact hformatted.congr h.bufferSize.2.2 h.bufferSize.1
  laidOut := h.laidOut hd.laidOut

theorem Framed.init (cfg : Config) : Framed cfg (Device.init cfg) where
  formatted := fun hready => by cases hready
  laidOut := fun hsome => by cases hsome

theorem Device.opening_slots (mem : Allocation) (d : Device) : SlotMove d (d.opening mem) := by
  have hcount : SlotMove d d.countOpen := .same rfl id rfl
  unfold Device.opening
  split
  · exact hcount.trans (d.countOpen.allocateTimeoutImage_slots mem)
  · exact hcount

/-- An open keeps the format of a ready device, and makes it otherwise. -/
theorem Framed.opened {cfg : Config} {mem : Allocation} {s : Driver} (hs : Accounted s)
    (hd : Framed cfg s.dev) : Framed cfg (openFormat cfg mem (s.dev.opening mem)) := by
  have hopening := s.dev.opening_slots mem
  have hframe := s.dev.opening_frame mem
  cases hready : s.dev.readyForCapture with
  | true =>
      rw [openFormat_ready (hframe.ready.trans hready)]
      exact hd.move hopening hframe.ready
  | false =>
      -- the first open: the format first, then the buffers for it
      refine ⟨fun _ => openFormat_formatted (hframe.ready.trans hready), fun hsome => ?_⟩
      obtain ⟨himage, -, hsize, -⟩ := hs.idle hready
      have hslots : ∃ f : Device, f.image = none ∧
          openFormat cfg mem (s.dev.opening mem) = (f.allocateBuffers mem).2.setReady := by
        obtain ⟨f, hf⟩ := (openFormat_of_not_ready (hframe.ready.trans hready) :
          ∃ f, openFormat cfg mem (s.dev.opening mem) = _)
        refine ⟨_, ?_, hf⟩
        rw [Device.opening_idle hsize]
        exact himage
      obtain ⟨f, hnone, hopen⟩ := hslots
      rw [hopen] at hsome ⊢
      have hset : SlotMove (f.allocateBuffers mem).2 (f.allocateBuffers mem).2.setReady :=
        .same rfl id rfl
      apply ((f.allocateBuffers_slots mem).trans hset).laidOut _ hsome
      intro hbefore
      exact absurd hbefore (by simp [hnone])

theorem Framed.step {cfg : Config} {s t : Driver} {call : Call} (hs : Accounted s)
    (hd : Framed cfg s.dev) (h : Step cfg s call t) : Framed cfg t.dev := by
  cases h.move with
  | @openFailed file mem kzalloc ret d hfree hopen =>
      cases v4l2LoopbackOpen_move hopen with
      | refused => exact hd
      | leaked => exact hd.move (s.dev.opening_slots mem) (s.dev.opening_frame mem).ready
  | @opened file mem kzalloc ret d o hfree hopen =>
      cases v4l2LoopbackOpen_move hopen with
      | opened => exact hd.opened hs
  | @closed file o hfile =>
      show Framed cfg (v4l2LoopbackClose s.dev)
      by_cases hfree : s.dev.openCount = 1 ∧ s.dev.keepFormat = false
      · rw [v4l2LoopbackClose_freed hfree.1 hfree.2]
        constructor
        · intro hready
          cases hready
        · intro hsome
          cases hsome
      · rw [v4l2LoopbackClose_kept hfree]
        split <;> exact hd.move (.same rfl id rfl) rfl
  -- no request changes the format of a ready device
  | @request file req o reply d o' hfile hreq =>
      obtain ⟨hready, hcount⟩ := hs.held hfile
      apply hd.move (request_slots hready hcount hreq)
      have hready' := (hs.step h).ready
      exact (hready' (keys_length_pos (AList.lookup_insert s.openers))).trans hready.symm
  | sustainTimer =>
      simp only [Device.sustainTimerClb]
      split <;> exact hd.move (.same rfl id rfl) rfl
  | timeoutTimer =>
      simp only [Device.timeoutTimerClb]
      split <;> exact hd.move (.same rfl id rfl) rfl
  | @storeFormat text len reply d hstore =>
      rcases attrStoreFormat_dev hstore with rfl | ⟨num, den, -, -, he⟩
      · exact hd
      · exact hd.move (Device.setTimeperframe_slots he) (Device.setTimeperframe_frame he).ready
  | @storeMaxopeners curr len =>
      rcases attrStoreMaxopeners_dev s.dev curr len with hsame | ⟨n, hset⟩
      · rwa [hsame]
      · rw [hset]
        exact hd.move (.same rfl id rfl) rfl

theorem Framed.run {cfg : Config} {s : Driver} {calls : List Call}
    (h : Run (Step cfg) (Driver.init cfg) calls s) : Accounted s ∧ Framed cfg s.dev := by
  refine @Run.invariant _ _ _ (fun s => Accounted s ∧ Framed cfg s.dev) _ _ _ ?_ ?_ h
  · rintro s call t ⟨hs, hd⟩ hstep
    exact ⟨hs.step hstep, hd.step hs hstep⟩
  · exact ⟨Accounted.init cfg, Framed.init cfg⟩

/-- On a device with somebody on it a slot has bytes. -/
theorem Framed.bufferSize_pos {cfg : Config} {s : Driver} {file : Nat} {o : Opener}
    (hd : Framed cfg s.dev) (hs : Accounted s) (hfile : s.openers.lookup file = some o) :
    0 < s.dev.bufferSize := by
  have hbounds := cfg.slotSize_bounds
  rw [(hd.formatted (hs.held hfile).1).bufferSize]
  omega

theorem Framed.bufferSize_le {cfg : Config} {s : Driver} {file : Nat} {o : Opener}
    (hd : Framed cfg s.dev) (hs : Accounted s) (hfile : s.openers.lookup file = some o) :
    s.dev.bufferSize ≤ 100663296 := by
  rw [(hd.formatted (hs.held hfile).1).bufferSize]
  exact cfg.slotSize_bounds.2.2

/-! ### Offsets

16 times the largest slot is below `INT_MAX`, so the offsets are computed without
overflow. -/

/-- A slot number up to `MAX_BUFFERS` times the size does not leave `int`. -/
theorem toInt32_offset {i size : Nat} (hi : i ≤ MAX_BUFFERS) (hsize : size ≤ 100663296) :
    toInt32 (i * toInt32 size) = i * size := by
  have hprod : i * size ≤ 16 * 100663296 := Nat.mul_le_mul hi hsize
  have hcast : ((i : Int) * size) = ((i * size : Nat) : Int) := (Int.natCast_mul i size).symm
  rw [toInt32_of_fits (x := size) (by omega) (by omega), hcast,
    toInt32_of_fits (by omega) (by omega)]

/-- The offset of a slot, as `init_buffers` stores it. -/
theorem toUInt32_offset {i size : Nat} (hi : i ≤ MAX_BUFFERS) (hsize : size ≤ 100663296) :
    toUInt32 (toInt32 (i * toInt32 size)) = i * size := by
  have hprod : i * size ≤ 16 * 100663296 := Nat.mul_le_mul hi hsize
  have hcast : ((i : Int) * size) = ((i * size : Nat) : Int) := (Int.natCast_mul i size).symm
  rw [toInt32_offset hi hsize, hcast, toUInt32_of_fits (by omega) (by omega)]

/-- Where the slots of a device lie. -/
structure SlotsAt (d : Device) : Prop where
  buffer : ∀ i < MAX_BUFFERS, (d.buffers i).offset = i * d.bufferSize
  timeout : d.timeoutImageBuffer.offset = MAX_BUFFERS * d.bufferSize

theorem LaidOut.slotsAt {d : Device} (hd : LaidOut d) (hnumber : d.ring.buffersNumber = MAX_BUFFERS)
    (hsize : d.bufferSize ≤ 100663296) : SlotsAt d := by
  have hslots := hd.slots
  simp only [Device.slots, Prod.mk.injEq] at hslots
  obtain ⟨-, -, -, hoffset, htimeout⟩ := hslots
  constructor
  · intro i hi
    have hbuffer : (d.initBuffers.buffers i).offset = (d.initialBuffer i).offset := by
      simp only [Device.initBuffers, hnumber, hi, if_true]
    rw [congrFun hoffset i, hbuffer]
    exact toUInt32_offset (Nat.le_of_lt hi) hsize
  · rw [htimeout]
    exact toUInt32_offset (Nat.le_refl MAX_BUFFERS) hsize

/-! ### The client -/

/-- What `query_v4l_device` reports of a device with the name of this driver:
    the format of VIDIOC_G_FMT, or nothing when it is not planar 4:2:0. -/
def queryV4lDevice (d : Device) : Nat × Nat :=
  if d.readyForCapture then
    if d.pixFormat.pixelformat ≠ V4L2_PIX_FMT_YUV420 then (0, 0)
    else if d.pixFormat.width ≤ 0 ∨ d.pixFormat.height ≤ 0 then (0, 0)
    else (d.pixFormat.width, d.pixFormat.height)
  else (0, 0)

theorem Formatted.query {cfg : Config} {d : Device} (hd : Formatted cfg d)
    (hready : d.readyForCapture = true) :
    queryV4lDevice d = (cfg.frameWidth, cfg.frameHeight) := by
  have hwidth := cfg.frameWidth_bounds
  have hheight := cfg.frameHeight_bounds
  rw [queryV4lDevice, if_pos hready, if_neg (by simp [hd.pixelformat]), hd.width, hd.height,
    if_neg (by omega)]

/-- Both programs arrive at the same number of bytes. -/
theorem decoderInit_webcamYuvSize {w h : Nat} (hw : w ≤ 8192) (hh : h ≤ 8192) :
    (decoderInit w h).mWebcamYuvSize = (yuv420Size w h : Nat) := by
  have hprod : w * h ≤ 8192 * 8192 := Nat.mul_le_mul hw hh
  have hcast : ((w : Int) * h * 3) = ((w * h * 3 : Nat) : Int) := by
    rw [Int.natCast_mul, Int.natCast_mul]
    rfl
  simp only [decoderInit, hcast]
  rw [toUInt32_of_fits (by omega) (by omega), toInt32_of_fits (by omega) (by omega)]
  simp only [Loopback.yuv420Size]
  omega

/-! ### Agreement

Pages, offsets and the size the client writes, all from the two parameters of the
module. -/

/-- The geometry of the device in a state with an image. -/
structure Geometry (cfg : Config) (d : Device) : Prop where
  width : d.pixFormat.width = cfg.frameWidth ∧ 1 ≤ cfg.frameWidth ∧ cfg.frameWidth ≤ 8192
  height : d.pixFormat.height = cfg.frameHeight ∧ 1 ≤ cfg.frameHeight ∧ cfg.frameHeight ≤ 8192
  sizeimage : d.pixFormat.sizeimage = 3 * cfg.frameWidth * cfg.frameHeight / 2
  pages : PAGE_SIZE ∣ d.bufferSize ∧ d.pixFormat.sizeimage ≤ d.bufferSize ∧
    d.bufferSize < d.pixFormat.sizeimage + PAGE_SIZE
  exact : ∀ i ≤ MAX_BUFFERS, toInt32 (i * toInt32 d.bufferSize) = i * d.bufferSize
  offset : ∀ i < MAX_BUFFERS, (d.buffers i).offset = i * d.bufferSize
  timeoutOffset : d.timeoutImageBuffer.offset = MAX_BUFFERS * d.bufferSize
  distinct : (∀ i < MAX_BUFFERS, ∀ j < MAX_BUFFERS, i ≠ j →
      (d.buffers i).offset ≠ (d.buffers j).offset) ∧
    ∀ i < MAX_BUFFERS, (d.buffers i).offset ≠ d.timeoutImageBuffer.offset
  partition : ∀ x : Nat, x < d.imagesize ↔
    ∃! i, i < MAX_BUFFERS ∧ (d.buffers i).offset ≤ x ∧ (x : Int) < (d.buffers i).offset + d.bufferSize

theorem Framed.geometry {cfg : Config} {d : Device} (hd : Framed cfg d)
    (hnumber : d.ring.buffersNumber = MAX_BUFFERS) (hready : d.readyForCapture = true)
    (himage : d.image.isSome = true) : Geometry cfg d := by
  have hformat := hd.formatted hready
  have hlaid := hd.laidOut himage
  have hbounds := cfg.slotSize_bounds
  have hsize : d.bufferSize ≤ 100663296 := hformat.bufferSize ▸ hbounds.2.2
  have hpos : 0 < d.bufferSize := by
    rw [hformat.bufferSize]
    omega
  have hat := hlaid.slotsAt hnumber hsize
  refine ⟨⟨hformat.width, cfg.frameWidth_bounds⟩, ⟨hformat.height, cfg.frameHeight_bounds⟩,
    ?_, ?_, fun i hi => toInt32_offset hi hsize, hat.buffer, hat.timeout, ⟨?_, ?_⟩, ?_⟩
  · have himageSize : cfg.imageSize = cfg.frameWidth * cfg.frameHeight * 12 / 8 := rfl
    have hthree : 3 * cfg.frameWidth * cfg.frameHeight = cfg.frameWidth * cfg.frameHeight * 3 := by
      rw [Nat.mul_assoc, Nat.mul_comm]
    rw [hformat.sizeimage, himageSize, hthree]
    omega
  · have himageSize := cfg.imageSize_bounds
    have halign := pageAlign_bounds himageSize.1 himageSize.2
    rw [hformat.sizeimage, hformat.bufferSize]
    exact ⟨Nat.dvd_mul_left _ _, halign.1, halign.2.1⟩
  · intro i hi j hj hne heq
    rw [hat.buffer i hi, hat.buffer j hj] at heq
    apply hne
    have hmul : i * d.bufferSize = j * d.bufferSize := by exact_mod_cast heq
    exact Nat.eq_of_mul_eq_mul_right hpos hmul
  · intro i hi heq
    rw [hat.buffer i hi, hat.timeout] at heq
    have hmul : i * d.bufferSize = MAX_BUFFERS * d.bufferSize := by exact_mod_cast heq
    exact absurd (Nat.eq_of_mul_eq_mul_right hpos hmul) (Nat.ne_of_lt hi)
  · intro x
    have hblock : ∀ i, i < MAX_BUFFERS ∧ (d.buffers i).offset ≤ x ∧
        (x : Int) < (d.buffers i).offset + d.bufferSize ↔
          i < MAX_BUFFERS ∧ i * d.bufferSize ≤ x ∧ x < (i + 1) * d.bufferSize := by
      intro i
      apply and_congr_right
      intro hi
      rw [hat.buffer i hi, Nat.succ_mul]
      constructor
      · rintro ⟨hlo, hhi⟩
        exact ⟨by exact_mod_cast hlo, by exact_mod_cast hhi⟩
      · rintro ⟨hlo, hhi⟩
        exact ⟨by exact_mod_cast hlo, by exact_mod_cast hhi⟩
    simp only [hblock, hlaid.imagesize, hnumber, Nat.mul_comm d.bufferSize]
    exact existsUnique_block hpos

/-- **The driver and the client agree on the geometry** in every reachable state
    with an image. -/
theorem frame_geometry {cfg : Config} {s : Driver} {calls : List Call}
    (h : Run (Step cfg) (Driver.init cfg) calls s) (himage : s.dev.image.isSome = true) :
    Geometry cfg s.dev ∧ ∀ dec, decoderInitOf (queryV4lDevice s.dev) = some dec →
      dec.mWebcamYuvSize = s.dev.pixFormat.sizeimage ∧
        dec.mWebcamYuvSize ≤ s.dev.bufferSize := by
  obtain ⟨hs, hd⟩ := Framed.run h
  have hready : s.dev.readyForCapture = true := by
    cases hready : s.dev.readyForCapture with
    | true => rfl
    | false => simp [(hs.idle hready).1] at himage
  have hgeometry := hd.geometry (RingInv.run h).number hready himage
  have hformat := hd.formatted hready
  refine ⟨hgeometry, fun dec hdec => ?_⟩
  rw [hformat.query hready, decoderInitOf] at hdec
  split at hdec
  · cases hdec
  · cases hdec
    have hsize := decoderInit_webcamYuvSize cfg.frameWidth_bounds.2 cfg.frameHeight_bounds.2
    have hagree : (decoderInit cfg.frameWidth cfg.frameHeight).mWebcamYuvSize =
        (s.dev.pixFormat.sizeimage : Nat) := by
      rw [hsize, hformat.sizeimage]
      rfl
    refine ⟨hagree, ?_⟩
    rw [hagree]
    exact_mod_cast hgeometry.pages.2.1

/-- A device of 3 x 5 pixels: the image and the client's frame have 22 bytes. -/
theorem frame_geometry_odd :
    ∃ s dec, Run (Step ⟨3, 5, 100⟩) (Driver.init ⟨3, 5, 100⟩) [.openDevice 1 granting true] s ∧
      decoderInitOf (queryV4lDevice s.dev) = some dec ∧ s.dev.pixFormat.sizeimage = 22 ∧
      dec.mWebcamYuvSize = 22 ∧ Geometry ⟨3, 5, 100⟩ s.dev := by
  obtain ⟨s, hs, hvalues⟩ := Option.map_eq_some_iff.mp (by decide +kernel :
    (execute (next ⟨3, 5, 100⟩) (Driver.init ⟨3, 5, 100⟩) [.openDevice 1 granting true]).map
      (fun s => (s.dev.image.isSome, s.dev.pixFormat.sizeimage,
        (decoderInitOf (queryV4lDevice s.dev)).isSome)) = some (true, 22, true))
  simp only [Prod.mk.injEq] at hvalues
  obtain ⟨himage, hsize, haccepted⟩ := hvalues
  obtain ⟨dec, hdec⟩ := Option.isSome_iff_exists.mp haccepted
  have hrun := Run.of_execute hs
  obtain ⟨hgeometry, hclient⟩ := frame_geometry hrun himage
  refine ⟨s, dec, hrun, hdec, hsize, ?_, hgeometry⟩
  rw [(hclient dec hdec).1, hsize]
  rfl

end DroidCam.Loopback
