import DroidCam.StreamLayout

/-
  DroidCam/DecoderSession.lean
  ============================
  The video half of `decoder.c` as one caller sees it: `decoder_init`, then any
  sequence of `decoder_prepare_video`, the two flips, `decoder_cleanup` and
  `process_frame`.

  `VideoThreads` takes the same functions apart into the accesses that two
  threads interleave.  Here a call is one step, and what it leaves behind for the
  next is what matters: the transform, the cached subsampling, the scaler.

  turbojpeg, swscale and `malloc` answer in the label, except that the header of a
  frame is a function of its bytes (`tjDecompressHeader3`).  What the libraries
  write into a buffer may be anything.  Handles, `m_inBuf` and the queues are left
  out.  The only call of `decoder_show_test_image` is not compiled.
-/

namespace DroidCam.DecoderSession

open CArith ByteMemory LabelledRun JpgDecoder
open VideoThreads (JPG_BACKBUF_MAX TJSAMP_420)

/-! ### State -/

/-- A block that `malloc` gave. -/
structure Block where
  size : Int
  bytes : Memory UInt8

/-- The sizes a `struct SwsContext` was made for. -/
structure SwsContext where
  srcW : Int
  srcH : Int
  dstW : Int
  dstH : Int
deriving DecidableEq, Repr

/-- The buffer that a frame is written from. -/
inductive Source where
  | decodeBuf
  | webcamBuf
deriving DecidableEq, Repr

/-- One `write` of `decoder_share_frame`: the buffer, the scaler that has just filled
    it, and the sides of the decoded picture. -/
structure Written where
  source : Source
  context : Option SwsContext
  block : Option Block
  count : Int
  dWidth : Int
  dHeight : Int

structure DecoderState where
  webcamW : Nat
  webcamH : Nat
  droidcamDeviceFd : Int
  dec : JpgDecCtx
  decodeBuf : Option Block
  webcamBuf : Option Block
  swc : Option SwsContext
  -- history
  prepared : Bool
  hflips : Nat
  vflips : Nat
  /-- The frames given to `process_frame` in this session, and all those that got to
      `tjTransform` or `tjDecompressToYUVPlanes`. -/
  frames : List (List UInt8)
  reached : List (List UInt8)
  written : List Written

/-- The program after `decoder_init` with a device of this size. -/
def DecoderState.init (webcamW webcamH : Nat) (fd : Int) (dec : JpgDecCtx) : DecoderState where
  webcamW := webcamW
  webcamH := webcamH
  droidcamDeviceFd := fd
  dec := dec
  decodeBuf := none
  webcamBuf := none
  swc := none
  prepared := false
  hflips := 0
  vflips := 0
  frames := []
  reached := []
  written := []

/-! ### Calls

The libraries answer with what they made and whether they made it; the decoder goes on
from there in the order of the source. -/

/-- What the libraries answer during `decoder_prepare_video`; a block of memory is
    given by what is in it. -/
structure PrepareAnswers where
  tj : Bool
  tjXform : Bool
  decodeBuf : Option (Memory UInt8)
  webcamBuf : Option (Memory UInt8)
  sws : Bool

/-- What they answer during `process_frame`: whether a call succeeds, and what is in
    the buffer afterwards. -/
structure FrameAnswers where
  tjTransform : Bool
  tjDecompress : Bool
  planes : Memory UInt8
  scaled : Memory UInt8

inductive DecoderCall where
  | prepareVideo (header : List UInt8) (lib : PrepareAnswers)
  | horizontalFlip
  | verticalFlip
  | cleanup
  | processFrame (p : List UInt8) (lib : FrameAnswers)

/-- `malloc`, with the limit on its size. -/
def malloc (bytes : Int) (mem : Option (Memory UInt8)) : Option Block :=
  if mallocSucceeds bytes true then mem.map fun m => ⟨bytes, m⟩ else none

/-- What `decoder_prepare_video` does to the scaler; without a call the old one stays. -/
def DecoderState.prepareScaler (s : DecoderState) (lib : PrepareAnswers) (v : VideoBuffers) :
    DecoderState :=
  match v.scaler with
  | none => s
  | some scaler =>
    { s with
      webcamBuf := malloc scaler.webcamBufBytes lib.webcamBuf
      swc :=
        if lib.sws then
          some ⟨v.dec.dWidth, v.dec.dHeight, toInt32 s.webcamW, toInt32 s.webcamH⟩
        else none }

/-- `decoder_prepare_video`; a refused header has already set the sides. -/
def DecoderState.prepareVideo (s : DecoderState) (header : List UInt8) (lib : PrepareAnswers) :
    DecoderState :=
  match decoderPrepareVideo JPG_BACKBUF_MAX s.webcamW s.webcamH s.droidcamDeviceFd lib.tj
      lib.tjXform s.dec header with
  | .error _ =>
    { s with
      dec := { s.dec with mWidth := headerWidth header, mHeight := headerHeight header }
      prepared := false }
  | .ok v =>
    { s.prepareScaler lib v with
      dec := v.dec
      decodeBuf := malloc v.decodeBufBytes lib.decodeBuf
      prepared := true
      frames := [] }

def DecoderState.cleanup (s : DecoderState) : DecoderState :=
  { s with decodeBuf := none, webcamBuf := none, swc := none, prepared := false }

def DecoderState.setTransform (s : DecoderState) (op : TjxOp) : DecoderState :=
  { s with dec := { s.dec with transformOp := op } }

/-! ### `process_frame` -/

/-- A header that `tjDecompressHeader3` could read. -/
structure Header where
  width : Int
  height : Int
  subsamp : Int
deriving DecidableEq, Repr

/-- The device `write` and its buffer; the result only makes a message. -/
def DecoderState.writeDevice (s : DecoderState) (source : Source) (block : Option Block) :
    DecoderState :=
  { s with written := s.written ++
      [⟨source, s.swc, block, toSize s.dec.mWebcamYuvSize, s.dec.dWidth, s.dec.dHeight⟩] }

def decoderShareFrame (s : DecoderState) (lib : FrameAnswers) : DecoderState :=
  if s.swc.isSome then
    let s := { s with webcamBuf := s.webcamBuf.map fun b : Block => { b with bytes := lib.scaled } }
    s.writeDevice .webcamBuf s.webcamBuf
  else s.writeDevice .decodeBuf s.decodeBuf

/-- `process_frame` from `tjTransform` on.  turbojpeg refuses planes at `NULL`, and
    what it wrote before an error stays. -/
def decodeFrame (s : DecoderState) (lib : FrameAnswers) : DecoderState :=
  if s.dec.transformOp ≠ .none ∧ lib.tjTransform = false then s
  else
    match s.decodeBuf with
    | none => s
    | some b =>
      let s := { s with decodeBuf := some { b with bytes := lib.planes } }
      if lib.tjDecompress then decoderShareFrame s lib else s

section ProcessFrame

variable (tjDecompressHeader3 : List UInt8 → Option Header)

/-- The frame is of the size that the stream was announced with, in 4:2:0. -/
def Announced (dec : JpgDecCtx) (p : List UInt8) : Prop :=
  tjDecompressHeader3 p = some ⟨dec.mWidth, dec.mHeight, TJSAMP_420⟩

instance (dec : JpgDecCtx) (p : List UInt8) : Decidable (Announced tjDecompressHeader3 dec p) :=
  inferInstanceAs (Decidable (_ = _))

/-- The check of the header, which is made until one frame has passed it; `none` is a
    frame that is dropped. -/
def checkHeader (dec : JpgDecCtx) (p : List UInt8) : Option JpgDecCtx :=
  if dec.subsamp = 0 then
    match tjDecompressHeader3 p with
    | none => none
    | some ⟨width, height, subsamp⟩ =>
      if subsamp ≠ TJSAMP_420 then none
      else if width ≠ dec.mWidth ∨ height ≠ dec.mHeight then none
      else some { dec with subsamp }
  else some dec

def processFrame (s : DecoderState) (p : List UInt8) (lib : FrameAnswers) : DecoderState :=
  let s := { s with frames := s.frames ++ [p] }
  match checkHeader tjDecompressHeader3 s.dec p with
  | none => s
  | some dec => decodeFrame { s with dec, reached := s.reached ++ [p] } lib

/-- `process_frame` gets to `decoder_share_frame`. -/
def sharesFrame (s : DecoderState) (p : List UInt8) (lib : FrameAnswers) : Bool :=
  (checkHeader tjDecompressHeader3 s.dec p).isSome &&
    (decide (s.dec.transformOp = .none) || lib.tjTransform) && s.decodeBuf.isSome && lib.tjDecompress

/-- One call.  The decode thread has frames only of a stream that was prepared. -/
def next (s : DecoderState) : DecoderCall → Option DecoderState
  | .prepareVideo header lib => some (s.prepareVideo header lib)
  | .horizontalFlip =>
    some { s.setTransform (decoderHorizontalFlip s.dec.transformOp) with hflips := s.hflips + 1 }
  | .verticalFlip =>
    some { s.setTransform (decoderVerticalFlip s.dec.transformOp) with vflips := s.vflips + 1 }
  | .cleanup => some s.cleanup
  | .processFrame p lib =>
    if s.prepared then some (processFrame tjDecompressHeader3 s p lib) else none

abbrev Step : DecoderState → DecoderCall → DecoderState → Prop :=
  ofNext (next tjDecompressHeader3)

end ProcessFrame

/-! ### What a frame does

Whether a frame is shared is decided by its header and the answers, before anything is
written. -/

/-- What a frame leaves alone. -/
structure SameSession (s t : DecoderState) : Prop where
  webcam : t.webcamW = s.webcamW ∧ t.webcamH = s.webcamH
  dec : t.dec = { s.dec with subsamp := t.dec.subsamp }
  prepared : t.prepared = s.prepared
  flips : t.hflips = s.hflips ∧ t.vflips = s.vflips
  swc : t.swc = s.swc
  decodeBuf : t.decodeBuf.map Block.size = s.decodeBuf.map Block.size
  webcamBuf : t.webcamBuf.map Block.size = s.webcamBuf.map Block.size

theorem SameSession.sizes {s t : DecoderState} (h : SameSession s t) :
    t.dec.mWebcamYuvSize = s.dec.mWebcamYuvSize ∧ t.dec.mYuv420Size = s.dec.mYuv420Size :=
  ⟨by rw [h.dec], by rw [h.dec]⟩

theorem SameSession.sides {s t : DecoderState} (h : SameSession s t) :
    t.dec.dWidth = s.dec.dWidth ∧ t.dec.dHeight = s.dec.dHeight :=
  ⟨by rw [h.dec], by rw [h.dec]⟩

theorem SameSession.trans {s t u : DecoderState} (h : SameSession s t) (h' : SameSession t u) :
    SameSession s u where
  webcam := ⟨h'.webcam.1.trans h.webcam.1, h'.webcam.2.trans h.webcam.2⟩
  dec := by
    have hdec := h'.dec
    rw [h.dec] at hdec
    exact hdec
  prepared := h'.prepared.trans h.prepared
  flips := ⟨h'.flips.1.trans h.flips.1, h'.flips.2.trans h.flips.2⟩
  swc := h'.swc.trans h.swc
  decodeBuf := h'.decodeBuf.trans h.decodeBuf
  webcamBuf := h'.webcamBuf.trans h.webcamBuf

theorem checkHeader_eq_some {tjHeader : List UInt8 → Option Header} {dec dec' : JpgDecCtx}
    {p : List UInt8} (h : checkHeader tjHeader dec p = some dec') :
    dec' = { dec with subsamp := dec'.subsamp } := by
  unfold checkHeader at h
  split at h
  · split at h
    · cases h
    · split_ifs at h
      cases h
      rfl
  · cases h
    rfl

theorem decoderShareFrame_same (s : DecoderState) (lib : FrameAnswers) :
    SameSession s (decoderShareFrame s lib) := by
  unfold decoderShareFrame
  split
  · exact ⟨⟨rfl, rfl⟩, rfl, rfl, ⟨rfl, rfl⟩, rfl, rfl, Option.map_map ..⟩
  · exact ⟨⟨rfl, rfl⟩, rfl, rfl, ⟨rfl, rfl⟩, rfl, rfl, rfl⟩

/-- `process_frame` shares the frame, or nothing is written. -/
inductive FrameMove (tjHeader : List UInt8 → Option Header) (s : DecoderState) (p : List UInt8)
    (lib : FrameAnswers) (t : DecoderState) : Prop
  | kept (hshares : sharesFrame tjHeader s p lib = false) (hsame : SameSession s t)
      (hwritten : t.written = s.written)
  | shared (u : DecoderState) (hshares : sharesFrame tjHeader s p lib = true)
      (hsame : SameSession s u) (hwritten : u.written = s.written)
      (hbuf : u.decodeBuf.isSome = true) (ht : t = decoderShareFrame u lib)

theorem processFrame_move (tjHeader : List UInt8 → Option Header) (s : DecoderState)
    (p : List UInt8) (lib : FrameAnswers) :
    FrameMove tjHeader s p lib (processFrame tjHeader s p lib) := by
  simp only [processFrame]
  split
  -- the header is not that of the stream
  · rename_i hcheck
    refine .kept ?_ ⟨⟨rfl, rfl⟩, rfl, rfl, ⟨rfl, rfl⟩, rfl, rfl, rfl⟩ rfl
    simp [sharesFrame, hcheck]
  · rename_i dec hcheck
    have hdec := checkHeader_eq_some hcheck
    generalize dec.subsamp = subsamp at hdec
    subst hdec
    unfold decodeFrame
    split
    -- tjTransform failed, and it was called
    · rename_i htransform
      refine .kept ?_ ⟨⟨rfl, rfl⟩, rfl, rfl, ⟨rfl, rfl⟩, rfl, rfl, rfl⟩ rfl
      simp only at htransform
      simp [sharesFrame, htransform]
    · rename_i htransform
      have htransformed : (decide (s.dec.transformOp = .none) || lib.tjTransform) = true := by
        simp only [not_and_or, not_not] at htransform
        rcases htransform with hop | hok
        · simp [hop]
        · simp [hok]
      simp only
      split
      -- there is no buffer to decode into
      · rename_i hbuf
        refine .kept ?_ ⟨⟨rfl, rfl⟩, rfl, rfl, ⟨rfl, rfl⟩, rfl, rfl, rfl⟩ rfl
        simp [sharesFrame, hbuf]
      · rename_i b hbuf
        have hsize : (some { b with bytes := lib.planes }).map Block.size =
            s.decodeBuf.map Block.size := by
          rw [hbuf]
          rfl
        -- tjDecompressToYUVPlanes fills the buffer also where it fails later
        split
        · rename_i hok
          refine .shared _ ?_ ?_ ?_ ?_ rfl
          · simp [sharesFrame, hcheck, htransformed, hbuf, hok]
          · exact ⟨⟨rfl, rfl⟩, rfl, rfl, ⟨rfl, rfl⟩, rfl, hsize, rfl⟩
          · rfl
          · rfl
        · rename_i hfailed
          refine .kept ?_ ⟨⟨rfl, rfl⟩, rfl, rfl, ⟨rfl, rfl⟩, rfl, hsize, rfl⟩ rfl
          simp [sharesFrame, hfailed]

theorem processFrame_same (tjHeader : List UInt8 → Option Header) (s : DecoderState)
    (p : List UInt8) (lib : FrameAnswers) :
    SameSession s (processFrame tjHeader s p lib) := by
  cases processFrame_move tjHeader s p lib with
  | kept _ hsame => exact hsame
  | shared u _ hsame _ _ ht =>
      rw [ht]
      exact hsame.trans (decoderShareFrame_same u lib)

/-! ### A session without failures -/

/-- Answers of libraries that never fail. -/
def preparing : PrepareAnswers := ⟨true, true, some fun _ => 0, some fun _ => 0, true⟩

def decoding : FrameAnswers := ⟨true, true, fun _ => 128, fun _ => 128⟩

/-- All frames are pictures of one size in 4:2:0. -/
def headersOf (width height : Int) (_ : List UInt8) : Option Header :=
  some ⟨width, height, TJSAMP_420⟩

end DroidCam.DecoderSession
