import DroidCam.JpgDecoder
import DroidCam.Queue
import DroidCam.Lib.ByteMemory
import DroidCam.Lib.LabelledRun
import Mathlib.Data.List.FinRange

/-
  DroidCam/VideoThreads.lean
  ==========================
  The video pipeline of the client: `VideoThreadProc` receives JPEG frames from
  the phone into the descriptors `jpg_frames`, `DecodeThreadProc` decodes them,
  and the two exchange the descriptors through `receive_queue` and
  `decode_queue` without any other synchronisation.  The GUI starts and stops
  both (`Start`, `Stop` of `droidcam.c`).

  Each thread is a program counter with the locals that live across a step; a
  step is one access to shared state (a queue call, an unlocked read of a queue's
  `size`, the release of one object, a `recv`, a call into the decoder).  A label
  says which thread moves and what the environment answers, so `next` is a
  function and every interleaving is a list of labels.

  `numFrames` stands for `JPG_BACKBUF_MAX`, which is 3 in `decoder.c`.

  Fields below the line `history` are not in the program: they record what
  happened, and no step reads them.
-/

namespace DroidCam.VideoThreads

open CArith ByteMemory LabelledRun
open DroidCam.JpgDecoder DroidCam.Queue

/-! ### Descriptors and decoder objects -/

abbrev JPG_BACKBUF_MAX : Nat := 3

/-- `struct JPGFrame`; `data` is relative to `m_inBuf`. -/
structure JPGFrame where
  data : Int
  length : Nat
deriving DecidableEq, Repr

/-- The pointers of `struct jpg_dec_ctx_s` that `decoder_cleanup` releases. -/
inductive Resource where
  | inBuf
  | decodeBuf
  | webcamBuf
  | swc
  | tjXform
  | tj
deriving DecidableEq, Repr

inductive CleanupStep where
  | free (r : Resource)
  | clearReceive
  | clearDecode
deriving DecidableEq, Repr

/-- `decoder_cleanup`, statement by statement. -/
def decoderCleanup : List CleanupStep :=
  [.free .inBuf, .free .decodeBuf, .free .webcamBuf, .free .swc, .free .tjXform, .free .tj,
    .clearReceive, .clearDecode]

/-! ### Program counters -/

variable {numFrames : Nat}

/-- Where `VideoThreadProc` stands.  The frame of `earlyOut` is the one the loop
    was left with; it is never used again. -/
inductive VideoPc (numFrames : Nat) where
  | serverWait
  | request
  | header
  | prepareHeader
  | prepareTj
  | prepareTjXform
  | prepareInBuf
  | prepareDecodeBuf
  | prepareWebcamBuf
  | prepareSwc
  | prepareFrames (todo : List (Fin numFrames))
  | loop
  | command
  | pull
  | length (f : Option (Fin numFrames))
  | payload (f : Fin numFrames)
  | push (f : Fin numFrames)
  | pushLimit (f : Fin numFrames)
  | pushReceive (f : Fin numFrames)
  | pushDecode (f : Fin numFrames)
  | earlyOut (f : Option (Fin numFrames))
  | cleanup (todo : List CleanupStep)
  | ended
  | crash
deriving DecidableEq, Repr

/-- The points of `process_frame` between two accesses to shared state. -/
inductive ProcessPoint where
  | header
  | transform
  | decompress
  | scale
  | write
deriving DecidableEq, Repr

/-- Where `DecodeThreadProc` stands. -/
inductive DecodePc (numFrames : Nat) where
  | loop
  | pull
  | process (f : Fin numFrames) (point : ProcessPoint)
  | push (f : Fin numFrames)
  | ended
deriving DecidableEq, Repr

/-- The frame in the video thread's hands. -/
def VideoPc.held : VideoPc numFrames → Option (Fin numFrames)
  | .length f => f
  | .payload f | .push f | .pushLimit f | .pushReceive f | .pushDecode f => some f
  | .earlyOut f => f
  | _ => none

/-- The frame in the decode thread's hands. -/
def DecodePc.held : DecodePc numFrames → Option (Fin numFrames)
  | .process f _ => some f
  | .push f => some f
  | _ => none

/-- The video thread is in its streaming loop. -/
def VideoPc.streaming : VideoPc numFrames → Bool
  | .loop | .command | .pull | .length _ | .payload _ => true
  | .push _ | .pushLimit _ | .pushReceive _ | .pushDecode _ => true
  | _ => false

/-! ### State -/

structure VideoState (numFrames : Nat) where
  vRunning : Bool
  droidcamDeviceFd : Int
  decoder : JpgDecCtx
  /-- The session whose allocation a pointer holds, `none` for `NULL`. -/
  resources : Resource → Option Nat
  /-- The size of the block `m_inBuf` points to. -/
  inBufSize : Int
  inBuf : Memory UInt8
  frames : Fin numFrames → JPGFrame
  receiveQueue : List (Fin numFrames)
  decodeQueue : List (Fin numFrames)
  vpc : VideoPc numFrames
  connected : Bool
  keepWaiting : Bool
  buf : List UInt8
  /-- What the peer has sent and `recv` has not returned yet. -/
  stream : List UInt8
  dpc : DecodePc numFrames
  /-- The locals `p` and `len` of `process_frame`. -/
  dframe : JPGFrame
  -- history
  session : Nat
  scaling : Bool
  frameSession : Fin numFrames → Nat
  received : List (List UInt8)
  pushed : List (List UInt8)
  seen : List (List UInt8)
  /-- The reads taken as complete: bytes requested and bytes delivered. -/
  taken : List (Int × Nat)

/-- The bytes a descriptor stands for. -/
def VideoState.payload (s : VideoState numFrames) (f : Fin numFrames) : List UInt8 :=
  read s.inBuf (s.frames f).data (s.frames f).length

/-- The program before the first `Start`. -/
def VideoState.init (numFrames : Nat) (fd : Int) (dec : JpgDecCtx) : VideoState numFrames where
  vRunning := false
  droidcamDeviceFd := fd
  decoder := dec
  resources := fun _ => none
  inBufSize := 0
  inBuf := fun _ => 0
  frames := fun _ => ⟨0, 0⟩
  receiveQueue := []
  decodeQueue := []
  vpc := .ended
  connected := false
  keepWaiting := false
  buf := List.replicate 32 0
  stream := []
  dpc := .ended
  dframe := ⟨0, 0⟩
  session := 0
  scaling := false
  frameSession := fun _ => 0
  received := []
  pushed := []
  seen := []
  taken := []

/-! ### System calls -/

/-- `RecvAll`: `recv` with `MSG_WAITALL`.  `bytes` is converted to `size_t`; the
    result `ret` is 0, -1, or a count up to the requested one.  The bytes
    delivered, or `none` when the call cannot give this result. -/
def recvAll (stream : List UInt8) (bytes ret : Int) : Option (List UInt8) :=
  if ret ≤ 0 then
    if ret = 0 ∨ ret = -1 then some [] else none
  else
    if ret ≤ toSize bytes ∧ ret ≤ stream.length then some (stream.take ret.toNat) else none

/-- A `recv` overwrites the front of the buffer it is given. -/
def overwrite (buf bs : List UInt8) : List UInt8 := bs ++ buf.drop bs.length

/-- `le32toh(*(uint32_t*) buf)`. -/
def le32 (buf : List UInt8) : Nat :=
  (buf.getD 0 0).toNat + 256 * (buf.getD 1 0).toNat + 65536 * (buf.getD 2 0).toNat
    + 16777216 * (buf.getD 3 0).toNat

def CB_CONTROL_WB : Nat := 3

/-- `OTHER_REQ` and `OTHER_REQ_STR`. -/
def otherReq (threadCmd : Nat) (val : String) : String :=
  if threadCmd = CB_CONTROL_WB then
    "CMD /v1/ctl?" ++ toString threadCmd ++ "=" ++ val
  else
    "CMD /v1/ctl?" ++ toString threadCmd

/-- `snprintf(buf, sizeof(buf), ...)` into the 32 bytes of `buf`. -/
def snprintfBuf (buf : List UInt8) (text : String) : List UInt8 :=
  overwrite buf (text.toUTF8.toList.take 31 ++ [0])

/-! ### Labels

A label is what the world answers at a step: the result of a system call or of the
library, and go where nothing is asked. -/

inductive VideoAct where
  | go
  | accept (conn : Option (List UInt8))
  | send (ok : Bool)
  | recv (ret : Int)
  | alloc (ok : Bool)
  | control (threadCmd : Nat) (val : String)
deriving DecidableEq, Repr

inductive DecodeAct where
  | go
  | tjHeader (header : Option (Int × Int × Int))
  | tjTransform (ok : Bool) (out : List UInt8)
  | tjDecompress (ok : Bool)
deriving DecidableEq, Repr

inductive Act where
  | video (a : VideoAct)
  | decode (a : DecodeAct)
  | stop
  | start (conn : Option (List UInt8))
  | hflip
  | vflip
deriving DecidableEq, Repr

/-! ### `VideoThreadProc` -/

/-- Keep the pointer an allocation returned. -/
def VideoState.allocate (s : VideoState numFrames) (r : Resource) (ok : Bool) :
    VideoState numFrames :=
  { s with resources := Function.update s.resources r (if ok then some s.session else none) }

def VideoState.cleanupStep (s : VideoState numFrames) : CleanupStep → VideoState numFrames
  | .free r => { s with resources := Function.update s.resources r none }
  | .clearReceive => { s with receiveQueue := queueClear }
  | .clearDecode => { s with decodeQueue := queueClear }

def TJSAMP_420 : Int := 2

def videoStep (s : VideoState numFrames) (a : VideoAct) : Option (VideoState numFrames) :=
  match s.vpc, a with
  -- server_wait
  | .serverWait, .go => if s.connected then some { s with vpc := .request } else none
  | .serverWait, .accept conn =>
      if s.connected then none
      else match conn with
        | none => some { s with vpc := .earlyOut none }
        | some stream =>
            some { s with connected := true, keepWaiting := true, stream := stream,
                          received := [], pushed := [], seen := [], taken := [],
                          vpc := .request }
  -- Send(VIDEO_REQ)
  | .request, .send ok => some { s with vpc := if ok then .header else .earlyOut none }
  -- memset(buf, 0); RecvAll(buf, 9)
  | .header, .recv ret =>
      (recvAll s.stream 9 ret).map fun bs =>
        { s with stream := s.stream.drop bs.length
                 buf := overwrite (List.replicate 32 0) bs
                 taken := if ret ≤ 0 then s.taken else s.taken ++ [(9, bs.length)]
                 vpc := if ret ≤ 0 then .earlyOut none else .prepareHeader }
  -- decoder_prepare_video
  | .prepareHeader, .go =>
      let w := be16 (s.buf.getD 0 0) (s.buf.getD 1 0)
      let h := be16 (s.buf.getD 2 0) (s.buf.getD 3 0)
      some { s with decoder := { s.decoder with mWidth := w, mHeight := h }
                    session := s.session + 1
                    vpc := if s.droidcamDeviceFd ≤ 0 ∨ w ≤ 0 ∨ h ≤ 0 then .earlyOut none
                           else .prepareTj }
  | .prepareTj, .alloc ok =>
      some { s.allocate .tj ok with vpc := if ok then .prepareTjXform else .earlyOut none }
  | .prepareTjXform, .alloc ok =>
      some { s.allocate .tjXform ok with
        decoder := if ok then setStreamSizes s.decoder else s.decoder
        vpc := if ok then .prepareInBuf else .earlyOut none }
  | .prepareInBuf, .alloc ok =>
      let bytes := inBufBytes numFrames s.decoder.mYuv420Size
      some { s.allocate .inBuf (mallocSucceeds bytes ok) with
        inBufSize := bytes, vpc := .prepareDecodeBuf }
  | .prepareDecodeBuf, .alloc ok =>
      some { s.allocate .decodeBuf (mallocSucceeds (toSize s.decoder.mYuv420Size) ok) with
        scaling := false
        vpc := if s.decoder.mWebcamYuvSize ≠ s.decoder.mYuv420Size then .prepareWebcamBuf
               else .prepareFrames (List.finRange numFrames) }
  | .prepareWebcamBuf, .alloc ok =>
      some { s.allocate .webcamBuf (mallocSucceeds (toSize s.decoder.mWebcamYuvSize) ok) with
        vpc := .prepareSwc }
  | .prepareSwc, .alloc ok =>
      some { s.allocate .swc ok with
        scaling := ok, vpc := .prepareFrames (List.finRange numFrames) }
  | .prepareFrames [], .go => some { s with vpc := .loop }
  | .prepareFrames (i :: todo), .go =>
      some { s with
        frames := Function.update s.frames i ⟨frameData s.decoder.mYuv420Size i, 0⟩
        receiveQueue := queueAdd s.receiveQueue i
        vpc := .prepareFrames todo }
  -- while (v_running != 0)
  | .loop, .go => some { s with vpc := if s.vRunning then .command else .earlyOut none }
  -- if (thread_cmd != 0)
  | .command, .go => some { s with vpc := .pull }
  | .command, .control threadCmd val =>
      some { s with buf := snprintfBuf s.buf (otherReq threadCmd val), vpc := .pull }
  -- f = pull_empty_jpg_frame()
  | .pull, .go =>
      let (f, rest) := queueNext s.receiveQueue 0
      some { s with receiveQueue := rest, vpc := .length f }
  -- RecvAll(buf, 4); f->length = le32toh(...)
  | .length f, .recv ret =>
      (recvAll s.stream 4 ret).map fun bs =>
        let s' := { s with stream := s.stream.drop bs.length, buf := overwrite s.buf bs }
        if ret ≤ 0 then { s' with vpc := .earlyOut f }
        else
          let s' := { s' with taken := s.taken ++ [(4, bs.length)] }
          match f with
          | none => { s' with vpc := .crash }
          | some f =>
              { s' with
                frames := Function.update s.frames f ⟨(s.frames f).data, le32 (overwrite s.buf bs)⟩
                vpc := .payload f }
  -- RecvAll(f->data, f->length): the unsigned length becomes an int
  | .payload f, .recv ret =>
      (recvAll s.stream (toInt32 (s.frames f).length) ret).map fun bs =>
        let s' := { s with stream := s.stream.drop bs.length
                           inBuf := write s.inBuf (s.frames f).data bs }
        if ret ≤ 0 then { s' with vpc := .earlyOut (some f) }
        else
          { s' with frameSession := Function.update s.frameSession f s.session
                    received := s.received ++ [bs]
                    taken := s.taken ++ [(((s.frames f).length : Int), bs.length)]
                    vpc := .push f }
  -- push_jpg_frame(f, false): two unlocked reads, then queue_add
  | .push f, .go =>
      some { s with pushed := s.pushed ++ [s.payload f]
                    vpc := if s.receiveQueue.length = 0 then .pushReceive f else .pushLimit f }
  | .pushLimit f, .go =>
      some { s with vpc := if s.decodeQueue.length > s.decoder.mBufferLimit then .pushReceive f
                           else .pushDecode f }
  | .pushReceive f, .go =>
      some { s with receiveQueue := queueAdd s.receiveQueue f, vpc := .loop }
  | .pushDecode f, .go =>
      some { s with decodeQueue := queueAdd s.decodeQueue f, vpc := .loop }
  -- v_active = 0; disconnect(videoSocket)
  | .earlyOut _, .go => some { s with connected := false, vpc := .cleanup decoderCleanup }
  | .cleanup (c :: todo), .go => some { s.cleanupStep c with vpc := .cleanup todo }
  | .cleanup [], .go =>
      some { s with vpc := if s.vRunning && s.keepWaiting then .serverWait else .ended }
  | _, _ => none

/-! ### `DecodeThreadProc` -/

def decodeStep (s : VideoState numFrames) (a : DecodeAct) : Option (VideoState numFrames) :=
  match s.dpc, a with
  | .loop, .go => some { s with dpc := if s.vRunning then .pull else .ended }
  -- pull_ready_jpg_frame()
  | .pull, .go =>
      match queueNext s.decodeQueue s.decoder.mBufferLimit with
      | (none, _) => some { s with dpc := .loop }
      | (some f, rest) => some { s with decodeQueue := rest, dpc := .process f .header }
  -- process_frame: the header is only decoded until one frame passed the checks
  | .process f .header, .go =>
      if s.decoder.subsamp = 0 then none
      else
        some { s with dframe := s.frames f, seen := s.seen ++ [s.payload f]
                      dpc := .process f .transform }
  | .process f .header, .tjHeader header =>
      if s.decoder.subsamp ≠ 0 then none
      else
        let s' := { s with dframe := s.frames f, seen := s.seen ++ [s.payload f] }
        match header with
        | none => some { s' with dpc := .push f }
        | some (width, height, subsamp) =>
            if subsamp ≠ TJSAMP_420 ∨ width ≠ s.decoder.mWidth ∨ height ≠ s.decoder.mHeight then
              some { s' with dpc := .push f }
            else
              some { s' with decoder := { s.decoder with subsamp := subsamp }
                             dpc := .process f .transform }
  -- tjTransform is handed the frame's own buffer as destination
  | .process f .transform, .go =>
      if s.decoder.transformOp = .none then some { s with dpc := .process f .decompress } else none
  | .process f .transform, .tjTransform ok out =>
      if s.decoder.transformOp ≠ .none ∧ out.length ≤ s.dframe.length then
        some { s with inBuf := write s.inBuf s.dframe.data out
                      dpc := if ok then .process f .decompress else .push f }
      else none
  | .process f .decompress, .tjDecompress ok =>
      some { s with dpc := if ok then .process f .scale else .push f }
  -- decoder_share_frame
  | .process f .scale, .go => some { s with dpc := .process f .write }
  | .process f .write, .go => some { s with dpc := .push f }
  -- push_jpg_frame(f, true)
  | .push f, .go => some { s with receiveQueue := queueAdd s.receiveQueue f, dpc := .loop }
  | _, _ => none

/-! ### The whole client -/

/-- One step of the client.  `Stop` clears `v_running` and joins both threads;
    `Start` can only be reached again when both joins returned. -/
def next (s : VideoState numFrames) : Act → Option (VideoState numFrames)
  | .video a => videoStep s a
  | .decode a => decodeStep s a
  | .stop => some { s with vRunning := false }
  | .start conn =>
      if s.vpc = .ended ∧ s.dpc = .ended ∧ s.vRunning = false then
        some { s with vRunning := true, keepWaiting := false,
                      connected := conn.isSome, stream := conn.getD [],
                      received := [], pushed := [], seen := [], taken := [],
                      vpc := .serverWait, dpc := .loop }
      else none
  | .hflip =>
      some { s with decoder := { s.decoder with
        transformOp := decoderHorizontalFlip s.decoder.transformOp } }
  | .vflip =>
      some { s with decoder := { s.decoder with
        transformOp := decoderVerticalFlip s.decoder.transformOp } }

abbrev Step : VideoState numFrames → Act → VideoState numFrames → Prop := ofNext next

/-! ### A session with 4x4 pictures -/

/-- `Start` with a connected socket, then the video thread up to its loop; all
    calls succeed, and the stream is not of the size of the device. -/
def startSession (stream : List UInt8) : List Act :=
  [.start (some stream), .video .go, .video (.send true), .video (.recv 9), .video .go]
    ++ List.replicate 6 (.video (.alloc true)) ++ List.replicate 4 (.video .go)

/-- One turn of the loop up to the `recv` of the payload. -/
def receiveLength : List Act := List.replicate 3 (.video .go) ++ [.video (.recv 4)]

/-- The header of a 4x4 stream, whose slots are 24 bytes, and a frame of `n` bytes. -/
def streamOf4x4 (n : UInt8) : List UInt8 :=
  [0, 4, 0, 4, 0, 0, 0, 0, 0] ++ [n, 0, 0, 0] ++ List.replicate n.toNat 255

def pipelineInit : VideoState JPG_BACKBUF_MAX :=
  VideoState.init JPG_BACKBUF_MAX 1 (decoderInit 320 240)

end DroidCam.VideoThreads
