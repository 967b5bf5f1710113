import DroidCam.Loopback.Format
import DroidCam.Lib.ByteMemory
import DroidCam.Lib.Recency
import Mathlib.Logic.Function.Basic

/-
  DroidCam/Loopback/Device.lean
  =============================
  The state of the loopback device (`struct v4l2_loopback_device`), of one open
  file handle (`struct v4l2_loopback_opener`), and the functions of the driver
  that only change the device: buffer set-up, allocation, timers, and
  `buffer_written`.

  `image` and `timeout_image` are `none` for `NULL`; what `vmalloc` returns, and
  whether `vzalloc` succeeds, comes with the call.  Time stamps, the reference
  counts of mappings and the wait queue are left out.  A timer is pending or not,
  with the delay it was armed with.
-/

namespace DroidCam.Loopback

open CArith ByteMemory

/-! ### Data -/

/-- What stops a call: an access the C program has no defined result for. -/
inductive Fault where
  | divideByZero
  | remainderByZero
  | badIndex (i : Int)
  | listHead
  | unlinkedEntry
  | nullImage
  | nullTimeoutImage
deriving DecidableEq, Repr

inductive BufType where
  | videoCapture
  | videoOutput
  | other (code : Nat)
deriving DecidableEq, Repr

inductive MemoryType where
  | mmap
  | other (code : Nat)
deriving DecidableEq, Repr

/-- The bits of `flags` that the driver uses. -/
structure BufferFlags where
  mapped : Bool := false
  queued : Bool := false
  done : Bool := false
deriving DecidableEq, Repr

/-- `struct v4l2_buffer`. -/
structure V4l2Buffer where
  index : Nat := 0
  type : BufType := .other 0
  bytesused : Nat := 0
  flags : BufferFlags := {}
  field : Nat := 0
  sequence : Int := 0
  memory : MemoryType := .other 0
  offset : Int := 0
  length : Int := 0
deriving DecidableEq, Repr

structure Fract where
  numerator : Nat
  denominator : Nat
deriving DecidableEq, Repr

/-- The fields that order the buffers.  A linked entry of `outbufs_list` is given
    by its position in `buffers`. -/
structure Ring where
  buffersNumber : Nat
  usedBuffers : Nat
  outbufsList : List Nat
  bufpos2index : Nat → Nat

structure Device where
  pixFormat : V4l2PixFormat
  timeperframe : Fract
  frameJiffies : Nat
  keepFormat : Bool
  sustainFramerate : Bool
  image : Option (Memory UInt8)
  imagesize : Nat
  buffers : Nat → V4l2Buffer
  ring : Ring
  maxOpeners : Int
  writePosition : Int
  bufferSize : Nat
  sustainTimer : Option Nat
  rereadCount : Int
  timeoutJiffies : Nat
  timeoutImageIo : Bool
  timeoutImage : Option (Memory UInt8)
  timeoutImageBuffer : V4l2Buffer
  timeoutTimer : Option Nat
  timeoutHappened : Bool
  openCount : Int
  readyForCapture : Bool
  -- history: no function reads it
  framesWritten : Nat

inductive OpenerType where
  | unnegotiated
  | reader
  | writer
deriving DecidableEq, Repr

structure Opener where
  type : OpenerType := .unnegotiated
  enumFrameintervalsCalls : Nat := 0
  readPosition : Int := 0
  rereadCount : Int := 0
  buffersNumber : Nat := 0
  timeoutImageIo : Bool := false
deriving DecidableEq, Repr

/-- What the allocators answer during one call. -/
structure Allocation where
  vmalloc : Option (Memory UInt8)
  vzalloc : Bool

/-! ### Arrays, remainders and copies -/

/-- Address an array of `MAX_BUFFERS` elements. -/
def arrayIndex (i : Int) : Except Fault Nat :=
  if 0 ≤ i ∧ i < MAX_BUFFERS then .ok i.toNat else .error (.badIndex i)

/-- The array element that `x % used_buffers` names, in `int`. -/
def ringSlot (x : Int) (used : Nat) : Except Fault Nat :=
  if used = 0 then .error .remainderByZero else arrayIndex (x.tmod used)

/-- `u % used_buffers` for an unsigned `u`. -/
def unsignedSlot (u used : Nat) : Except Fault Nat :=
  if used = 0 then .error .remainderByZero else arrayIndex (u % used : Nat)

/-- Copy `n` bytes out of an allocation. -/
def load (mem : Option (Memory UInt8)) (null : Fault) (off : Int) (n : Nat) :
    Except Fault (List UInt8) :=
  match mem with
  | some m => .ok (read m off n)
  | none => if n = 0 then .ok [] else .error null

/-- Copy bytes into an allocation. -/
def store (mem : Option (Memory UInt8)) (null : Fault) (off : Int) (bs : List UInt8) :
    Except Fault (Option (Memory UInt8)) :=
  match mem with
  | some m => .ok (some (write m off bs))
  | none => if bs = [] then .ok none else .error null

/-- `list_move_tail` of an entry into `outbufs_list`. -/
def listMoveTail (l : List Nat) (entry : Nat) : Except Fault (List Nat) :=
  if entry ∈ l then .ok (Recency.moveToTail l entry) else .error .unlinkedEntry

/-! ### Queue helpers

Flags are set and cleared in pairs, and always on one buffer. -/

def setDone (b : V4l2Buffer) : V4l2Buffer :=
  { b with flags := { b.flags with queued := false, done := true } }

def setQueued (b : V4l2Buffer) : V4l2Buffer :=
  { b with flags := { b.flags with done := false, queued := true } }

def unsetFlags (b : V4l2Buffer) : V4l2Buffer :=
  { b with flags := { b.flags with queued := false, done := false } }

namespace Device

/-- Change one element of `dev->buffers`. -/
def updateBuffer (d : Device) (i : Nat) (f : V4l2Buffer → V4l2Buffer) : Device :=
  { d with buffers := Function.update d.buffers i (f (d.buffers i)) }

def setPixFormat (d : Device) (f : V4l2PixFormat) : Device := { d with pixFormat := f }

def setBufferSize (d : Device) (n : Nat) : Device := { d with bufferSize := n }

def setReady (d : Device) : Device := { d with readyForCapture := true }

/-- `v4l2_loopback_open` takes the request for the timeout image with it. -/
def countOpen (d : Device) : Device :=
  { d with openCount := d.openCount + 1, timeoutImageIo := false }

def countClose (d : Device) : Device := { d with openCount := d.openCount - 1 }

def setMaxOpeners (d : Device) (n : Int) : Device := { d with maxOpeners := n }

/-! ### Timers -/

def checkTimers (d : Device) : Device :=
  if d.readyForCapture then
    { d with
      timeoutTimer :=
        if 0 < d.timeoutJiffies ∧ d.timeoutTimer = none then some d.timeoutJiffies
        else d.timeoutTimer
      sustainTimer :=
        if d.sustainFramerate ∧ d.sustainTimer = none then some (d.frameJiffies * 3 / 2)
        else d.sustainTimer }
  else d

/-- `timer_delete_sync` of both timers. -/
def deleteTimers (d : Device) : Device := { d with sustainTimer := none, timeoutTimer := none }

/-- `sustain_timer_clb`; a timer that fires is no longer pending. -/
def sustainTimerClb (d : Device) : Device :=
  if d.sustainFramerate then
    let rereadCount := toUInt32 (d.rereadCount + 1)
    { d with
      rereadCount
      sustainTimer :=
        if rereadCount = 1 then some (max 1 (d.frameJiffies / 2)) else some d.frameJiffies }
  else { d with sustainTimer := none }

def timeoutTimerClb (d : Device) : Device :=
  if 0 < d.timeoutJiffies then
    { d with timeoutHappened := true, timeoutTimer := some d.timeoutJiffies }
  else { d with timeoutTimer := none }

def clearTimeout (d : Device) : Device := { d with timeoutHappened := false }

/-! ### Allocation

A failed `vmalloc` is reported, but its NULL stays in the field; an access to it is where
the model stops. -/

/-- The element `i` of `buffers` as `init_buffers` sets it. -/
def initialBuffer (d : Device) (i : Nat) : V4l2Buffer :=
  let bufferSize := toInt32 d.bufferSize
  { index := i
    bytesused := d.pixFormat.sizeimage
    length := toUInt32 bufferSize
    field := V4L2_FIELD_NONE
    flags := {}
    offset := toUInt32 (toInt32 (i * bufferSize))
    memory := .mmap
    sequence := 0
    type := .videoCapture }

def initBuffers (d : Device) : Device :=
  let buffers := fun i => if i < d.ring.buffersNumber then d.initialBuffer i else d.buffers i
  { d with
    buffers
    timeoutImageBuffer :=
      { buffers 0 with offset := toUInt32 (toInt32 (MAX_BUFFERS * toInt32 d.bufferSize)) } }

def allocateTimeoutImage (mem : Allocation) (d : Device) : Int × Device :=
  if d.bufferSize = 0 then (-EINVAL, d)
  else if d.timeoutImage.isNone then
    if mem.vzalloc then (0, { d with timeoutImage := some fun _ => 0 }) else (-ENOMEM, d)
  else (0, d)

def freeBuffers (d : Device) : Device :=
  { d with image := none, timeoutImage := none, imagesize := 0 }

def tryFreeBuffers (d : Device) : Device :=
  if d.openCount = 0 ∧ d.keepFormat = false then
    { d.freeBuffers with readyForCapture := false, bufferSize := 0, writePosition := 0 }
  else d

def vmallocImage (mem : Allocation) (d : Device) : Device :=
  { d with imagesize := d.bufferSize * d.ring.buffersNumber, image := mem.vmalloc }

/-- `allocate_buffers` from its `vmalloc` on. -/
def vmallocBuffers (mem : Allocation) (d : Device) : Int × Device :=
  let d := d.vmallocImage mem
  let d := if 0 < d.timeoutJiffies then (d.allocateTimeoutImage mem).2 else d
  if d.image.isNone then (-ENOMEM, d) else (0, d.initBuffers)

def allocateBuffers (mem : Allocation) (d : Device) : Int × Device :=
  if d.bufferSize = 0 then (-EINVAL, d)
  else if d.image.isSome then
    if d.bufferSize * d.ring.buffersNumber = d.imagesize then (0, d)
    else if d.openCount = 1 then d.freeBuffers.vmallocBuffers mem
    else (-EINVAL, d)
  else d.vmallocBuffers mem

/-! ### Frame interval -/

def setTimeperframe (cfg : Config) (d : Device) (tpf : Fract) : Except Fault Device :=
  if tpf.denominator = 0 then .error .divideByZero
  else .ok { d with
    timeperframe := tpf
    frameJiffies := max 1 (cfg.msecsToJiffies 1000 * tpf.numerator / tpf.denominator) }

/-! ### A frame is complete -/

/-- `buffer_written` when its position and the new order of the list are known. -/
def frameDone (d : Device) (buf pos : Nat) (list : List Nat) : Device :=
  checkTimers { d.deleteTimers with
    ring := { d.ring with
      bufpos2index := Function.update d.ring.bufpos2index pos (d.buffers buf).index
      outbufsList := list }
    writePosition := toInt32 (d.writePosition + 1)
    rereadCount := 0
    framesWritten := d.framesWritten + 1 }

def bufferWritten (d : Device) (buf : Nat) : Except Fault Device := do
  let pos ← ringSlot d.writePosition d.ring.usedBuffers
  let list ← listMoveTail d.ring.outbufsList buf
  .ok (d.frameDone buf pos list)

/-- The device `v4l2_loopback_init` leaves, on memory that `kzalloc` cleared. -/
def init (cfg : Config) : Device where
  pixFormat := ⟨0, 0, bgr32.fourcc, V4L2_FIELD_NONE, 0, 0, V4L2_COLORSPACE_SRGB⟩
  timeperframe := ⟨1, 30⟩
  frameJiffies := max 1 (cfg.msecsToJiffies 1000 * 1 / 30)
  keepFormat := false
  sustainFramerate := false
  image := none
  imagesize := 0
  buffers := fun _ => {}
  ring := ⟨MAX_BUFFERS, MAX_BUFFERS, List.range MAX_BUFFERS, fun _ => 0⟩
  maxOpeners := MAX_OPENERS
  writePosition := 0
  bufferSize := 0
  sustainTimer := none
  rereadCount := 0
  timeoutJiffies := 0
  timeoutImageIo := false
  timeoutImage := none
  timeoutImageBuffer := {}
  timeoutTimer := none
  timeoutHappened := false
  openCount := 0
  readyForCapture := false
  framesWritten := 0

end Device

end DroidCam.Loopback
