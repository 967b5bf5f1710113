import DroidCam.Loopback.Device

/-
  DroidCam/Loopback/Operations.lean
  =================================
  The file operations and ioctls of the driver on one open handle.

  Each of them gets the device, the opener of its handle and its arguments, and
  gives the reply to user space with both afterwards.  An operation that has no
  defined result stops with a `Fault`.  A capture whose wait goes on gives
  `asleep`: one evaluation of the wait condition is one call.
-/

namespace DroidCam.Loopback

open CArith ByteMemory

/-- What user space gets. -/
inductive Reply where
  | code (ret : Int)
  | granted (count : Nat)
  | buffer (b : V4l2Buffer)
  | format (f : V4l2PixFormat)
  | interval (tpf : Option Fract)
  | mapped (buf : Option Nat) (start size : Nat)
  | data (bytes : List UInt8)
  | transferred (count : Nat)
  | ready (mask : Bool)
  | asleep
  /-- `dev->buffers[i]` was addressed outside the array. -/
  | outOfBounds (i : Int)
deriving DecidableEq, Repr

abbrev Outcome := Except Fault (Reply × Device × Opener)

/-! ### Formats and parameters

A format is negotiated once, by the first open; afterwards every request gets it back as
its answer. -/

/-- What `vidioc_try_fmt_out` makes of the request while the device is free. -/
def tryPixFormat (f : V4l2PixFormat) : V4l2PixFormat :=
  let w := clampSize f.width V4L2LOOPBACK_SIZE_MAX_WIDTH V4L2LOOPBACK_SIZE_DEFAULT_WIDTH
  let h := clampSize f.height V4L2LOOPBACK_SIZE_MAX_HEIGHT V4L2LOOPBACK_SIZE_DEFAULT_HEIGHT
  let format := (formatByFourcc f.pixelformat).getD bgr32
  let f := pixFormatSetSize f format w h
  { f with
    pixelformat := format.fourcc
    colorspace := V4L2_COLORSPACE_SRGB
    field := if f.field = V4L2_FIELD_ANY then V4L2_FIELD_NONE else f.field }

/-- `vidioc_try_fmt_out`; it changes the state of the device. -/
def vidiocTryFmtOut (d : Device) (f : V4l2PixFormat) : V4l2PixFormat × Device :=
  if d.readyForCapture then (d.pixFormat, d)
  else (tryPixFormat f, d.setPixFormat (tryPixFormat f))

/-- `vidioc_s_fmt_out`; the result of `allocate_buffers` is not looked at. -/
def vidiocSFmtOut (mem : Allocation) (d : Device) (f : V4l2PixFormat) : V4l2PixFormat × Device :=
  let (f, d) := vidiocTryFmtOut d f
  if d.readyForCapture then (f, d)
  else
    let d := d.setBufferSize (pageAlign d.pixFormat.sizeimage)
    ({ f with sizeimage := d.bufferSize }, (d.allocateBuffers mem).2)

def vidiocEnumFrameintervals (d : Device) (o : Opener) (width height : Nat) : Reply × Opener :=
  if d.readyForCapture then
    if o.enumFrameintervalsCalls > 0 then (.code (-EINVAL), o)
    else if width = d.pixFormat.width ∧ height = d.pixFormat.height then
      (.interval (some d.timeperframe),
        { o with enumFrameintervalsCalls := o.enumFrameintervalsCalls + 1 })
    else (.code (-EINVAL), o)
  else (.interval none, o)

def vidiocSParm (cfg : Config) (d : Device) (type : BufType) (tpf : Fract) :
    Except Fault (Reply × Device) := do
  match type with
  | .videoCapture | .videoOutput =>
    let d ← d.setTimeperframe cfg tpf
    .ok (.interval (some d.timeperframe), d)
  | .other _ => .ok (.code (-EPERM), d)

inductive ControlId where
  | keepFormat
  | sustainFramerate
  | timeout
  | timeoutImageIo
  | other (id : Nat)
deriving DecidableEq, Repr

/-- `vidioc_s_ctrl`; the result of `allocate_timeout_image` is not looked at. -/
def vidiocSCtrl (cfg : Config) (mem : Allocation) (d : Device) (id : ControlId) (value : Int) :
    Reply × Device :=
  match id with
  | .keepFormat =>
    if value < 0 ∨ value > 1 then (.code (-EINVAL), d)
    else (.code 0, { d with keepFormat := value ≠ 0 }.tryFreeBuffers)
  | .sustainFramerate =>
    if value < 0 ∨ value > 1 then (.code (-EINVAL), d)
    else (.code 0, { d with sustainFramerate := value ≠ 0 }.checkTimers)
  | .timeout =>
    if value < 0 ∨ value > MAX_TIMEOUT then (.code (-EINVAL), d)
    else
      let d := { d with timeoutJiffies := cfg.msecsToJiffies value.toNat }.checkTimers
      (.code 0, (d.allocateTimeoutImage mem).2)
  | .timeoutImageIo =>
    if value < 0 ∨ value > 1 then (.code (-EINVAL), d)
    else (.code 0, { d with timeoutImageIo := value ≠ 0 })
  | .other _ => (.code (-EINVAL), d)

/-! ### Buffers

`used_buffers` is the ring in use, `buffers_number` all there are; REQBUFS changes the
first only. -/

/-- The remapping loop of `vidioc_reqbufs`: positions `i`, `i + 1`, … modulo
    `count`, in unsigned arithmetic, name the listed buffers. -/
def remap (count : Nat) : Int → List Nat → (Nat → Nat) → Nat → Nat
  | _, [], bufpos2index => bufpos2index
  | i, index :: rest, bufpos2index =>
    remap count (toInt32 (i + 1)) rest
      (Function.update bufpos2index ((toUInt32 i).toNat % count) index)

/-- The MMAP branch of `vidioc_reqbufs` for a count of 1 to `buffers_number`. -/
def grantBuffers (d : Device) (count : Nat) : Device :=
  let list :=
    if d.ring.outbufsList = [] then List.range d.ring.usedBuffers else d.ring.outbufsList
  if count < d.ring.usedBuffers then
    let kept := list.filter fun i => (d.buffers i).index < count
    { d with ring := { d.ring with
        outbufsList := kept
        bufpos2index := remap count d.writePosition (kept.map fun i => (d.buffers i).index)
          d.ring.bufpos2index
        usedBuffers := count } }
  else { d with ring := { d.ring with outbufsList := list } }

def vidiocReqbufs (d : Device) (o : Opener) (memory : MemoryType) (count : Nat) :
    Reply × Device × Opener :=
  if o.timeoutImageIo then
    match memory with
    | .mmap => (.granted 1, d, o)
    | .other _ => (.code (-EINVAL), d, o)
  else
    let d := d.initBuffers
    match memory with
    | .mmap =>
      if count = 0 then (.granted 0, d, o)
      else
        let count := min count d.ring.buffersNumber
        (.granted count, grantBuffers d count, { o with buffersNumber := count })
    | .other _ => (.code (-EINVAL), d, o)

def vidiocQuerybuf (d : Device) (o : Opener) (type : BufType) (index : Nat) : Outcome := do
  match type with
  | .other _ => .ok (.code (-EINVAL), d, o)
  | _ =>
    if index > MAX_BUFFERS then .ok (.code (-EINVAL), d, o)
    else if o.timeoutImageIo then
      .ok (.buffer { d.timeoutImageBuffer with type, index }, d, o)
    else
      let i ← unsignedSlot index d.ring.usedBuffers
      .ok (.buffer { d.buffers i with type, index }, d, o)

def vidiocQbuf (d : Device) (o : Opener) (type : BufType) (index : Nat) : Outcome := do
  if index > MAX_BUFFERS then .ok (.code (-EINVAL), d, o)
  else if o.timeoutImageIo then .ok (.code 0, d, o)
  else
    let i ← unsignedSlot index d.ring.usedBuffers
    match type with
    | .videoCapture => .ok (.code 0, d.updateBuffer i setQueued, o)
    | .videoOutput =>
      let d ← (d.updateBuffer i setDone).bufferWritten i
      .ok (.code 0, d, o)
    | .other _ => .ok (.code (-EINVAL), d, o)

/-! ### Capture

A capture takes an index by a remainder of signed counters, and may wait for a frame
before. -/

/-- How a capture waits: the flag `O_NONBLOCK` of its file, and whether a signal
    is pending for the caller. -/
structure Waiting where
  nonblock : Bool
  signal : Bool
deriving DecidableEq, Repr

/-- The condition in `can_read`. -/
def readable (d : Device) (o : Opener) : Bool :=
  d.writePosition > o.readPosition ∨ d.rereadCount > o.rereadCount ∨ d.timeoutHappened

def canRead (d : Device) (o : Opener) : Bool × Device := (readable d o, d.checkTimers)

/-- The cursor of a reader and the `int` whose remainder is `pos`. -/
def nextPosition (d : Device) (o : Opener) : Int × Opener :=
  if d.writePosition = o.readPosition then
    let rereadCount :=
      if d.rereadCount > toUInt32 (o.rereadCount + 2) then toUInt32 (d.rereadCount - 1)
      else o.rereadCount
    (toInt32 (o.readPosition + d.ring.usedBuffers - 1),
      { o with rereadCount := toUInt32 (rereadCount + 1) })
  else
    let readPosition :=
      if d.writePosition > toInt32 (o.readPosition + 2) then toInt32 (d.writePosition - 1)
      else o.readPosition
    (readPosition, { o with rereadCount := 0, readPosition := toInt32 (readPosition + 1) })

/-- What `get_capture_buffer` has found when it has left its critical section. -/
inductive Captured where
  | again
  | asleep (d : Device)
  | index (ret : Nat) (timeoutHappened : Bool) (d : Device) (o : Opener)

def captureIndex (w : Waiting) (d : Device) (o : Opener) : Except Fault Captured := do
  if w.nonblock ∧ readable d o = false then .ok .again
  else
    let (ready, d) := canRead d o
    if ready = false ∧ w.signal = false then .ok (.asleep d)
    else
      let (x, o) := nextPosition d o
      let pos ← ringSlot x d.ring.usedBuffers
      .ok (.index (d.ring.bufpos2index pos) d.timeoutHappened d.clearTimeout o)

/-- The `memcpy` of the timeout image into the slot of a buffer. -/
def copyTimeoutImage (d : Device) (ret : Nat) : Except Fault Device := do
  let i ← arrayIndex ret
  let bytes ← load d.timeoutImage .nullTimeoutImage 0 d.bufferSize
  let image ← store d.image .nullImage (d.buffers i).offset bytes
  .ok { d with image }

/-- `get_capture_buffer`; `none` while it sleeps. -/
def getCaptureBuffer (w : Waiting) (d : Device) (o : Opener) :
    Except Fault (Option Int × Device × Opener) := do
  match ← captureIndex w d o with
  | .again => .ok (some (-EAGAIN), d, o)
  | .asleep d => .ok (none, d, o)
  | .index ret timeoutHappened d o =>
    if timeoutHappened then
      let d ← copyTimeoutImage d ret
      .ok (some ret, d, o)
    else .ok (some ret, d, o)

def vidiocDqbuf (w : Waiting) (d : Device) (o : Opener) (type : BufType) : Outcome := do
  if o.timeoutImageIo then .ok (.buffer d.timeoutImageBuffer, d, o)
  else
    match type with
    | .videoCapture =>
      match ← getCaptureBuffer w d o with
      | (none, d, o) => .ok (.asleep, d, o)
      | (some index, d, o) =>
        if index < 0 then .ok (.code index, d, o)
        else
          let i ← arrayIndex index
          if (d.buffers i).flags.mapped then
            .ok (.buffer (unsetFlags (d.buffers i)), d.updateBuffer i unsetFlags, o)
          else .ok (.code (-EINVAL), d, o)
    | .videoOutput =>
      match d.ring.outbufsList with
      | [] => .error .listHead
      | i :: _ =>
        let list ← listMoveTail d.ring.outbufsList i
        let b := unsetFlags (d.buffers i)
        .ok (.buffer { b with type := .videoOutput },
          { d.updateBuffer i unsetFlags with ring := { d.ring with outbufsList := list } }, o)
    | .other _ => .ok (.code (-EINVAL), d, o)

/-- `v4l2_loopback_read`; `fault` is a failing `copy_to_user`. -/
def v4l2LoopbackRead (w : Waiting) (fault : Bool) (d : Device) (o : Opener) (count : Nat) :
    Outcome := do
  match ← getCaptureBuffer w d o with
  | (none, d, o) => .ok (.asleep, d, o)
  | (some readIndex, d, o) =>
    if 0 ≤ readIndex ∧ readIndex < MAX_BUFFERS then
      let bytes ← load d.image .nullImage (d.buffers readIndex.toNat).offset
        (min count d.bufferSize)
      if fault then .ok (.code (-EFAULT), d, o) else .ok (.data bytes, d, o)
    else .ok (.outOfBounds readIndex, d, o)

/-! ### Streaming, mapping, writing

A writer finds its slot by the same remainder, and mapping hands out whole slots. -/

def setMapped (b : V4l2Buffer) : V4l2Buffer := { b with flags := { b.flags with mapped := true } }

/-- What STREAMON and `v4l2_loopback_write` do first: allocate on first use. -/
def allocateOnce (mem : Allocation) (d : Device) : Int × Device :=
  if d.readyForCapture then (0, d)
  else
    let (ret, d) := d.allocateBuffers mem
    if ret < 0 then (ret, d) else (0, d.setReady)

def vidiocStreamon (mem : Allocation) (d : Device) (o : Opener) (type : BufType) :
    Reply × Device × Opener :=
  match type with
  | .videoOutput =>
    let (ret, d) := allocateOnce mem d
    (.code ret, d, { o with type := .writer })
  | .videoCapture =>
    (.code (if d.readyForCapture then 0 else - EIO), d, { o with type := .reader })
  | .other _ => (.code (-EINVAL), d, o)

/-- The buffer at which the search loop of `v4l2_loopback_mmap` stops: the first
    one at the page, or else the last one. -/
def mmapBuffer (d : Device) (pgoff : Nat) : Option Nat :=
  ((List.range d.ring.buffersNumber).find?
    fun i => (d.buffers i).offset.toNat / PAGE_SIZE = pgoff).or
      (List.range d.ring.buffersNumber).getLast?

/-- `v4l2_loopback_mmap`; `inserted` says whether every `vm_insert_page` succeeds. -/
def v4l2LoopbackMmap (mem : Allocation) (inserted : Bool) (d : Device) (o : Opener)
    (pgoff size : Nat) : Reply × Device :=
  let off := pgoff * PAGE_SIZE % 18446744073709551616
  if size > d.bufferSize then (.code (-EINVAL), d)
  else if o.timeoutImageIo ∧ off ≠ d.bufferSize * MAX_BUFFERS then (.code (-EINVAL), d)
  else if o.timeoutImageIo = false ∧ off > d.bufferSize * (d.ring.buffersNumber - 1) then
    (.code (-EINVAL), d)
  else
    let (ret, d) := if d.image.isNone then d.allocateBuffers mem else (0, d)
    if ret < 0 then (.code (-EINVAL), d)
    else if o.timeoutImageIo then
      if inserted = false then (.code (-EAGAIN), d)
      else (.mapped none 0 size, { d with timeoutImageBuffer := setMapped d.timeoutImageBuffer })
    else
      match mmapBuffer d pgoff with
      | none => (.code (-EINVAL), d)
      | some i =>
        if inserted = false then (.code (-EAGAIN), d)
        else (.mapped (some i) off size, d.updateBuffer i setMapped)

/-- The bytes of a frame are in the slot of buffer `i`. -/
def Device.storeFrame (d : Device) (i : Nat) (image : Option (Memory UInt8)) : Device :=
  { d with
    image
    buffers := Function.update d.buffers i
      { d.buffers i with sequence := toUInt32 d.writePosition } }

/-- `v4l2_loopback_write` from the clamping of `count` on; a `copy_from_user` that
    fails after `k` bytes clears the rest of its destination. -/
def writeFrame (fault : Option Nat) (d : Device) (buf : List UInt8) :
    Except Fault (Reply × Device) := do
  let bytes := buf.take d.bufferSize
  let i ← ringSlot d.writePosition d.ring.usedBuffers
  let off := (d.buffers i).offset
  match fault with
  | some k =>
    let arrived := bytes.take k ++ List.replicate (bytes.length - k) 0
    let image ← store d.image .nullImage off arrived
    .ok (.code (-EFAULT), { d with image })
  | none =>
    let image ← store d.image .nullImage off bytes
    let d ← (d.storeFrame i image).bufferWritten i
    .ok (.transferred bytes.length, d)

def v4l2LoopbackWrite (mem : Allocation) (fault : Option Nat) (d : Device) (buf : List UInt8) :
    Except Fault (Reply × Device) :=
  let (ret, d) := allocateOnce mem d
  if ret < 0 then .ok (.code ret, d) else writeFrame fault d buf

def v4l2LoopbackPoll (d : Device) (o : Opener) : Reply × Device :=
  match o.type with
  | .writer => (.ready true, d)
  | .reader => (.ready (canRead d o).1, (canRead d o).2)
  | .unnegotiated => (.ready false, d)

/-! ### Open and close

The opener is counted first, and the format is set by whoever opens a device that has
none. -/

/-- The format that `v4l2_loopback_open` asks for. -/
def defaultFormat (cfg : Config) (f : V4l2PixFormat) : V4l2PixFormat :=
  { f with
    width := (toUInt32 cfg.width).toNat
    height := (toUInt32 cfg.height).toNat
    pixelformat := V4L2_PIX_FMT_YUV420
    field := V4L2_FIELD_NONE
    colorspace := V4L2_COLORSPACE_SRGB }

/-- `v4l2_loopback_open` once the opener is counted. -/
def openFormat (cfg : Config) (mem : Allocation) (d : Device) : Device :=
  (vidiocSFmtOut mem d (defaultFormat cfg d.pixFormat)).2.setReady

/-- `v4l2_loopback_open`; `kzalloc` says whether the opener could be allocated.
    An open that fails leaves no opener behind, but it may have been counted. -/
def v4l2LoopbackOpen (cfg : Config) (mem : Allocation) (kzalloc : Bool) (d : Device) :
    Int × Device × Option Opener :=
  if d.openCount ≥ d.maxOpeners then (-EBUSY, d, none)
  else if kzalloc = false then (-ENOMEM, d, none)
  else if d.timeoutImageIo then
    let (ret, e) := d.countOpen.allocateTimeoutImage mem
    if ret < 0 then (ret, e, none) else (0, openFormat cfg mem e, some { timeoutImageIo := true })
  else (0, openFormat cfg mem d.countOpen, some {})

def v4l2LoopbackClose (d : Device) : Device :=
  let d := d.countClose
  (if d.openCount = 0 then d.deleteTimers else d).tryFreeBuffers

/-! ### Attributes

The text of the attributes is that of the user, and is cut into numbers before it is
looked at. -/

/-- What `sscanf (buf, "@%d/%d", ..)` converts. -/
inductive FormatText where
  | nothing
  | fps (num : Int)
  | fraction (num den : Int)
deriving DecidableEq, Repr

/-- The two numbers, with the values the variables start with. -/
def FormatText.numbers : FormatText → Int × Int
  | .nothing => (0, 1)
  | .fps num => (num, 1)
  | .fraction num den => (num, den)

/-- `attr_store_format` of a text of `len` characters. -/
def attrStoreFormat (cfg : Config) (d : Device) (text : FormatText) (len : Nat) :
    Except Fault (Reply × Device) := do
  let (num, den) := text.numbers
  if text = .nothing ∨ num < 1 ∨ den < 1 then .ok (.code (-EINVAL), d)
  else
    let d ← d.setTimeperframe cfg ⟨den.toNat, num.toNat⟩
    .ok (.transferred len, d)

/-- `attr_store_maxopeners`; `curr` is what `kstrtoul` makes of the text. -/
def attrStoreMaxopeners (d : Device) (curr : Option Nat) (len : Nat) : Reply × Device :=
  match curr with
  | none => (.code (-EINVAL), d)
  | some curr =>
    if toSize d.maxOpeners = curr then (.transferred len, d)
    else if toSize d.openCount > curr then (.code (-EINVAL), d)
    else (.transferred len, d.setMaxOpeners (toInt32 curr))

end DroidCam.Loopback
