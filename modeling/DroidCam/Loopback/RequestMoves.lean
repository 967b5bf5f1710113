import DroidCam.Loopback.Moves

/-
  DroidCam/Loopback/RequestMoves.lean
  ===================================
  What one ioctl, read or write can do to the device, case by case: the ways
  through it with the conditions it checked.  What is proved of a request later
  goes by these cases and does not look into the operation again.
-/

namespace DroidCam.Loopback

open CArith ByteMemory

/-! ### Controls

Of the controls CID_TIMEOUT alone allocates, so it has a move of its own. -/

/-- The device after `CID_TIMEOUT`, before the timeout image is allocated. -/
def Device.setTimeout (cfg : Config) (d : Device) (value : Int) : Device :=
  { d with timeoutJiffies := cfg.msecsToJiffies value.toNat }.checkTimers

theorem vidiocSCtrl_timeout (cfg : Config) (mem : Allocation) (d : Device) (value : Int) :
    (vidiocSCtrl cfg mem d .timeout value).2 =
      if value < 0 ∨ value > MAX_TIMEOUT then d
      else ((d.setTimeout cfg value).allocateTimeoutImage mem).2 := by
  simp only [vidiocSCtrl]
  split <;> rfl

/-- The ways through `vidioc_s_ctrl`. -/
inductive CtrlMove (cfg : Config) (mem : Allocation) (d : Device) (value : Int) :
    ControlId → Device → Prop
  | refused {id : ControlId} : CtrlMove cfg mem d value id d
  | keepFormat :
      CtrlMove cfg mem d value .keepFormat { d with keepFormat := value ≠ 0 }.tryFreeBuffers
  | sustainFramerate :
      CtrlMove cfg mem d value .sustainFramerate
        { d with sustainFramerate := value ≠ 0 }.checkTimers
  | timeout (hrange : 0 ≤ value ∧ value ≤ MAX_TIMEOUT) :
      CtrlMove cfg mem d value .timeout ((d.setTimeout cfg value).allocateTimeoutImage mem).2
  | timeoutImageIo :
      CtrlMove cfg mem d value .timeoutImageIo { d with timeoutImageIo := value ≠ 0 }

theorem vidiocSCtrl_move (cfg : Config) (mem : Allocation) (d : Device) (id : ControlId)
    (value : Int) : CtrlMove cfg mem d value id (vidiocSCtrl cfg mem d id value).2 := by
  cases id with
  | keepFormat =>
      simp only [vidiocSCtrl]
      split
      · exact .refused
      · exact .keepFormat
  | sustainFramerate =>
      simp only [vidiocSCtrl]
      split
      · exact .refused
      · exact .sustainFramerate
  | timeout =>
      rw [vidiocSCtrl_timeout]
      split
      · exact .refused
      · exact .timeout (by omega)
  | timeoutImageIo =>
      simp only [vidiocSCtrl]
      split
      · exact .refused
      · exact .timeoutImageIo
  | other n => exact .refused

/-! ### Buffers

REQBUFS goes through `init_buffers` whatever it answers afterwards, except on a handle of
the timeout image. -/

/-- REQBUFS makes another ring of the same buffers and nothing else. -/
theorem grantBuffers_eq (d : Device) (count : Nat) :
    ∃ ring, grantBuffers d count = { d with ring } ∧ ring.buffersNumber = d.ring.buffersNumber := by
  unfold grantBuffers
  dsimp only
  split <;> exact ⟨_, rfl, rfl⟩

/-- The ways through REQBUFS. -/
inductive ReqbufsMove (d : Device) (o : Opener) (memory : MemoryType) (count : Nat) :
    Device → Opener → Prop
  | timeoutImage (hio : o.timeoutImageIo = true) : ReqbufsMove d o memory count d o
  | renumbered (hio : o.timeoutImageIo = false) (hnone : memory = .mmap → count = 0) :
      ReqbufsMove d o memory count d.initBuffers o
  | granted (hio : o.timeoutImageIo = false) (hmemory : memory = .mmap) (hcount : count ≠ 0) :
      ReqbufsMove d o memory count
        (grantBuffers d.initBuffers (min count d.ring.buffersNumber))
        { o with buffersNumber := min count d.ring.buffersNumber }

theorem vidiocReqbufs_move {d d' : Device} {o o' : Opener} {memory : MemoryType} {count : Nat}
    {reply : Reply} (h : vidiocReqbufs d o memory count = (reply, d', o')) :
    ReqbufsMove d o memory count d' o' := by
  unfold vidiocReqbufs at h
  split at h
  · rename_i hio
    split at h <;> cases h <;> exact .timeoutImage hio
  · rename_i hio
    have hio : o.timeoutImageIo = false := by simpa using hio
    cases memory with
    | mmap =>
        simp only at h
        split at h
        · rename_i hzero
          cases h
          exact .renumbered hio fun _ => hzero
        · rename_i hcount
          cases h
          exact .granted hio rfl hcount
    | other code =>
        cases h
        exact .renumbered hio (by simp)

theorem vidiocQuerybuf_same {d d' : Device} {o o' : Opener} {type : BufType} {index : Nat}
    {reply : Reply} (h : vidiocQuerybuf d o type index = .ok (reply, d', o')) :
    d' = d ∧ o' = o := by
  unfold vidiocQuerybuf at h
  split at h
  · cases h
    exact ⟨rfl, rfl⟩
  · split_ifs at h
    · cases h
      exact ⟨rfl, rfl⟩
    · cases h
      exact ⟨rfl, rfl⟩
    · obtain ⟨i, -, h⟩ := bind_eq_ok.mp h
      cases h
      exact ⟨rfl, rfl⟩

/-- The ways through QBUF. -/
inductive QbufMove (d : Device) (o : Opener) (type : BufType) (index : Nat) : Device → Prop
  | ignored (hout : index > MAX_BUFFERS ∨ o.timeoutImageIo = true ∨ ∃ code, type = .other code) :
      QbufMove d o type index d
  | queued (i : Nat) (htype : type = .videoCapture)
      (hi : unsignedSlot index d.ring.usedBuffers = .ok i) :
      QbufMove d o type index (d.updateBuffer i setQueued)
  | written (i : Nat) (d' : Device) (htype : type = .videoOutput)
      (hready : o.timeoutImageIo = false ∧ index ≤ MAX_BUFFERS)
      (hi : unsignedSlot index d.ring.usedBuffers = .ok i)
      (hwritten : (d.updateBuffer i setDone).bufferWritten i = .ok d') :
      QbufMove d o type index d'

theorem vidiocQbuf_move {d d' : Device} {o o' : Opener} {type : BufType} {index : Nat}
    {reply : Reply} (h : vidiocQbuf d o type index = .ok (reply, d', o')) :
    QbufMove d o type index d' ∧ o' = o := by
  unfold vidiocQbuf at h
  split_ifs at h with hindex hio
  · cases h
    exact ⟨.ignored (Or.inl hindex), rfl⟩
  · cases h
    exact ⟨.ignored (Or.inr (Or.inl hio)), rfl⟩
  · obtain ⟨i, hi, h⟩ := bind_eq_ok.mp h
    cases type with
    | videoCapture =>
        cases h
        exact ⟨.queued i rfl hi, rfl⟩
    | videoOutput =>
        obtain ⟨e, hwritten, h⟩ := bind_eq_ok.mp h
        cases h
        have hready : o.timeoutImageIo = false ∧ index ≤ MAX_BUFFERS :=
          ⟨by simpa using hio, Nat.le_of_not_lt hindex⟩
        exact ⟨.written i _ rfl hready hi hwritten, rfl⟩
    | other code =>
        cases h
        exact ⟨.ignored (Or.inr (Or.inr ⟨code, rfl⟩)), rfl⟩

/-- The ways through DQBUF.  A captured frame has its flags changed where its buffer
    is mapped; a frame of the writer comes from the head of the list. -/
inductive DqbufMove (w : Waiting) (d : Device) (o : Opener) : BufType → Device → Opener → Prop
  | ignored {type : BufType} (hout : o.timeoutImageIo = true ∨ ∃ code, type = .other code) :
      DqbufMove w d o type d o
  | captured (ret : Option Int) (e d' : Device) (o' : Opener) (hio : o.timeoutImageIo = false)
      (hcapture : getCaptureBuffer w d o = .ok (ret, e, o'))
      (hflags : d' = e ∨ ∃ i, d' = e.updateBuffer i unsetFlags) :
      DqbufMove w d o .videoCapture d' o'
  | taken (i : Nat) (hio : o.timeoutImageIo = false)
      (hhead : d.ring.outbufsList.head? = some i) :
      DqbufMove w d o .videoOutput { d.updateBuffer i unsetFlags with
        ring := { d.ring with outbufsList := Recency.moveToTail d.ring.outbufsList i } } o

theorem vidiocDqbuf_move {w : Waiting} {d d' : Device} {o o' : Opener} {type : BufType}
    {reply : Reply} (h : vidiocDqbuf w d o type = .ok (reply, d', o')) :
    DqbufMove w d o type d' o' := by
  unfold vidiocDqbuf at h
  split at h
  · rename_i hio
    cases h
    exact .ignored (Or.inl hio)
  · rename_i hio
    have hio : o.timeoutImageIo = false := by simpa using hio
    cases type with
    | videoCapture =>
        obtain ⟨⟨ret, e, oe⟩, hcapture, h⟩ := bind_eq_ok.mp h
        cases ret with
        | none =>
            cases h
            exact .captured _ _ _ _ hio hcapture (Or.inl rfl)
        | some index =>
            simp only at h
            split at h
            · cases h
              exact .captured _ _ _ _ hio hcapture (Or.inl rfl)
            · obtain ⟨i, -, h⟩ := bind_eq_ok.mp h
              split at h
              · cases h
                exact .captured _ _ _ _ hio hcapture (Or.inr ⟨i, rfl⟩)
              · cases h
                exact .captured _ _ _ _ hio hcapture (Or.inl rfl)
    | videoOutput =>
        -- the head of the list goes to the tail
        simp only at h
        split at h
        · cases h
        · rename_i i rest hlist
          obtain ⟨list, hmove, h⟩ := bind_eq_ok.mp h
          have hmem : i ∈ d.ring.outbufsList := by simp [hlist]
          rw [listMoveTail, if_pos hmem] at hmove
          cases hmove
          cases h
          exact .taken i hio (by simp [hlist])
    | other code =>
        cases h
        exact .ignored (Or.inr ⟨code, rfl⟩)

/-! ### Reading, writing and mapping

A read is a capture and a copy, a write a copy and a frame. -/

/-- A read does to the device and its reader what the capture does. -/
theorem v4l2LoopbackRead_captured {w : Waiting} {fault : Bool} {d d' : Device} {o o' : Opener}
    {count : Nat} {reply : Reply}
    (h : v4l2LoopbackRead w fault d o count = .ok (reply, d', o')) :
    ∃ ret, getCaptureBuffer w d o = .ok (ret, d', o') := by
  obtain ⟨⟨ret, e, oe⟩, hcapture, h⟩ := bind_eq_ok.mp h
  refine ⟨ret, ?_⟩
  cases ret with
  | none =>
      cases h
      exact hcapture
  | some index =>
      simp only at h
      split at h
      · obtain ⟨bytes, -, h⟩ := bind_eq_ok.mp h
        split at h <;> cases h <;> exact hcapture
      · cases h
        exact hcapture

/-- A store neither makes nor frees memory. -/
theorem store_isSome {mem mem' : Option (Memory UInt8)} {null : Fault} {off : Int}
    {bs : List UInt8} (h : store mem null off bs = .ok mem') : mem'.isSome = mem.isSome := by
  unfold store at h
  split at h
  · cases h
    rfl
  · split at h
    · cases h
      rfl
    · cases h

/-- The ways through `v4l2_loopback_write` from the clamping of `count` on. -/
inductive WriteMove (d : Device) : Option Nat → Device → Prop
  | cut (k : Nat) (image : Option (Memory UInt8)) (hsome : image.isSome = d.image.isSome) :
      WriteMove d (some k) { d with image }
  | written (i : Nat) (image : Option (Memory UInt8)) (d' : Device)
      (hi : ringSlot d.writePosition d.ring.usedBuffers = .ok i)
      (hsome : image.isSome = d.image.isSome)
      (hwritten : (d.storeFrame i image).bufferWritten i = .ok d') : WriteMove d none d'

theorem writeFrame_move {fault : Option Nat} {d d' : Device} {buf : List UInt8} {reply : Reply}
    (h : writeFrame fault d buf = .ok (reply, d')) : WriteMove d fault d' := by
  obtain ⟨i, hi, h⟩ := bind_eq_ok.mp h
  cases fault with
  | some k =>
      obtain ⟨image, himage, h⟩ := bind_eq_ok.mp h
      cases h
      exact .cut k image (store_isSome himage)
  | none =>
      obtain ⟨image, himage, h⟩ := bind_eq_ok.mp h
      obtain ⟨e, hwritten, h⟩ := bind_eq_ok.mp h
      cases h
      exact .written i image _ hi (store_isSome himage) hwritten

/-- The ways through `v4l2_loopback_mmap`: it gives up before it looks at the image,
    or it goes on with the device `e` that has one if it could be allocated. -/
inductive MmapMove (mem : Allocation) (d : Device) : Device → Prop
  | refused : MmapMove mem d d
  | allocated (e : Device) (he : e = if d.image.isNone then (d.allocateBuffers mem).2 else d) :
      MmapMove mem d e
  | timeoutImage (e : Device)
      (he : e = if d.image.isNone then (d.allocateBuffers mem).2 else d) :
      MmapMove mem d { e with timeoutImageBuffer := setMapped e.timeoutImageBuffer }
  | mapped (e : Device) (i : Nat)
      (he : e = if d.image.isNone then (d.allocateBuffers mem).2 else d) :
      MmapMove mem d (e.updateBuffer i setMapped)

theorem v4l2LoopbackMmap_move (mem : Allocation) (inserted : Bool) (d : Device) (o : Opener)
    (pgoff size : Nat) : MmapMove mem d (v4l2LoopbackMmap mem inserted d o pgoff size).2 := by
  have halloc : (if d.image.isNone then d.allocateBuffers mem else (0, d)).2 =
      if d.image.isNone then (d.allocateBuffers mem).2 else d := by
    split <;> rfl
  simp only [v4l2LoopbackMmap]
  generalize (if d.image.isNone then d.allocateBuffers mem else (0, d)) = e at halloc ⊢
  split_ifs
  · exact .refused
  · exact .refused
  · exact .refused
  · exact .allocated _ halloc
  · exact .allocated _ halloc
  · exact .timeoutImage _ halloc
  · split <;> exact .allocated _ halloc
  · split
    · exact .allocated _ halloc
    · exact .mapped _ _ halloc

/-! ### Requests

One move for each request that does something; the others leave the device as it is. -/

/-- What a request does to the device and to the opener of its handle. -/
inductive RequestMove (cfg : Config) (d : Device) (o : Opener) :
    Request → Device → Opener → Prop
  | counted (width height n : Nat) :
      RequestMove cfg d o (.enumFrameintervals width height) d
        { o with enumFrameintervalsCalls := n }
  | tried (f : V4l2PixFormat) : RequestMove cfg d o (.tryFmtOut f) (vidiocTryFmtOut d f).2 o
  | formatted (f : V4l2PixFormat) (mem : Allocation) :
      RequestMove cfg d o (.sFmtOut f mem) (vidiocSFmtOut mem d f).2 o
  | interval (type : BufType) (tpf : Fract) (d' : Device)
      (htype : type = .videoCapture ∨ type = .videoOutput)
      (hset : d.setTimeperframe cfg tpf = .ok d') : RequestMove cfg d o (.sParm type tpf) d' o
  | unsupported (code : Nat) (tpf : Fract) : RequestMove cfg d o (.sParm (.other code) tpf) d o
  | control (id : ControlId) (value : Int) (mem : Allocation) (d' : Device)
      (hctrl : CtrlMove cfg mem d value id d') : RequestMove cfg d o (.sCtrl id value mem) d' o
  | granted (memory : MemoryType) (count : Nat) (d' : Device) (o' : Opener)
      (hgrant : ReqbufsMove d o memory count d' o') :
      RequestMove cfg d o (.reqbufs memory count) d' o'
  | queried (type : BufType) (index : Nat) : RequestMove cfg d o (.querybuf type index) d o
  | queued (type : BufType) (index : Nat) (d' : Device) (hqueue : QbufMove d o type index d') :
      RequestMove cfg d o (.qbuf type index) d' o
  | dequeued (type : BufType) (w : Waiting) (d' : Device) (o' : Opener)
      (hdequeue : DqbufMove w d o type d' o') : RequestMove cfg d o (.dqbuf type w) d' o'
  | started (mem : Allocation) :
      RequestMove cfg d o (.streamon .videoOutput mem) (allocateOnce mem d).2
        { o with type := .writer }
  | streaming (type : BufType) (mem : Allocation) (t : OpenerType)
      (htype : type ≠ .videoOutput) :
      RequestMove cfg d o (.streamon type mem) d { o with type := t }
  | mapped (pgoff size : Nat) (mem : Allocation) (inserted : Bool) (d' : Device)
      (hmap : MmapMove mem d d') : RequestMove cfg d o (.mmap pgoff size mem inserted) d' o
  | captured (count : Nat) (w : Waiting) (fault : Bool) (ret : Option Int) (d' : Device)
      (o' : Opener) (hcapture : getCaptureBuffer w d o = .ok (ret, d', o')) :
      RequestMove cfg d o (.read count w fault) d' o'
  | unallocated (buf : List UInt8) (mem : Allocation) (fault : Option Nat) :
      RequestMove cfg d o (.write buf mem fault) (allocateOnce mem d).2 o
  | wrote (buf : List UInt8) (mem : Allocation) (fault : Option Nat) (d' : Device)
      (hwrite : WriteMove (allocateOnce mem d).2 fault d') :
      RequestMove cfg d o (.write buf mem fault) d' o
  | polled (d' : Device) (hpoll : d' = d ∨ d' = d.checkTimers) : RequestMove cfg d o .poll d' o

theorem request_move {cfg : Config} {d d' : Device} {o o' : Opener} {req : Request}
    {reply : Reply} (h : request cfg d o req = .ok (reply, d', o')) :
    RequestMove cfg d o req d' o' := by
  cases req with
  | enumFrameintervals width height =>
      simp only [request, vidiocEnumFrameintervals] at h
      split_ifs at h
      · cases h
        exact .counted width height o.enumFrameintervalsCalls
      · cases h
        exact .counted width height _
      · cases h
        exact .counted width height o.enumFrameintervalsCalls
      · cases h
        exact .counted width height o.enumFrameintervalsCalls
  | tryFmtOut f =>
      cases h
      exact .tried f
  | sFmtOut f mem =>
      cases h
      exact .formatted f mem
  | sParm type tpf =>
      obtain ⟨⟨reply, e⟩, hparm, h⟩ := map_eq_ok.mp h
      cases h
      cases type with
      | other code =>
          cases hparm
          exact .unsupported code tpf
      | _ =>
          obtain ⟨e, hset, hparm⟩ := bind_eq_ok.mp hparm
          cases hparm
          exact .interval _ tpf _ (by simp) hset
  | sCtrl id value mem =>
      cases h
      exact .control id value mem _ (vidiocSCtrl_move cfg mem d id value)
  | reqbufs memory count =>
      exact .granted memory count d' o' (vidiocReqbufs_move (Except.ok.inj h))
  | querybuf type index =>
      obtain ⟨rfl, rfl⟩ := vidiocQuerybuf_same h
      exact .queried type index
  | qbuf type index =>
      obtain ⟨hmove, rfl⟩ := vidiocQbuf_move h
      exact .queued type index d' hmove
  | dqbuf type w => exact .dequeued type w d' o' (vidiocDqbuf_move h)
  | streamon type mem =>
      cases type with
      | videoOutput =>
          cases h
          exact .started mem
      | videoCapture =>
          cases h
          exact .streaming _ mem .reader (by simp)
      | other code =>
          cases h
          exact .streaming _ mem o.type (by simp)
  | mmap pgoff size mem inserted =>
      cases h
      exact .mapped pgoff size mem inserted _ (v4l2LoopbackMmap_move mem inserted d o pgoff size)
  | read count w fault =>
      obtain ⟨ret, hcapture⟩ := v4l2LoopbackRead_captured h
      exact .captured count w fault ret d' o' hcapture
  | write buf mem fault =>
      obtain ⟨⟨reply, e⟩, hwrite, h⟩ := map_eq_ok.mp h
      cases h
      simp only [v4l2LoopbackWrite] at hwrite
      split at hwrite
      · cases hwrite
        exact .unallocated buf mem fault
      · exact .wrote buf mem fault _ (writeFrame_move hwrite)
  | poll =>
      cases h
      refine .polled _ ?_
      split
      · exact Or.inl rfl
      · exact Or.inr rfl
      · exact Or.inl rfl

end DroidCam.Loopback
