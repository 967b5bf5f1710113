import DroidCam.Loopback.Images

/-
  DroidCam/Loopback/Standing.lean
  ===============================
  What only a few operations of the driver touch: the frame interval, the limit on
  openers, the repeat count and the timeout.

  `Standing` says that they are left alone, and `StandingMove` names the requests
  that do not: S_PARM, the timeout control, and a frame that is complete.
-/

namespace DroidCam.Loopback

open CArith ByteMemory LabelledRun

/-- No timeout is set, armed or pending. -/
structure Device.TimeoutsOff (d : Device) : Prop where
  timeoutJiffies : d.timeoutJiffies = 0
  timeoutTimer : d.timeoutTimer = none
  timeoutHappened : d.timeoutHappened = false

/-- The interval, the limit and the repeat count stay, no frame is complete, and no
    timeout appears. -/
structure Standing (d d' : Device) : Prop where
  timeperframe : d'.timeperframe = d.timeperframe
  frameJiffies : d'.frameJiffies = d.frameJiffies
  maxOpeners : d'.maxOpeners = d.maxOpeners
  rereadCount : d'.rereadCount = d.rereadCount
  framesWritten : d'.framesWritten = d.framesWritten
  timeoutsOff : d.TimeoutsOff → d'.TimeoutsOff

def Device.standing (d : Device) :=
  (d.timeperframe, d.frameJiffies, d.maxOpeners, d.rereadCount, d.framesWritten, d.timeoutJiffies,
    d.timeoutTimer, d.timeoutHappened)

/-- A change that leaves all of them alone. -/
theorem Standing.of_standing {d d' : Device} (h : d'.standing = d.standing) : Standing d d' := by
  simp only [Device.standing, Prod.mk.injEq] at h
  obtain ⟨htpf, hframe, hmax, hreread, hframes, hjiffies, htimer, hhappened⟩ := h
  refine ⟨htpf, hframe, hmax, hreread, hframes, fun hoff => ⟨?_, ?_, ?_⟩⟩
  · exact hjiffies.trans hoff.timeoutJiffies
  · exact htimer.trans hoff.timeoutTimer
  · exact hhappened.trans hoff.timeoutHappened

theorem Standing.refl (d : Device) : Standing d d := .of_standing rfl

theorem Standing.trans {d₁ d₂ d₃ : Device} (h : Standing d₁ d₂) (h' : Standing d₂ d₃) :
    Standing d₁ d₃ where
  timeperframe := h'.timeperframe.trans h.timeperframe
  frameJiffies := h'.frameJiffies.trans h.frameJiffies
  maxOpeners := h'.maxOpeners.trans h.maxOpeners
  rereadCount := h'.rereadCount.trans h.rereadCount
  framesWritten := h'.framesWritten.trans h.framesWritten
  timeoutsOff := fun hoff => h'.timeoutsOff (h.timeoutsOff hoff)

/-! ### The device

The interval, the limit and the counts are left alone by nearly everything. -/

namespace Device

/-- The timers are armed without a timeout only for the sustained frame rate. -/
theorem checkTimers_standing (d : Device) : Standing d d.checkTimers := by
  unfold checkTimers
  split
  · refine ⟨rfl, rfl, rfl, rfl, rfl, fun hoff => ⟨hoff.timeoutJiffies, ?_, hoff.timeoutHappened⟩⟩
    have hidle : ¬(0 < d.timeoutJiffies ∧ d.timeoutTimer = none) := by
      simp [hoff.timeoutJiffies]
    exact (if_neg hidle).trans hoff.timeoutTimer
  · exact Standing.refl d

theorem deleteTimers_standing (d : Device) : Standing d d.deleteTimers :=
  ⟨rfl, rfl, rfl, rfl, rfl, fun hoff => ⟨hoff.timeoutJiffies, rfl, hoff.timeoutHappened⟩⟩

theorem captured_standing (d : Device) : Standing d d.captured :=
  d.checkTimers_standing.trans
    ⟨rfl, rfl, rfl, rfl, rfl, fun hoff => ⟨hoff.timeoutJiffies, hoff.timeoutTimer, rfl⟩⟩

theorem allocateTimeoutImage_standing (mem : Allocation) (d : Device) :
    Standing d (d.allocateTimeoutImage mem).2 := by
  unfold allocateTimeoutImage
  split_ifs <;> exact Standing.of_standing rfl

/-- A timeout that is set is all that changes. -/
theorem setTimeout_standing (cfg : Config) (mem : Allocation) (d : Device) (value : Int) :
    Standing { d with timeoutJiffies := cfg.msecsToJiffies value.toNat }
      ((d.setTimeout cfg value).allocateTimeoutImage mem).2 :=
  (checkTimers_standing _).trans (allocateTimeoutImage_standing mem _)

theorem vmallocBuffers_standing (mem : Allocation) (d : Device) :
    Standing d (d.vmallocBuffers mem).2 := by
  have himage : Standing d (d.vmallocImage mem) := Standing.of_standing rfl
  have htimeout := himage.trans (allocateTimeoutImage_standing mem _)
  have hinit : ∀ e : Device, Standing e e.initBuffers := fun e => Standing.of_standing rfl
  simp only [vmallocBuffers]
  split_ifs
  · exact htimeout
  · exact htimeout.trans (hinit _)
  · exact himage
  · exact himage.trans (hinit _)

theorem allocateBuffers_standing (mem : Allocation) (d : Device) :
    Standing d (d.allocateBuffers mem).2 := by
  have hfree : Standing d d.freeBuffers := Standing.of_standing rfl
  unfold allocateBuffers
  split_ifs
  · exact Standing.refl d
  · exact Standing.refl d
  · exact hfree.trans (vmallocBuffers_standing mem _)
  · exact Standing.refl d
  · exact vmallocBuffers_standing mem d

theorem tryFreeBuffers_standing (d : Device) : Standing d d.tryFreeBuffers := by
  unfold tryFreeBuffers
  split <;> exact Standing.of_standing rfl

/-- A complete frame is counted and restarts the repeat count. -/
theorem bufferWritten_standing {d d' : Device} {buf : Nat} (h : d.bufferWritten buf = .ok d') :
    Standing { d with rereadCount := 0, framesWritten := d.framesWritten + 1 } d' := by
  obtain ⟨pos, -, -, rfl⟩ := bufferWritten_eq_ok h
  refine Standing.trans ?_ (checkTimers_standing _)
  exact ⟨rfl, rfl, rfl, rfl, rfl, fun hoff => ⟨hoff.timeoutJiffies, rfl, hoff.timeoutHappened⟩⟩

end Device

/-! ### Requests

The exceptions get a move each: a frame, an interval, the timeout. -/

/-- The requests that complete a frame when they come back. -/
def Request.completes (o : Opener) : Request → Bool
  | .write _ _ fault => fault.isNone
  | .qbuf .videoOutput index => decide (o.timeoutImageIo = false ∧ index ≤ MAX_BUFFERS)
  | _ => false

/-- What a request does to what is mostly left standing. -/
inductive StandingMove (cfg : Config) (d d' : Device) (o : Opener) (req : Request) : Prop
  | same (h : Standing d d')
  | interval (type : BufType) (tpf : Fract) (hreq : req = .sParm type tpf)
      (htype : type = .videoCapture ∨ type = .videoOutput)
      (h : d.setTimeperframe cfg tpf = .ok d')
  | timeout (value : Int) (mem : Allocation) (hreq : req = .sCtrl .timeout value mem)
      (hrange : 0 ≤ value ∧ value ≤ MAX_TIMEOUT)
      (h : d' = ((d.setTimeout cfg value).allocateTimeoutImage mem).2)
  | written (e : Device) (buf : Nat) (hreq : req.completes o = true) (hsame : Standing d e)
      (h : e.bufferWritten buf = .ok d')

variable {cfg : Config} {d d' : Device} {o o' : Opener} {reply : Reply}

theorem CaptureMove.standing {w : Waiting} {ret : Option Int}
    (h : CaptureMove w d o ret d' o') : Standing d d' := by
  cases h with
  | again => exact Standing.refl d
  | asleep => exact d.checkTimers_standing
  | index => exact d.captured_standing.trans (Standing.of_standing rfl)

theorem vidiocTryFmtOut_standing (d : Device) (f : V4l2PixFormat) :
    Standing d (vidiocTryFmtOut d f).2 := by
  unfold vidiocTryFmtOut
  split <;> exact Standing.of_standing rfl

theorem vidiocSFmtOut_standing (mem : Allocation) (d : Device) (f : V4l2PixFormat) :
    Standing d (vidiocSFmtOut mem d f).2 := by
  have htry := vidiocTryFmtOut_standing d f
  simp only [vidiocSFmtOut]
  split
  · exact htry
  · refine Standing.trans (htry.trans ?_) (Device.allocateBuffers_standing mem _)
    exact Standing.of_standing rfl

theorem CtrlMove.standing {mem : Allocation} {id : ControlId} {value : Int} (hid : id ≠ .timeout)
    (h : CtrlMove cfg mem d value id d') : Standing d d' := by
  cases h with
  | refused => exact Standing.refl d
  | keepFormat =>
      refine Standing.trans ?_ (Device.tryFreeBuffers_standing _)
      exact Standing.of_standing rfl
  | sustainFramerate =>
      refine Standing.trans ?_ (Device.checkTimers_standing _)
      exact Standing.of_standing rfl
  | timeout => exact absurd rfl hid
  | timeoutImageIo => exact Standing.of_standing rfl

theorem ReqbufsMove.standing {memory : MemoryType} {count : Nat}
    (h : ReqbufsMove d o memory count d' o') : Standing d d' := by
  cases h with
  | timeoutImage => exact Standing.refl d
  | renumbered => exact Standing.of_standing rfl
  | granted =>
      obtain ⟨ring, hgrant, -⟩ := grantBuffers_eq d.initBuffers (min count d.ring.buffersNumber)
      rw [hgrant]
      exact Standing.of_standing rfl

theorem QbufMove.standing {type : BufType} {index : Nat} (h : QbufMove d o type index d') :
    StandingMove cfg d d' o (.qbuf type index) := by
  have hupdate : ∀ i f, Standing d (d.updateBuffer i f) := fun i f => Standing.of_standing rfl
  cases h with
  | ignored => exact .same (Standing.refl d)
  | queued i => exact .same (hupdate i setQueued)
  | written i e htype hready hi hwritten =>
      subst htype
      exact .written _ i (decide_eq_true hready) (hupdate i setDone) hwritten

theorem getCaptureBuffer_standing {w : Waiting} {ret : Option Int}
    (h : getCaptureBuffer w d o = .ok (ret, d', o')) : Standing d d' :=
  (getCaptureBuffer_move h).standing

theorem DqbufMove.standing {w : Waiting} {type : BufType} (h : DqbufMove w d o type d' o') :
    Standing d d' := by
  cases h with
  | ignored => exact Standing.refl d
  | captured ret e _ _ hio hcapture hflags =>
      have hstanding := getCaptureBuffer_standing hcapture
      rcases hflags with rfl | ⟨i, rfl⟩
      · exact hstanding
      · exact hstanding.trans (Standing.of_standing rfl)
  | taken i => exact Standing.of_standing rfl

theorem allocateOnce_standing (mem : Allocation) (d : Device) :
    Standing d (allocateOnce mem d).2 := by
  have halloc := d.allocateBuffers_standing mem
  simp only [allocateOnce]
  split
  · exact Standing.refl d
  split
  · exact halloc
  · exact halloc.trans (Standing.of_standing rfl)

theorem MmapMove.standing {mem : Allocation} (h : MmapMove mem d d') : Standing d d' := by
  have halloc : ∀ e, (e = if d.image.isNone then (d.allocateBuffers mem).2 else d) →
      Standing d e := by
    rintro e rfl
    split
    · exact d.allocateBuffers_standing mem
    · exact Standing.refl d
  cases h with
  | refused => exact Standing.refl d
  | allocated _ he => exact halloc _ he
  | timeoutImage e he => exact (halloc e he).trans (Standing.of_standing rfl)
  | mapped e i he => exact (halloc e he).trans (Standing.of_standing rfl)

theorem WriteMove.standing {fault : Option Nat} {e : Device} {buf : List UInt8} {mem : Allocation}
    (hsame : Standing d e) (h : WriteMove e fault d') :
    StandingMove cfg d d' o (.write buf mem fault) := by
  cases h with
  | cut k image => exact .same (hsame.trans (Standing.of_standing rfl))
  | written i image _ hi hsome hwritten =>
      have hstore : Standing e (e.storeFrame i image) := .of_standing rfl
      exact .written _ i rfl (hsame.trans hstore) hwritten

theorem request_standing {req : Request} (h : request cfg d o req = .ok (reply, d', o')) :
    StandingMove cfg d d' o req := by
  cases request_move h with
  | counted width height n => exact .same (Standing.refl d)
  | tried f => exact .same (vidiocTryFmtOut_standing d f)
  | formatted f mem => exact .same (vidiocSFmtOut_standing mem d f)
  | interval type tpf _ htype hset => exact .interval type tpf rfl htype hset
  | unsupported code tpf => exact .same (Standing.refl d)
  | control id value mem _ hctrl =>
      -- the timeout both arms a timer and allocates
      by_cases hid : id = .timeout
      · subst hid
        cases hctrl with
        | refused => exact .same (Standing.refl d)
        | timeout hrange => exact .timeout value mem rfl hrange rfl
      · exact .same (hctrl.standing hid)
  | granted memory count _ _ hgrant => exact .same hgrant.standing
  | queried type index => exact .same (Standing.refl d)
  | queued type index _ hqueue => exact hqueue.standing
  | dequeued type w _ _ hdequeue => exact .same hdequeue.standing
  | started mem => exact .same (allocateOnce_standing mem d)
  | streaming type mem t => exact .same (Standing.refl d)
  | mapped pgoff size mem inserted _ hmap => exact .same hmap.standing
  | captured count w fault ret _ _ hcapture => exact .same (getCaptureBuffer_standing hcapture)
  | unallocated buf mem fault => exact .same (allocateOnce_standing mem d)
  | wrote buf mem fault _ hwrite => exact hwrite.standing (allocateOnce_standing mem d)
  | polled _ hpoll =>
      rcases hpoll with rfl | rfl
      · exact .same (Standing.refl _)
      · exact .same d.checkTimers_standing

/-! ### Opening, closing, timers and attributes

None of these completes a frame, and only a tick moves the repeat count. -/

theorem v4l2LoopbackOpen_standing {mem : Allocation} {kzalloc : Bool} {ret : Int}
    {opened : Option Opener} (h : v4l2LoopbackOpen cfg mem kzalloc d = (ret, d', opened)) :
    Standing d d' := by
  obtain rfl : (v4l2LoopbackOpen cfg mem kzalloc d).2.1 = d' := by rw [h]
  have hcount : Standing d d.countOpen := Standing.of_standing rfl
  have hformat : ∀ e, Standing e (openFormat cfg mem e) := fun e =>
    (vidiocSFmtOut_standing mem e _).trans (Standing.of_standing rfl)
  have htimeout := hcount.trans (Device.allocateTimeoutImage_standing mem _)
  simp only [v4l2LoopbackOpen]
  split_ifs
  · exact Standing.refl d
  · exact Standing.refl d
  · exact htimeout
  · exact htimeout.trans (hformat _)
  · exact hcount.trans (hformat _)

theorem v4l2LoopbackClose_standing (d : Device) : Standing d (v4l2LoopbackClose d) := by
  have hcount : Standing d d.countClose := Standing.of_standing rfl
  simp only [v4l2LoopbackClose]
  apply Standing.trans _ (Device.tryFreeBuffers_standing _)
  split
  · exact hcount.trans (Device.deleteTimers_standing _)
  · exact hcount

/-! ### Calls

The same for whole calls, with the ticks of the timers and the limit on openers. -/

/-- What a call does to what is mostly left standing. -/
inductive StandingStep (cfg : Config) (s : Driver) (call : Call) (t : Driver) : Prop
  | same (hcall : ∀ file req, call ≠ .request file req) (h : Standing s.dev t.dev)
  | request (file : Nat) (req : Request) (o o' : Opener) (reply : Reply)
      (hcall : call = .request file req) (hfile : s.openers.lookup file = some o)
      (hreq : request cfg s.dev o req = .ok (reply, t.dev, o'))
  | ticked (hcall : call = .sustainTimer) (hsustain : s.dev.sustainFramerate = true)
      (h : t.dev = s.dev.sustainTimerClb)
  | timedOut (hcall : call = .timeoutTimer) (hpending : s.dev.timeoutTimer.isSome = true)
      (h : t.dev = s.dev.timeoutTimerClb)
  | interval (text : FormatText) (len : Nat) (num den : Int) (hcall : call = .storeFormat text len)
      (hnum : 1 ≤ num) (hden : 1 ≤ den)
      (h : s.dev.setTimeperframe cfg ⟨den.toNat, num.toNat⟩ = .ok t.dev)
  | limit (curr : Option Nat) (len : Nat) (n : Int) (hcall : call = .storeMaxopeners curr len)
      (h : t.dev = s.dev.setMaxOpeners n)

theorem Step.standing {s t : Driver} {call : Call} (h : Step cfg s call t) :
    StandingStep cfg s call t := by
  cases h.move with
  | openFailed hfree hopen => exact .same (by simp) (v4l2LoopbackOpen_standing hopen)
  | opened hfree hopen => exact .same (by simp) (v4l2LoopbackOpen_standing hopen)
  | closed hfile => exact .same (by simp) (v4l2LoopbackClose_standing s.dev)
  | request hfile hreq => exact .request _ _ _ _ _ rfl hfile hreq
  | sustainTimer hpending =>
      cases hsustain : s.dev.sustainFramerate with
      | true => exact .ticked rfl hsustain rfl
      | false =>
          refine .same (by simp) (Standing.of_standing ?_)
          simp only [Device.sustainTimerClb, hsustain]
          rfl
  | timeoutTimer hpending => exact .timedOut rfl hpending rfl
  | storeFormat hstore =>
      rcases attrStoreFormat_dev hstore with rfl | ⟨num, den, hnum, hden, hset⟩
      · exact .same (by simp) (Standing.refl _)
      · exact .interval _ _ num den rfl hnum hden hset
  | @storeMaxopeners curr len =>
      rcases attrStoreMaxopeners_dev s.dev curr len with hsame | ⟨n, hset⟩
      · refine .same (by simp) ?_
        simp only [hsame]
        exact Standing.refl _
      · exact .limit curr len n rfl hset

end DroidCam.Loopback
