import DroidCam.Loopback.Ring

/-
  DroidCam/Loopback/Images.lean
  =============================
  The allocations behind `image` and `timeout_image`.

  The device is ready for capture from the first open to the last close, and only
  that open allocates: `v4l2_loopback_open` and `vidioc_s_ctrl` do not look at
  the result.  `ImageFrame` says what all other operations leave alone.
-/

namespace DroidCam.Loopback

open CArith ByteMemory LabelledRun

/-! ### What an operation on a ready device leaves alone

An operation may get rid of an image, but on a ready device none does; nearly all of
them change no field that the images depend on. -/

structure ImageFrame (d d' : Device) : Prop where
  ready : d'.readyForCapture = d.readyForCapture
  openCount : d'.openCount = d.openCount
  image : d.image.isSome = true → d'.image.isSome = true
  imagesize : d'.imagesize = d.imagesize
  bufferSize : d'.bufferSize = d.bufferSize
  number : d'.ring.buffersNumber = d.ring.buffersNumber
  timeoutJiffies : d'.timeoutJiffies = d.timeoutJiffies
  timeoutImage : d.timeoutImage.isSome = true → d'.timeoutImage.isSome = true
  timeoutHappened : d'.timeoutHappened = true → d.timeoutHappened = true

/-- The images, and what decides whether they are needed. -/
def Device.images (d : Device) :=
  (d.readyForCapture, d.image, d.imagesize, d.bufferSize, d.ring.buffersNumber, d.timeoutJiffies,
    d.timeoutImage)

/-- A change that leaves all of them alone. -/
theorem ImageFrame.of_images {d d' : Device} (h : d'.images = d.images)
    (hcount : d'.openCount = d.openCount) (hhappened : d'.timeoutHappened = d.timeoutHappened) :
    ImageFrame d d' := by
  simp only [Device.images, Prod.mk.injEq] at h
  obtain ⟨hready, himage, himagesize, hsize, hnumber, hjiffies, htimeout⟩ := h
  refine ⟨hready, hcount, ?_, himagesize, hsize, hnumber, hjiffies, ?_, ?_⟩
  · intro hsome
    rwa [himage]
  · intro hsome
    rwa [htimeout]
  · intro hpending
    rwa [← hhappened]

theorem ImageFrame.refl (d : Device) : ImageFrame d d := .of_images rfl rfl rfl

theorem ImageFrame.trans {d₁ d₂ d₃ : Device} (h : ImageFrame d₁ d₂) (h' : ImageFrame d₂ d₃) :
    ImageFrame d₁ d₃ where
  ready := h'.ready.trans h.ready
  openCount := h'.openCount.trans h.openCount
  image := fun hd => h'.image (h.image hd)
  imagesize := h'.imagesize.trans h.imagesize
  bufferSize := h'.bufferSize.trans h.bufferSize
  number := h'.number.trans h.number
  timeoutJiffies := h'.timeoutJiffies.trans h.timeoutJiffies
  timeoutImage := fun hd => h'.timeoutImage (h.timeoutImage hd)
  timeoutHappened := fun hd => h.timeoutHappened (h'.timeoutHappened hd)

namespace Device

theorem checkTimers_frame (d : Device) : ImageFrame d d.checkTimers := by
  unfold checkTimers
  split
  · exact ImageFrame.of_images rfl rfl rfl
  · exact ImageFrame.refl d

theorem sustainTimerClb_frame (d : Device) : ImageFrame d d.sustainTimerClb := by
  unfold sustainTimerClb
  split <;> exact ImageFrame.of_images rfl rfl rfl

theorem updateBuffer_frame (d : Device) (i : Nat) (f : V4l2Buffer → V4l2Buffer) :
    ImageFrame d (d.updateBuffer i f) :=
  ImageFrame.of_images rfl rfl rfl

theorem captured_frame (d : Device) : ImageFrame d d.captured :=
  d.checkTimers_frame.trans ⟨rfl, rfl, id, rfl, rfl, rfl, rfl, id, fun h => by cases h⟩

theorem allocateTimeoutImage_frame (d : Device) (mem : Allocation) :
    ImageFrame d (d.allocateTimeoutImage mem).2 := by
  unfold allocateTimeoutImage
  split_ifs
  · exact ImageFrame.refl d
  · exact ⟨rfl, rfl, id, rfl, rfl, rfl, rfl, fun _ => rfl, id⟩
  · exact ImageFrame.refl d
  · exact ImageFrame.refl d

theorem setTimeperframe_frame {cfg : Config} {d d' : Device} {tpf : Fract}
    (h : d.setTimeperframe cfg tpf = .ok d') : ImageFrame d d' := by
  obtain ⟨-, rfl⟩ := setTimeperframe_eq_ok h
  exact ImageFrame.of_images rfl rfl rfl

theorem bufferWritten_frame {d d' : Device} {buf : Nat} (h : d.bufferWritten buf = .ok d') :
    ImageFrame d d' := by
  obtain ⟨pos, -, -, rfl⟩ := bufferWritten_eq_ok h
  refine ImageFrame.trans ?_ (checkTimers_frame _)
  exact ImageFrame.of_images rfl rfl rfl

theorem tryFreeBuffers_frame {d : Device} (hcount : d.openCount ≠ 0) :
    ImageFrame d d.tryFreeBuffers := by
  rw [tryFreeBuffers, if_neg (fun h => hcount h.1)]
  exact ImageFrame.refl d

end Device

theorem grantBuffers_frame (d : Device) (count : Nat) : ImageFrame d (grantBuffers d count) := by
  obtain ⟨ring, hgrant, hnumber⟩ := grantBuffers_eq d count
  rw [hgrant]
  exact ImageFrame.of_images (by rw [Device.images, hnumber]; rfl) rfl rfl

theorem ReqbufsMove.frame {d d' : Device} {o o' : Opener} {memory : MemoryType} {count : Nat}
    (h : ReqbufsMove d o memory count d' o') : ImageFrame d d' := by
  have hinit : ImageFrame d d.initBuffers := .of_images rfl rfl rfl
  cases h with
  | timeoutImage => exact ImageFrame.refl d
  | renumbered => exact hinit
  | granted => exact hinit.trans (grantBuffers_frame _ _)

theorem QbufMove.frame {d d' : Device} {o : Opener} {type : BufType} {index : Nat}
    (h : QbufMove d o type index d') : ImageFrame d d' := by
  cases h with
  | ignored => exact ImageFrame.refl d
  | queued i => exact d.updateBuffer_frame i setQueued
  | written i e htype hready hi hwritten =>
      exact (d.updateBuffer_frame i setDone).trans (Device.bufferWritten_frame hwritten)

theorem CaptureMove.frame {w : Waiting} {d d' : Device} {o o' : Opener} {ret : Option Int}
    (h : CaptureMove w d o ret d' o') : ImageFrame d d' := by
  cases h with
  | again => exact ImageFrame.refl d
  | asleep => exact d.checkTimers_frame
  | index pos image hgo hpos himage hsome =>
      have hframe := d.captured_frame
      exact ⟨hframe.ready, hframe.openCount, hsome, hframe.imagesize, hframe.bufferSize,
        hframe.number, hframe.timeoutJiffies, hframe.timeoutImage, hframe.timeoutHappened⟩

theorem getCaptureBuffer_frame {w : Waiting} {d d' : Device} {o o' : Opener} {ret : Option Int}
    (h : getCaptureBuffer w d o = .ok (ret, d', o')) : ImageFrame d d' :=
  (getCaptureBuffer_move h).frame

theorem DqbufMove.frame {w : Waiting} {d d' : Device} {o o' : Opener} {type : BufType}
    (h : DqbufMove w d o type d' o') : ImageFrame d d' := by
  cases h with
  | ignored => exact ImageFrame.refl d
  | captured ret e _ _ hio hcapture hflags =>
      have hframe := getCaptureBuffer_frame hcapture
      rcases hflags with rfl | ⟨i, rfl⟩
      · exact hframe
      · exact hframe.trans (e.updateBuffer_frame i unsetFlags)
  | taken i => exact ImageFrame.of_images rfl rfl rfl

theorem WriteMove.frame {fault : Option Nat} {d d' : Device} (h : WriteMove d fault d') :
    ImageFrame d d' := by
  cases h with
  | cut k image hsome => exact ⟨rfl, rfl, hsome.trans, rfl, rfl, rfl, rfl, id, id⟩
  | written i image _ hi hsome hwritten =>
      refine ImageFrame.trans ?_ (Device.bufferWritten_frame hwritten)
      exact ⟨rfl, rfl, hsome.trans, rfl, rfl, rfl, rfl, id, id⟩

/-- On a ready device STREAMON and a write do not allocate. -/
theorem allocateOnce_ready {mem : Allocation} {d : Device} (hready : d.readyForCapture = true) :
    allocateOnce mem d = (0, d) := if_pos hready

theorem MmapMove.frame {mem : Allocation} {d d' : Device} (himage : d.image.isSome = true)
    (h : MmapMove mem d d') : ImageFrame d d' := by
  have hnone : d.image.isNone = false := by simpa using himage
  cases h with
  | refused => exact ImageFrame.refl d
  | allocated _ he =>
      simp only [hnone, Bool.false_eq_true, if_false] at he
      exact he ▸ ImageFrame.refl d
  | timeoutImage e he =>
      simp only [hnone, Bool.false_eq_true, if_false] at he
      exact he ▸ ImageFrame.of_images rfl rfl rfl
  | mapped e i he =>
      simp only [hnone, Bool.false_eq_true, if_false] at he
      exact he ▸ d.updateBuffer_frame _ _

/-! ### Requests on a ready device

CID_TIMEOUT is the exception, as it allocates. -/

theorem CtrlMove.frame {cfg : Config} {mem : Allocation} {d d' : Device} {id : ControlId}
    {value : Int} (hcount : d.openCount ≠ 0) (hid : id ≠ .timeout)
    (h : CtrlMove cfg mem d value id d') : ImageFrame d d' := by
  cases h with
  | refused => exact ImageFrame.refl d
  | keepFormat =>
      refine ImageFrame.trans ?_ (Device.tryFreeBuffers_frame hcount)
      exact ImageFrame.of_images rfl rfl rfl
  | sustainFramerate =>
      refine ImageFrame.trans ?_ (Device.checkTimers_frame _)
      exact ImageFrame.of_images rfl rfl rfl
  | timeout => exact absurd rfl hid
  | timeoutImageIo => exact ImageFrame.of_images rfl rfl rfl

/-- What a request on an open handle does to the images: nothing that shows, or it
    sets the timeout, or it maps an image that was never allocated. -/
inductive ImageMove (cfg : Config) (d d' : Device) (req : Request) : Prop
  | same (h : ImageFrame d d')
  | timeout (value : Int) (mem : Allocation) (hreq : req = .sCtrl .timeout value mem)
      (hrange : 0 ≤ value ∧ value ≤ MAX_TIMEOUT)
      (h : d' = ((d.setTimeout cfg value).allocateTimeoutImage mem).2)
  | unallocated (himage : d.image = none) (hready : d'.readyForCapture = d.readyForCapture)
      (hcount : d'.openCount = d.openCount)

theorem Device.allocateBuffers_kept (mem : Allocation) (d : Device) :
    (d.allocateBuffers mem).2.readyForCapture = d.readyForCapture ∧
      (d.allocateBuffers mem).2.openCount = d.openCount := by
  have hvmalloc : ∀ e : Device, (e.vmallocBuffers mem).2.readyForCapture = e.readyForCapture ∧
      (e.vmallocBuffers mem).2.openCount = e.openCount := by
    intro e
    have htimeout := (e.vmallocImage mem).allocateTimeoutImage_frame mem
    simp only [Device.vmallocBuffers]
    split_ifs
    · exact ⟨htimeout.ready, htimeout.openCount⟩
    · exact ⟨htimeout.ready, htimeout.openCount⟩
    · exact ⟨rfl, rfl⟩
    · exact ⟨rfl, rfl⟩
  unfold Device.allocateBuffers
  split_ifs
  · exact ⟨rfl, rfl⟩
  · exact ⟨rfl, rfl⟩
  · exact hvmalloc d.freeBuffers
  · exact ⟨rfl, rfl⟩
  · exact hvmalloc d

theorem MmapMove.kept {mem : Allocation} {d d' : Device} (h : MmapMove mem d d') :
    d'.readyForCapture = d.readyForCapture ∧ d'.openCount = d.openCount := by
  have halloc : ∀ e, (e = if d.image.isNone then (d.allocateBuffers mem).2 else d) →
      e.readyForCapture = d.readyForCapture ∧ e.openCount = d.openCount := by
    rintro e rfl
    split
    · exact d.allocateBuffers_kept mem
    · exact ⟨rfl, rfl⟩
  cases h with
  | refused => exact ⟨rfl, rfl⟩
  | allocated _ he => exact halloc _ he
  | timeoutImage e he => exact halloc e he
  | mapped e i he => exact halloc e he

theorem request_imageMove {cfg : Config} {d d' : Device} {o o' : Opener} {req : Request}
    {reply : Reply} (hready : d.readyForCapture = true) (hcount : d.openCount ≠ 0)
    (h : request cfg d o req = .ok (reply, d', o')) : ImageMove cfg d d' req := by
  have htry : ∀ f, (vidiocTryFmtOut d f).2 = d := by
    intro f
    rw [vidiocTryFmtOut, if_pos hready]
  cases request_move h with
  | counted width height n => exact .same (ImageFrame.refl d)
  | tried f =>
      rw [htry]
      exact .same (ImageFrame.refl d)
  | formatted f mem =>
      simp only [vidiocSFmtOut, htry, if_pos hready]
      exact .same (ImageFrame.refl d)
  | interval type tpf _ htype hset => exact .same (Device.setTimeperframe_frame hset)
  | unsupported code tpf => exact .same (ImageFrame.refl d)
  | control id value mem _ hctrl =>
      -- the control that may need an image it does not get
      by_cases hid : id = .timeout
      · subst hid
        cases hctrl with
        | refused => exact .same (ImageFrame.refl d)
        | timeout hrange => exact .timeout value mem rfl hrange rfl
      · exact .same (hctrl.frame hcount hid)
  | granted memory count _ _ hgrant => exact .same hgrant.frame
  | queried type index => exact .same (ImageFrame.refl d)
  | queued type index _ hqueue => exact .same hqueue.frame
  | dequeued type w _ _ hdequeue => exact .same hdequeue.frame
  | started mem =>
      rw [allocateOnce_ready hready]
      exact .same (ImageFrame.refl d)
  | streaming type mem t => exact .same (ImageFrame.refl d)
  | mapped pgoff size mem inserted _ hmap =>
      by_cases himage : d.image.isSome = true
      · exact .same (hmap.frame himage)
      · exact .unallocated (by simpa using himage) hmap.kept.1 hmap.kept.2
  | captured count w fault ret _ _ hcapture => exact .same (getCaptureBuffer_frame hcapture)
  | unallocated buf mem fault =>
      rw [allocateOnce_ready hready]
      exact .same (ImageFrame.refl d)
  | wrote buf mem fault _ hwrite =>
      rw [allocateOnce_ready hready] at hwrite
      exact .same hwrite.frame
  | polled _ hpoll =>
      rcases hpoll with rfl | rfl
      · exact .same (ImageFrame.refl _)
      · exact .same d.checkTimers_frame

end DroidCam.Loopback
