import DroidCam.Loopback.Sessions
import DroidCam.Loopback.Capture

/-
  DroidCam/Loopback/Allocation.lean
  =================================
  A device that is ready for capture has its images, unless an allocation whose
  result is not looked at has failed.

  `AllocationsHold` names these allocations: those of the open that makes the
  device ready, and the timeout image of `CID_TIMEOUT`.  A timeout that is still
  pending when such an open has no timeout image to allocate counts as well.
-/

namespace DroidCam.Loopback

open CArith ByteMemory LabelledRun

structure ImagesAllocated (d : Device) : Prop where
  image : d.image.isSome = true
  imagesize : d.imagesize = d.bufferSize * d.ring.buffersNumber
  bufferSize : 0 < d.bufferSize
  timeoutImage : 0 < d.timeoutJiffies → d.timeoutImage.isSome = true

/-- The images of a ready device are there, and no call addresses one that is not. -/
def ImagesSafe (cfg : Config) (s : Driver) : Prop :=
  (s.dev.readyForCapture = true → ImagesAllocated s.dev) ∧
    ∀ call, driverStep cfg s call ≠ .error (.fault .nullImage) ∧
      driverStep cfg s call ≠ .error (.fault .nullTimeoutImage)

/-- The allocations that the driver relies on without a check succeed. -/
def AllocationsHold (cfg : Config) (s : Driver) : Call → Prop
  | .openDevice _ mem kzalloc =>
    s.dev.readyForCapture = false → s.dev.openCount < s.dev.maxOpeners → kzalloc = true →
      s.dev.timeoutImageIo = false →
        mem.vmalloc.isSome = true ∧ (0 < s.dev.timeoutJiffies → mem.vzalloc = true) ∧
          (s.dev.timeoutHappened = true → 0 < s.dev.timeoutJiffies)
  | .request _ (.sCtrl .timeout value mem) =>
    0 ≤ value → value ≤ MAX_TIMEOUT → 0 < cfg.msecsToJiffies value.toNat →
      s.dev.timeoutImage.isNone = true → mem.vzalloc = true
  | _ => True

instance (cfg : Config) (s : Driver) (call : Call) : Decidable (AllocationsHold cfg s call) := by
  unfold AllocationsHold
  split <;> infer_instance

/-- What the steps keep: a ready device has its images, and the timeout image also
    while a timeout is pending. -/
structure ImagesKept (d : Device) : Prop where
  allocated : d.readyForCapture = true → ImagesAllocated d
  pending : d.readyForCapture = true → d.timeoutHappened = true → d.timeoutImage.isSome = true

theorem ImagesKept.init (cfg : Config) : ImagesKept (Device.init cfg) where
  allocated := fun hready => by cases hready
  pending := fun hready => by cases hready

theorem ImagesKept.of_not_ready {d : Device} (hready : d.readyForCapture = false) :
    ImagesKept d where
  allocated := fun h => absurd (hready.symm.trans h) (by simp)
  pending := fun h => absurd (hready.symm.trans h) (by simp)

theorem ImagesKept.frame {d d' : Device} (hd : ImagesKept d) (h : ImageFrame d d') :
    ImagesKept d' where
  allocated := by
    intro hready
    have halloc := hd.allocated (h.ready.symm.trans hready)
    refine ⟨h.image halloc.image, ?_, ?_, fun hj => ?_⟩
    · rw [h.imagesize, h.bufferSize, h.number]
      exact halloc.imagesize
    · rw [h.bufferSize]
      exact halloc.bufferSize
    · rw [h.timeoutJiffies] at hj
      exact h.timeoutImage (halloc.timeoutImage hj)
  pending := fun hready hhappened =>
    h.timeoutImage (hd.pending (h.ready.symm.trans hready) (h.timeoutHappened hhappened))

theorem ImagesKept.same {d d' : Device} (hd : ImagesKept d) (h : d'.images = d.images)
    (hpending : d'.readyForCapture = true → d'.timeoutHappened = true →
      d'.timeoutImage.isSome = true) : ImagesKept d' := by
  simp only [Device.images, Prod.mk.injEq] at h
  obtain ⟨hready, himage, himagesize, hsize, hnumber, hjiffies, htimeout⟩ := h
  refine ⟨fun h => ?_, hpending⟩
  have halloc := hd.allocated (hready.symm.trans h)
  refine ⟨himage ▸ halloc.image, ?_, hsize ▸ halloc.bufferSize, fun hj => ?_⟩
  · rw [himagesize, hsize, hnumber]
    exact halloc.imagesize
  · rw [hjiffies] at hj
    exact htimeout ▸ halloc.timeoutImage hj

/-! ### Opening

The first open of a device that is not ready makes its buffers; the result of
`allocate_buffers` is not looked at, so the open succeeds without them as well. -/

/-- An open that gets through on a device that is not ready did not ask for the
    timeout image: without buffers there is none. -/
theorem timeoutImageIo_of_opened {s : Driver} {mem : Allocation} (hs : Accounted s)
    (hready : s.dev.readyForCapture = false)
    (hret : s.dev.timeoutImageIo = true → ¬(s.dev.countOpen.allocateTimeoutImage mem).1 < 0) :
    s.dev.timeoutImageIo = false := by
  have hsize : s.dev.countOpen.bufferSize = 0 := (hs.idle hready).2.2.1
  cases hio : s.dev.timeoutImageIo with
  | false => rfl
  | true =>
      refine absurd ?_ (hret hio)
      rw [Device.allocateTimeoutImage, if_pos hsize]
      show -EINVAL < 0
      decide

/-- The open that makes the device ready. -/
theorem openFormat_opening {cfg : Config} {mem : Allocation} {s : Driver} (hs : Accounted s)
    (hready : s.dev.readyForCapture = false) :
    Fresh cfg mem s.dev.countOpen (openFormat cfg mem (s.dev.opening mem)) := by
  obtain ⟨himage, htimeout, hsize, -⟩ := hs.idle hready
  rw [Device.opening_idle hsize]
  exact openFormat_fresh hready himage htimeout

/-- It keeps the images exactly when its allocations succeed. -/
theorem Fresh.kept_iff {cfg : Config} {mem : Allocation} {e d : Device} (h : Fresh cfg mem e d) :
    ImagesKept d ↔ mem.vmalloc.isSome = true ∧ (0 < e.timeoutJiffies → mem.vzalloc = true) ∧
      (e.timeoutHappened = true → 0 < e.timeoutJiffies) := by
  constructor
  · intro hd
    have halloc := hd.allocated h.ready
    refine ⟨h.image ▸ halloc.image, fun hj => ?_, fun hhappened => ?_⟩
    · exact (h.timeoutImage.mp (halloc.timeoutImage (h.timeoutJiffies ▸ hj))).2
    · exact (h.timeoutImage.mp (hd.pending h.ready (h.timeoutHappened ▸ hhappened))).1
  · rintro ⟨hvmalloc, hvzalloc, hpending⟩
    have hsize := cfg.slotSize_bounds
    refine ⟨fun _ => ⟨?_, h.imagesize, ?_, fun hj => ?_⟩, fun _ hhappened => ?_⟩
    · rw [h.image]
      exact hvmalloc
    · rw [h.bufferSize]
      omega
    · rw [h.timeoutJiffies] at hj
      exact h.timeoutImage.mpr ⟨hj, hvzalloc hj⟩
    · rw [h.timeoutHappened] at hhappened
      have hj := hpending hhappened
      exact h.timeoutImage.mpr ⟨hj, hvzalloc hj⟩

/-! ### The timeout

The control turns the timer on first and allocates its image afterwards, again without
looking at the result. -/

theorem Device.setTimeout_frame (cfg : Config) (d : Device) (value : Int) :
    ImageFrame { d with timeoutJiffies := cfg.msecsToJiffies value.toNat }
      (d.setTimeout cfg value) :=
  Device.checkTimers_frame _

theorem Device.setTimeout_timeoutImage (cfg : Config) (d : Device) (value : Int) :
    (d.setTimeout cfg value).timeoutImage = d.timeoutImage :=
  Device.checkTimers_timeoutImage _

/-- On a device with buffers the timeout image is missing only after a failed
    allocation. -/
theorem Device.allocateTimeoutImage_isSome {mem : Allocation} {d : Device}
    (hsize : 0 < d.bufferSize) :
    (d.allocateTimeoutImage mem).2.timeoutImage.isSome = true ↔
      (d.timeoutImage.isNone = true → mem.vzalloc = true) := by
  rw [Device.allocateTimeoutImage, if_neg (Nat.ne_of_gt hsize)]
  cases hnone : d.timeoutImage with
  | none =>
      cases hz : mem.vzalloc with
      | false => simp [hnone]
      | true => simp
  | some m => simp [hnone]

/-- `CID_TIMEOUT` keeps the images exactly when the timeout image can be allocated. -/
theorem ImagesKept.timeout_iff {cfg : Config} {mem : Allocation} {d : Device} {value : Int}
    (hd : ImagesKept d) (hready : d.readyForCapture = true) :
    ImagesAllocated ((d.setTimeout cfg value).allocateTimeoutImage mem).2 ↔
      (0 < cfg.msecsToJiffies value.toNat → d.timeoutImage.isNone = true → mem.vzalloc = true) := by
  have halloc := hd.allocated hready
  have hframe := (d.setTimeout_frame cfg value).trans
    ((d.setTimeout cfg value).allocateTimeoutImage_frame mem)
  have hsize : 0 < (d.setTimeout cfg value).bufferSize := by
    rw [(d.setTimeout_frame cfg value).bufferSize]
    exact halloc.bufferSize
  have hsome : ((d.setTimeout cfg value).allocateTimeoutImage mem).2.timeoutImage.isSome = true ↔
      _ :=
    Device.allocateTimeoutImage_isSome hsize
  rw [d.setTimeout_timeoutImage] at hsome
  constructor
  · intro h hj
    exact hsome.mp (h.timeoutImage (hframe.timeoutJiffies ▸ hj))
  · intro h
    refine ⟨hframe.image halloc.image, ?_, ?_, fun hj => ?_⟩
    · rw [hframe.imagesize, hframe.bufferSize, hframe.number]
      exact halloc.imagesize
    · rw [hframe.bufferSize]
      exact halloc.bufferSize
    · rw [hframe.timeoutJiffies] at hj
      exact hsome.mpr (h hj)

theorem ImagesKept.timeout_pending {cfg : Config} {mem : Allocation} {d : Device} {value : Int}
    (hd : ImagesKept d) (hready : d.readyForCapture = true)
    (h : ((d.setTimeout cfg value).allocateTimeoutImage mem).2.timeoutHappened = true) :
    ((d.setTimeout cfg value).allocateTimeoutImage mem).2.timeoutImage.isSome = true := by
  have hframe := (d.setTimeout_frame cfg value).trans
    ((d.setTimeout cfg value).allocateTimeoutImage_frame mem)
  exact hframe.timeoutImage (hd.pending hready (hframe.timeoutHappened h))

/-! ### Steps -/

/-- A step keeps the images when the allocations it relies on succeed. -/
theorem ImagesKept.step {cfg : Config} {s t : Driver} {call : Call} (hs : Accounted s)
    (hd : ImagesKept s.dev) (h : Step cfg s call t) (hok : AllocationsHold cfg s call) :
    ImagesKept t.dev := by
  cases h.move with
  | @openFailed file mem kzalloc ret d hfree hopen =>
      cases v4l2LoopbackOpen_move hopen with
      | refused => exact hd
      -- counted and then failed; no image is touched
      | leaked =>
          have hcounted : ImagesKept s.dev.countOpen := hd.same rfl hd.pending
          exact hcounted.frame (s.dev.opening_frame mem)
  | @opened file mem kzalloc ret d o hfree hopen =>
      cases v4l2LoopbackOpen_move hopen with
      | opened hcount hkzalloc hret =>
          show ImagesKept (openFormat cfg mem (s.dev.opening mem))
          have hframe := s.dev.opening_frame mem
          cases hready : s.dev.readyForCapture with
          -- the buffers of an earlier open are still there, and nothing is allocated
          | true =>
              have hcounted : ImagesKept s.dev.countOpen := hd.same rfl hd.pending
              rw [openFormat_ready (hframe.ready.trans hready)]
              exact hcounted.frame hframe
          | false =>
              have hio := timeoutImageIo_of_opened hs hready hret
              exact (openFormat_opening hs hready).kept_iff.mpr (hok hready hcount hkzalloc hio)
  | @closed file o hfile =>
      show ImagesKept (v4l2LoopbackClose s.dev)
      by_cases hfree : s.dev.openCount = 1 ∧ s.dev.keepFormat = false
      · rw [v4l2LoopbackClose_freed hfree.1 hfree.2]
        exact .of_not_ready rfl
      · rw [v4l2LoopbackClose_kept hfree]
        split <;> exact hd.same rfl hd.pending
  | @request file req o reply d o' hfile hreq =>
      obtain ⟨hready, hcount⟩ := hs.held hfile
      cases request_imageMove hready hcount hreq with
      | same hframe => exact hd.frame hframe
      | timeout value mem hsctrl hrange hd' =>
          subst hsctrl
          show ImagesKept d
          rw [hd']
          exact ⟨fun _ => (hd.timeout_iff hready).mpr (hok hrange.1 hrange.2),
            fun _ => hd.timeout_pending hready⟩
      | unallocated himage => exact absurd (hd.allocated hready).image (by simp [himage])
  | sustainTimer => exact hd.frame s.dev.sustainTimerClb_frame
  | timeoutTimer =>
      simp only [Device.timeoutTimerClb]
      split
      · rename_i hj
        exact hd.same rfl fun hready _ => (hd.allocated hready).timeoutImage hj
      · exact hd.same rfl hd.pending
  | @storeFormat text len reply d hstore =>
      rcases attrStoreFormat_dev hstore with rfl | ⟨num, den, -, -, he⟩
      · exact hd
      · exact hd.frame (Device.setTimeperframe_frame he)
  | @storeMaxopeners curr len =>
      rcases attrStoreMaxopeners_dev s.dev curr len with hsame | ⟨n, hset⟩
      · rwa [hsame]
      · rw [hset]
        exact hd.same rfl hd.pending

/-- Images that are kept are safe. -/
theorem ImagesKept.safe {cfg : Config} {s : Driver} (hs : Accounted s) (hd : ImagesKept s.dev) :
    ImagesSafe cfg s := by
  have hfault : ∀ call f, driverStep cfg s call = .error (.fault f) →
      f ≠ .nullImage ∧ f ≠ .nullTimeoutImage := by
    intro call f hfault
    obtain ⟨file, req, o, -, hfile, hreq⟩ := driverStep_fault hfault
    have hready := (hs.held hfile).1
    cases request_fault hreq with
    | image hmissing =>
        rcases hmissing with hnone | hidle
        · exact absurd (hd.allocated hready).image (by simp [hnone])
        · exact absurd (hready.symm.trans hidle) (by simp)
    | timeoutImage hhappened hnone =>
        exact absurd (hd.pending hready hhappened) (by simp [hnone])
    | _ => simp
  exact ⟨hd.allocated, fun call => ⟨fun h => (hfault call _ h).1 rfl,
    fun h => (hfault call _ h).2 rfl⟩⟩

/-- A pending timeout without a timeout image is found by the next capture. -/
theorem read_nullTimeoutImage {cfg : Config} {d : Device} {o : Opener} {pos : Nat} (hd : RingValid d)
    (hsize : 0 < d.bufferSize) (hhappened : d.timeoutHappened = true) (hnone : d.timeoutImage = none)
    (hpos : ringSlot (nextPosition d o).1 d.ring.usedBuffers = .ok pos) :
    request cfg d o (.read 0 ⟨false, true⟩ false) = .error .nullTimeoutImage := by
  have hindex : d.ring.bufpos2index pos < MAX_BUFFERS :=
    Nat.lt_of_lt_of_le (hd.map pos (ringSlot_eq_ok hpos).2) (hd.number ▸ hd.le)
  have harray : arrayIndex (d.ring.bufpos2index pos) = .ok (d.ring.bufpos2index pos) := by
    rw [arrayIndex, if_pos (by omega), Int.toNat_natCast]
  have hload : load d.captured.timeoutImage .nullTimeoutImage 0 d.captured.bufferSize =
      .error .nullTimeoutImage := by
    rw [d.captured_timeoutImage, d.captured_frame.bufferSize, hnone]
    exact if_neg (Nat.ne_of_gt hsize)
  have hcopy : copyTimeoutImage d.captured (d.ring.bufpos2index pos) = .error .nullTimeoutImage :=
    bind_eq_error.mpr (Or.inr ⟨_, harray, bind_eq_error.mpr (Or.inl hload)⟩)
  have hgo := captureIndex_go (w := ⟨false, true⟩) (d := d) (o := o) (Or.inr ⟨rfl, rfl⟩)
  rw [hpos] at hgo
  refine bind_eq_error.mpr (Or.inl (bind_eq_error.mpr (Or.inr ⟨_, hgo, ?_⟩)))
  simp only [hhappened, if_true]
  exact bind_eq_error.mpr (Or.inl hcopy)

/-- A handle that has caught up finds a position in the ring. -/
theorem ringSlot_caughtUp {d : Device} {o : Opener} (hd : RingValid d)
    (hcaught : d.writePosition = o.readPosition) (hzero : d.writePosition = 0) :
    ∃ pos, ringSlot (nextPosition d o).1 d.ring.usedBuffers = .ok pos := by
  have hpos := hd.pos
  have hle : d.ring.usedBuffers ≤ MAX_BUFFERS := hd.number ▸ hd.le
  have hsmall : MAX_BUFFERS = 16 := rfl
  rw [nextPosition_fst, if_pos hcaught, ← hcaught, hzero, toInt32_of_fits (by omega) (by omega)]
  exact ⟨_, ringSlot_of_nonneg (by omega) hpos hle⟩

/-- After a safe step the allocations it relied on have succeeded. -/
theorem ImagesSafe.needs {cfg : Config} {s t : Driver} {call : Call} (hs : Accounted s)
    (hring : RingInv s.dev) (hd : ImagesKept s.dev) (h : Step cfg s call t)
    (hsafe : ImagesSafe cfg t) : AllocationsHold cfg s call := by
  have hring' := (hring.step h).toRingValid
  cases h.move with
  | @openFailed file mem kzalloc ret d hfree hopen =>
      cases v4l2LoopbackOpen_move hopen with
      | refused _ hrefused =>
          intro _ hcount hkzalloc
          rcases hrefused with hbusy | hfail
          · omega
          · exact absurd (hkzalloc.symm.trans hfail) (by simp)
      | leaked _ hio =>
          intro _ _ _ hfalse
          exact absurd (hio.symm.trans hfalse) (by simp)
  | @opened file mem kzalloc ret d o hfree hopen =>
      intro hready _ _ _
      have hposition : d.writePosition = 0 := by
        exact (v4l2LoopbackOpen_same hopen).writePosition.trans (hs.idle hready).2.2.2
      cases v4l2LoopbackOpen_move hopen with
      | opened =>
          have hfresh : Fresh cfg mem _ _ := openFormat_opening hs hready
          refine hfresh.kept_iff.mp ⟨hsafe.1, fun hready' hhappened => ?_⟩
          -- without its image the pending timeout stops the first read of the new handle
          rw [Option.isSome_iff_ne_none]
          intro hnone
          obtain ⟨pos, hpos⟩ := ringSlot_caughtUp (o := { timeoutImageIo := s.dev.timeoutImageIo })
            hring' hposition hposition
          have hread : request cfg _ _ _ = _ :=
            read_nullTimeoutImage hring' (hsafe.1 hready').bufferSize hhappened hnone hpos
          apply (hsafe.2 (.request file (.read 0 ⟨false, true⟩ false))).2
          simp only [driverStep, Driver.afterRequest, AList.lookup_insert] at hread ⊢
          rw [hread]
  | @request file req o reply d o' hfile hreq =>
      obtain ⟨hready, hcount⟩ := hs.held hfile
      cases req with
      | sCtrl ctrl value mem =>
          cases ctrl with
          | timeout =>
              intro hlo hhi
              simp only [request, Except.ok.injEq, Prod.mk.injEq] at hreq
              obtain ⟨-, rfl, -⟩ := hreq
              have hd' := vidiocSCtrl_timeout cfg mem s.dev value
              rw [if_neg (by omega)] at hd'
              have hframe := (s.dev.setTimeout_frame cfg value).trans
                ((s.dev.setTimeout cfg value).allocateTimeoutImage_frame mem)
              apply (hd.timeout_iff hready).mp
              rw [← hd']
              apply hsafe.1
              show (vidiocSCtrl cfg mem s.dev .timeout value).2.readyForCapture = true
              rw [hd']
              exact hframe.ready.trans hready
          | _ => trivial
      | _ => trivial
  | _ => trivial

/-- **When the images of a ready device are always there**: in every state of a run,
    exactly when every allocation the driver does not check succeeds. -/
theorem images_allocated_iff {cfg : Config} {s : Driver} {calls : List Call}
    (h : Run (Step cfg) (Driver.init cfg) calls s) :
    (∀ bs u, bs <+: calls → Run (Step cfg) (Driver.init cfg) bs u → ImagesSafe cfg u) ↔
      Run (Guarded (AllocationsHold cfg) (Step cfg)) (Driver.init cfg) calls s := by
  have haux : ∀ s a t, Accounted s ∧ RingInv s.dev → Step cfg s a t → Accounted t ∧ RingInv t.dev :=
    fun s a t hs hstep => ⟨hs.1.step hstep, hs.2.step hstep⟩
  have hsafe : ∀ s, Accounted s ∧ RingInv s.dev → ImagesKept s.dev → ImagesSafe cfg s :=
    fun s hs hd => hd.safe hs.1
  exact Run.guarded_iff_of_inv (ofNext_deterministic _) haux
    hsafe (fun s a t hs hd hstep hok => hd.step hs.1 hstep hok)
    (fun s a t hs hd hstep hsafe => hsafe.needs hs.1 hs.2 hd hstep)
    ⟨Accounted.init cfg, RingInv.init cfg⟩ (ImagesKept.init cfg) h

/-- A timeout is set, happens, and its image is read. -/
theorem images_allocated_iff_timeout :
    ∃ s, Run (Step ⟨640, 480, 100⟩) (Driver.init ⟨640, 480, 100⟩)
        [.openDevice 1 granting true, .request 1 (.sCtrl .timeout 1000 granting), .timeoutTimer,
          .request 1 (.read 4 ⟨false, false⟩ false), .closeDevice 1] s ∧
      ∀ bs u, bs <+: [.openDevice 1 granting true, .request 1 (.sCtrl .timeout 1000 granting),
          .timeoutTimer, .request 1 (.read 4 ⟨false, false⟩ false), .closeDevice 1] →
        Run (Step ⟨640, 480, 100⟩) (Driver.init ⟨640, 480, 100⟩) bs u →
          ImagesSafe ⟨640, 480, 100⟩ u := by
  obtain ⟨s, hs⟩ := Option.isSome_iff_exists.mp (by decide +kernel :
    (execute (guard (AllocationsHold ⟨640, 480, 100⟩) (next ⟨640, 480, 100⟩))
      (Driver.init ⟨640, 480, 100⟩)
      [.openDevice 1 granting true, .request 1 (.sCtrl .timeout 1000 granting), .timeoutTimer,
        .request 1 (.read 4 ⟨false, false⟩ false), .closeDevice 1]).isSome = true)
  have hguarded := Run.of_execute_guard hs
  exact ⟨s, hguarded.of_guarded, (images_allocated_iff hguarded.of_guarded).mpr hguarded⟩

/-- The open whose `vmalloc` fails leaves a device that is ready without an image. -/
theorem images_missing :
    ¬ ∀ (cfg : Config) (s : Driver) calls, Run (Step cfg) (Driver.init cfg) calls s →
      ImagesSafe cfg s := by
  intro h
  obtain ⟨s, hs, hvalues⟩ := Option.map_eq_some_iff.mp (by decide +kernel :
    (execute (next ⟨640, 480, 100⟩) (Driver.init ⟨640, 480, 100⟩)
      [.openDevice 1 ⟨none, false⟩ true]).map
      (fun s => (s.dev.readyForCapture, s.dev.image.isSome)) = some (true, false))
  simp only [Prod.mk.injEq] at hvalues
  have halloc := (h _ s _ (Run.of_execute hs)).1 hvalues.1
  exact absurd halloc.image (by simp [hvalues.2])

end DroidCam.Loopback
