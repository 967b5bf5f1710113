import DroidCam.Loopback.Images

/-
  DroidCam/Loopback/Sessions.lean
  ===============================
  Opening and closing the device.

  The first open fixes the format for as long as a handle is open and allocates
  one slot for each buffer; `Fresh` says what it leaves.  `Accounted` relates the
  open handles to the state of the device: the count covers them, and a device
  that somebody holds is ready for capture.
-/

namespace DroidCam.Loopback

open CArith ByteMemory LabelledRun

/-! ### The format of the first open

The open formats the device and allocates for it in one go, so what it leaves depends on
what the allocators answered. -/

/-- The size of an image: the module parameters as `__u32`, clamped. -/
def Config.imageSize (cfg : Config) : Nat :=
  yuv420Size
    (clampSize (toUInt32 cfg.width).toNat V4L2LOOPBACK_SIZE_MAX_WIDTH
      V4L2LOOPBACK_SIZE_DEFAULT_WIDTH)
    (clampSize (toUInt32 cfg.height).toNat V4L2LOOPBACK_SIZE_MAX_HEIGHT
      V4L2LOOPBACK_SIZE_DEFAULT_HEIGHT)

/-- The size of a buffer's slot in `image`. -/
def Config.slotSize (cfg : Config) : Nat := pageAlign cfg.imageSize

theorem Config.imageSize_bounds (cfg : Config) : 1 ≤ cfg.imageSize ∧ cfg.imageSize ≤ 100663296 := by
  have hw := clampSize_bounds (x := (toUInt32 cfg.width).toNat)
    (show 1 ≤ V4L2LOOPBACK_SIZE_DEFAULT_WIDTH by decide)
    (show V4L2LOOPBACK_SIZE_DEFAULT_WIDTH ≤ V4L2LOOPBACK_SIZE_MAX_WIDTH by decide)
  have hh := clampSize_bounds (x := (toUInt32 cfg.height).toNat)
    (show 1 ≤ V4L2LOOPBACK_SIZE_DEFAULT_HEIGHT by decide)
    (show V4L2LOOPBACK_SIZE_DEFAULT_HEIGHT ≤ V4L2LOOPBACK_SIZE_MAX_HEIGHT by decide)
  exact yuv420Size_bounds hw.1 hh.1 hw.2 hh.2

theorem Config.slotSize_bounds (cfg : Config) :
    cfg.imageSize ≤ cfg.slotSize ∧ 4096 ≤ cfg.slotSize ∧ cfg.slotSize ≤ 100663296 := by
  have himage := cfg.imageSize_bounds
  have halign := pageAlign_bounds himage.1 himage.2
  exact ⟨halign.1, halign.2.2.1, halign.2.2.2⟩

/-- The format `v4l2_loopback_open` gets on a free device. -/
theorem tryPixFormat_default (cfg : Config) (f : V4l2PixFormat) :
    (tryPixFormat (defaultFormat cfg f)).sizeimage = cfg.imageSize := by
  have hw := clampSize_bounds (x := (toUInt32 cfg.width).toNat)
    (show 1 ≤ V4L2LOOPBACK_SIZE_DEFAULT_WIDTH by decide)
    (show V4L2LOOPBACK_SIZE_DEFAULT_WIDTH ≤ V4L2LOOPBACK_SIZE_MAX_WIDTH by decide)
  have hh := clampSize_bounds (x := (toUInt32 cfg.height).toNat)
    (show 1 ≤ V4L2LOOPBACK_SIZE_DEFAULT_HEIGHT by decide)
    (show V4L2LOOPBACK_SIZE_DEFAULT_HEIGHT ≤ V4L2LOOPBACK_SIZE_MAX_HEIGHT by decide)
  simp only [tryPixFormat, defaultFormat, formatByFourcc_yuv420, Option.getD_some]
  exact sizeimage_yuv420 hw.2 hh.2

/-- What the open of a device that is not ready leaves. -/
structure Fresh (cfg : Config) (mem : Allocation) (e d : Device) : Prop where
  ready : d.readyForCapture = true
  image : d.image = mem.vmalloc
  bufferSize : d.bufferSize = cfg.slotSize
  imagesize : d.imagesize = d.bufferSize * d.ring.buffersNumber
  timeoutJiffies : d.timeoutJiffies = e.timeoutJiffies
  timeoutHappened : d.timeoutHappened = e.timeoutHappened
  timeoutImage : d.timeoutImage.isSome = true ↔ 0 < e.timeoutJiffies ∧ mem.vzalloc = true
  openCount : d.openCount = e.openCount
  buffers : mem.vmalloc.isSome = true → ∀ i < d.ring.buffersNumber, d.buffers i = d.initialBuffer i

theorem Device.allocateTimeoutImage_of_none {mem : Allocation} {d : Device}
    (hsize : d.bufferSize ≠ 0) (hnone : d.timeoutImage = none) :
    ∃ t, (d.allocateTimeoutImage mem).2 = { d with timeoutImage := t } ∧
      (t.isSome = true ↔ mem.vzalloc = true) := by
  rw [Device.allocateTimeoutImage, if_neg hsize, if_pos (by rw [hnone]; rfl)]
  cases hz : mem.vzalloc
  · refine ⟨none, ?_, by simp⟩
    cases d
    cases hnone
    rfl
  · exact ⟨_, rfl, by simp⟩

/-- `vmallocBuffers` on a device without a timeout image. -/
theorem Device.vmallocBuffers_fresh {cfg : Config} {mem : Allocation} {e : Device}
    (hsize : e.bufferSize = cfg.slotSize) (htimeout : e.timeoutImage = none) :
    Fresh cfg mem e (e.vmallocBuffers mem).2.setReady := by
  have hne : (e.vmallocImage mem).bufferSize ≠ 0 := by
    have := cfg.slotSize_bounds
    rw [show (e.vmallocImage mem).bufferSize = cfg.slotSize from hsize]
    omega
  -- the timeout image that `allocate_buffers` leaves, and nothing else that shows
  have hsecond : ∃ t, (if 0 < (e.vmallocImage mem).timeoutJiffies
        then ((e.vmallocImage mem).allocateTimeoutImage mem).2 else e.vmallocImage mem) =
          { e.vmallocImage mem with timeoutImage := t } ∧
      (t.isSome = true ↔ 0 < e.timeoutJiffies ∧ mem.vzalloc = true) := by
    by_cases hj : 0 < e.timeoutJiffies
    · obtain ⟨t, ht, hiff⟩ : ∃ t, ((e.vmallocImage mem).allocateTimeoutImage mem).2 = _ ∧ _ :=
        Device.allocateTimeoutImage_of_none hne htimeout
      refine ⟨t, (if_pos hj).trans ht, ?_⟩
      simp [hiff, hj]
    · refine ⟨e.timeoutImage, if_neg hj, ?_⟩
      simp [htimeout, hj]
  obtain ⟨t, hd, hiff⟩ := hsecond
  simp only [Device.vmallocBuffers, hd]
  split
  · rename_i hvmalloc
    refine ⟨rfl, rfl, hsize, rfl, rfl, rfl, hiff, rfl, fun hsome => ?_⟩
    have himage : mem.vmalloc.isNone = true := hvmalloc
    simp [Option.isNone_iff_eq_none.mp himage] at hsome
  · exact ⟨rfl, rfl, hsize, rfl, rfl, rfl, hiff, rfl, fun _ i hi => if_pos hi⟩

theorem Device.allocateBuffers_of_none {mem : Allocation} {d : Device} (hsize : d.bufferSize ≠ 0)
    (hnone : d.image = none) : d.allocateBuffers mem = d.vmallocBuffers mem := by
  rw [Device.allocateBuffers, if_neg hsize, if_neg (by rw [hnone]; simp)]

/-- The format step of an open on a device that is not ready allocates. -/
theorem openFormat_of_not_ready {cfg : Config} {mem : Allocation} {e : Device}
    (hready : e.readyForCapture = false) :
    ∃ f, openFormat cfg mem e =
      (((e.setPixFormat f).setBufferSize cfg.slotSize).allocateBuffers mem).2.setReady := by
  have hsize : pageAlign (tryPixFormat (defaultFormat cfg e.pixFormat)).sizeimage =
      cfg.slotSize := by
    rw [tryPixFormat_default]
    rfl
  refine ⟨tryPixFormat (defaultFormat cfg e.pixFormat), ?_⟩
  rw [openFormat, vidiocSFmtOut, vidiocTryFmtOut, if_neg (by simp [hready])]
  simp only [Device.setPixFormat, hready, Bool.false_eq_true, if_false, hsize]

theorem openFormat_fresh {cfg : Config} {mem : Allocation} {e : Device}
    (hready : e.readyForCapture = false) (himage : e.image = none)
    (htimeout : e.timeoutImage = none) :
    Fresh cfg mem e (openFormat cfg mem e) := by
  obtain ⟨f, hformat⟩ := (openFormat_of_not_ready hready : ∃ f, openFormat cfg mem e = _)
  have hne : ((e.setPixFormat f).setBufferSize cfg.slotSize).bufferSize ≠ 0 := by
    have := cfg.slotSize_bounds
    show cfg.slotSize ≠ 0
    omega
  have hfresh : Fresh cfg mem ((e.setPixFormat f).setBufferSize cfg.slotSize)
      (((e.setPixFormat f).setBufferSize cfg.slotSize).vmallocBuffers mem).2.setReady :=
    Device.vmallocBuffers_fresh rfl htimeout
  rw [hformat, Device.allocateBuffers_of_none hne himage]
  exact ⟨hfresh.ready, hfresh.image, hfresh.bufferSize, hfresh.imagesize, hfresh.timeoutJiffies,
    hfresh.timeoutHappened, hfresh.timeoutImage, hfresh.openCount, hfresh.buffers⟩

/-- On a ready device the format step does nothing. -/
theorem openFormat_ready {cfg : Config} {mem : Allocation} {e : Device}
    (hready : e.readyForCapture = true) : openFormat cfg mem e = e := by
  have htry : vidiocTryFmtOut e (defaultFormat cfg e.pixFormat) = (e.pixFormat, e) := if_pos hready
  simp only [openFormat, vidiocSFmtOut, htry, hready, if_true]
  cases e
  cases hready
  rfl

/-! ### Opening

Three outcomes: refused before it was counted, failed after, or a handle. -/

/-- The device that an open counts, with the timeout image if it asked for it. -/
def Device.opening (mem : Allocation) (d : Device) : Device :=
  if d.timeoutImageIo then (d.countOpen.allocateTimeoutImage mem).2 else d.countOpen

/-- The ways through `v4l2_loopback_open`. -/
inductive OpenMove (cfg : Config) (mem : Allocation) (kzalloc : Bool) (d : Device) :
    Int → Device → Option Opener → Prop
  | refused (ret : Int) (h : d.openCount ≥ d.maxOpeners ∨ kzalloc = false) :
      OpenMove cfg mem kzalloc d ret d none
  | leaked (ret : Int) (hio : d.timeoutImageIo = true)
      (hret : (d.countOpen.allocateTimeoutImage mem).1 < 0) :
      OpenMove cfg mem kzalloc d ret (d.opening mem) none
  | opened (hcount : d.openCount < d.maxOpeners) (hkzalloc : kzalloc = true)
      (hret : d.timeoutImageIo = true → ¬(d.countOpen.allocateTimeoutImage mem).1 < 0) :
      OpenMove cfg mem kzalloc d 0 (openFormat cfg mem (d.opening mem))
        (some { timeoutImageIo := d.timeoutImageIo })

theorem v4l2LoopbackOpen_move {cfg : Config} {mem : Allocation} {kzalloc : Bool} {d d' : Device}
    {ret : Int} {o : Option Opener} (h : v4l2LoopbackOpen cfg mem kzalloc d = (ret, d', o)) :
    OpenMove cfg mem kzalloc d ret d' o := by
  unfold v4l2LoopbackOpen at h
  split at h
  · rename_i hbusy
    cases h
    exact .refused _ (Or.inl hbusy)
  · rename_i hbusy
    split at h
    · rename_i hkzalloc
      cases h
      exact .refused _ (Or.inr hkzalloc)
    · rename_i hkzalloc
      have hcount : d.openCount < d.maxOpeners := by omega
      have hk : kzalloc = true := by simpa using hkzalloc
      split at h
      · rename_i hio
        have hopening : d.opening mem = (d.countOpen.allocateTimeoutImage mem).2 := if_pos hio
        simp only [← hopening] at h
        split at h
        · rename_i hret
          cases h
          -- the count stays, and there is no handle for it
          exact .leaked _ hio hret
        · rename_i hret
          cases h
          rw [← hio]
          exact .opened hcount hk fun _ => hret
      · rename_i hio
        have hopening : d.opening mem = d.countOpen := if_neg hio
        have hfalse : d.timeoutImageIo = false := by simpa using hio
        cases h
        rw [← hopening]
        have hmove : OpenMove cfg mem kzalloc d 0 (openFormat cfg mem (d.opening mem))
            (some { timeoutImageIo := d.timeoutImageIo }) :=
          .opened hcount hk fun htrue => absurd htrue hio
        rwa [hfalse] at hmove

/-! ### Handles and the device

The handles that are open and the fields of the device that follow them. -/

theorem keys_length_insert {openers : AList fun _ : Nat => Opener} {file : Nat} {o o' : Opener}
    (h : openers.lookup file = some o) :
    (openers.insert file o').keys.length = openers.keys.length := by
  have hmem : file ∈ openers.keys := AList.mem_keys.mp (AList.lookup_isSome.mp (by simp [h]))
  rw [AList.keys_insert, List.length_cons, List.length_erase_of_mem hmem]
  have := List.length_pos_of_mem hmem
  omega

theorem keys_length_insert_new {openers : AList fun _ : Nat => Opener} {file : Nat} {o : Opener}
    (h : openers.lookup file = none) :
    (openers.insert file o).keys.length = openers.keys.length + 1 := by
  have hmem : file ∉ openers.keys := fun hm =>
    AList.lookup_eq_none.mp h (AList.mem_keys.mpr hm)
  rw [AList.keys_insert, List.length_cons, List.erase_of_not_mem hmem]

theorem keys_length_erase {openers : AList fun _ : Nat => Opener} {file : Nat} {o : Opener}
    (h : openers.lookup file = some o) :
    (openers.erase file).keys.length + 1 = openers.keys.length := by
  have hmem : file ∈ openers.keys := AList.mem_keys.mp (AList.lookup_isSome.mp (by simp [h]))
  rw [AList.keys_erase, List.length_erase_of_mem hmem]
  have := List.length_pos_of_mem hmem
  omega

/-- What relates the open handles to the device in every reachable state. -/
structure Accounted (s : Driver) : Prop where
  counted : (s.openers.keys.length : Int) ≤ s.dev.openCount
  ready : s.openers.keys.length ≠ 0 → s.dev.readyForCapture = true
  idle : s.dev.readyForCapture = false → s.dev.image = none ∧ s.dev.timeoutImage = none ∧
    s.dev.bufferSize = 0 ∧ s.dev.writePosition = 0

theorem keys_length_pos {openers : AList fun _ : Nat => Opener} {file : Nat} {o : Opener}
    (h : openers.lookup file = some o) : openers.keys.length ≠ 0 := by
  have hmem : file ∈ openers.keys := AList.mem_keys.mp (AList.lookup_isSome.mp (by simp [h]))
  exact Nat.ne_of_gt (List.length_pos_of_mem hmem)

/-- The device of an open handle is ready and counted. -/
theorem Accounted.held {s : Driver} (hs : Accounted s) {file : Nat} {o : Opener}
    (h : s.openers.lookup file = some o) :
    s.dev.readyForCapture = true ∧ s.dev.openCount ≠ 0 := by
  have hpos := keys_length_pos h
  have hcounted := hs.counted
  exact ⟨hs.ready hpos, by omega⟩

theorem Accounted.init (cfg : Config) : Accounted (Driver.init cfg) where
  counted := Int.le_refl 0
  ready := fun h => absurd rfl h
  idle := fun _ => ⟨rfl, rfl, rfl, rfl⟩

theorem Device.opening_frame (mem : Allocation) (d : Device) :
    ImageFrame d.countOpen (d.opening mem) := by
  unfold Device.opening
  split
  · exact d.countOpen.allocateTimeoutImage_frame mem
  · exact ImageFrame.refl _

/-- A device without buffers has no use for a timeout image. -/
theorem Device.opening_idle {mem : Allocation} {d : Device} (hsize : d.bufferSize = 0) :
    d.opening mem = d.countOpen := by
  unfold Device.opening
  split
  · rw [Device.allocateTimeoutImage, if_pos (show d.countOpen.bufferSize = 0 from hsize)]
  · rfl

theorem openFormat_openCount (cfg : Config) (mem : Allocation) (e : Device) :
    (openFormat cfg mem e).openCount = e.openCount := by
  have halloc := fun f : Device => (f.allocateBuffers_kept mem).2
  by_cases hready : e.readyForCapture = true
  · rw [openFormat_ready hready]
  · have hfalse : e.readyForCapture = false := by simpa using hready
    rw [openFormat, vidiocSFmtOut, vidiocTryFmtOut, if_neg hready]
    simp only [Device.setPixFormat, hfalse, Bool.false_eq_true, if_false]
    exact halloc _

theorem v4l2LoopbackClose_freed {d : Device} (hcount : d.openCount = 1)
    (hkeep : d.keepFormat = false) :
    v4l2LoopbackClose d = { d.countClose.deleteTimers.freeBuffers with
      readyForCapture := false, bufferSize := 0, writePosition := 0 } := by
  have hzero : d.countClose.openCount = 0 := by
    show d.openCount - 1 = 0
    omega
  rw [v4l2LoopbackClose]
  simp only [hzero, if_true]
  exact if_pos ⟨hzero, hkeep⟩

theorem v4l2LoopbackClose_kept {d : Device} (h : ¬(d.openCount = 1 ∧ d.keepFormat = false)) :
    v4l2LoopbackClose d = if d.openCount = 1 then d.countClose.deleteTimers else d.countClose := by
  have hzero : d.countClose.openCount = 0 ↔ d.openCount = 1 := by
    show d.openCount - 1 = 0 ↔ d.openCount = 1
    omega
  rw [v4l2LoopbackClose]
  simp only [hzero]
  split
  · rename_i hone
    exact if_neg fun hfree => h ⟨hone, hfree.2⟩
  · rename_i hone
    exact if_neg fun hfree => hone (hzero.mp hfree.1)

theorem v4l2LoopbackClose_openCount (d : Device) :
    (v4l2LoopbackClose d).openCount = d.openCount - 1 := by
  by_cases hfree : d.openCount = 1 ∧ d.keepFormat = false
  · rw [v4l2LoopbackClose_freed hfree.1 hfree.2]
    rfl
  · rw [v4l2LoopbackClose_kept hfree]
    split <;> rfl

theorem Accounted.setMaxOpeners {s : Driver} (hs : Accounted s) (n : Int) :
    Accounted { s with dev := s.dev.setMaxOpeners n } :=
  ⟨hs.counted, hs.ready, hs.idle⟩

/-- A request on an open handle opens and closes nothing. -/
theorem Accounted.request_kept {cfg : Config} {s : Driver} {file : Nat} {o o' : Opener}
    {req : Request} {reply : Reply} {d : Device} (hs : Accounted s)
    (hfile : s.openers.lookup file = some o)
    (hreq : request cfg s.dev o req = .ok (reply, d, o')) :
    d.readyForCapture = s.dev.readyForCapture ∧ d.openCount = s.dev.openCount := by
  obtain ⟨hready, hcount⟩ := hs.held hfile
  cases request_imageMove hready hcount hreq with
  | same hframe => exact ⟨hframe.ready, hframe.openCount⟩
  | timeout value mem _ _ hd =>
      have hset := Device.checkTimers_frame
        { s.dev with timeoutJiffies := cfg.msecsToJiffies value.toNat }
      have halloc := (s.dev.setTimeout cfg value).allocateTimeoutImage_frame mem
      rw [hd]
      exact ⟨halloc.ready.trans hset.ready, halloc.openCount.trans hset.openCount⟩
  | unallocated _ hready' hcount' => exact ⟨hready', hcount'⟩

/-- The handles stay accounted for. -/
theorem Accounted.step {cfg : Config} {s t : Driver} {call : Call} (hs : Accounted s)
    (h : Step cfg s call t) : Accounted t := by
  cases h.move with
  | @openFailed file mem kzalloc ret d hfree hopen =>
      cases v4l2LoopbackOpen_move hopen with
      | refused => exact hs
      | leaked _ hio hret =>
          have hframe := s.dev.opening_frame mem
          refine ⟨?_, fun hne => hframe.ready.trans (hs.ready hne), fun hidle => ?_⟩
          · have hcount : (s.dev.opening mem).openCount = s.dev.openCount + 1 := hframe.openCount
            have := hs.counted
            simp only
            omega
          · obtain ⟨himage, htimeout, hsize, hpos⟩ := hs.idle (hframe.ready.symm.trans hidle)
            simp only [Device.opening_idle hsize]
            exact ⟨himage, htimeout, hsize, hpos⟩
  | @opened file mem kzalloc ret d o hfree hopen =>
      cases v4l2LoopbackOpen_move hopen with
      | opened =>
          refine ⟨?_, fun _ => rfl, fun hidle => by cases hidle⟩
          have hcount : (openFormat cfg mem (s.dev.opening mem)).openCount = s.dev.openCount + 1 :=
            (openFormat_openCount cfg mem _).trans (s.dev.opening_frame mem).openCount
          have := hs.counted
          simp only [Driver.afterRequest, keys_length_insert_new hfree]
          omega
  | @closed file o hfile =>
      have hlen := keys_length_erase hfile
      have hcounted := hs.counted
      have hready := (hs.held hfile).1
      by_cases hfree : s.dev.openCount = 1 ∧ s.dev.keepFormat = false
      · rw [v4l2LoopbackClose_freed hfree.1 hfree.2]
        refine ⟨?_, fun hne => ?_, fun _ => ⟨rfl, rfl, rfl, rfl⟩⟩
        · show _ ≤ s.dev.openCount - 1
          simp only
          omega
        · simp only at hne
          omega
      · rw [v4l2LoopbackClose_kept hfree]
        refine ⟨?_, fun _ => ?_, fun hidle => ?_⟩
        · have hcount : (if s.dev.openCount = 1 then s.dev.countClose.deleteTimers
              else s.dev.countClose).openCount = s.dev.openCount - 1 := by
            split <;> rfl
          simp only [hcount]
          omega
        · simp only
          split <;> exact hready
        · simp only at hidle
          split at hidle <;> exact absurd (hready.symm.trans hidle) (by simp)
  | @request file req o reply d o' hfile hreq =>
      have hready := (hs.held hfile).1
      have hkept := hs.request_kept hfile hreq
      refine ⟨?_, fun _ => hkept.1.trans hready, fun hidle => ?_⟩
      · simp only [Driver.afterRequest, keys_length_insert hfile, hkept.2]
        exact hs.counted
      · exact absurd ((hkept.1.trans hready).symm.trans hidle) (by simp)
  | sustainTimer hpending =>
      have hframe := s.dev.sustainTimerClb_frame
      refine ⟨hframe.openCount ▸ hs.counted, fun hne => hframe.ready.trans (hs.ready hne), ?_⟩
      simp only [Device.sustainTimerClb]
      split <;> exact hs.idle
  | timeoutTimer hpending =>
      simp only [Device.timeoutTimerClb]
      split <;> exact ⟨hs.counted, hs.ready, hs.idle⟩
  | @storeFormat text len reply d hstore =>
      rcases attrStoreFormat_dev hstore with rfl | ⟨num, den, -, -, hset⟩
      · exact hs
      · obtain ⟨-, rfl⟩ := Device.setTimeperframe_eq_ok hset
        exact ⟨hs.counted, hs.ready, hs.idle⟩
  | @storeMaxopeners curr len =>
      rcases attrStoreMaxopeners_dev s.dev curr len with hsame | ⟨n, hset⟩
      · rwa [hsame]
      · rw [hset]
        exact hs.setMaxOpeners n

theorem Accounted.run {cfg : Config} {s : Driver} {calls : List Call}
    (h : Run (Step cfg) (Driver.init cfg) calls s) : Accounted s :=
  Run.invariant (fun _ _ _ hs hstep => hs.step hstep) (Accounted.init cfg) h

end DroidCam.Loopback
