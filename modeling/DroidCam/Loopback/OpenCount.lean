import DroidCam.Loopback.Sessions
import DroidCam.Loopback.Standing

/-
  DroidCam/Loopback/OpenCount.lean
  ================================
  `open_count` against the handles that are really open.

  `v4l2_loopback_open` counts an opener before the last step that can fail, and does
  not take the count back when that step fails: a client that set
  `timeout_image_io` and closed again leaves a device whose next open leaks a count.
  And `max_openers` is compared as `unsigned long`, but stored as `int`.
-/

namespace DroidCam.Loopback

open CArith LabelledRun

/-! ### The count

The driver compares a number that it keeps by hand. -/

/-- The count is that of the open handles, and within the limit. -/
structure OpensCounted (s : Driver) : Prop where
  counted : s.dev.openCount = s.openers.keys.length
  limit : s.dev.openCount ≤ s.dev.maxOpeners

/-- The last close brings the count to 0, and frees the buffers if the format need not
    be kept. -/
def LastCloseFrees (cfg : Config) (s : Driver) : Prop :=
  ∀ file t, s.openers.keys = [file] → Step cfg s (.closeDevice file) t →
    t.dev.openCount = 0 ∧
      (s.dev.keepFormat = false → t.dev.image = none ∧ t.dev.timeoutImage = none ∧
        t.dev.readyForCapture = false ∧ t.dev.bufferSize = 0 ∧ t.dev.writePosition = 0)

/-- The timeout image is there or can be allocated. -/
def Device.TimeoutImageReady (d : Device) (mem : Allocation) : Prop :=
  d.bufferSize ≠ 0 ∧ (d.timeoutImage.isSome = true ∨ mem.vzalloc = true)

/-- An open that is counted succeeds, and a limit that is stored is not exceeded. -/
def CountKept (s : Driver) : Call → Prop
  | .openDevice _ mem kzalloc =>
    s.dev.openCount < s.dev.maxOpeners → kzalloc = true → s.dev.timeoutImageIo = true →
      s.dev.TimeoutImageReady mem
  | .storeMaxopeners (some curr) _ =>
    toSize s.dev.maxOpeners = curr ∨ toSize s.dev.openCount > curr ∨
      s.dev.openCount ≤ toInt32 curr
  | _ => True

instance (d : Device) (mem : Allocation) : Decidable (d.TimeoutImageReady mem) :=
  inferInstanceAs (Decidable (_ ∧ _))

instance (s : Driver) : ∀ call, Decidable (CountKept s call)
  | .openDevice _ mem kzalloc =>
    inferInstanceAs (Decidable (s.dev.openCount < s.dev.maxOpeners → kzalloc = true →
      s.dev.timeoutImageIo = true → s.dev.TimeoutImageReady mem))
  | .storeMaxopeners (some curr) _ =>
    inferInstanceAs (Decidable (toSize s.dev.maxOpeners = curr ∨ toSize s.dev.openCount > curr ∨
      s.dev.openCount ≤ toInt32 curr))
  | .storeMaxopeners none _ | .closeDevice _ | .request _ _ | .sustainTimer | .timeoutTimer
  | .storeFormat _ _ => isTrue trivial

theorem OpensCounted.init (cfg : Config) : OpensCounted (Driver.init cfg) where
  counted := rfl
  limit := show (0 : Int) ≤ MAX_OPENERS by decide

variable {cfg : Config} {s t : Driver} {call : Call}

/-- With the right count the last close is seen as the last one. -/
theorem OpensCounted.lastCloseFrees (hs : OpensCounted s) : LastCloseFrees cfg s := by
  intro file t hkeys hclose
  have hcount : s.dev.openCount = 1 := by
    rw [hs.counted, hkeys]
    rfl
  cases hclose.move with
  | closed hfile =>
      refine ⟨?_, fun hkeep => ?_⟩
      · rw [v4l2LoopbackClose_openCount, hcount]
        rfl
      · rw [v4l2LoopbackClose_freed hcount hkeep]
        exact ⟨rfl, rfl, rfl, rfl, rfl⟩

/-! ### Steps

Two calls can make it wrong: an open that fails after it has been counted, and a limit
that is read as one number and stored as another. -/

/-- When the step that can still fail fails. -/
theorem allocateTimeoutImage_fails_iff {mem : Allocation} {d : Device} :
    (d.countOpen.allocateTimeoutImage mem).1 < 0 ↔ ¬d.TimeoutImageReady mem := by
  have hinval : -EINVAL < 0 := by decide
  have hnomem : -ENOMEM < 0 := by decide
  have hsize : d.countOpen.bufferSize = d.bufferSize := rfl
  have himage : d.countOpen.timeoutImage = d.timeoutImage := rfl
  rw [Device.allocateTimeoutImage, Device.TimeoutImageReady, hsize, himage]
  split_ifs with hzero hnone hvzalloc
  · simp [hzero]
  · simp [hzero, hvzalloc]
  · simp [hzero, hvzalloc, Option.isNone_iff_eq_none.mp hnone]
  · simp [hzero, Option.isSome_iff_ne_none, mt Option.isNone_iff_eq_none.mpr hnone]

/-- No request changes the limit. -/
theorem StandingMove.maxOpeners {d d' : Device} {o : Opener} {req : Request}
    (h : StandingMove cfg d d' o req) : d'.maxOpeners = d.maxOpeners := by
  cases h with
  | same hstanding => exact hstanding.maxOpeners
  | interval type tpf hreq htype hset =>
      obtain ⟨-, rfl⟩ := Device.setTimeperframe_eq_ok hset
      rfl
  | timeout value mem hreq hrange hd =>
      rw [hd]
      exact (d.setTimeout_standing cfg mem value).maxOpeners
  | written e buf hreq hsame hwritten =>
      exact (Device.bufferWritten_standing hwritten).maxOpeners.trans hsame.maxOpeners

/-- An open that fails and leaves another count has passed the first two checks. -/
theorem v4l2LoopbackOpen_counted {mem : Allocation} {kzalloc : Bool} {d d' : Device} {ret : Int}
    {o : Option Opener} (h : v4l2LoopbackOpen cfg mem kzalloc d = (ret, d', o))
    (hcount : d'.openCount ≠ d.openCount) : d.openCount < d.maxOpeners ∧ kzalloc = true := by
  unfold v4l2LoopbackOpen at h
  split at h
  · cases h
    exact absurd rfl hcount
  · split at h
    · cases h
      exact absurd rfl hcount
    · rename_i hbusy hkzalloc
      exact ⟨by omega, by simpa using hkzalloc⟩

/-- The limit that the attribute stores. -/
theorem attrStoreMaxopeners_limit (curr : Option Nat) (len : Nat) {d : Device}
    (hd : d.openCount ≤ d.maxOpeners) :
    d.openCount ≤ (attrStoreMaxopeners d curr len).2.maxOpeners ↔
      ∀ n, curr = some n → toSize d.maxOpeners = n ∨ toSize d.openCount > n ∨
        d.openCount ≤ toInt32 n := by
  cases curr with
  | none => exact iff_of_true hd (by simp)
  | some n =>
      simp only [attrStoreMaxopeners, Option.some.injEq, forall_eq']
      split_ifs with hsame hattached
      · exact iff_of_true hd (Or.inl hsame)
      · exact iff_of_true hd (Or.inr (Or.inl hattached))
      · simp only [hsame, hattached, false_or]
        exact Iff.rfl

/-- The count stays right over a step exactly when no counted open fails and no limit
    below it is stored. -/
theorem OpensCounted.step_iff (haux : Accounted s) (hs : OpensCounted s) (h : Step cfg s call t) :
    OpensCounted t ↔ CountKept s call := by
  have hcounted := hs.counted
  have hlimit := hs.limit
  cases h.move with
  | @openFailed file mem kzalloc ret d hfree hopen =>
      cases v4l2LoopbackOpen_move hopen with
      -- `-EBUSY`, or no memory for the opener: nothing has been counted
      | refused ret hrefused =>
          refine iff_of_true hs fun hcount hkzalloc => ?_
          rcases hrefused with hbusy | hnomem
          · omega
          · exact absurd (hnomem.symm.trans hkzalloc) (by simp)
      -- counted, and then no timeout image: one more than the handles there are
      | leaked ret hio hret =>
          have hleak : (s.dev.opening mem).openCount = s.dev.openCount + 1 :=
            (s.dev.opening_frame mem).openCount
          have hpassed := v4l2LoopbackOpen_counted hopen (by omega)
          refine iff_of_false (fun ht => ?_) fun hkept => ?_
          · have hcounted' : (s.dev.opening mem).openCount = s.openers.keys.length := ht.counted
            omega
          · exact allocateTimeoutImage_fails_iff.mp hret (hkept hpassed.1 hpassed.2 hio)
  -- the handle is there, so the count and the handles have gone up together
  | @opened file mem kzalloc ret d o hfree hopen =>
      have hstanding := v4l2LoopbackOpen_standing hopen
      cases v4l2LoopbackOpen_move hopen with
      | opened hcount hkzalloc hret =>
          have hopened : (openFormat cfg mem (s.dev.opening mem)).openCount = s.dev.openCount + 1 :=
            (openFormat_openCount cfg mem _).trans (s.dev.opening_frame mem).openCount
          refine iff_of_true ⟨?_, ?_⟩ fun _ _ hio => ?_
          · rw [Driver.afterRequest, keys_length_insert_new hfree]
            simp only
            omega
          · have hmax : (openFormat cfg mem (s.dev.opening mem)).maxOpeners = s.dev.maxOpeners :=
              hstanding.maxOpeners
            rw [Driver.afterRequest]
            simp only
            omega
          -- without the image this open would have failed as the one above
          · by_contra hready
            exact hret hio (allocateTimeoutImage_fails_iff.mpr hready)
  -- one handle less, and the count goes down with it
  | @closed file o hfile =>
      have hkeys := keys_length_erase hfile
      have hcount := v4l2LoopbackClose_openCount s.dev
      have hmax := (v4l2LoopbackClose_standing s.dev).maxOpeners
      refine iff_of_true ⟨?_, ?_⟩ trivial
      · simp only
        omega
      · simp only
        omega
  -- a request neither opens nor closes, and no request stores a limit
  | @request file req o reply d o' hfile hreq =>
      have hcount := (haux.request_kept hfile hreq).2
      have hmax := (request_standing hreq).maxOpeners
      refine iff_of_true ⟨?_, ?_⟩ trivial
      · rw [Driver.afterRequest, keys_length_insert hfile]
        exact hcount.trans hcounted
      · rw [Driver.afterRequest]
        simp only
        omega
  | sustainTimer hpending =>
      refine iff_of_true ?_ trivial
      simp only [Device.sustainTimerClb]
      split <;> exact ⟨hcounted, hlimit⟩
  | timeoutTimer hpending =>
      refine iff_of_true ?_ trivial
      simp only [Device.timeoutTimerClb]
      split <;> exact ⟨hcounted, hlimit⟩
  | storeFormat hstore =>
      refine iff_of_true ?_ trivial
      rcases attrStoreFormat_dev hstore with rfl | ⟨num, den, -, -, hset⟩
      · exact hs
      · obtain ⟨-, rfl⟩ := Device.setTimeperframe_eq_ok hset
        exact ⟨hcounted, hlimit⟩
  -- the limit is compared as an `unsigned long` and stored as an `int`, so a large one
  -- passes the test and may still come out below the count
  | @storeMaxopeners curr len =>
      have hstored := attrStoreMaxopeners_limit curr len hlimit
      have hcount : (attrStoreMaxopeners s.dev curr len).2.openCount = s.dev.openCount := by
        rcases attrStoreMaxopeners_dev s.dev curr len with hsame | ⟨n, hset⟩
        · rw [hsame]
        · rw [hset]
          rfl
      have hkept : CountKept s (.storeMaxopeners curr len) ↔
          ∀ n, curr = some n → toSize s.dev.maxOpeners = n ∨ toSize s.dev.openCount > n ∨
            s.dev.openCount ≤ toInt32 n := by
        cases curr with
        | none => simp [CountKept]
        | some n => simp [CountKept]
      rw [hkept, ← hstored]
      constructor
      · intro ht
        rw [← hcount]
        exact ht.limit
      · intro hle
        exact ⟨hcount.trans hcounted, hcount.symm ▸ hle⟩

/-- **When the count is that of the open handles**, in every state of a run: exactly
    when every open that is counted gets its timeout image, and every limit that is
    stored covers the handles that are open. -/
theorem open_count_iff {cfg : Config} {s : Driver} {calls : List Call}
    (h : Run (Step cfg) (Driver.init cfg) calls s) :
    (∀ bs u, bs <+: calls → Run (Step cfg) (Driver.init cfg) bs u →
        OpensCounted u ∧ LastCloseFrees cfg u) ↔
      Run (Guarded CountKept (Step cfg)) (Driver.init cfg) calls s := by
  have hgood : (∀ bs u, bs <+: calls → Run (Step cfg) (Driver.init cfg) bs u →
      OpensCounted u ∧ LastCloseFrees cfg u) ↔
        ∀ bs u, bs <+: calls → Run (Step cfg) (Driver.init cfg) bs u → OpensCounted u :=
    forall₄_congr fun bs u _ _ => and_iff_left_of_imp OpensCounted.lastCloseFrees
  rw [hgood]
  exact Run.guarded_iff (ofNext_deterministic _) (fun s a t hs hstep => hs.step hstep)
    (fun s a t haux hs hstep => hs.step_iff haux hstep) (Accounted.init cfg) (OpensCounted.init cfg) h

/-- A second client asks for the timeout image and gets it. -/
theorem open_count_iff_timeoutImageIo :
    ∃ s, Run (Step ⟨640, 480, 100⟩) (Driver.init ⟨640, 480, 100⟩)
        [.openDevice 1 granting true, .request 1 (.sCtrl .timeoutImageIo 1 granting),
          .openDevice 2 granting true, .storeMaxopeners (some 2) 1, .closeDevice 2,
          .closeDevice 1] s ∧
      ∀ bs u, bs <+: [.openDevice 1 granting true, .request 1 (.sCtrl .timeoutImageIo 1 granting),
          .openDevice 2 granting true, .storeMaxopeners (some 2) 1, .closeDevice 2,
          .closeDevice 1] →
        Run (Step ⟨640, 480, 100⟩) (Driver.init ⟨640, 480, 100⟩) bs u →
          OpensCounted u ∧ LastCloseFrees ⟨640, 480, 100⟩ u := by
  obtain ⟨s, hs⟩ := Option.isSome_iff_exists.mp (by decide +kernel :
    (execute (guard CountKept (next ⟨640, 480, 100⟩)) (Driver.init ⟨640, 480, 100⟩)
      [.openDevice 1 granting true, .request 1 (.sCtrl .timeoutImageIo 1 granting),
        .openDevice 2 granting true, .storeMaxopeners (some 2) 1, .closeDevice 2,
        .closeDevice 1]).isSome = true)
  have hguarded := Run.of_execute_guard hs
  exact ⟨s, hguarded.of_guarded, (open_count_iff hguarded.of_guarded).mpr hguarded⟩

/-- A client asks for the timeout image and closes; the next open fails, and no handle
    is open, but one is counted. -/
theorem open_count_leaked :
    ¬ ∀ (cfg : Config) (s : Driver) calls, Run (Step cfg) (Driver.init cfg) calls s →
      OpensCounted s ∧ LastCloseFrees cfg s := by
  intro h
  obtain ⟨s, hs, hvalues⟩ := Option.map_eq_some_iff.mp (by decide +kernel :
    (execute (next ⟨640, 480, 100⟩) (Driver.init ⟨640, 480, 100⟩)
      [.openDevice 1 granting true, .request 1 (.sCtrl .timeoutImageIo 1 granting),
        .closeDevice 1, .openDevice 1 granting true]).map
      (fun s => (s.dev.openCount, s.openers.keys.length)) = some (1, 0))
  simp only [Prod.mk.injEq] at hvalues
  have hcounted := (h _ s _ (Run.of_execute hs)).1.counted
  rw [hvalues.1, hvalues.2] at hcounted
  exact absurd hcounted (by decide)

end DroidCam.Loopback
