import DroidCam.Loopback.Geometry

/-
  DroidCam/Loopback/Teardown.lean
  ===============================
  What the last close leaves for the next session.

  `try_free_buffers` resets `write_position`, and nothing else of the ring: a ring
  that REQBUFS has shrunk stays shrunk, and a repetition or a timeout that nobody
  has taken stays pending.  `CleanStep` names the steps after which the idle device
  has the ring of `v4l2_loopback_init`, and `GrantsAll` those that shrink nothing.
-/

namespace DroidCam.Loopback

open CArith ByteMemory LabelledRun

/-! ### Who shrinks the ring

Only REQBUFS changes the size of the ring in use, and a handle of the timeout image does
not shrink it. -/

theorem SameRing.used {d d' : Device} (h : SameRing d d') :
    d'.ring.usedBuffers = d.ring.usedBuffers :=
  congrArg Ring.usedBuffers h.ring

/-- No request but REQBUFS changes `used_buffers`. -/
theorem request_used {cfg : Config} {d d' : Device} {o o' : Opener} {req : Request}
    {reply : Reply} (hreq : ∀ memory count, req ≠ .reqbufs memory count)
    (h : request cfg d o req = .ok (reply, d', o')) :
    d'.ring.usedBuffers = d.ring.usedBuffers := by
  cases request_order h with
  | same hnone hring => rw [hring]
  | written pos index hring => rw [hring]
  | dequeued buf hbuf hring => rw [hring]
  | granted count hgrant =>
      obtain ⟨n, hn⟩ := hgrant
      exact absurd hn (hreq .mmap n)

/-- A step that grants a handle all the buffers there are, or none. -/
def GrantsAll (s : Driver) : Call → Prop
  | .request file (.reqbufs .mmap count) =>
    ∀ o, s.openers.lookup file = some o → o.timeoutImageIo = false →
      count = 0 ∨ MAX_BUFFERS ≤ count
  | _ => True

theorem grantBuffers_used {d : Device} {count : Nat} :
    (grantBuffers d count).ring.usedBuffers = min count d.ring.usedBuffers := by
  unfold grantBuffers
  simp only
  split
  · rename_i hlt
    exact (Nat.min_eq_left (Nat.le_of_lt hlt)).symm
  · rename_i hge
    exact (Nat.min_eq_right (Nat.le_of_not_lt hge)).symm

/-- The ring keeps its size under every step but a grant that shrinks it. -/
theorem Step.used_iff {cfg : Config} {s t : Driver} {call : Call} (hs : RingValid s.dev)
    (h : Step cfg s call t) :
    t.dev.ring.usedBuffers = MAX_BUFFERS ↔
      s.dev.ring.usedBuffers = MAX_BUFFERS ∧ GrantsAll s call := by
  have hsame : ∀ {d : Device}, d.ring.usedBuffers = s.dev.ring.usedBuffers → GrantsAll s call →
      (d.ring.usedBuffers = MAX_BUFFERS ↔
        s.dev.ring.usedBuffers = MAX_BUFFERS ∧ GrantsAll s call) := by
    intro d hused hgrants
    rw [hused]
    exact (and_iff_left hgrants).symm
  cases h.move with
  | openFailed hfree hopen => exact hsame (v4l2LoopbackOpen_same hopen).used trivial
  | opened hfree hopen => exact hsame (v4l2LoopbackOpen_same hopen).used trivial
  | @closed file o hfile =>
      exact hsame (congrArg Ring.usedBuffers (v4l2LoopbackClose_order s.dev).1) trivial
  | @request file req o reply d o' hfile hreq =>
      by_cases hreqbufs : ∀ memory count, req ≠ .reqbufs memory count
      · have hgrants : GrantsAll s (.request file req) := by
          cases req with
          | reqbufs memory count => exact absurd rfl (hreqbufs memory count)
          | _ => trivial
        exact hsame (request_used hreqbufs hreq) hgrants
      · push Not at hreqbufs
        obtain ⟨memory, count, rfl⟩ := hreqbufs
        have hle : s.dev.ring.usedBuffers ≤ MAX_BUFFERS := hs.number ▸ hs.le
        have hpos : 1 ≤ s.dev.ring.usedBuffers := hs.pos
        cases vidiocReqbufs_move (Except.ok.inj hreq) with
        | timeoutImage hio =>
            apply hsame rfl
            cases memory with
            | mmap =>
                intro oe hoe hfalse
                obtain rfl := Option.some.inj (hfile.symm.trans hoe)
                exact absurd (hio.symm.trans hfalse) (by simp)
            | other code => trivial
        | renumbered hio hnone =>
            apply hsame rfl
            cases memory with
            | mmap => exact fun _ _ _ => Or.inl (hnone rfl)
            | other code => trivial
        | granted hio hmemory hcount =>
            subst hmemory
            simp only [Driver.afterRequest, GrantsAll, hfile, Option.some.injEq, forall_eq', hio,
              true_imp_iff]
            rw [grantBuffers_used, hs.number]
            show min (min count MAX_BUFFERS) s.dev.ring.usedBuffers = MAX_BUFFERS ↔ _
            omega
  | sustainTimer => exact hsame (s.dev.sustainTimerClb_same.used) trivial
  | timeoutTimer => exact hsame (s.dev.timeoutTimerClb_same.used) trivial
  | @storeFormat text len reply d hstore =>
      exact hsame ((attrStoreFormat_same hstore).used) trivial
  | @storeMaxopeners curr len =>
      exact hsame ((attrStoreMaxopeners_same s.dev curr len).used) trivial

/-- **The ring has its full size exactly when nobody ever shrank it.** -/
theorem used_iff_grantsAll {cfg : Config} {s : Driver} {calls : List Call}
    (h : Run (Step cfg) (Driver.init cfg) calls s) :
    s.dev.ring.usedBuffers = MAX_BUFFERS ↔
      Run (Guarded GrantsAll (Step cfg)) (Driver.init cfg) calls s := by
  induction h with
  | nil => exact ⟨fun _ => Run.nil _, fun _ => rfl⟩
  | @snoc t u as a hrun hstep ih =>
      rw [Step.used_iff (RingInv.run hrun).toRingValid hstep, ih]
      constructor
      · rintro ⟨hguard, hgrants⟩
        exact Run.snoc hguard ⟨hgrants, hstep⟩
      · intro hguard
        obtain ⟨t', hguard', hgrants, hstep'⟩ := Run.snoc_iff.mp hguard
        obtain rfl : t' = t :=
          Run.deterministic (ofNext_deterministic (next cfg)) hguard'.of_guarded hrun
        exact ⟨hguard', hgrants⟩

/-! ### The next session

A fresh device has the whole ring, no repeats and no timeout; a client that finds the
ring of the last session finds buffers that share their places. -/

/-- Everything is closed, and the format is not kept. -/
def Idle (s : Driver) : Prop := s.openers.keys.length = 0 ∧ s.dev.keepFormat = false

/-- The ring that `v4l2_loopback_init` establishes. -/
structure Restored (d : Device) : Prop where
  used : d.ring.usedBuffers = d.ring.buffersNumber
  listed : ∀ i < d.ring.buffersNumber, i ∈ d.ring.outbufsList
  position : d.writePosition = 0
  reread : d.rereadCount = 0
  timeout : d.timeoutHappened = false

/-- Of the buffers that REQBUFS grants, QUERYBUF shows each at a place of its own. -/
def DistinctBuffers (cfg : Config) (v : Driver) (file count : Nat) : Prop :=
  ∀ n w, driverStep cfg v (.request file (.reqbufs .mmap count)) = .ok (.granted n, w) →
    ∀ type, type = .videoCapture ∨ type = .videoOutput →
      ∃ buffer : Nat → V4l2Buffer,
        (∀ i < n, ∃ x, driverStep cfg w (.request file (.querybuf type i)) =
          .ok (.buffer (buffer i), x)) ∧
        ∀ i < n, ∀ j < n, (buffer i).offset = (buffer j).offset → i = j

/-- The idle device is the initial one for whoever comes next: nothing a session
    that shrinks nothing does makes the buffers of a client coincide. -/
structure TornDown (cfg : Config) (s : Driver) : Prop where
  restored : Restored s.dev
  distinct : ∀ v file count calls, Run (Guarded GrantsAll (Step cfg)) s calls v →
    DistinctBuffers cfg v file count

/-! ### Buffers at places of their own

In a whole ring QUERYBUF gives each buffer its own offset; in a smaller one the index is
taken modulo the ring. -/

theorem unsignedSlot_of_lt {i used : Nat} (hi : i < used) (hle : used ≤ MAX_BUFFERS) :
    unsignedSlot i used = .ok i := by
  have hmod : i % used = i := Nat.mod_eq_of_lt hi
  have hlt : i < MAX_BUFFERS := Nat.lt_of_lt_of_le hi hle
  rw [unsignedSlot, if_neg (by omega), hmod, arrayIndex, if_pos (by omega), Int.toNat_natCast]

/-- QUERYBUF on an index below `used_buffers`. -/
theorem vidiocQuerybuf_of_lt {d : Device} {o : Opener} {type : BufType} {i : Nat}
    (htype : type = .videoCapture ∨ type = .videoOutput) (hio : o.timeoutImageIo = false)
    (hi : i < d.ring.usedBuffers) (hle : d.ring.usedBuffers ≤ MAX_BUFFERS) :
    vidiocQuerybuf d o type i = .ok (.buffer { d.buffers i with type, index := i }, d, o) := by
  have hindex : ¬i > MAX_BUFFERS := by omega
  rcases htype with rfl | rfl
  · simp only [vidiocQuerybuf, if_neg hindex, hio, Bool.false_eq_true, if_false,
      unsignedSlot_of_lt hi hle]
    rfl
  · simp only [vidiocQuerybuf, if_neg hindex, hio, Bool.false_eq_true, if_false,
      unsignedSlot_of_lt hi hle]
    rfl

/-- A handle for the timeout image always sees that buffer. -/
theorem vidiocQuerybuf_timeoutImageIo {d : Device} {o : Opener} {type : BufType} {i : Nat}
    (htype : type = .videoCapture ∨ type = .videoOutput) (hio : o.timeoutImageIo = true)
    (hi : i ≤ MAX_BUFFERS) :
    vidiocQuerybuf d o type i =
      .ok (.buffer { d.timeoutImageBuffer with type, index := i }, d, o) := by
  have hindex : ¬i > MAX_BUFFERS := by omega
  rcases htype with rfl | rfl
  · simp only [vidiocQuerybuf, if_neg hindex, hio, if_true]
  · simp only [vidiocQuerybuf, if_neg hindex, hio, if_true]

theorem driverStep_afterRequest {cfg : Config} {s : Driver} {file : Nat} {d d' : Device}
    {o o' : Opener} {req : Request} {reply : Reply}
    (h : request cfg d o req = .ok (reply, d', o')) :
    driverStep cfg (s.afterRequest file d o) (.request file req) =
      .ok (reply, (s.afterRequest file d o).afterRequest file d' o') :=
  driverStep_of_request (AList.lookup_insert s.openers) h

/-- While the ring has its full size, the buffers granted are distinct. -/
theorem distinctBuffers_of_used {cfg : Config} {v : Driver} (hv : Accounted v)
    (hring : RingValid v.dev) (hframed : Framed cfg v.dev)
    (hused : v.dev.ring.usedBuffers = MAX_BUFFERS) (file count : Nat) :
    DistinctBuffers cfg v file count := by
  intro n w hgrant type htype
  obtain ⟨o, d, o', hfile, hreq, rfl⟩ := driverStep_request hgrant
  have hreqbufs : vidiocReqbufs v.dev o .mmap count = (.granted n, d, o') := Except.ok.inj hreq
  unfold vidiocReqbufs at hreqbufs
  cases hio : o.timeoutImageIo with
  | true =>
      simp only [hio, if_true] at hreqbufs
      cases hreqbufs
      refine ⟨fun i => { v.dev.timeoutImageBuffer with type, index := i }, ?_, ?_⟩
      · intro i hi
        have hle : i ≤ MAX_BUFFERS := by omega
        exact ⟨_, driverStep_afterRequest (vidiocQuerybuf_timeoutImageIo htype hio hle)⟩
      · intro i hi j hj _
        omega
  | false =>
      simp only [hio, Bool.false_eq_true, if_false] at hreqbufs
      split at hreqbufs
      · cases hreqbufs
        exact ⟨fun _ => {}, fun i hi => absurd hi (Nat.not_lt_zero i),
          fun i hi => absurd hi (Nat.not_lt_zero i)⟩
      · simp only [Prod.mk.injEq, Reply.granted.injEq] at hreqbufs
        obtain ⟨hn, rfl, rfl⟩ := hreqbufs
        have hnumber : v.dev.initBuffers.ring.buffersNumber = MAX_BUFFERS := hring.number
        rw [hn]
        have hle : n ≤ MAX_BUFFERS := by
          rw [← hn, hnumber]
          exact Nat.min_le_right _ _
        have hsize : (grantBuffers v.dev.initBuffers n).ring.usedBuffers = n := by
          rw [grantBuffers_used]
          show min n v.dev.ring.usedBuffers = n
          rw [hused]
          exact Nat.min_eq_left hle
        have hoffset : ∀ i < n, ((grantBuffers v.dev.initBuffers n).buffers i).offset =
            i * v.dev.bufferSize := by
          intro i hi
          have hlt : i < v.dev.ring.buffersNumber := by
            rw [hring.number]
            exact Nat.lt_of_lt_of_le hi hle
          have hbuffer : v.dev.initBuffers.buffers i = v.dev.initialBuffer i := if_pos hlt
          rw [grantBuffers_buffers, hbuffer]
          exact toUInt32_offset (Nat.le_of_lt (Nat.lt_of_lt_of_le hi hle))
            (hframed.bufferSize_le hv hfile)
        refine ⟨fun i => { (grantBuffers v.dev.initBuffers n).buffers i with type, index := i },
          ?_, ?_⟩
        · intro i hi
          refine ⟨_, driverStep_afterRequest (vidiocQuerybuf_of_lt htype ?_ ?_ ?_)⟩
          · rfl
          · rw [hsize]
            exact hi
          · rw [hsize]
            exact hle
        · intro i hi j hj heq
          simp only [hoffset i hi, hoffset j hj] at heq
          have hmul : i * v.dev.bufferSize = j * v.dev.bufferSize := by exact_mod_cast heq
          exact Nat.eq_of_mul_eq_mul_right (hframed.bufferSize_pos hv hfile) hmul

/-! ### Clean steps

What the last close leaves is decided by the state before it. -/

/-- A step after which a device that is idle has the ring of the start: the close
    that frees the buffers finds the ring whole, no repetition and no timeout
    pending and nobody else counted, and no timer leaves one behind. -/
def CleanStep (s : Driver) : Call → Prop
  | .closeDevice _ => s.openers.keys.length = 1 → s.dev.keepFormat = false →
      s.dev.ring.usedBuffers = s.dev.ring.buffersNumber ∧ s.dev.rereadCount = 0 ∧
        s.dev.timeoutHappened = false ∧ (s.dev.openCount = 1 ∨ s.dev.writePosition = 0)
  | .sustainTimer => Idle s → s.dev.sustainFramerate = false
  | .timeoutTimer => Idle s → s.dev.timeoutJiffies = 0
  | _ => True

theorem RingValid.restored {d : Device} (hd : RingValid d)
    (hused : d.ring.usedBuffers = d.ring.buffersNumber) (hposition : d.writePosition = 0)
    (hreread : d.rereadCount = 0) (htimeout : d.timeoutHappened = false) : Restored d where
  used := hused
  listed := fun _ hi => hd.mem_list.mpr (hused ▸ hi)
  position := hposition
  reread := hreread
  timeout := htimeout

/-- What the close of a device that is kept changes. -/
theorem v4l2LoopbackClose_idle {d : Device} (hkeep : d.keepFormat = false) :
    (v4l2LoopbackClose d).ring = d.ring ∧ (v4l2LoopbackClose d).rereadCount = d.rereadCount ∧
      (v4l2LoopbackClose d).timeoutHappened = d.timeoutHappened ∧
      ((v4l2LoopbackClose d).writePosition = 0 ↔ d.openCount = 1 ∨ d.writePosition = 0) := by
  by_cases hone : d.openCount = 1
  · rw [v4l2LoopbackClose_freed hone hkeep]
    exact ⟨rfl, rfl, rfl, fun _ => Or.inl hone, fun _ => rfl⟩
  · rw [v4l2LoopbackClose_kept fun hfree => hone hfree.1, if_neg hone]
    exact ⟨rfl, rfl, rfl, fun hzero => Or.inr hzero, fun h => h.resolve_left hone⟩

theorem v4l2LoopbackClose_keepFormat (d : Device) :
    (v4l2LoopbackClose d).keepFormat = d.keepFormat := by
  simp only [v4l2LoopbackClose, Device.tryFreeBuffers]
  split <;> split <;> rfl

/-- What makes an idle device a restored one. -/
def Device.leftover (d : Device) : Bool × Ring × Int × Int × Bool :=
  (d.keepFormat, d.ring, d.writePosition, d.rereadCount, d.timeoutHappened)

theorem Restored.congr {d d' : Device} (hd : Restored d) (h : d'.leftover = d.leftover) :
    Restored d' := by
  simp only [Device.leftover, Prod.mk.injEq] at h
  obtain ⟨-, hring, hposition, hreread, htimeout⟩ := h
  constructor
  · rw [hring]
    exact hd.used
  · rw [hring]
    exact hd.listed
  · rw [hposition]
    exact hd.position
  · rw [hreread]
    exact hd.reread
  · rw [htimeout]
    exact hd.timeout

theorem opening_leftover (mem : Allocation) (d : Device) :
    (d.opening mem).leftover = d.leftover := by
  unfold Device.opening Device.allocateTimeoutImage
  split_ifs <;> rfl

/-- A step that leaves the handles and those fields alone. -/
theorem idle_restored_congr {s : Driver} {d : Device} (hs : Idle s → Restored s.dev)
    (h : d.leftover = s.dev.leftover) : Idle { s with dev := d } → Restored d := by
  rintro ⟨hnobody, hkeep⟩
  apply (hs ⟨hnobody, _⟩).congr h
  exact (congrArg Prod.fst h).symm.trans hkeep

/-- **An idle device is restored exactly when the step was clean.** -/
theorem Step.restored_iff {cfg : Config} {s t : Driver} {call : Call} (hring : RingInv s.dev)
    (hs : Idle s → Restored s.dev) (h : Step cfg s call t) :
    (Idle t → Restored t.dev) ↔ CleanStep s call := by
  have hbusy : ∀ {file : Nat} {d : Device} {o : Opener},
      ¬Idle ⟨d, s.openers.insert file o⟩ := fun hidle =>
    keys_length_pos (AList.lookup_insert s.openers) hidle.1
  cases h.move with
  | @openFailed file mem kzalloc ret d hfree hopen =>
      refine iff_of_true ?_ trivial
      cases v4l2LoopbackOpen_move hopen with
      | refused => exact hs
      | leaked => exact idle_restored_congr hs (opening_leftover mem s.dev)
  -- a handle is open, so the device is not idle
  | opened => exact iff_of_true (fun hidle => absurd hidle hbusy) trivial
  | @request file req =>
      exact iff_of_true (fun hidle => absurd hidle hbusy) trivial
  | @closed file o hfile =>
      have hlen := keys_length_erase hfile
      have hkeep := v4l2LoopbackClose_keepFormat s.dev
      have hidle : Idle ⟨v4l2LoopbackClose s.dev, s.openers.erase file⟩ ↔
          s.openers.keys.length = 1 ∧ s.dev.keepFormat = false := by
        have hnone : (s.openers.erase file).keys.length = 0 ↔ s.openers.keys.length = 1 := by omega
        rw [Idle, hkeep, hnone]
      rw [hidle]
      -- both sides ask about the same four fields, before the close and after it
      simp only [CleanStep, ← and_imp]
      apply forall_congr'
      intro hlast
      obtain ⟨hring', hreread, htimeout, hposition⟩ := v4l2LoopbackClose_idle hlast.2
      constructor
      · intro hrestored
        refine ⟨?_, ?_, ?_, hposition.mp hrestored.position⟩
        · exact hring' ▸ hrestored.used
        · exact hreread ▸ hrestored.reread
        · exact htimeout ▸ hrestored.timeout
      · rintro ⟨hused, hzero, hnone, hpos⟩
        have hvalid : RingValid (v4l2LoopbackClose s.dev) := ((Move.closed hfile : Move cfg s
          (.closeDevice file) _).ringMove (hring.number ▸ by decide)).inv hring |>.toRingValid
        exact hvalid.restored (hring' ▸ hused) (hposition.mpr hpos) (hreread.trans hzero)
          (htimeout.trans hnone)
  | sustainTimer hpending =>
      have hkeep : s.dev.sustainTimerClb.keepFormat = s.dev.keepFormat := by
        unfold Device.sustainTimerClb
        split <;> rfl
      have hidle : Idle { s with dev := s.dev.sustainTimerClb } ↔ Idle s := by
        rw [Idle, Idle, hkeep]
      rw [hidle]
      apply forall_congr'
      intro hi
      have hrestored := hs hi
      cases hsustain : s.dev.sustainFramerate with
      | true =>
          -- one repetition is counted, and nobody is there to take it
          have hreread : s.dev.sustainTimerClb.rereadCount = 1 := by
            simp only [Device.sustainTimerClb, hsustain, if_true, hrestored.reread]
            rfl
          refine iff_of_false (fun hafter => ?_) (by simp)
          exact absurd (hreread.symm.trans hafter.reread) (by decide)
      | false =>
          refine iff_of_true (hrestored.congr ?_) rfl
          simp only [Device.sustainTimerClb, hsustain, Bool.false_eq_true, if_false]
          rfl
  | timeoutTimer hpending =>
      have hkeep : s.dev.timeoutTimerClb.keepFormat = s.dev.keepFormat := by
        unfold Device.timeoutTimerClb
        split <;> rfl
      have hidle : Idle { s with dev := s.dev.timeoutTimerClb } ↔ Idle s := by
        rw [Idle, Idle, hkeep]
      rw [hidle]
      apply forall_congr'
      intro hi
      have hrestored := hs hi
      by_cases hjiffies : 0 < s.dev.timeoutJiffies
      · have hhappened : s.dev.timeoutTimerClb.timeoutHappened = true := by
          simp only [Device.timeoutTimerClb, hjiffies, if_true]
        refine iff_of_false (fun hafter => ?_) (Nat.ne_of_gt hjiffies)
        exact absurd (hhappened.symm.trans hafter.timeout) (by decide)
      · refine iff_of_true (hrestored.congr ?_) (Nat.eq_zero_of_not_pos hjiffies)
        simp only [Device.timeoutTimerClb, hjiffies, if_false]
        rfl
  | @storeFormat text len reply d hstore =>
      refine iff_of_true (idle_restored_congr hs ?_) trivial
      rcases attrStoreFormat_dev hstore with rfl | ⟨num, den, -, -, hset⟩
      · rfl
      · obtain ⟨-, rfl⟩ := Device.setTimeperframe_eq_ok hset
        rfl
  | @storeMaxopeners curr len =>
      refine iff_of_true (idle_restored_congr hs ?_) trivial
      rcases attrStoreMaxopeners_dev s.dev curr len with hsame | ⟨n, hset⟩
      · rw [hsame]
      · rw [hset]
        rfl

/-! ### Runs

A device that was torn down is found by the next client as the first one found it. -/

/-- The invariants that hold of every reachable driver. -/
structure Reachable (cfg : Config) (s : Driver) : Prop where
  accounted : Accounted s
  ring : RingInv s.dev
  framed : Framed cfg s.dev

theorem Reachable.init (cfg : Config) : Reachable cfg (Driver.init cfg) :=
  ⟨Accounted.init cfg, RingInv.init cfg, Framed.init cfg⟩

theorem Reachable.step {cfg : Config} {s t : Driver} {call : Call} (hs : Reachable cfg s)
    (h : Step cfg s call t) : Reachable cfg t :=
  ⟨hs.accounted.step h, hs.ring.step h, hs.framed.step hs.accounted h⟩

/-- A ring of full size keeps it, and the clients their buffers. -/
theorem Restored.tornDown {cfg : Config} {s : Driver} (hs : Reachable cfg s)
    (hrestored : Restored s.dev) : TornDown cfg s := by
  refine ⟨hrestored, fun v file count calls hrun => ?_⟩
  have hv : Reachable cfg v ∧ v.dev.ring.usedBuffers = MAX_BUFFERS := by
    refine @Run.invariant _ _ _
      (fun v => Reachable cfg v ∧ v.dev.ring.usedBuffers = MAX_BUFFERS) _ _ _ ?_ ?_ hrun
    · rintro t a u ⟨ht, hused⟩ ⟨hgrants, hstep⟩
      exact ⟨ht.step hstep, (Step.used_iff ht.ring.toRingValid hstep).mpr ⟨hused, hgrants⟩⟩
    · exact ⟨hs, hrestored.used.trans hs.ring.number⟩
  exact distinctBuffers_of_used hv.1.accounted hv.1.ring.toRingValid hv.1.framed hv.2 file count

/-- **Every idle device of a run is torn down exactly when all its steps are
    clean**, and the ring is whole exactly when all of them grant whole rings. -/
theorem idle_tornDown_iff {cfg : Config} {s : Driver} {calls : List Call}
    (h : Run (Step cfg) (Driver.init cfg) calls s) :
    ((∀ bs u, bs <+: calls → Run (Step cfg) (Driver.init cfg) bs u → Idle u → TornDown cfg u) ↔
      Run (Guarded CleanStep (Step cfg)) (Driver.init cfg) calls s) ∧
    (s.dev.ring.usedBuffers = s.dev.ring.buffersNumber ↔
      Run (Guarded GrantsAll (Step cfg)) (Driver.init cfg) calls s) := by
  constructor
  · have hreach : ∀ {bs u}, Run (Step cfg) (Driver.init cfg) bs u → Reachable cfg u := fun hrun =>
      ⟨(Framed.run hrun).1, RingInv.run hrun, (Framed.run hrun).2⟩
    have hiff : (∀ bs u, bs <+: calls → Run (Step cfg) (Driver.init cfg) bs u →
        Idle u → TornDown cfg u) ↔
          ∀ bs u, bs <+: calls → Run (Step cfg) (Driver.init cfg) bs u →
            Idle u → Restored u.dev := by
      constructor
      · intro hall bs u hpre hrun hidle
        exact (hall bs u hpre hrun hidle).restored
      · intro hall bs u hpre hrun hidle
        exact (hall bs u hpre hrun hidle).tornDown (hreach hrun)
    rw [hiff]
    apply Run.guarded_iff (ofNext_deterministic (next cfg)) (fun _ _ _ hs hstep => hs.step hstep) _
      (Reachable.init cfg) _ h
    · intro t a u ht hgood hstep
      exact Step.restored_iff ht.ring hgood hstep
    · intro _
      exact (RingInv.init cfg).toRingValid.restored rfl rfl rfl rfl
  · rw [(RingInv.run h).number]
    exact used_iff_grantsAll h

instance (s : Driver) : Decidable (Idle s) :=
  inferInstanceAs (Decidable (s.openers.keys.length = 0 ∧ s.dev.keepFormat = false))

instance (s : Driver) (call : Call) : Decidable (CleanStep s call) :=
  match call with
  | .closeDevice _ => inferInstanceAs (Decidable (_ → _ → _))
  | .sustainTimer => inferInstanceAs (Decidable (_ → _))
  | .timeoutTimer => inferInstanceAs (Decidable (_ → _))
  | .openDevice .. | .request .. | .storeFormat .. | .storeMaxopeners .. =>
    inferInstanceAs (Decidable True)

/-- A session that takes all buffers and writes a frame leaves the ring as it was. -/
theorem idle_tornDown_iff_written :
    ∃ s, Run (Step ⟨640, 480, 100⟩) (Driver.init ⟨640, 480, 100⟩)
        [.openDevice 1 granting true, .request 1 (.reqbufs .mmap 16),
          .request 1 (.write [7, 8] granting none), .closeDevice 1] s ∧
      TornDown ⟨640, 480, 100⟩ s := by
  obtain ⟨s, hs, hidle⟩ := Option.map_eq_some_iff.mp (by decide +kernel :
    (execute (guard CleanStep (next ⟨640, 480, 100⟩)) (Driver.init ⟨640, 480, 100⟩)
      [.openDevice 1 granting true, .request 1 (.reqbufs .mmap 16),
        .request 1 (.write [7, 8] granting none), .closeDevice 1]).map
      (fun s => decide (Idle s)) = some true)
  have hguard := Run.of_execute_guard hs
  have hrun := hguard.of_guarded
  exact ⟨s, hrun, (idle_tornDown_iff hrun).1.mpr hguard _ s (List.prefix_refl _) hrun
    (of_decide_eq_true hidle)⟩

/-- Where QUERYBUF shows a buffer. -/
def shownAt (cfg : Config) (w : Driver) (file index : Nat) : Option Int :=
  match driverStep cfg w (.request file (.querybuf .videoCapture index)) with
  | .ok (.buffer b, _) => some b.offset
  | _ => none

/-- Two buffers requested in one session: of four that the next one is granted, the
    third is the first. -/
theorem teardown_leaves_shrunk :
    ∃ s v, Run (Step ⟨640, 480, 100⟩) (Driver.init ⟨640, 480, 100⟩)
        [.openDevice 1 granting true, .request 1 (.reqbufs .mmap 2), .closeDevice 1] s ∧
      Idle s ∧ ¬Restored s.dev ∧
      Run (Step ⟨640, 480, 100⟩) s [.openDevice 2 granting true] v ∧
      ¬DistinctBuffers ⟨640, 480, 100⟩ v 2 4 := by
  obtain ⟨s, hs, hvalues⟩ := Option.map_eq_some_iff.mp (by decide +kernel :
    (execute (next ⟨640, 480, 100⟩) (Driver.init ⟨640, 480, 100⟩)
      [.openDevice 1 granting true, .request 1 (.reqbufs .mmap 2), .closeDevice 1]).map
      (fun s => (decide (Idle s ∧ s.dev.ring.usedBuffers = 2 ∧ s.dev.ring.buffersNumber = 16),
        (execute (next ⟨640, 480, 100⟩) s [.openDevice 2 granting true]).map fun v =>
          (driverStep ⟨640, 480, 100⟩ v (.request 2 (.reqbufs .mmap 4))).toOption.map fun r =>
            decide (r.1 = .granted 4 ∧ shownAt ⟨640, 480, 100⟩ r.2 2 0 = some 0 ∧
              shownAt ⟨640, 480, 100⟩ r.2 2 2 = some 0))) =
      some (true, some (some true)))
  simp only [Prod.mk.injEq, decide_eq_true_eq] at hvalues
  obtain ⟨⟨hidle, hused, hnumber⟩, hnext⟩ := hvalues
  obtain ⟨v, hv, hgranted⟩ := Option.map_eq_some_iff.mp hnext
  obtain ⟨⟨reply, w⟩, hstep, hshown⟩ := Option.map_eq_some_iff.mp hgranted
  obtain ⟨rfl, hfirst, hthird⟩ := of_decide_eq_true hshown
  refine ⟨s, v, Run.of_execute hs, hidle, fun hrestored => ?_, Run.of_execute hv,
    fun hdistinct => ?_⟩
  · have hwhole := hrestored.used
    rw [hused, hnumber] at hwhole
    exact absurd hwhole (by decide)
  · have hok := toOption_eq_some.mp hstep
    obtain ⟨buffer, hquery, hinj⟩ := hdistinct 4 w hok .videoCapture (Or.inl rfl)
    have hoffset : ∀ i < 4, shownAt ⟨640, 480, 100⟩ w 2 i = some (buffer i).offset := by
      intro i hi
      obtain ⟨x, hx⟩ := hquery i hi
      rw [shownAt, hx]
    rw [hoffset 0 (by decide)] at hfirst
    rw [hoffset 2 (by decide)] at hthird
    have hsame := hinj 0 (by decide) 2 (by decide) (Option.some.inj (hfirst.trans hthird.symm))
    exact absurd hsame (by decide)

end DroidCam.Loopback
