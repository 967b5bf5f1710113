import DroidCam.Loopback.Positions

/-
  DroidCam/Loopback/Wakeup.lean
  =============================
  What wakes a reader that sleeps in `get_capture_buffer` or in `poll`.

  `wake_up_all` is called where a frame is complete and where a timer fires.  A writer
  that has gone away writes no frame, so it is the timers that count: `check_timers`
  arms them, `buffer_written` and the last close delete them, and each arms itself again.
  A device is armed when every timer that is asked for is pending; the evaluation of the
  wait condition arms it, and it stays so while a handle is open.
-/

namespace DroidCam.Loopback

open CArith LabelledRun

/-! ### Timers that are pending

A timer that fires arms itself again only while its control is on, and `check_timers`
arms one that is asked for and not pending. -/

/-- Every timer that is asked for is pending. -/
structure Armed (d : Device) : Prop where
  ready : d.readyForCapture = true
  sustain : d.sustainFramerate = true → d.sustainTimer.isSome = true
  timeout : 0 < d.timeoutJiffies → d.timeoutTimer.isSome = true

/-- The sustained frame rate is asked for as before, and the device stays armed. -/
structure Rearms (d d' : Device) : Prop where
  sustain : d'.sustainFramerate = d.sustainFramerate
  armed : Armed d → Armed d'

/-- The fields that the timers depend on. -/
def Device.timing (d : Device) :=
  (d.readyForCapture, d.sustainFramerate, d.sustainTimer, d.timeoutJiffies, d.timeoutTimer)

theorem Rearms.of_timing {d d' : Device} (h : d'.timing = d.timing) : Rearms d d' := by
  simp only [Device.timing, Prod.mk.injEq] at h
  obtain ⟨hready, hsustain, htimer, hjiffies, htimeout⟩ := h
  refine ⟨hsustain, fun ha => ⟨hready.trans ha.ready, fun hs => ?_, fun ht => ?_⟩⟩
  · rw [htimer]
    exact ha.sustain (hsustain ▸ hs)
  · rw [htimeout]
    exact ha.timeout (hjiffies ▸ ht)

theorem Rearms.refl (d : Device) : Rearms d d := .of_timing rfl

theorem Rearms.trans {d₁ d₂ d₃ : Device} (h : Rearms d₁ d₂) (h' : Rearms d₂ d₃) : Rearms d₁ d₃ :=
  ⟨h'.sustain.trans h.sustain, fun ha => h'.armed (h.armed ha)⟩

namespace Device

theorem isSome_ite_some {α : Type} {p : Prop} [Decidable p] {x : α} {o : Option α} (h : p) :
    (if p then some x else o).isSome = true := by
  rw [if_pos h]
  rfl

/-- `check_timers` arms a device that is ready. -/
theorem checkTimers_armed {d : Device} (h : d.readyForCapture = true) : Armed d.checkTimers := by
  have hcheck : d.checkTimers = { d with
      timeoutTimer :=
        if 0 < d.timeoutJiffies ∧ d.timeoutTimer = none then some d.timeoutJiffies
        else d.timeoutTimer
      sustainTimer :=
        if d.sustainFramerate ∧ d.sustainTimer = none then some (d.frameJiffies * 3 / 2)
        else d.sustainTimer } := if_pos h
  rw [hcheck]
  refine ⟨h, fun hsustain => ?_, fun htimeout => ?_⟩
  · dsimp only at hsustain ⊢
    cases htimer : d.sustainTimer with
    | none => exact isSome_ite_some ⟨hsustain, rfl⟩
    | some n =>
        rw [if_neg (fun hand => nomatch hand.2)]
        rfl
  · dsimp only at htimeout ⊢
    cases htimer : d.timeoutTimer with
    | none => exact isSome_ite_some ⟨htimeout, rfl⟩
    | some n =>
        rw [if_neg (fun hand => nomatch hand.2)]
        rfl

theorem checkTimers_rearms (d : Device) : Rearms d d.checkTimers := by
  refine ⟨?_, fun ha => checkTimers_armed ha.ready⟩
  unfold checkTimers
  split <;> rfl

theorem allocateTimeoutImage_rearms (mem : Allocation) (d : Device) :
    Rearms d (d.allocateTimeoutImage mem).2 := by
  unfold allocateTimeoutImage
  split_ifs <;> exact .of_timing rfl

theorem vmallocBuffers_rearms (mem : Allocation) (d : Device) :
    Rearms d (d.vmallocBuffers mem).2 := by
  have himage : Rearms d (d.vmallocImage mem) := .of_timing rfl
  have htimeout := himage.trans (allocateTimeoutImage_rearms mem _)
  have hinit : ∀ e : Device, Rearms e e.initBuffers := fun e => .of_timing rfl
  simp only [vmallocBuffers]
  split_ifs
  · exact htimeout
  · exact htimeout.trans (hinit _)
  · exact himage
  · exact himage.trans (hinit _)

theorem allocateBuffers_rearms (mem : Allocation) (d : Device) :
    Rearms d (d.allocateBuffers mem).2 := by
  have hfree : Rearms d d.freeBuffers := .of_timing rfl
  unfold allocateBuffers
  split_ifs
  · exact .refl d
  · exact .refl d
  · exact hfree.trans (vmallocBuffers_rearms mem _)
  · exact .refl d
  · exact vmallocBuffers_rearms mem d

/-- With a handle open nothing is freed. -/
theorem tryFreeBuffers_rearms {d : Device} (h : d.openCount ≠ 0) : Rearms d d.tryFreeBuffers := by
  rw [tryFreeBuffers, if_neg fun hand => h hand.1]
  exact .refl d

theorem setReady_rearms (d : Device) : Rearms d d.setReady :=
  ⟨rfl, fun ha => ⟨rfl, ha.sustain, ha.timeout⟩⟩

/-- A complete frame deletes the timers and arms them again. -/
theorem bufferWritten_rearms {d d' : Device} {buf : Nat} (h : d.bufferWritten buf = .ok d') :
    Rearms d d' := by
  obtain ⟨pos, -, -, rfl⟩ := bufferWritten_eq_ok h
  refine ⟨?_, fun ha => checkTimers_armed ha.ready⟩
  exact (checkTimers_rearms _).sustain

theorem sustainTimerClb_rearms (d : Device) : Rearms d d.sustainTimerClb := by
  unfold sustainTimerClb
  split
  · refine ⟨rfl, fun ha => ⟨ha.ready, fun _ => ?_, ha.timeout⟩⟩
    dsimp only
    split <;> rfl
  · rename_i hoff
    exact ⟨rfl, fun ha => ⟨ha.ready, fun hs => absurd hs hoff, ha.timeout⟩⟩

theorem timeoutTimerClb_rearms (d : Device) : Rearms d d.timeoutTimerClb := by
  unfold timeoutTimerClb
  split
  · exact ⟨rfl, fun ha => ⟨ha.ready, ha.sustain, fun _ => rfl⟩⟩
  · rename_i hoff
    exact ⟨rfl, fun ha => ⟨ha.ready, ha.sustain, fun ht => absurd ht hoff⟩⟩

end Device

/-! ### Requests

A request keeps every timer that is asked for; with `sustain_framerate` it may ask for
one. -/

variable {cfg : Config} {d d' : Device} {o o' : Opener} {req : Request} {reply : Reply}

theorem CaptureMove.rearms {w : Waiting} {ret : Option Int} (h : CaptureMove w d o ret d' o') :
    Rearms d d' := by
  cases h with
  | again => exact .refl d
  | asleep => exact d.checkTimers_rearms
  | index => exact d.checkTimers_rearms.trans (.of_timing rfl)

theorem vidiocTryFmtOut_rearms (d : Device) (f : V4l2PixFormat) :
    Rearms d (vidiocTryFmtOut d f).2 := by
  unfold vidiocTryFmtOut
  split <;> exact .of_timing rfl

theorem vidiocSFmtOut_rearms (mem : Allocation) (d : Device) (f : V4l2PixFormat) :
    Rearms d (vidiocSFmtOut mem d f).2 := by
  have htry := vidiocTryFmtOut_rearms d f
  have hsize : ∀ e : Device, Rearms e (e.setBufferSize (pageAlign e.pixFormat.sizeimage)) :=
    fun e => .of_timing rfl
  simp only [vidiocSFmtOut]
  split
  · exact htry
  · exact (htry.trans (hsize _)).trans (Device.allocateBuffers_rearms mem _)

theorem allocateOnce_rearms (mem : Allocation) (d : Device) : Rearms d (allocateOnce mem d).2 := by
  have halloc := d.allocateBuffers_rearms mem
  simp only [allocateOnce]
  split
  · exact .refl d
  split
  · exact halloc
  · exact halloc.trans (Device.setReady_rearms _)

theorem MmapMove.rearms {mem : Allocation} (h : MmapMove mem d d') : Rearms d d' := by
  have halloc : ∀ e, (e = if d.image.isNone then (d.allocateBuffers mem).2 else d) →
      Rearms d e := by
    rintro e rfl
    split
    · exact d.allocateBuffers_rearms mem
    · exact .refl d
  cases h with
  | refused => exact .refl d
  | allocated _ he => exact halloc _ he
  | timeoutImage e he => exact (halloc e he).trans (.of_timing rfl)
  | mapped e i he => exact (halloc e he).trans (.of_timing rfl)

theorem QbufMove.rearms {type : BufType} {index : Nat} (h : QbufMove d o type index d') :
    Rearms d d' := by
  cases h with
  | ignored => exact .refl d
  | queued i => exact .of_timing rfl
  | written i _ htype hready hi hwritten =>
      have hdone : Rearms d (d.updateBuffer i setDone) := .of_timing rfl
      exact hdone.trans (Device.bufferWritten_rearms hwritten)

theorem DqbufMove.rearms {w : Waiting} {type : BufType} (h : DqbufMove w d o type d' o') :
    Rearms d d' := by
  cases h with
  | ignored => exact .refl d
  | captured ret e _ _ hio hcapture hflags =>
      have hmove := (getCaptureBuffer_move hcapture).rearms
      rcases hflags with rfl | ⟨i, rfl⟩
      · exact hmove
      · exact hmove.trans (.of_timing rfl)
  | taken => exact .of_timing rfl

theorem ReqbufsMove.rearms {memory : MemoryType} {count : Nat}
    (h : ReqbufsMove d o memory count d' o') : Rearms d d' := by
  cases h with
  | timeoutImage => exact .refl d
  | renumbered => exact .of_timing rfl
  | granted =>
      obtain ⟨ring, hgrant, -⟩ := grantBuffers_eq d.initBuffers (min count d.ring.buffersNumber)
      rw [hgrant]
      exact .of_timing rfl

theorem WriteMove.rearms {fault : Option Nat} (h : WriteMove d fault d') : Rearms d d' := by
  cases h with
  | cut => exact .of_timing rfl
  | written i image _ hi hsome hwritten =>
      have hstore : Rearms d (d.storeFrame i image) := .of_timing rfl
      exact hstore.trans (Device.bufferWritten_rearms hwritten)

/-- The control for the sustained frame rate. -/
def Request.setsSustain : Request → Bool
  | .sCtrl .sustainFramerate _ _ => true
  | _ => false

/-- The control arms the timer that it asks for, and the other requests leave the device
    armed. -/
theorem CtrlMove.rearms {mem : Allocation} {value : Int} {id : ControlId}
    (hcount : d.openCount ≠ 0) (h : CtrlMove cfg mem d value id d') :
    (Armed d → Armed d') ∧
      (id ≠ .sustainFramerate → d'.sustainFramerate = d.sustainFramerate) := by
  have hset : ∀ e, Rearms d e → (Armed d → Armed e) ∧
      (id ≠ .sustainFramerate → e.sustainFramerate = d.sustainFramerate) :=
    fun e he => ⟨he.armed, fun _ => he.sustain⟩
  cases h with
  | refused => exact hset d (.refl d)
  | keepFormat =>
      have hkeep : Rearms d { d with keepFormat := value ≠ 0 } := .of_timing rfl
      exact hset _ (hkeep.trans (Device.tryFreeBuffers_rearms hcount))
  | sustainFramerate =>
      refine ⟨fun ha => Device.checkTimers_armed ha.ready, fun hid => absurd rfl hid⟩
  | timeout =>
      have halloc := Device.allocateTimeoutImage_rearms mem (d.setTimeout cfg value)
      refine ⟨fun ha => halloc.armed (Device.checkTimers_armed ha.ready), fun _ => ?_⟩
      exact halloc.sustain.trans (Device.checkTimers_rearms _).sustain
  | timeoutImageIo => exact hset _ (.of_timing rfl)

/-- What a request on an open handle does to the timers. -/
theorem request_rearms (hcount : d.openCount ≠ 0) (h : request cfg d o req = .ok (reply, d', o')) :
    (Armed d → Armed d') ∧
      (req.setsSustain = false → d'.sustainFramerate = d.sustainFramerate) := by
  have hset : ∀ {e}, Rearms d e → (Armed d → Armed e) ∧
      (req.setsSustain = false → e.sustainFramerate = d.sustainFramerate) :=
    fun he => ⟨he.armed, fun _ => he.sustain⟩
  cases request_move h with
  | counted => exact hset (.refl d)
  | tried f => exact hset (vidiocTryFmtOut_rearms d f)
  | formatted f mem => exact hset (vidiocSFmtOut_rearms mem d f)
  | interval type tpf _ htype htpf =>
      obtain ⟨-, rfl⟩ := Device.setTimeperframe_eq_ok htpf
      exact hset (.of_timing rfl)
  | unsupported => exact hset (.refl d)
  | control id value mem _ hctrl =>
      refine ⟨(hctrl.rearms hcount).1, fun hid => (hctrl.rearms hcount).2 ?_⟩
      rintro rfl
      cases hid
  | granted memory count _ _ hgrant => exact hset hgrant.rearms
  | queried => exact hset (.refl d)
  | queued type index _ hqueue => exact hset hqueue.rearms
  | dequeued type w _ _ hdequeue => exact hset hdequeue.rearms
  | started mem => exact hset (allocateOnce_rearms mem d)
  | streaming => exact hset (.refl d)
  | mapped pgoff size mem inserted _ hmap => exact hset hmap.rearms
  | captured count w fault ret _ _ hcapture => exact hset (getCaptureBuffer_move hcapture).rearms
  | unallocated buf mem fault => exact hset (allocateOnce_rearms mem d)
  | wrote buf mem fault _ hwrite => exact hset ((allocateOnce_rearms mem d).trans hwrite.rearms)
  | polled _ hpoll =>
      rcases hpoll with rfl | rfl
      · exact hset (.refl _)
      · exact hset d.checkTimers_rearms

/-! ### Calls

The last close deletes the timers, so that a handle is kept open throughout. -/

variable {s t : Driver} {call : Call}

theorem openFormat_rearms (mem : Allocation) (d : Device) : Rearms d (openFormat cfg mem d) :=
  (vidiocSFmtOut_rearms mem d _).trans (Device.setReady_rearms _)

theorem Device.opening_rearms (mem : Allocation) (d : Device) : Rearms d (d.opening mem) := by
  have hcount : Rearms d d.countOpen := .of_timing rfl
  unfold opening
  split
  · exact hcount.trans (allocateTimeoutImage_rearms mem _)
  · exact hcount

theorem v4l2LoopbackOpen_rearms {mem : Allocation} {kzalloc : Bool} {ret : Int}
    {opened : Option Opener} (h : v4l2LoopbackOpen cfg mem kzalloc d = (ret, d', opened)) :
    Rearms d d' := by
  cases v4l2LoopbackOpen_move h with
  | refused => exact .refl d
  | leaked => exact d.opening_rearms mem
  | opened => exact (d.opening_rearms mem).trans (openFormat_rearms mem _)

/-- The sustained frame rate is not changed. -/
def Call.setsSustain : Call → Bool
  | .request _ req => req.setsSustain
  | _ => false

/-- **A device stays armed while a handle is open.** -/
theorem Step.rearms (hs : Accounted s) (h : Step cfg s call t) {file : Nat}
    (hopen : t.openers.lookup file = some o) :
    (Armed s.dev → Armed t.dev) ∧
      (call.setsSustain = false → t.dev.sustainFramerate = s.dev.sustainFramerate) := by
  have hset : ∀ {e}, Rearms s.dev e → (Armed s.dev → Armed e) ∧
      (call.setsSustain = false → e.sustainFramerate = s.dev.sustainFramerate) :=
    fun he => ⟨he.armed, fun _ => he.sustain⟩
  cases h.move with
  | openFailed hfree hret => exact hset (v4l2LoopbackOpen_rearms hret)
  | opened hfree hret => exact hset (v4l2LoopbackOpen_rearms hret)
  | @closed f oc hfile =>
      -- another handle is open, so this is not the last close
      have hlen := keys_length_erase hfile
      have hpos := keys_length_pos hopen
      have hcounted := hs.counted
      have hmany : s.dev.openCount ≠ 1 := by
        simp only at hpos
        omega
      rw [v4l2LoopbackClose_kept fun hand => hmany hand.1, if_neg hmany]
      exact hset (.of_timing rfl)
  | request hfile hreq => exact request_rearms (hs.held hfile).2 hreq
  | sustainTimer => exact hset s.dev.sustainTimerClb_rearms
  | timeoutTimer => exact hset s.dev.timeoutTimerClb_rearms
  | storeFormat hstore =>
      rcases attrStoreFormat_dev hstore with rfl | ⟨num, den, -, -, htpf⟩
      · exact hset (.refl _)
      · obtain ⟨-, rfl⟩ := Device.setTimeperframe_eq_ok htpf
        exact hset (.of_timing rfl)
  | @storeMaxopeners curr len =>
      refine hset ?_
      rcases attrStoreMaxopeners_dev s.dev curr len with hsame | ⟨n, hmax⟩
      · rw [hsame]
        exact .refl _
      · rw [hmax]
        exact .of_timing rfl

/-! ### A reader that sleeps

`can_read` is the condition of the wait, and evaluating it checks the timers. -/

/-- A capture that sleeps has evaluated its condition, and armed the timers. -/
theorem vidiocDqbuf_asleep {w : Waiting} {type : BufType}
    (h : vidiocDqbuf w d o type = .ok (.asleep, d', o')) :
    (Request.dqbuf type w).capture o = some w ∧ getCaptureBuffer w d o = .ok (none, d', o') := by
  unfold vidiocDqbuf at h
  split at h
  · cases h
  · rename_i hio
    cases type with
    | videoCapture =>
        obtain ⟨⟨ret, e, oe⟩, hcapture, h⟩ := bind_eq_ok.mp h
        cases ret with
        | none =>
            cases h
            exact ⟨if_neg hio, hcapture⟩
        | some index =>
            simp only at h
            split at h
            · cases h
            · obtain ⟨i, -, h⟩ := bind_eq_ok.mp h
              split at h <;> cases h
    | videoOutput =>
        simp only at h
        split at h
        · cases h
        · obtain ⟨list, -, h⟩ := bind_eq_ok.mp h
          cases h
    | other code => cases h

theorem v4l2LoopbackRead_asleep {w : Waiting} {fault : Bool} {count : Nat}
    (h : v4l2LoopbackRead w fault d o count = .ok (.asleep, d', o')) :
    getCaptureBuffer w d o = .ok (none, d', o') := by
  obtain ⟨⟨ret, e, oe⟩, hcapture, h⟩ := bind_eq_ok.mp h
  cases ret with
  | none =>
      cases h
      exact hcapture
  | some index =>
      simp only at h
      split at h
      · obtain ⟨bytes, -, h⟩ := bind_eq_ok.mp h
        split at h <;> cases h
      · cases h

theorem request_asleep {w : Waiting} (hw : req.capture o = some w)
    (h : request cfg d o req = .ok (.asleep, d', o')) :
    getCaptureBuffer w d o = .ok (none, d', o') := by
  cases req with
  | read count w' fault =>
      cases hw
      exact v4l2LoopbackRead_asleep h
  | dqbuf type w' =>
      obtain ⟨hw', hcapture⟩ := vidiocDqbuf_asleep h
      cases hw.symm.trans hw'
      exact hcapture
  | _ => cases hw

/-- A call of a reader that goes to sleep: a capture, or `poll`, whose condition does not
    hold. -/
inductive Sleeps (cfg : Config) (s : Driver) (file : Nat) (o : Opener) (t : Driver) : Prop
  | capture (req : Request) (w : Waiting) (hfile : s.openers.lookup file = some o)
      (hw : req.capture o = some w) (h : driverStep cfg s (.request file req) = .ok (.asleep, t))
  | poll (hfile : s.openers.lookup file = some o) (htype : o.type = .reader)
      (h : driverStep cfg s (.request file .poll) = .ok (.ready false, t))

/-- The condition did not hold, and evaluating it armed the timers. -/
theorem Sleeps.eq (h : Sleeps cfg s file o t) :
    s.openers.lookup file = some o ∧ readable s.dev o = false ∧
      t = s.afterRequest file s.dev.checkTimers o := by
  cases h with
  | capture req w hfile hw h =>
      obtain ⟨o', d, oe, hfile', hreq, rfl⟩ := driverStep_request h
      cases hfile.symm.trans hfile'
      cases getCaptureBuffer_move (request_asleep hw hreq) with
      | asleep hblock hempty => exact ⟨hfile, hempty, rfl⟩
  | poll hfile htype h =>
      obtain ⟨o', d, oe, hfile', hreq, rfl⟩ := driverStep_request h
      cases hfile.symm.trans hfile'
      simp only [request, v4l2LoopbackPoll, htype, canRead, Except.ok.injEq, Prod.mk.injEq,
        Reply.ready.injEq] at hreq
      obtain ⟨hempty, rfl, rfl⟩ := hreq
      exact ⟨hfile, hempty, rfl⟩

/-! ### Waking it up

The reader is due from the first frame or tick on that it has not seen; later calls of
others do not take that back. -/

/-- A frame or a repeat that the reader has not seen. -/
def Due (d : Device) (o : Opener) : Prop :=
  d.writePosition > o.readPosition ∨ d.rereadCount > o.rereadCount

theorem Due.readable (h : Due d o) : readable d o = true := by
  rw [DroidCam.Loopback.readable, decide_eq_true_eq]
  exact h.elim Or.inl fun hcount => Or.inr (Or.inl hcount)

/-- The reader sleeps on: its handle is not closed, no capture of it is served, and the
    sustained frame rate is not turned off.  No counter is at its end. -/
structure SleepsOn (file : Nat) (s : Driver) (call : Call) : Prop where
  kept : call ≠ .closeDevice file
  asleep : ∀ req o w, call = .request file req → s.openers.lookup file = some o →
    req.capture o = some w → ¬(readable s.dev o = true ∨ w.nonblock = false ∧ w.signal = true)
  sustain : call.setsSustain = false
  position : s.dev.writePosition < 2147483647
  count : s.dev.rereadCount < 4294967295

def Call.isTick : Call → Bool
  | .sustainTimer => true
  | _ => false

/-- Where a reader has gone to sleep: its cursor, and what the device had counted. -/
structure Sleeper where
  readPosition : Int
  readCount : Int
  rereadCount : Int
  framesWritten : Nat

/-- A reader that sleeps, or should not, after so many ticks. -/
structure Asleep (file : Nat) (r : Sleeper) (ticks : Nat) (s : Driver) : Prop where
  accounted : Accounted s
  ring : RingInv s.dev
  opened : ∃ o, s.openers.lookup file = some o ∧ o.readPosition = r.readPosition ∧
    o.rereadCount = r.readCount
  behind : r.readPosition ≤ s.dev.writePosition
  armed : Armed s.dev
  sustain : s.dev.sustainFramerate = true
  nonneg : 0 ≤ s.dev.writePosition ∧ 0 ≤ s.dev.rereadCount
  frame : r.framesWritten < s.dev.framesWritten → r.readPosition < s.dev.writePosition
  count : r.readPosition < s.dev.writePosition ∨ r.readCount < s.dev.rereadCount ∨
    r.rereadCount + ticks ≤ s.dev.rereadCount

/-- Only a close takes a handle away. -/
theorem Step.stays_open {file : Nat} (h : Step cfg s call t) (hclose : call ≠ .closeDevice file)
    (hfile : s.openers.lookup file = some o) : ∃ o', t.openers.lookup file = some o' := by
  cases h.move with
  | openFailed => exact ⟨o, hfile⟩
  | @opened f mem kzalloc ret d of hfree hopen =>
      refine ⟨o, ?_⟩
      have hne : file ≠ f := by
        rintro rfl
        rw [hfree] at hfile
        cases hfile
      rwa [Driver.afterRequest, AList.lookup_insert_ne hne]
  | @closed f oc hopen =>
      refine ⟨o, ?_⟩
      have hne : file ≠ f := fun heq => hclose (by rw [heq])
      rwa [AList.lookup_erase_ne hne]
  | @request f req of reply d oe hopen hreq =>
      by_cases hf : file = f
      · subst hf
        exact ⟨oe, AList.lookup_insert _⟩
      · refine ⟨o, ?_⟩
        rwa [Driver.afterRequest, AList.lookup_insert_ne hf]
  | _ => exact ⟨o, hfile⟩

/-- A reader that is not served keeps its cursor. -/
theorem SleepsOn.cursor {file : Nat} (hok : SleepsOn file s call) (h : Step cfg s call t)
    (hfile : s.openers.lookup file = some o) :
    ∃ o', t.openers.lookup file = some o' ∧ o'.readPosition = o.readPosition ∧
      o'.rereadCount = o.rereadCount := by
  obtain ⟨o', hfile'⟩ := h.stays_open hok.kept hfile
  cases h.handle hfile' with
  | kept of hopen hposition hcount =>
      cases hfile.symm.trans hopen
      exact ⟨o', hfile', hposition, hcount⟩
  | opened mem kzalloc hcall =>
      subst hcall
      cases h.move with
      | openFailed hfree =>
          rw [hfree] at hfile
          cases hfile
      | opened hfree =>
          rw [hfree] at hfile
          cases hfile
  | captured req of w hcall hopen hw hgo =>
      cases hfile.symm.trans hopen
      exact absurd hgo (hok.asleep req o w hcall hfile hw)

theorem Step.tick (h : Step cfg s .sustainTimer t) : t.dev = s.dev.sustainTimerClb := by
  cases h.move
  rfl

/-- A timer that is pending can fire. -/
theorem step_tick (h : s.dev.sustainTimer.isSome = true) :
    Step cfg s .sustainTimer { s with dev := s.dev.sustainTimerClb } := by
  show next cfg s _ = _
  rw [next, driverStep, if_pos h]

theorem Asleep.step {file ticks : Nat} {r : Sleeper} (hs : Asleep file r ticks s)
    (hok : SleepsOn file s call) (h : Step cfg s call t) :
    Asleep file r (ticks + call.isTick.toNat) t := by
  obtain ⟨o, hfile, hread, hreread⟩ := hs.opened
  obtain ⟨o', hfile', hread', hreread'⟩ := hok.cursor h hfile
  obtain ⟨harmed, hsustain⟩ := h.rearms hs.accounted hfile'
  have hposition := hok.position
  have hmax := hok.count
  obtain ⟨hpos, hnonneg⟩ := hs.nonneg
  have hbehind := hs.behind
  have hframe := hs.frame
  have hcount := hs.count
  have hnext : r.readPosition ≤ t.dev.writePosition →
      0 ≤ t.dev.writePosition ∧ 0 ≤ t.dev.rereadCount →
      (r.framesWritten < t.dev.framesWritten → r.readPosition < t.dev.writePosition) →
      (r.readPosition < t.dev.writePosition ∨ r.readCount < t.dev.rereadCount ∨
        r.rereadCount + (ticks + call.isTick.toNat : Nat) ≤ t.dev.rereadCount) →
      Asleep file r (ticks + call.isTick.toNat) t :=
    fun hle hpos hframe hcount => ⟨hs.accounted.step h, hs.ring.step h,
      ⟨o', hfile', hread'.trans hread, hreread'.trans hreread⟩, hle, harmed hs.armed,
      (hsustain hok.sustain).trans hs.sustain, hpos, hframe, hcount⟩
  -- a tick counts up while the position stays; every other call is counted as none
  by_cases htick : call = .sustainTimer
  · subst htick
    have hd := h.tick
    rw [Device.sustainTimerClb, if_pos hs.sustain] at hd
    have hp : t.dev.writePosition = s.dev.writePosition := by rw [hd]
    have hf : t.dev.framesWritten = s.dev.framesWritten := by rw [hd]
    have hc : t.dev.rereadCount = s.dev.rereadCount + 1 := by
      rw [hd]
      exact toUInt32_of_fits (by omega) (by omega)
    have hone : (Call.isTick .sustainTimer).toNat = 1 := rfl
    exact hnext (by omega) (by omega) (by omega) (by omega)
  · have hzero : call.isTick.toNat = 0 := by
      cases call with
      | sustainTimer => exact absurd rfl htick
      | _ => rfl
    cases h.counts hs.accounted hs.ring with
    | same hp hc hf => exact hnext (by omega) (by omega) (by omega) (by omega)
    | freed hp hnone =>
        rw [hnone file] at hfile'
        cases hfile'
    | ticked hcall => exact absurd hcall htick
    | written f req of hcall hfile hcompletes hp hc hf =>
        rw [toInt32_of_fits (by omega) (by omega)] at hp
        exact hnext (by omega) (by omega) (by omega) (by omega)

theorem Asleep.run {file ticks : Nat} {r : Sleeper} {calls : List Call}
    (hs : Asleep file r ticks s) (h : Run (Guarded (SleepsOn file) (Step cfg)) s calls t) :
    Asleep file r (ticks + calls.countP Call.isTick) t := by
  induction h with
  | nil => exact hs
  | @snoc t u calls call hrun hstep ih =>
      have hnext := ih.step hstep.1 hstep.2
      rw [List.countP_append, List.countP_singleton, ← Nat.add_assoc]
      cases hcall : call.isTick <;> rw [hcall] at hnext <;> exact hnext

/-- The counter of repeats is an unsigned number. -/
theorem Step.rereadCount_nonneg (hs : PositionInv s) (hnonneg : 0 ≤ s.dev.rereadCount)
    (h : Step cfg s call t) : 0 ≤ t.dev.rereadCount := by
  cases h.counts hs.accounted hs.ring with
  | same hp hc => exact hc ▸ hnonneg
  | freed hp hnone hc => exact hc ▸ hnonneg
  | ticked hcall hsustain hp hc =>
      rw [hc]
      exact Int.emod_nonneg _ (by decide)
  | written f req of hcall hfile hcompletes hp hc => exact hc ▸ Int.le_refl 0

/-- A blocking read whose condition does not hold sleeps. -/
theorem sleeps_read {file : Nat} (hfile : s.openers.lookup file = some o)
    (hempty : readable s.dev o = false) :
    Sleeps cfg s file o (s.afterRequest file s.dev.checkTimers o) := by
  have hread : request cfg s.dev o (.read 1 ⟨false, false⟩ false) =
      .ok (.asleep, s.dev.checkTimers, o) := by
    rw [request, v4l2LoopbackRead, getCaptureBuffer, captureIndex_asleep rfl hempty rfl]
    rfl
  exact .capture _ ⟨false, false⟩ hfile rfl (driverStep_of_request hfile hread)

theorem Sleeps.step {file : Nat} (h : Sleeps cfg s file o t) : ∃ call, Step cfg s call t := by
  cases h with
  | capture req w hfile hw h =>
      refine ⟨.request file req, ?_⟩
      show next cfg s _ = _
      rw [next, h]
  | poll hfile htype h =>
      refine ⟨.request file .poll, ?_⟩
      show next cfg s _ = _
      rw [next, h]

theorem Sleeps.asleep {file : Nat} (hs : PositionInv s) (hnonneg : 0 ≤ s.dev.rereadCount)
    (hsustain : s.dev.sustainFramerate = true) (h : Sleeps cfg s file o t) :
    Asleep file ⟨o.readPosition, o.rereadCount, s.dev.rereadCount, s.dev.framesWritten⟩ 0 t := by
  obtain ⟨call, hstep⟩ := h.step
  obtain ⟨hfile, hempty, rfl⟩ := h.eq
  have hcount := s.dev.checkTimers_standing.rereadCount
  have hframes := s.dev.checkTimers_standing.framesWritten
  have hposition := s.dev.checkTimers_same.writePosition
  have hready := (hs.accounted.held hfile).1
  exact {
    accounted := hs.accounted.step hstep
    ring := hs.ring.step hstep
    opened := ⟨o, AList.lookup_insert _, rfl, rfl⟩
    behind := hposition ▸ (hs.readers file o hfile).2
    armed := Device.checkTimers_armed hready
    sustain := s.dev.checkTimers_rearms.sustain.trans hsustain
    nonneg := ⟨hposition ▸ hs.nonneg, hcount ▸ hnonneg⟩
    frame := fun hlt => absurd (hframes ▸ hlt) (Nat.lt_irrefl _)
    count := Or.inr (Or.inr (by
      show s.dev.rereadCount + (0 : Nat) ≤ s.dev.checkTimers.rereadCount
      rw [hcount]
      omega)) }

/-- **A reader that sleeps is woken up.**  While its handle is open and the frame rate is
    sustained, whatever the other handles do, the timer of the device is pending in every
    state, and so is that of a timeout that is set.  Once a frame was complete, or the
    timer has fired more often than the reader is ahead of the device, the condition that
    it waits for holds, and it holds until the reader is served. -/
theorem sleeper_wakes {file : Nat} {before calls : List Call} {u : Driver}
    (h₀ : Run (Guarded PositionsFit (Step cfg)) (Driver.init cfg) before s)
    (hsustain : s.dev.sustainFramerate = true) (hsleep : Sleeps cfg s file o t)
    (h : Run (Guarded (SleepsOn file) (Step cfg)) t calls u) :
    u.dev.sustainTimer.isSome = true ∧
      (0 < u.dev.timeoutJiffies → u.dev.timeoutTimer.isSome = true) ∧
      ∃ o', u.openers.lookup file = some o' ∧ o'.readPosition = o.readPosition ∧
        o'.rereadCount = o.rereadCount ∧
        (s.dev.framesWritten < u.dev.framesWritten ∨
          o.rereadCount < s.dev.rereadCount + calls.countP Call.isTick →
            readable u.dev o' = true) := by
  have hinv : PositionInv s ∧ 0 ≤ s.dev.rereadCount := by
    have hstep : ∀ r call r', PositionInv r ∧ 0 ≤ r.dev.rereadCount →
        Guarded PositionsFit (Step cfg) r call r' → PositionInv r' ∧ 0 ≤ r'.dev.rereadCount :=
      fun r call r' hr hstep =>
        ⟨hr.1.step hstep.1 hstep.2, hstep.2.rereadCount_nonneg hr.1 hr.2⟩
    exact @Run.invariant _ _ _ (fun r => PositionInv r ∧ 0 ≤ r.dev.rereadCount) _ _ _ hstep
      ⟨PositionInv.init cfg, Int.le_refl 0⟩ h₀
  have hu := (hsleep.asleep hinv.1 hinv.2 hsustain).run h
  obtain ⟨o', hfile, hread, hreread⟩ := hu.opened
  refine ⟨hu.armed.sustain hu.sustain, hu.armed.timeout, o', hfile, hread, hreread, ?_⟩
  have hcount : o.readPosition < u.dev.writePosition ∨ o.rereadCount < u.dev.rereadCount ∨
      s.dev.rereadCount + (0 + calls.countP Call.isTick : Nat) ≤ u.dev.rereadCount := hu.count
  -- a frame moves the position past the cursor, a tick the count
  rintro (hframe | hticks)
  · exact Due.readable (Or.inl (hread ▸ hu.frame hframe))
  · have hread' : o'.readPosition = o.readPosition := hread
    have hreread' : o'.rereadCount = o.rereadCount := hreread
    apply Due.readable
    rw [Due, hread', hreread']
    omega

/-- The frame rate is sustained from the start on. -/
def sustaining : Call := .request 1 (.sCtrl .sustainFramerate 1 granting)

/-- The control neither writes nor reads a frame. -/
theorem positionsFit_sustaining (s : Driver) : PositionsFit s sustaining :=
  fun _ _ => ⟨fun h => h.elim, fun _ hw => nomatch hw⟩

theorem sleepsOn_tick {file : Nat} (hposition : s.dev.writePosition < 2147483647)
    (hcount : s.dev.rereadCount < 4294967295) : SleepsOn file s .sustainTimer :=
  ⟨fun h => (by cases h), fun _ _ _ h => (by cases h), rfl, hposition, hcount⟩

/-- A read before the first frame: it sleeps, and one tick wakes it up. -/
theorem sleeper_wakes_tick :
    ∃ s t u : Driver, Sleeps ⟨640, 480, 100⟩ s 1 {} t ∧ readable s.dev {} = false ∧
      Run (Guarded (SleepsOn 1) (Step ⟨640, 480, 100⟩)) t [.sustainTimer] u ∧
      ∃ o, u.openers.lookup 1 = some o ∧ readable u.dev o = true := by
  obtain ⟨s, hs, hvalues⟩ := Option.map_eq_some_iff.mp (by decide +kernel :
    (execute (next ⟨640, 480, 100⟩) (Driver.init ⟨640, 480, 100⟩)
        [.openDevice 1 granting true, sustaining]).map
      (fun s => (s.openers.lookup 1, readable s.dev {}, s.dev.sustainFramerate,
        s.dev.writePosition, s.dev.rereadCount)) = some (some {}, false, true, 0, 0))
  simp only [Prod.mk.injEq] at hvalues
  obtain ⟨hfile, hempty, hsustain, hposition, hcount⟩ := hvalues
  have hbefore : Run (Guarded PositionsFit (Step ⟨640, 480, 100⟩)) (Driver.init ⟨640, 480, 100⟩)
      [.openDevice 1 granting true, sustaining] s := by
    obtain ⟨r, hr, hrest⟩ := Option.bind_eq_some_iff.mp hs
    obtain ⟨s', hs', hnil⟩ := Option.bind_eq_some_iff.mp hrest
    cases hnil
    exact (Run.single ⟨trivial, hr⟩).append (Run.single ⟨positionsFit_sustaining r, hs'⟩)
  have hsleep : Sleeps ⟨640, 480, 100⟩ s 1 {} _ := sleeps_read hfile hempty
  have harmed : Armed s.dev.checkTimers :=
    Device.checkTimers_armed ((Accounted.run hbefore.of_guarded).held hfile).1
  have hpending := harmed.sustain (s.dev.checkTimers_rearms.sustain.trans hsustain)
  have hcheck := s.dev.checkTimers_standing.rereadCount
  have hsame := s.dev.checkTimers_same.writePosition
  have hok : SleepsOn 1 (s.afterRequest 1 s.dev.checkTimers {}) .sustainTimer :=
    sleepsOn_tick (by rw [Driver.afterRequest, hsame, hposition]; decide)
      (by rw [Driver.afterRequest, hcheck, hcount]; decide)
  have htick : Run (Guarded (SleepsOn 1) (Step ⟨640, 480, 100⟩))
      (s.afterRequest 1 s.dev.checkTimers {}) [.sustainTimer] _ :=
    Run.single ⟨hok, step_tick hpending⟩
  obtain ⟨-, -, o, ho, -, -, hwakes⟩ := sleeper_wakes hbefore hsustain hsleep htick
  refine ⟨s, _, _, hsleep, hempty, htick, o, ho, hwakes (Or.inr ?_)⟩
  rw [hcount]
  decide

end DroidCam.Loopback
