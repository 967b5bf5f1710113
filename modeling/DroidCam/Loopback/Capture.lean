import DroidCam.Loopback.Ring

/-
  DroidCam/Loopback/Capture.lean
  ==============================
  The `int` that `get_capture_buffer` gives back: a buffer index, or a negative
  error.  CAPTURE DQBUF tests its sign; `v4l2_loopback_read` uses it at once as
  an index.  And the index itself comes from a signed remainder, which is
  negative for a negative counter that `used_buffers` does not divide.

  `capture_index_valid_iff` says when a capture is safe from both.
-/

namespace DroidCam.Loopback

open CArith LabelledRun

/-- The requests that call `get_capture_buffer`, with the way they wait. -/
def Request.capture (o : Opener) : Request → Option Waiting
  | .read _ w _ => some w
  | .dqbuf .videoCapture w => if o.timeoutImageIo then none else some w
  | _ => none

/-- A capture gets the index of a buffer in use, or it gives the error it gets to
    its caller and does nothing else, or it still waits. -/
def CaptureSafe (cfg : Config) (d : Device) (o : Opener) (req : Request) : Prop :=
  ∀ w, req.capture o = some w →
    match captureIndex w d o with
    | .ok .again => request cfg d o req = .ok (.code (-EAGAIN), d, o)
    | .ok (.asleep _) => True
    | .ok (.index ret _ _ _) => ret < d.ring.usedBuffers
    | .error _ => False

/-- The capture does not find the device empty, or it may wait. -/
def MayWait (w : Waiting) (d : Device) (o : Opener) : Prop :=
  d.writePosition > o.readPosition ∨ d.rereadCount > o.rereadCount ∨ d.timeoutHappened = true ∨
    w.nonblock = false

/-- The counter a capture reduces modulo `used_buffers` is not negative, unless it
    is a multiple: the position before the next one for a reader that has caught
    up, the last written one for a reader that lags, else the reader's own. -/
def CounterReduces (d : Device) (o : Opener) : Prop :=
  let x :=
    if d.writePosition = o.readPosition then toInt32 (o.readPosition + d.ring.usedBuffers - 1)
    else if d.writePosition > toInt32 (o.readPosition + 2) then toInt32 (d.writePosition - 1)
    else o.readPosition
  0 ≤ x ∨ (d.ring.usedBuffers : Int) ∣ x

/-- A read has something to deliver or may wait for it; a capture that goes on
    reduces a counter that stays in the ring. -/
def CaptureGuarded (d : Device) (o : Opener) (req : Request) : Prop :=
  ∀ w, req.capture o = some w →
    (MayWait w d o ∨ req = .dqbuf .videoCapture w) ∧
      ((readable d o = true ∨ w.nonblock = false ∧ w.signal = true) → CounterReduces d o)

theorem mayWait_iff {w : Waiting} {d : Device} {o : Opener} :
    MayWait w d o ↔ ¬(w.nonblock = true ∧ readable d o = false) := by
  simp only [MayWait, readable, Bool.eq_false_iff, ne_eq, decide_eq_true_eq]
  tauto

theorem nextPosition_fst (d : Device) (o : Opener) :
    (nextPosition d o).1 =
      if d.writePosition = o.readPosition then toInt32 (o.readPosition + d.ring.usedBuffers - 1)
      else if d.writePosition > toInt32 (o.readPosition + 2) then toInt32 (d.writePosition - 1)
      else o.readPosition := by
  unfold nextPosition
  split <;> rfl

/-- A reader that lags goes on with its own frame, or skips to the last one, also
    where `read_position + 2` wraps around. -/
theorem nextPosition_behind {d : Device} {o : Opener} (hnonneg : 0 ≤ o.readPosition)
    (hbehind : o.readPosition < d.writePosition) (hmax : d.writePosition < 2147483648) :
    ∃ p, p = (if o.readPosition + 2 < d.writePosition then d.writePosition - 1
        else o.readPosition) ∧
      nextPosition d o = (p, { o with rereadCount := 0, readPosition := p + 1 }) := by
  have hne : d.writePosition ≠ o.readPosition := by omega
  have hposition : (if d.writePosition > toInt32 (o.readPosition + 2)
      then toInt32 (d.writePosition - 1) else o.readPosition) =
        if o.readPosition + 2 < d.writePosition then d.writePosition - 1 else o.readPosition := by
    rw [toInt32_of_fits (x := d.writePosition - 1) (by omega) (by omega)]
    by_cases hfits : o.readPosition + 2 < 2147483648
    · rw [toInt32_of_fits (by omega) hfits]
    · rw [toInt32_of_wraps (by omega) (by omega)]
      split <;> split <;> omega
  refine ⟨_, rfl, ?_⟩
  rw [nextPosition, if_neg hne]
  simp only [hposition]
  rw [toInt32_of_fits (by split <;> omega) (by split <;> omega)]

/-- The remainder addresses the array exactly when the counter reduces. -/
theorem counterReduces_iff {d : Device} {o : Opener} (hd : RingValid d) :
    CounterReduces d o ↔ ∃ pos, ringSlot (nextPosition d o).1 d.ring.usedBuffers = .ok pos := by
  have hle : d.ring.usedBuffers ≤ MAX_BUFFERS := hd.number ▸ hd.le
  have hlt : (nextPosition d o).1.tmod d.ring.usedBuffers < d.ring.usedBuffers :=
    Int.tmod_lt_of_pos _ (Int.natCast_pos.mpr hd.pos)
  rw [CounterReduces, ← nextPosition_fst, ← tmod_nonneg_iff, ringSlot,
    if_neg (Nat.ne_of_gt hd.pos), arrayIndex]
  constructor
  · intro hx
    exact ⟨_, if_pos ⟨hx, by omega⟩⟩
  · rintro ⟨pos, hpos⟩
    split at hpos
    · exact (‹_ ∧ _› : 0 ≤ (nextPosition d o).1.tmod d.ring.usedBuffers ∧ _).1
    · cases hpos

theorem captureIndex_again {w : Waiting} {d : Device} {o : Opener}
    (h : w.nonblock = true ∧ readable d o = false) : captureIndex w d o = .ok .again := by
  rw [captureIndex, if_pos h]

theorem captureIndex_asleep {w : Waiting} {d : Device} {o : Opener}
    (hblock : w.nonblock = false) (hempty : readable d o = false) (hsignal : w.signal = false) :
    captureIndex w d o = .ok (.asleep d.checkTimers) := by
  simp [captureIndex, canRead, hblock, hempty, hsignal]

/-- A capture that goes on has an outcome exactly when its remainder has one. -/
theorem captureIndex_go {w : Waiting} {d : Device} {o : Opener}
    (hgo : readable d o = true ∨ w.nonblock = false ∧ w.signal = true) :
    captureIndex w d o = (do
      let pos ← ringSlot (nextPosition d o).1 d.ring.usedBuffers
      .ok (.index (d.ring.bufpos2index pos) d.timeoutHappened d.captured (nextPosition d o).2)) := by
  have hagain : ¬(w.nonblock = true ∧ readable d o = false) := by
    rcases hgo with hr | ⟨hn, -⟩
    · simp [hr]
    · simp [hn]
  have hsleep : ¬(readable d o = false ∧ w.signal = false) := by
    rcases hgo with hr | ⟨-, hs⟩
    · simp [hr]
    · simp [hs]
  simp only [captureIndex, canRead, if_neg hagain, if_neg hsleep, nextPosition_checkTimers,
    Device.checkTimers_ring, Device.checkTimers_timeoutHappened]
  rfl

/-- Nothing to deliver and no waiting: DQBUF passes the error on, a read takes it
    for an index. -/
theorem request_again_iff {cfg : Config} {d : Device} {o : Opener} {req : Request} {w : Waiting}
    (hw : req.capture o = some w) (hagain : w.nonblock = true ∧ readable d o = false) :
    request cfg d o req = .ok (.code (-EAGAIN), d, o) ↔ req = .dqbuf .videoCapture w := by
  -- the index is an error code here; the two callers differ in what they do with it
  have hcapture : getCaptureBuffer w d o = .ok (some (-EAGAIN), d, o) := by
    rw [getCaptureBuffer, captureIndex_again hagain]
    rfl
  cases req with
  | read count w' fault =>
      obtain rfl := Option.some.inj hw
      have hread : request cfg d o (.read count w' fault) = .ok (.outOfBounds (-EAGAIN), d, o) := by
        rw [request, v4l2LoopbackRead, hcapture]
        rfl
      simp [hread]
  | dqbuf type w' =>
      cases type with
      | videoCapture =>
          simp only [Request.capture] at hw
          split at hw
          · cases hw
          · rename_i hio
            obtain rfl := Option.some.inj hw
            have hdqbuf : request cfg d o (.dqbuf .videoCapture w') =
                .ok (.code (-EAGAIN), d, o) := by
              rw [request, vidiocDqbuf, if_neg hio]
              simp only [hcapture]
              rfl
            simp [hdqbuf]
      | _ => cases hw
  | _ => cases hw

/-- **When a capture is safe**, for every reachable state and every request. -/
theorem capture_index_valid_iff {cfg : Config} {s : Driver} {calls : List Call}
    (h : Run (Step cfg) (Driver.init cfg) calls s) (o : Opener) (req : Request) :
    CaptureSafe cfg s.dev o req ↔ CaptureGuarded s.dev o req := by
  have hring := (RingInv.run h).toRingValid
  refine forall_congr' fun w => imp_congr_right fun hw => ?_
  by_cases hagain : w.nonblock = true ∧ readable s.dev o = false
  · have hgo : ¬(readable s.dev o = true ∨ w.nonblock = false ∧ w.signal = true) := by
      simp [hagain.1, hagain.2]
    have hwait : ¬MayWait w s.dev o := fun hwait => mayWait_iff.mp hwait hagain
    rw [captureIndex_again hagain]
    simp only [request_again_iff hw hagain, hwait, hgo, false_or, false_implies, and_true]
  · have hwait : MayWait w s.dev o := mayWait_iff.mpr hagain
    by_cases hgo : readable s.dev o = true ∨ w.nonblock = false ∧ w.signal = true
    · rw [captureIndex_go hgo]
      simp only [hwait, hgo, true_or, true_and, true_implies, counterReduces_iff hring]
      constructor
      · intro hsafe
        cases hslot : ringSlot (nextPosition s.dev o).1 s.dev.ring.usedBuffers with
        | ok pos => exact ⟨pos, rfl⟩
        | error f => simp [hslot, bind, Except.bind] at hsafe
      · rintro ⟨pos, hpos⟩
        simp only [hpos, bind, Except.bind]
        exact hring.map pos (ringSlot_eq_ok hpos).2
    -- nothing to deliver, and it may wait: without a signal it is still asleep
    · have hempty : readable s.dev o = false := by
        rw [Bool.eq_false_iff]
        intro hr
        exact hgo (Or.inl hr)
      have hblock : w.nonblock = false := by
        rw [Bool.eq_false_iff]
        intro hn
        exact hagain ⟨hn, hempty⟩
      have hsignal : w.signal = false := by
        rw [Bool.eq_false_iff]
        intro hs
        exact hgo (Or.inr ⟨hblock, hs⟩)
      rw [captureIndex_asleep hblock hempty hsignal]
      simp [hwait, hgo]

/-- A frame is written and read back without blocking. -/
theorem capture_index_valid_written :
    ∃ s o, Run (Step ⟨640, 480, 100⟩) (Driver.init ⟨640, 480, 100⟩)
        [.openDevice 1 granting true, .request 1 (.write [7] granting none)] s ∧
      s.openers.lookup 1 = some o ∧
      CaptureSafe ⟨640, 480, 100⟩ s.dev o (.read 1 ⟨true, false⟩ false) := by
  obtain ⟨s, hs, hvalues⟩ := Option.map_eq_some_iff.mp (by decide +kernel :
    (execute (next ⟨640, 480, 100⟩) (Driver.init ⟨640, 480, 100⟩)
      [.openDevice 1 granting true, .request 1 (.write [7] granting none)]).map
      (fun s => (s.dev.writePosition, s.dev.ring.usedBuffers, s.openers.lookup 1)) =
        some (1, 16, some {}))
  simp only [Prod.mk.injEq] at hvalues
  obtain ⟨hposition, hused, hopener⟩ := hvalues
  have hrun := Run.of_execute hs
  refine ⟨s, {}, hrun, hopener, (capture_index_valid_iff hrun _ _).mpr ?_⟩
  intro w hw
  refine ⟨Or.inl (Or.inl ?_), fun _ => ?_⟩
  · rw [hposition]
    decide
  · rw [CounterReduces, hposition, hused]
    decide

/-- A fresh device is read with `O_NONBLOCK`. -/
theorem capture_index_negative :
    ¬ ∀ (cfg : Config) (s : Driver) calls (file : Nat) (o : Opener) (req : Request),
      Run (Step cfg) (Driver.init cfg) calls s → s.openers.lookup file = some o →
        CaptureSafe cfg s.dev o req := by
  intro h
  obtain ⟨s, hs, hvalues⟩ := Option.map_eq_some_iff.mp (by decide +kernel :
    (execute (next ⟨640, 480, 100⟩) (Driver.init ⟨640, 480, 100⟩)
      [.openDevice 1 granting true]).map
      (fun s => (readable s.dev {}, s.openers.lookup 1)) = some (false, some {}))
  simp only [Prod.mk.injEq] at hvalues
  obtain ⟨hempty, hopener⟩ := hvalues
  have hsafe := h _ _ _ 1 {} (.read 1 ⟨true, false⟩ false) (Run.of_execute hs) hopener _ rfl
  rw [captureIndex_again ⟨rfl, hempty⟩] at hsafe
  exact absurd ((request_again_iff rfl ⟨rfl, hempty⟩).mp hsafe) (by simp)

end DroidCam.Loopback
