import DroidCam.Loopback.Cursors

/-
  DroidCam/Loopback/Interrupted.lean
  ==================================
  A capture whose wait is ended by a signal.

  `get_capture_buffer` throws the result of `wait_event_interruptible` away and goes
  on as if the condition held: a reader that nothing is available for is given a
  buffer, and its cursor moves.
-/

namespace DroidCam.Loopback

open CArith LabelledRun

/-- The capture gives an index, or moves the cursor, only for a reader that can read;
    interrupted with nothing available it fails and leaves everything as it was. -/
structure HonestCapture (cfg : Config) (s : Driver) (file : Nat) (req : Request) (o : Opener)
    (w : Waiting) : Prop where
  index : ∀ ret d o', getCaptureBuffer w s.dev o = .ok (some ret, d, o') → 0 ≤ ret →
    readable s.dev o = true
  cursor : ∀ ret d o', getCaptureBuffer w s.dev o = .ok (ret, d, o') → o' ≠ o →
    readable s.dev o = true
  interrupted : w.nonblock = false → w.signal = true → readable s.dev o = false →
    ∃ ret d, ret < 0 ∧ d.timeoutHappened = s.dev.timeoutHappened ∧
      driverStep cfg s (.request file req) = .ok (.code ret, s.afterRequest file d o)

/-- If the call is a capture, it is an honest one. -/
def CapturesHonestly (cfg : Config) (s : Driver) : Call → Prop
  | .request file req => ∀ o w, s.openers.lookup file = some o → req.capture o = some w →
    HonestCapture cfg s file req o w
  | _ => True

/-- No signal ends a wait for something that is not there yet. -/
def Uninterrupted (s : Driver) : Call → Prop
  | .request file req => ∀ o ∈ s.openers.lookup file, ∀ w ∈ req.capture o,
    w.nonblock = false → w.signal = true → readable s.dev o = true
  | _ => True

/-- A reader that can read nothing has no timeout to take. -/
theorem timeoutHappened_of_not_readable {d : Device} {o : Opener} (h : readable d o = false) :
    d.timeoutHappened = false := by
  cases hhappened : d.timeoutHappened with
  | false => rfl
  | true => simp [readable, hhappened] at h

/-- An interrupted capture finds an index all the same, unless its position is not in
    the ring. -/
theorem getCaptureBuffer_interrupted {w : Waiting} {d : Device} {o : Opener}
    (hblock : w.nonblock = false) (hsignal : w.signal = true) (hempty : readable d o = false) :
    getCaptureBuffer w d o = (do
      let pos ← ringSlot (nextPosition d o).1 d.ring.usedBuffers
      .ok (some (d.ring.bufpos2index pos), d.captured, (nextPosition d o).2)) := by
  have hgo := captureIndex_go (Or.inr ⟨hblock, hsignal⟩ :
    readable d o = true ∨ w.nonblock = false ∧ w.signal = true)
  rw [getCaptureBuffer, hgo]
  cases hslot : ringSlot (nextPosition d o).1 d.ring.usedBuffers with
  | error f => rfl
  | ok pos => simp [bind, Except.bind, timeoutHappened_of_not_readable hempty]

/-- A capture is honest exactly when no signal ends its wait. -/
theorem honestCapture_iff {cfg : Config} {s : Driver} {file : Nat} {req : Request} {o : Opener}
    {w : Waiting} (hfile : s.openers.lookup file = some o) (hw : req.capture o = some w) :
    HonestCapture cfg s file req o w ↔
      (w.nonblock = false → w.signal = true → readable s.dev o = true) := by
  constructor
  · intro hhonest hblock hsignal
    by_contra hne
    have hempty : readable s.dev o = false := by simpa using hne
    obtain ⟨ret, d, -, -, hstep⟩ := hhonest.interrupted hblock hsignal hempty
    obtain ⟨o', e, o'', hfile', hreq, -⟩ := driverStep_request hstep
    obtain rfl : o' = o := Option.some.inj (hfile'.symm.trans hfile)
    obtain ⟨index, f, hcapture⟩ := request_captured hw hreq
    -- a signal ends the wait with nothing new, and the code goes on to an index
    rw [getCaptureBuffer_interrupted hblock hsignal hempty] at hcapture
    obtain ⟨pos, hpos, hcapture⟩ := bind_eq_ok.mp hcapture
    refine hne (hhonest.index (s.dev.ring.bufpos2index pos) s.dev.captured
      (nextPosition s.dev o').2 ?_ (Int.natCast_nonneg _))
    rw [getCaptureBuffer_interrupted hblock hsignal hempty, hpos]
    rfl
  · intro hready
    -- what is left: a capture that goes on finds something to deliver
    have hgo : readable s.dev o = true ∨ w.nonblock = false ∧ w.signal = true →
        readable s.dev o = true := by
      rintro (hr | ⟨hblock, hsignal⟩)
      · exact hr
      · exact hready hblock hsignal
    refine ⟨fun ret d o' hcapture hret => ?_, fun ret d o' hcapture hmoved => ?_,
      fun hblock hsignal hempty => ?_⟩
    · cases getCaptureBuffer_move hcapture with
      | again => exact absurd hret (by decide)
      | index pos image hgone => exact hgo hgone
    · cases getCaptureBuffer_move hcapture with
      | again => exact absurd rfl hmoved
      | asleep => exact absurd rfl hmoved
      | index pos image hgone => exact hgo hgone
    · exact absurd ((hready hblock hsignal).symm.trans hempty) (by simp)

/-- **When captures are honest**: along any sequence of calls, exactly when no signal
    ends the wait of a reader that nothing is available for. -/
theorem captures_honest_iff (cfg : Config) (calls : List Call) :
    Along (Step cfg) (CapturesHonestly cfg) (Driver.init cfg) calls ↔
      Along (Step cfg) Uninterrupted (Driver.init cfg) calls := by
  have hiff : ∀ s call, CapturesHonestly cfg s call ↔ Uninterrupted s call := by
    intro s call
    cases call with
    | request file req =>
        constructor
        · intro hhonest o hfile w hw
          exact (honestCapture_iff hfile hw).mp (hhonest o w hfile hw)
        · intro hready o w hfile hw
          exact (honestCapture_iff hfile hw).mpr (hready o hfile w hw)
    | _ => exact Iff.rfl
  exact @along_iff _ _ _ (fun _ => True) _ _ _ _ (fun _ _ _ _ _ _ => trivial)
    (fun s call _ => hiff s call) trivial

/-- On a device that was never written to, a signal gives a reader a buffer. -/
theorem captures_interrupted :
    ¬ ∀ (cfg : Config) (calls : List Call),
      Along (Step cfg) (CapturesHonestly cfg) (Driver.init cfg) calls := by
  intro h
  obtain ⟨s, hs, hvalues⟩ := Option.map_eq_some_iff.mp (by decide +kernel :
    (execute (next ⟨640, 480, 100⟩) (Driver.init ⟨640, 480, 100⟩)
      [.openDevice 1 granting true]).map
      (fun s => (readable s.dev {}, s.openers.lookup 1)) = some (false, some {}))
  simp only [Prod.mk.injEq] at hvalues
  obtain ⟨hempty, hfile⟩ := hvalues
  have hhonest := h ⟨640, 480, 100⟩ [.openDevice 1 granting true,
    .request 1 (.read 1 ⟨false, true⟩ false)] [.openDevice 1 granting true] _ s
    (List.prefix_refl _) (Run.of_execute hs) {} ⟨false, true⟩ hfile rfl
  have hready := (honestCapture_iff hfile rfl).mp hhonest rfl rfl
  exact absurd (hready.symm.trans hempty) (by simp)

end DroidCam.Loopback
