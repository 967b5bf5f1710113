import DroidCam.Loopback.Standing

/-
  DroidCam/Loopback/FrameInterval.lean
  ====================================
  The frame interval that S_PARM and the format attribute store, and the period of
  the sustain timer that `set_timeperframe` derives from it.

  The attribute checks both numbers of the fraction.  S_PARM forwards what it gets:
  a zero denominator is divided by, and a zero numerator is stored.
-/

namespace DroidCam.Loopback

open LabelledRun

/-! ### The stored interval

The interval and its length in ticks are set together, in one function. -/

/-- The interval is a positive fraction, and `frame_jiffies` is its length in ticks. -/
structure IntervalValid (cfg : Config) (d : Device) : Prop where
  numerator : 1 ≤ d.timeperframe.numerator
  denominator : 1 ≤ d.timeperframe.denominator
  frameJiffies : d.frameJiffies =
    max 1 (cfg.hz * d.timeperframe.numerator / d.timeperframe.denominator)

/-- The call divides by no zero, and leaves a valid interval if it comes back. -/
structure IntervalSafe (cfg : Config) (s : Driver) (call : Call) : Prop where
  divisor : driverStep cfg s call ≠ .error (.fault .divideByZero)
  valid : ∀ reply t, driverStep cfg s call = .ok (reply, t) → IntervalValid cfg t.dev

/-- S_PARM on a queue the driver has is given a positive fraction. -/
def Request.PositiveInterval : Request → Prop
  | .sParm type tpf =>
    type = .videoCapture ∨ type = .videoOutput → 1 ≤ tpf.numerator ∧ 1 ≤ tpf.denominator
  | _ => True

def PositiveInterval (s : Driver) : Call → Prop
  | .request file req => s.openers.lookup file ≠ none → req.PositiveInterval
  | _ => True

/-- A second has `HZ` ticks. -/
theorem Config.msecsToJiffies_second (cfg : Config) : cfg.msecsToJiffies 1000 = cfg.hz := by
  unfold Config.msecsToJiffies
  omega

theorem IntervalValid.init (cfg : Config) : IntervalValid cfg (Device.init cfg) where
  numerator := Nat.le_refl 1
  denominator := show 1 ≤ 30 by decide
  frameJiffies := by
    show max 1 (cfg.msecsToJiffies 1000 * 1 / 30) = max 1 (cfg.hz * 1 / 30)
    rw [cfg.msecsToJiffies_second]

theorem IntervalValid.standing {cfg : Config} {d d' : Device} (hd : IntervalValid cfg d)
    (h : Standing d d') : IntervalValid cfg d' := by
  constructor
  · rw [h.timeperframe]
    exact hd.numerator
  · rw [h.timeperframe]
    exact hd.denominator
  · rw [h.timeperframe, h.frameJiffies]
    exact hd.frameJiffies

/-- What `set_timeperframe` stores is valid when the numerator is positive. -/
theorem setTimeperframe_valid_iff {cfg : Config} {d d' : Device} {tpf : Fract}
    (h : d.setTimeperframe cfg tpf = .ok d') : IntervalValid cfg d' ↔ 1 ≤ tpf.numerator := by
  obtain ⟨hdenominator, rfl⟩ := Device.setTimeperframe_eq_ok h
  constructor
  · intro hvalid
    exact hvalid.numerator
  · intro hnumerator
    refine ⟨hnumerator, Nat.pos_of_ne_zero hdenominator, ?_⟩
    simp only [cfg.msecsToJiffies_second]

/-! ### Calls

Two calls set the interval: S_PARM, which takes any fraction, and the format attribute,
which asks for two positive numbers first. -/

variable {cfg : Config} {s t : Driver} {d d' : Device} {o o' : Opener} {req : Request}
  {reply : Reply} {call : Call}

/-- The timeout control and a complete frame have nothing to do with the interval. -/
theorem IntervalValid.move (hd : IntervalValid cfg d) (h : StandingMove cfg d d' o req)
    (hreq : ∀ type tpf, req ≠ .sParm type tpf) : IntervalValid cfg d' := by
  cases h with
  | same hstanding => exact hd.standing hstanding
  | interval type tpf hparm htype hset => exact absurd hparm (hreq type tpf)
  | timeout value mem hctrl hrange hd' =>
      have hset : IntervalValid cfg { d with timeoutJiffies := cfg.msecsToJiffies value.toNat } :=
        ⟨hd.numerator, hd.denominator, hd.frameJiffies⟩
      rw [hd']
      exact hset.standing (d.setTimeout_standing cfg mem value)
  | written e buf hcompletes hsame hwritten =>
      have he := hd.standing hsame
      have hzero : IntervalValid cfg
          { e with rereadCount := 0, framesWritten := e.framesWritten + 1 } :=
        ⟨he.numerator, he.denominator, he.frameJiffies⟩
      exact hzero.standing (Device.bufferWritten_standing hwritten)

/-- Every request but S_PARM keeps a valid interval. -/
theorem request_interval_iff (hd : IntervalValid cfg d)
    (h : request cfg d o req = .ok (reply, d', o')) :
    IntervalValid cfg d' ↔ req.PositiveInterval := by
  have hmove := request_standing h
  cases request_move h with
  | interval type tpf _ htype hset =>
      have hdenominator : 1 ≤ tpf.denominator :=
        Nat.pos_of_ne_zero (Device.setTimeperframe_eq_ok hset).1
      simp [Request.PositiveInterval, htype, setTimeperframe_valid_iff hset, hdenominator]
  | unsupported code tpf => exact iff_of_true hd fun htype => by simp at htype
  | _ => exact iff_of_true (hd.move hmove (by simp)) trivial

/-- A step that meets the condition keeps the interval valid, and no other does. -/
theorem IntervalValid.step_iff (hs : IntervalValid cfg s.dev) (h : Step cfg s call t) :
    IntervalValid cfg t.dev ↔ PositiveInterval s call := by
  cases h.standing with
  | same hcall hstanding =>
      refine iff_of_true (hs.standing hstanding) ?_
      cases call with
      | request file req => exact absurd rfl (hcall file req)
      | _ => trivial
  | request file req o o' reply hcall hfile hreq =>
      subst hcall
      rw [request_interval_iff hs hreq]
      simp [PositiveInterval, hfile]
  | ticked hcall hsustain hd =>
      subst hcall
      refine iff_of_true ?_ trivial
      rw [hd, Device.sustainTimerClb, if_pos hsustain]
      exact ⟨hs.numerator, hs.denominator, hs.frameJiffies⟩
  | timedOut hcall hpending hd =>
      subst hcall
      refine iff_of_true ?_ trivial
      rw [hd, Device.timeoutTimerClb]
      split <;> exact ⟨hs.numerator, hs.denominator, hs.frameJiffies⟩
  -- the attribute gives frames for each second, so numerator and denominator change
  -- places
  | interval text len num den hcall hnum hden hset =>
      subst hcall
      have hnumerator : 1 ≤ den.toNat := by omega
      exact iff_of_true ((setTimeperframe_valid_iff hset).mpr hnumerator) trivial
  | limit curr len n hcall hd =>
      subst hcall
      refine iff_of_true ?_ trivial
      rw [hd]
      exact ⟨hs.numerator, hs.denominator, hs.frameJiffies⟩

/-- Only S_PARM divides by zero. -/
theorem PositiveInterval.divisor (h : PositiveInterval s call) :
    driverStep cfg s call ≠ .error (.fault .divideByZero) := by
  intro hfault
  obtain ⟨file, req, o, rfl, hfile, hreq⟩ := driverStep_fault hfault
  rcases request_stateFault hreq with hstate | ⟨-, type, tpf, rfl, htype, hzero⟩
  · exact hstate.divisor rfl
  · have hpositive := (h (by simp [hfile]) htype).2
    omega

/-- S_PARM either stores what it gets or divides by zero. -/
theorem IntervalSafe.positive (hs : IntervalValid cfg s.dev) (h : IntervalSafe cfg s call) :
    PositiveInterval s call := by
  cases hstep : driverStep cfg s call with
  | ok r =>
      obtain ⟨reply, t⟩ := r
      exact (hs.step_iff (by simp only [ofNext, next, hstep])).mp (h.valid reply t hstep)
  | error stop =>
      cases call with
      | request file req =>
          intro hset
          cases req with
          | sParm type tpf =>
              intro htype
              obtain ⟨o, hfile⟩ := Option.ne_none_iff_exists'.mp hset
              -- a denominator of 0 is divided by; with any other the call comes back
              by_cases hzero : tpf.denominator = 0
              · have hfault : driverStep cfg s (.request file (.sParm type tpf)) =
                    .error (.fault .divideByZero) := by
                  rcases htype with rfl | rfl <;>
                    simp [driverStep, hfile, request, vidiocSParm, Device.setTimeperframe, hzero,
                      bind, Except.bind, Except.map]
                exact absurd hfault h.divisor
              · have hok : ∃ r, driverStep cfg s (.request file (.sParm type tpf)) = .ok r := by
                  rcases htype with rfl | rfl <;>
                    simp [driverStep, hfile, request, vidiocSParm, Device.setTimeperframe, hzero,
                      bind, Except.bind, Except.map]
                obtain ⟨r, hok⟩ := hok
                rw [hstep] at hok
                cases hok
          | _ => trivial
      | _ => trivial

/-- **When the frame interval stays valid.**  Along any sequence of calls no division
    is by zero and the stored interval is valid, exactly when every S_PARM is given a
    positive fraction; what the format attribute is given does not matter. -/
theorem frame_interval_iff (cfg : Config) (calls : List Call) :
    Along (Step cfg) (IntervalSafe cfg) (Driver.init cfg) calls ↔
      Along (Step cfg) PositiveInterval (Driver.init cfg) calls := by
  refine @along_iff _ _ _ (fun s => IntervalValid cfg s.dev) _ _ _ _ ?_ ?_ (IntervalValid.init cfg)
  · intro s call t hs hpositive hstep
    exact (hs.step_iff hstep).mpr hpositive
  · intro s call hs
    constructor
    · exact fun hsafe => hsafe.positive hs
    · intro hpositive
      refine ⟨hpositive.divisor, fun reply t hstep => ?_⟩
      exact (hs.step_iff (by simp only [ofNext, next, hstep])).mpr hpositive

/-- A client asks for zero frames in a second. -/
theorem frame_interval_divided :
    ¬ ∀ (cfg : Config) (calls : List Call),
      Along (Step cfg) (IntervalSafe cfg) (Driver.init cfg) calls := by
  intro h
  have hopened : (execute (next ⟨640, 480, 100⟩) (Driver.init ⟨640, 480, 100⟩)
      [.openDevice 1 granting true]).map (fun s => (s.openers.lookup 1).isSome) = some true := by
    decide +kernel
  obtain ⟨s, hs, hopen⟩ := Option.map_eq_some_iff.mp hopened
  obtain ⟨o, hfile⟩ := Option.isSome_iff_exists.mp hopen
  have hsafe := h ⟨640, 480, 100⟩ [.openDevice 1 granting true,
    .request 1 (.sParm .videoCapture ⟨1, 0⟩)] [.openDevice 1 granting true] _ s
    (List.prefix_refl _) (Run.of_execute hs)
  apply hsafe.divisor
  simp only [driverStep, hfile]
  rfl

end DroidCam.Loopback
