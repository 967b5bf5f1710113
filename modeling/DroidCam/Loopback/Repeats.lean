import DroidCam.Loopback.Interrupted

/-
  DroidCam/Loopback/Repeats.lean
  ==============================
  The frames that are given again: the sustain timer counts a repeat for everybody,
  and every reader counts the ones it took.

  `Repeats` records the ticks since the last frame and what each handle was given
  again since; `Follows` ties the cursor of a reader to both.  Timeouts are off, no
  wait is interrupted, and no counter wraps around.
-/

namespace DroidCam.Loopback

open CArith LabelledRun

/-! ### The record of a run

The record counts the ticks since the last frame, and what each reader was given of
them. -/

/-- The ticks since the last frame, and the repeats given to each handle since then. -/
structure Repeats where
  ticks : Nat
  given : Nat → Nat

def Repeats.empty : Repeats := ⟨0, fun _ => 0⟩

/-- The capture takes the branch of a reader that has caught up. -/
def Request.repeatsFrame (d : Device) (o : Opener) (req : Request) : Bool :=
  match req.capture o with
  | none => false
  | some w =>
    match captureIndex w d o with
    | .ok (.index _ _ _ _) => decide (d.writePosition = o.readPosition)
    | _ => false

def Repeats.record (r : Repeats) (s t : Driver) : Call → Repeats
  | .openDevice file _ _ => { r with given := Function.update r.given file 0 }
  | .sustainTimer => if s.dev.sustainFramerate then { r with ticks := r.ticks + 1 } else r
  | .request file req =>
    if t.dev.framesWritten ≠ s.dev.framesWritten then .empty
    else
      match s.openers.lookup file with
      | none => r
      | some o =>
        if req.repeatsFrame s.dev o then
          { r with given := Function.update r.given file (r.given file + 1) }
        else r
  | _ => r

/-- A step of the driver, and its record. -/
def repeatsNext (cfg : Config) (x : Driver × Repeats) (call : Call) : Option (Driver × Repeats) :=
  (next cfg x.1 call).map fun t => (t, x.2.record x.1 t call)

abbrev RepeatsStep (cfg : Config) : Driver × Repeats → Call → Driver × Repeats → Prop :=
  ofNext (repeatsNext cfg)

def Request.setsTimeout : Request → Bool
  | .sCtrl .timeout value _ => decide (0 < value)
  | _ => false

/-- No timeout is set, no wait is interrupted for nothing, and neither the ticks nor
    the frames are as many as their counter can count. -/
def Steady (x : Driver × Repeats) : Call → Prop
  | .sustainTimer => x.1.dev.rereadCount < 4294967295
  | .request file req => Uninterrupted x.1 (.request file req) ∧ req.setsTimeout = false ∧
    ∀ o ∈ x.1.openers.lookup file, req.completes o = true → x.1.dev.writePosition < 2147483647
  | _ => True

instance (s : Driver) (file : Nat) (req : Request) :
    Decidable (Uninterrupted s (.request file req)) :=
  inferInstanceAs (Decidable (∀ o ∈ s.openers.lookup file, ∀ w ∈ req.capture o,
    w.nonblock = false → w.signal = true → readable s.dev o = true))

instance (x : Driver × Repeats) : ∀ call, Decidable (Steady x call)
  | .sustainTimer => inferInstanceAs (Decidable (x.1.dev.rereadCount < 4294967295))
  | .request file req =>
    inferInstanceAs (Decidable (Uninterrupted x.1 (.request file req) ∧ req.setsTimeout = false ∧
      ∀ o ∈ x.1.openers.lookup file, req.completes o = true → x.1.dev.writePosition < 2147483647))
  | .openDevice _ _ _ | .closeDevice _ | .timeoutTimer | .storeFormat _ _
  | .storeMaxopeners _ _ => isTrue trivial

theorem RepeatsStep.move {cfg : Config} {x y : Driver × Repeats} {call : Call}
    (h : RepeatsStep cfg x call y) :
    Step cfg x.1 call y.1 ∧ y.2 = x.2.record x.1 y.1 call := by
  obtain ⟨t, ht, rfl⟩ := Option.map_eq_some_iff.mp h
  exact ⟨ht, rfl⟩

/-! ### Timeouts stay off

With a timeout pending a reader would be given its image and not a repeat. -/

variable {cfg : Config} {d d' : Device} {o o' : Opener} {req : Request} {reply : Reply}

theorem StandingMove.timeoutsOff (h : StandingMove cfg d d' o req)
    (hset : req.setsTimeout = false) (hoff : d.TimeoutsOff) : d'.TimeoutsOff := by
  cases h with
  | same hstanding => exact hstanding.timeoutsOff hoff
  | interval type tpf hreq htype hinterval =>
      obtain ⟨-, rfl⟩ := Device.setTimeperframe_eq_ok hinterval
      exact ⟨hoff.timeoutJiffies, hoff.timeoutTimer, hoff.timeoutHappened⟩
  | timeout value mem hreq hrange hd =>
      subst hreq
      have hvalue : ¬0 < value := of_decide_eq_false hset
      have hzero : cfg.msecsToJiffies value.toNat = 0 := by
        rw [show value.toNat = 0 by omega, Config.msecsToJiffies]
        omega
      rw [hd]
      exact (d.setTimeout_standing cfg mem value).timeoutsOff
        ⟨hzero, hoff.timeoutTimer, hoff.timeoutHappened⟩
  | written e buf hcompletes hsame hwritten =>
      have he := hsame.timeoutsOff hoff
      exact (Device.bufferWritten_standing hwritten).timeoutsOff
        ⟨he.timeoutJiffies, he.timeoutTimer, he.timeoutHappened⟩

theorem Steady.timeoutsOff {x : Driver × Repeats} {t : Driver} {call : Call}
    (hoff : x.1.dev.TimeoutsOff) (hsteady : Steady x call) (h : Step cfg x.1 call t) :
    t.dev.TimeoutsOff := by
  cases h.standing with
  | same hcall hstanding => exact hstanding.timeoutsOff hoff
  | request file req o o' reply hcall hfile hreq =>
      subst hcall
      exact (request_standing hreq).timeoutsOff hsteady.2.1 hoff
  | ticked hcall hsustain hd =>
      rw [hd, Device.sustainTimerClb, if_pos hsustain]
      exact ⟨hoff.timeoutJiffies, hoff.timeoutTimer, hoff.timeoutHappened⟩
  | timedOut hcall hpending hd =>
      rw [hoff.timeoutTimer] at hpending
      cases hpending
  | interval text len num den hcall hnum hden hset =>
      obtain ⟨-, hd⟩ := Device.setTimeperframe_eq_ok hset
      rw [hd]
      exact ⟨hoff.timeoutJiffies, hoff.timeoutTimer, hoff.timeoutHappened⟩
  | limit curr len n hcall hd =>
      rw [hd]
      exact ⟨hoff.timeoutJiffies, hoff.timeoutTimer, hoff.timeoutHappened⟩

/-! ### What a request gives its handle

A capture either brings the reader a frame further or gives it the last one again, never
both. -/

/-- A request gives the handle nothing, the next frame, or the last one again. -/
inductive GiveMove (d : Device) (o : Opener) (req : Request) (o' : Opener) : Prop
  | nothing (hrepeat : req.repeatsFrame d o = false)
      (hposition : o'.readPosition = o.readPosition) (hcount : o'.rereadCount = o.rereadCount)
  | frame (w : Waiting) (hw : req.capture o = some w) (hrepeat : req.repeatsFrame d o = false)
      (hbehind : d.writePosition ≠ o.readPosition) (ho : o' = (nextPosition d o).2)
  | again (w : Waiting) (hw : req.capture o = some w) (hrepeat : req.repeatsFrame d o = true)
      (hcaught : d.writePosition = o.readPosition)
      (hgo : readable d o = true ∨ w.nonblock = false ∧ w.signal = true)
      (ho : o' = (nextPosition d o).2)

theorem request_gives (h : request cfg d o req = .ok (reply, d', o')) : GiveMove d o req o' := by
  cases hw : req.capture o with
  | none =>
      have hrepeat : req.repeatsFrame d o = false := by simp [Request.repeatsFrame, hw]
      cases request_cursor h with
      | same hposition hcount => exact .nothing hrepeat hposition hcount
      | captured w hw' => exact absurd (hw.symm.trans hw') (by simp)
  | some w =>
      obtain ⟨ret, e, hcapture⟩ := request_captured hw h
      obtain ⟨c, hc, hcapture⟩ := bind_eq_ok.mp hcapture
      cases captureIndex_move hc with
      | again =>
          cases hcapture
          exact .nothing (by simp [Request.repeatsFrame, hw, hc]) rfl rfl
      | asleep =>
          cases hcapture
          exact .nothing (by simp [Request.repeatsFrame, hw, hc]) rfl rfl
      | index pos hgo hpos =>
          have ho : o' = (nextPosition d o).2 := by
            simp only at hcapture
            split at hcapture
            · obtain ⟨f, -, hcapture⟩ := bind_eq_ok.mp hcapture
              cases hcapture
              rfl
            · cases hcapture
              rfl
          by_cases hcaught : d.writePosition = o.readPosition
          · exact .again w hw (by simp [Request.repeatsFrame, hw, hc, hcaught]) hcaught hgo ho
          · exact .frame w hw (by simp [Request.repeatsFrame, hw, hc, hcaught]) hcaught ho

/-- The repeat count of a reader that has not taken the last tick: it takes the next
    one, or the last one if it is more than two late. -/
theorem nextPosition_caughtUp (hcaught : d.writePosition = o.readPosition)
    (hnonneg : 0 ≤ o.rereadCount) (hlate : o.rereadCount < d.rereadCount)
    (hfits : d.rereadCount < 4294967296) :
    (nextPosition d o).2 = { o with rereadCount :=
      if o.rereadCount + 2 < d.rereadCount then d.rereadCount else o.rereadCount + 1 } := by
  have hcount : toUInt32 ((if d.rereadCount > toUInt32 (o.rereadCount + 2)
      then toUInt32 (d.rereadCount - 1) else o.rereadCount) + 1) =
        if o.rereadCount + 2 < d.rereadCount then d.rereadCount else o.rereadCount + 1 := by
    rw [toUInt32_of_fits (x := d.rereadCount - 1) (by omega) (by omega)]
    by_cases hsmall : o.rereadCount + 2 < 4294967296
    · rw [toUInt32_of_fits (x := o.rereadCount + 2) (by omega) hsmall]
      split
      · rw [toUInt32_of_fits (by omega) (by omega)]
        omega
      · rw [toUInt32_of_fits (by omega) (by omega)]
    · have hlast : toUInt32 (o.rereadCount + 2) = 0 := by
        rw [show o.rereadCount + 2 = 4294967296 by omega]
        rfl
      rw [hlast, if_pos (by omega), if_neg (by omega), toUInt32_of_fits (by omega) (by omega)]
      omega
  rw [nextPosition, if_pos hcaught]
  simp only [hcount]

/-! ### The invariant

A repeat is only given for a tick the reader has not seen, so there are never more of
them than ticks. -/

/-- A reader is not ahead of the writer; one that has caught up is not ahead of the
    ticks, and was given at most what it counted. -/
structure Follows (d : Device) (o : Opener) (given : Nat) : Prop where
  nonneg : 0 ≤ o.readPosition ∧ 0 ≤ o.rereadCount
  position : o.readPosition ≤ d.writePosition
  caughtUp : o.readPosition = d.writePosition →
    o.rereadCount ≤ d.rereadCount ∧ (given : Int) ≤ o.rereadCount
  behind : o.readPosition < d.writePosition → given = 0

structure Repeating (x : Driver × Repeats) : Prop where
  accounted : Accounted x.1
  ring : RingInv x.1.dev
  off : x.1.dev.TimeoutsOff
  nonneg : 0 ≤ x.1.dev.writePosition
  ticks : x.1.dev.rereadCount = x.2.ticks
  fits : x.2.ticks < 4294967296
  readers : ∀ file o, x.1.openers.lookup file = some o → Follows x.1.dev o (x.2.given file)

theorem Repeating.init (cfg : Config) : Repeating (Driver.init cfg, .empty) where
  accounted := Accounted.init cfg
  ring := RingInv.init cfg
  off := ⟨rfl, rfl, rfl⟩
  nonneg := Int.le_refl 0
  ticks := rfl
  fits := show 0 < 4294967296 by decide
  readers := fun file o hfile => by cases hfile

/-- A reader that is left alone while the counters stay, or the ticks go on. -/
theorem Follows.same {given : Nat} (h : Follows d o given)
    (hposition : d'.writePosition = d.writePosition) (hcount : d.rereadCount ≤ d'.rereadCount)
    (hcursor : o'.readPosition = o.readPosition) (hown : o'.rereadCount = o.rereadCount) :
    Follows d' o' given := by
  refine ⟨?_, ?_, fun hcaught => ?_, fun hbehind => ?_⟩
  · rw [hcursor, hown]
    exact h.nonneg
  · rw [hcursor, hposition]
    exact h.position
  · rw [hcursor, hposition] at hcaught
    have := h.caughtUp hcaught
    omega
  · rw [hcursor, hposition] at hbehind
    exact h.behind hbehind

/-- A reader whose cursor stays while a frame is written. -/
theorem Follows.written {given : Nat} (h : Follows d o given)
    (hposition : d'.writePosition = d.writePosition + 1)
    (hcursor : o'.readPosition = o.readPosition) (hown : o'.rereadCount = o.rereadCount) :
    Follows d' o' 0 := by
  have hle := h.position
  refine ⟨?_, ?_, fun hcaught => ?_, fun hbehind => rfl⟩
  · rw [hcursor, hown]
    exact h.nonneg
  · omega
  · omega

/-- A reader that was behind and is given a frame. -/
theorem Follows.frame {given : Nat} (h : Follows d o given) (hmax : d.writePosition < 2147483648)
    (hcount : 0 ≤ d.rereadCount) (hbehind : d.writePosition ≠ o.readPosition)
    (hposition : d'.writePosition = d.writePosition) (hsame : d'.rereadCount = d.rereadCount) :
    Follows d' (nextPosition d o).2 given := by
  have hle := h.position
  have hnonneg := h.nonneg.1
  have hnone : given = 0 := h.behind (by omega)
  obtain ⟨p, hp, hnext⟩ := nextPosition_behind hnonneg (by omega) hmax
  have hbounds : 0 ≤ p ∧ p + 1 ≤ d.writePosition := by
    rw [hp]
    split <;> omega
  rw [hnext]
  refine ⟨⟨?_, Int.le_refl 0⟩, ?_, fun _ => ⟨?_, ?_⟩, fun _ => hnone⟩
  · simp only
    omega
  · simp only
    omega
  · simp only
    omega
  · rw [hnone]
    exact Int.le_refl 0

/-- A reader that had caught up and is given the last frame again. -/
theorem Follows.again {given : Nat} (h : Follows d o given)
    (hcaught : d.writePosition = o.readPosition) (hlate : o.rereadCount < d.rereadCount)
    (hfits : d.rereadCount < 4294967296) (hposition : d'.writePosition = d.writePosition)
    (hsame : d'.rereadCount = d.rereadCount) :
    Follows d' (nextPosition d o).2 (given + 1) := by
  have hnonneg := h.nonneg
  have hgiven := (h.caughtUp hcaught.symm).2
  rw [nextPosition_caughtUp hcaught hnonneg.2 hlate hfits]
  refine ⟨⟨hnonneg.1, ?_⟩, ?_, fun _ => ⟨?_, ?_⟩, fun hbehind => ?_⟩
  · simp only
    split <;> omega
  · rw [hposition]
    exact h.position
  · simp only
    split <;> omega
  · simp only
    split <;> omega
  · simp only at hbehind
    omega

/-- A reader that has caught up can read only when it is late. -/
theorem late_of_readable (hoff : d.TimeoutsOff) (hcaught : d.writePosition = o.readPosition)
    (h : readable d o = true) : o.rereadCount < d.rereadCount := by
  simp only [readable, hoff.timeoutHappened, decide_eq_true_eq] at h
  rcases h with hnew | hlate | hhappened
  · omega
  · exact hlate
  · cases hhappened

/-! ### Steps

A frame starts all counts anew, so only ticks and repeats between two frames have to be
followed. -/

/-- Opens, closes and attributes: no frame, no tick, and no capture. -/
theorem Repeating.idle {x : Driver × Repeats} {t : Driver} {r : Repeats} {call : Call}
    (hx : Repeating x) (hsteady : Steady x call) (hs : Step cfg x.1 call t)
    (hcall : call ≠ .sustainTimer ∧ ∀ file req, call ≠ .request file req)
    (hticks : r.ticks = x.2.ticks)
    (hgiven : ∀ file o, x.1.openers.lookup file = some o → r.given file = x.2.given file)
    (hopened : ∀ file mem kzalloc, call = .openDevice file mem kzalloc → r.given file = 0) :
    Repeating (t, r) := by
  have hticked := hx.ticks
  have hnonneg := hx.nonneg
  have haccounted := hx.accounted.step hs
  have hring := hx.ring.step hs
  have hoff := hsteady.timeoutsOff hx.off hs
  cases hs.counts hx.accounted hx.ring with
  | same hposition hcount hframes =>
      refine ⟨haccounted, hring, hoff, hposition ▸ hnonneg, ?_, hticks ▸ hx.fits, ?_⟩
      · simp only [hcount, hticks]
        exact hticked
      · intro file o' hfile
        cases hs.handle hfile with
        | kept o hopen hcursor hown =>
            simp only [hgiven file o hopen]
            exact (hx.readers file o hopen).same hposition (Int.le_of_eq hcount.symm) hcursor hown
        | opened mem kzalloc hopen hcursor hown =>
            simp only [hopened file mem kzalloc hopen]
            exact ⟨by omega, by omega, fun _ => by omega, fun _ => rfl⟩
        | captured req o w hreq => exact absurd hreq (hcall.2 file req)
  | freed hposition hnone hcount hframes =>
      refine ⟨haccounted, hring, hoff, Int.le_of_eq hposition.symm, ?_, hticks ▸ hx.fits, ?_⟩
      · simp only [hcount, hticks]
        exact hticked
      · intro file o' hfile
        exact absurd (hfile.symm.trans (hnone file)) (by simp)
  | ticked htick => exact absurd htick hcall.1
  | written file req o hreq => exact absurd hreq (hcall.2 file req)

/-- A tick of the sustain timer. -/
theorem Repeating.tick {x : Driver × Repeats} {t : Driver} (hx : Repeating x)
    (hsteady : Steady x .sustainTimer) (hs : Step cfg x.1 .sustainTimer t) :
    Repeating (t, x.2.record x.1 t .sustainTimer) := by
  have hticked := hx.ticks
  have hlt : x.1.dev.rereadCount < 4294967295 := hsteady
  have haccounted := hx.accounted.step hs
  have hring := hx.ring.step hs
  have hoff := hsteady.timeoutsOff hx.off hs
  cases hs.move with
  | sustainTimer hpending =>
      have hposition : x.1.dev.sustainTimerClb.writePosition = x.1.dev.writePosition :=
        x.1.dev.sustainTimerClb_same.writePosition
      -- without `sustain_framerate` the timer does nothing
      by_cases hsustain : x.1.dev.sustainFramerate = true
      · have hcount : x.1.dev.sustainTimerClb.rereadCount = x.1.dev.rereadCount + 1 := by
          simp only [Device.sustainTimerClb, hsustain, if_true]
          exact toUInt32_of_fits (by omega) (by omega)
        simp only [Repeats.record, hsustain, if_true]
        refine ⟨haccounted, hring, hoff, hposition ▸ hx.nonneg, ?_, ?_, ?_⟩
        · simp only [hcount]
          omega
        · simp only
          omega
        · intro file o hfile
          exact (hx.readers file o hfile).same hposition (by simp only; omega) rfl rfl
      · have hcount : x.1.dev.sustainTimerClb.rereadCount = x.1.dev.rereadCount := by
          simp only [Device.sustainTimerClb, hsustain]
          rfl
        have hrecord : x.2.record x.1 { x.1 with dev := x.1.dev.sustainTimerClb } .sustainTimer =
            x.2 := if_neg hsustain
        rw [hrecord]
        refine ⟨haccounted, hring, hoff, hposition ▸ hx.nonneg, hcount.trans hticked, hx.fits, ?_⟩
        intro file o hfile
        exact (hx.readers file o hfile).same hposition (Int.le_of_eq hcount.symm) rfl rfl

/-- A reader after a request that completes no frame. -/
theorem Follows.request {x : Driver × Repeats} {t : Driver} {file : Nat} (hx : Repeating x)
    (hsteady : Uninterrupted x.1 (.request file req)) (hfile : x.1.openers.lookup file = some o)
    (hreq : request cfg x.1.dev o req = .ok (reply, d, o'))
    (hposition : t.dev.writePosition = x.1.dev.writePosition)
    (hcount : t.dev.rereadCount = x.1.dev.rereadCount)
    (hframes : t.dev.framesWritten = x.1.dev.framesWritten) :
    Follows t.dev o' ((x.2.record x.1 t (.request file req)).given file) := by
  have hreader := hx.readers file o hfile
  have hticked := hx.ticks
  have hfits := hx.fits
  have hmore : ¬t.dev.framesWritten ≠ x.1.dev.framesWritten := fun hne => hne hframes
  simp only [Repeats.record, if_neg hmore, hfile]
  cases request_gives hreq with
  | nothing hrepeat hcursor hown =>
      rw [hrepeat, if_neg (by simp)]
      exact hreader.same hposition (Int.le_of_eq hcount.symm) hcursor hown
  | frame w hw hrepeat hbehind ho =>
      rw [hrepeat, if_neg (by simp), ho]
      exact hreader.frame hx.ring.range.2 (by omega) hbehind hposition hcount
  -- a repeat needs a tick the reader has not counted
  | again w hw hrepeat hcaught hgo ho =>
      have hready : readable x.1.dev o = true := by
        rcases hgo with hr | ⟨hblock, hsignal⟩
        · exact hr
        · exact hsteady o hfile w hw hblock hsignal
      have hlate := late_of_readable hx.off hcaught hready
      rw [if_pos hrepeat, ho]
      simp only [Function.update_self]
      exact hreader.again hcaught hlate (by omega) hposition hcount

/-- A request on an open handle. -/
theorem Repeating.request {x : Driver × Repeats} {t : Driver} {file : Nat}
    (hx : Repeating x) (hsteady : Steady x (.request file req))
    (hs : Step cfg x.1 (.request file req) t) :
    Repeating (t, x.2.record x.1 t (.request file req)) := by
  have hticked := hx.ticks
  have hnonneg := hx.nonneg
  have haccounted := hx.accounted.step hs
  have hring := hx.ring.step hs
  have hoff := hsteady.timeoutsOff hx.off hs
  cases hs.counts hx.accounted hx.ring with
  | same hposition hcount hframes =>
      have hmore : ¬t.dev.framesWritten ≠ x.1.dev.framesWritten := fun hne => hne hframes
      cases hs.move with
      | @request _ _ o reply d o' hfile hreq =>
          have hticks : (x.2.record x.1 (x.1.afterRequest file d o') (.request file req)).ticks =
              x.2.ticks := by
            simp only [Repeats.record, if_neg hmore, hfile]
            split <;> rfl
          refine ⟨haccounted, hring, hoff, hposition ▸ hnonneg, ?_, hticks ▸ hx.fits, ?_⟩
          · rw [hticks]
            exact hcount.trans hticked
          · intro f of hf
            by_cases hff : f = file
            · subst hff
              obtain rfl : o' = of := by simpa [Driver.afterRequest] using hf
              exact Follows.request hx hsteady.1 hfile hreq hposition hcount hframes
            · have hopen : x.1.openers.lookup f = some of := by
                rwa [Driver.afterRequest, AList.lookup_insert_ne hff] at hf
              have hgiven : (x.2.record x.1 (x.1.afterRequest file d o')
                  (.request file req)).given f = x.2.given f := by
                simp only [Repeats.record, if_neg hmore, hfile]
                split
                · exact Function.update_of_ne hff _ _
                · rfl
              rw [hgiven]
              exact (hx.readers f of hopen).same hposition (Int.le_of_eq hcount.symm) rfl rfl
  | freed hposition hnone =>
      cases hs.move with
      | request hfile hreq =>
          have hopen := hnone file
          simp [Driver.afterRequest] at hopen
  | ticked htick => cases htick
  | written f req' o hreq hfile hcompletes hposition hcount hframes =>
      cases hreq
      have hlt : x.1.dev.writePosition < 2147483647 := hsteady.2.2 o hfile hcompletes
      have hsucc : t.dev.writePosition = x.1.dev.writePosition + 1 :=
        hposition.trans (toInt32_of_fits (by omega) (by omega))
      have hmore : t.dev.framesWritten ≠ x.1.dev.framesWritten := by omega
      have hrecord : x.2.record x.1 t (.request file req) = .empty := if_pos hmore
      rw [hrecord]
      refine ⟨haccounted, hring, hoff, ?_, hcount, show 0 < 4294967296 by decide, ?_⟩
      · simp only
        omega
      · intro g og hg
        have hempty : Repeats.empty.given g = 0 := rfl
        rw [hempty]
        cases hs.handle hg with
        | kept o' hopen hcursor hown => exact (hx.readers g o' hopen).written hsucc hcursor hown
        | opened mem kzalloc hcall => cases hcall
        | captured req' o' w hcall hopen hw =>
            cases hcall
            obtain rfl : o' = o := Option.some.inj (hopen.symm.trans hfile)
            exact absurd (hw.symm.trans (Request.capture_of_completes hcompletes)) (by simp)

theorem Repeating.step {x y : Driver × Repeats} {call : Call} (hx : Repeating x)
    (h : Guarded Steady (RepeatsStep cfg) x call y) : Repeating y := by
  obtain ⟨t, r⟩ := y
  obtain ⟨hsteady, hstep⟩ := h
  obtain ⟨hs, hr⟩ := hstep.move
  obtain rfl : r = x.2.record x.1 t call := hr
  cases call with
  | openDevice file mem kzalloc =>
      refine hx.idle hsteady hs (by simp) rfl (fun f o hfile => ?_) fun f _ _ hcall => ?_
      · have hne : f ≠ file := by
          rintro rfl
          cases hs.move with
          | openFailed hfree => exact absurd (hfile.symm.trans hfree) (by simp)
          | opened hfree => exact absurd (hfile.symm.trans hfree) (by simp)
        exact Function.update_of_ne hne _ _
      · cases hcall
        exact Function.update_self ..
  | sustainTimer => exact hx.tick hsteady hs
  | request file req => exact hx.request hsteady hs
  | _ => exact hx.idle hsteady hs (by simp) rfl (fun _ _ _ => rfl) (by simp)

theorem Repeating.run {x : Driver × Repeats} {calls : List Call}
    (h : Run (Guarded Steady (RepeatsStep cfg)) (Driver.init cfg, .empty) calls x) :
    Repeating x :=
  Run.invariant (fun _ _ _ hx hstep => hx.step hstep) (Repeating.init cfg) h

/-! ### Repeats and ticks

The newest count is taken over when more than two ticks were missed, which is why a slow
reader does not get them all. -/

/-- What a reader gets between two frames: repeats for ticks, each at most once, and
    the newest after two were missed. -/
structure Paced (cfg : Config) (x : Driver × Repeats) (file : Nat) (o : Opener) : Prop where
  counted : o.readPosition = x.1.dev.writePosition → o.rereadCount ≤ x.1.dev.rereadCount
  given : x.2.given file ≤ x.2.ticks
  unconsumed : ∀ req, Uninterrupted x.1 (.request file req) →
    req.repeatsFrame x.1.dev o = true →
      o.rereadCount < x.1.dev.rereadCount ∧ x.2.given file < x.2.ticks
  newest : ∀ req w reply t, req.capture o = some w → o.readPosition = x.1.dev.writePosition →
    o.rereadCount + 2 < x.1.dev.rereadCount →
      driverStep cfg x.1 (.request file req) = .ok (reply, t) →
        t.dev.rereadCount = x.1.dev.rereadCount ∧
          ∃ o', t.openers.lookup file = some o' ∧ o'.rereadCount = t.dev.rereadCount

/-- A capture that repeats a frame goes on for a reader that has caught up. -/
theorem Request.repeatsFrame_go (h : req.repeatsFrame d o = true) :
    d.writePosition = o.readPosition ∧ ∃ w, req.capture o = some w ∧
      (readable d o = true ∨ w.nonblock = false ∧ w.signal = true) := by
  unfold Request.repeatsFrame at h
  split at h
  · cases h
  · rename_i w hw
    split at h
    · rename_i hindex
      cases captureIndex_move hindex with
      | index pos hgo => exact ⟨of_decide_eq_true h, w, hw, hgo⟩
    · cases h

theorem Repeating.newest {x : Driver × Repeats} {file : Nat} {w : Waiting} {t : Driver}
    (hx : Repeating x) (hfile : x.1.openers.lookup file = some o) (hw : req.capture o = some w)
    (hcaught : o.readPosition = x.1.dev.writePosition)
    (hlate : o.rereadCount + 2 < x.1.dev.rereadCount)
    (hstep : driverStep cfg x.1 (.request file req) = .ok (reply, t)) :
    t.dev.rereadCount = x.1.dev.rereadCount ∧
      ∃ o', t.openers.lookup file = some o' ∧ o'.rereadCount = t.dev.rereadCount := by
  have hnonneg := (hx.readers file o hfile).nonneg.2
  have hticks := hx.ticks
  have hfits := hx.fits
  have hready : readable x.1.dev o = true := by
    simp only [readable, decide_eq_true_eq]
    omega
  obtain ⟨o₁, d, o', hfile', hreq, rfl⟩ := driverStep_request hstep
  obtain rfl : o₁ = o := Option.some.inj (hfile'.symm.trans hfile)
  have hcount : d.rereadCount = x.1.dev.rereadCount := by
    rcases (request_standing hreq).counts with ⟨-, hsame⟩ | ⟨hcompletes, -⟩
    · exact hsame
    · exact absurd (hw.symm.trans (Request.capture_of_completes hcompletes)) (by simp)
  refine ⟨hcount, o', AList.lookup_insert _, ?_⟩
  rw [Driver.afterRequest]
  simp only [hcount]
  obtain ⟨ret, e, hcapture⟩ := request_captured hw hreq
  cases getCaptureBuffer_move hcapture with
  | again _ hempty => exact absurd (hready.symm.trans hempty) (by simp)
  | asleep _ hempty => exact absurd (hready.symm.trans hempty) (by simp)
  | index pos image hgo =>
      rw [nextPosition_caughtUp hcaught.symm hnonneg (by omega) (by omega)]
      exact if_pos hlate

/-- **A reader is given repeats for ticks.**  With timeouts off, no wait interrupted and
    no counter wrapping around: a reader that has caught up has counted no more
    repeats than the device, it was given no more of them than there were ticks,
    none without a tick left over, and a late one is brought to the newest at once. -/
theorem repeats_paced {x : Driver × Repeats} {calls : List Call}
    (h : Run (Guarded Steady (RepeatsStep cfg)) (Driver.init cfg, .empty) calls x) :
    ∀ file o, x.1.openers.lookup file = some o → Paced cfg x file o := by
  intro file o hfile
  have hx := Repeating.run h
  have hreader := hx.readers file o hfile
  have hle := hreader.position
  have hticks := hx.ticks
  refine ⟨fun hcaught => (hreader.caughtUp hcaught).1, ?_, fun req hquiet hrepeat => ?_,
    fun req w reply t hw hcaught hlate hstep => hx.newest hfile hw hcaught hlate hstep⟩
  · rcases Int.lt_or_eq_of_le hle with hbehind | hcaught
    · rw [hreader.behind hbehind]
      exact Nat.zero_le _
    · have := hreader.caughtUp hcaught
      omega
  · obtain ⟨hcaught, w, hw, hgo⟩ := Request.repeatsFrame_go hrepeat
    have hready : readable x.1.dev o = true := by
      rcases hgo with hr | ⟨hblock, hsignal⟩
      · exact hr
      · exact hquiet o hfile w hw hblock hsignal
    have hlate := late_of_readable hx.off hcaught hready
    have := hreader.caughtUp hcaught.symm
    omega

/-- A frame is read; four ticks later one read takes all of them. -/
theorem repeats_paced_late :
    ∃ x, Run (Guarded Steady (RepeatsStep ⟨640, 480, 100⟩)) (Driver.init ⟨640, 480, 100⟩, .empty)
        [.openDevice 1 granting true, .request 1 (.sCtrl .sustainFramerate 1 granting),
          .request 1 (.write [7] granting none), .request 1 (.read 1 ⟨false, false⟩ false),
          .sustainTimer, .sustainTimer, .sustainTimer, .sustainTimer,
          .request 1 (.read 1 ⟨false, false⟩ false)] x ∧
      (x.2.ticks, x.2.given 1, x.1.dev.rereadCount) = (4, 1, 4) ∧
      ∀ file o, x.1.openers.lookup file = some o → Paced ⟨640, 480, 100⟩ x file o := by
  obtain ⟨x, hx, hvalues⟩ := Option.map_eq_some_iff.mp (by decide +kernel :
    (execute (guard Steady (repeatsNext ⟨640, 480, 100⟩)) (Driver.init ⟨640, 480, 100⟩, .empty)
      [.openDevice 1 granting true, .request 1 (.sCtrl .sustainFramerate 1 granting),
        .request 1 (.write [7] granting none), .request 1 (.read 1 ⟨false, false⟩ false),
        .sustainTimer, .sustainTimer, .sustainTimer, .sustainTimer,
        .request 1 (.read 1 ⟨false, false⟩ false)]).map
      (fun x => (x.2.ticks, x.2.given 1, x.1.dev.rereadCount)) = some (4, 1, 4))
  have hrun := Run.of_execute_guard hx
  exact ⟨x, hrun, hvalues, repeats_paced hrun⟩

end DroidCam.Loopback
