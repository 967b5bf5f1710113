import DroidCam.Loopback.Cursors

/-
  DroidCam/Loopback/Positions.lean
  ================================
  `write_position` and `read_position` are `int`s that count frames, and the ring
  index is their signed remainder.

  Up to `2^31 - 1` frames everything is as it looks.  The next frame makes
  `write_position` negative: a reader then looks ahead of the writer, and the
  remainder of a negative position need not be an index.
-/

namespace DroidCam.Loopback

open CArith LabelledRun

/-! ### What depends on the positions

Every index of the ring is a remainder of an `int`.  A remainder of C has the sign of
its dividend, so a negative position is a negative index. -/

/-- The `int` whose remainder a request takes for an index of the ring. -/
def Request.counter (d : Device) (o : Opener) (req : Request) : Option Int :=
  match req with
  | .write _ _ _ => some d.writePosition
  | .qbuf .videoOutput index =>
    if o.timeoutImageIo = false ∧ index ≤ MAX_BUFFERS then some d.writePosition else none
  | _ =>
    match req.capture o with
    | some w =>
      if readable d o = true ∨ w.nonblock = false ∧ w.signal = true then some (nextPosition d o).1
      else none
    | none => none

/-- `can_read` sees a frame, with no repeat and no timeout pending. -/
def SeesFrame (d : Device) (o : Opener) : Prop :=
  readable { d with rereadCount := 0, timeoutHappened := false } { o with rereadCount := 0 } = true

/-- The call computes an index of the ring, and every reader that is not where the
    writer is sees a frame afterwards. -/
structure PositionsSafe (cfg : Config) (s : Driver) (call : Call) : Prop where
  index : ∀ file req o x, call = .request file req → s.openers.lookup file = some o →
    req.counter s.dev o = some x →
      0 ≤ x.tmod s.dev.ring.usedBuffers ∧ x.tmod s.dev.ring.usedBuffers < s.dev.ring.usedBuffers
  seen : ∀ reply t, driverStep cfg s call = .ok (reply, t) →
    ∀ file o, t.openers.lookup file = some o → o.readPosition ≠ t.dev.writePosition →
      SeesFrame t.dev o

/-- The request completes a frame. -/
def FrameArrives (d : Device) (o : Opener) : Request → Prop
  | .write buf _ fault => fault = none ∧ (d.image.isSome = true ∨ buf.take d.bufferSize = [])
  | .qbuf .videoOutput index => o.timeoutImageIo = false ∧ index ≤ MAX_BUFFERS
  | _ => False

/-- No frame goes past `INT_MAX`, and neither does the position before the next of a
    reader that has caught up, unless it comes out as a multiple of the ring. -/
def PositionsFit (s : Driver) : Call → Prop
  | .request file req => ∀ o, s.openers.lookup file = some o →
    (FrameArrives s.dev o req → s.dev.writePosition < 2147483647) ∧
      ∀ w, req.capture o = some w →
        readable s.dev o = true ∨ w.nonblock = false ∧ w.signal = true →
          s.dev.writePosition = o.readPosition →
            o.readPosition + s.dev.ring.usedBuffers ≤ 2147483648 ∨
              (s.dev.ring.usedBuffers : Int) ∣
                toInt32 (o.readPosition + s.dev.ring.usedBuffers - 1)
  | _ => True

theorem seesFrame_iff {d : Device} {o : Opener} :
    SeesFrame d o ↔ d.writePosition > o.readPosition := by
  simp [SeesFrame, readable]

/-! ### The invariant

The positions only grow while a client keeps the device open, so they stay right as long
as they fit an `int`. -/

/-- The positions count, and no reader is ahead of the writer. -/
structure PositionInv (s : Driver) : Prop where
  accounted : Accounted s
  ring : RingInv s.dev
  nonneg : 0 ≤ s.dev.writePosition
  readers : ∀ file o, s.openers.lookup file = some o →
    0 ≤ o.readPosition ∧ o.readPosition ≤ s.dev.writePosition

theorem PositionInv.init (cfg : Config) : PositionInv (Driver.init cfg) where
  accounted := Accounted.init cfg
  ring := RingInv.init cfg
  nonneg := Int.le_refl 0
  readers := fun file o hfile => by cases hfile

variable {cfg : Config} {s t : Driver} {d d' : Device} {o o' : Opener} {req : Request}
  {reply : Reply} {call : Call}

/-- A remainder is an index unless it is negative. -/
theorem index_iff {x : Int} (hd : RingValid d) :
    0 ≤ x.tmod d.ring.usedBuffers ∧ x.tmod d.ring.usedBuffers < d.ring.usedBuffers ↔
      0 ≤ x ∨ (d.ring.usedBuffers : Int) ∣ x := by
  have hlt : x.tmod d.ring.usedBuffers < d.ring.usedBuffers :=
    Int.tmod_lt_of_pos x (Int.natCast_pos.mpr hd.pos)
  rw [← tmod_nonneg_iff]
  exact and_iff_left hlt

/-- A write that comes back without a fault had somewhere to put its bytes. -/
theorem FrameArrives.of_completes (hready : d.readyForCapture = true)
    (hcompletes : req.completes o = true) (h : request cfg d o req = .ok (reply, d', o')) :
    FrameArrives d o req := by
  cases req with
  | write buf mem fault =>
      obtain rfl : fault = none := Option.isNone_iff_eq_none.mp hcompletes
      refine ⟨rfl, ?_⟩
      obtain ⟨⟨reply, e⟩, hwrite, -⟩ := map_eq_ok.mp h
      rw [v4l2LoopbackWrite, allocateOnce_ready hready] at hwrite
      simp only [show ¬(0 : Int) < 0 by decide, if_false] at hwrite
      obtain ⟨i, -, hwrite⟩ := bind_eq_ok.mp hwrite
      obtain ⟨image, hstore, -⟩ := bind_eq_ok.mp hwrite
      cases himage : d.image with
      | some m => exact Or.inl rfl
      | none =>
          right
          rw [himage, store] at hstore
          split at hstore
          · assumption
          · cases hstore
  | qbuf type index =>
      cases type with
      | videoOutput =>
          have hboth : o.timeoutImageIo = false ∧ index ≤ MAX_BUFFERS := by
            simpa [Request.completes] using hcompletes
          exact hboth
      | _ => cases hcompletes
  | _ => cases hcompletes

/-- A buffer in use is written, and the position goes on. -/
theorem RingInv.written {e : Device} {buf : Nat} (hd : RingInv e) (hnonneg : 0 ≤ e.writePosition)
    (hbuf : buf < e.ring.usedBuffers) :
    ∃ f, e.bufferWritten buf = .ok f ∧ f.writePosition = toInt32 (e.writePosition + 1) ∧
      f.image = e.image := by
  obtain ⟨f, hf⟩ := hd.toRingValid.bufferWritten_ok hnonneg hbuf
  obtain ⟨pos, -, -, hdone⟩ := Device.bufferWritten_eq_ok hf
  refine ⟨f, hf, ?_, ?_⟩
  · rw [hdone, Device.frameDone_writePosition]
  · rw [hdone, Device.frameDone_image]

theorem unsignedSlot_of_pos {u used : Nat} (hpos : 1 ≤ used) (hle : used ≤ MAX_BUFFERS) :
    unsignedSlot u used = .ok (u % used) := by
  have hlt : u % used < used := Nat.mod_lt u hpos
  rw [unsignedSlot, if_neg (by omega), arrayIndex, if_pos (by omega), Int.toNat_natCast]

/-- A frame that arrives is written, wherever the position goes. -/
theorem FrameArrives.request (hready : d.readyForCapture = true) (hd : RingInv d)
    (hnonneg : 0 ≤ d.writePosition) (h : FrameArrives d o req) :
    ∃ reply d', request cfg d o req = .ok (reply, d', o) ∧
      d'.writePosition = toInt32 (d.writePosition + 1) ∧
      (d.image.isSome = true → d'.image.isSome = true) := by
  have hle : d.ring.usedBuffers ≤ MAX_BUFFERS := hd.number ▸ hd.le
  cases req with
  | write buf mem fault =>
      obtain ⟨rfl, hbytes⟩ := h
      have hslot := ringSlot_of_nonneg hnonneg hd.pos hle
      have hlt : d.writePosition.toNat % d.ring.usedBuffers < d.ring.usedBuffers :=
        Nat.mod_lt _ hd.pos
      generalize d.writePosition.toNat % d.ring.usedBuffers = i at hslot hlt
      have hstore : ∃ image, store d.image .nullImage (d.buffers i).offset
          (buf.take d.bufferSize) = .ok image ∧ (d.image.isSome = true → image.isSome = true) := by
        cases himage : d.image with
        | some m => exact ⟨_, rfl, fun _ => rfl⟩
        | none =>
            rw [himage] at hbytes
            exact ⟨none, if_pos (hbytes.resolve_left (by simp)), id⟩
      obtain ⟨image, himage, hsome⟩ := hstore
      -- the frame is counted, and its position is one further
      obtain ⟨f, hf, hposition, hkept⟩ :=
        (hd.same (d.storeFrame_same i image)).written hnonneg hlt
      have hwrite : writeFrame none d buf = .ok (.transferred (buf.take d.bufferSize).length, f) :=
        bind_eq_ok.mpr ⟨i, hslot, bind_eq_ok.mpr ⟨image, himage, bind_eq_ok.mpr ⟨f, hf, rfl⟩⟩⟩
      refine ⟨.transferred (buf.take d.bufferSize).length, f, ?_, hposition, ?_⟩
      · rw [Loopback.request, v4l2LoopbackWrite, allocateOnce_ready hready]
        simp only [show ¬(0 : Int) < 0 by decide, if_false, hwrite]
        rfl
      · rw [hkept]
        exact hsome
  | qbuf type index =>
      cases type with
      | videoOutput =>
          obtain ⟨hio, hindex⟩ := h
          have hlt : index % d.ring.usedBuffers < d.ring.usedBuffers := Nat.mod_lt _ hd.pos
          have hsame := d.updateBuffer_same (index % d.ring.usedBuffers) setDone fun _ => rfl
          obtain ⟨f, hf, hposition, hkept⟩ := (hd.same hsame).written hnonneg hlt
          refine ⟨.code 0, f, ?_, hposition, ?_⟩
          · rw [Loopback.request, vidiocQbuf, if_neg (by omega), if_neg (by simp [hio])]
            exact bind_eq_ok.mpr ⟨_, unsignedSlot_of_pos hd.pos hle, bind_eq_ok.mpr ⟨f, hf, rfl⟩⟩
          · rw [hkept]
            exact id
      | _ => exact absurd h id
  | _ => exact absurd h id

/-! ### Steps

The writer moves by one; a reader catches up, and never further. -/

/-- A cursor that a capture moves stays behind the writer. -/
theorem nextPosition_within (hnonneg : 0 ≤ o.readPosition) (hle : o.readPosition ≤ d.writePosition)
    (hmax : d.writePosition < 2147483648) :
    0 ≤ (nextPosition d o).2.readPosition ∧ (nextPosition d o).2.readPosition ≤ d.writePosition := by
  rcases Int.lt_or_eq_of_le hle with hbehind | hcaught
  · obtain ⟨p, hp, hnext⟩ := nextPosition_behind hnonneg hbehind hmax
    rw [hnext]
    simp only
    split at hp <;> omega
  · rw [nextPosition, if_pos hcaught.symm]
    exact ⟨hnonneg, hle⟩

theorem PositionInv.step (hs : PositionInv s) (hfit : PositionsFit s call)
    (h : Step cfg s call t) : PositionInv t := by
  have hnonneg := hs.nonneg
  have hmax := hs.ring.range.2
  have haccounted := hs.accounted.step h
  have hring := hs.ring.step h
  have hsame : t.dev.writePosition = s.dev.writePosition → PositionInv t := by
    intro hposition
    refine ⟨haccounted, hring, hposition ▸ hnonneg, fun file o' hfile => ?_⟩
    rw [hposition]
    cases h.handle hfile with
    | kept o hopen hcursor => exact hcursor ▸ hs.readers file o hopen
    | opened mem kzalloc hcall hcursor => omega
    | captured req o w hcall hopen hw hgo ho =>
        have hreader := hs.readers file o hopen
        rw [ho]
        exact nextPosition_within hreader.1 hreader.2 hmax
  cases h.counts hs.accounted hs.ring with
  | same hposition => exact hsame hposition
  | ticked htick hsustain hposition => exact hsame hposition
  | freed hposition hnone =>
      refine ⟨haccounted, hring, Int.le_of_eq hposition.symm, fun file o hfile => ?_⟩
      exact absurd (hfile.symm.trans (hnone file)) (by simp)
  | written file req o hcall hfile hcompletes hposition =>
      subst hcall
      have harrives : FrameArrives s.dev o req := by
        cases h.move with
        | request hopen hreq =>
            obtain rfl := Option.some.inj (hopen.symm.trans hfile)
            exact .of_completes (hs.accounted.held hfile).1 hcompletes hreq
      have hlt := (hfit o hfile).1 harrives
      rw [toInt32_of_fits (by omega) (by omega)] at hposition
      refine ⟨haccounted, hring, by omega, fun f of hf => ?_⟩
      rw [hposition]
      cases h.handle hf with
      | kept o' hopen hcursor =>
          have hreader := hs.readers f o' hopen
          omega
      | opened mem kzalloc hcall => cases hcall
      | captured req' o' w hcall hopen hw =>
          cases hcall
          obtain rfl : o' = o := Option.some.inj (hopen.symm.trans hfile)
          exact absurd (hw.symm.trans (Request.capture_of_completes hcompletes)) (by simp)

/-- The index of a capture that goes on. -/
theorem capture_index_iff (hd : RingValid d) (hnonneg : 0 ≤ o.readPosition)
    (hle : o.readPosition ≤ d.writePosition) (hmax : d.writePosition < 2147483648) :
    0 ≤ (nextPosition d o).1 ∨ (d.ring.usedBuffers : Int) ∣ (nextPosition d o).1 ↔
      (d.writePosition = o.readPosition →
        o.readPosition + d.ring.usedBuffers ≤ 2147483648 ∨
          (d.ring.usedBuffers : Int) ∣ toInt32 (o.readPosition + d.ring.usedBuffers - 1)) := by
  have hused : d.ring.usedBuffers ≤ 16 := hd.le.trans (Nat.le_of_eq hd.number)
  have hpos := hd.pos
  rcases Int.lt_or_eq_of_le hle with hbehind | hcaught
  · obtain ⟨p, hp, hnext⟩ := nextPosition_behind hnonneg hbehind hmax
    rw [hnext]
    refine iff_of_true (Or.inl ?_) fun hcaught => ?_
    · simp only
      split at hp <;> omega
    · omega
  · rw [nextPosition_fst, if_pos hcaught.symm]
    simp only [hcaught, true_imp_iff]
    apply or_congr_left
    rw [← hcaught]
    by_cases hfits : o.readPosition + d.ring.usedBuffers ≤ 2147483648
    · rw [toInt32_of_fits (by omega) (by omega)]
      omega
    · rw [toInt32_of_wraps (by omega) (by omega)]
      omega

/-- The positions a request reduces, where nothing has wrapped around. -/
theorem PositionInv.index_iff {file : Nat} (hs : PositionInv s)
    (hfile : s.openers.lookup file = some o) :
    (∀ x, req.counter s.dev o = some x → 0 ≤ x.tmod s.dev.ring.usedBuffers ∧
        x.tmod s.dev.ring.usedBuffers < s.dev.ring.usedBuffers) ↔
      ∀ w, req.capture o = some w →
        readable s.dev o = true ∨ w.nonblock = false ∧ w.signal = true →
          s.dev.writePosition = o.readPosition →
            o.readPosition + s.dev.ring.usedBuffers ≤ 2147483648 ∨
              (s.dev.ring.usedBuffers : Int) ∣
                toInt32 (o.readPosition + s.dev.ring.usedBuffers - 1) := by
  have hreader := hs.readers file o hfile
  have hvalid := hs.ring.toRingValid
  have hcapture := capture_index_iff hvalid hreader.1 hreader.2 hs.ring.range.2
  simp only [Loopback.index_iff hvalid]
  cases hw : req.capture o with
  | some w =>
      have hcounter : req.counter s.dev o =
          if readable s.dev o = true ∨ w.nonblock = false ∧ w.signal = true
          then some (nextPosition s.dev o).1 else none := by
        cases req with
        | read count w' fault => simp only [Request.counter, hw]
        | dqbuf type w' => simp only [Request.counter, hw]
        | _ => cases hw
      rw [hcounter]
      simp only [Option.some.injEq, forall_eq']
      by_cases hgo : readable s.dev o = true ∨ w.nonblock = false ∧ w.signal = true
      · simp only [hgo, if_true, Option.some.injEq, forall_eq', true_imp_iff]
        exact hcapture
      · simp [hgo]
  | none =>
      refine iff_of_true (fun x hx => Or.inl ?_) (by simp)
      have hwrite : x = s.dev.writePosition := by
        cases req with
        | write buf mem fault => exact (Option.some.inj hx).symm
        | qbuf type index =>
            cases type with
            | videoOutput =>
                simp only [Request.counter] at hx
                split at hx
                · exact (Option.some.inj hx).symm
                · cases hx
            | _ => simp [Request.counter, hw] at hx
        | _ => simp [Request.counter, hw] at hx
      exact hwrite ▸ hs.nonneg

/-- Past `INT_MAX` the writer is not seen: its own handle looks ahead of it. -/
theorem PositionInv.unseen {file : Nat} (hs : PositionInv s)
    (hfile : s.openers.lookup file = some o) (harrives : FrameArrives s.dev o req)
    (hlast : 2147483647 ≤ s.dev.writePosition) : ¬PositionsSafe cfg s (.request file req) := by
  intro hsafe
  have hmax := hs.ring.range.2
  have hreader := hs.readers file o hfile
  have hready := (hs.accounted.held hfile).1
  obtain ⟨reply, d', hreq, hposition, -⟩ :=
    (harrives.request hready hs.ring hs.nonneg : ∃ reply d', request cfg s.dev o req = _ ∧ _)
  have hstep : driverStep cfg s (.request file req) = .ok (reply, s.afterRequest file d' o) := by
    simp only [driverStep, hfile, hreq]
  have hwrapped : d'.writePosition = s.dev.writePosition + 1 - 4294967296 :=
    hposition.trans (toInt32_of_wraps (by omega) (by omega))
  have hseen := hsafe.seen reply _ hstep file o (AList.lookup_insert _)
  rw [seesFrame_iff, Driver.afterRequest] at hseen
  simp only at hseen
  omega

/-- In a state where nothing has wrapped around, a call is safe exactly when it makes
    nothing wrap. -/
theorem PositionInv.safe_iff (hs : PositionInv s) :
    PositionsSafe cfg s call ↔ PositionsFit s call := by
  constructor
  · intro hsafe
    cases call with
    | request file req =>
        intro o hfile
        refine ⟨fun harrives => ?_, ?_⟩
        · by_contra hlast
          exact hs.unseen hfile harrives (Int.not_lt.mp hlast) hsafe
        · exact (hs.index_iff hfile).mp fun x hx => hsafe.index file req o x rfl hfile hx
    | _ => trivial
  · intro hfit
    refine ⟨fun file req o x hcall hfile hx => ?_, fun reply t hstep file o hfile hne => ?_⟩
    · subst hcall
      exact (hs.index_iff hfile).mpr (hfit o hfile).2 x hx
    · have hnext : Step cfg s call t := by simp only [ofNext, next, hstep]
      have hreader := (hs.step hfit hnext).readers file o hfile
      rw [seesFrame_iff]
      omega

/-- **When the positions can be relied on.**  Along any sequence of calls every ring
    index is in the ring and every reader that lags sees a frame, exactly when no
    frame goes past `INT_MAX`, nor the position of a reader that has caught up. -/
theorem positions_safe_iff (cfg : Config) (calls : List Call) :
    Along (Step cfg) (PositionsSafe cfg) (Driver.init cfg) calls ↔
      Along (Step cfg) PositionsFit (Driver.init cfg) calls :=
  along_iff (fun _ _ _ hs hfit hstep => PositionInv.step hs hfit hstep)
    (fun _ _ hs => hs.safe_iff) (PositionInv.init cfg)

/-! ### A long session

The bound is reached: a position of `INT_MAX` takes as many writes. -/

/-- The call that writes one byte. -/
def writeByte : Call := .request 1 (.write [7] granting none)

/-- One more byte can be written while the position is not negative. -/
theorem step_writeByte (haccounted : Accounted s) (hring : RingInv s.dev)
    (hnonneg : 0 ≤ s.dev.writePosition) (hfile : s.openers.lookup 1 = some o)
    (himage : s.dev.image.isSome = true) :
    ∃ t, Step cfg s writeByte t ∧ t.dev.writePosition = toInt32 (s.dev.writePosition + 1) ∧
      t.openers.lookup 1 = some o ∧ t.dev.image.isSome = true := by
  have harrives : FrameArrives s.dev o (.write [7] granting none) := ⟨rfl, Or.inl himage⟩
  obtain ⟨reply, d', hreq, hposition, hkept⟩ :=
    (harrives.request (haccounted.held hfile).1 hring hnonneg :
      ∃ reply d', request cfg s.dev o (.write [7] granting none) = _ ∧ _)
  refine ⟨s.afterRequest 1 d' o, ?_, hposition, AList.lookup_insert _, hkept himage⟩
  simp only [writeByte, ofNext, next, driverStep, hfile, hreq]

/-- A handle is opened and one byte is written to it `n` times. -/
theorem run_writes {n : Nat} (hn : n ≤ 2147483647) :
    ∃ s, Run (Step ⟨640, 480, 100⟩) (Driver.init ⟨640, 480, 100⟩)
        (.openDevice 1 granting true :: List.replicate n writeByte) s ∧
      s.dev.writePosition = n ∧ s.openers.lookup 1 = some {} ∧ s.dev.image.isSome = true := by
  induction n with
  | zero =>
      obtain ⟨s, hs, hvalues⟩ := Option.map_eq_some_iff.mp (by decide +kernel :
        (execute (next ⟨640, 480, 100⟩) (Driver.init ⟨640, 480, 100⟩)
          [.openDevice 1 granting true]).map
          (fun s => (s.dev.writePosition, s.openers.lookup 1, s.dev.image.isSome)) =
            some (0, some {}, true))
      simp only [Prod.mk.injEq] at hvalues
      exact ⟨s, Run.of_execute hs, hvalues.1, hvalues.2.1, hvalues.2.2⟩
  | succ n ih =>
      obtain ⟨s, hrun, hposition, hfile, himage⟩ := ih (by omega)
      obtain ⟨t, hstep, hnext, hfile', himage'⟩ :=
        step_writeByte (Accounted.run hrun) (RingInv.run hrun) (by omega) hfile himage
      refine ⟨t, ?_, ?_, hfile', himage'⟩
      · rw [List.replicate_succ', ← List.cons_append]
        exact Run.snoc hrun hstep
      · rw [hnext, hposition, toInt32_of_fits (by omega) (by omega)]
        omega

/-- The frame after `2^31 - 1` others is not seen by anybody. -/
theorem positions_overflow :
    ¬ ∀ (cfg : Config) (calls : List Call),
      Along (Step cfg) (PositionsSafe cfg) (Driver.init cfg) calls := by
  intro h
  obtain ⟨s, hrun, hposition, hfile, himage⟩ := run_writes (Nat.le_refl 2147483647)
  obtain ⟨reply, d', hreq, hnext, -⟩ :=
    (FrameArrives.request ((Accounted.run hrun).held hfile).1 (RingInv.run hrun) (by omega)
      ⟨rfl, Or.inl himage⟩ :
        ∃ reply d', request ⟨640, 480, 100⟩ s.dev {} (.write [7] granting none) = _ ∧ _)
  have hsafe := h ⟨640, 480, 100⟩ _ _ writeByte s (List.prefix_refl _) hrun
  have hstep : driverStep ⟨640, 480, 100⟩ s writeByte = .ok (reply, s.afterRequest 1 d' {}) := by
    simp only [writeByte, driverStep, hfile, hreq]
  have hwrapped : d'.writePosition = -2147483648 := by
    rw [hnext, hposition]
    rfl
  have hne : ({} : Opener).readPosition ≠ d'.writePosition := by
    rw [hwrapped]
    decide
  have hseen := hsafe.seen reply _ hstep 1 {} (AList.lookup_insert _) hne
  rw [seesFrame_iff, Driver.afterRequest] at hseen
  simp only [hwrapped] at hseen
  exact absurd hseen (by decide)

end DroidCam.Loopback
