import DroidCam.Loopback.Cursors

/-
  DroidCam/Loopback/Remapping.lean
  ================================
  Where the last frame is after REQBUFS has shrunk the ring.

  The new positions are taken from the order of `outbufs_list`: the buffer at its
  tail is remapped to the position before `write_position`.  A completed frame goes
  to the tail, but so does every buffer that the writer dequeues.

  `Writing` records the last buffer written and those dequeued since; the list ends
  with the last of them that the smaller ring still has.
-/

namespace DroidCam.Loopback

open CArith LabelledRun

/-! ### The record of a run

Which buffers were moved to the tail last is decided by the frames and by the OUTPUT
DQBUFs since the last one. -/

/-- The buffer of the last frame since the buffers were allocated, and the buffers
    dequeued since that frame. -/
structure Writing where
  last : Option Nat
  dequeued : List Nat
deriving DecidableEq, Repr

def Writing.empty : Writing := ⟨none, []⟩

/-- The buffers moved to the tail of `outbufs_list`, in order. -/
def Writing.moved (r : Writing) : List Nat := r.last.toList ++ r.dequeued

/-- A close after which `write_position` is 0 has freed the buffers, or there was no
    frame in them. -/
def Writing.record (r : Writing) (s t : Driver) : Call → Writing
  | .closeDevice _ => if t.dev.writePosition = 0 then .empty else r
  | .request file req =>
    if t.dev.framesWritten ≠ s.dev.framesWritten then ⟨some (req.filled s.dev), []⟩
    else
      match s.openers.lookup file with
      | none => r
      | some o => { r with dequeued := r.dequeued ++ (req.dequeued s.dev o).toList }
  | _ => r

/-- A step of the driver, and its record. -/
def writingNext (cfg : Config) (x : Driver × Writing) (call : Call) : Option (Driver × Writing) :=
  (next cfg x.1 call).map fun t => (t, x.2.record x.1 t call)

abbrev WritingStep (cfg : Config) : Driver × Writing → Call → Driver × Writing → Prop :=
  ofNext (writingNext cfg)

variable {cfg : Config}

theorem WritingStep.move {x y : Driver × Writing} {call : Call} (h : WritingStep cfg x call y) :
    Step cfg x.1 call y.1 ∧ y.2 = x.2.record x.1 y.1 call := by
  obtain ⟨t, ht, rfl⟩ := Option.map_eq_some_iff.mp h
  exact ⟨ht, rfl⟩

/-! ### The invariant

The list of the driver keeps its order when a smaller ring is filtered out of it, so the
invariant speaks of all smaller rings at once. -/

/-- Among the buffers of every smaller ring, the last one moved is at the tail. -/
structure Ordered (x : Driver × Writing) : Prop where
  accounted : Accounted x.1
  ring : RingInv x.1.dev
  position : x.1.dev.framesWritten < 2147483648 → x.2.last ≠ none → 1 ≤ x.1.dev.writePosition
  newest : ∀ k ≤ x.1.dev.ring.usedBuffers,
    Recency.Newest (fun i => i < k) x.1.dev.ring.outbufsList x.2.moved

theorem Ordered.init (cfg : Config) : Ordered (Driver.init cfg, .empty) where
  accounted := Accounted.init cfg
  ring := RingInv.init cfg
  position := fun _ hlast => absurd rfl hlast
  newest := fun _ _ => Recency.Newest.nil _ _

/-- Nothing is known of a device whose buffers were freed. -/
theorem Ordered.restart {s : Driver} (hs : Accounted s) (hring : RingInv s.dev) :
    Ordered (s, .empty) where
  accounted := hs
  ring := hring
  position := fun _ hlast => absurd rfl hlast
  newest := fun _ _ => Recency.Newest.nil _ _

/-- A step that moves no buffer. -/
theorem Ordered.keep {x : Driver × Writing} {t : Driver} (hx : Ordered x) (ht : Accounted t)
    (hinv : RingInv t.dev) (hring : t.dev.ring = x.1.dev.ring)
    (hframes : t.dev.framesWritten = x.1.dev.framesWritten)
    (hposition : t.dev.writePosition = x.1.dev.writePosition) : Ordered (t, x.2) where
  accounted := ht
  ring := hinv
  position := by
    rw [hframes, hposition]
    exact hx.position
  newest := by
    rw [hring]
    exact hx.newest

/-- The position after a request: it goes on with the frames, and never below 1. -/
theorem Step.request_position {s t : Driver} {file : Nat} {req : Request} (hs : Accounted s)
    (hring : RingInv s.dev) (h : Step cfg s (.request file req) t)
    (hfew : t.dev.framesWritten < 2147483648) :
    t.dev.framesWritten = s.dev.framesWritten ∧ t.dev.writePosition = s.dev.writePosition ∨
      t.dev.framesWritten = s.dev.framesWritten + 1 ∧ 1 ≤ t.dev.writePosition := by
  cases h.counts hs hring with
  | same hposition hcount hframes => exact Or.inl ⟨hframes, hposition⟩
  | freed hposition hnone =>
      cases h.move with
      | request hfile hreq =>
          have hopen := hnone file
          simp [Driver.afterRequest] at hopen
  | ticked hcall => cases hcall
  | written f req' o hcall hfile hcompletes hposition hcount hframes =>
      have hbounds := hring.count (by omega)
      rw [toInt32_of_fits (by omega) (by omega)] at hposition
      exact Or.inr ⟨hframes, by omega⟩

/-- The ring that REQBUFS leaves. -/
theorem Ordered.granted {x : Driver × Writing} {d : Device} {count : Nat} (hx : Ordered x)
    (hring : d.ring = (grantBuffers x.1.dev.initBuffers count).ring) :
    ∀ k ≤ d.ring.usedBuffers, Recency.Newest (fun i => i < k) d.ring.outbufsList x.2.moved := by
  intro k hk
  rw [hring] at hk ⊢
  by_cases hshrink : count < x.1.dev.ring.usedBuffers
  · rw [grantBuffers_ring hx.ring.toRingValid hshrink] at hk ⊢
    refine Recency.Newest.filter (fun i hi => ?_) (hx.newest k ?_)
    · exact decide_eq_true (Nat.lt_of_lt_of_le (of_decide_eq_true hi) hk)
    · exact Nat.le_of_lt (Nat.lt_of_le_of_lt hk hshrink)
  · rw [grantBuffers_ring_of_le hx.ring.toRingValid (Nat.le_of_not_lt hshrink)] at hk ⊢
    exact hx.newest k hk

theorem Ordered.request {x : Driver × Writing} {t : Driver} {file : Nat} {req : Request}
    (hx : Ordered x) (hs : Step cfg x.1 (.request file req) t) :
    Ordered (t, x.2.record x.1 t (.request file req)) := by
  have ht := hx.accounted.step hs
  have hinv := hx.ring.step hs
  have hmoved := hs.request_position hx.accounted hx.ring
  cases hs.move with
  | @request _ _ o reply d o' hfile hreq =>
      have hkept : ∀ {buf : Option Nat}, d.framesWritten = x.1.dev.framesWritten →
          req.dequeued x.1.dev o = buf →
            x.2.record x.1 (x.1.afterRequest file d o') (.request file req) =
              { x.2 with dequeued := x.2.dequeued ++ buf.toList } := by
        rintro _ hframes rfl
        have hmore : ¬(x.1.afterRequest file d o').dev.framesWritten ≠ x.1.dev.framesWritten :=
          fun hne => hne hframes
        simp only [Writing.record, if_neg hmore, hfile]
      have hposition : d.framesWritten = x.1.dev.framesWritten →
          d.framesWritten < 2147483648 → x.2.last ≠ none → 1 ≤ d.writePosition := by
        intro hframes hfew hlast
        have hbefore := hx.position (hframes ▸ hfew) hlast
        have hafter : d.framesWritten = x.1.dev.framesWritten ∧
              d.writePosition = x.1.dev.writePosition ∨
            d.framesWritten = x.1.dev.framesWritten + 1 ∧ 1 ≤ d.writePosition := hmoved hfew
        omega
      cases request_order hreq with
      -- no buffer moved and no frame: the record is as it was
      | same hnone hring hframes =>
          rw [hkept hframes hnone, Option.toList_none, List.append_nil]
          refine ⟨ht, hinv, hposition hframes, ?_⟩
          show ∀ k ≤ d.ring.usedBuffers, Recency.Newest _ d.ring.outbufsList _
          rw [hring]
          exact hx.newest
      | written pos index hring hframes =>
          have hmore : (x.1.afterRequest file d o').dev.framesWritten ≠ x.1.dev.framesWritten := by
            show d.framesWritten ≠ _
            omega
          rw [Writing.record, if_pos hmore]
          refine ⟨ht, hinv, fun hfew _ => ?_, fun k hk => ?_⟩
          · rcases hmoved hfew with ⟨hsame, -⟩ | ⟨-, hpos⟩
            · exact absurd hsame hmore
            · exact hpos
          · show Recency.Newest _ d.ring.outbufsList _
            rw [hring]
            exact (Recency.Newest.nil _ _).used _
      | dequeued buf hbuf hring hframes =>
          rw [hkept hframes hbuf]
          refine ⟨ht, hinv, hposition hframes, ?_⟩
          show ∀ k ≤ d.ring.usedBuffers, Recency.Newest _ d.ring.outbufsList _
          rw [hring]
          intro k hk
          rw [Writing.moved, Option.toList_some, ← List.append_assoc]
          exact (hx.newest k hk).used buf
      | granted count hgrant hring hframes =>
          have hnone : req.dequeued x.1.dev o = none := by
            obtain ⟨n, rfl⟩ := hgrant
            rfl
          rw [hkept hframes hnone, Option.toList_none, List.append_nil]
          exact ⟨ht, hinv, hposition hframes, hx.granted hring⟩

theorem Ordered.step {x y : Driver × Writing} {call : Call} (hx : Ordered x)
    (h : WritingStep cfg x call y) : Ordered y := by
  obtain ⟨t, r⟩ := y
  obtain ⟨hs, hr⟩ := h.move
  obtain rfl : r = x.2.record x.1 t call := hr
  have ht := hx.accounted.step hs
  have hinv := hx.ring.step hs
  have hkeep : SameRing x.1.dev t.dev → Ordered (t, x.2) :=
    fun hsame => hx.keep ht hinv hsame.ring hsame.framesWritten hsame.writePosition
  cases hs.move with
  | openFailed hfree hopen => exact hkeep (v4l2LoopbackOpen_same hopen)
  | opened hfree hopen => exact hkeep (v4l2LoopbackOpen_same hopen)
  | @closed file o hfile =>
      simp only [Writing.record]
      split
      · exact .restart ht hinv
      · rename_i hopen
        obtain ⟨hring, hframes⟩ := v4l2LoopbackClose_order x.1.dev
        rcases (v4l2LoopbackClose_ringMove x.1.dev).counts with ⟨-, hsame | ⟨hzero, -⟩⟩ | ⟨hmore, -⟩
        · exact hx.keep ht hinv hring hframes hsame
        · exact absurd hzero hopen
        · omega
  | request hfile hreq => exact hx.request hs
  | sustainTimer => exact hkeep x.1.dev.sustainTimerClb_same
  | timeoutTimer => exact hkeep x.1.dev.timeoutTimerClb_same
  | storeFormat hstore => exact hkeep (attrStoreFormat_same hstore)
  | @storeMaxopeners curr len => exact hkeep (attrStoreMaxopeners_same x.1.dev curr len)

theorem Ordered.run {x : Driver × Writing} {calls : List Call}
    (h : Run (WritingStep cfg) (Driver.init cfg, .empty) calls x) : Ordered x :=
  Run.invariant (fun _ _ _ hx hstep => hx.step hstep) (Ordered.init cfg) h

/-! ### The last frame

A shrink fills the positions from the list in order, and the last position goes to the
tail. -/

/-- The position before `write_position` is mapped to buffer `b`, and a capture of a
    reader that is one frame behind is given `b`. -/
structure KeepsLast (d : Device) (b : Nat) : Prop where
  mapped : d.ring.bufpos2index ((d.writePosition - 1).toNat % d.ring.usedBuffers) = b
  given : ∀ w o, o.readPosition + 1 = d.writePosition →
    ∃ d' o', captureIndex w d o = .ok (.index b d.timeoutHappened d' o')

/-- Of the buffers below `k`, the one dequeued last since the last frame is the
    buffer of that frame, if any was dequeued. -/
def Writing.Undisturbed (r : Writing) (k b : Nat) : Prop :=
  ∀ i, (r.dequeued.filter fun i => i < k).getLast? = some i → i = b

theorem keepsLast_iff {d : Device} {b : Nat} (hd : RingInv d) (hposition : 1 ≤ d.writePosition) :
    KeepsLast d b ↔
      d.ring.bufpos2index ((d.writePosition - 1).toNat % d.ring.usedBuffers) = b := by
  refine ⟨fun h => h.mapped, fun hmapped => ⟨hmapped, fun w o hbehind => ?_⟩⟩
  have hready : readable d o = true := by
    simp only [readable, decide_eq_true_eq]
    omega
  obtain ⟨p, hp, hnext⟩ :=
    nextPosition_behind (d := d) (o := o) (by omega) (by omega) hd.range.2
  rw [if_neg (by omega)] at hp
  have hlast : p = d.writePosition - 1 := by omega
  have hslot := ringSlot_of_nonneg (x := p) (by omega) hd.pos (hd.number ▸ hd.le)
  rw [captureIndex_go (Or.inl hready), hnext, hslot, hlast]
  exact ⟨_, _, by rw [← hmapped]; rfl⟩

/-- The last of the buffers moved that a smaller ring still has. -/
theorem Writing.undisturbed_iff {r : Writing} {k b : Nat} (hlast : r.last = some b) (hb : b < k) :
    r.Undisturbed k b ↔ (r.moved.filter fun i => i < k).getLast? = some b := by
  have hmoved : (r.moved.filter fun i => i < k) = [b] ++ r.dequeued.filter fun i => i < k := by
    rw [Writing.moved, hlast, Option.toList_some, List.filter_append]
    simp [hb]
  rw [Writing.Undisturbed, hmoved, List.getLast?_append]
  cases (r.dequeued.filter fun i => i < k).getLast? with
  | none => simp
  | some i => simp

/-- **When the last frame survives a smaller ring**: after REQBUFS has shrunk it to `k`
    buffers, the last buffer written is still at the last position exactly when no
    buffer below `k` but itself was the last one dequeued since. -/
theorem last_frame_kept_iff {x : Driver × Writing} {calls : List Call}
    (h : Run (WritingStep cfg) (Driver.init cfg, .empty) calls x)
    (hfew : x.1.dev.framesWritten < 2147483648) {file : Nat} {o : Opener}
    (hfile : x.1.openers.lookup file = some o) (hio : o.timeoutImageIo = false) {k b : Nat}
    (hk : 1 ≤ k) (hshrink : k < x.1.dev.ring.usedBuffers) (hlast : x.2.last = some b)
    (hb : b < k) :
    ∃ t, driverStep cfg x.1 (.request file (.reqbufs .mmap k)) = .ok (.granted k, t) ∧
      t.dev.ring.usedBuffers = k ∧ (KeepsLast t.dev b ↔ x.2.Undisturbed k b) := by
  have hx := Ordered.run h
  have hposition := hx.position hfew (by simp [hlast])
  have hle : k ≤ x.1.dev.ring.buffersNumber := Nat.le_trans (Nat.le_of_lt hshrink) hx.ring.le
  have hreq : request cfg x.1.dev o (.reqbufs .mmap k) =
      .ok (.granted k, grantBuffers x.1.dev.initBuffers k, { o with buffersNumber := k }) := by
    have hnumber : x.1.dev.initBuffers.ring.buffersNumber = x.1.dev.ring.buffersNumber := rfl
    simp [request, vidiocReqbufs, hio, Nat.ne_of_gt hk, hnumber, Nat.min_eq_left hle]
  obtain ⟨hlen, hring⟩ := hx.ring.shrunk_ring hk hshrink
  have hused : (grantBuffers x.1.dev.initBuffers k).ring.usedBuffers = k := by rw [hring]
  have hkept : (grantBuffers x.1.dev.initBuffers k).writePosition = x.1.dev.writePosition :=
    (grantBuffers_counters x.1.dev.initBuffers k).1
  refine ⟨_, driverStep_of_request hfile hreq, hused, ?_⟩
  -- The buffer at the last position is the last one of the smaller list.
  obtain ⟨i, hi⟩ : ∃ i, (x.2.moved.filter fun i => i < k).getLast? = some i := by
    have hmem : b ∈ x.2.moved.filter fun i => i < k := by simp [Writing.moved, hlast, hb]
    exact Option.isSome_iff_exists.mp (List.getLast?_isSome.mpr (List.ne_nil_of_mem hmem))
  have htail := hx.newest k (Nat.le_of_lt hshrink) i hi
  have hstart : (toUInt32 x.1.dev.writePosition).toNat = x.1.dev.writePosition.toNat := by
    have := hx.ring.range
    rw [toUInt32_of_fits (by omega) (by omega)]
  have hmapped : (grantBuffers x.1.dev.initBuffers k).ring.bufpos2index
      ((x.1.dev.writePosition - 1).toNat % k) = i := by
    rw [hring, hstart, show (x.1.dev.writePosition - 1).toNat = x.1.dev.writePosition.toNat - 1 by
      omega]
    exact CyclicFill.fill_before hlen (by omega) htail
  show KeepsLast (grantBuffers x.1.dev.initBuffers k) b ↔ _
  rw [keepsLast_iff (hx.ring.granted hk hle) (hkept ▸ hposition), hused, hkept, hmapped,
    Writing.undisturbed_iff hlast hb, hi, Option.some.injEq]

/-- Three frames are written and the ring of 16 buffers is shrunk to three: the buffer
    dequeued in between is not one of them. -/
theorem last_frame_kept_iff_written :
    ∃ x, Run (WritingStep ⟨640, 480, 100⟩) (Driver.init ⟨640, 480, 100⟩, .empty)
        [.openDevice 1 granting true, .request 1 (.write [7] granting none),
          .request 1 (.write [8] granting none), .request 1 (.write [9] granting none),
          .request 1 (.dqbuf .videoOutput ⟨false, false⟩)] x ∧
      x.2 = ⟨some 2, [3]⟩ ∧ ∃ t,
        driverStep ⟨640, 480, 100⟩ x.1 (.request 1 (.reqbufs .mmap 3)) = .ok (.granted 3, t) ∧
          KeepsLast t.dev 2 := by
  obtain ⟨x, hx, hvalues⟩ := Option.map_eq_some_iff.mp (by decide +kernel :
    (execute (writingNext ⟨640, 480, 100⟩) (Driver.init ⟨640, 480, 100⟩, .empty)
      [.openDevice 1 granting true, .request 1 (.write [7] granting none),
        .request 1 (.write [8] granting none), .request 1 (.write [9] granting none),
        .request 1 (.dqbuf .videoOutput ⟨false, false⟩)]).map
      (fun x => (x.2, x.1.dev.framesWritten, x.1.dev.ring.usedBuffers, x.1.openers.lookup 1)) =
        some (⟨some 2, [3]⟩, 3, 16, some {}))
  simp only [Prod.mk.injEq] at hvalues
  obtain ⟨hrecord, hframes, hused, hopener⟩ := hvalues
  have hrun := Run.of_execute hx
  obtain ⟨t, ht, -, hkept⟩ := last_frame_kept_iff hrun (by omega) hopener rfl
    (show 1 ≤ 3 by decide) (by omega) (show x.2.last = some 2 by rw [hrecord]) (by decide)
  refine ⟨x, hrun, hrecord, t, ht, hkept.mpr ?_⟩
  rw [hrecord]
  intro i hi
  cases hi

/-- After the first frame the writer dequeues the next buffer and shrinks the ring to
    two: position 0 is mapped to the buffer it dequeued. -/
theorem last_frame_lost :
    ¬ ∀ (cfg : Config) (x : Driver × Writing) calls (file : Nat) (o : Opener) (k b : Nat)
        (t : Driver),
      Run (WritingStep cfg) (Driver.init cfg, .empty) calls x →
        x.1.dev.framesWritten < 2147483648 → x.1.openers.lookup file = some o →
          o.timeoutImageIo = false → 1 ≤ k → k < x.1.dev.ring.usedBuffers →
            x.2.last = some b → b < k →
              Step cfg x.1 (.request file (.reqbufs .mmap k)) t → KeepsLast t.dev b := by
  intro h
  obtain ⟨x, hx, hvalues⟩ := Option.map_eq_some_iff.mp (by decide +kernel :
    (execute (writingNext ⟨640, 480, 100⟩) (Driver.init ⟨640, 480, 100⟩, .empty)
      [.openDevice 1 granting true, .request 1 (.write [7] granting none),
        .request 1 (.dqbuf .videoOutput ⟨false, false⟩)]).map
      (fun x => (x.2, x.1.dev.framesWritten, x.1.dev.ring.usedBuffers, x.1.openers.lookup 1)) =
        some (⟨some 0, [1]⟩, 1, 16, some {}))
  have hshrunk : ((execute (writingNext ⟨640, 480, 100⟩) (Driver.init ⟨640, 480, 100⟩, .empty)
      [.openDevice 1 granting true, .request 1 (.write [7] granting none),
        .request 1 (.dqbuf .videoOutput ⟨false, false⟩)]).bind
      fun x => next ⟨640, 480, 100⟩ x.1 (.request 1 (.reqbufs .mmap 2))).map
      (fun t => (t.dev.writePosition, t.dev.ring.usedBuffers, t.dev.ring.bufpos2index 0)) =
        some (1, 2, 1) := by decide +kernel
  rw [hx, Option.bind_some] at hshrunk
  obtain ⟨t, ht, hring⟩ := Option.map_eq_some_iff.mp hshrunk
  simp only [Prod.mk.injEq] at hvalues hring
  obtain ⟨hrecord, hframes, hused, hopener⟩ := hvalues
  obtain ⟨hposition, hsize, hlost⟩ := hring
  have hkept := h _ x _ 1 {} 2 0 t (Run.of_execute hx) (by omega) hopener rfl (by decide)
    (by omega) (by rw [hrecord]) (by decide) ht
  have hmapped := hkept.mapped
  rw [hposition, hsize] at hmapped
  exact absurd (hlost.symm.trans hmapped) (by decide)

end DroidCam.Loopback
