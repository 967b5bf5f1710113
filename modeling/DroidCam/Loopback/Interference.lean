import DroidCam.Loopback.Geometry
import DroidCam.Loopback.Capture

/-
  DroidCam/Loopback/Interference.lean
  ===================================
  What REQBUFS on one handle does to a handle that streams.

  The buffers belong to the device, not to a handle, and REQBUFS runs
  `init_buffers` before it looks at its arguments: every flag and every sequence
  number is cleared, also by a request that is refused.  Only a handle for the
  timeout image returns before that.  So the other handle is left alone exactly
  when it has nothing to lose.
-/

namespace DroidCam.Loopback

open CArith ByteMemory LabelledRun

/-! ### What a streaming handle relies on

A handle in the middle of a stream counts on the flags of its mapped buffers, and on a
capture that it could make now. -/

/-- A buffer that can be mapped; `none` is the one of the timeout image. -/
def Device.mappable (d : Device) : Option Nat → V4l2Buffer
  | none => d.timeoutImageBuffer
  | some i => d.buffers i

/-- In the run `calls` the handle has mapped a buffer, and has not been closed since. -/
def HasMapped (cfg : Config) (calls : List Call) (file : Nat) (b : Option Nat) : Prop :=
  ∃ as bs s t pgoff size mem inserted start len,
    calls = as ++ [.request file (.mmap pgoff size mem inserted)] ++ bs ∧
    .closeDevice file ∉ bs ∧ Run (Step cfg) (Driver.init cfg) as s ∧
    driverStep cfg s (.request file (.mmap pgoff size mem inserted)) =
      .ok (.mapped b start len, t)

/-- A CAPTURE DQBUF gives the handle a mapped buffer. -/
def dequeuesMapped (w : Waiting) (d : Device) (o : Opener) : Bool :=
  match vidiocDqbuf w d o .videoCapture with
  | .ok (.buffer b, _, _) => b.flags.mapped
  | _ => false

/-- A step on another handle leaves untouched what a streaming handle relies on;
    `mine` are the buffers it has mapped. -/
structure Undisturbed (mine : Option Nat → Prop) (o : Opener) (d d' : Device) : Prop where
  mapped : ∀ b, mine b → (d.mappable b).flags.mapped = true →
    (d'.mappable b).flags.mapped = true
  queue : ∀ b, mine b → (d'.mappable b).flags.queued = (d.mappable b).flags.queued ∧
    (d'.mappable b).flags.done = (d.mappable b).flags.done
  sequence : ∀ b, mine b → (d'.mappable b).sequence = (d.mappable b).sequence
  dequeues : ∀ w, dequeuesMapped w d o = true → dequeuesMapped w d' o = true

/-! ### What it has to lose

`init_buffers` clears every buffer, so a handle is disturbed unless it had nothing
there. -/

/-- The buffer at the handle's next position is mapped, and a timeout that is
    pending can be copied to it. -/
def NextMapped (d : Device) (o : Opener) : Prop :=
  if o.timeoutImageIo then d.timeoutImageBuffer.flags.mapped = true
  else ∃ pos, ringSlot (nextPosition d o).1 d.ring.usedBuffers = .ok pos ∧
    (d.buffers (d.ring.bufpos2index pos)).flags.mapped = true ∧
    (d.timeoutHappened = true → d.timeoutImage.isSome = true ∧ d.image.isSome = true)

/-- No flag of the handle's buffers is set, none has a sequence number, and the
    next capture finds no mapped buffer. -/
structure NothingAtStake (mine : Option Nat → Prop) (o : Opener) (d : Device) : Prop where
  flags : ∀ b, mine b → (d.mappable b).flags = {}
  sequence : ∀ b, mine b → (d.mappable b).sequence = 0
  next : ¬NextMapped d o

/-- Copying the timeout image needs both images. -/
theorem copyTimeoutImage_ok {d : Device} {i : Nat} (hi : i < MAX_BUFFERS)
    (hsize : 0 < d.bufferSize) :
    (∃ e, copyTimeoutImage d i = .ok e ∧ e.buffers = d.buffers) ↔
      d.timeoutImage.isSome = true ∧ d.image.isSome = true := by
  have harray : arrayIndex i = .ok i := by
    rw [arrayIndex, if_pos (by omega), Int.toNat_natCast]
  simp only [copyTimeoutImage, harray, bind, Except.bind]
  cases htimeout : d.timeoutImage with
  | none => simp [load, Nat.ne_of_gt hsize]
  | some m =>
      cases himage : d.image with
      | none =>
          have hbytes : read m 0 d.bufferSize ≠ [] := by
            apply List.ne_nil_of_length_pos
            rw [length_read]
            exact hsize
          simp [load, store, hbytes]
      | some m' => simp [load, store]

theorem Device.captured_buffers (d : Device) : d.captured.buffers = d.buffers := by
  show d.checkTimers.buffers = d.buffers
  unfold Device.checkTimers
  split <;> rfl

/-- What a capture needs to get a buffer. -/
structure Capturable (w : Waiting) (d : Device) (o : Opener) (pos : Nat) : Prop where
  go : readable d o = true ∨ w.nonblock = false ∧ w.signal = true
  slot : ringSlot (nextPosition d o).1 d.ring.usedBuffers = .ok pos
  images : d.timeoutHappened = true → d.timeoutImage.isSome = true ∧ d.image.isSome = true

theorem RingValid.index_lt {d : Device} {o : Opener} {pos : Nat} (hd : RingValid d)
    (hpos : ringSlot (nextPosition d o).1 d.ring.usedBuffers = .ok pos) :
    d.ring.bufpos2index pos < MAX_BUFFERS :=
  Nat.lt_of_lt_of_le (hd.map pos (ringSlot_eq_ok hpos).2) (hd.number ▸ hd.le)

/-- A capture that comes back with a buffer had all of it. -/
theorem getCaptureBuffer_capturable {w : Waiting} {d d' : Device} {o o' : Opener} {ret : Int}
    (hd : RingValid d) (hsize : 0 < d.bufferSize) (hret : 0 ≤ ret)
    (h : getCaptureBuffer w d o = .ok (some ret, d', o')) :
    ∃ pos, Capturable w d o pos ∧ ret = d.ring.bufpos2index pos ∧ d'.buffers = d.buffers := by
  obtain ⟨c, hc, h⟩ := bind_eq_ok.mp h
  cases captureIndex_move hc with
  | again =>
      cases h
      exact absurd hret (by decide)
  | asleep => cases h
  | index pos hgo hpos =>
      have hindex := hd.index_lt hpos
      have hcopy := copyTimeoutImage_ok (d := d.captured) hindex
        (d.captured_frame.bufferSize ▸ hsize)
      rw [d.captured_timeoutImage, d.captured_image, d.captured_buffers] at hcopy
      simp only at h
      -- a pending timeout copies its image to the slot, and then there has to be one
      split at h
      · obtain ⟨e, he, h⟩ := bind_eq_ok.mp h
        cases h
        have hbuffers : d'.buffers = d.captured.buffers := by
          obtain ⟨i, -, he⟩ := bind_eq_ok.mp he
          obtain ⟨bytes, -, he⟩ := bind_eq_ok.mp he
          obtain ⟨image, -, he⟩ := bind_eq_ok.mp he
          cases he
          rfl
        rw [d.captured_buffers] at hbuffers
        exact ⟨pos, ⟨hgo, hpos, fun _ => hcopy.mp ⟨d', he, hbuffers⟩⟩, rfl, hbuffers⟩
      · rename_i hhappened
        cases h
        exact ⟨pos, ⟨hgo, hpos, fun htrue => absurd htrue hhappened⟩, rfl, d.captured_buffers⟩

/-- With all of it a capture comes back with a buffer. -/
theorem Capturable.getCaptureBuffer {w : Waiting} {d : Device} {o : Opener} {pos : Nat}
    (hd : RingValid d) (hsize : 0 < d.bufferSize) (h : Capturable w d o pos) :
    ∃ d', getCaptureBuffer w d o =
        .ok (some (d.ring.bufpos2index pos), d', (nextPosition d o).2) ∧
      d'.buffers = d.buffers := by
  have hindex := captureIndex_go h.go
  rw [h.slot] at hindex
  cases hhappened : d.timeoutHappened with
  | false =>
      refine ⟨d.captured, bind_eq_ok.mpr ⟨_, hindex, ?_⟩, d.captured_buffers⟩
      simp only [hhappened, Bool.false_eq_true, if_false]
  | true =>
      have hcopy := copyTimeoutImage_ok (d := d.captured) (hd.index_lt h.slot)
        (d.captured_frame.bufferSize ▸ hsize)
      rw [d.captured_timeoutImage, d.captured_image, d.captured_buffers] at hcopy
      obtain ⟨e, he, hbuffers⟩ := hcopy.mpr (h.images hhappened)
      refine ⟨e, bind_eq_ok.mpr ⟨_, hindex, ?_⟩, hbuffers⟩
      simp only [hhappened, if_true]
      exact bind_eq_ok.mpr ⟨e, he, rfl⟩

theorem dequeuesMapped_timeoutImageIo {w : Waiting} {d : Device} {o : Opener}
    (hio : o.timeoutImageIo = true) :
    dequeuesMapped w d o = d.timeoutImageBuffer.flags.mapped := by
  rw [dequeuesMapped, vidiocDqbuf, if_pos hio]

theorem dequeuesMapped_iff {w : Waiting} {d : Device} {o : Opener} (hd : RingValid d)
    (hsize : 0 < d.bufferSize) (hio : o.timeoutImageIo = false) :
    dequeuesMapped w d o = true ↔ ∃ pos, Capturable w d o pos ∧
      (d.buffers (d.ring.bufpos2index pos)).flags.mapped = true := by
  have hnot : ¬o.timeoutImageIo = true := by simp [hio]
  constructor
  · intro h
    unfold dequeuesMapped at h
    split at h
    · rename_i b d' o' hdqbuf
      rw [vidiocDqbuf, if_neg hnot] at hdqbuf
      obtain ⟨⟨ret, e, oe⟩, hcapture, hdqbuf⟩ := bind_eq_ok.mp hdqbuf
      cases ret with
      | none => cases hdqbuf
      | some index =>
          simp only at hdqbuf
          split at hdqbuf
          · cases hdqbuf
          · rename_i hneg
            obtain ⟨pos, hpos, hindex, hbuffers⟩ :=
              getCaptureBuffer_capturable hd hsize (Int.not_lt.mp hneg) hcapture
            have harray : arrayIndex index = .ok (d.ring.bufpos2index pos) := by
              have hlt := hd.index_lt hpos.slot
              rw [hindex, arrayIndex, if_pos (by omega), Int.toNat_natCast]
            obtain ⟨i, hi, hdqbuf⟩ := bind_eq_ok.mp hdqbuf
            obtain rfl : d.ring.bufpos2index pos = i := Except.ok.inj (harray.symm.trans hi)
            rw [hbuffers] at hdqbuf
            refine ⟨pos, hpos, ?_⟩
            split at hdqbuf
            · assumption
            · cases hdqbuf
    · cases h
  · rintro ⟨pos, hpos, hmapped⟩
    obtain ⟨e, hcapture, hbuffers⟩ := hpos.getCaptureBuffer hd hsize
    have harray : arrayIndex (d.ring.bufpos2index pos) = .ok (d.ring.bufpos2index pos) := by
      have hlt := hd.index_lt hpos.slot
      rw [arrayIndex, if_pos (by omega), Int.toNat_natCast]
    have hnonneg : ¬((d.ring.bufpos2index pos : Nat) : Int) < 0 := by omega
    have hdqbuf : vidiocDqbuf w d o .videoCapture =
        .ok (.buffer (unsetFlags (e.buffers (d.ring.bufpos2index pos))),
          e.updateBuffer (d.ring.bufpos2index pos) unsetFlags, (nextPosition d o).2) := by
      rw [vidiocDqbuf, if_neg hnot]
      refine bind_eq_ok.mpr ⟨_, hcapture, ?_⟩
      simp only [if_neg hnonneg]
      refine bind_eq_ok.mpr ⟨_, harray, ?_⟩
      rw [hbuffers, if_pos hmapped]
    rw [dequeuesMapped, hdqbuf, hbuffers]
    exact hmapped

/-- Some way of waiting gives the handle a mapped buffer. -/
theorem exists_dequeuesMapped_iff {d : Device} {o : Opener} (hd : RingValid d)
    (hsize : 0 < d.bufferSize) :
    (∃ w, dequeuesMapped w d o = true) ↔ NextMapped d o := by
  unfold NextMapped
  cases hio : o.timeoutImageIo with
  | true =>
      simp only [dequeuesMapped_timeoutImageIo hio, if_true]
      exact ⟨fun ⟨_, h⟩ => h, fun h => ⟨⟨true, false⟩, h⟩⟩
  | false =>
      simp only [dequeuesMapped_iff hd hsize hio, Bool.false_eq_true, if_false]
      constructor
      · rintro ⟨w, pos, hpos, hmapped⟩
        exact ⟨pos, hpos.slot, hmapped, hpos.images⟩
      · rintro ⟨pos, hslot, hmapped, himages⟩
        -- a wait that a signal ends goes on with the capture
        exact ⟨⟨false, true⟩, pos, ⟨Or.inr ⟨rfl, rfl⟩, hslot, himages⟩, hmapped⟩

/-! ### REQBUFS

The buffers are initialised before the request is looked at, so even a refused one
clears them. -/

/-- The buffers after REQBUFS: those of before for a handle of the timeout image,
    those of `init_buffers` otherwise. -/
theorem ReqbufsMove.mappable {d d' : Device} {o o' : Opener} {memory : MemoryType} {count : Nat}
    (h : ReqbufsMove d o memory count d' o') :
    o.timeoutImageIo = true ∧ d' = d ∨
      o.timeoutImageIo = false ∧ d'.mappable = d.initBuffers.mappable := by
  cases h with
  | timeoutImage hio => exact Or.inl ⟨hio, rfl⟩
  | renumbered hio => exact Or.inr ⟨hio, rfl⟩
  | granted hio =>
      refine Or.inr ⟨hio, ?_⟩
      obtain ⟨ring, hgrant, -⟩ := grantBuffers_eq d.initBuffers (min count d.ring.buffersNumber)
      rw [hgrant]
      rfl

/-- `init_buffers` leaves no flag and no sequence number. -/
theorem initBuffers_mappable {d : Device} (hnumber : d.ring.buffersNumber = MAX_BUFFERS)
    {b : Option Nat} (hb : ∀ i, b = some i → i < MAX_BUFFERS) :
    (d.initBuffers.mappable b).flags = {} ∧ (d.initBuffers.mappable b).sequence = 0 := by
  have hbuffer : ∀ i < MAX_BUFFERS, d.initBuffers.buffers i = d.initialBuffer i := by
    intro i hi
    simp only [Device.initBuffers, hnumber, hi, if_true]
  cases b with
  | none =>
      have hfirst := hbuffer 0 (by decide)
      have htimeout : d.initBuffers.timeoutImageBuffer = { d.initBuffers.buffers 0 with
          offset := toUInt32 (toInt32 (MAX_BUFFERS * toInt32 d.bufferSize)) } := rfl
      rw [Device.mappable, htimeout, hfirst]
      exact ⟨rfl, rfl⟩
  | some i =>
      rw [Device.mappable, hbuffer i (hb i rfl)]
      exact ⟨rfl, rfl⟩

/-- The buffer that is mapped is one of the device. -/
theorem v4l2LoopbackMmap_lt {mem : Allocation} {inserted : Bool} {d : Device} {o : Opener}
    {pgoff size i start len : Nat}
    (h : (v4l2LoopbackMmap mem inserted d o pgoff size).1 = .mapped (some i) start len) :
    i < d.ring.buffersNumber := by
  have halloc : (if d.image.isNone then d.allocateBuffers mem else (0, d)).2.ring = d.ring := by
    split
    · exact (d.allocateBuffers_same mem).ring
    · rfl
  simp only [v4l2LoopbackMmap] at h
  generalize (if d.image.isNone then d.allocateBuffers mem else (0, d)) = e at halloc h
  split at h
  · cases h
  split at h
  · cases h
  split at h
  · cases h
  split at h
  · cases h
  split at h
  · split at h <;> cases h
  split at h
  · cases h
  · rename_i j hbuffer
    split at h
    · cases h
    · cases h
      have hrange : i ∈ List.range e.2.ring.buffersNumber := by
        simp only [mmapBuffer, Option.or_eq_some_iff] at hbuffer
        rcases hbuffer with hfound | ⟨-, hlast⟩
        · exact List.mem_of_find?_eq_some hfound
        · exact List.mem_of_getLast? hlast
      rw [halloc] at hrange
      exact List.mem_range.mp hrange

theorem HasMapped.lt {cfg : Config} {calls : List Call} {file : Nat} {b : Option Nat}
    (h : HasMapped cfg calls file b) {i : Nat} (hi : b = some i) : i < MAX_BUFFERS := by
  obtain ⟨as, bs, s, t, pgoff, size, mem, inserted, start, len, -, -, hrun, hstep⟩ := h
  subst hi
  simp only [driverStep] at hstep
  split at hstep
  · cases hstep
  · rename_i o hfile
    simp only [request, Except.ok.injEq, Prod.mk.injEq] at hstep
    have hlt := v4l2LoopbackMmap_lt hstep.1
    rwa [(RingInv.run hrun).number] at hlt

/-- A step that clears all buffers disturbs a handle that has something to lose. -/
theorem undisturbed_iff_of_cleared {mine : Option Nat → Prop} {o : Opener} {d d' : Device}
    (hcleared : ∀ b, mine b → (d'.mappable b).flags = {} ∧ (d'.mappable b).sequence = 0)
    (hbefore : (∃ w, dequeuesMapped w d o = true) ↔ NextMapped d o)
    (hafter : ∀ w, ¬dequeuesMapped w d' o = true) :
    Undisturbed mine o d d' ↔ NothingAtStake mine o d := by
  constructor
  · intro h
    constructor
    · intro b hb
      have hmapped := h.mapped b hb
      have hqueue := h.queue b hb
      rw [(hcleared b hb).1] at hmapped hqueue
      cases hvalue : (d.mappable b).flags with
      | mk mapped queued done =>
          rw [hvalue] at hmapped hqueue
          obtain ⟨rfl, rfl⟩ : false = queued ∧ false = done := hqueue
          cases mapped with
          | false => rfl
          | true => exact absurd (hmapped rfl) (by simp)
    · intro b hb
      rw [← h.sequence b hb]
      exact (hcleared b hb).2
    · intro hnext
      obtain ⟨w, hw⟩ := hbefore.mpr hnext
      exact hafter w (h.dequeues w hw)
  · intro h
    constructor
    · intro b hb hmapped
      rw [h.flags b hb] at hmapped
      cases hmapped
    · intro b hb
      rw [(hcleared b hb).1, h.flags b hb]
      -- nothing was set before, so clearing changes nothing
      exact ⟨rfl, rfl⟩
    · intro b hb
      rw [(hcleared b hb).2, h.sequence b hb]
    · intro w hw
      exact absurd (hbefore.mp ⟨w, hw⟩) h.next

/-- No capture finds a mapped buffer among cleared ones. -/
theorem not_nextMapped_of_cleared {d : Device} {o : Opener} (hd : RingValid d)
    (hcleared : ∀ b, (∀ i, b = some i → i < MAX_BUFFERS) → (d.mappable b).flags = {}) :
    ¬NextMapped d o := by
  unfold NextMapped
  split
  · have htimeout : d.timeoutImageBuffer.flags = {} := hcleared none fun i hi => by cases hi
    rw [htimeout]
    simp
  · rintro ⟨pos, hpos, hmapped, -⟩
    have hlt := hd.index_lt hpos
    have hbuffer : (d.buffers (d.ring.bufpos2index pos)).flags = {} :=
      hcleared (some _) fun i hi => Option.some.inj hi ▸ hlt
    rw [hbuffer] at hmapped
    cases hmapped

/-- **When REQBUFS leaves another handle alone**, for every reachable state, every
    other handle and every argument. -/
theorem reqbufs_undisturbed_iff {cfg : Config} {s t : Driver} {calls : List Call}
    {fileA fileB : Nat} {a b : Opener} {memory : MemoryType} {count : Nat}
    (h : Run (Step cfg) (Driver.init cfg) calls s) (hA : s.openers.lookup fileA = some a)
    (hB : s.openers.lookup fileB = some b) (hne : fileA ≠ fileB)
    (hstep : Step cfg s (.request fileB (.reqbufs memory count)) t) :
    Undisturbed (HasMapped cfg calls fileA) a s.dev t.dev ↔
      b.timeoutImageIo = true ∨ NothingAtStake (HasMapped cfg calls fileA) a s.dev := by
  obtain ⟨hs, hd⟩ := Framed.run h
  have hring := RingInv.run h
  have hring' := hring.step hstep
  have hbefore := exists_dequeuesMapped_iff (o := a) hring.toRingValid (hd.bufferSize_pos hs hA)
  have hA' : t.openers.lookup fileA = some a := by
    cases hstep.move with
    | request hfile hreq =>
        rw [Driver.afterRequest, AList.lookup_insert_ne hne]
        exact hA
  have hafter := exists_dequeuesMapped_iff (o := a) hring'.toRingValid
    ((hd.step hs hstep).bufferSize_pos (hs.step hstep) hA')
  have hbuffers : b.timeoutImageIo = true ∧ t.dev = s.dev ∨
      b.timeoutImageIo = false ∧ t.dev.mappable = s.dev.initBuffers.mappable := by
    cases hstep.move with
    | request hfile hreq =>
        obtain rfl := Option.some.inj (hB.symm.trans hfile)
        exact (vidiocReqbufs_move (Except.ok.inj hreq)).mappable
  -- a handle of the timeout image leaves the buffers alone
  rcases hbuffers with ⟨hio, hsame⟩ | ⟨hio, hinit⟩
  · rw [hsame]
    refine ⟨fun _ => Or.inl hio, fun _ => ?_⟩
    exact ⟨fun _ _ => id, fun _ _ => ⟨rfl, rfl⟩, fun _ _ => rfl, fun _ => id⟩
  · have hcleared : ∀ b, (∀ i, b = some i → i < MAX_BUFFERS) →
        (t.dev.mappable b).flags = {} ∧ (t.dev.mappable b).sequence = 0 := by
      intro b hb
      rw [hinit]
      exact initBuffers_mappable hring.number hb
    have hnone := not_nextMapped_of_cleared (o := a) hring'.toRingValid fun b hb =>
      (hcleared b hb).1
    rw [undisturbed_iff_of_cleared (fun b hb => hcleared b fun i hi => hb.lt hi) hbefore
      fun w hw => hnone (hafter.mp ⟨w, hw⟩)]
    simp [hio]

/-- A handle for the timeout image asks for buffers while another one streams. -/
theorem reqbufs_undisturbed_iff_timeout :
    ∃ s t a, Run (Step ⟨640, 480, 100⟩) (Driver.init ⟨640, 480, 100⟩)
        [.openDevice 1 granting true, .request 1 (.reqbufs .mmap 4),
          .request 1 (.mmap 0 4096 granting true),
          .request 1 (.sCtrl .timeoutImageIo 1 granting), .openDevice 2 granting true,
          .request 1 (.write [7] granting none)] s ∧
      Step ⟨640, 480, 100⟩ s (.request 2 (.reqbufs .mmap 0)) t ∧
      dequeuesMapped ⟨false, false⟩ s.dev a = true ∧
      Undisturbed (HasMapped ⟨640, 480, 100⟩
        [.openDevice 1 granting true, .request 1 (.reqbufs .mmap 4),
          .request 1 (.mmap 0 4096 granting true),
          .request 1 (.sCtrl .timeoutImageIo 1 granting), .openDevice 2 granting true,
          .request 1 (.write [7] granting none)] 1) a s.dev t.dev := by
  obtain ⟨s, hs, hvalues⟩ := Option.map_eq_some_iff.mp (by decide +kernel :
    (execute (next ⟨640, 480, 100⟩) (Driver.init ⟨640, 480, 100⟩)
      [.openDevice 1 granting true, .request 1 (.reqbufs .mmap 4),
        .request 1 (.mmap 0 4096 granting true),
        .request 1 (.sCtrl .timeoutImageIo 1 granting), .openDevice 2 granting true,
        .request 1 (.write [7] granting none)]).map
      (fun s => ((s.openers.lookup 1).map (dequeuesMapped ⟨false, false⟩ s.dev),
        (s.openers.lookup 2).map Opener.timeoutImageIo,
        (next ⟨640, 480, 100⟩ s (.request 2 (.reqbufs .mmap 0))).isSome)) =
      some (some true, some true, true))
  simp only [Prod.mk.injEq] at hvalues
  obtain ⟨hdequeues, htimeout, henabled⟩ := hvalues
  obtain ⟨a, hA, ha⟩ := Option.map_eq_some_iff.mp hdequeues
  obtain ⟨b, hB, hb⟩ := Option.map_eq_some_iff.mp htimeout
  obtain ⟨t, ht⟩ := Option.isSome_iff_exists.mp henabled
  have hrun := Run.of_execute hs
  exact ⟨s, t, a, hrun, ht, ha,
    (reqbufs_undisturbed_iff hrun hA hB (by decide) ht).mpr (Or.inl hb)⟩

/-- A refused request of another handle takes the mapped buffer of the next frame
    away. -/
theorem reqbufs_interferes :
    ¬ ∀ (cfg : Config) (s t : Driver) calls (fileA fileB : Nat) (a b : Opener)
        (memory : MemoryType) (count : Nat),
      Run (Step cfg) (Driver.init cfg) calls s → s.openers.lookup fileA = some a →
        s.openers.lookup fileB = some b → fileA ≠ fileB →
          Step cfg s (.request fileB (.reqbufs memory count)) t →
            Undisturbed (HasMapped cfg calls fileA) a s.dev t.dev := by
  intro h
  obtain ⟨s, hs, hvalues⟩ := Option.map_eq_some_iff.mp (by decide +kernel :
    (execute (next ⟨640, 480, 100⟩) (Driver.init ⟨640, 480, 100⟩)
      [.openDevice 1 granting true, .openDevice 2 granting true,
        .request 1 (.reqbufs .mmap 4), .request 1 (.mmap 0 4096 granting true),
        .request 2 (.write [7] granting none)]).map
      (fun s => ((s.openers.lookup 1).map (dequeuesMapped ⟨false, false⟩ s.dev),
        (s.openers.lookup 2).isSome,
        (next ⟨640, 480, 100⟩ s (.request 2 (.reqbufs (.other 2) 0))).map fun t =>
          (s.openers.lookup 1).map (dequeuesMapped ⟨false, false⟩ t.dev))) =
      some (some true, true, some (some false)))
  simp only [Prod.mk.injEq] at hvalues
  obtain ⟨hdequeues, hother, hrefused⟩ := hvalues
  obtain ⟨a, hA, ha⟩ := Option.map_eq_some_iff.mp hdequeues
  obtain ⟨b, hB⟩ := Option.isSome_iff_exists.mp hother
  obtain ⟨t, ht, hlost⟩ := Option.map_eq_some_iff.mp hrefused
  rw [hA, Option.map_some, Option.some.injEq] at hlost
  have hun := h _ s t _ 1 2 a b _ _ (Run.of_execute hs) hA hB (by decide) ht
  exact absurd (hun.dequeues _ ha) (by simp [hlost])

end DroidCam.Loopback
