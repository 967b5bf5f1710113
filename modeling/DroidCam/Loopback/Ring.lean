import DroidCam.Loopback.Faults
import DroidCam.Lib.CyclicFill
import Mathlib.Tactic.IntervalCases

/-
  DroidCam/Loopback/Ring.lean
  ===========================
  The invariant of the buffer ring.

  `outbufs_list` is a permutation of the buffers in use, and every position of
  the ring is mapped to one of them, also after REQBUFS has shrunk it in place:
  the buffers that stay are listed once each, and remapping them from
  `write_position` on reaches every position of the smaller ring.
-/

namespace DroidCam.Loopback

open CArith ByteMemory LabelledRun

/-- **The ring representation.** -/
structure RingValid (d : Device) : Prop where
  number : d.ring.buffersNumber = MAX_BUFFERS
  pos : 1 ≤ d.ring.usedBuffers
  le : d.ring.usedBuffers ≤ d.ring.buffersNumber
  list : d.ring.outbufsList.Perm (List.range d.ring.usedBuffers)
  map : ∀ i < d.ring.usedBuffers, d.ring.bufpos2index i < d.ring.usedBuffers

/-- The ring representation with what keeps it: a buffer never has a number above
    its own, and `write_position` has not run on after wrapping around. -/
structure RingInv (d : Device) : Prop extends RingValid d where
  index : ∀ i, (d.buffers i).index ≤ i
  range : -2147483648 ≤ d.writePosition ∧ d.writePosition < 2147483648
  wrap : d.ring.usedBuffers = 1 ∨ 0 ≤ d.writePosition ∨ d.writePosition ≤ -2147483647
  count : d.framesWritten < 2147483648 → 0 ≤ d.writePosition ∧ d.writePosition ≤ d.framesWritten

theorem RingInv.init (cfg : Config) : RingInv (Device.init cfg) where
  number := rfl
  pos := show 1 ≤ MAX_BUFFERS by decide
  le := Nat.le_refl _
  list := List.Perm.refl _
  map := fun i _ => show 0 < MAX_BUFFERS by decide
  index := fun i => Nat.zero_le i
  range := show (-2147483648 : Int) ≤ 0 ∧ (0 : Int) < 2147483648 by decide
  wrap := Or.inr (Or.inl (Int.le_refl 0))
  count := fun _ => ⟨Int.le_refl 0, Int.le_refl 0⟩

/-! ### Positions

A position that has wrapped around is negative, and so is its remainder unless the ring
divides it; in a ring of more than one buffer at most one more frame is written. -/

theorem ringSlot_of_nonneg {x : Int} {used : Nat} (hx : 0 ≤ x) (hpos : 1 ≤ used)
    (hle : used ≤ MAX_BUFFERS) : ringSlot x used = .ok (x.toNat % used) := by
  obtain ⟨n, rfl⟩ := Int.eq_ofNat_of_zero_le hx
  have hlt : n % used < used := Nat.mod_lt n hpos
  rw [ringSlot, if_neg (by omega), tmod_natCast, arrayIndex, if_pos (by omega), Int.toNat_natCast,
    Int.toNat_natCast]

/-- After a frame was written `write_position` is not deep in the negatives. -/
theorem wrap_step {used : Nat} {x : Int} (hpos : 1 ≤ used) (hle : used ≤ MAX_BUFFERS)
    (hrange : -2147483648 ≤ x ∧ x < 2147483648)
    (hwrap : used = 1 ∨ 0 ≤ x ∨ x ≤ -2147483647) (hslot : 0 ≤ x.tmod used) :
    used = 1 ∨ 0 ≤ toInt32 (x + 1) ∨ toInt32 (x + 1) ≤ -2147483647 := by
  rcases hwrap with hone | hnonneg | hlow
  · exact Or.inl hone
  · right
    by_cases hfits : x + 1 < 2147483648
    · left
      rw [toInt32_of_fits (by omega) hfits]
      omega
    · right
      rw [toInt32_of_wraps (by omega) (by omega)]
      omega
  · rcases tmod_nonneg_iff.mp hslot with hx | hdvd
    · omega
    · have hx : x = -2147483648 ∨ x = -2147483647 := by omega
      rcases hx with rfl | rfl
      · exact Or.inr (Or.inr (by decide))
      · left
        interval_cases used <;> omega

/-! ### Shrinking

The remapping loop walks over the kept buffers in their order, starting at the write
position, and leaves every position on one of them. -/

theorem RingValid.mem_list {d : Device} (hd : RingValid d) {i : Nat} :
    i ∈ d.ring.outbufsList ↔ i < d.ring.usedBuffers :=
  hd.list.mem_iff.trans List.mem_range

theorem RingValid.list_ne_nil {d : Device} (hd : RingValid d) : d.ring.outbufsList ≠ [] :=
  List.ne_nil_of_mem (hd.mem_list.mpr hd.pos)

/-- While no position wraps around, the remapping loop fills the smaller ring. -/
theorem remap_eq_fill {count : Nat} {xs : List Nat} :
    ∀ {i : Int} {map : Nat → Nat}, (toUInt32 i).toNat + xs.length < 4294967296 →
      remap count i xs map = CyclicFill.fill count (toUInt32 i).toNat xs map := by
  induction xs with
  | nil => intro i map _; rfl
  | cons x xs ih =>
      intro i map h
      simp only [List.length_cons] at h
      have hsucc : (toUInt32 (toInt32 (i + 1))).toNat = (toUInt32 i).toNat + 1 := by
        rw [toUInt32_toInt32]
        unfold toUInt32 at h ⊢
        omega
      rw [remap, CyclicFill.fill, ih (by omega), hsucc]

/-- What REQBUFS does to the ring it shrinks. -/
theorem grantBuffers_ring {d : Device} {count : Nat} (hd : RingValid d)
    (hshrink : count < d.ring.usedBuffers) :
    (grantBuffers d.initBuffers count).ring = { d.ring with
      outbufsList := d.ring.outbufsList.filter fun i => i < count
      bufpos2index := remap count d.writePosition
        (d.ring.outbufsList.filter fun i => i < count) d.ring.bufpos2index
      usedBuffers := count } := by
  have hne := hd.list_ne_nil
  have hindex : ∀ i ∈ d.ring.outbufsList, (d.initBuffers.buffers i).index = i := by
    intro i hi
    have hlt : i < d.ring.usedBuffers := List.mem_range.mp (hd.list.mem_iff.mp hi)
    have hnumber : i < d.ring.buffersNumber := Nat.lt_of_lt_of_le hlt hd.le
    simp [Device.initBuffers, Device.initialBuffer, hnumber]
  have hkept : (d.ring.outbufsList.filter fun i => (d.initBuffers.buffers i).index < count) =
      d.ring.outbufsList.filter fun i => i < count :=
    List.filter_congr fun i hi => by rw [hindex i hi]
  have hmap : (d.ring.outbufsList.filter fun i => decide (i < count)).map
      (fun i => (d.initBuffers.buffers i).index) =
        d.ring.outbufsList.filter fun i => decide (i < count) := by
    conv_rhs => rw [← List.map_id (d.ring.outbufsList.filter fun i => decide (i < count))]
    exact List.map_congr_left fun i hi => hindex i (List.mem_filter.mp hi).1
  have hring : d.initBuffers.ring = d.ring := rfl
  have hwp : d.initBuffers.writePosition = d.writePosition := rfl
  simp only [grantBuffers, hring, hwp, if_neg hne, if_pos hshrink, hkept, hmap]

/-- A grant that does not shrink the ring leaves it alone. -/
theorem grantBuffers_ring_of_le {d : Device} {count : Nat} (hd : RingValid d)
    (hle : d.ring.usedBuffers ≤ count) : (grantBuffers d.initBuffers count).ring = d.ring := by
  have hne := hd.list_ne_nil
  have hring : d.initBuffers.ring = d.ring := rfl
  simp only [grantBuffers, hring, if_neg hne, if_neg (Nat.not_lt.mpr hle)]

theorem grantBuffers_buffers (d : Device) (count : Nat) :
    (grantBuffers d count).buffers = d.buffers := by
  obtain ⟨ring, hgrant, -⟩ := grantBuffers_eq d count
  rw [hgrant]

/-! ### Preservation

An `init_buffers` may number the buffers anew, a frame moves one of them to the tail,
and the last close starts the positions again. -/

theorem RingInv.same {d d' : Device} (hd : RingInv d) (h : SameRing d d') : RingInv d' where
  number := h.ring ▸ hd.number
  pos := h.ring ▸ hd.pos
  le := h.ring ▸ hd.le
  list := h.ring ▸ hd.list
  map := h.ring ▸ hd.map
  index := by
    intro i
    rcases h.index i with hi | hi
    · rw [hi]
      exact hd.index i
    · exact Nat.le_of_eq hi
  range := h.writePosition ▸ hd.range
  wrap := by
    rw [h.ring, h.writePosition]
    exact hd.wrap
  count := by
    rw [h.framesWritten, h.writePosition]
    exact hd.count

theorem Renumbered.index_le {d d' : Device} (h : Renumbered d d')
    (hd : ∀ i, (d.buffers i).index ≤ i) (i : Nat) : (d'.buffers i).index ≤ i := by
  rcases h i with hi | hi
  · rw [hi]
    exact hd i
  · exact Nat.le_of_eq hi

/-- The ring that REQBUFS shrinks is filled again from `write_position` on. -/
theorem RingInv.shrunk_ring {d : Device} {count : Nat} (hd : RingInv d) (hcount : 1 ≤ count)
    (hshrink : count < d.ring.usedBuffers) :
    (d.ring.outbufsList.filter fun i => i < count).length = count ∧
      (grantBuffers d.initBuffers count).ring = { d.ring with
        outbufsList := d.ring.outbufsList.filter fun i => i < count
        bufpos2index := CyclicFill.fill count (toUInt32 d.writePosition).toNat
          (d.ring.outbufsList.filter fun i => i < count) d.ring.bufpos2index
        usedBuffers := count } := by
  have hlen := (Recency.filter_lt_perm_range hd.list (Nat.le_of_lt hshrink)).length_eq
  rw [List.length_range] at hlen
  have hsmall : d.ring.usedBuffers ≤ 16 := hd.le.trans (Nat.le_of_eq hd.number)
  have hbound : (toUInt32 d.writePosition).toNat +
      (d.ring.outbufsList.filter fun i => i < count).length < 4294967296 := by
    have hrange := hd.range
    have hwrap : 0 ≤ d.writePosition ∨ d.writePosition ≤ -2147483647 :=
      hd.wrap.resolve_left (by omega)
    rw [hlen]
    unfold toUInt32
    omega
  refine ⟨hlen, ?_⟩
  rw [grantBuffers_ring hd.toRingValid hshrink, remap_eq_fill hbound]

theorem RingInv.granted {d : Device} {count : Nat} (hd : RingInv d) (hcount : 1 ≤ count)
    (hle : count ≤ d.ring.buffersNumber) : RingInv (grantBuffers d.initBuffers count) := by
  have hbuffers := grantBuffers_buffers d.initBuffers count
  obtain ⟨hposition, hframes⟩ : (grantBuffers d.initBuffers count).writePosition =
      d.writePosition ∧ (grantBuffers d.initBuffers count).framesWritten = d.framesWritten :=
    grantBuffers_counters d.initBuffers count
  have hindex : ∀ i, ((grantBuffers d.initBuffers count).buffers i).index ≤ i := by
    intro i
    rw [hbuffers]
    exact (hd.same d.initBuffers_same).index i
  -- a smaller ring is filled from the list; one that is not smaller is the ring as it
  -- was
  by_cases hshrink : count < d.ring.usedBuffers
  · have hkept := Recency.filter_lt_perm_range hd.list (Nat.le_of_lt hshrink)
    obtain ⟨hlen, hring⟩ := hd.shrunk_ring hcount hshrink
    refine ⟨⟨?_, ?_, ?_, ?_, ?_⟩, hindex, ?_, ?_, ?_⟩
    · rw [hring]
      exact hd.number
    · rw [hring]
      exact hcount
    · rw [hring]
      exact hle
    · rw [hring]
      exact hkept
    · rw [hring]
      intro p hp
      have hmem := CyclicFill.fill_mem (toUInt32 d.writePosition).toNat d.ring.bufpos2index hlen hp
      exact of_decide_eq_true (List.mem_filter.mp hmem).2
    · rw [hposition]
      exact hd.range
    · rw [hposition]
      exact Or.inr (hd.wrap.resolve_left (by omega))
    · rw [hposition, hframes]
      exact hd.count
  · have hring := grantBuffers_ring_of_le hd.toRingValid (Nat.le_of_not_lt hshrink)
    exact hd.same ⟨hring, fun i => hbuffers ▸ d.initBuffers_same.index i, hposition, hframes⟩

/-- **A step keeps the ring representation.** -/
theorem RingMove.inv {d d' : Device} (hd : RingInv d) (h : RingMove d d') : RingInv d' := by
  cases h with
  | same h => exact hd.same h
  -- the last close: the position starts at 0 again
  | freed hring hindex hpos hframes hcount =>
      refine ⟨⟨hring ▸ hd.number, hring ▸ hd.pos, hring ▸ hd.le, hring ▸ hd.list, hring ▸ hd.map⟩,
        hindex.index_le hd.index, ?_, Or.inr (Or.inl (Int.le_of_eq hpos.symm)), ?_⟩
      · rw [hpos]
        decide
      · rw [hpos]
        intro _
        exact ⟨Int.le_refl 0, Int.natCast_nonneg _⟩
  -- the filled buffer is among those in use, and stays so at the tail
  | written buf pos index hslot hbuf hvalue hring hindex hpos hframes =>
      have hslot' := ringSlot_eq_ok hslot
      have hlt : buf < d.ring.usedBuffers := List.mem_range.mp (hd.list.mem_iff.mp hbuf)
      have hvalue' : index < d.ring.usedBuffers := by
        have := hd.index buf
        omega
      refine ⟨⟨?_, ?_, ?_, ?_, ?_⟩, hindex.index_le hd.index, ?_, ?_, ?_⟩
      · rw [hring]
        exact hd.number
      · rw [hring]
        exact hd.pos
      · rw [hring]
        exact hd.le
      · rw [hring]
        exact (Recency.moveToTail_perm hbuf).trans hd.list
      · rw [hring]
        intro i hi
        by_cases hip : i = pos
        · subst hip
          simpa using hvalue'
        · simpa [hip] using hd.map i hi
      · rw [hpos]
        exact ⟨toInt32_lower _, toInt32_upper _⟩
      · rw [hring, hpos]
        exact wrap_step hd.pos (hd.number ▸ hd.le) hd.range hd.wrap hslot'.1
      · intro hfew
        have hcount := hd.count (by omega)
        rw [hpos, hframes, toInt32_of_fits (by omega) (by omega)]
        omega
  | dequeued buf hbuf hring hindex hpos hframes =>
      refine ⟨⟨?_, ?_, ?_, ?_, ?_⟩, hindex.index_le hd.index, ?_, ?_, ?_⟩
      · rw [hring]
        exact hd.number
      · rw [hring]
        exact hd.pos
      · rw [hring]
        exact hd.le
      · rw [hring]
        exact (Recency.moveToTail_perm hbuf).trans hd.list
      · rw [hring]
        exact hd.map
      · rw [hpos]
        exact hd.range
      · rw [hring, hpos]
        exact hd.wrap
      · rw [hpos, hframes]
        exact hd.count
  | granted count hcount hle h => exact h ▸ hd.granted hcount hle

theorem RingInv.step {cfg : Config} {s t : Driver} {call : Call} (hs : RingInv s.dev)
    (h : Step cfg s call t) : RingInv t.dev := by
  have hnumber : 1 ≤ s.dev.ring.buffersNumber := by
    rw [hs.number]
    decide
  exact (h.move.ringMove hnumber).inv hs

theorem RingInv.run {cfg : Config} {s : Driver} {calls : List Call}
    (h : Run (Step cfg) (Driver.init cfg) calls s) : RingInv s.dev :=
  @Run.invariant _ _ _ (fun s => RingInv s.dev) _ _ _ (fun _ _ _ hs hstep => hs.step hstep)
    (RingInv.init cfg) h

/-! ### Faults -/

/-- The faults a broken ring would cause. -/
def Fault.ofRing : Fault → Bool
  | .remainderByZero | .listHead | .unlinkedEntry => true
  | _ => false

theorem RingValid.fault {d : Device} {f : Fault} (hd : RingValid d) (h : FaultCause d f) :
    f.ofRing = false := by
  cases h with
  | remainder hzero => exact absurd hzero (Nat.ne_of_gt hd.pos)
  | listHead hnil => exact absurd hnil hd.list_ne_nil
  | unlinked buf hused hmem => exact absurd (hd.mem_list.mpr hused) hmem
  | _ => rfl

/-- A frame in a buffer in use completes at any position that is not negative. -/
theorem RingValid.bufferWritten_ok {d : Device} (hd : RingValid d) (hnonneg : 0 ≤ d.writePosition)
    {buf : Nat} (hbuf : buf < d.ring.usedBuffers) : ∃ d', d.bufferWritten buf = .ok d' := by
  have hslot := ringSlot_of_nonneg hnonneg hd.pos (hd.number ▸ hd.le)
  have hmove : listMoveTail d.ring.outbufsList buf =
      .ok (Recency.moveToTail d.ring.outbufsList buf) := if_pos (hd.mem_list.mpr hbuf)
  exact ⟨d.frameDone buf _ _, bind_eq_ok.mpr ⟨_, hslot, bind_eq_ok.mpr ⟨_, hmove, rfl⟩⟩⟩

/-- **The ring is represented in every reachable state**: no call breaks it, none
    divides by `used_buffers = 0`, moves an unlinked entry or takes the list head
    for a buffer, and below `2^31` frames the next one completes. -/
theorem ring_represented {cfg : Config} {s : Driver} {calls : List Call}
    (h : Run (Step cfg) (Driver.init cfg) calls s) :
    RingValid s.dev ∧
      (∀ call f, driverStep cfg s call = .error (.fault f) → f.ofRing = false) ∧
      (s.dev.framesWritten < 2147483648 → ∀ buf < s.dev.ring.usedBuffers,
        ∃ d, s.dev.bufferWritten buf = .ok d) := by
  have hinv := RingInv.run h
  refine ⟨hinv.toRingValid, fun call f hfault => ?_, fun hfew buf hbuf =>
    hinv.toRingValid.bufferWritten_ok (hinv.count hfew).1 hbuf⟩
  obtain ⟨file, req, o, -, -, hreq⟩ := driverStep_fault hfault
  exact hinv.fault (request_fault hreq)

/-- An allocation that succeeds. -/
def granting : Allocation := ⟨some fun _ => 0, true⟩

/-- A writer takes four buffers, dequeues one, queues another and shrinks the ring
    to two. -/
theorem ring_represented_shrunk :
    ∃ s, Run (Step ⟨640, 480, 100⟩) (Driver.init ⟨640, 480, 100⟩)
        [.openDevice 1 granting true, .request 1 (.reqbufs .mmap 4),
          .request 1 (.dqbuf .videoOutput ⟨false, false⟩), .request 1 (.qbuf .videoOutput 2),
          .request 1 (.reqbufs .mmap 2)] s ∧
      (s.dev.ring.usedBuffers, s.dev.ring.outbufsList) = (2, [1, 0]) ∧ RingValid s.dev := by
  obtain ⟨s, hs, hvalues⟩ := Option.map_eq_some_iff.mp (by decide +kernel :
    (execute (next ⟨640, 480, 100⟩) (Driver.init ⟨640, 480, 100⟩)
      [.openDevice 1 granting true, .request 1 (.reqbufs .mmap 4),
        .request 1 (.dqbuf .videoOutput ⟨false, false⟩), .request 1 (.qbuf .videoOutput 2),
        .request 1 (.reqbufs .mmap 2)]).map
      (fun s => (s.dev.ring.usedBuffers, s.dev.ring.outbufsList)) = some (2, [1, 0]))
  have hrun := Run.of_execute hs
  exact ⟨s, hrun, hvalues, (ring_represented hrun).1⟩

end DroidCam.Loopback
