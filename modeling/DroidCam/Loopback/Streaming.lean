import DroidCam.Loopback.Sessions
import DroidCam.Loopback.Capture
import DroidCam.Lib.Broadcast

/-
  DroidCam/Loopback/Streaming.lean
  ================================
  The device while it only passes frames on: opens, closes, writes and blocking
  reads.

  `Streaming` ties it to the list of frames written since the device was free:
  `write_position` counts them, and the slots of the last two hold their bytes.
  A writer that fails halfway destroys a slot, but not one of these.
-/

namespace DroidCam.Loopback

open CArith ByteMemory LabelledRun

/-! ### A device without controls

Without controls the timers do nothing, so a run consists of opens, closes, reads and
writes alone. -/

/-- No timeout, no sustained frame rate, no format to keep. -/
structure Device.Quiet (d : Device) : Prop where
  timeoutJiffies : d.timeoutJiffies = 0
  timeoutHappened : d.timeoutHappened = false
  sustainFramerate : d.sustainFramerate = false
  rereadCount : d.rereadCount = 0
  keepFormat : d.keepFormat = false
  timeoutImageIo : d.timeoutImageIo = false

def Device.controls (d : Device) :=
  (d.timeoutJiffies, d.timeoutHappened, d.sustainFramerate, d.rereadCount, d.keepFormat,
    d.timeoutImageIo)

namespace Device.Quiet

variable {d : Device}

theorem checkTimers (h : d.Quiet) : d.checkTimers = d := by
  have htimeout : ¬(0 < d.timeoutJiffies ∧ d.timeoutTimer = none) := by simp [h.timeoutJiffies]
  have hsustain : ¬(d.sustainFramerate = true ∧ d.sustainTimer = none) := by
    simp [h.sustainFramerate]
  by_cases hready : d.readyForCapture = true
  · rw [Device.checkTimers, if_pos hready, if_neg htimeout, if_neg hsustain]
  · rw [Device.checkTimers, if_neg hready]

/-- A change that leaves the controls alone. -/
theorem same {e : Device} (h : d.Quiet) (he : e.controls = d.controls) : e.Quiet := by
  simp only [Device.controls, Prod.mk.injEq] at he
  obtain ⟨hjiffies, hhappened, hsustain, hreread, hkeep, hio⟩ := he
  exact ⟨hjiffies.trans h.timeoutJiffies, hhappened.trans h.timeoutHappened,
    hsustain.trans h.sustainFramerate, hreread.trans h.rereadCount, hkeep.trans h.keepFormat,
    hio.trans h.timeoutImageIo⟩

theorem captured (h : d.Quiet) : d.captured = d := by
  have hhappened := h.timeoutHappened
  rw [Device.captured, h.checkTimers, Device.clearTimeout]
  cases d
  cases hhappened
  rfl

theorem frameDone (h : d.Quiet) (buf pos : Nat) (list : List Nat) :
    (d.frameDone buf pos list).Quiet := by
  have hkeep : ∀ e : Device, e.Quiet → e.checkTimers.Quiet := by
    intro e he
    rwa [he.checkTimers]
  exact hkeep _ ⟨h.timeoutJiffies, h.timeoutHappened, h.sustainFramerate, rfl, h.keepFormat,
    h.timeoutImageIo⟩

end Device.Quiet

/-! ### Positions of a reader

A reader that is more than two frames behind goes on with the last one. -/

/-- The cursor of a reader is within the frames written, and it rereads none. -/
structure Opener.Within (o : Opener) (length : Nat) : Prop where
  nonneg : 0 ≤ o.readPosition
  le : o.readPosition ≤ length
  rereadCount : o.rereadCount = 0

theorem Opener.Within.next_bounds {o : Opener} {length : Nat} (ho : o.Within length)
    (hnew : o.readPosition < length) :
    Broadcast.nextPosition length o.readPosition.toNat < length ∧
      length ≤ Broadcast.nextPosition length o.readPosition.toNat + 2 := by
  have hnonneg := ho.nonneg
  have hcursor : o.readPosition.toNat < length := by omega
  exact (Broadcast.nextPosition_bounds hcursor).2

/-- The handle after it was given the next frame of a stream of the given length. -/
def Opener.moved (o : Opener) (length : Nat) : Opener :=
  { o with
    rereadCount := 0
    readPosition := (Broadcast.nextPosition length o.readPosition.toNat : Int) + 1 }

/-- The skip-ahead rule on the stream. -/
theorem nextPosition_eq {d : Device} {o : Opener} {length : Nat} (hpos : d.writePosition = length)
    (hfew : length < 2147483648) (ho : o.Within length) (hnew : o.readPosition < length) :
    nextPosition d o =
      ((Broadcast.nextPosition length o.readPosition.toNat : Int), o.moved length) := by
  have hnonneg := ho.nonneg
  obtain ⟨p, hp, hnext⟩ := nextPosition_behind (d := d) hnonneg (by omega) (by omega)
  have hposition : p = (Broadcast.nextPosition length o.readPosition.toNat : Int) := by
    rw [hp, hpos, Broadcast.nextPosition]
    split <;> split <;> omega
  rw [hnext, hposition, Opener.moved]

/-! ### Frames in the image

Only the slots of the last two frames matter, as no reader is given an older one; the
rest of the image is arbitrary. -/

/-- The image has a slot for each buffer, and the slots of the last two frames hold
    them. -/
structure HoldsFrames (cfg : Config) (d : Device) (frames : List (List UInt8))
    (m : Memory UInt8) : Prop where
  image : d.image = some m
  bufferSize : d.bufferSize = cfg.slotSize
  offset : ∀ i < MAX_BUFFERS, (d.buffers i).offset = (i * cfg.slotSize : Nat)
  index : ∀ i < MAX_BUFFERS, (d.buffers i).index = i
  map : ∀ p < frames.length, frames.length ≤ p + 2 →
    d.ring.bufpos2index (p % MAX_BUFFERS) = p % MAX_BUFFERS
  slot : ∀ p w, frames[p]? = some w → frames.length ≤ p + 2 → w.length ≤ cfg.slotSize ∧
    read m (p % MAX_BUFFERS * cfg.slotSize : Nat) w.length = w

/-- The device has passed on `frames` since it was free. -/
structure Streaming (cfg : Config) (d : Device) (frames : List (List UInt8)) : Prop where
  quiet : d.Quiet
  used : d.ring.usedBuffers = MAX_BUFFERS
  position : d.writePosition = frames.length
  few : frames.length < 2147483648
  held : d.readyForCapture = true → ∃ m, HoldsFrames cfg d frames m

theorem Streaming.init (cfg : Config) : Streaming cfg (Device.init cfg) [] where
  quiet := ⟨rfl, rfl, rfl, rfl, rfl, rfl⟩
  used := rfl
  position := rfl
  few := by simp
  held := fun hready => by cases hready

variable {cfg : Config} {d d' : Device} {frames : List (List UInt8)}

theorem Streaming.slot_eq (hd : Streaming cfg d frames) :
    ringSlot d.writePosition d.ring.usedBuffers = .ok (frames.length % MAX_BUFFERS) := by
  rw [hd.position, hd.used, ringSlot_of_nonneg (Int.natCast_nonneg _) (by decide) (Nat.le_refl _),
    Int.toNat_natCast]

/-- Two frames close to each other lie in different slots. -/
theorem slots_disjoint (size : Nat) {p n : Nat} (hlt : p < n) (hle : n ≤ p + 2) :
    p % MAX_BUFFERS * size + size ≤ n % MAX_BUFFERS * size ∨
      n % MAX_BUFFERS * size + size ≤ p % MAX_BUFFERS * size := by
  have hne : p % MAX_BUFFERS ≠ n % MAX_BUFFERS := by
    show p % 16 ≠ n % 16
    omega
  have hmul : ∀ a b : Nat, a < b → a * size + size ≤ b * size := by
    intro a b hab
    rw [← Nat.succ_mul]
    exact Nat.mul_le_mul_right size hab
  rcases Nat.lt_or_gt_of_ne hne with h | h
  · exact Or.inl (hmul _ _ h)
  · exact Or.inr (hmul _ _ h)

/-- Bytes stored in the slot of the next frame leave the last two frames alone. -/
theorem HoldsFrames.slot_write {m : Memory UInt8} (h : HoldsFrames cfg d frames m)
    {bs : List UInt8} (hbs : bs.length ≤ cfg.slotSize) {p : Nat} {w : List UInt8}
    (hp : frames[p]? = some w) (hrecent : frames.length ≤ p + 2) :
    read (write m (frames.length % MAX_BUFFERS * cfg.slotSize : Nat) bs)
      (p % MAX_BUFFERS * cfg.slotSize : Nat) w.length = w := by
  obtain ⟨hfits, hread⟩ := h.slot p w hp hrecent
  have hlt : p < frames.length := (List.getElem?_eq_some_iff.mp hp).1
  have hdisjoint := slots_disjoint cfg.slotSize hlt hrecent
  rw [read_write_disjoint (by omega), hread]

/-! ### Writes

The frame that is written goes to the slot after the last, which is that of none of the
two before it. -/

theorem Device.storeFrame_buffer (d : Device) (i j : Nat) (image : Option (Memory UInt8)) :
    ((d.storeFrame i image).buffers j).offset = (d.buffers j).offset ∧
      ((d.storeFrame i image).buffers j).index = (d.buffers j).index := by
  unfold Device.storeFrame
  by_cases hj : j = i
  · subst hj
    simp
  · simp [hj]

/-- A write that fails halfway. -/
theorem Streaming.spoiled (hd : Streaming cfg d frames) {m : Memory UInt8}
    (hm : HoldsFrames cfg d frames m) {bs : List UInt8} (hbs : bs.length ≤ cfg.slotSize) :
    Streaming cfg
      { d with image := some (write m (frames.length % MAX_BUFFERS * cfg.slotSize : Nat) bs) }
      frames where
  quiet := hd.quiet.same rfl
  used := hd.used
  position := hd.position
  few := hd.few
  held := fun _ => ⟨_, rfl, hm.bufferSize, hm.offset, hm.index, hm.map,
    fun p w hp hrecent => ⟨(hm.slot p w hp hrecent).1, hm.slot_write hbs hp hrecent⟩⟩

/-- The slots after a frame was stored and its position mapped to its buffer. -/
theorem HoldsFrames.written {m : Memory UInt8} (hm : HoldsFrames cfg d frames m) {bs : List UInt8}
    (hbs : bs.length ≤ cfg.slotSize) {list : List Nat} (hsize : d'.bufferSize = d.bufferSize)
    (hd' : d' = (d.storeFrame (frames.length % MAX_BUFFERS)
      (some (write m (frames.length % MAX_BUFFERS * cfg.slotSize : Nat) bs))).frameDone
        (frames.length % MAX_BUFFERS) (frames.length % MAX_BUFFERS) list) :
    HoldsFrames cfg d' (frames ++ [bs])
      (write m (frames.length % MAX_BUFFERS * cfg.slotSize : Nat) bs) := by
  have hslot : frames.length % MAX_BUFFERS < MAX_BUFFERS := Nat.mod_lt _ (by decide)
  refine ⟨?_, hsize.trans hm.bufferSize, fun i hi => ?_, fun i hi => ?_, fun p hp hrecent => ?_,
    fun p w hp hrecent => ?_⟩
  · rw [hd', Device.frameDone_image]
    rfl
  · rw [hd', Device.frameDone_buffers, (d.storeFrame_buffer _ i _).1]
    exact hm.offset i hi
  · rw [hd', Device.frameDone_buffers, (d.storeFrame_buffer _ i _).2]
    exact hm.index i hi
  · rw [List.length_append, List.length_singleton] at hp hrecent
    rw [hd', Device.frameDone_ring]
    show Function.update d.ring.bufpos2index _ _ (p % MAX_BUFFERS) = p % MAX_BUFFERS
    by_cases hlast : p = frames.length
    · rw [hlast, Function.update_self, (d.storeFrame_buffer _ _ _).2]
      exact hm.index _ hslot
    · have hne : p % MAX_BUFFERS ≠ frames.length % MAX_BUFFERS := by
        show p % 16 ≠ frames.length % 16
        omega
      rw [Function.update_of_ne hne]
      exact hm.map p (by omega) (by omega)
  · have hp' := (List.getElem?_eq_some_iff.mp hp).1
    rw [List.length_append, List.length_singleton] at hrecent hp'
    -- a frame of before, or the new one
    rcases Nat.lt_or_ge p frames.length with hlt | hge
    · rw [List.getElem?_append_left hlt] at hp
      exact ⟨(hm.slot p w hp (by omega)).1, hm.slot_write hbs hp (by omega)⟩
    · have hlast : p = frames.length := by omega
      subst hlast
      rw [List.getElem?_concat_length] at hp
      cases hp
      exact ⟨hbs, read_write_self _ _ _⟩

/-- **A write appends its frame, or fails and appends nothing.** -/
theorem Streaming.write {fault : Option Nat} {buf : List UInt8} {reply : Reply} {mem : Allocation}
    (hd : Streaming cfg d frames) (hready : d.readyForCapture = true)
    (hfew : frames.length + 1 < 2147483648)
    (h : v4l2LoopbackWrite mem fault d buf = .ok (reply, d')) :
    (reply = .transferred (buf.take cfg.slotSize).length ∧
        Streaming cfg d' (frames ++ [buf.take cfg.slotSize])) ∨
      (reply = .code (-EFAULT) ∧ Streaming cfg d' frames) := by
  obtain ⟨m, hm⟩ := hd.held hready
  have hslot : frames.length % MAX_BUFFERS < MAX_BUFFERS := Nat.mod_lt _ (by decide)
  simp only [v4l2LoopbackWrite, allocateOnce_ready hready] at h
  rw [if_neg (by decide)] at h
  have hframe := (writeFrame_move h).frame
  obtain ⟨i, hi, h⟩ := bind_eq_ok.mp h
  rw [hd.slot_eq] at hi
  cases hi
  have hbs : (buf.take cfg.slotSize).length ≤ cfg.slotSize := List.length_take_le _ _
  cases fault with
  -- the copy faults half way: no frame, and a slot that is not asked for is spoiled
  | some k =>
      obtain ⟨image, himage, h⟩ := bind_eq_ok.mp h
      rw [hm.image, hm.offset _ hslot, hm.bufferSize] at himage
      cases himage
      cases h
      refine Or.inr ⟨rfl, hd.spoiled hm ?_⟩
      simp only [List.length_append, List.length_replicate, List.length_take]
      omega
  | none =>
      obtain ⟨image, himage, h⟩ := bind_eq_ok.mp h
      rw [hm.image, hm.offset _ hslot, hm.bufferSize] at himage
      cases himage
      obtain ⟨e, hwritten, h⟩ := bind_eq_ok.mp h
      cases h
      obtain ⟨pos, hpos, -, he⟩ := Device.bufferWritten_eq_ok hwritten
      have hpos' : ringSlot d.writePosition d.ring.usedBuffers = .ok pos := hpos
      rw [hd.slot_eq] at hpos'
      cases hpos'
      refine Or.inl ⟨by rw [hm.bufferSize], ?_⟩
      have hquiet := hd.quiet
      refine ⟨?_, ?_, ?_, ?_, fun _ => ⟨_, hm.written hbs hframe.bufferSize he⟩⟩
      · rw [he]
        refine Device.Quiet.frameDone (d := d.storeFrame _ _) ?_ _ _ _
        exact hquiet.same rfl
      · rw [he, Device.frameDone_ring]
        exact hd.used
      · rw [he, Device.frameDone_writePosition]
        show toInt32 (d.writePosition + 1) = _
        have hposition := hd.position
        rw [toInt32_of_fits (by omega) (by omega), List.length_append, List.length_singleton]
        omega
      · rw [List.length_append, List.length_singleton]
        exact hfew

/-- A write to a ready device has a result. -/
theorem Streaming.write_ok (hd : Streaming cfg d frames) (hring : RingValid d)
    (hready : d.readyForCapture = true) (mem : Allocation) (fault : Option Nat) (buf : List UInt8) :
    ∃ r, v4l2LoopbackWrite mem fault d buf = .ok r := by
  obtain ⟨m, hm⟩ := hd.held hready
  have hstore : ∀ off bs,
      store d.image .nullImage off bs = .ok (some (ByteMemory.write m off bs)) := by
    intro off bs
    rw [hm.image]
    rfl
  have hmem : frames.length % MAX_BUFFERS ∈ d.ring.outbufsList := by
    rw [hring.mem_list, hd.used]
    exact Nat.mod_lt _ (by decide)
  simp only [v4l2LoopbackWrite, allocateOnce_ready hready]
  rw [if_neg (by decide)]
  cases fault with
  | some k => exact ⟨_, bind_eq_ok.mpr ⟨_, hd.slot_eq, bind_eq_ok.mpr ⟨_, hstore _ _, rfl⟩⟩⟩
  | none =>
      have hwritten : ∀ image, (d.storeFrame (frames.length % MAX_BUFFERS) image).bufferWritten
          (frames.length % MAX_BUFFERS) = .ok _ := fun image =>
        bind_eq_ok.mpr ⟨_, hd.slot_eq, bind_eq_ok.mpr ⟨_, if_pos hmem, rfl⟩⟩
      exact ⟨_, bind_eq_ok.mpr ⟨_, hd.slot_eq, bind_eq_ok.mpr ⟨_, hstore _ _,
        bind_eq_ok.mpr ⟨_, hwritten _, rfl⟩⟩⟩⟩

/-! ### Reads

A read copies the front of one slot.  Where it asks for more bytes than the frame has,
older bytes of that slot follow. -/

/-- What a read asked for, and the bytes it copied out. -/
structure Delivery where
  count : Nat
  bytes : List UInt8
deriving DecidableEq, Repr

/-- A read gives the bytes of the frame.  Only where it asks for more than was written
    does it give bytes of an older frame of the slot behind them, and none where the
    slot was written whole. -/
structure Delivery.Exact (cfg : Config) (x : Delivery) (frame : List UInt8) : Prop where
  front : x.bytes.take frame.length = frame.take x.count
  whole : x.count ≤ frame.length ∨ frame.length = cfg.slotSize → x.bytes = frame.take x.count

theorem HoldsFrames.exact {m : Memory UInt8} (hm : HoldsFrames cfg d frames m) {p : Nat}
    {w : List UInt8} (hp : frames[p]? = some w) (hrecent : frames.length ≤ p + 2) (count : Nat) :
    Delivery.Exact cfg
      ⟨count, read m (p % MAX_BUFFERS * cfg.slotSize : Nat) (min count cfg.slotSize)⟩ w := by
  obtain ⟨hfits, hread⟩ := hm.slot p w hp hrecent
  have htake : ∀ n, n ≤ w.length →
      read m (p % MAX_BUFFERS * cfg.slotSize : Nat) n = w.take n := by
    intro n hn
    rw [← take_read m _ hn, hread]
  refine ⟨?_, fun hfull => ?_⟩
  · have hmin : min w.length (min count cfg.slotSize) = min count w.length := by omega
    rw [← read_min, hmin, htake _ (Nat.min_le_right _ _), ← List.take_eq_take_min]
  show read m _ (min count cfg.slotSize) = w.take count
  rcases hfull with hshort | hwhole
  · have hcount : count ≤ w.length := hshort
    rw [Nat.min_eq_left (by omega), htake count hcount]
  · have hmin : min count cfg.slotSize = min count w.length := by rw [hwhole]
    rw [hmin, htake _ (Nat.min_le_right _ _), ← List.take_eq_take_min]

/-- The ways through a read that blocks and is not interrupted. -/
inductive ReadMove (cfg : Config) (frames : List (List UInt8)) (count : Nat) (o : Opener) :
    Reply → Opener → Prop
  | asleep (hempty : o.readPosition = frames.length) : ReadMove cfg frames count o .asleep o
  | lost (hnew : o.readPosition < frames.length) :
      ReadMove cfg frames count o (.code (-EFAULT)) (o.moved frames.length)
  | taken (bytes frame : List UInt8) (hnew : o.readPosition < frames.length)
      (hframe : frames[Broadcast.nextPosition frames.length o.readPosition.toNat]? = some frame)
      (hexact : Delivery.Exact cfg ⟨count, bytes⟩ frame) :
      ReadMove cfg frames count o (.data bytes) (o.moved frames.length)

theorem Streaming.readable_iff (hd : Streaming cfg d frames) {o : Opener}
    (ho : o.Within frames.length) : readable d o = true ↔ o.readPosition < frames.length := by
  simp [readable, hd.position, hd.quiet.rereadCount, ho.rereadCount, hd.quiet.timeoutHappened]

/-- A capture that finds a frame gives the index of its buffer. -/
theorem Streaming.capture (hd : Streaming cfg d frames) (hready : d.readyForCapture = true)
    {o : Opener} (ho : o.Within frames.length) (hnew : o.readPosition < frames.length) :
    getCaptureBuffer ⟨false, false⟩ d o =
      .ok (some (Broadcast.nextPosition frames.length o.readPosition.toNat % MAX_BUFFERS : Nat), d,
        o.moved frames.length) := by
  obtain ⟨m, hm⟩ := hd.held hready
  have hnonneg := ho.nonneg
  have hnext := nextPosition_eq hd.position hd.few ho hnew
  obtain ⟨hlt, hrecent⟩ := ho.next_bounds hnew
  have hslot : ringSlot (nextPosition d o).1 d.ring.usedBuffers =
      .ok (Broadcast.nextPosition frames.length o.readPosition.toNat % MAX_BUFFERS) := by
    rw [hnext, hd.used, ringSlot_of_nonneg (Int.natCast_nonneg _) (by decide) (Nat.le_refl _),
      Int.toNat_natCast]
  have hindex : captureIndex ⟨false, false⟩ d o =
      .ok (.index (Broadcast.nextPosition frames.length o.readPosition.toNat % MAX_BUFFERS) false d
        (o.moved frames.length)) := by
    rw [captureIndex_go (Or.inl ((hd.readable_iff ho).mpr hnew)), hslot, hnext,
      hd.quiet.timeoutHappened, hd.quiet.captured]
    show Except.ok (Captured.index (d.ring.bufpos2index _) false d _) = _
    rw [hm.map _ hlt hrecent]
  rw [getCaptureBuffer, hindex]
  rfl

theorem Streaming.capture_empty (hd : Streaming cfg d frames) {o : Opener}
    (ho : o.Within frames.length) (hempty : ¬ o.readPosition < frames.length) :
    getCaptureBuffer ⟨false, false⟩ d o = .ok (none, d, o) := by
  have hreadable : readable d o = false := by
    rw [Bool.eq_false_iff, ne_eq, hd.readable_iff ho]
    exact hempty
  rw [getCaptureBuffer, captureIndex_asleep rfl hreadable rfl, hd.quiet.checkTimers]
  rfl

/-- **A read delivers the frame at the reader's next position**, and changes only the
    cursor. -/
theorem Streaming.read (hd : Streaming cfg d frames) (hready : d.readyForCapture = true) {o : Opener}
    (ho : o.Within frames.length) (fault : Bool) (count : Nat) :
    ∃ reply o', v4l2LoopbackRead ⟨false, false⟩ fault d o count = .ok (reply, d, o') ∧
      ReadMove cfg frames count o reply o' := by
  obtain ⟨m, hm⟩ := hd.held hready
  have hle := ho.le
  by_cases hnew : o.readPosition < frames.length
  · have hnonneg := ho.nonneg
    obtain ⟨hlt, hrecent⟩ := ho.next_bounds hnew
    have hcapture := hd.capture hready ho hnew
    generalize hp : Broadcast.nextPosition frames.length o.readPosition.toNat = p at *
    have hslot : p % MAX_BUFFERS < MAX_BUFFERS := Nat.mod_lt _ (by decide)
    have hframe := List.getElem?_eq_getElem hlt
    have hload : load d.image .nullImage (d.buffers (p % MAX_BUFFERS)).offset
        (min count d.bufferSize) =
          .ok (ByteMemory.read m (p % MAX_BUFFERS * cfg.slotSize : Nat)
            (min count cfg.slotSize)) := by
      rw [hm.image, hm.offset _ hslot, hm.bufferSize]
      rfl
    rw [v4l2LoopbackRead, hcapture]
    simp only [bind, Except.bind]
    rw [if_pos ⟨Int.natCast_nonneg _, by omega⟩, Int.toNat_natCast, hload]
    cases fault with
    | true => exact ⟨_, _, rfl, .lost hnew⟩
    | false =>
        exact ⟨_, _, rfl, .taken _ _ hnew (hp.symm ▸ hframe) (hm.exact hframe hrecent count)⟩
  -- nothing new, so the reader sleeps
  · rw [v4l2LoopbackRead, hd.capture_empty ho hnew]
    exact ⟨_, _, rfl, .asleep (by omega)⟩

/-! ### Opening and closing

The close of the last handle frees the image, and with it the frames. -/

/-- The offsets of the slots: with 16 buffers none of them wraps around. -/
theorem Device.initialBuffer_offset (hsize : d.bufferSize = cfg.slotSize) {i : Nat}
    (hi : i < MAX_BUFFERS) : (d.initialBuffer i).offset = (i * cfg.slotSize : Nat) := by
  have hbounds := cfg.slotSize_bounds
  have hbound : i * cfg.slotSize ≤ 15 * 100663296 :=
    Nat.mul_le_mul (Nat.le_of_lt_succ hi) hbounds.2.2
  have hsize' : toInt32 (d.bufferSize : Int) = cfg.slotSize := by
    rw [hsize, toInt32_of_fits (by omega) (by omega)]
  show toUInt32 (toInt32 (i * toInt32 d.bufferSize)) = _
  rw [hsize', ← Int.natCast_mul, toInt32_of_fits (by omega) (by omega),
    toUInt32_of_fits (by omega) (by omega)]

theorem Device.Quiet.vmallocBuffers (h : d.Quiet) (mem : Allocation) :
    (d.vmallocBuffers mem).2.Quiet := by
  have hquiet : (d.vmallocImage mem).Quiet := h.same rfl
  have hjiffies : ¬ 0 < (d.vmallocImage mem).timeoutJiffies := by simp [hquiet.timeoutJiffies]
  simp only [Device.vmallocBuffers, if_neg hjiffies]
  split
  · exact hquiet
  · exact h.same rfl

theorem Device.Quiet.countOpen (h : d.Quiet) : d.countOpen.Quiet :=
  ⟨h.timeoutJiffies, h.timeoutHappened, h.sustainFramerate, h.rereadCount, h.keepFormat, rfl⟩

/-- An open keeps the frames; on a free device there are none to keep. -/
theorem Streaming.open {s : Driver} {mem : Allocation} (hs : Accounted s) (hring : RingValid s.dev)
    (hd : Streaming cfg s.dev frames) (hmem : mem.vmalloc.isSome = true) :
    Streaming cfg (openFormat cfg mem (s.dev.opening mem)) frames := by
  have hopening : s.dev.opening mem = s.dev.countOpen := by
    rw [Device.opening, if_neg (by simp [hd.quiet.timeoutImageIo])]
  have hquiet := hd.quiet.countOpen
  rw [hopening]
  cases hready : s.dev.readyForCapture with
  | true =>
      rw [openFormat_ready (show s.dev.countOpen.readyForCapture = true from hready)]
      obtain ⟨m, hm⟩ := hd.held hready
      exact ⟨hquiet, hd.used, hd.position, hd.few, fun _ =>
        ⟨m, hm.image, hm.bufferSize, hm.offset, hm.index, hm.map, hm.slot⟩⟩
  | false =>
      obtain ⟨himage, htimeout, hsize, hposition⟩ := hs.idle hready
      have hsame := openFormat_same cfg mem s.dev.countOpen
      have hfresh : Fresh cfg mem s.dev.countOpen _ := openFormat_fresh hready himage htimeout
      have hempty : frames = [] := by
        rw [← List.length_eq_zero_iff]
        have := hd.position
        omega
      subst hempty
      refine ⟨?_, ?_, ?_, hd.few, fun _ => ?_⟩
      · obtain ⟨f, hformat⟩ : ∃ f, openFormat cfg mem s.dev.countOpen = _ :=
          openFormat_of_not_ready hready
        have hne : ((s.dev.countOpen.setPixFormat f).setBufferSize cfg.slotSize).bufferSize ≠ 0 := by
          have := cfg.slotSize_bounds
          show cfg.slotSize ≠ 0
          omega
        rw [hformat, Device.allocateBuffers_of_none hne himage]
        have hvmalloc := Device.Quiet.vmallocBuffers
          (d := (s.dev.countOpen.setPixFormat f).setBufferSize cfg.slotSize)
          (hquiet.same rfl) mem
        exact hvmalloc.same rfl
      · rw [hsame.ring]
        exact hd.used
      · rw [hsame.writePosition]
        exact hd.position
      · obtain ⟨m, hm⟩ := Option.isSome_iff_exists.mp hmem
        have hbuffer : ∀ i < MAX_BUFFERS, (openFormat cfg mem s.dev.countOpen).buffers i =
            (openFormat cfg mem s.dev.countOpen).initialBuffer i := by
          intro i hi
          apply hfresh.buffers hmem i
          rw [hsame.ring]
          exact hring.number ▸ hi
        refine ⟨m, hfresh.image.trans hm, hfresh.bufferSize, fun i hi => ?_, fun i hi => ?_, ?_, ?_⟩
        · rw [hbuffer i hi]
          exact Device.initialBuffer_offset hfresh.bufferSize hi
        · rw [hbuffer i hi]
          rfl
        · intro p hp
          exact absurd hp (Nat.not_lt_zero p)
        · intro p w hp
          cases hp

/-- The last close frees the device, any other one keeps the frames. -/
theorem Streaming.close (hd : Streaming cfg d frames) :
    Streaming cfg (v4l2LoopbackClose d) (if d.openCount = 1 then [] else frames) := by
  have hquiet := hd.quiet
  split
  · rename_i hlast
    rw [v4l2LoopbackClose_freed hlast hquiet.keepFormat]
    exact ⟨hquiet.same rfl, hd.used, rfl, by simp,
      fun hready => by cases hready⟩
  · rename_i hmore
    rw [v4l2LoopbackClose_kept (fun h => hmore h.1), if_neg hmore]
    refine ⟨hquiet.same rfl, hd.used, hd.position, hd.few,
      fun hready => ?_⟩
    obtain ⟨m, hm⟩ := hd.held hready
    exact ⟨m, hm.image, hm.bufferSize, hm.offset, hm.index, hm.map, hm.slot⟩

end DroidCam.Loopback
