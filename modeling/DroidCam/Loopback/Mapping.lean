import DroidCam.Loopback.Geometry

/-
  DroidCam/Loopback/Mapping.lean
  ==============================
  What `mmap` maps for a handle that is not in the mode of the timeout image.

  The driver looks at the page offset three times: in bytes against the start of
  the last slot, in pages against the offsets of the buffers, and in bytes again
  for the address.  The search over the buffers ends at the last one when no
  offset fits, and nothing after it tells the two apart.
-/

namespace DroidCam.Loopback

open ByteMemory LabelledRun

/-! ### One buffer -/

/-- The `len` bytes of the image from `start` on are those of buffer `i`. -/
structure ShowsBuffer (d : Device) (i start len : Nat) : Prop where
  lt : i < MAX_BUFFERS
  mapped : (d.buffers i).flags.mapped = true
  offset : (d.buffers i).offset = start
  slot : (start + len : Int) ≤ (d.buffers i).offset + d.bufferSize
  image : d.image.isSome = true ∧ start + len ≤ d.imagesize

/-- An accepted mapping shows one buffer, and an offset that is not the offset of a
    buffer is refused. -/
structure MapsOneBuffer (d : Device) (pgoff size : Nat) (reply : Reply) : Prop where
  accepted : ∀ buf start len, reply = .mapped buf start len →
    len = size ∧ ∃ i, buf = some i ∧ ShowsBuffer d i start len
  rejected : (∀ i < MAX_BUFFERS, (d.buffers i).offset ≠ (pgoff * PAGE_SIZE : Nat)) →
    ∃ ret < 0, reply = .code ret

/-- The checks of `v4l2_loopback_mmap` that refuse a request: its length, the byte
    offset against the last slot, the missing image, and the pages. -/
def MmapRefused (mem : Allocation) (inserted : Bool) (d : Device) (pgoff size : Nat) : Prop :=
  size > d.bufferSize ∨
    pgoff * PAGE_SIZE % 18446744073709551616 > d.bufferSize * (MAX_BUFFERS - 1) ∨
      (d.image = none ∧ mem.vmalloc = none) ∨ inserted = false

/-! ### The ways through `v4l2_loopback_mmap`

`mmap` allocates the buffers where a reader maps before anything was written, so the
device it works on is not always the one it found. -/

/-- `vmalloc` alone decides whether the allocation fails; otherwise the image is there. -/
theorem Device.vmallocBuffers_image (mem : Allocation) (d : Device) :
    ((d.vmallocBuffers mem).1 < 0 ↔ mem.vmalloc = none) ∧
      (¬ (d.vmallocBuffers mem).1 < 0 → (d.vmallocBuffers mem).2.image.isSome = true) := by
  have himage : (if 0 < (d.vmallocImage mem).timeoutJiffies then
      ((d.vmallocImage mem).allocateTimeoutImage mem).2 else d.vmallocImage mem).image =
        mem.vmalloc := by
    simp only [Device.allocateTimeoutImage]
    split_ifs <;> rfl
  simp only [Device.vmallocBuffers]
  generalize (if 0 < (d.vmallocImage mem).timeoutJiffies then
      ((d.vmallocImage mem).allocateTimeoutImage mem).2 else d.vmallocImage mem) = e at himage ⊢
  rw [himage]
  cases hvmalloc : mem.vmalloc with
  | none => simp
  | some bytes =>
      refine ⟨by simp, fun _ => ?_⟩
      show e.image.isSome = true
      rw [himage, hvmalloc]
      rfl

/-- What `v4l2_loopback_mmap` does for an opener without the timeout image. -/
inductive BufferMmap (mem : Allocation) (inserted : Bool) (d : Device) (pgoff size : Nat) :
    Reply → Device → Prop
  | refused (ret : Int) (d' : Device) (hret : ret < 0)
      (hrefused : MmapRefused mem inserted d pgoff size) :
      BufferMmap mem inserted d pgoff size (.code ret) d'
  | mapped (e : Device) (i : Nat) (haccepted : ¬ MmapRefused mem inserted d pgoff size)
      (he : e = if d.image.isNone then (d.allocateBuffers mem).2 else d)
      (hsome : e.image.isSome = true) (hbuffer : mmapBuffer e pgoff = some i) :
      BufferMmap mem inserted d pgoff size
        (.mapped (some i) (pgoff * PAGE_SIZE % 18446744073709551616) size)
        (e.updateBuffer i setMapped)

theorem mmapBuffer_isSome {d : Device} (hnumber : d.ring.buffersNumber = MAX_BUFFERS)
    (pgoff : Nat) : ∃ i, mmapBuffer d pgoff = some i := by
  have hlast : (List.range d.ring.buffersNumber).getLast? = some (MAX_BUFFERS - 1) := by
    rw [hnumber]
    rfl
  rw [mmapBuffer, hlast]
  cases (List.range d.ring.buffersNumber).find?
      fun i => decide ((d.buffers i).offset.toNat / PAGE_SIZE = pgoff) with
  | none => exact ⟨_, rfl⟩
  | some i => exact ⟨i, rfl⟩

theorem v4l2LoopbackMmap_buffer {mem : Allocation} {inserted : Bool} {d : Device} {o : Opener}
    {pgoff size : Nat} (hio : o.timeoutImageIo = false) (hsize : 0 < d.bufferSize)
    (hnumber : d.ring.buffersNumber = MAX_BUFFERS) :
    BufferMmap mem inserted d pgoff size (v4l2LoopbackMmap mem inserted d o pgoff size).1
      (v4l2LoopbackMmap mem inserted d o pgoff size).2 := by
  obtain ⟨ret, e, heq, hfails, hsome, he⟩ : ∃ ret e,
      (if d.image.isNone then d.allocateBuffers mem else (0, d)) = (ret, e) ∧
        (ret < 0 ↔ d.image = none ∧ mem.vmalloc = none) ∧
        (¬ ret < 0 → e.image.isSome = true) ∧
        e = if d.image.isNone then (d.allocateBuffers mem).2 else d := by
    cases himage : d.image with
    | none =>
        obtain ⟨hfails, hsome⟩ := d.vmallocBuffers_image mem
        simp only [Option.isNone_none, if_true, true_and,
          Device.allocateBuffers_of_none (Nat.ne_of_gt hsize) himage]
        exact ⟨_, _, rfl, hfails, hsome, rfl⟩
    | some bytes => exact ⟨0, d, rfl, by simp, by simp [himage], rfl⟩
  have hnumber' : e.ring.buffersNumber = MAX_BUFFERS := by
    rw [he]
    split
    · rw [(d.allocateBuffers_same mem).ring]
      exact hnumber
    · exact hnumber
  obtain ⟨i, hi⟩ := mmapBuffer_isSome hnumber' pgoff
  simp only [v4l2LoopbackMmap, heq, hi, hio, hnumber, Bool.false_eq_true, false_and, if_false,
    true_and]
  split
  · rename_i hlong
    exact .refused _ _ (by decide) (Or.inl hlong)
  split
  · rename_i hlong hfar
    exact .refused _ _ (by decide) (Or.inr (Or.inl hfar))
  split
  · rename_i hfailed
    exact .refused _ _ (by decide) (Or.inr (Or.inr (Or.inl (hfails.mp hfailed))))
  split
  · rename_i hpages
    exact .refused _ _ (by decide) (Or.inr (Or.inr (Or.inr hpages)))
  · rename_i hlong hfar hfailed hpages
    refine .mapped e i ?_ he (hsome hfailed) hi
    rintro (h | h | h | h)
    · exact hlong h
    · exact hfar h
    · exact hfailed (hfails.mpr h)
    · exact hpages h

/-! ### The search

The loop compares the offset of each buffer and leaves with the first that fits; where
none fits, it has looked at all of them and keeps the last. -/

/-- The first buffer at the page of a slot is the buffer of that slot. -/
theorem mmapBuffer_of_offset {d : Device} {pgoff i : Nat} (hd : SlotsAt d)
    (hnumber : d.ring.buffersNumber = MAX_BUFFERS) (hpos : 0 < d.bufferSize)
    (hpages : PAGE_SIZE ∣ d.bufferSize) (hi : i < MAX_BUFFERS)
    (hoffset : pgoff * PAGE_SIZE = i * d.bufferSize) : mmapBuffer d pgoff = some i := by
  have hpage : ∀ j < MAX_BUFFERS, ((d.buffers j).offset.toNat / PAGE_SIZE = pgoff ↔ j = i) := by
    intro j hj
    have hnat : (d.buffers j).offset.toNat = j * d.bufferSize := by
      rw [hd.buffer j hj, ← Int.natCast_mul, Int.toNat_natCast]
    rw [hnat, Nat.div_eq_iff_eq_mul_left (by decide) (Nat.dvd_mul_left_of_dvd hpages j), hoffset]
    constructor
    · intro heq
      exact Nat.eq_of_mul_eq_mul_right hpos heq
    · rintro rfl
      rfl
  have hfind : (List.range d.ring.buffersNumber).find?
      (fun j => decide ((d.buffers j).offset.toNat / PAGE_SIZE = pgoff)) = some i := by
    rw [hnumber, List.find?_range_eq_some]
    refine ⟨decide_eq_true ((hpage i hi).mpr rfl), List.mem_range.mpr hi, ?_⟩
    intro j hj
    have hne := mt (hpage j (Nat.lt_trans hj hi)).mp (Nat.ne_of_lt hj)
    simpa using hne
  rw [mmapBuffer, hfind]
  rfl

/-! ### The mapping

A mapping of one buffer is one whose offset is that of a buffer, since the offsets are
the multiples of its size. -/

/-- The device that `mmap` works on: its image is there. -/
structure Mappable (d : Device) : Prop where
  image : d.image.isSome = true
  number : d.ring.buffersNumber = MAX_BUFFERS
  slots : SlotsAt d
  imagesize : d.imagesize = MAX_BUFFERS * d.bufferSize
  pos : 0 < d.bufferSize
  pages : PAGE_SIZE ∣ d.bufferSize
  le : d.bufferSize ≤ 100663296

theorem Framed.mappable {cfg : Config} {d : Device} (hd : Framed cfg d)
    (hready : d.readyForCapture = true) (hnumber : d.ring.buffersNumber = MAX_BUFFERS)
    (himage : d.image.isSome = true) : Mappable d := by
  have hgeometry := hd.geometry hnumber hready himage
  have hlaid := hd.laidOut himage
  have hbounds := cfg.slotSize_bounds
  have hbuffer := (hd.formatted hready).bufferSize
  have hle : d.bufferSize ≤ 100663296 := hbuffer ▸ hbounds.2.2
  refine ⟨himage, hnumber, hlaid.slotsAt hnumber hle, ?_, by omega, hgeometry.pages.1, hle⟩
  rw [hlaid.imagesize, hnumber, Nat.mul_comm]

/-- A mapping from the start of a slot on, of at most its size, shows its buffer. -/
theorem Mappable.showsBuffer {d : Device} {i size : Nat} (hd : Mappable d) (hi : i < MAX_BUFFERS)
    (hsize : size ≤ d.bufferSize) :
    ShowsBuffer (d.updateBuffer i setMapped) i (i * d.bufferSize) size := by
  have hoffset : (((d.updateBuffer i setMapped).buffers i).offset : Int) = i * d.bufferSize := by
    simp only [Device.updateBuffer, Function.update_self, setMapped]
    exact hd.slots.buffer i hi
  refine ⟨hi, by simp [Device.updateBuffer, setMapped], ?_, ?_, hd.image, ?_⟩
  · rw [hoffset, Int.natCast_mul]
  · rw [hoffset, Int.natCast_mul]
    show (i * d.bufferSize + size : Int) ≤ i * d.bufferSize + (d.bufferSize : Nat)
    omega
  · show i * d.bufferSize + size ≤ d.imagesize
    have hslots : (i + 1) * d.bufferSize ≤ MAX_BUFFERS * d.bufferSize :=
      Nat.mul_le_mul_right _ hi
    rw [hd.imagesize]
    rw [Nat.succ_mul] at hslots
    omega

/-- Between the offsets of the buffers nothing is at the page, and yet `mmap` succeeds. -/
theorem Mappable.no_offset {d : Device} {pgoff : Nat} (hd : Mappable d) (i : Nat)
    (hoffset : ∀ j < MAX_BUFFERS, pgoff * PAGE_SIZE ≠ j * d.bufferSize) :
    ∀ j < MAX_BUFFERS,
      ((d.updateBuffer i setMapped).buffers j).offset ≠ (pgoff * PAGE_SIZE : Nat) := by
  intro j hj heq
  have hsame : ((d.updateBuffer i setMapped).buffers j).offset = (d.buffers j).offset := by
    by_cases hij : j = i
    · subst hij
      simp [Device.updateBuffer, setMapped]
    · simp [Device.updateBuffer, hij]
  rw [hsame, hd.slots.buffer j hj] at heq
  exact hoffset j hj (by exact_mod_cast heq.symm)

/-- Allocating the image moves no slot. -/
theorem Framed.allocated {cfg : Config} {d e : Device} {mem : Allocation} (hd : Framed cfg d)
    (hready : d.readyForCapture = true) (hnumber : d.ring.buffersNumber = MAX_BUFFERS)
    (he : e = if d.image.isNone then (d.allocateBuffers mem).2 else d)
    (hsome : e.image.isSome = true) : Mappable e ∧ e.bufferSize = d.bufferSize := by
  have hslots : SlotMove d e := by
    rw [he]
    split
    · exact d.allocateBuffers_slots mem
    · exact .refl _
  have hkept : e.readyForCapture = d.readyForCapture ∧ e.ring = d.ring := by
    rw [he]
    split
    · exact ⟨(d.allocateBuffers_kept mem).1, (d.allocateBuffers_same mem).ring⟩
    · exact ⟨rfl, rfl⟩
  exact ⟨(hd.move hslots hkept.1).mappable (hkept.1.trans hready) (hkept.2 ▸ hnumber) hsome,
    hslots.bufferSize.1⟩

/-- At the offset of a buffer the buffer that is mapped is the one there. -/
theorem Mappable.mapsOneBuffer {d : Device} {pgoff size i j : Nat} (hd : Mappable d)
    (hi : i < MAX_BUFFERS) (hoffset : pgoff * PAGE_SIZE = i * d.bufferSize)
    (hfits : size ≤ d.bufferSize) (hbuffer : mmapBuffer d pgoff = some j) :
    MapsOneBuffer (d.updateBuffer j setMapped) pgoff size
      (.mapped (some j) (pgoff * PAGE_SIZE % 18446744073709551616) size) := by
  have hij := mmapBuffer_of_offset hd.slots hd.number hd.pos hd.pages hi hoffset
  obtain rfl : i = j := Option.some.inj (hij.symm.trans hbuffer)
  have hshows := hd.showsBuffer hi hfits
  have hle : i * d.bufferSize ≤ 15 * 100663296 := Nat.mul_le_mul (Nat.le_of_lt_succ hi) hd.le
  have hwrap : pgoff * PAGE_SIZE % 18446744073709551616 = i * d.bufferSize := by
    rw [hoffset]
    omega
  rw [hwrap]
  constructor
  · intro buf start len hmapped
    cases hmapped
    exact ⟨rfl, i, rfl, hshows⟩
  · intro hnone
    refine absurd ?_ (hnone i hi)
    rw [hoffset, hshows.offset]

/-- **When `mmap` maps one buffer**, for every reachable state, every handle that is
    not in the mode of the timeout image, and every offset and length. -/
theorem mmap_one_buffer_iff {cfg : Config} {s t : Driver} {calls : List Call} {file : Nat}
    {o : Opener} {pgoff size : Nat} {mem : Allocation} {inserted : Bool} {reply : Reply}
    (h : Run (Step cfg) (Driver.init cfg) calls s) (hfile : s.openers.lookup file = some o)
    (hio : o.timeoutImageIo = false)
    (hstep : driverStep cfg s (.request file (.mmap pgoff size mem inserted)) = .ok (reply, t)) :
    MapsOneBuffer t.dev pgoff size reply ↔
      (∃ i < MAX_BUFFERS, pgoff * PAGE_SIZE = i * s.dev.bufferSize) ∨
        MmapRefused mem inserted s.dev pgoff size := by
  obtain ⟨hs, hd⟩ := Framed.run h
  have hnumber := (RingInv.run h).number
  have hready := (hs.held hfile).1
  have hmmap : BufferMmap mem inserted s.dev pgoff size
      (v4l2LoopbackMmap mem inserted s.dev o pgoff size).1
      (v4l2LoopbackMmap mem inserted s.dev o pgoff size).2 :=
    v4l2LoopbackMmap_buffer hio (hd.bufferSize_pos hs hfile) hnumber
  obtain ⟨p, d, o', hp, hreq, rfl⟩ := driverStep_request hstep
  obtain rfl := Option.some.inj (hfile.symm.trans hp)
  simp only [request, Except.ok.injEq, Prod.mk.injEq] at hreq
  obtain ⟨rfl, rfl, rfl⟩ := hreq
  show MapsOneBuffer (v4l2LoopbackMmap mem inserted s.dev o pgoff size).2 _ _ _ ↔ _
  generalize (v4l2LoopbackMmap mem inserted s.dev o pgoff size).1 = reply at hmmap ⊢
  generalize (v4l2LoopbackMmap mem inserted s.dev o pgoff size).2 = d at hmmap ⊢
  cases hmmap with
  | refused ret _ hret hrefused =>
      refine ⟨fun _ => Or.inr hrefused, fun _ => ⟨?_, fun _ => ⟨ret, hret, rfl⟩⟩⟩
      intro buf start len hmapped
      cases hmapped
  | mapped e i haccepted he hsome hbuffer =>
      obtain ⟨hmappable, hsize⟩ := hd.allocated hready hnumber he hsome
      constructor
      · intro hmaps
        by_contra hno
        rw [not_or] at hno
        obtain ⟨ret, -, hcode⟩ := hmaps.rejected (hmappable.no_offset i fun j hj heq =>
          hno.1 ⟨j, hj, by rw [heq, hsize]⟩)
        cases hcode
      · rintro (⟨j, hj, hoffset⟩ | hrefused)
        · have hfits : size ≤ e.bufferSize := by
            rw [hsize]
            exact Nat.le_of_not_lt fun hlong => haccepted (Or.inl hlong)
          exact hmappable.mapsOneBuffer hj (hsize ▸ hoffset) hfits hbuffer
        · exact absurd hrefused haccepted

/-- The second slot of 113 pages. -/
theorem mmap_one_buffer_iff_second :
    ∃ s t, Run (Step ⟨640, 480, 100⟩) (Driver.init ⟨640, 480, 100⟩)
        [.openDevice 1 granting true] s ∧
      driverStep ⟨640, 480, 100⟩ s (.request 1 (.mmap 113 8192 granting true)) =
        .ok (.mapped (some 1) 462848 8192, t) ∧
      MapsOneBuffer t.dev 113 8192 (.mapped (some 1) 462848 8192) := by
  obtain ⟨s, hs, hvalues⟩ := Option.map_eq_some_iff.mp (by decide +kernel :
    (execute (next ⟨640, 480, 100⟩) (Driver.init ⟨640, 480, 100⟩)
      [.openDevice 1 granting true]).map
      (fun s => (s.openers.lookup 1, s.dev.bufferSize, (driverStep ⟨640, 480, 100⟩ s
        (.request 1 (.mmap 113 8192 granting true))).toOption.map Prod.fst)) =
      some (some {}, 462848, some (.mapped (some 1) 462848 8192)))
  simp only [Prod.mk.injEq] at hvalues
  obtain ⟨hopener, hsize, hreply⟩ := hvalues
  obtain ⟨⟨reply, t⟩, ht, rfl⟩ := Option.map_eq_some_iff.mp hreply
  have hrun := Run.of_execute hs
  have hstep := toOption_eq_some.mp ht
  have hstart : 113 * PAGE_SIZE = 1 * s.dev.bufferSize := by
    rw [hsize]
    rfl
  exact ⟨s, t, hrun, hstep,
    (mmap_one_buffer_iff hrun hopener rfl hstep).mpr (Or.inl ⟨1, by decide, hstart⟩)⟩

/-- The second page is not the start of a slot: `mmap` accepts it for buffer 15. -/
theorem mmap_between_buffers :
    ¬ ∀ (cfg : Config) (s t : Driver) calls (file : Nat) (o : Opener) (pgoff size : Nat)
        (mem : Allocation) (inserted : Bool) (reply : Reply),
      Run (Step cfg) (Driver.init cfg) calls s → s.openers.lookup file = some o →
        o.timeoutImageIo = false → PAGE_SIZE ∣ size →
          driverStep cfg s (.request file (.mmap pgoff size mem inserted)) = .ok (reply, t) →
            MapsOneBuffer t.dev pgoff size reply := by
  intro h
  obtain ⟨s, hs, hvalues⟩ := Option.map_eq_some_iff.mp (by decide +kernel :
    (execute (next ⟨640, 480, 100⟩) (Driver.init ⟨640, 480, 100⟩)
      [.openDevice 1 granting true]).map
      (fun s => (s.openers.lookup 1, (driverStep ⟨640, 480, 100⟩ s
        (.request 1 (.mmap 1 4096 granting true))).toOption.map
          fun (reply, t) => (reply, (t.dev.buffers 15).offset))) =
      some (some {}, some (.mapped (some 15) 4096 4096, 6942720)))
  simp only [Prod.mk.injEq] at hvalues
  obtain ⟨hopener, hreply⟩ := hvalues
  obtain ⟨⟨reply, t⟩, ht, hvalue⟩ := Option.map_eq_some_iff.mp hreply
  simp only [Prod.mk.injEq] at hvalue
  obtain ⟨rfl, hoffset⟩ := hvalue
  have hmaps := h _ s t _ 1 _ 1 4096 granting true _ (Run.of_execute hs) hopener rfl
    (Nat.dvd_refl _) (toOption_eq_some.mp ht)
  obtain ⟨-, i, hi, hshows⟩ := hmaps.accepted _ _ _ rfl
  obtain rfl := Option.some.inj hi
  have hstart := hshows.offset
  rw [hoffset] at hstart
  exact absurd hstart (by decide)

end DroidCam.Loopback
