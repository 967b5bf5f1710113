import DroidCam.Loopback.Images

/-
  DroidCam/Loopback/Slots.lean
  ============================
  What an operation does to the format and to the layout of the slots.

  `init_buffers` lays the slots out; every other operation leaves the offsets
  alone.  On a ready device no request changes the format or a size.
-/

namespace DroidCam.Loopback

open CArith ByteMemory

/-! ### The layout that `init_buffers` makes

All that `init_buffers` writes of the layout is computed from fields it leaves alone, so
that calling it twice is calling it once. -/

/-- What the slots are made of: the format, the sizes and the offsets. -/
def Device.slots (d : Device) : V4l2PixFormat × Nat × Nat × (Nat → Int) × Int :=
  (d.pixFormat, d.bufferSize, d.ring.buffersNumber, fun i => (d.buffers i).offset,
    d.timeoutImageBuffer.offset)

/-- What a step does to the slots of a device that stays ready. -/
structure SlotMove (d d' : Device) : Prop where
  slots : d'.slots = d.slots ∨ d'.slots = d.initBuffers.slots
  made : d'.image.isSome = true → d.image.isSome = true ∧ d'.imagesize = d.imagesize ∨
    d'.slots = d.initBuffers.slots ∧ d'.imagesize = d.bufferSize * d.ring.buffersNumber

theorem SlotMove.same {d d' : Device} (hslots : d'.slots = d.slots)
    (himage : d'.image.isSome = true → d.image.isSome = true)
    (himagesize : d'.imagesize = d.imagesize) : SlotMove d d' :=
  ⟨Or.inl hslots, fun hsome => Or.inl ⟨himage hsome, himagesize⟩⟩

theorem SlotMove.refl (d : Device) : SlotMove d d := .same rfl id rfl

theorem SlotMove.bufferSize {d d' : Device} (h : SlotMove d d') :
    d'.bufferSize = d.bufferSize ∧ d'.ring.buffersNumber = d.ring.buffersNumber ∧
      d'.pixFormat = d.pixFormat := by
  rcases h.slots with hslots | hslots <;>
    simp only [Device.slots, Prod.mk.injEq] at hslots <;>
    exact ⟨hslots.2.1, hslots.2.2.1, hslots.1⟩

/-- The layout depends on the sizes alone. -/
theorem initBuffers_slots_congr {d e : Device} (h : e.slots = d.slots) :
    e.initBuffers.slots = d.initBuffers.slots := by
  simp only [Device.slots, Prod.mk.injEq] at h
  obtain ⟨hformat, hsize, hnumber, hoffset, -⟩ := h
  have hbuffer : ∀ i, (e.initBuffers.buffers i).offset = (d.initBuffers.buffers i).offset := by
    intro i
    simp only [Device.initBuffers, Device.initialBuffer, hnumber, hsize]
    split
    · rfl
    · exact congrFun hoffset i
  simp only [Device.slots, Prod.mk.injEq]
  refine ⟨hformat, hsize, hnumber, funext hbuffer, ?_⟩
  show toUInt32 (toInt32 (MAX_BUFFERS * toInt32 e.bufferSize)) =
    toUInt32 (toInt32 (MAX_BUFFERS * toInt32 d.bufferSize))
  rw [hsize]

theorem initBuffers_slots_idem (d : Device) :
    d.initBuffers.initBuffers.slots = d.initBuffers.slots := by
  have hbuffer : ∀ i, (d.initBuffers.initBuffers.buffers i).offset =
      (d.initBuffers.buffers i).offset := by
    intro i
    simp only [Device.initBuffers, Device.initialBuffer]
    split <;> rfl
  simp only [Device.slots, Prod.mk.injEq]
  exact ⟨rfl, rfl, rfl, funext hbuffer, rfl⟩

theorem SlotMove.trans {d₁ d₂ d₃ : Device} (h : SlotMove d₁ d₂) (h' : SlotMove d₂ d₃) :
    SlotMove d₁ d₃ := by
  have hinit : d₂.initBuffers.slots = d₁.initBuffers.slots := by
    rcases h.slots with hsame | hinit
    · exact initBuffers_slots_congr hsame
    · exact (initBuffers_slots_congr hinit).trans (initBuffers_slots_idem d₁)
  constructor
  · rcases h'.slots with hsame | hmade
    · rw [hsame]
      exact h.slots
    · right
      exact hmade.trans hinit
  · intro hsome
    rcases h'.made hsome with ⟨hsome₂, hsize₂⟩ | ⟨hmade, hsize⟩
    · rcases h.made hsome₂ with ⟨hsome₁, hsize₁⟩ | ⟨hmade, hsize⟩
      · exact Or.inl ⟨hsome₁, hsize₂.trans hsize₁⟩
      · right
        refine ⟨?_, hsize₂.trans hsize⟩
        rcases h'.slots with hsame | hmade'
        · exact hsame.trans hmade
        · exact hmade'.trans hinit
    · right
      rw [h.bufferSize.1, h.bufferSize.2.1] at hsize
      exact ⟨hmade.trans hinit, hsize⟩

/-! ### Operations

Each operation either leaves the layout or makes the one of `init_buffers`. -/

namespace Device

theorem initBuffers_slots (d : Device) : SlotMove d d.initBuffers :=
  ⟨Or.inr rfl, fun hsome => Or.inl ⟨hsome, rfl⟩⟩

theorem checkTimers_slots (d : Device) : SlotMove d d.checkTimers := by
  unfold checkTimers
  split <;> exact SlotMove.same rfl id rfl

/-- Changing a buffer elsewhere leaves its offset. -/
theorem updateBuffer_slots (d : Device) (i : Nat) {f : V4l2Buffer → V4l2Buffer}
    (hf : ∀ b, (f b).offset = b.offset) : SlotMove d (d.updateBuffer i f) := by
  have hoffset : ∀ j, ((d.updateBuffer i f).buffers j).offset = (d.buffers j).offset := by
    intro j
    by_cases hj : j = i
    · subst hj
      simp [updateBuffer, hf]
    · simp [updateBuffer, hj]
  have hslots : (d.updateBuffer i f).slots = d.slots := by
    simp only [slots, hoffset]
    rfl
  exact SlotMove.same hslots id rfl

theorem allocateTimeoutImage_slots (d : Device) (mem : Allocation) :
    SlotMove d (d.allocateTimeoutImage mem).2 := by
  unfold allocateTimeoutImage
  split_ifs <;> exact SlotMove.same rfl id rfl

theorem vmallocBuffers_slots (d : Device) (mem : Allocation) :
    SlotMove d (d.vmallocBuffers mem).2 := by
  -- allocating the timeout image shows neither in the slots nor in the size of the image
  have hsecond : ∃ e : Device, e.slots = d.slots ∧
      e.imagesize = d.bufferSize * d.ring.buffersNumber ∧
      d.vmallocBuffers mem = if e.image.isNone then (-ENOMEM, e) else (0, e.initBuffers) := by
    by_cases hj : 0 < (d.vmallocImage mem).timeoutJiffies
    · refine ⟨((d.vmallocImage mem).allocateTimeoutImage mem).2, ?_, ?_, ?_⟩
      · unfold allocateTimeoutImage
        split_ifs <;> rfl
      · exact ((d.vmallocImage mem).allocateTimeoutImage_frame mem).imagesize
      · simp only [vmallocBuffers, hj, if_true]
    · refine ⟨d.vmallocImage mem, rfl, rfl, ?_⟩
      simp only [vmallocBuffers, hj, if_false]
  obtain ⟨e, hslots, hsize, he⟩ := hsecond
  rw [he]
  split
  · rename_i hnone
    refine ⟨Or.inl hslots, fun hsome => ?_⟩
    exact absurd hsome (by simp [Option.isNone_iff_eq_none.mp hnone])
  · have hlaid : e.initBuffers.slots = d.initBuffers.slots := initBuffers_slots_congr hslots
    exact ⟨Or.inr hlaid, fun _ => Or.inr ⟨hlaid, hsize⟩⟩

theorem allocateBuffers_slots (d : Device) (mem : Allocation) :
    SlotMove d (d.allocateBuffers mem).2 := by
  have hfree : SlotMove d d.freeBuffers := ⟨Or.inl rfl, fun hsome => by cases hsome⟩
  unfold allocateBuffers
  split_ifs
  · exact SlotMove.refl d
  · exact SlotMove.refl d
  · exact hfree.trans (d.freeBuffers.vmallocBuffers_slots mem)
  · exact SlotMove.refl d
  · exact d.vmallocBuffers_slots mem

theorem setTimeperframe_slots {cfg : Config} {d d' : Device} {tpf : Fract}
    (h : d.setTimeperframe cfg tpf = .ok d') : SlotMove d d' := by
  obtain ⟨-, rfl⟩ := setTimeperframe_eq_ok h
  exact SlotMove.same rfl id rfl

theorem bufferWritten_slots {d d' : Device} {buf : Nat} (h : d.bufferWritten buf = .ok d') :
    SlotMove d d' := by
  obtain ⟨pos, -, -, rfl⟩ := bufferWritten_eq_ok h
  refine SlotMove.trans ?_ (checkTimers_slots _)
  exact SlotMove.same rfl id rfl

theorem tryFreeBuffers_slots {d : Device} (hcount : d.openCount ≠ 0) :
    SlotMove d d.tryFreeBuffers := by
  rw [tryFreeBuffers, if_neg (fun h => hcount h.1)]
  exact SlotMove.refl d

end Device

theorem grantBuffers_slots (d : Device) (count : Nat) : SlotMove d (grantBuffers d count) := by
  obtain ⟨ring, hgrant, hnumber⟩ := grantBuffers_eq d count
  rw [hgrant]
  exact SlotMove.same (by rw [Device.slots, hnumber]; rfl) id rfl

theorem ReqbufsMove.slots {d d' : Device} {o o' : Opener} {memory : MemoryType} {count : Nat}
    (h : ReqbufsMove d o memory count d' o') : SlotMove d d' := by
  cases h with
  | timeoutImage => exact SlotMove.refl d
  | renumbered => exact d.initBuffers_slots
  | granted => exact d.initBuffers_slots.trans (grantBuffers_slots _ _)

theorem QbufMove.slots {d d' : Device} {o : Opener} {type : BufType} {index : Nat}
    (h : QbufMove d o type index d') : SlotMove d d' := by
  cases h with
  | ignored => exact SlotMove.refl d
  | queued i => exact d.updateBuffer_slots i fun _ => rfl
  | written i e htype hready hi hwritten =>
      refine SlotMove.trans ?_ (Device.bufferWritten_slots hwritten)
      exact d.updateBuffer_slots i fun _ => rfl

theorem getCaptureBuffer_slots {w : Waiting} {d d' : Device} {o o' : Opener} {ret : Option Int}
    (h : getCaptureBuffer w d o = .ok (ret, d', o')) : SlotMove d d' := by
  obtain ⟨c, hc, h⟩ := bind_eq_ok.mp h
  have hcaptured : SlotMove d d.captured := d.checkTimers_slots.trans (.same rfl id rfl)
  cases captureIndex_move hc with
  | again =>
      cases h
      exact SlotMove.refl d
  | asleep =>
      cases h
      exact d.checkTimers_slots
  | index pos hgo hpos =>
      simp only at h
      split at h
      · obtain ⟨e, hcopy, h⟩ := bind_eq_ok.mp h
        obtain ⟨i, -, hcopy⟩ := bind_eq_ok.mp hcopy
        obtain ⟨bytes, -, hcopy⟩ := bind_eq_ok.mp hcopy
        obtain ⟨image, himage, hcopy⟩ := bind_eq_ok.mp hcopy
        cases hcopy
        cases h
        exact hcaptured.trans (.same rfl (store_isSome himage).symm.trans rfl)
      · cases h
        exact hcaptured

theorem DqbufMove.slots {w : Waiting} {d d' : Device} {o o' : Opener} {type : BufType}
    (h : DqbufMove w d o type d' o') : SlotMove d d' := by
  cases h with
  | ignored => exact SlotMove.refl d
  | captured ret e _ _ hio hcapture hflags =>
      have hslots := getCaptureBuffer_slots hcapture
      rcases hflags with rfl | ⟨i, rfl⟩
      · exact hslots
      · exact hslots.trans (e.updateBuffer_slots i fun _ => rfl)
  | taken i =>
      have hflags : SlotMove d (d.updateBuffer i unsetFlags) :=
        d.updateBuffer_slots i fun _ => rfl
      exact hflags.trans (.same rfl id rfl)

theorem WriteMove.slots {fault : Option Nat} {d d' : Device} (h : WriteMove d fault d') :
    SlotMove d d' := by
  cases h with
  | cut k image hsome => exact .same rfl hsome.symm.trans rfl
  | written i image _ hi hsome hwritten =>
      refine SlotMove.trans ?_ (Device.bufferWritten_slots hwritten)
      have hstored : SlotMove d { d with image } := .same rfl hsome.symm.trans rfl
      apply hstored.trans
      exact Device.updateBuffer_slots { d with image } i
        (f := fun b => { b with sequence := toUInt32 d.writePosition }) fun _ => rfl

theorem MmapMove.slots {mem : Allocation} {d d' : Device} (h : MmapMove mem d d') :
    SlotMove d d' := by
  have halloc : ∀ e, (e = if d.image.isNone then (d.allocateBuffers mem).2 else d) →
      SlotMove d e := by
    rintro e rfl
    split
    · exact d.allocateBuffers_slots mem
    · exact SlotMove.refl d
  cases h with
  | refused => exact SlotMove.refl d
  | allocated _ he => exact halloc _ he
  | timeoutImage e he => exact (halloc e he).trans (.same rfl id rfl)
  | mapped e i he => exact (halloc e he).trans (e.updateBuffer_slots i fun _ => rfl)

theorem CtrlMove.slots {cfg : Config} {mem : Allocation} {d d' : Device} {id : ControlId}
    {value : Int} (hcount : d.openCount ≠ 0) (h : CtrlMove cfg mem d value id d') :
    SlotMove d d' := by
  cases h with
  | refused => exact SlotMove.refl d
  | keepFormat =>
      refine SlotMove.trans ?_ (Device.tryFreeBuffers_slots hcount)
      exact SlotMove.same rfl id rfl
  | sustainFramerate =>
      refine SlotMove.trans ?_ (Device.checkTimers_slots _)
      exact SlotMove.same rfl id rfl
  | timeout hrange =>
      refine SlotMove.trans ?_ (Device.allocateTimeoutImage_slots _ mem)
      refine SlotMove.trans ?_ (Device.checkTimers_slots _)
      exact SlotMove.same rfl id rfl
  | timeoutImageIo => exact SlotMove.same rfl id rfl

theorem request_slots {cfg : Config} {d d' : Device} {o o' : Opener} {req : Request}
    {reply : Reply} (hready : d.readyForCapture = true) (hcount : d.openCount ≠ 0)
    (h : request cfg d o req = .ok (reply, d', o')) : SlotMove d d' := by
  have htry : ∀ f, (vidiocTryFmtOut d f).2 = d := by
    intro f
    rw [vidiocTryFmtOut, if_pos hready]
  cases request_move h with
  | counted width height n => exact SlotMove.refl d
  | tried f =>
      rw [htry]
      exact SlotMove.refl d
  | formatted f mem =>
      simp only [vidiocSFmtOut, htry, if_pos hready]
      exact SlotMove.refl d
  | interval type tpf _ htype hset => exact Device.setTimeperframe_slots hset
  | unsupported code tpf => exact SlotMove.refl d
  | control id value mem _ hctrl => exact hctrl.slots hcount
  | granted memory count _ _ hgrant => exact hgrant.slots
  | queried type index => exact SlotMove.refl d
  | queued type index _ hqueue => exact hqueue.slots
  | dequeued type w _ _ hdequeue => exact hdequeue.slots
  | started mem =>
      rw [allocateOnce_ready hready]
      exact SlotMove.refl d
  | streaming type mem t => exact SlotMove.refl d
  | mapped pgoff size mem inserted _ hmap => exact hmap.slots
  | captured count w fault ret _ _ hcapture => exact getCaptureBuffer_slots hcapture
  | unallocated buf mem fault =>
      rw [allocateOnce_ready hready]
      exact SlotMove.refl d
  | wrote buf mem fault _ hwrite =>
      rw [allocateOnce_ready hready] at hwrite
      exact hwrite.slots
  | polled _ hpoll =>
      rcases hpoll with rfl | rfl
      · exact SlotMove.refl _
      · exact d.checkTimers_slots

end DroidCam.Loopback
