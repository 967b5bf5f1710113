import DroidCam.Loopback.Driver

/-
  DroidCam/Loopback/Moves.lean
  ============================
  What a step of the driver can do: `Move` lists its cases, `CaptureMove` the ways
  through `get_capture_buffer`, and `SameRing` says that the buffer ring stays.
-/

namespace DroidCam.Loopback

open CArith ByteMemory LabelledRun

/-! ### Results of calls

A call of the model is a chain of binds, and what it has done is read back from its
result. -/

theorem bind_eq_ok {ε α β : Type} {x : Except ε α} {f : α → Except ε β} {b : β} :
    (x >>= f) = .ok b ↔ ∃ a, x = .ok a ∧ f a = .ok b := by
  cases x with
  | error e => simp [bind, Except.bind]
  | ok a => simp [bind, Except.bind]

theorem bind_eq_error {ε α β : Type} {x : Except ε α} {f : α → Except ε β} {e : ε} :
    (x >>= f) = .error e ↔ x = .error e ∨ ∃ a, x = .ok a ∧ f a = .error e := by
  cases x with
  | error e => simp [bind, Except.bind]
  | ok a => simp [bind, Except.bind]

theorem map_eq_ok {ε α β : Type} {x : Except ε α} {f : α → β} {b : β} :
    x.map f = .ok b ↔ ∃ a, x = .ok a ∧ f a = b := by
  cases x with
  | error e => simp [Except.map]
  | ok a => simp [Except.map]

theorem toOption_eq_some {ε α : Type} {x : Except ε α} {a : α} :
    x.toOption = some a ↔ x = .ok a := by
  cases x with
  | error e => simp [Except.toOption]
  | ok b => simp [Except.toOption]

/-- The cases of `driverStep`. -/
inductive Move (cfg : Config) (s : Driver) : Call → Driver → Prop
  | openFailed {file mem kzalloc ret d} (hfree : s.openers.lookup file = none)
      (hopen : v4l2LoopbackOpen cfg mem kzalloc s.dev = (ret, d, none)) :
      Move cfg s (.openDevice file mem kzalloc) { s with dev := d }
  | opened {file mem kzalloc ret d o} (hfree : s.openers.lookup file = none)
      (hopen : v4l2LoopbackOpen cfg mem kzalloc s.dev = (ret, d, some o)) :
      Move cfg s (.openDevice file mem kzalloc) (s.afterRequest file d o)
  | closed {file o} (hfile : s.openers.lookup file = some o) :
      Move cfg s (.closeDevice file) ⟨v4l2LoopbackClose s.dev, s.openers.erase file⟩
  | request {file req o reply d o'} (hfile : s.openers.lookup file = some o)
      (hreq : request cfg s.dev o req = .ok (reply, d, o')) :
      Move cfg s (.request file req) (s.afterRequest file d o')
  | sustainTimer (hpending : s.dev.sustainTimer.isSome) :
      Move cfg s .sustainTimer { s with dev := s.dev.sustainTimerClb }
  | timeoutTimer (hpending : s.dev.timeoutTimer.isSome) :
      Move cfg s .timeoutTimer { s with dev := s.dev.timeoutTimerClb }
  | storeFormat {text len reply d} (hstore : attrStoreFormat cfg s.dev text len = .ok (reply, d)) :
      Move cfg s (.storeFormat text len) { s with dev := d }
  | storeMaxopeners {curr len} :
      Move cfg s (.storeMaxopeners curr len)
        { s with dev := (attrStoreMaxopeners s.dev curr len).2 }

theorem Step.move {cfg : Config} {s t : Driver} {call : Call} (h : Step cfg s call t) :
    Move cfg s call t := by
  simp only [ofNext, next] at h
  split at h
  · rename_i reply t' hstep
    obtain rfl := Option.some.inj h
    unfold driverStep at hstep
    split at hstep
    · split at hstep
      · cases hstep
      · rename_i hfree hopen
        cases hstep
        exact .openFailed hfree hopen
      · rename_i hfree hopen
        cases hstep
        exact .opened hfree hopen
    · split at hstep
      · cases hstep
      · rename_i hfile
        cases hstep
        exact .closed hfile
    · split at hstep
      · cases hstep
      · rename_i hfile
        split at hstep
        · cases hstep
        · rename_i hreq
          cases hstep
          exact .request hfile hreq
    · split at hstep
      · cases hstep
        exact .sustainTimer ‹_›
      · cases hstep
    · split at hstep
      · cases hstep
        exact .timeoutTimer ‹_›
      · cases hstep
    · split at hstep
      · cases hstep
      · rename_i hstore
        cases hstep
        exact .storeFormat hstore
    · cases hstep
      exact .storeMaxopeners
  · cases h

/-! ### The buffer ring

The counters of the ring change in few places; everything else is the same ring, with
buffers that may be numbered anew. -/

/-- Nothing happens to the ring, except that `init_buffers` may number the buffers. -/
structure SameRing (d d' : Device) : Prop where
  ring : d'.ring = d.ring
  index : ∀ i, (d'.buffers i).index = (d.buffers i).index ∨ (d'.buffers i).index = i
  writePosition : d'.writePosition = d.writePosition
  framesWritten : d'.framesWritten = d.framesWritten

theorem SameRing.refl (d : Device) : SameRing d d := ⟨rfl, fun _ => Or.inl rfl, rfl, rfl⟩

theorem SameRing.trans {d₁ d₂ d₃ : Device} (h : SameRing d₁ d₂) (h' : SameRing d₂ d₃) :
    SameRing d₁ d₃ where
  ring := h'.ring.trans h.ring
  index := by
    intro i
    rcases h'.index i with h₂ | h₂
    · rw [h₂]
      exact h.index i
    · exact Or.inr h₂
  writePosition := h'.writePosition.trans h.writePosition
  framesWritten := h'.framesWritten.trans h.framesWritten

/-- A change that leaves all four fields alone. -/
theorem SameRing.of_eq {d d' : Device} (hring : d'.ring = d.ring) (hbuffers : d'.buffers = d.buffers)
    (hpos : d'.writePosition = d.writePosition) (hframes : d'.framesWritten = d.framesWritten) :
    SameRing d d' :=
  ⟨hring, fun _ => Or.inl (by rw [hbuffers]), hpos, hframes⟩

namespace Device

theorem checkTimers_same (d : Device) : SameRing d d.checkTimers := by
  unfold checkTimers
  split
  · exact SameRing.of_eq rfl rfl rfl rfl
  · exact SameRing.refl d

@[simp] theorem checkTimers_ring (d : Device) : d.checkTimers.ring = d.ring :=
  d.checkTimers_same.ring

@[simp] theorem checkTimers_image (d : Device) : d.checkTimers.image = d.image := by
  unfold checkTimers
  split <;> rfl

@[simp] theorem checkTimers_timeoutImage (d : Device) :
    d.checkTimers.timeoutImage = d.timeoutImage := by
  unfold checkTimers
  split <;> rfl

@[simp] theorem checkTimers_timeoutHappened (d : Device) :
    d.checkTimers.timeoutHappened = d.timeoutHappened := by
  unfold checkTimers
  split <;> rfl

theorem setReady_same (d : Device) : SameRing d d.setReady := SameRing.of_eq rfl rfl rfl rfl

theorem countOpen_same (d : Device) : SameRing d d.countOpen := SameRing.of_eq rfl rfl rfl rfl

theorem setMaxOpeners_same (d : Device) (n : Int) : SameRing d (d.setMaxOpeners n) :=
  SameRing.of_eq rfl rfl rfl rfl

theorem sustainTimerClb_same (d : Device) : SameRing d d.sustainTimerClb := by
  unfold sustainTimerClb
  split <;> exact SameRing.of_eq rfl rfl rfl rfl

theorem timeoutTimerClb_same (d : Device) : SameRing d d.timeoutTimerClb := by
  unfold timeoutTimerClb
  split <;> exact SameRing.of_eq rfl rfl rfl rfl

theorem updateBuffer_same (d : Device) (i : Nat) (f : V4l2Buffer → V4l2Buffer)
    (hf : ∀ b, (f b).index = b.index) : SameRing d (d.updateBuffer i f) where
  ring := rfl
  index := by
    intro j
    left
    by_cases hj : j = i
    · subst hj
      simp [updateBuffer, hf]
    · simp [updateBuffer, hj]
  writePosition := rfl
  framesWritten := rfl

theorem initBuffers_same (d : Device) : SameRing d d.initBuffers where
  ring := rfl
  index := by
    intro i
    simp only [initBuffers, initialBuffer]
    split
    · exact Or.inr rfl
    · exact Or.inl rfl
  writePosition := rfl
  framesWritten := rfl

theorem allocateTimeoutImage_same (mem : Allocation) (d : Device) :
    SameRing d (d.allocateTimeoutImage mem).2 := by
  unfold allocateTimeoutImage
  split_ifs
  · exact SameRing.refl d
  · exact SameRing.of_eq rfl rfl rfl rfl
  · exact SameRing.refl d
  · exact SameRing.refl d

theorem vmallocBuffers_same (mem : Allocation) (d : Device) :
    SameRing d (d.vmallocBuffers mem).2 := by
  have himage : SameRing d (d.vmallocImage mem) := SameRing.of_eq rfl rfl rfl rfl
  have htimeout := himage.trans (allocateTimeoutImage_same mem _)
  simp only [vmallocBuffers]
  split_ifs
  · exact htimeout
  · exact htimeout.trans (initBuffers_same _)
  · exact himage
  · exact himage.trans (initBuffers_same _)

theorem allocateBuffers_same (mem : Allocation) (d : Device) :
    SameRing d (d.allocateBuffers mem).2 := by
  have hfree : SameRing d d.freeBuffers := SameRing.of_eq rfl rfl rfl rfl
  unfold allocateBuffers
  split_ifs
  · exact SameRing.refl d
  · exact SameRing.refl d
  · exact hfree.trans (vmallocBuffers_same mem _)
  · exact SameRing.refl d
  · exact vmallocBuffers_same mem d

theorem setTimeperframe_eq_ok {cfg : Config} {d d' : Device} {tpf : Fract}
    (h : d.setTimeperframe cfg tpf = .ok d') :
    tpf.denominator ≠ 0 ∧ d' = { d with
      timeperframe := tpf
      frameJiffies := max 1 (cfg.msecsToJiffies 1000 * tpf.numerator / tpf.denominator) } := by
  unfold setTimeperframe at h
  split at h
  · cases h
  · rename_i hdenominator
    cases h
    exact ⟨hdenominator, rfl⟩

theorem setTimeperframe_same {cfg : Config} {d d' : Device} {tpf : Fract}
    (h : d.setTimeperframe cfg tpf = .ok d') : SameRing d d' := by
  obtain ⟨-, rfl⟩ := setTimeperframe_eq_ok h
  exact SameRing.of_eq rfl rfl rfl rfl

@[simp] theorem frameDone_ring (d : Device) (buf pos : Nat) (list : List Nat) :
    (d.frameDone buf pos list).ring = { d.ring with
      bufpos2index := Function.update d.ring.bufpos2index pos (d.buffers buf).index
      outbufsList := list } :=
  (checkTimers_same _).ring

@[simp] theorem frameDone_buffers (d : Device) (buf pos : Nat) (list : List Nat) :
    (d.frameDone buf pos list).buffers = d.buffers := by
  unfold frameDone checkTimers
  split <;> rfl

@[simp] theorem frameDone_image (d : Device) (buf pos : Nat) (list : List Nat) :
    (d.frameDone buf pos list).image = d.image :=
  checkTimers_image _

@[simp] theorem frameDone_writePosition (d : Device) (buf pos : Nat) (list : List Nat) :
    (d.frameDone buf pos list).writePosition = toInt32 (d.writePosition + 1) :=
  (checkTimers_same _).writePosition

@[simp] theorem frameDone_framesWritten (d : Device) (buf pos : Nat) (list : List Nat) :
    (d.frameDone buf pos list).framesWritten = d.framesWritten + 1 :=
  (checkTimers_same _).framesWritten

/-- A completed frame goes to the buffer at `write_position`, which becomes the
    most recently used one. -/
theorem bufferWritten_eq_ok {d d' : Device} {buf : Nat} (h : d.bufferWritten buf = .ok d') :
    ∃ pos, ringSlot d.writePosition d.ring.usedBuffers = .ok pos ∧ buf ∈ d.ring.outbufsList ∧
      d' = d.frameDone buf pos (Recency.moveToTail d.ring.outbufsList buf) := by
  obtain ⟨pos, hpos, h⟩ := bind_eq_ok.mp h
  obtain ⟨list, hlist, h⟩ := bind_eq_ok.mp h
  unfold listMoveTail at hlist
  split at hlist
  · cases hlist
    cases h
    exact ⟨pos, hpos, ‹_›, rfl⟩
  · cases hlist

end Device

/-! ### Captures

The capture of a reader and its DQBUF share this function, and so do their lemmas. -/

@[simp] theorem nextPosition_checkTimers (d : Device) (o : Opener) :
    nextPosition d.checkTimers o = nextPosition d o := by
  unfold Device.checkTimers
  split <;> rfl

/-- The device after the critical section of `get_capture_buffer`. -/
def Device.captured (d : Device) : Device := d.checkTimers.clearTimeout

/-- The ways through `get_capture_buffer` up to its `ret`. -/
inductive IndexMove (w : Waiting) (d : Device) (o : Opener) : Captured → Prop
  | again (hnonblock : w.nonblock = true) (hempty : readable d o = false) :
      IndexMove w d o .again
  | asleep (hblock : w.nonblock = false) (hempty : readable d o = false)
      (hsignal : w.signal = false) : IndexMove w d o (.asleep d.checkTimers)
  | index (pos : Nat) (hgo : readable d o = true ∨ w.nonblock = false ∧ w.signal = true)
      (hpos : ringSlot (nextPosition d o).1 d.ring.usedBuffers = .ok pos) :
      IndexMove w d o
        (.index (d.ring.bufpos2index pos) d.timeoutHappened d.captured (nextPosition d o).2)

theorem captureIndex_move {w : Waiting} {d : Device} {o : Opener} {c : Captured}
    (h : captureIndex w d o = .ok c) : IndexMove w d o c := by
  simp only [captureIndex, canRead, nextPosition_checkTimers, Device.checkTimers_ring,
    Device.checkTimers_timeoutHappened] at h
  split at h
  · rename_i hagain
    cases h
    exact .again hagain.1 hagain.2
  · rename_i hagain
    split at h
    · rename_i hsleep
      cases h
      refine .asleep ?_ hsleep.1 hsleep.2
      cases hn : w.nonblock
      · rfl
      · exact absurd ⟨hn, hsleep.1⟩ hagain
    · rename_i hsleep
      obtain ⟨pos, hpos, h⟩ := bind_eq_ok.mp h
      cases h
      refine .index pos ?_ hpos
      cases hr : readable d o
      · right
        simp_all
      · exact Or.inl rfl

/-- The ways through `get_capture_buffer`. -/
inductive CaptureMove (w : Waiting) (d : Device) (o : Opener) :
    Option Int → Device → Opener → Prop
  | again (hnonblock : w.nonblock = true) (hempty : readable d o = false) :
      CaptureMove w d o (some (-EAGAIN)) d o
  | asleep (hblock : w.nonblock = false) (hempty : readable d o = false)
      (hsignal : w.signal = false) : CaptureMove w d o none d.checkTimers o
  | index (pos : Nat) (image : Option (Memory UInt8))
      (hgo : readable d o = true ∨ w.nonblock = false ∧ w.signal = true)
      (hpos : ringSlot (nextPosition d o).1 d.ring.usedBuffers = .ok pos)
      (himage : d.timeoutHappened = false → image = d.image)
      (hsome : d.image.isSome → image.isSome) :
      CaptureMove w d o (some (d.ring.bufpos2index pos)) { d.captured with image }
        (nextPosition d o).2

theorem Device.captured_image (d : Device) : d.captured.image = d.image :=
  d.checkTimers_image

theorem Device.captured_timeoutImage (d : Device) : d.captured.timeoutImage = d.timeoutImage :=
  d.checkTimers_timeoutImage

theorem getCaptureBuffer_move {w : Waiting} {d d' : Device} {o o' : Opener} {ret : Option Int}
    (h : getCaptureBuffer w d o = .ok (ret, d', o')) : CaptureMove w d o ret d' o' := by
  obtain ⟨c, hc, h⟩ := bind_eq_ok.mp h
  cases captureIndex_move hc with
  | again hnonblock hempty => cases h; exact .again hnonblock hempty
  | asleep hblock hempty hsignal => cases h; exact .asleep hblock hempty hsignal
  -- an index is given; a pending timeout puts its image in the slot first
  | index pos hgo hpos =>
      simp only at h
      split at h
      · rename_i hhappened
        obtain ⟨d'', hcopy, h⟩ := bind_eq_ok.mp h
        obtain ⟨i, -, hcopy⟩ := bind_eq_ok.mp hcopy
        obtain ⟨bytes, -, hcopy⟩ := bind_eq_ok.mp hcopy
        obtain ⟨image, himage, hcopy⟩ := bind_eq_ok.mp hcopy
        cases hcopy
        cases h
        refine .index pos image hgo hpos (by simp [hhappened]) ?_
        intro hsome
        rw [d.captured_image] at himage
        obtain ⟨m, hm⟩ := Option.isSome_iff_exists.mp hsome
        rw [hm] at himage
        cases himage
        rfl
      · cases h
        exact .index pos d.captured.image hgo hpos (fun _ => d.captured_image)
          (fun hsome => d.captured_image ▸ hsome)

/-- A capture neither makes nor frees the image. -/
theorem CaptureMove.image_isSome {w : Waiting} {d d' : Device} {o o' : Opener} {ret : Option Int}
    (h : CaptureMove w d o ret d' o') : d.image.isSome = true → d'.image.isSome = true := by
  cases h with
  | again => exact id
  | asleep =>
      intro hsome
      rwa [d.checkTimers_image]
  | index pos image hgo hpos himage hsome => exact hsome

theorem CaptureMove.same {w : Waiting} {d d' : Device} {o o' : Opener} {ret : Option Int}
    (h : CaptureMove w d o ret d' o') : SameRing d d' := by
  cases h with
  | again => exact SameRing.refl d
  | asleep => exact d.checkTimers_same
  | index => exact d.checkTimers_same.trans (SameRing.of_eq rfl rfl rfl rfl)

end DroidCam.Loopback
