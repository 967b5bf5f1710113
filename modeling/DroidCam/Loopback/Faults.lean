import DroidCam.Loopback.RingMoves

/-
  DroidCam/Loopback/Faults.lean
  =============================
  Why an operation of the driver can have no defined result.

  `FaultCause` gives each fault the state that causes it, so a property of the
  state that excludes the cause excludes the fault.
-/

namespace DroidCam.Loopback

open CArith ByteMemory

/-- The cause of a fault.  A buffer that is addressed through `% used_buffers` is
    one of the buffers in use, so an unlinked one is missing from the list. -/
inductive FaultCause (d : Device) : Fault → Prop
  | denominator : FaultCause d .divideByZero
  | remainder (h : d.ring.usedBuffers = 0) : FaultCause d .remainderByZero
  | index (i : Int) : FaultCause d (.badIndex i)
  | listHead (h : d.ring.outbufsList = []) : FaultCause d .listHead
  | unlinked (buf : Nat) (hused : buf < d.ring.usedBuffers) (h : buf ∉ d.ring.outbufsList) :
      FaultCause d .unlinkedEntry
  | image (h : d.image = none ∨ d.readyForCapture = false) : FaultCause d .nullImage
  | timeoutImage (hhappened : d.timeoutHappened = true) (h : d.timeoutImage = none) :
      FaultCause d .nullTimeoutImage

/-- A fault of an operation that is given no divisor. -/
structure StateFault (d : Device) (f : Fault) : Prop where
  cause : FaultCause d f
  divisor : f ≠ .divideByZero

variable {d : Device} {f : Fault}

theorem arrayIndex_fault {i : Int} (h : arrayIndex i = .error f) : StateFault d f := by
  unfold arrayIndex at h
  split at h
  · cases h
  · cases h
    exact ⟨.index i, by simp⟩

theorem ringSlot_fault {x : Int} (h : ringSlot x d.ring.usedBuffers = .error f) :
    StateFault d f := by
  unfold ringSlot at h
  split at h
  · rename_i hzero
    cases h
    exact ⟨.remainder hzero, by simp⟩
  · exact arrayIndex_fault h

theorem unsignedSlot_fault {u : Nat} (h : unsignedSlot u d.ring.usedBuffers = .error f) :
    StateFault d f := by
  unfold unsignedSlot at h
  split at h
  · rename_i hzero
    cases h
    exact ⟨.remainder hzero, by simp⟩
  · exact arrayIndex_fault h

/-- A position that names an element names one of the buffers in use. -/
theorem ringSlot_eq_ok {x : Int} {used pos : Nat} (h : ringSlot x used = .ok pos) :
    0 ≤ x.tmod used ∧ pos < used := by
  unfold ringSlot arrayIndex at h
  split at h
  · cases h
  · rename_i hused
    split at h
    · rename_i hrange
      cases h
      have hlt : x.tmod used < used :=
        Int.tmod_lt_of_pos x (Int.natCast_pos.mpr (Nat.pos_of_ne_zero hused))
      exact ⟨hrange.1, by omega⟩
    · cases h

theorem unsignedSlot_eq_ok {u used i : Nat} (h : unsignedSlot u used = .ok i) : i < used := by
  unfold unsignedSlot arrayIndex at h
  split at h
  · cases h
  · rename_i hused
    split at h
    · cases h
      have := Nat.mod_lt u (Nat.pos_of_ne_zero hused)
      omega
    · cases h

theorem load_fault {mem : Option (Memory UInt8)} {null : Fault} {off : Int} {n : Nat}
    (h : load mem null off n = .error f) : mem = none ∧ f = null := by
  unfold load at h
  split at h
  · cases h
  · split at h
    · cases h
    · cases h
      exact ⟨rfl, rfl⟩

theorem store_fault {mem : Option (Memory UInt8)} {null : Fault} {off : Int} {bs : List UInt8}
    (h : store mem null off bs = .error f) : mem = none ∧ f = null := by
  unfold store at h
  split at h
  · cases h
  · split at h
    · cases h
    · cases h
      exact ⟨rfl, rfl⟩

theorem bufferWritten_fault {e : Device} {buf : Nat} (hring : e.ring = d.ring)
    (hbuf : buf < d.ring.usedBuffers) (h : e.bufferWritten buf = .error f) : StateFault d f := by
  rcases bind_eq_error.mp h with h | ⟨pos, -, h⟩
  · rw [hring] at h
    exact ringSlot_fault h
  · rcases bind_eq_error.mp h with h | ⟨list, -, h⟩
    · unfold listMoveTail at h
      split at h
      · cases h
      · rename_i hmem
        cases h
        rw [hring] at hmem
        exact ⟨.unlinked buf hbuf hmem, by simp⟩
    · cases h

theorem getCaptureBuffer_fault {w : Waiting} {o : Opener} (h : getCaptureBuffer w d o = .error f) :
    StateFault d f := by
  rcases bind_eq_error.mp h with h | ⟨c, hc, h⟩
  · simp only [captureIndex, canRead, nextPosition_checkTimers, Device.checkTimers_ring] at h
    split at h
    · cases h
    · split at h
      · cases h
      · rcases bind_eq_error.mp h with h | ⟨pos, -, h⟩
        · exact ringSlot_fault h
        · cases h
  · cases captureIndex_move hc with
    | again => cases h
    | asleep => cases h
    | index pos hgo hpos =>
        simp only at h
        split at h
        -- only a pending timeout touches memory here
        · rename_i hhappened
          rcases bind_eq_error.mp h with h | ⟨e, -, h⟩
          · rcases bind_eq_error.mp h with h | ⟨i, -, h⟩
            · exact arrayIndex_fault h
            · rcases bind_eq_error.mp h with h | ⟨bytes, -, h⟩
              · obtain ⟨hnone, rfl⟩ := load_fault h
                exact ⟨.timeoutImage hhappened (d.captured_timeoutImage ▸ hnone), by simp⟩
              · rcases bind_eq_error.mp h with h | ⟨image, -, h⟩
                · obtain ⟨hnone, rfl⟩ := store_fault h
                  exact ⟨.image (Or.inl (d.captured_image ▸ hnone)), by simp⟩
                · cases h
          · cases h
        · cases h

theorem vidiocQbuf_fault {o : Opener} {type : BufType} {index : Nat}
    (h : vidiocQbuf d o type index = .error f) : StateFault d f := by
  unfold vidiocQbuf at h
  split_ifs at h
  rcases bind_eq_error.mp h with h | ⟨i, hi, h⟩
  · exact unsignedSlot_fault h
  · cases type with
    | videoOutput =>
        rcases bind_eq_error.mp h with h | ⟨e, -, h⟩
        · exact bufferWritten_fault (e := d.updateBuffer i setDone) rfl (unsignedSlot_eq_ok hi) h
        · cases h
    | _ => cases h

theorem vidiocDqbuf_fault {w : Waiting} {o : Opener} {type : BufType}
    (h : vidiocDqbuf w d o type = .error f) : StateFault d f := by
  unfold vidiocDqbuf at h
  split at h
  · cases h
  · cases type with
    | videoCapture =>
        rcases bind_eq_error.mp h with h | ⟨⟨ret, e, oe⟩, -, h⟩
        · exact getCaptureBuffer_fault h
        · cases ret with
          | none => cases h
          | some index =>
              simp only at h
              split at h
              · cases h
              · rcases bind_eq_error.mp h with h | ⟨i, -, h⟩
                · exact arrayIndex_fault h
                · split at h <;> cases h
    | videoOutput =>
        simp only at h
        -- `list_first_entry` of an empty list
        split at h
        · rename_i hnil
          cases h
          exact ⟨.listHead hnil, by simp⟩
        · rename_i i rest hlist
          rcases bind_eq_error.mp h with h | ⟨list, -, h⟩
          · rw [listMoveTail, if_pos (by simp [hlist])] at h
            cases h
          · cases h
    | other code => cases h

theorem v4l2LoopbackRead_fault {w : Waiting} {fault : Bool} {o : Opener} {count : Nat}
    (h : v4l2LoopbackRead w fault d o count = .error f) : StateFault d f := by
  rcases bind_eq_error.mp h with h | ⟨⟨ret, e, oe⟩, hcapture, h⟩
  · exact getCaptureBuffer_fault h
  · cases ret with
    | none => cases h
    | some index =>
        simp only at h
        split at h
        · rcases bind_eq_error.mp h with h | ⟨bytes, -, h⟩
          · obtain ⟨hnone, rfl⟩ := load_fault h
            refine ⟨.image (Or.inl ?_), by simp⟩
            have hsome := (getCaptureBuffer_move hcapture).image_isSome
            cases himage : d.image with
            | none => rfl
            | some m => simp [himage, hnone] at hsome
          · split at h <;> cases h
        · cases h

theorem writeFrame_fault {e : Device} {fault : Option Nat} {buf : List UInt8}
    (hring : e.ring = d.ring) (himage : e.image = none → d.image = none ∨ d.readyForCapture = false)
    (h : writeFrame fault e buf = .error f) : StateFault d f := by
  rcases bind_eq_error.mp h with h | ⟨i, hi, h⟩
  · rw [hring] at h
    exact ringSlot_fault h
  · rw [hring] at hi
    cases fault with
    | some k =>
        rcases bind_eq_error.mp h with h | ⟨image, -, h⟩
        · obtain ⟨hnone, rfl⟩ := store_fault h
          exact ⟨.image (himage hnone), by simp⟩
        · cases h
    | none =>
        rcases bind_eq_error.mp h with h | ⟨image, -, h⟩
        · obtain ⟨hnone, rfl⟩ := store_fault h
          exact ⟨.image (himage hnone), by simp⟩
        · rcases bind_eq_error.mp h with h | ⟨e', -, h⟩
          · exact bufferWritten_fault (e := e.storeFrame i image) hring (ringSlot_eq_ok hi).2 h
          · cases h

theorem v4l2LoopbackWrite_fault {mem : Allocation} {fault : Option Nat} {buf : List UInt8}
    (h : v4l2LoopbackWrite mem fault d buf = .error f) : StateFault d f := by
  have hsame := allocateOnce_same mem d
  simp only [v4l2LoopbackWrite] at h
  split at h
  · cases h
  · refine writeFrame_fault hsame.ring (fun hnone => ?_) h
    cases hready : d.readyForCapture with
    | false => exact Or.inr rfl
    | true =>
        rw [allocateOnce, if_pos hready] at hnone
        exact Or.inl hnone

theorem setTimeperframe_fault {cfg : Config} {tpf : Fract}
    (h : d.setTimeperframe cfg tpf = .error f) : f = .divideByZero ∧ tpf.denominator = 0 := by
  unfold Device.setTimeperframe at h
  split at h
  · rename_i hzero
    cases h
    exact ⟨rfl, hzero⟩
  · cases h

/-- A request faults over the state, or S_PARM was given a zero denominator. -/
theorem request_stateFault {cfg : Config} {o : Opener} {req : Request}
    (h : request cfg d o req = .error f) :
    StateFault d f ∨ f = .divideByZero ∧ ∃ type tpf, req = .sParm type tpf ∧
      (type = .videoCapture ∨ type = .videoOutput) ∧ tpf.denominator = 0 := by
  cases req with
  -- the one request that divides, by a denominator of its argument
  | sParm type tpf =>
      right
      cases hparm : vidiocSParm cfg d type tpf with
      | ok r => rw [request, hparm] at h; cases h
      | error g =>
          rw [request, hparm] at h
          cases h
          cases type with
          | other code => cases hparm
          | _ =>
              rcases bind_eq_error.mp hparm with hparm | ⟨e, -, hparm⟩
              · obtain ⟨rfl, hzero⟩ := setTimeperframe_fault hparm
                exact ⟨rfl, _, tpf, rfl, by simp, hzero⟩
              · cases hparm
  | querybuf type index =>
      left
      simp only [request, vidiocQuerybuf] at h
      split at h
      · cases h
      · split_ifs at h
        rcases bind_eq_error.mp h with h | ⟨i, -, h⟩
        · exact unsignedSlot_fault h
        · cases h
  | qbuf type index => exact Or.inl (vidiocQbuf_fault h)
  | dqbuf type w => exact Or.inl (vidiocDqbuf_fault h)
  | read count w fault => exact Or.inl (v4l2LoopbackRead_fault h)
  | write buf mem fault =>
      left
      cases hwrite : v4l2LoopbackWrite mem fault d buf with
      | ok r => rw [request, hwrite] at h; cases h
      | error g =>
          rw [request, hwrite] at h
          cases h
          exact v4l2LoopbackWrite_fault hwrite
  | _ => cases h

/-- **Every fault of a request has its cause in the state.** -/
theorem request_fault {cfg : Config} {o : Opener} {req : Request}
    (h : request cfg d o req = .error f) : FaultCause d f := by
  rcases request_stateFault h with hstate | ⟨rfl, -⟩
  · exact hstate.cause
  · exact .denominator

/-- The attribute checks the divisor. -/
theorem attrStoreFormat_ok (cfg : Config) (d : Device) (text : FormatText) (len : Nat) :
    ∃ r, attrStoreFormat cfg d text len = .ok r := by
  simp only [attrStoreFormat]
  split
  · exact ⟨_, rfl⟩
  · rename_i hnumbers
    have hnum : text.numbers.1.toNat ≠ 0 := by omega
    rw [Device.setTimeperframe, if_neg hnum]
    exact ⟨_, rfl⟩

/-- A call that faults is a request on an open handle. -/
theorem driverStep_fault {cfg : Config} {s : Driver} {call : Call}
    (h : driverStep cfg s call = .error (.fault f)) :
    ∃ file req o, call = .request file req ∧ s.openers.lookup file = some o ∧
      request cfg s.dev o req = .error f := by
  cases call with
  | openDevice file mem kzalloc =>
      simp only [driverStep] at h
      split at h <;> cases h
  | closeDevice file =>
      simp only [driverStep] at h
      split at h <;> cases h
  | request file req =>
      simp only [driverStep] at h
      split at h
      -- only the requests of a handle reach arrays and images
      · cases h
      · rename_i o hfile
        split at h
        · rename_i hreq
          cases h
          exact ⟨file, req, o, rfl, hfile, hreq⟩
        · cases h
  | storeFormat text len =>
      obtain ⟨r, hstore⟩ := attrStoreFormat_ok cfg s.dev text len
      simp only [driverStep, hstore] at h
      cases h
  | storeMaxopeners curr len => cases h
  | _ =>
      simp only [driverStep] at h
      split at h <;> cases h

end DroidCam.Loopback
