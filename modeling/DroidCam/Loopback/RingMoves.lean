import DroidCam.Loopback.RequestMoves

/-
  DroidCam/Loopback/RingMoves.lean
  ================================
  What a step of the driver does to the buffer ring (`used_buffers`,
  `outbufs_list`, `bufpos2index`) and to `write_position`.

  Most operations leave it alone.  A completed frame and an OUTPUT DQBUF move a
  buffer to the tail of the list, REQBUFS may shrink the ring, and the last close
  resets the position.
-/

namespace DroidCam.Loopback

open CArith ByteMemory LabelledRun

/-! ### Steps of the ring

One step writes a frame, moves a buffer to the tail, makes a smaller ring or, with the
last close, starts over; the others leave the ring alone. -/

/-- Buffers keep their numbers, or get those of `init_buffers`. -/
def Renumbered (d d' : Device) : Prop :=
  ∀ i, (d'.buffers i).index = (d.buffers i).index ∨ (d'.buffers i).index = i

/-- What a step does to the ring. -/
inductive RingMove (d d' : Device) : Prop
  | same (h : SameRing d d')
  | freed (hring : d'.ring = d.ring) (hindex : Renumbered d d') (hpos : d'.writePosition = 0)
      (hframes : d'.framesWritten = d.framesWritten) (hcount : d'.openCount = 0)
  | written (buf pos index : Nat)
      (hslot : ringSlot d.writePosition d.ring.usedBuffers = .ok pos)
      (hbuf : buf ∈ d.ring.outbufsList)
      (hvalue : index = (d.buffers buf).index ∨ index = buf)
      (hring : d'.ring = { d.ring with
        bufpos2index := Function.update d.ring.bufpos2index pos index
        outbufsList := Recency.moveToTail d.ring.outbufsList buf })
      (hindex : Renumbered d d') (hpos : d'.writePosition = toInt32 (d.writePosition + 1))
      (hframes : d'.framesWritten = d.framesWritten + 1)
  | dequeued (buf : Nat) (hbuf : buf ∈ d.ring.outbufsList)
      (hring : d'.ring =
        { d.ring with outbufsList := Recency.moveToTail d.ring.outbufsList buf })
      (hindex : Renumbered d d') (hpos : d'.writePosition = d.writePosition)
      (hframes : d'.framesWritten = d.framesWritten)
  | granted (count : Nat) (hcount : 1 ≤ count) (hle : count ≤ d.ring.buffersNumber)
      (h : d' = grantBuffers d.initBuffers count)

theorem SameRing.tryFreeBuffers {d e : Device} (h : SameRing d e) :
    RingMove d e.tryFreeBuffers := by
  unfold Device.tryFreeBuffers
  split
  · rename_i hfree
    exact .freed h.ring h.index rfl h.framesWritten hfree.1
  · exact .same h

theorem vidiocTryFmtOut_same (d : Device) (f : V4l2PixFormat) :
    SameRing d (vidiocTryFmtOut d f).2 := by
  unfold vidiocTryFmtOut
  split
  · exact SameRing.refl d
  · exact SameRing.of_eq rfl rfl rfl rfl

theorem vidiocSFmtOut_same (mem : Allocation) (d : Device) (f : V4l2PixFormat) :
    SameRing d (vidiocSFmtOut mem d f).2 := by
  have htry := vidiocTryFmtOut_same d f
  simp only [vidiocSFmtOut]
  split
  · exact htry
  · dsimp only
    refine SameRing.trans (htry.trans ?_) (Device.allocateBuffers_same mem _)
    exact SameRing.of_eq rfl rfl rfl rfl

theorem CtrlMove.ringMove {cfg : Config} {mem : Allocation} {d d' : Device} {id : ControlId}
    {value : Int} (h : CtrlMove cfg mem d value id d') : RingMove d d' := by
  cases h with
  | refused => exact .same (SameRing.refl d)
  | keepFormat => exact SameRing.tryFreeBuffers (SameRing.of_eq rfl rfl rfl rfl)
  | sustainFramerate =>
      refine .same (SameRing.trans ?_ (Device.checkTimers_same _))
      exact SameRing.of_eq rfl rfl rfl rfl
  | timeout hrange =>
      refine .same (SameRing.trans ?_ (Device.allocateTimeoutImage_same mem _))
      refine SameRing.trans ?_ (Device.checkTimers_same _)
      exact SameRing.of_eq rfl rfl rfl rfl
  | timeoutImageIo => exact .same (SameRing.of_eq rfl rfl rfl rfl)

/-- REQBUFS keeps the position and the count of the frames. -/
theorem grantBuffers_counters (d : Device) (count : Nat) :
    (grantBuffers d count).writePosition = d.writePosition ∧
      (grantBuffers d count).framesWritten = d.framesWritten := by
  obtain ⟨ring, hgrant, -⟩ := grantBuffers_eq d count
  rw [hgrant]
  exact ⟨rfl, rfl⟩

theorem ReqbufsMove.ringMove {d d' : Device} {o o' : Opener} {memory : MemoryType} {count : Nat}
    (hnumber : 1 ≤ d.ring.buffersNumber) (h : ReqbufsMove d o memory count d' o') :
    RingMove d d' := by
  cases h with
  | timeoutImage => exact .same (SameRing.refl d)
  | renumbered => exact .same d.initBuffers_same
  | granted hio hmemory hcount =>
      refine .granted (min count d.ring.buffersNumber) ?_ (Nat.min_le_right _ _) rfl
      omega

/-- A frame written after a change that kept the ring. -/
theorem RingMove.of_written {d e d' : Device} {buf : Nat} (hsame : SameRing d e)
    (h : e.bufferWritten buf = .ok d') : RingMove d d' := by
  obtain ⟨pos, hpos, hbuf, rfl⟩ := Device.bufferWritten_eq_ok h
  rw [hsame.ring, hsame.writePosition] at hpos
  rw [hsame.ring] at hbuf
  refine .written buf pos (e.buffers buf).index hpos hbuf (hsame.index buf) ?_ ?_ ?_ ?_
  · rw [Device.frameDone_ring, hsame.ring]
  · intro i
    rw [Device.frameDone_buffers]
    exact hsame.index i
  · rw [Device.frameDone_writePosition, hsame.writePosition]
  · rw [Device.frameDone_framesWritten, hsame.framesWritten]

theorem QbufMove.ringMove {d d' : Device} {o : Opener} {type : BufType} {index : Nat}
    (h : QbufMove d o type index d') : RingMove d d' := by
  cases h with
  | ignored => exact .same (SameRing.refl d)
  | queued i => exact .same (d.updateBuffer_same i setQueued fun _ => rfl)
  | written i e htype hready hi hwritten =>
      exact .of_written (d.updateBuffer_same i setDone fun _ => rfl) hwritten

theorem getCaptureBuffer_same {w : Waiting} {d d' : Device} {o o' : Opener} {ret : Option Int}
    (h : getCaptureBuffer w d o = .ok (ret, d', o')) : SameRing d d' :=
  (getCaptureBuffer_move h).same

/-- A DQBUF of a captured frame. -/
theorem DqbufMove.same {w : Waiting} {d d' : Device} {o o' : Opener} {type : BufType}
    (htype : type ≠ .videoOutput) (h : DqbufMove w d o type d' o') : SameRing d d' := by
  cases h with
  | ignored => exact SameRing.refl d
  | captured ret e _ _ hio hcapture hflags =>
      have hsame := getCaptureBuffer_same hcapture
      rcases hflags with rfl | ⟨i, rfl⟩
      · exact hsame
      · exact hsame.trans (e.updateBuffer_same i unsetFlags fun _ => rfl)
  | taken => exact absurd rfl htype

theorem DqbufMove.ringMove {w : Waiting} {d d' : Device} {o o' : Opener} {type : BufType}
    (h : DqbufMove w d o type d' o') : RingMove d d' := by
  by_cases htype : type = .videoOutput
  · subst htype
    cases h with
    | ignored => exact .same (SameRing.refl d)
    | taken i hio hhead =>
        refine .dequeued i (List.mem_of_mem_head? hhead) rfl ?_ rfl rfl
        exact (d.updateBuffer_same i unsetFlags fun _ => rfl).index
  · exact .same (h.same htype)

theorem allocateOnce_same (mem : Allocation) (d : Device) : SameRing d (allocateOnce mem d).2 := by
  have halloc := d.allocateBuffers_same mem
  simp only [allocateOnce]
  split
  · exact SameRing.refl d
  split
  · exact halloc
  · exact halloc.trans (Device.setReady_same _)

theorem MmapMove.same {mem : Allocation} {d d' : Device} (h : MmapMove mem d d') :
    SameRing d d' := by
  have halloc : ∀ e, (e = if d.image.isNone then (d.allocateBuffers mem).2 else d) →
      SameRing d e := by
    rintro e rfl
    split
    · exact d.allocateBuffers_same mem
    · exact SameRing.refl d
  cases h with
  | refused => exact SameRing.refl d
  | allocated _ he => exact halloc _ he
  | timeoutImage e he => exact (halloc e he).trans (SameRing.of_eq rfl rfl rfl rfl)
  | mapped e i he => exact (halloc e he).trans (e.updateBuffer_same i setMapped fun _ => rfl)

theorem Device.storeFrame_same (d : Device) (i : Nat) (image : Option (Memory UInt8)) :
    SameRing d (d.storeFrame i image) where
  ring := rfl
  index := by
    intro j
    left
    by_cases hj : j = i
    · subst hj
      simp [Device.storeFrame]
    · simp [Device.storeFrame, hj]
  writePosition := rfl
  framesWritten := rfl

theorem WriteMove.ringMove {fault : Option Nat} {d e d' : Device} (hsame : SameRing d e)
    (h : WriteMove e fault d') : RingMove d d' := by
  cases h with
  | cut k image => exact .same (hsame.trans (SameRing.of_eq rfl rfl rfl rfl))
  | written i image _ hi hsome hwritten =>
      exact .of_written (hsame.trans (e.storeFrame_same i image)) hwritten

theorem openFormat_same (cfg : Config) (mem : Allocation) (e : Device) :
    SameRing e (openFormat cfg mem e) :=
  (vidiocSFmtOut_same mem e _).trans (Device.setReady_same _)

theorem v4l2LoopbackOpen_same {cfg : Config} {mem : Allocation} {kzalloc : Bool} {d d' : Device}
    {ret : Int} {o : Option Opener} (h : v4l2LoopbackOpen cfg mem kzalloc d = (ret, d', o)) :
    SameRing d d' := by
  obtain rfl : (v4l2LoopbackOpen cfg mem kzalloc d).2.1 = d' := by rw [h]
  have hcount := d.countOpen_same
  have hformat := openFormat_same cfg mem
  have htimeout := hcount.trans (Device.allocateTimeoutImage_same mem _)
  simp only [v4l2LoopbackOpen]
  split
  · exact SameRing.refl d
  split
  · exact SameRing.refl d
  split
  · split
    · exact htimeout
    · exact htimeout.trans (hformat _)
  · exact hcount.trans (hformat _)

theorem v4l2LoopbackClose_ringMove (d : Device) : RingMove d (v4l2LoopbackClose d) := by
  simp only [v4l2LoopbackClose]
  apply SameRing.tryFreeBuffers
  split <;> exact SameRing.of_eq rfl rfl rfl rfl

/-- The format attribute changes the interval or nothing. -/
theorem attrStoreFormat_dev {cfg : Config} {d d' : Device} {text : FormatText} {len : Nat}
    {reply : Reply} (h : attrStoreFormat cfg d text len = .ok (reply, d')) :
    d' = d ∨ ∃ num den : Int, 1 ≤ num ∧ 1 ≤ den ∧
      d.setTimeperframe cfg ⟨den.toNat, num.toNat⟩ = .ok d' := by
  simp only [attrStoreFormat] at h
  split at h
  · cases h
    exact Or.inl rfl
  · rename_i hnumbers
    obtain ⟨e, he, h⟩ := bind_eq_ok.mp h
    cases h
    exact Or.inr ⟨text.numbers.1, text.numbers.2, by omega, by omega, he⟩

theorem attrStoreFormat_same {cfg : Config} {d d' : Device} {text : FormatText} {len : Nat}
    {reply : Reply} (h : attrStoreFormat cfg d text len = .ok (reply, d')) : SameRing d d' := by
  rcases attrStoreFormat_dev h with rfl | ⟨num, den, -, -, hset⟩
  · exact SameRing.refl _
  · exact Device.setTimeperframe_same hset

/-- The attribute changes `max_openers` or nothing. -/
theorem attrStoreMaxopeners_dev (d : Device) (curr : Option Nat) (len : Nat) :
    (attrStoreMaxopeners d curr len).2 = d ∨
      ∃ n, (attrStoreMaxopeners d curr len).2 = d.setMaxOpeners n := by
  unfold attrStoreMaxopeners
  split
  · exact Or.inl rfl
  · split_ifs
    · exact Or.inl rfl
    · exact Or.inl rfl
    · exact Or.inr ⟨_, rfl⟩

theorem attrStoreMaxopeners_same (d : Device) (curr : Option Nat) (len : Nat) :
    SameRing d (attrStoreMaxopeners d curr len).2 := by
  rcases attrStoreMaxopeners_dev d curr len with hsame | ⟨n, hset⟩
  · rw [hsame]
    exact SameRing.refl d
  · rw [hset]
    exact d.setMaxOpeners_same n

/-- The requests that leave the ring alone. -/
def Request.leavesRing : Request → Bool
  | .sCtrl _ _ _ | .reqbufs _ _ | .qbuf _ _ | .dqbuf .videoOutput _ | .write _ _ _ => false
  | _ => true

theorem request_same {cfg : Config} {d d' : Device} {o o' : Opener} {req : Request}
    {reply : Reply} (hreq : req.leavesRing = true)
    (h : request cfg d o req = .ok (reply, d', o')) : SameRing d d' := by
  cases request_move h with
  | counted width height n => exact SameRing.refl d
  | tried f => exact vidiocTryFmtOut_same d f
  | formatted f mem => exact vidiocSFmtOut_same mem d f
  | interval type tpf _ htype hset => exact Device.setTimeperframe_same hset
  | unsupported code tpf => exact SameRing.refl d
  | queried type index => exact SameRing.refl d
  | dequeued type w _ _ hdequeue =>
      apply hdequeue.same
      rintro rfl
      cases hreq
  | started mem => exact allocateOnce_same mem d
  | streaming type mem t => exact SameRing.refl d
  | mapped pgoff size mem inserted _ hmap => exact hmap.same
  | captured count w fault ret _ _ hcapture => exact getCaptureBuffer_same hcapture
  | polled _ hpoll =>
      rcases hpoll with rfl | rfl
      · exact SameRing.refl _
      · exact d.checkTimers_same
  | _ => cases hreq

theorem request_ringMove {cfg : Config} {d d' : Device} {o o' : Opener} {req : Request}
    {reply : Reply} (hnumber : 1 ≤ d.ring.buffersNumber)
    (h : request cfg d o req = .ok (reply, d', o')) : RingMove d d' := by
  cases request_move h with
  | control id value mem _ hctrl => exact hctrl.ringMove
  | granted memory count _ _ hgrant => exact hgrant.ringMove hnumber
  | queued type index _ hqueue => exact hqueue.ringMove
  | dequeued type w _ _ hdequeue => exact hdequeue.ringMove
  | unallocated buf mem fault => exact .same (allocateOnce_same mem d)
  | wrote buf mem fault _ hwrite => exact hwrite.ringMove (allocateOnce_same mem d)
  | _ => exact .same (request_same rfl h)

/-! ### The order of the buffers

The same steps once more, with the order of the list, which only a shrink looks at. -/

/-- The buffer that a request which completes a frame has filled. -/
def Request.filled (d : Device) : Request → Nat
  | .qbuf _ index => index % d.ring.usedBuffers
  | .write _ _ _ => (d.writePosition.tmod d.ring.usedBuffers).toNat
  | _ => 0

/-- The buffer that a request takes from the head of `outbufs_list`. -/
def Request.dequeued (d : Device) (o : Opener) : Request → Option Nat
  | .dqbuf .videoOutput _ => if o.timeoutImageIo then none else d.ring.outbufsList.head?
  | _ => none

/-- What a request does to the ring, and to which buffer. -/
inductive OrderMove (d : Device) (o : Opener) (req : Request) (d' : Device) : Prop
  | same (hnone : req.dequeued d o = none) (hring : d'.ring = d.ring)
      (hframes : d'.framesWritten = d.framesWritten)
  | written (pos index : Nat)
      (hring : d'.ring = { d.ring with
        bufpos2index := Function.update d.ring.bufpos2index pos index
        outbufsList := Recency.moveToTail d.ring.outbufsList (req.filled d) })
      (hframes : d'.framesWritten = d.framesWritten + 1)
  | dequeued (buf : Nat) (hbuf : req.dequeued d o = some buf)
      (hring : d'.ring =
        { d.ring with outbufsList := Recency.moveToTail d.ring.outbufsList buf })
      (hframes : d'.framesWritten = d.framesWritten)
  | granted (count : Nat) (hreq : ∃ n, req = .reqbufs .mmap n)
      (hring : d'.ring = (grantBuffers d.initBuffers count).ring)
      (hframes : d'.framesWritten = d.framesWritten)

theorem OrderMove.of_same {d d' : Device} {o : Opener} {req : Request}
    (hnone : req.dequeued d o = none) (h : SameRing d d') : OrderMove d o req d' :=
  .same hnone h.ring h.framesWritten

theorem OrderMove.of_written {d e d' : Device} {o : Opener} {req : Request} (hsame : SameRing d e)
    (h : e.bufferWritten (req.filled d) = .ok d') : OrderMove d o req d' := by
  obtain ⟨pos, -, -, rfl⟩ := Device.bufferWritten_eq_ok h
  refine .written pos (e.buffers (req.filled d)).index ?_ ?_
  · rw [Device.frameDone_ring, hsame.ring]
  · rw [Device.frameDone_framesWritten, hsame.framesWritten]

theorem arrayIndex_value {x : Int} {i : Nat} (h : arrayIndex x = .ok i) : i = x.toNat := by
  unfold arrayIndex at h
  split at h
  · exact (Except.ok.inj h).symm
  · cases h

theorem ringSlot_value {x : Int} {used pos : Nat} (h : ringSlot x used = .ok pos) :
    pos = (x.tmod used).toNat := by
  unfold ringSlot at h
  split at h
  · cases h
  · exact arrayIndex_value h

theorem unsignedSlot_value {u used i : Nat} (h : unsignedSlot u used = .ok i) : i = u % used := by
  unfold unsignedSlot at h
  split at h
  · cases h
  · exact (arrayIndex_value h).trans (Int.toNat_natCast _)

theorem tryFreeBuffers_order (d : Device) :
    d.tryFreeBuffers.ring = d.ring ∧ d.tryFreeBuffers.framesWritten = d.framesWritten := by
  unfold Device.tryFreeBuffers
  split <;> exact ⟨rfl, rfl⟩

theorem CtrlMove.order {cfg : Config} {mem : Allocation} {d d' : Device} {id : ControlId}
    {value : Int} (h : CtrlMove cfg mem d value id d') :
    d'.ring = d.ring ∧ d'.framesWritten = d.framesWritten := by
  cases h with
  | refused => exact ⟨rfl, rfl⟩
  | keepFormat => exact tryFreeBuffers_order _
  | sustainFramerate =>
      have hsame := Device.checkTimers_same { d with sustainFramerate := value ≠ 0 }
      exact ⟨hsame.ring, hsame.framesWritten⟩
  | timeout hrange =>
      have hsame := (Device.checkTimers_same
        { d with timeoutJiffies := cfg.msecsToJiffies value.toNat }).trans
          (Device.allocateTimeoutImage_same mem _)
      exact ⟨hsame.ring, hsame.framesWritten⟩
  | timeoutImageIo => exact ⟨rfl, rfl⟩

theorem ReqbufsMove.order {d d' : Device} {o o' : Opener} {memory : MemoryType} {count : Nat}
    (h : ReqbufsMove d o memory count d' o') : OrderMove d o (.reqbufs memory count) d' := by
  cases h with
  | timeoutImage => exact .same rfl rfl rfl
  | renumbered => exact .same rfl rfl rfl
  | granted hio hmemory hcount =>
      exact .granted _ ⟨count, by rw [hmemory]⟩ rfl (grantBuffers_counters _ _).2

theorem QbufMove.order {d d' : Device} {o : Opener} {type : BufType} {index : Nat}
    (h : QbufMove d o type index d') : OrderMove d o (.qbuf type index) d' := by
  cases h with
  | ignored => exact .same rfl rfl rfl
  | queued i => exact .same rfl rfl rfl
  | written i e htype hready hi hwritten =>
      rw [unsignedSlot_value hi] at hwritten
      exact .of_written (d.updateBuffer_same _ setDone fun _ => rfl) hwritten

theorem DqbufMove.order {w : Waiting} {d d' : Device} {o o' : Opener} {type : BufType}
    (h : DqbufMove w d o type d' o') : OrderMove d o (.dqbuf type w) d' := by
  by_cases htype : type = .videoOutput
  · subst htype
    cases h with
    | ignored hout =>
        have hio : o.timeoutImageIo = true := by simpa using hout
        exact .same (by simp [Request.dequeued, hio]) rfl rfl
    | taken i hio hhead => exact .dequeued i (by simp [Request.dequeued, hio, hhead]) rfl rfl
  · refine .of_same ?_ (h.same htype)
    cases type with
    | videoOutput => exact absurd rfl htype
    | _ => rfl

theorem WriteMove.order {fault : Option Nat} {d e d' : Device} {o : Opener} {buf : List UInt8}
    {mem : Allocation} (hsame : SameRing d e) (h : WriteMove e fault d') :
    OrderMove d o (.write buf mem fault) d' := by
  cases h with
  | cut k image => exact .same rfl hsame.ring hsame.framesWritten
  | written i image _ hi hsome hwritten =>
      rw [hsame.writePosition, hsame.ring] at hi
      rw [ringSlot_value hi] at hwritten
      exact .of_written (hsame.trans (e.storeFrame_same _ image)) hwritten

/-- A close keeps the ring, and counts no frame. -/
theorem v4l2LoopbackClose_order (d : Device) :
    (v4l2LoopbackClose d).ring = d.ring ∧
      (v4l2LoopbackClose d).framesWritten = d.framesWritten := by
  simp only [v4l2LoopbackClose]
  split <;> exact tryFreeBuffers_order _

theorem request_order {cfg : Config} {d d' : Device} {o o' : Opener} {req : Request}
    {reply : Reply} (h : request cfg d o req = .ok (reply, d', o')) : OrderMove d o req d' := by
  cases request_move h with
  | control id value mem _ hctrl => exact .same rfl hctrl.order.1 hctrl.order.2
  | granted memory count _ _ hgrant => exact hgrant.order
  | queued type index _ hqueue => exact hqueue.order
  | dequeued type w _ _ hdequeue => exact hdequeue.order
  | unallocated buf mem fault => exact .of_same rfl (allocateOnce_same mem d)
  | wrote buf mem fault _ hwrite => exact hwrite.order (allocateOnce_same mem d)
  | _ => exact .of_same rfl (request_same rfl h)

/-! ### Calls -/

theorem Move.ringMove {cfg : Config} {s t : Driver} {call : Call}
    (hnumber : 1 ≤ s.dev.ring.buffersNumber) (h : Move cfg s call t) : RingMove s.dev t.dev := by
  cases h with
  | openFailed hfree hopen => exact .same (v4l2LoopbackOpen_same hopen)
  | opened hfree hopen => exact .same (v4l2LoopbackOpen_same hopen)
  | closed hfile => exact v4l2LoopbackClose_ringMove s.dev
  | request hfile hreq => exact request_ringMove hnumber hreq
  | sustainTimer => exact .same s.dev.sustainTimerClb_same
  | timeoutTimer => exact .same s.dev.timeoutTimerClb_same
  | storeFormat hstore => exact .same (attrStoreFormat_same hstore)
  | storeMaxopeners => exact .same (attrStoreMaxopeners_same s.dev _ _)

end DroidCam.Loopback
