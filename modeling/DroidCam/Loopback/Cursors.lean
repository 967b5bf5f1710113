import DroidCam.Loopback.Capture
import DroidCam.Loopback.Sessions
import DroidCam.Loopback.Standing

/-
  DroidCam/Loopback/Cursors.lean
  ==============================
  What a step of the driver does to the counters of the device (`write_position`,
  `reread_count`) and to the cursors of the readers.

  `CountMove` lists the first, `HandleMove` the second: only a capture that goes on
  moves a cursor, and only a frame, a tick and the last close change a counter.
-/

namespace DroidCam.Loopback

open CArith LabelledRun

variable {cfg : Config} {s t : Driver} {d d' : Device} {o o' : Opener} {req : Request}
  {reply : Reply} {call : Call}

/-! ### The counters of the device

Three counters move on: a frame that is completed, a tick that repeats one, and all
others leave them alone. -/

/-- The frames and the repeats after a request. -/
theorem StandingMove.counts (h : StandingMove cfg d d' o req) :
    d'.framesWritten = d.framesWritten ∧ d'.rereadCount = d.rereadCount ∨
      req.completes o = true ∧ d'.framesWritten = d.framesWritten + 1 ∧ d'.rereadCount = 0 := by
  cases h with
  | same hstanding => exact Or.inl ⟨hstanding.framesWritten, hstanding.rereadCount⟩
  | interval type tpf hreq htype hset =>
      obtain ⟨-, rfl⟩ := Device.setTimeperframe_eq_ok hset
      exact Or.inl ⟨rfl, rfl⟩
  | timeout value mem hreq hrange hd =>
      have htimeout := d.setTimeout_standing cfg mem value
      rw [hd]
      exact Or.inl ⟨htimeout.framesWritten, htimeout.rereadCount⟩
  | written e buf hcompletes hsame hwritten =>
      have hframe := Device.bufferWritten_standing hwritten
      refine Or.inr ⟨hcompletes, hframe.framesWritten.trans ?_, hframe.rereadCount⟩
      rw [← hsame.framesWritten]

/-- The frames and the position after a change of the ring. -/
theorem RingMove.counts (h : RingMove d d') :
    d'.framesWritten = d.framesWritten ∧
        (d'.writePosition = d.writePosition ∨ d'.writePosition = 0 ∧ d'.openCount = 0) ∨
      d'.framesWritten = d.framesWritten + 1 ∧
        d'.writePosition = toInt32 (d.writePosition + 1) := by
  cases h with
  | same h => exact Or.inl ⟨h.framesWritten, Or.inl h.writePosition⟩
  | freed hring hindex hpos hframes hcount => exact Or.inl ⟨hframes, Or.inr ⟨hpos, hcount⟩⟩
  | written buf pos index hslot hbuf hvalue hring hindex hpos hframes =>
      exact Or.inr ⟨hframes, hpos⟩
  | dequeued buf hbuf hring hindex hpos hframes => exact Or.inl ⟨hframes, Or.inl hpos⟩
  | granted count hcount hle h =>
      obtain ⟨hposition, hframes⟩ := grantBuffers_counters d.initBuffers count
      rw [h]
      exact Or.inl ⟨hframes, Or.inl hposition⟩

/-- What a step does to the counters of the device. -/
inductive CountMove (s : Driver) (call : Call) (t : Driver) : Prop
  | same (hposition : t.dev.writePosition = s.dev.writePosition)
      (hcount : t.dev.rereadCount = s.dev.rereadCount)
      (hframes : t.dev.framesWritten = s.dev.framesWritten)
  | freed (hposition : t.dev.writePosition = 0) (hnone : ∀ file, t.openers.lookup file = none)
      (hcount : t.dev.rereadCount = s.dev.rereadCount)
      (hframes : t.dev.framesWritten = s.dev.framesWritten)
  | ticked (hcall : call = .sustainTimer) (hsustain : s.dev.sustainFramerate = true)
      (hposition : t.dev.writePosition = s.dev.writePosition)
      (hcount : t.dev.rereadCount = toUInt32 (s.dev.rereadCount + 1))
      (hframes : t.dev.framesWritten = s.dev.framesWritten)
  | written (file : Nat) (req : Request) (o : Opener) (hcall : call = .request file req)
      (hfile : s.openers.lookup file = some o) (hcompletes : req.completes o = true)
      (hposition : t.dev.writePosition = toInt32 (s.dev.writePosition + 1))
      (hcount : t.dev.rereadCount = 0)
      (hframes : t.dev.framesWritten = s.dev.framesWritten + 1)

/-- A step that leaves the repeat count and completes no frame. -/
theorem CountMove.of_ringMove (ht : Accounted t) (hring : RingMove s.dev t.dev)
    (hcount : t.dev.rereadCount = s.dev.rereadCount)
    (hframes : t.dev.framesWritten = s.dev.framesWritten) : CountMove s call t := by
  rcases hring.counts with ⟨-, hposition | ⟨hposition, hclosed⟩⟩ | ⟨hmore, -⟩
  · exact .same hposition hcount hframes
  · refine .freed hposition (fun file => ?_) hcount hframes
    cases hfile : t.openers.lookup file with
    | none => rfl
    | some o => exact absurd hclosed (ht.held hfile).2
  · omega

theorem Step.counts (hs : Accounted s) (hring : RingInv s.dev) (h : Step cfg s call t) :
    CountMove s call t := by
  have ht := hs.step h
  have hnumber : 1 ≤ s.dev.ring.buffersNumber := by
    rw [hring.number]
    decide
  have hringMove := h.move.ringMove hnumber
  cases h.standing with
  | same hcall hstanding =>
      exact .of_ringMove ht hringMove hstanding.rereadCount hstanding.framesWritten
  | request file req o o' reply hcall hfile hreq =>
      rcases (request_standing hreq).counts with ⟨hframes, hcount⟩ | ⟨hcompletes, hframes, hcount⟩
      · exact .of_ringMove ht hringMove hcount hframes
      -- a frame is done in the same step in which the write position goes up
      · rcases hringMove.counts with ⟨hfewer, -⟩ | ⟨-, hposition⟩
        · omega
        · exact .written file req o hcall hfile hcompletes hposition hcount hframes
  | ticked hcall hsustain hd =>
      refine .ticked hcall hsustain ?_ ?_ ?_ <;>
        simp only [hd, Device.sustainTimerClb, hsustain, if_true]
  | timedOut hcall hpending hd =>
      rw [Device.timeoutTimerClb] at hd
      refine .same ?_ ?_ ?_ <;> rw [hd] <;> split <;> rfl
  | interval text len num den hcall hnum hden hset =>
      obtain ⟨-, hd⟩ := Device.setTimeperframe_eq_ok hset
      exact .same (by rw [hd]) (by rw [hd]) (by rw [hd])
  | limit curr len n hcall hd => exact .same (by rw [hd]; rfl) (by rw [hd]; rfl) (by rw [hd]; rfl)

/-! ### The cursors

A cursor moves in a capture that comes back, and in the open that makes it. -/

/-- A capture that comes back with a reply has come back from `get_capture_buffer`. -/
theorem request_captured {cfg : Config} {d d' : Device} {o o' : Opener} {req : Request}
    {w : Waiting} {reply : Reply} (hw : req.capture o = some w)
    (h : request cfg d o req = .ok (reply, d', o')) :
    ∃ ret e, getCaptureBuffer w d o = .ok (ret, e, o') := by
  cases request_move h with
  | captured count w' fault ret _ _ hcapture =>
      obtain rfl := Option.some.inj hw
      exact ⟨ret, _, hcapture⟩
  | dequeued type w' _ _ hdequeue =>
      cases hdequeue with
      | ignored hout =>
          rcases hout with hio | ⟨code, rfl⟩
          · cases type with
            | videoCapture => simp [Request.capture, hio] at hw
            | _ => cases hw
          · cases hw
      | captured ret e _ _ hio hcapture =>
          simp only [Request.capture, hio, Bool.false_eq_true, if_false] at hw
          obtain rfl := Option.some.inj hw
          exact ⟨ret, e, hcapture⟩
      | taken => cases hw
  | _ => cases hw

/-- A request that completes a frame captures none. -/
theorem Request.capture_of_completes (h : req.completes o = true) : req.capture o = none := by
  cases req with
  | qbuf type index => rfl
  | write buf mem fault => rfl
  | _ => cases h

/-- What a request does to the cursor of its handle. -/
inductive CursorMove (d : Device) (o : Opener) (req : Request) (o' : Opener) : Prop
  | same (hposition : o'.readPosition = o.readPosition) (hcount : o'.rereadCount = o.rereadCount)
  | captured (w : Waiting) (hw : req.capture o = some w)
      (hgo : readable d o = true ∨ w.nonblock = false ∧ w.signal = true)
      (ho : o' = (nextPosition d o).2)

theorem CursorMove.refl (d : Device) (o : Opener) (req : Request) : CursorMove d o req o :=
  .same rfl rfl

theorem cursorMove_of_capture {w : Waiting} (hw : req.capture o = some w)
    (h : request cfg d o req = .ok (reply, d', o')) : CursorMove d o req o' := by
  obtain ⟨ret, e, hcapture⟩ := request_captured hw h
  cases getCaptureBuffer_move hcapture with
  | again => exact .refl d o req
  | asleep => exact .refl d o req
  | index pos image hgo => exact .captured w hw hgo rfl

/-- A DQBUF that does not call `get_capture_buffer`. -/
theorem DqbufMove.opener {type : BufType} {w : Waiting}
    (hw : (Request.dqbuf type w).capture o = none) (h : DqbufMove w d o type d' o') : o' = o := by
  cases h with
  | ignored => rfl
  | captured ret e _ _ hio => simp [Request.capture, hio] at hw
  | taken => rfl

theorem ReqbufsMove.cursor {memory : MemoryType} {count : Nat}
    (h : ReqbufsMove d o memory count d' o') :
    o'.readPosition = o.readPosition ∧ o'.rereadCount = o.rereadCount := by
  cases h with
  | timeoutImage => exact ⟨rfl, rfl⟩
  | renumbered => exact ⟨rfl, rfl⟩
  | granted => exact ⟨rfl, rfl⟩

/-- **Only a capture moves a cursor.** -/
theorem request_cursor (h : request cfg d o req = .ok (reply, d', o')) :
    CursorMove d o req o' := by
  cases hw : req.capture o with
  | some w => exact cursorMove_of_capture hw h
  | none =>
      cases request_move h with
      | granted memory count _ _ hgrant => exact .same hgrant.cursor.1 hgrant.cursor.2
      | dequeued type w _ _ hdequeue =>
          obtain rfl := hdequeue.opener hw
          exact .refl d _ _
      | captured => cases hw
      | _ => exact .same rfl rfl

/-- Where the cursor of a handle that is open after a step comes from. -/
inductive HandleMove (s : Driver) (call : Call) (file : Nat) (o' : Opener) : Prop
  | kept (o : Opener) (hfile : s.openers.lookup file = some o)
      (hposition : o'.readPosition = o.readPosition) (hcount : o'.rereadCount = o.rereadCount)
  | opened (mem : Allocation) (kzalloc : Bool) (hcall : call = .openDevice file mem kzalloc)
      (hposition : o'.readPosition = 0) (hcount : o'.rereadCount = 0)
  | captured (req : Request) (o : Opener) (w : Waiting) (hcall : call = .request file req)
      (hfile : s.openers.lookup file = some o) (hw : req.capture o = some w)
      (hgo : readable s.dev o = true ∨ w.nonblock = false ∧ w.signal = true)
      (ho : o' = (nextPosition s.dev o).2)

theorem Step.handle {file : Nat} (h : Step cfg s call t)
    (hfile : t.openers.lookup file = some o') : HandleMove s call file o' := by
  -- the handle of a failing open is none
  cases h.move with
  | openFailed => exact .kept o' hfile rfl rfl
  | @opened f mem kzalloc ret d o hfree hopen =>
      by_cases hf : file = f
      · subst hf
        obtain rfl : o = o' := by simpa [Driver.afterRequest] using hfile
        cases v4l2LoopbackOpen_move hopen with
        | opened => exact .opened mem kzalloc rfl rfl rfl
      · rw [Driver.afterRequest, AList.lookup_insert_ne hf] at hfile
        exact .kept o' hfile rfl rfl
  | @closed f o hopen =>
      by_cases hf : file = f
      · subst hf
        rw [AList.lookup_erase] at hfile
        cases hfile
      · rw [AList.lookup_erase_ne hf] at hfile
        exact .kept o' hfile rfl rfl
  | @request f req o reply d oe hopen hreq =>
      by_cases hf : file = f
      · subst hf
        obtain rfl : oe = o' := by simpa [Driver.afterRequest] using hfile
        cases request_cursor hreq with
        | same hposition hcount => exact .kept o hopen hposition hcount
        | captured w hw hgo ho => exact .captured req o w rfl hopen hw hgo ho
      · rw [Driver.afterRequest, AList.lookup_insert_ne hf] at hfile
        exact .kept o' hfile rfl rfl
  | _ => exact .kept o' hfile rfl rfl

end DroidCam.Loopback
