import DroidCam.SharedFrames
import DroidCam.Loopback.Delivery
import DroidCam.Loopback.Geometry

/-
  DroidCam/Camera.lean
  ====================
  The client and the driver together: a camera.

  `decoder_init` opens the device and asks it for its size; every frame that
  `decoder_share_frame` writes is a `v4l2_loopback_write`, and other processes open the
  device, read from it and close it at any time.  The model of the client and the model
  of the driver are taken as they are; what is new here is only what passes between them.

  A picture that does not lie in the buffer it is written from has no bytes, and the
  camera has no step then.
-/

namespace DroidCam.Camera

open CArith ByteMemory LabelledRun JpgDecoder
open DecoderSession (DecoderState DecoderCall Header Written FullImage SessionFits SharedFits
  ScalerInv sharesFrame)
open Loopback (Config Driver Ledger Call Allocation ReadWrite RecordedStep recordedNext
  queryV4lDevice)

/-! ### State

The client is one more process that has opened the device. Its decoder and the driver
are joined where the decoder writes. -/

/-- The process of the client; `file` is what `droidcam_device_fd` refers to. -/
structure Client where
  file : Nat
  decoder : DecoderState

structure CameraState where
  device : Driver × Ledger
  client : Option Client
  -- history: what the frames of the ledger were written from
  pictures : List Written

def CameraState.init (cfg : Config) : CameraState := ⟨(Driver.init cfg, .empty), none, []⟩

inductive Event where
  /-- `decoder_init` up to `query_v4l_device`, with the descriptor that `open` gives. -/
  | start (file : Nat) (fd : Int) (mem : Allocation) (kzalloc : Bool)
  | decoder (call : DecoderCall) (mem : Allocation) (fault : Option Nat)
  /-- `decoder_fini`. -/
  | exit
  /-- A call of another process. -/
  | other (call : Call)

/-- The handle that a call is made on. -/
def callHandle : Call → Option Nat
  | .openDevice file _ _ | .closeDevice file | .request file _ => some file
  | _ => none

/-! ### Steps -/

/-- The bytes that `write` is given. -/
def pictureBytes (w : Written) : Option (List UInt8) :=
  match w.block with
  | none => none
  | some b => if w.count ≤ b.size then some (read b.bytes 0 w.count.toNat) else none

section Steps

variable (cfg : Config) (tjDecompressHeader3 : List UInt8 → Option Header)

/-- A call that writes no frame; the last close forgets those that were written. -/
def CameraState.call (c : CameraState) (call : Call) : Option CameraState :=
  (recordedNext cfg c.device call).map fun device =>
    { c with device, pictures := c.pictures.take device.2.frames.length }

/-- `decoder_init` with a device that could be opened; one without a usable size is
    closed again when the program ends. -/
def CameraState.query (c : CameraState) (file : Nat) (fd : Int) : Option CameraState :=
  match decoderInitOf (queryV4lDevice c.device.1.dev) with
  | none => c.call cfg (.closeDevice file)
  | some dec =>
    let (webcamW, webcamH) := queryV4lDevice c.device.1.dev
    some { c with client := some ⟨file, .init webcamW webcamH fd dec⟩ }

/-- `write(droidcam_device_fd, p, jpg_decoder.m_webcamYuvSize)`. -/
def CameraState.write (c : CameraState) (file : Nat) (w : Written) (mem : Allocation)
    (fault : Option Nat) : Option CameraState :=
  (pictureBytes w).bind fun bytes =>
    (recordedNext cfg c.device (.request file (.write bytes mem fault))).map fun device =>
      { c with
        device
        pictures :=
          if c.device.2.frames.length < device.2.frames.length then c.pictures ++ [w]
          else c.pictures }

/-- What the decoder has written in this call goes to the device. -/
def CameraState.share (c : CameraState) (cl : Client) (decoder : DecoderState) (mem : Allocation)
    (fault : Option Nat) : Option CameraState :=
  let c := { c with client := some { cl with decoder } }
  match decoder.written.drop cl.decoder.written.length with
  | [] => some c
  | w :: _ => c.write cfg cl.file w mem fault

def cameraNext (c : CameraState) : Event → Option CameraState
  | .start file fd mem kzalloc =>
    if c.client.isSome then none
    else (c.call cfg (.openDevice file mem kzalloc)).bind fun c =>
      if (c.device.1.openers.lookup file).isSome then c.query cfg file fd else some c
  | .decoder call mem fault =>
    c.client.bind fun cl =>
      (DecoderSession.next tjDecompressHeader3 cl.decoder call).bind fun decoder =>
        c.share cfg cl decoder mem fault
  | .exit =>
    c.client.bind fun cl => { c with client := none }.call cfg (.closeDevice cl.file)
  | .other call =>
    if c.client.map Client.file = callHandle call then none else c.call cfg call

abbrev CameraStep : CameraState → Event → CameraState → Prop :=
  ofNext (cameraNext cfg tjDecompressHeader3)

/-- A call that is no `write`. -/
def NoFrame (call : Call) : Prop :=
  ∀ file buf mem fault, call ≠ .request file (.write buf mem fault)

/-- Only the client writes, and what it writes fits the device; for the rest the device
    is used for read/write I/O. -/
def Permitted (c : CameraState) : Event → Prop
  | .start _ _ mem _ => mem.vmalloc.isSome = true
  | .decoder call _ _ =>
    c.device.2.frames.length + 1 < 2147483648 ∧
      ∀ cl, c.client = some cl → SharedFits tjDecompressHeader3 cl.decoder call
  | .exit => True
  | .other call => ReadWrite c.device call ∧ NoFrame call

instance (s : DecoderState) : Decidable (SessionFits s) := inferInstanceAs (Decidable (_ ∨ _))

/-- `Permitted`, computed. -/
def permitted (c : CameraState) : Event → Bool
  | .start _ _ mem _ => mem.vmalloc.isSome
  | .decoder call _ _ =>
    decide (c.device.2.frames.length + 1 < 2147483648) &&
      match c.client, call with
      | some cl, .processFrame p lib =>
        decide (cl.decoder.prepared = true →
          sharesFrame tjDecompressHeader3 cl.decoder p lib = true → SessionFits cl.decoder)
      | _, _ => true
  | .exit => true
  | .other (.request _ (.write _ _ _)) => false
  | .other call => Loopback.readWrite c.device call

theorem permitted_iff {c : CameraState} {e : Event} :
    permitted tjDecompressHeader3 c e = true ↔ Permitted tjDecompressHeader3 c e := by
  cases e with
  | start => exact Iff.rfl
  | exit => exact iff_of_true rfl trivial
  | decoder call mem fault =>
      simp only [permitted, Permitted, Bool.and_eq_true, decide_eq_true_eq]
      apply and_congr_right
      intro _
      cases c.client with
      | none => simp
      | some cl =>
          simp only [Option.some.injEq, forall_eq', SharedFits]
          cases call with
          | processFrame p lib => simp only [decide_eq_true_eq, DecoderCall.processFrame.injEq,
              and_imp, forall_eq', forall_apply_eq_imp_iff]
          | _ => simp
  | other call =>
      simp only [Permitted, NoFrame, ← Loopback.readWrite_iff]
      cases call with
      | request file req => cases req <;> simp [permitted, Loopback.readWrite]
      | _ => simp [permitted]

instance (c : CameraState) (e : Event) : Decidable (Permitted tjDecompressHeader3 c e) :=
  decidable_of_iff _ (permitted_iff tjDecompressHeader3)

end Steps

/-! ### The device -/

/-- What read/write I/O keeps of the device. -/
structure DeviceInv (cfg : Config) (x : Driver × Ledger) : Prop where
  delivering : Loopback.Delivering cfg x
  sound : (Loopback.board x).Sound (Loopback.Delivery.Exact cfg)
  framed : Loopback.Framed cfg x.1.dev

theorem DeviceInv.init (cfg : Config) : DeviceInv cfg (Driver.init cfg, .empty) where
  delivering := .init cfg
  sound := fun file c hc => by cases hc
  framed := .init cfg

theorem DeviceInv.step {cfg : Config} {x y : Driver × Ledger} {call : Call}
    (hx : DeviceInv cfg x) (hok : ReadWrite x call) (h : RecordedStep cfg x call y) :
    DeviceInv cfg y := by
  obtain ⟨hdelivering, es, hes⟩ := hx.delivering.step ⟨hok, h⟩
  exact ⟨hdelivering, hx.sound.run hes, hx.framed.step hx.delivering.accounted h.driver⟩

theorem frames_of_noFrame {cfg : Config} {x y : Driver × Ledger} {call : Call}
    (h : RecordedStep cfg x call y) (hcall : NoFrame call) :
    y.2.frames = x.2.frames ∨ y.2.frames = [] := by
  obtain ⟨reply, -, hrecord⟩ := h.cases
  rw [hrecord]
  unfold Ledger.record
  split
  · exact Or.inl rfl
  · simp only
    split
    · exact Or.inr rfl
    · exact Or.inl rfl
  · exact absurd rfl (hcall _ _ _ _)
  · exact Or.inl rfl
  · exact Or.inl rfl

/-- A handle is open until it is closed. -/
theorem handle_stays_open {cfg : Config} {x y : Driver × Ledger} {call : Call} {file : Nat}
    (h : RecordedStep cfg x call y) (hcall : call ≠ .closeDevice file)
    (hfile : (x.1.openers.lookup file).isSome = true) :
    (y.1.openers.lookup file).isSome = true := by
  have hinsert : ∀ (s : Driver) f d o, (s.openers.lookup file).isSome = true →
      ((s.afterRequest f d o).openers.lookup file).isSome = true := by
    intro s f d o hs
    by_cases hf : file = f
    · subst hf
      simp [Driver.afterRequest]
    · rwa [Driver.afterRequest, AList.lookup_insert_ne hf]
  generalize hy : y.1 = t
  have hmove := h.driver.move
  rw [hy] at hmove
  cases hmove with
  | opened => exact hinsert _ _ _ _ hfile
  | request => exact hinsert _ _ _ _ hfile
  | closed =>
      rw [AList.lookup_erase_ne (fun hf => hcall (by rw [hf]))]
      exact hfile
  | _ => exact hfile

/-! ### Pictures

The driver keeps what it was given as frames, and the client what it wrote as pictures.
They go together one by one. -/

/-- The frames of the device are full pictures of the client's. -/
structure Pictured (cfg : Config) (c : CameraState) : Prop where
  device : DeviceInv cfg c.device
  bytes : c.pictures.map pictureBytes = c.device.2.frames.map some
  images : ∀ w ∈ c.pictures, FullImage cfg.frameWidth cfg.frameHeight w ∧ w.count = cfg.imageSize

theorem Pictured.length {cfg : Config} {c : CameraState} (hc : Pictured cfg c) :
    c.pictures.length = c.device.2.frames.length := by
  have hlen := congrArg List.length hc.bytes
  simpa using hlen

theorem CameraState.call_eq {cfg : Config} {c t : CameraState} {call : Call}
    (h : c.call cfg call = some t) :
    RecordedStep cfg c.device call t.device ∧ t.client = c.client ∧
      t.pictures = c.pictures.take t.device.2.frames.length := by
  obtain ⟨device, hdevice, rfl⟩ := Option.map_eq_some_iff.mp h
  exact ⟨hdevice, rfl, rfl⟩

theorem Pictured.call {cfg : Config} {c t : CameraState} {call : Call} (hc : Pictured cfg c)
    (hok : ReadWrite c.device call) (hcall : NoFrame call) (h : c.call cfg call = some t) :
    Pictured cfg t := by
  obtain ⟨hstep, -, hpictures⟩ := CameraState.call_eq h
  refine ⟨hc.device.step hok hstep, ?_, fun w hw => ?_⟩
  · rcases frames_of_noFrame hstep hcall with hframes | hframes
    · rw [hpictures, hframes, ← hc.length, List.take_length]
      exact hc.bytes
    · rw [hpictures, hframes]
      rfl
  · rw [hpictures] at hw
    exact hc.images w (List.mem_of_mem_take hw)

/-- A full image has bytes, as many as the device takes. -/
theorem pictureBytes_full {W H n : Nat} {w : Written} (hfull : FullImage W H w)
    (hcount : w.count = n) : ∃ bytes, pictureBytes w = some bytes ∧ bytes.length = n := by
  obtain ⟨b, hb, hle⟩ := hfull.available
  refine ⟨read b.bytes 0 w.count.toNat, ?_, ?_⟩
  · rw [pictureBytes, hb]
    exact if_pos hle
  · rw [length_read, hcount, Int.toNat_natCast]

/-- A write adds what fits into a slot, or nothing. -/
theorem write_frames {cfg : Config} {x y : Driver × Ledger} {file : Nat}
    {buf : List UInt8} {mem : Allocation} {fault : Option Nat} (hx : DeviceInv cfg x)
    (hfew : x.2.frames.length + 1 < 2147483648)
    (h : RecordedStep cfg x (.request file (.write buf mem fault)) y) :
    y.2.frames = x.2.frames ++ [buf.take cfg.slotSize] ∨ y.2.frames = x.2.frames := by
  obtain ⟨reply, hstep, hrecord⟩ := h.cases
  obtain ⟨o, d, o', hfile, hreq, -⟩ := Loopback.driverStep_request hstep
  obtain ⟨⟨reply', d'⟩, hwrite, hreq⟩ := Loopback.map_eq_ok.mp hreq
  cases hreq
  have hready := (hx.delivering.accounted.held hfile).1
  rcases hx.delivering.streaming.write hready hfew hwrite with ⟨rfl, -⟩ | ⟨rfl, -⟩
  · left
    have htake : buf.take (buf.take cfg.slotSize).length = buf.take cfg.slotSize := by
      rw [List.length_take, ← List.take_eq_take_min]
    rw [hrecord]
    simp only [Ledger.record, htake]
  · right
    rw [hrecord]
    rfl

theorem CameraState.write_eq {cfg : Config} {c t : CameraState} {file : Nat} {w : Written}
    {mem : Allocation} {fault : Option Nat} (h : c.write cfg file w mem fault = some t) :
    ∃ bytes, pictureBytes w = some bytes ∧
      RecordedStep cfg c.device (.request file (.write bytes mem fault)) t.device ∧
      t.client = c.client ∧
      t.pictures = if c.device.2.frames.length < t.device.2.frames.length then c.pictures ++ [w]
        else c.pictures := by
  obtain ⟨bytes, hbytes, h⟩ := Option.bind_eq_some_iff.mp h
  obtain ⟨device, hdevice, rfl⟩ := Option.map_eq_some_iff.mp h
  exact ⟨bytes, hbytes, hdevice, rfl, rfl⟩

/-- The image fits into a slot, so a picture is written whole or not at all. -/
theorem Pictured.write {cfg : Config} {c t : CameraState} {file : Nat} {w : Written}
    {mem : Allocation} {fault : Option Nat} (hc : Pictured cfg c)
    (hfew : c.device.2.frames.length + 1 < 2147483648)
    (hfull : FullImage cfg.frameWidth cfg.frameHeight w) (hcount : w.count = cfg.imageSize)
    (h : c.write cfg file w mem fault = some t) : Pictured cfg t := by
  obtain ⟨bytes, hbytes, hstep, -, hpictures⟩ := CameraState.write_eq h
  have hok : ReadWrite c.device (.request file (.write bytes mem fault)) := hfew
  have hdevice := hc.device.step hok hstep
  obtain ⟨bytes', hbytes', hlength⟩ := pictureBytes_full hfull hcount
  obtain rfl := Option.some.inj (hbytes.symm.trans hbytes')
  -- a slot is at least as large as the image, so the whole picture goes into it
  have hwhole : bytes.take cfg.slotSize = bytes := by
    apply List.take_of_length_le
    rw [hlength]
    exact cfg.slotSize_bounds.1
  rcases write_frames hc.device hfew hstep with hframes | hframes
  · rw [hwhole] at hframes
    rw [hframes, List.length_append, List.length_singleton, if_pos (Nat.lt_succ_self _)]
      at hpictures
    refine ⟨hdevice, ?_, fun v hv => ?_⟩
    · rw [hpictures, hframes, List.map_append, List.map_append, hc.bytes]
      simp [hbytes]
    · rw [hpictures] at hv
      rcases List.mem_append.mp hv with hold | hnew
      · exact hc.images v hold
      · obtain rfl := List.mem_singleton.mp hnew
        exact ⟨hfull, hcount⟩
  -- the driver refused the frame, and the client goes on without noticing
  · rw [hframes, if_neg (Nat.lt_irrefl _)] at hpictures
    refine ⟨hdevice, ?_, fun v hv => ?_⟩
    · rw [hpictures, hframes]
      exact hc.bytes
    · rw [hpictures] at hv
      exact hc.images v hv

/-! ### The client -/

/-- What the client knows of the device is right. -/
structure ClientInv (cfg : Config) (driver : Driver) (cl : Client) : Prop where
  isOpen : (driver.openers.lookup cl.file).isSome = true
  scaler : ScalerInv cfg.frameWidth cfg.frameHeight cl.decoder
  images : ∀ w ∈ cl.decoder.written, FullImage cfg.frameWidth cfg.frameHeight w

/-- A call of the decoder writes one picture at most, of the size of the device. -/
theorem next_written {tjHeader : List UInt8 → Option Header} {s t : DecoderState}
    {call : DecoderCall} (h : DecoderSession.Step tjHeader s call t) :
    t.written = s.written ∨
      ∃ w, t.written = s.written ++ [w] ∧ w.count = toSize s.dec.mWebcamYuvSize := by
  cases call with
  | prepareVideo header lib =>
      obtain rfl := Option.some.inj h
      left
      unfold DecoderState.prepareVideo
      split
      · rfl
      · simp only [DecoderState.prepareScaler]
        split <;> rfl
  | horizontalFlip | verticalFlip | cleanup =>
      obtain rfl := Option.some.inj h
      exact Or.inl rfl
  | processFrame p lib =>
      simp only [ofNext, DecoderSession.next] at h
      split at h
      · obtain rfl := Option.some.inj h
        cases DecoderSession.processFrame_move tjHeader s p lib with
        | kept _ _ hwritten => exact Or.inl hwritten
        -- what is written has the size of the device, whichever buffer it comes from
        | shared u _ hsame hwritten _ ht =>
            right
            rw [ht, ← hsame.sizes.1, ← hwritten]
            unfold DecoderSession.decoderShareFrame
            split
            · exact ⟨_, rfl, rfl⟩
            · exact ⟨_, rfl, rfl⟩
      · cases h

/-- The client computes the size that the driver has computed. -/
theorem scaler_count {cfg : Config} {s : DecoderState}
    (hs : ScalerInv cfg.frameWidth cfg.frameHeight s) :
    toSize s.dec.mWebcamYuvSize = cfg.imageSize := by
  have hagree : s.dec.mWebcamYuvSize = (cfg.imageSize : Nat) :=
    hs.webcamSize.trans
      (Loopback.decoderInit_webcamYuvSize cfg.frameWidth_bounds.2 cfg.frameHeight_bounds.2)
  have hbounds := cfg.imageSize_bounds
  rw [hagree, toSize_of_fits (Int.natCast_nonneg _) (by omega)]

theorem ClientInv.handles {cfg : Config} {s t : Driver} {cl : Client} (hcl : ClientInv cfg s cl)
    (ht : (t.openers.lookup cl.file).isSome = true) : ClientInv cfg t cl :=
  ⟨ht, hcl.scaler, hcl.images⟩

/-! ### One event

The two invariants together: what the device has is from the client, and the client
knows the device. -/

structure Inv (cfg : Config) (c : CameraState) : Prop where
  pictured : Pictured cfg c
  client : ∀ cl, c.client = some cl → ClientInv cfg c.device.1 cl

theorem Inv.init (cfg : Config) : Inv cfg (CameraState.init cfg) where
  pictured := ⟨.init cfg, rfl, fun _ hw => absurd hw List.not_mem_nil⟩
  client := fun cl hcl => absurd hcl.symm (Option.some_ne_none cl)

variable {cfg : Config} {tjHeader : List UInt8 → Option Header} {c t : CameraState}

/-- The size that the device reports is the one it has. -/
theorem Inv.query {file : Nat} {fd : Int} (hc : Pictured cfg c) (hnone : c.client = none)
    (hfile : (c.device.1.openers.lookup file).isSome = true)
    (h : c.query cfg file fd = some t) : Inv cfg t := by
  obtain ⟨o, ho⟩ := Option.isSome_iff_exists.mp hfile
  have hready := (hc.device.delivering.accounted.held ho).1
  have hsize := (hc.device.framed.formatted hready).query hready
  rw [CameraState.query, hsize] at h
  cases hdec : decoderInitOf (cfg.frameWidth, cfg.frameHeight) with
  | none =>
      rw [hdec] at h
      have hok : ReadWrite c.device (.closeDevice file) := trivial
      refine ⟨hc.call hok nofun h, fun cl hcl => ?_⟩
      rw [(CameraState.call_eq h).2.1, hnone] at hcl
      cases hcl
  | some dec =>
      rw [hdec] at h
      obtain rfl := Option.some.inj h
      refine ⟨⟨hc.device, hc.bytes, hc.images⟩, fun cl hcl => ?_⟩
      obtain rfl := Option.some.inj hcl
      exact ⟨hfile, .init hdec, nofun⟩

theorem Inv.share {cl : Client} {decoder : DecoderState} {call : DecoderCall} {mem : Allocation}
    {fault : Option Nat} (hc : Inv cfg c) (hclient : c.client = some cl)
    (hfew : c.device.2.frames.length + 1 < 2147483648)
    (hfits : SharedFits tjHeader cl.decoder call)
    (hdecoder : DecoderSession.Step tjHeader cl.decoder call decoder)
    (h : c.share cfg cl decoder mem fault = some t) : Inv cfg t := by
  have hcl := hc.client cl hclient
  have hscaler := hcl.scaler.step hdecoder
  have himages := (hcl.scaler.step_images hcl.images hdecoder).mpr hfits
  rcases next_written hdecoder with hsame | ⟨w, hw, hcount⟩
  · rw [CameraState.share, hsame, List.drop_length] at h
    obtain rfl := Option.some.inj h
    refine ⟨⟨hc.pictured.device, hc.pictured.bytes, hc.pictured.images⟩, ?_⟩
    intro cl' hcl'
    obtain rfl := Option.some.inj hcl'
    exact ⟨hcl.isOpen, hscaler, himages⟩
  · rw [CameraState.share, hw, List.drop_left] at h
    have hpictured : Pictured cfg { c with client := some { cl with decoder } } :=
      ⟨hc.pictured.device, hc.pictured.bytes, hc.pictured.images⟩
    obtain ⟨bytes, -, hstep, hclient', -⟩ := CameraState.write_eq h
    have hfull := himages w (by simp [hw])
    refine ⟨hpictured.write hfew hfull (hcount.trans (scaler_count hcl.scaler)) h, ?_⟩
    intro cl' hcl'
    obtain rfl := Option.some.inj (hclient'.symm.trans hcl')
    exact ⟨handle_stays_open hstep nofun hcl.isOpen, hscaler, himages⟩

/-- **One event** keeps the device full of pictures of the right size. -/
theorem Inv.step {e : Event} (hc : Inv cfg c)
    (h : Guarded (Permitted tjHeader) (CameraStep cfg tjHeader) c e t) : Inv cfg t := by
  obtain ⟨hok, h⟩ := h
  cases e with
  | start file fd mem kzalloc =>
      simp only [ofNext, cameraNext] at h
      split at h
      · cases h
      · rename_i hnone
        obtain ⟨u, hu, h⟩ := Option.bind_eq_some_iff.mp h
        have hopened : ReadWrite c.device (.openDevice file mem kzalloc) := hok
        have hnoframe : NoFrame (.openDevice file mem kzalloc) := by
          intro _ _ _ _ hcall
          cases hcall
        have hpictured := hc.pictured.call hopened hnoframe hu
        have hclient : u.client = none := by
          rw [(CameraState.call_eq hu).2.1]
          exact Option.not_isSome_iff_eq_none.mp hnone
        split at h
        · exact Inv.query hpictured hclient ‹_› h
        · obtain rfl := Option.some.inj h
          -- the device could not be queried, and the client does not start
          refine ⟨hpictured, fun cl hcl => ?_⟩
          rw [hclient] at hcl
          cases hcl
  | decoder call mem fault =>
      obtain ⟨cl, hcl, h⟩ := Option.bind_eq_some_iff.mp h
      obtain ⟨decoder, hdecoder, h⟩ := Option.bind_eq_some_iff.mp h
      exact hc.share hcl hok.1 (hok.2 cl hcl) hdecoder h
  | exit =>
      obtain ⟨cl, hcl, h⟩ := Option.bind_eq_some_iff.mp h
      -- the frames stay when the client exits
      have hpictured : Pictured cfg { c with client := none } :=
        ⟨hc.pictured.device, hc.pictured.bytes, hc.pictured.images⟩
      have hclosed : ReadWrite c.device (.closeDevice cl.file) := trivial
      have hnoframe : NoFrame (.closeDevice cl.file) := by
        intro _ _ _ _ hcall
        cases hcall
      refine ⟨hpictured.call hclosed hnoframe h, fun cl' hcl' => ?_⟩
      rw [(CameraState.call_eq h).2.1] at hcl'
      cases hcl'
  | other call =>
      simp only [ofNext, cameraNext] at h
      split at h
      · cases h
      · rename_i hforeign
        obtain ⟨hstep, hclient, -⟩ := CameraState.call_eq h
        refine ⟨hc.pictured.call hok.1 hok.2 h, fun cl hcl => ?_⟩
        rw [hclient] at hcl
        refine (hc.client cl hcl).handles (handle_stays_open hstep ?_ (hc.client cl hcl).isOpen)
        rintro rfl
        exact hforeign (by rw [hcl]; rfl)

theorem Inv.run {events : List Event}
    (h : Run (Guarded (Permitted tjHeader) (CameraStep cfg tjHeader)) (CameraState.init cfg) events
      c) : Inv cfg c :=
  Run.invariant (fun _ _ _ hs h => hs.step h) (.init cfg) h

/-- The driver takes every picture that the client can write. -/
theorem Pictured.writable {file : Nat} {w : Written} (hc : Pictured cfg c)
    (hfile : (c.device.1.openers.lookup file).isSome = true)
    (hfull : FullImage cfg.frameWidth cfg.frameHeight w) (hcount : w.count = cfg.imageSize)
    (mem : Allocation) (fault : Option Nat) : ∃ t, c.write cfg file w mem fault = some t := by
  obtain ⟨bytes, hbytes, -⟩ := pictureBytes_full hfull hcount
  obtain ⟨o, ho⟩ := Option.isSome_iff_exists.mp hfile
  have hready := (hc.device.delivering.accounted.held ho).1
  obtain ⟨⟨reply, d⟩, hwrite⟩ := hc.device.delivering.streaming.write_ok
    hc.device.delivering.ring.toRingValid hready mem fault bytes
  have hreq : Loopback.request cfg c.device.1.dev o (.write bytes mem fault) =
      .ok (reply, d, o) := by
    rw [Loopback.request, hwrite]
    rfl
  have hstep := Loopback.driverStep_of_request ho hreq
  rw [CameraState.write, hbytes, Option.bind_some, recordedNext, hstep]
  exact ⟨_, rfl⟩

theorem Inv.enabled {cl : Client} {decoder : DecoderState} {call : DecoderCall} (hc : Inv cfg c)
    (hclient : c.client = some cl) (hfits : SharedFits tjHeader cl.decoder call)
    (hdecoder : DecoderSession.Step tjHeader cl.decoder call decoder) (mem : Allocation)
    (fault : Option Nat) : ∃ t, CameraStep cfg tjHeader c (.decoder call mem fault) t := by
  have hcl := hc.client cl hclient
  have hshare : ∃ t, c.share cfg cl decoder mem fault = some t := by
    rcases next_written hdecoder with hsame | ⟨w, hw, hcount⟩
    · rw [CameraState.share, hsame, List.drop_length]
      exact ⟨_, rfl⟩
    · rw [CameraState.share, hw, List.drop_left]
      have hpictured : Pictured cfg { c with client := some { cl with decoder } } :=
        ⟨hc.pictured.device, hc.pictured.bytes, hc.pictured.images⟩
      have hfull := (hcl.scaler.step_images hcl.images hdecoder).mpr hfits w (by simp [hw])
      exact hpictured.writable hcl.isOpen hfull (hcount.trans (scaler_count hcl.scaler)) mem fault
  obtain ⟨t, ht⟩ := hshare
  refine ⟨t, ?_⟩
  have hnext : DecoderSession.next tjHeader cl.decoder call = some decoder := hdecoder
  show cameraNext cfg tjHeader c (.decoder call mem fault) = some t
  rw [cameraNext, hclient, Option.bind_some, hnext, Option.bind_some]
  exact ht

/-! ### Whole runs -/

/-- What a reader was given is one of the client's pictures. -/
def FromPicture (cfg : Config) (c : CameraState) (r : Broadcast.Receipt Loopback.Delivery) : Prop :=
  ∃ w picture, c.pictures[r.position]? = some w ∧
    FullImage cfg.frameWidth cfg.frameHeight w ∧ pictureBytes w = some picture ∧
    picture.length = cfg.imageSize ∧
    r.payload.bytes.take cfg.imageSize = picture.take r.payload.count ∧
    (r.payload.count ≤ cfg.imageSize → r.payload.bytes = picture.take r.payload.count)

theorem Pictured.fromPicture (hc : Pictured cfg c) {r : Broadcast.Receipt Loopback.Delivery}
    (hr : r.Sound (Loopback.Delivery.Exact cfg) c.device.2.frames) : FromPicture cfg c r := by
  obtain ⟨frame, hframe, hexact⟩ := hr.payload
  have hbytes := congrArg (·[r.position]?) hc.bytes
  simp only [List.getElem?_map, hframe, Option.map_some] at hbytes
  obtain ⟨w, hw, hpicture⟩ := Option.map_eq_some_iff.mp hbytes
  obtain ⟨hfull, hcount⟩ := hc.images w (List.mem_of_getElem? hw)
  obtain ⟨bytes, hbytes', hlength⟩ := pictureBytes_full hfull hcount
  obtain rfl := Option.some.inj (hpicture.symm.trans hbytes')
  exact ⟨w, frame, hw, hfull, hpicture, hlength, hlength ▸ hexact.front,
    fun hle => hexact.whole (Or.inl (hlength.symm ▸ hle))⟩

/-- A reader gets pictures in order, each at most once and never more than two behind. -/
theorem Pictured.receipts (hc : Pictured cfg c) {file : Nat} {o : Loopback.Opener}
    (hfile : c.device.1.openers.lookup file = some o) :
    (c.device.2.receipts file).Pairwise (fun r r' => r.position < r'.position) ∧
      ∀ r ∈ c.device.2.receipts file,
        r.position < r.seen ∧ r.seen ≤ r.position + 2 ∧ FromPicture cfg c r := by
  have hsubscriber : (Loopback.board c.device).subscribers file =
      some ⟨o.readPosition.toNat, c.device.2.receipts file⟩ := by
    simp [Loopback.board, hfile]
  have hs := hc.device.sound file _ hsubscriber
  refine ⟨hs.increasing, fun r hr => ?_⟩
  have hreceipt := hs.receipts r hr
  exact ⟨hreceipt.written, hreceipt.recent, hc.fromPicture hreceipt⟩

/-- **The camera shows the pictures of its client**, whatever other processes do that only
    read: each reader gets pictures of the size of the device, whole, in order, each at most
    once and never more than two behind; the client knows that size; and what it can do
    next, the driver can take. -/
theorem camera_delivers {events : List Event}
    (h : Run (Guarded (Permitted tjHeader) (CameraStep cfg tjHeader)) (CameraState.init cfg) events
      c) :
    (∀ file o, c.device.1.openers.lookup file = some o →
      (c.device.2.receipts file).Pairwise (fun r r' => r.position < r'.position) ∧
      ∀ r ∈ c.device.2.receipts file,
        r.position < r.seen ∧ r.seen ≤ r.position + 2 ∧ FromPicture cfg c r) ∧
    ∀ cl, c.client = some cl →
      (cl.decoder.webcamW = cfg.frameWidth ∧ cl.decoder.webcamH = cfg.frameHeight) ∧
      ∀ call decoder mem fault, SharedFits tjHeader cl.decoder call →
        DecoderSession.Step tjHeader cl.decoder call decoder →
          ∃ t, CameraStep cfg tjHeader c (.decoder call mem fault) t := by
  have hc := Inv.run h
  refine ⟨fun file o hfile => hc.pictured.receipts hfile, fun cl hcl =>
    ⟨(hc.client cl hcl).scaler.webcam, ?_⟩⟩
  exact fun call decoder mem fault hfits hstep => hc.enabled hcl hfits hstep mem fault

/-- A device of 2x2 pixels, a stream of that size, and a reader. -/
def onePicture : List Event :=
  [.start 1 5 Loopback.granting true, .other (.openDevice 2 Loopback.granting true),
    .decoder (.prepareVideo [0, 2, 0, 2] DecoderSession.preparing) Loopback.granting none,
    .decoder (.processFrame [255] DecoderSession.decoding) Loopback.granting none,
    .other (.request 2 (.read 6 ⟨false, false⟩ false))]

theorem camera_delivers_onePicture :
    ∃ c, Run (Guarded (Permitted (DecoderSession.headersOf 2 2))
        (CameraStep ⟨2, 2, 100⟩ (DecoderSession.headersOf 2 2)))
        (CameraState.init ⟨2, 2, 100⟩) onePicture c ∧
      c.device.2.receipts 2 = [⟨0, 1, ⟨6, [128, 128, 128, 128, 128, 128]⟩⟩] ∧
      ∀ r ∈ c.device.2.receipts 2, FromPicture ⟨2, 2, 100⟩ c r := by
  obtain ⟨c, hc, hvalues⟩ := Option.map_eq_some_iff.mp (by decide +kernel :
    (execute (guard (Permitted (DecoderSession.headersOf 2 2))
      (cameraNext ⟨2, 2, 100⟩ (DecoderSession.headersOf 2 2)))
      (CameraState.init ⟨2, 2, 100⟩) onePicture).map
      (fun c => ((c.device.1.openers.lookup 2).isSome, c.device.2.receipts 2)) =
        some (true, [⟨0, 1, ⟨6, [128, 128, 128, 128, 128, 128]⟩⟩]))
  rw [Prod.mk.injEq] at hvalues
  obtain ⟨hopen, hreceipts⟩ := hvalues
  obtain ⟨o, ho⟩ := Option.isSome_iff_exists.mp hopen
  have hrun := Run.of_execute_guard hc
  exact ⟨c, hrun, hreceipts, fun r hr => (((camera_delivers hrun).1 2 o ho).2 r hr).2.2⟩

end DroidCam.Camera
