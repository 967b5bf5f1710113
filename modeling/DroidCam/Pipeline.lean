import DroidCam.Camera
import DroidCam.DecoderRefinement
import DroidCam.VideoFraming

/-
  DroidCam/Pipeline.lean
  ======================
  From the phone to the readers of the device.

  The threads of the client, its decoder, the driver and the other processes in one
  model: the threads move as in `VideoThreads`, each call of the decoder that they make
  (`DecoderRefinement`) is an event of the camera, and other processes open, read and
  close the device meanwhile.  What turbojpeg and swscale leave in their buffers, and
  what the kernel answers to a `write`, comes with the step.

  The model is one session: the stream has been prepared, and the client has not left
  its loop yet.
-/

namespace DroidCam.Pipeline

open CArith ByteMemory LabelledRun
open VideoThreads (VideoState VideoPc VideoAct Act VideoMove encodeFrames FullReads Faithful
  Delivery)
open DecoderSession (DecoderState DecoderCall FrameAnswers Header Written Source FullImage
  SessionFits SharedFits processFrame)
open DecoderRefinement (decoderCall answersAt Answered Answering Matched Streams)
open Camera (CameraState CameraStep cameraNext FromPicture NoFrame pictureBytes)
open Loopback (Config Allocation Call ReadWrite)

variable {numFrames : Nat}

/-! ### State -/

/-- A frame, and what the libraries have made of it. -/
structure Shown where
  frame : List UInt8
  planes : Memory UInt8
  scaled : Memory UInt8

structure PipelineState (numFrames : Nat) where
  threads : VideoState numFrames
  camera : CameraState
  -- history: what the pictures of this session were made from
  shown : List Shown

inductive Event where
  /-- A step of the client's threads or of its window. -/
  | client (a : Act) (planes scaled : Memory UInt8) (mem : Allocation) (fault : Option Nat)
  /-- A call of another process. -/
  | other (call : Call)

/-! ### Steps

The threads lead: a step of theirs that amounts to a call of the decoder makes the
camera do that call. -/

section Steps

variable (cfg : Config) (tjDecompressHeader3 : List UInt8 → Option Header)

/-- The frame that `process_frame` had goes down with its picture. -/
def PipelineState.record (p : PipelineState numFrames) (threads : VideoState numFrames)
    (camera : CameraState) (planes scaled : Memory UInt8) : PipelineState numFrames where
  threads := threads
  camera := camera
  shown :=
    if p.camera.pictures.length < camera.pictures.length then
      p.shown ++ [⟨threads.seen.getLastD [], planes, scaled⟩]
    else p.shown

def pipelineNext (p : PipelineState numFrames) : Event → Option (PipelineState numFrames)
  | .client a planes scaled mem fault =>
    (VideoThreads.next p.threads a).bind fun threads =>
      match decoderCall p.threads threads planes scaled a with
      | none => some { p with threads }
      | some call =>
        (cameraNext cfg tjDecompressHeader3 p.camera (.decoder call mem fault)).map fun camera =>
          p.record threads camera planes scaled
  | .other call =>
    (cameraNext cfg tjDecompressHeader3 p.camera (.other call)).map fun camera =>
      { p with camera }

abbrev PipelineStep : PipelineState numFrames → Event → PipelineState numFrames → Prop :=
  ofNext (pipelineNext cfg tjDecompressHeader3)

/-- The client stays in its session and every `recv` is whole; other processes use the
    device for read/write I/O and only the client writes. -/
def Permitted (p : PipelineState numFrames) : Event → Prop
  | .client a _ _ _ _ =>
    VideoThreads.InStream p.threads a ∧ FullReads p.threads a ∧
      Answered tjDecompressHeader3 p.threads a ∧
      p.camera.device.2.frames.length + 1 < 2147483648
  | .other call => ReadWrite p.camera.device call ∧ NoFrame call

/-- `Permitted`, computed. -/
def permitted (p : PipelineState numFrames) : Event → Bool
  | .client a _ _ _ _ =>
    decide (VideoThreads.InStream p.threads a) &&
      (match a with
        | .video (.recv ret) => decide (ret ≤ 0 ∨ ret = p.threads.requested)
        | _ => true) &&
      decide (Answered tjDecompressHeader3 p.threads a) &&
      decide (p.camera.device.2.frames.length + 1 < 2147483648)
  | .other call => Camera.permitted tjDecompressHeader3 p.camera (.other call)

theorem permitted_iff {p : PipelineState numFrames} {e : Event} :
    permitted tjDecompressHeader3 p e = true ↔ Permitted tjDecompressHeader3 p e := by
  cases e with
  | client a planes scaled mem fault =>
      simp only [permitted, Permitted, Bool.and_eq_true, decide_eq_true_eq, and_assoc]
      refine and_congr_right fun _ => and_congr_left fun _ => ?_
      unfold FullReads
      split
      · simp
      · rename_i hrecv
        exact iff_of_true rfl fun ret heq => absurd heq (hrecv ret)
  | other call => exact Camera.permitted_iff tjDecompressHeader3

instance (p : PipelineState numFrames) (e : Event) :
    Decidable (Permitted tjDecompressHeader3 p e) :=
  decidable_of_iff _ (permitted_iff tjDecompressHeader3)

/-- The client has opened the device and prepared the stream, and the phone is about to
    send these frames. -/
structure Streaming (frames : List (List UInt8)) (p : PipelineState numFrames) : Prop where
  camera : ∃ events, Run (Guarded (Camera.Permitted tjDecompressHeader3)
    (CameraStep cfg tjDecompressHeader3)) (CameraState.init cfg) events p.camera
  client : ∃ cl, p.camera.client = some cl ∧ Matched p.threads cl.decoder ∧
    SessionFits cl.decoder
  stream : p.threads.stream = encodeFrames frames
  pushed : p.threads.pushed = []
  whole : p.threads.TakenWhole
  shown : p.shown = []

end Steps

/-! ### The camera -/

section Camera

variable {cfg : Config} {tjHeader : List UInt8 → Option Header} {c c' : CameraState}

/-- A call of the decoder adds its picture to those of the device, or none. -/
theorem decoder_pictures {call : DecoderCall} {mem : Allocation} {fault : Option Nat}
    (h : CameraStep cfg tjHeader c (.decoder call mem fault) c') :
    ∃ cl decoder, c.client = some cl ∧ DecoderSession.Step tjHeader cl.decoder call decoder ∧
      c'.client = some { cl with decoder } ∧
      (c'.pictures = c.pictures ∨
        ∃ w, decoder.written = cl.decoder.written ++ [w] ∧ c'.pictures = c.pictures ++ [w]) := by
  obtain ⟨cl, hcl, h⟩ := Option.bind_eq_some_iff.mp h
  obtain ⟨decoder, hdecoder, h⟩ := Option.bind_eq_some_iff.mp h
  refine ⟨cl, decoder, hcl, hdecoder, ?_⟩
  rcases Camera.next_written hdecoder with hsame | ⟨w, hw, -⟩
  · rw [CameraState.share, hsame, List.drop_length] at h
    obtain rfl := Option.some.inj h
    exact ⟨rfl, Or.inl rfl⟩
  · rw [CameraState.share, hw, List.drop_left] at h
    obtain ⟨bytes, -, -, hclient, hpictures⟩ := CameraState.write_eq h
    refine ⟨hclient, ?_⟩
    split at hpictures
    · exact Or.inr ⟨w, hw, hpictures⟩
    · exact Or.inl hpictures

/-- While a handle is open the frames of the device stay. -/
theorem frames_kept {x y : Loopback.Driver × Loopback.Ledger} {call : Call}
    (h : Loopback.RecordedStep cfg x call y) (hcall : NoFrame call)
    (hopen : y.1.dev.openCount ≠ 0) : y.2.frames = x.2.frames := by
  obtain ⟨reply, -, hrecord⟩ := h.cases
  rw [hrecord]
  unfold Loopback.Ledger.record
  split
  · rfl
  · exact if_neg hopen
  · exact absurd rfl (hcall _ _ _ _)
  · rfl
  · rfl

/-- Other processes leave the pictures alone. -/
theorem other_pictures {call : Call} {cl : Camera.Client} (hc : Camera.Inv cfg c)
    (hc' : Camera.Inv cfg c') (hcall : NoFrame call) (hclient : c.client = some cl)
    (h : CameraStep cfg tjHeader c (.other call) c') :
    c'.client = some cl ∧ c'.pictures = c.pictures := by
  simp only [ofNext, cameraNext] at h
  split at h
  · cases h
  · obtain ⟨hstep, hsame, hpictures⟩ := CameraState.call_eq h
    have hclient' := hsame.trans hclient
    obtain ⟨o, ho⟩ := Option.isSome_iff_exists.mp (hc'.client cl hclient').isOpen
    have hopen := (hc'.pictured.device.delivering.accounted.held ho).2
    rw [frames_kept hstep hcall hopen, ← hc.pictured.length, List.take_length] at hpictures
    exact ⟨hclient', hpictures⟩

end Camera

/-! ### Pictures -/

/-- The picture is in the buffer that a library has filled from the frame. -/
def Made (e : Shown) (w : Written) : Prop :=
  ∀ b, w.block = some b →
    b.bytes = match w.source with | .decodeBuf => e.planes | .webcamBuf => e.scaled

theorem processFrame_made {tjHeader : List UInt8 → Option Header} {d : DecoderState}
    {p : List UInt8} {lib : FrameAnswers} {w : Written}
    (h : (processFrame tjHeader d p lib).written = d.written ++ [w]) :
    Made ⟨p, lib.planes, lib.scaled⟩ w := by
  have hnone : d.written ≠ d.written ++ [w] := by
    intro hsame
    simpa using congrArg List.length hsame
  simp only [processFrame] at h
  split at h
  -- no picture without a good header
  · exact absurd h hnone
  · unfold DecoderSession.decodeFrame at h
    split at h
    · exact absurd h hnone
    · split at h
      · exact absurd h hnone
      · simp only at h
        split at h
        · unfold DecoderSession.decoderShareFrame at h
          split at h
          · obtain rfl := List.singleton_inj.mp (List.append_cancel_left h)
            intro b hb
            obtain ⟨b', -, rfl⟩ := Option.map_eq_some_iff.mp hb
            rfl
          · obtain rfl := List.singleton_inj.mp (List.append_cancel_left h)
            intro b hb
            obtain rfl := Option.some.inj hb
            rfl
        · exact absurd h hnone

/-! ### The stream

What was received and not pushed yet is at most the one frame in the hands of the video
thread. -/

/-- The frame that was received and is about to be pushed. -/
def pushing : VideoPc numFrames → Option (Fin numFrames)
  | .push f => some f
  | _ => none

/-- The frames that the video thread has got from the stream. -/
def handed (s : VideoState numFrames) : List (List UInt8) :=
  s.pushed ++ (pushing s.vpc).toList.map s.payload

section Stream

variable {base seen₀ received₀ : List (List UInt8)} {s t : VideoState numFrames}

theorem handed_keep (hs : s.received = base ++ handed s) (hreceived : t.received = s.received)
    (hpushed : t.pushed = s.pushed) (hspc : pushing s.vpc = none) (htpc : pushing t.vpc = none) :
    t.received = base ++ handed t := by
  rw [hreceived, hs, handed, handed, hspc, htpc, hpushed]
  rfl

theorem handed_video {a : VideoAct} (hs : s.received = base ++ handed s)
    (hsession : s.vpc.inSession = true) (hfull : FullReads s (.video a)) (h : VideoMove s a t) :
    t.received = base ++ handed t := by
  cases h with
  | payload ret bs f hpc hrecv hret =>
      -- the read was whole, so the payload is what the stream has next
      have hwhole : ret = (s.frames f).length := by
        have := (hfull ret rfl).resolve_left (by omega)
        simpa only [VideoState.requested, hpc] using this
      have hlen : bs.length = (s.frames f).length := by
        rcases VideoThreads.recvAll_eq_some hrecv with ⟨hneg, -⟩ | ⟨-, -, -, hlen⟩ <;> omega
      have hself : read (write s.inBuf (s.frames f).data bs) (s.frames f).data
          (s.frames f).length = bs := by
        rw [← hlen]
        exact read_write_self _ _ _
      simp [hs, handed, pushing, hpc, VideoState.payload, hself]
  | push f hpc =>
      rw [handed, hpc] at hs
      have hnone : pushing (if s.receiveQueue.length = 0 then VideoPc.pushReceive f
          else VideoPc.pushLimit f) = none := by
        split <;> rfl
      rw [handed, hnone]
      simpa [pushing] using hs
  | loop hpc => exact handed_keep hs rfl rfl (by rw [hpc]; rfl) (by cases s.vRunning <;> rfl)
  | pushLimit f hpc =>
      refine handed_keep hs rfl rfl (by rw [hpc]; rfl) ?_
      simp only
      split <;> rfl
  | earlyOut f hpc | command hpc | control _ _ hpc | pull _ _ hpc _ | crash _ _ hpc _ _
  | lengthFailed _ _ _ hpc _ _ | length _ _ _ hpc _ _ | payloadFailed _ _ _ hpc _ _
  | pushReceive _ hpc | pushDecode _ hpc =>
      exact handed_keep hs rfl rfl (by rw [hpc]; rfl) rfl
  | resume hpc | refused hpc | accepted _ hpc | request _ hpc | header _ _ hpc _
  | prepareHeader _ _ _ hpc | prepareTj _ hpc | prepareTjXform _ hpc | prepareInBuf _ hpc
  | prepareDecodeBuf _ _ hpc | prepareWebcamBuf _ hpc | prepareSwc _ hpc | prepared hpc
  | prepareFrame _ _ hpc | cleanup _ _ hpc | finish hpc =>
      rw [hpc] at hsession
      cases hsession

/-- What is received is handed on, whatever the decode thread does. -/
theorem handed_step {a : Act} (hs : s.received = base ++ handed s)
    (hdelivery : Delivery seen₀ received₀ s) (hfull : FullReads s a)
    (h : VideoThreads.Step s a t) : t.received = base ++ handed t := by
  have hsession := hdelivery.session.running
  cases h.move with
  | video a _ hmove => exact handed_video hs hsession hfull hmove
  | decode a _ hmove =>
      have hsame := hmove.frame
      have hpayload : (pushing s.vpc).toList.map t.payload =
          (pushing s.vpc).toList.map s.payload := by
        refine List.map_congr_left fun f hf => hdelivery.decode_payload hmove f ?_
        rw [VideoThreads.mem_pending]
        -- the decode thread writes over a frame that it holds, and this one is with the
        -- other thread
        right
        right
        cases hpc : s.vpc with
        | push g =>
            rw [hpc] at hf
            obtain rfl := List.mem_singleton.mp hf
            rfl
        | _ =>
            rw [hpc] at hf
            cases hf
      rw [hsame.received, hs, handed, handed, hsame.pushed, hsame.vpc, hpayload]
  | stop => exact hs
  | start conn hvpc hdpc =>
      rw [hvpc] at hsession
      cases hsession
  | flip _ op _ => exact hs

end Stream

/-! ### One event

Every part of the pipeline keeps its own invariant; what is new is that the pictures are
made from the frames that the decoder got, one for one. -/

/-- The threads prepare and clean up by themselves; within a session they call the
    flips and `process_frame` only. -/
theorem call_effect {tjHeader : List UInt8 → Option Header} {s t : VideoState numFrames} {a : Act}
    {planes scaled : Memory UInt8} {call : DecoderCall} {d d' : DecoderState}
    (hcall : decoderCall s t planes scaled a = some call)
    (h : DecoderSession.Step tjHeader d call d') :
    (SessionFits d → SessionFits d') ∧
      ((d'.frames = d.frames ∧ d'.written = d.written) ∨
        d'.frames = d.frames ++ [t.seen.getLastD []] ∧
          ∀ w, d'.written = d.written ++ [w] → Made ⟨t.seen.getLastD [], planes, scaled⟩ w) := by
  cases a with
  | hflip | vflip =>
      obtain rfl := Option.some.inj hcall
      obtain rfl := Option.some.inj h
      exact ⟨id, Or.inl ⟨rfl, rfl⟩⟩
  | decode a =>
      obtain ⟨point, -, rfl⟩ := Option.map_eq_some_iff.mp hcall
      simp only [ofNext, DecoderSession.next] at h
      split at h
      · obtain rfl := Option.some.inj h
        refine ⟨(DecoderSession.processFrame_same _ _ _ _).fits_iff.mpr, Or.inr ⟨?_, ?_⟩⟩
        · exact (DecoderRefinement.processFrame_dec _ _ _ _).2
        · exact fun w hw => processFrame_made hw
      · cases h
  | _ => cases hcall

/-- What holds while the frames go from the phone to the device. -/
structure Inv (cfg : Config) (tjHeader : List UInt8 → Option Header) (frames : List (List UInt8))
    (p q : PipelineState numFrames) : Prop where
  camera : Camera.Inv cfg q.camera
  faithful : ∃ header, header.length = 9 ∧ Faithful header frames q.threads
  received : q.threads.received = p.threads.received ++ handed q.threads
  client : ∃ cl, q.camera.client = some cl ∧ SessionFits cl.decoder ∧
    Streams tjHeader p.threads.seen p.threads.received q.threads cl.decoder ∧
    (q.shown.map Shown.frame).Sublist cl.decoder.frames
  pictures : ∃ pictures, q.camera.pictures = p.camera.pictures ++ pictures ∧
    List.Forall₂ Made q.shown pictures

section Runs

variable {cfg : Config} {tjHeader : List UInt8 → Option Header} {frames : List (List UInt8)}
  {p q r : PipelineState numFrames}

theorem Streaming.inv (hpos : 0 < numFrames) (h : Streaming cfg tjHeader frames p) :
    Inv cfg tjHeader frames p p := by
  obtain ⟨events, hcamera⟩ := h.camera
  obtain ⟨cl, hcl, hmatched, hfits⟩ := h.client
  have hloop := hmatched.threads.atLoop
  have hdelivery := hmatched.threads.delivery hpos
  refine ⟨Camera.Inv.run hcamera, ⟨List.replicate 9 0, rfl, ?_, ?_, h.whole⟩, ?_,
    ⟨cl, hcl, hfits, ⟨hdelivery, hmatched.refines⟩, ?_⟩, [], ?_, ?_⟩
  · exact VideoThreads.Clean.of_delivery hdelivery
  · simp only [VideoThreads.Framed, hloop]
    exact ⟨frames, by rw [h.pushed, List.nil_append], h.stream⟩
  · simp [handed, pushing, hloop, h.pushed]
  · rw [h.shown]
    exact List.nil_sublist _
  · rw [List.append_nil]
  · rw [h.shown]
    exact List.Forall₂.nil

/-- A step of the client. -/
theorem Inv.client_step {a : Act} {planes scaled : Memory UInt8} {mem : Allocation}
    {fault : Option Nat} (hpos : 0 < numFrames) (hlen : ∀ f ∈ frames, f.length < 4294967296)
    (hq : Inv cfg tjHeader frames p q)
    (hok : Permitted tjHeader q (.client a planes scaled mem fault))
    (h : PipelineStep cfg tjHeader q (.client a planes scaled mem fault) r) :
    Inv cfg tjHeader frames p r := by
  obtain ⟨hstream, hfull, hanswer, hfew⟩ := hok
  obtain ⟨header, hheader, hfaithful⟩ := hq.faithful
  obtain ⟨cl, hcl, hfits, hstreams, hshown⟩ := hq.client
  obtain ⟨pictures, hpictures, hmade⟩ := hq.pictures
  obtain ⟨threads, hthreads, h⟩ := Option.bind_eq_some_iff.mp h
  have hsession := hstream.inSession hfaithful.whole hfull
  have hrunning := hstreams.delivery.session.running
  have hdrained : VideoThreads.QueuesDrained q.threads a := by
    -- the descriptors were added before the session
    intro hpc
    rw [hpc] at hrunning
    cases hrunning
  have hfaithful' := hfaithful.step hpos hheader hlen hstream hfull hdrained hthreads
  have hreceived := handed_step hq.received hstreams.delivery hfull hthreads
  obtain ⟨hdelivery, hfollows⟩ := hstreams.step ⟨⟨hsession, hanswer⟩, hthreads⟩ planes scaled
  cases hcall : decoderCall q.threads threads planes scaled a with
  | none =>
      simp only [hcall] at h hfollows
      obtain rfl := Option.some.inj h
      exact ⟨hq.camera, ⟨header, hheader, hfaithful'⟩, hreceived,
        ⟨cl, hcl, hfits, ⟨hdelivery, hfollows⟩, hshown⟩, pictures, hpictures, hmade⟩
  | some call =>
      simp only [hcall] at h hfollows
      obtain ⟨camera, hcamera, rfl⟩ := Option.map_eq_some_iff.mp h
      obtain ⟨cl', decoder, hcl', hdecoder, hclient, hgrown⟩ := decoder_pictures hcamera
      obtain rfl := Option.some.inj (hcl.symm.trans hcl')
      -- the call that the threads make is the one that the decoder can do
      obtain ⟨d', hd', hrefines, -⟩ := hfollows
      obtain rfl := ofNext_deterministic _ _ _ _ _ hdecoder hd'
      obtain ⟨hfits', heffect⟩ := call_effect hcall hdecoder
      have hpermitted : Camera.Permitted tjHeader q.camera (.decoder call mem fault) := by
        refine ⟨hfew, fun cl' hcl' => ?_⟩
        obtain rfl := Option.some.inj (hcl.symm.trans hcl')
        exact fun _ _ _ _ _ => hfits
      have hframes : cl.decoder.frames.Sublist decoder.frames := by
        rcases heffect with ⟨hsame, -⟩ | ⟨hmore, -⟩
        · rw [hsame]
        · rw [hmore]
          exact List.sublist_append_left _ _
      have hcamera' := hq.camera.step ⟨hpermitted, hcamera⟩
      rcases hgrown with hsame | ⟨w, hw, hmore⟩
      · have hnot : ¬ q.camera.pictures.length < camera.pictures.length := by
          rw [hsame]
          exact Nat.lt_irrefl _
        rw [PipelineState.record, if_neg hnot]
        exact ⟨hcamera', ⟨header, hheader, hfaithful'⟩, hreceived,
          ⟨_, hclient, hfits' hfits, ⟨hdelivery, hrefines⟩, hshown.trans hframes⟩,
          pictures, hsame.trans hpictures, hmade⟩
      · have hgrew : q.camera.pictures.length < camera.pictures.length := by
          rw [hmore, List.length_append]
          exact Nat.lt_succ_self _
        rw [PipelineState.record, if_pos hgrew]
        rcases heffect with ⟨-, hsame⟩ | ⟨hmoreFrames, hmadeNew⟩
        · have hlength := congrArg List.length (hsame.symm.trans hw)
          simp at hlength
        · refine ⟨hcamera', ⟨header, hheader, hfaithful'⟩, hreceived,
            ⟨_, hclient, hfits' hfits, ⟨hdelivery, hrefines⟩, ?_⟩, pictures ++ [w], ?_, ?_⟩
          · rw [List.map_append, hmoreFrames]
            exact hshown.append (List.Sublist.refl _)
          · rw [hmore, hpictures, List.append_assoc]
          · exact List.rel_append hmade (List.Forall₂.cons (hmadeNew w hw) List.Forall₂.nil)

/-- **One event** takes the frames on. -/
theorem Inv.step {e : Event} (hpos : 0 < numFrames) (hlen : ∀ f ∈ frames, f.length < 4294967296)
    (hq : Inv cfg tjHeader frames p q)
    (h : Guarded (Permitted tjHeader) (PipelineStep cfg tjHeader) q e r) :
    Inv cfg tjHeader frames p r := by
  obtain ⟨hok, h⟩ := h
  cases e with
  | client a planes scaled mem fault => exact hq.client_step hpos hlen hok h
  | other call =>
      obtain ⟨camera, hcamera, rfl⟩ := Option.map_eq_some_iff.mp h
      have hpermitted : Camera.Permitted tjHeader q.camera (.other call) := hok
      have hinv := hq.camera.step ⟨hpermitted, hcamera⟩
      obtain ⟨cl, hcl, hclient⟩ := hq.client
      obtain ⟨hcl', hpictures⟩ := other_pictures hq.camera hinv hok.2 hcl hcamera
      obtain ⟨pictures, hold, hmade⟩ := hq.pictures
      exact ⟨hinv, hq.faithful, hq.received, ⟨cl, hcl', hclient⟩, pictures,
        hpictures.trans hold, hmade⟩

/-- What the threads can do the camera can take. -/
theorem Inv.enabled {a : Act} {threads : VideoState numFrames} (hq : Inv cfg tjHeader frames p q)
    {planes scaled : Memory UInt8} {mem : Allocation} {fault : Option Nat}
    (hok : Permitted tjHeader q (.client a planes scaled mem fault))
    (h : VideoThreads.Step q.threads a threads) :
    ∃ r, PipelineStep cfg tjHeader q (.client a planes scaled mem fault) r ∧
      r.threads = threads := by
  obtain ⟨hstream, hfull, hanswer, hfew⟩ := hok
  obtain ⟨header, hheader, hfaithful⟩ := hq.faithful
  obtain ⟨cl, hcl, hfits, hstreams, -⟩ := hq.client
  have hsession := hstream.inSession hfaithful.whole hfull
  obtain ⟨-, hfollows⟩ := hstreams.step ⟨⟨hsession, hanswer⟩, h⟩ planes scaled
  have hthreads : VideoThreads.next q.threads a = some threads := h
  simp only [ofNext, pipelineNext, hthreads, Option.bind_some]
  cases hcall : decoderCall q.threads threads planes scaled a with
  | none => exact ⟨_, rfl, rfl⟩
  | some call =>
      simp only [hcall] at hfollows
      obtain ⟨decoder, hdecoder, -⟩ := hfollows
      have hshared : SharedFits tjHeader cl.decoder call := fun _ _ _ _ _ => hfits
      obtain ⟨camera, hcamera⟩ := hq.camera.enabled hcl hshared hdecoder mem fault
      refine ⟨_, Option.map_eq_some_iff.mpr ⟨camera, hcamera, rfl⟩, rfl⟩

end Runs

/-! ### A frame and its reader -/

/-- The client opens a device of 2x2 pixels and prepares a stream of that size. -/
def starting : List Camera.Event :=
  [.start 1 5 Loopback.granting true,
    .decoder (.prepareVideo DecoderRefinement.smallHeader DecoderSession.preparing)
      Loopback.granting none]

end DroidCam.Pipeline
