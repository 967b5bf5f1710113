import DroidCam.VideoDelivery
import DroidCam.DecoderSession

/-
  DroidCam/DecoderRefinement.lean
  ===============================
  The decoder of the two threads against the decoder of one caller.

  `VideoThreads` takes `process_frame` apart into the points between which the video
  thread and the window move; `DecoderSession` makes it one call.  Within a session
  each step of the threads is one call of the decoder or none: a flip is a call, and
  `process_frame` is one where it returns.  What turbojpeg and swscale leave in their
  buffers comes with the step.
-/

namespace DroidCam.DecoderRefinement

open CArith ByteMemory LabelledRun JpgDecoder
open VideoThreads (VideoState VideoAct DecodeAct Act DecodePc VideoPc ProcessPoint VideoMove
  InSession Prepared Delivery JPG_BACKBUF_MAX)
open DecoderSession (DecoderState DecoderCall FrameAnswers PrepareAnswers Header checkHeader
  processFrame sharesFrame)

variable {numFrames : Nat}

/-! ### Calls

The decoder of one caller gets a call at two places: where the thread is done with a
frame, and where the window flips. At all other steps the thread is inside a call that
has not returned. -/

/-- `process_frame` has looked at the header of its frame and has not returned. -/
def insideFrame : DecodePc numFrames → Bool
  | .process _ .header => false
  | .process _ _ => true
  | _ => false

/-- The point that `process_frame` returns from. -/
def returnedFrom : DecodePc numFrames → DecodePc numFrames → Option ProcessPoint
  | .process _ point, .push _ => some point
  | _, _ => none

/-- What turbojpeg has answered where `process_frame` returns from this point. -/
def answersAt (point : ProcessPoint) (planes scaled : Memory UInt8) : FrameAnswers where
  tjTransform := point != .transform
  tjDecompress := point != .decompress
  planes := planes
  scaled := scaled

/-- The call of the decoder that a step is. -/
def decoderCall (s t : VideoState numFrames) (planes scaled : Memory UInt8) :
    Act → Option DecoderCall
  | .hflip => some .horizontalFlip
  | .vflip => some .verticalFlip
  | .decode _ => (returnedFrom s.dpc t.dpc).map fun point =>
      .processFrame (t.seen.getLastD []) (answersAt point planes scaled)
  | _ => none

def headerOf (header : Option (Int × Int × Int)) : Option Header :=
  header.map fun (width, height, subsamp) => ⟨width, height, subsamp⟩

section Steps

variable (tjDecompressHeader3 : List UInt8 → Option Header)

/-- `tjDecompressHeader3` answers for the bytes of the frame. -/
def Answered (s : VideoState numFrames) (a : Act) : Prop :=
  match s.dpc, a with
  | .process f .header, .decode (.tjHeader header) =>
      tjDecompressHeader3 (s.payload f) = headerOf header
  | _, _ => True

/-- `Answered`, computed. -/
def answered (s : VideoState numFrames) (a : Act) : Bool :=
  match s.dpc, a with
  | .process f .header, .decode (.tjHeader header) =>
      decide (tjDecompressHeader3 (s.payload f) = headerOf header)
  | _, _ => true

theorem answered_iff {s : VideoState numFrames} {a : Act} :
    answered tjDecompressHeader3 s a = true ↔ Answered tjDecompressHeader3 s a := by
  unfold answered Answered
  split
  · exact decide_eq_true_iff
  · exact iff_of_true rfl trivial

instance (s : VideoState numFrames) (a : Act) : Decidable (Answered tjDecompressHeader3 s a) :=
  decidable_of_iff _ (answered_iff tjDecompressHeader3)

/-- The decoder `d` has had the frames that `process_frame` has returned from; the check
    of a frame it is in gives the context of the threads. -/
structure Refines (seen₀ : List (List UInt8)) (s : VideoState numFrames) (d : DecoderState) :
    Prop where
  prepared : d.prepared = true
  decodeBuf : d.decodeBuf.isSome = true
  outside : insideFrame s.dpc = false → d.dec = s.decoder ∧ s.seen = seen₀ ++ d.frames
  inside : insideFrame s.dpc = true → ∃ p, s.seen = seen₀ ++ d.frames ++ [p] ∧
    checkHeader tjDecompressHeader3 d.dec p = some s.decoder

end Steps

/-! ### One call of `process_frame`

What a frame leaves of the context does not depend on the flips, which only change the
operation, so a flip may fall between the header and the rest. -/

section Frames

variable {tjHeader : List UInt8 → Option Header} {d : DecoderState} {p : List UInt8}

theorem decodeFrame_dec (d : DecoderState) (lib : FrameAnswers) :
    (DecoderSession.decodeFrame d lib).dec = d.dec ∧
      (DecoderSession.decodeFrame d lib).frames = d.frames := by
  unfold DecoderSession.decodeFrame
  split
  · exact ⟨rfl, rfl⟩
  · split
    · exact ⟨rfl, rfl⟩
    · simp only
      split
      · unfold DecoderSession.decoderShareFrame
        split <;> exact ⟨rfl, rfl⟩
      · exact ⟨rfl, rfl⟩

theorem processFrame_dec (tjHeader : List UInt8 → Option Header) (d : DecoderState)
    (p : List UInt8) (lib : FrameAnswers) :
    (processFrame tjHeader d p lib).dec = (checkHeader tjHeader d.dec p).getD d.dec ∧
      (processFrame tjHeader d p lib).frames = d.frames ++ [p] := by
  simp only [processFrame]
  split
  · rename_i hcheck
    rw [hcheck]
    exact ⟨rfl, rfl⟩
  · rename_i dec hcheck
    rw [hcheck]
    exact decodeFrame_dec _ lib

/-- The transform has no say in the check of the header. -/
theorem checkHeader_transform {dec dec' : JpgDecCtx} (op : TjxOp)
    (h : checkHeader tjHeader dec p = some dec') :
    checkHeader tjHeader { dec with transformOp := op } p =
      some { dec' with transformOp := op } := by
  unfold checkHeader at h ⊢
  split_ifs at h ⊢ with hsubsamp
  · cases hheader : tjHeader p with
    | none => simp [hheader] at h
    | some header =>
        simp only [hheader] at h ⊢
        split_ifs at h ⊢ with hformat hsides
        cases h
        rfl
  · cases h
    rfl

end Frames

/-! ### Steps of the threads

Of the steps inside process_frame only the header and the return change what the decoder
is compared by. -/

/-- Within a session the video thread leaves the decoder alone. -/
theorem VideoMove.decoder {s t : VideoState numFrames} {a : VideoAct}
    (hsession : s.vpc.inSession = true) (h : VideoMove s a t) :
    t.decoder = s.decoder ∧ t.dpc = s.dpc ∧ t.seen = s.seen := by
  cases h with
  | cleanup c todo hpc => cases c <;> exact ⟨rfl, rfl, rfl⟩
  | accepted _ hpc | prepareHeader _ _ _ hpc | prepareTjXform _ hpc =>
      simp [hpc, VideoPc.inSession, VideoPc.streaming] at hsession
  | _ => exact ⟨rfl, rfl, rfl⟩

section Refinement

variable {tjHeader : List UInt8 → Option Header} {seen₀ : List (List UInt8)}
  {s t : VideoState numFrames} {d : DecoderState}

/-- The header is checked as in one call. -/
theorem decodeStep_header {f : Fin numFrames} {a : DecodeAct} (hpc : s.dpc = .process f .header)
    (hanswer : Answered tjHeader s (.decode a)) (h : VideoThreads.decodeStep s a = some t) :
    t.seen = s.seen ++ [s.payload f] ∧
      (checkHeader tjHeader s.decoder (s.payload f) = none ∧ t.decoder = s.decoder ∧
          t.dpc = .push f ∨
        checkHeader tjHeader s.decoder (s.payload f) = some t.decoder ∧
          t.dpc = .process f .transform) := by
  cases a with
  | go =>
      simp only [VideoThreads.decodeStep, hpc] at h
      split at h
      · cases h
      -- the subsampling is set, so an earlier frame had the right header
      · rename_i hknown
        obtain rfl := Option.some.inj h
        exact ⟨rfl, Or.inr ⟨if_neg hknown, rfl⟩⟩
  | tjHeader header =>
      simp only [VideoThreads.decodeStep, hpc] at h
      simp only [Answered, hpc] at hanswer
      split at h
      · cases h
      · rename_i hknown
        have hcheck := not_not.mp hknown
        cases header with
        | none =>
            obtain rfl := Option.some.inj h
            refine ⟨rfl, Or.inl ⟨?_, rfl, rfl⟩⟩
            simp [checkHeader, hcheck, hanswer, headerOf]
        | some header =>
            obtain ⟨width, height, subsamp⟩ := header
            simp only at h
            split at h
            -- what is refused here is refused by checkHeader, for the same reasons
            · rename_i hbad
              obtain rfl := Option.some.inj h
              refine ⟨rfl, Or.inl ⟨?_, rfl, rfl⟩⟩
              simp only [checkHeader, if_pos hcheck, hanswer, headerOf, Option.map_some]
              split_ifs with hformat hsides
              · rfl
              · rfl
              · rw [not_not] at hformat
                exact absurd hbad (not_or.mpr ⟨not_not.mpr hformat, hsides⟩)
            · rename_i hgood
              obtain rfl := Option.some.inj h
              rw [not_or] at hgood
              refine ⟨rfl, Or.inr ⟨?_, rfl⟩⟩
              simp only [checkHeader, if_pos hcheck, hanswer, headerOf, Option.map_some,
                if_neg hgood.1, if_neg hgood.2]
  | _ => simp [VideoThreads.decodeStep, hpc] at h

/-- A step that is no call. -/
theorem Refines.keep (hr : Refines tjHeader seen₀ s d)
    (hinside : insideFrame t.dpc = insideFrame s.dpc) (hdecoder : t.decoder = s.decoder)
    (hseen : t.seen = s.seen) : Refines tjHeader seen₀ t d := by
  refine ⟨hr.prepared, hr.decodeBuf, ?_, ?_⟩
  · rw [hinside, hdecoder, hseen]
    exact hr.outside
  · rw [hinside, hdecoder, hseen]
    exact hr.inside

/-- `process_frame` has returned, as the call does. -/
theorem Refines.processed {p : List UInt8} (hr : Refines tjHeader seen₀ s d)
    (houtside : insideFrame t.dpc = false)
    (hdecoder : t.decoder = (checkHeader tjHeader d.dec p).getD d.dec)
    (hseen : t.seen = seen₀ ++ d.frames ++ [p]) (lib : FrameAnswers) :
    Refines tjHeader seen₀ t (processFrame tjHeader d p lib) := by
  obtain ⟨hdec, hframes⟩ := processFrame_dec tjHeader d p lib
  have hsame := DecoderSession.processFrame_same tjHeader d p lib
  refine ⟨hsame.prepared.trans hr.prepared, ?_, fun _ => ⟨?_, ?_⟩, fun hin => ?_⟩
  · have hsizes := congrArg Option.isSome hsame.decodeBuf
    rw [Option.isSome_map, Option.isSome_map] at hsizes
    exact hsizes.trans hr.decodeBuf
  · rw [hdec, hdecoder]
  · rw [hseen, hframes, List.append_assoc]
  · rw [houtside] at hin
    cases hin

/-- The transform is set for the frame in hand too. -/
theorem Refines.transform {op : TjxOp} {d' : DecoderState} (hr : Refines tjHeader seen₀ s d)
    (hdec : d'.dec = { d.dec with transformOp := op }) (hprepared : d'.prepared = d.prepared)
    (hbuf : d'.decodeBuf = d.decodeBuf) (hframes : d'.frames = d.frames) :
    Refines tjHeader seen₀ { s with decoder := { s.decoder with transformOp := op } } d' := by
  refine ⟨hprepared.trans hr.prepared, hbuf ▸ hr.decodeBuf, fun houtside => ?_, fun hinside => ?_⟩
  · obtain ⟨hsame, hseen⟩ := hr.outside houtside
    exact ⟨by rw [hdec, hsame], by rw [hframes]; exact hseen⟩
  · obtain ⟨p, hseen, hcheck⟩ := hr.inside hinside
    exact ⟨p, by rw [hframes]; exact hseen, by rw [hdec]; exact checkHeader_transform op hcheck⟩

/-- A flip finds the same transform in both. -/
theorem Refines.transformOp (hr : Refines tjHeader seen₀ s d) :
    d.dec.transformOp = s.decoder.transformOp := by
  cases hpc : insideFrame s.dpc with
  | false => rw [(hr.outside hpc).1]
  | true =>
      obtain ⟨p, -, hcheck⟩ := hr.inside hpc
      rw [DecoderSession.checkHeader_eq_some hcheck]

/-! ### One step -/

/-- The decode thread is about to write its frame to the device. -/
def Writing (s : VideoState numFrames) : Prop := ∃ f, s.dpc = .process f .write

/-- The call, where the step is one, takes the decoder along, and shares its frame
    exactly where the threads do. -/
def Follows (tjHeader : List UInt8 → Option Header) (seen₀ : List (List UInt8))
    (s t : VideoState numFrames) (d : DecoderState) : Option DecoderCall → Prop
  | none => Refines tjHeader seen₀ t d
  | some call => ∃ d', DecoderSession.Step tjHeader d call d' ∧ Refines tjHeader seen₀ t d' ∧
      ∀ p lib, call = .processFrame p lib → (sharesFrame tjHeader d p lib = true ↔ Writing s)

theorem Refines.processFrame_step (hr : Refines tjHeader seen₀ s d) (p : List UInt8)
    (lib : FrameAnswers) :
    DecoderSession.Step tjHeader d (.processFrame p lib) (processFrame tjHeader d p lib) :=
  if_pos hr.prepared

theorem Refines.header {f : Fin numFrames} {a : DecodeAct} (hr : Refines tjHeader seen₀ s d)
    (hpc : s.dpc = .process f .header) (hanswer : Answered tjHeader s (.decode a))
    (h : VideoThreads.decodeStep s a = some t) (planes scaled : Memory UInt8) :
    Follows tjHeader seen₀ s t d (decoderCall s t planes scaled (.decode a)) := by
  have houtside : insideFrame s.dpc = false := by rw [hpc]; rfl
  obtain ⟨hdec, hseen₀⟩ := hr.outside houtside
  obtain ⟨hseen, ⟨hcheck, hdecoder, htpc⟩ | ⟨hcheck, htpc⟩⟩ := decodeStep_header hpc hanswer h
  · rw [hseen₀] at hseen
    rw [← hdec] at hcheck
    simp only [decoderCall, hpc, htpc, returnedFrom, Option.map_some, hseen, List.getLastD_concat]
    refine ⟨_, hr.processFrame_step _ _, hr.processed (by rw [htpc]; rfl) ?_ hseen _, ?_⟩
    · rw [hcheck, hdecoder, hdec]
      rfl
    · rintro _ _ ⟨rfl, rfl⟩
      refine iff_of_false (by simp [sharesFrame, hcheck]) ?_
      rintro ⟨g, hwriting⟩
      rw [hpc] at hwriting
      cases hwriting
  · simp only [decoderCall, hpc, htpc, returnedFrom, Option.map_none]
    refine ⟨hr.prepared, hr.decodeBuf, fun hin => ?_, fun _ => ⟨s.payload f, ?_, hdec ▸ hcheck⟩⟩
    · rw [htpc] at hin
      cases hin
    · rw [hseen, hseen₀]

/-- `process_frame` returns from a point behind the header. -/
theorem Refines.returned {f : Fin numFrames} {a : DecodeAct} {point : ProcessPoint}
    (hr : Refines tjHeader seen₀ s d) (hpc : s.dpc = .process f point) (hpoint : point ≠ .header)
    (hop : point = .transform → s.decoder.transformOp ≠ .none) (hscaled : point ≠ .scale)
    (htpc : t.dpc = .push f) (hdecoder : t.decoder = s.decoder) (hseen : t.seen = s.seen)
    (planes scaled : Memory UInt8) :
    Follows tjHeader seen₀ s t d (decoderCall s t planes scaled (.decode a)) := by
  have hinside : insideFrame s.dpc = true := by
    rw [hpc]
    cases point with
    | header => exact absurd rfl hpoint
    | _ => rfl
  obtain ⟨p, hseen₀, hcheck⟩ := hr.inside hinside
  rw [hseen₀] at hseen
  simp only [decoderCall, hpc, htpc, returnedFrom, Option.map_some, hseen, List.getLastD_concat]
  refine ⟨_, hr.processFrame_step _ _, hr.processed (by rw [htpc]; rfl) ?_ hseen _, ?_⟩
  · rw [hcheck, hdecoder]
    rfl
  · rintro _ _ ⟨rfl, rfl⟩
    have hwriting : Writing s ↔ point = .write := by
      simp [Writing, hpc]
    rw [hwriting, sharesFrame, hcheck, hr.decodeBuf, hr.transformOp]
    cases point with
    | header => exact absurd rfl hpoint
    | scale => exact absurd rfl hscaled
    | transform => simp [answersAt, hop rfl]
    | decompress => simp [answersAt]
    | write => simp [answersAt]

/-- **One step of the decode thread** is a call or goes on with one. -/
theorem Refines.decode {a : DecodeAct} (hr : Refines tjHeader seen₀ s d)
    (hanswer : Answered tjHeader s (.decode a)) (h : VideoThreads.decodeStep s a = some t)
    (planes scaled : Memory UInt8) :
    Follows tjHeader seen₀ s t d (decoderCall s t planes scaled (.decode a)) := by
  have hmove := VideoThreads.decodeStep_move h
  cases hmove with
  -- the header decides whether this is a call already or the first part of one
  | headerKnown f hpc _ | headerBad _ f hpc _ | headerGood f hpc _ =>
      exact hr.header hpc hanswer h planes scaled
  | loop hpc =>
      simp only [decoderCall, hpc, returnedFrom, Option.map_none]
      refine hr.keep ?_ rfl rfl
      rw [hpc]
      cases s.vRunning <;> rfl
  | pullNone hpc _ | pull f rest hpc _ _ | push f hpc =>
      simp only [decoderCall, hpc, returnedFrom, Option.map_none]
      exact hr.keep (by rw [hpc]; rfl) rfl rfl
  | noTransform f hpc _ | scale f hpc =>
      simp only [decoderCall, hpc, returnedFrom, Option.map_none]
      exact hr.keep (by rw [hpc]; rfl) rfl rfl
  | transform ok out f hpc hop _ =>
      cases ok with
      | true =>
          simp only [decoderCall, hpc, if_true, returnedFrom, Option.map_none]
          exact hr.keep (by rw [hpc]; rfl) rfl rfl
      -- a failure returns at once, and the call of the decoder fails at the same point
      | false =>
          refine hr.returned hpc (by decide) (fun _ => hop) (by decide) ?_ ?_ ?_ planes scaled
          all_goals rfl
  | decompress ok f hpc =>
      cases ok with
      | true =>
          simp only [decoderCall, hpc, if_true, returnedFrom, Option.map_none]
          exact hr.keep (by rw [hpc]; rfl) rfl rfl
      | false =>
          refine hr.returned hpc (by decide) (by simp) (by decide) ?_ ?_ ?_ planes scaled
          all_goals rfl
  | write f hpc =>
      refine hr.returned hpc (by decide) (by simp) (by decide) ?_ ?_ ?_ planes scaled
      all_goals rfl

/-- **One step of the client** is one call of the decoder, or none. -/
theorem Refines.step {a : Act} (hr : Refines tjHeader seen₀ s d)
    (hsession : s.vpc.inSession = true) (hanswer : Answered tjHeader s a)
    (h : VideoThreads.Step s a t) (planes scaled : Memory UInt8) :
    Follows tjHeader seen₀ s t d (decoderCall s t planes scaled a) := by
  cases a with
  | video a =>
      obtain ⟨hdecoder, hdpc, hseen⟩ :=
        VideoMove.decoder hsession (VideoThreads.videoStep_move h)
      exact hr.keep (by rw [hdpc]) hdecoder hseen
  | decode a => exact hr.decode hanswer h planes scaled
  | stop =>
      obtain rfl := Option.some.inj h
      exact hr.keep rfl rfl rfl
  | start conn =>
      simp only [ofNext, VideoThreads.next] at h
      split at h
      -- no session starts while one goes on
      · rename_i hended
        rw [hended.1] at hsession
        cases hsession
      · cases h
  | hflip =>
      obtain rfl := Option.some.inj h
      -- a flip is a call of its own, also between two steps of a frame
      refine ⟨_, rfl, hr.transform ?_ rfl rfl rfl, fun p lib hcall => ?_⟩
      · rw [← hr.transformOp]
        rfl
      · cases hcall
  | vflip =>
      obtain rfl := Option.some.inj h
      refine ⟨_, rfl, hr.transform ?_ rfl rfl rfl, fun p lib hcall => ?_⟩
      · rw [← hr.transformOp]
        rfl
      · cases hcall

end Refinement

/-! ### Whole sessions -/

/-- Both decoders have been prepared for the same stream. -/
structure Matched (s : VideoState numFrames) (d : DecoderState) : Prop where
  threads : Prepared s
  prepared : d.prepared = true
  decodeBuf : d.decodeBuf.isSome = true
  frames : d.frames = []
  dec : d.dec = s.decoder

/-- The video thread and one call of `decoder_prepare_video` prepare the same context. -/
theorem Matched.of_prepare {s t : VideoState JPG_BACKBUF_MAX} {d : DecoderState}
    {lib : PrepareAnswers} {v : VideoBuffers} {inBuf decodeBuf webcamBuf swc : Bool}
    (hpc : s.vpc = .prepareHeader) (hdec : d.dec = s.decoder)
    (hfd : d.droidcamDeviceFd = s.droidcamDeviceFd)
    (hv : decoderPrepareVideo JPG_BACKBUF_MAX d.webcamW d.webcamH s.droidcamDeviceFd true true
      s.decoder s.buf = .ok v)
    (htj : lib.tj = true ∧ lib.tjXform = true)
    (hbuf : (DecoderSession.malloc v.decodeBufBytes lib.decodeBuf).isSome = true)
    (ht : execute VideoThreads.next s (VideoThreads.prepareActs JPG_BACKBUF_MAX v.scaler.isSome
      inBuf decodeBuf webcamBuf swc) = some t)
    (hprepared : Prepared t) : Matched t (d.prepareVideo s.buf lib) := by
  obtain ⟨t', ht', -, hdecoder, -⟩ := VideoThreads.prepare_run hpc hv inBuf decodeBuf webcamBuf swc
  obtain rfl := Option.some.inj (ht.symm.trans ht')
  have hcall : d.prepareVideo s.buf lib = { d.prepareScaler lib v with
      dec := v.dec
      decodeBuf := DecoderSession.malloc v.decodeBufBytes lib.decodeBuf
      prepared := true
      frames := [] } := by
    rw [DecoderState.prepareVideo, hdec, hfd, htj.1, htj.2, hv]
  rw [hcall]
  exact ⟨hprepared, rfl, hbuf, rfl, hdecoder.symm⟩

/-- A step within a session, with the answer that the frame has. -/
def Answering (tjHeader : List UInt8 → Option Header) (s : VideoState numFrames) (a : Act) : Prop :=
  InSession s a ∧ Answered tjHeader s a

instance (tjHeader : List UInt8 → Option Header) (s : VideoState numFrames) (a : Act) :
    Decidable (Answering tjHeader s a) := inferInstanceAs (Decidable (_ ∧ _))

section Runs

variable {tjHeader : List UInt8 → Option Header} {s t : VideoState numFrames} {d : DecoderState}

theorem Matched.refines (h : Matched s d) : Refines tjHeader s.seen s d := by
  have hidle := h.threads.idle
  have houtside : insideFrame s.dpc = false := by
    cases hpc : s.dpc with
    | process f point => simp [hpc, DecodePc.held] at hidle
    | _ => rfl
  refine ⟨h.prepared, h.decodeBuf, fun _ => ⟨h.dec, ?_⟩, fun hin => ?_⟩
  · rw [h.frames, List.append_nil]
  · rw [houtside] at hin
    cases hin

/-- What the threads and the decoder have come to. -/
structure Streams (tjHeader : List UInt8 → Option Header) (seen₀ received₀ : List (List UInt8))
    (s : VideoState numFrames) (d : DecoderState) : Prop where
  delivery : Delivery seen₀ received₀ s
  refines : Refines tjHeader seen₀ s d

theorem Streams.step {seen₀ received₀ : List (List UInt8)} {a : Act}
    (hs : Streams tjHeader seen₀ received₀ s d)
    (h : Guarded (Answering tjHeader) VideoThreads.Step s a t) (planes scaled : Memory UInt8) :
    Delivery seen₀ received₀ t ∧ Follows tjHeader seen₀ s t d (decoderCall s t planes scaled a) :=
  ⟨hs.delivery.step h.1.1 h.2, hs.refines.step hs.delivery.session.running h.1.2 h.2 planes scaled⟩

theorem Streams.calls {seen₀ received₀ : List (List UInt8)} {a : Act}
    (hs : Streams tjHeader seen₀ received₀ s d)
    (h : Guarded (Answering tjHeader) VideoThreads.Step s a t) :
    ∃ calls d', Run (DecoderSession.Step tjHeader) d calls d' ∧
      Streams tjHeader seen₀ received₀ t d' := by
  obtain ⟨hdelivery, hfollows⟩ := hs.step h (fun _ => 0) (fun _ => 0)
  cases hcall : decoderCall s t (fun _ => 0) (fun _ => 0) a with
  | none =>
      rw [hcall] at hfollows
      exact ⟨[], d, Run.nil d, hdelivery, hfollows⟩
  | some call =>
      rw [hcall] at hfollows
      obtain ⟨d', hd', hrefines, -⟩ := hfollows
      exact ⟨[call], d', Run.single hd', hdelivery, hrefines⟩

/-- The frames of the calls were received in this order. -/
theorem Streams.frames {seen₀ received₀ : List (List UInt8)}
    (hs : Streams tjHeader seen₀ received₀ s d) :
    ∃ received, s.received = received₀ ++ received ∧ d.frames.Sublist received := by
  obtain ⟨seen, received, hseen, hreceived, hsub⟩ := hs.delivery.ledger
  have hseen' : seen.Sublist received := (List.sublist_append_left _ _).trans hsub
  refine ⟨received, hreceived, List.Sublist.trans ?_ hseen'⟩
  cases hpc : insideFrame s.dpc with
  | false =>
      rw [(hs.refines.outside hpc).2] at hseen
      rw [List.append_cancel_left hseen]
  | true =>
      obtain ⟨p, hp, -⟩ := hs.refines.inside hpc
      rw [hp, List.append_assoc] at hseen
      rw [← List.append_cancel_left hseen]
      exact List.sublist_append_left _ _

/-- **The threads refine the decoder of one caller.**  Over any interleaving within a
    session there are calls, one after the other, that get frames that were received, in
    this order, and leave the context that the threads see; and whatever the threads do
    next is such a call again or goes on with one, which shares its frame with the device
    exactly where `process_frame` of the threads does. -/
theorem threads_refine_decoder (hpos : 0 < numFrames) {as : List Act} (h : Matched s d)
    (hrun : Run (Guarded (Answering tjHeader) VideoThreads.Step) s as t) :
    ∃ calls d', Run (DecoderSession.Step tjHeader) d calls d' ∧
      Refines tjHeader s.seen t d' ∧
      (∃ received, t.received = s.received ++ received ∧ d'.frames.Sublist received) ∧
      ∀ a u planes scaled, Guarded (Answering tjHeader) VideoThreads.Step t a u →
        Follows tjHeader s.seen t u d' (decoderCall t u planes scaled a) := by
  have hstart : Streams tjHeader s.seen s.received s d :=
    ⟨h.threads.delivery hpos, h.refines⟩
  have hstep : ∀ (u : VideoState numFrames) (a : Act) (v : VideoState numFrames) (e : DecoderState),
      Streams tjHeader s.seen s.received u e →
        Guarded (Answering tjHeader) VideoThreads.Step u a v →
          ∃ calls e', Run (DecoderSession.Step tjHeader) e calls e' ∧
            Streams tjHeader s.seen s.received v e' := fun _ _ _ _ he hv => he.calls hv
  obtain ⟨calls, d', hcalls, hstreams⟩ := Run.simulation hstep hstart hrun
  exact ⟨calls, d', hcalls, hstreams.refines, hstreams.frames,
    fun a u planes scaled hstep => (hstreams.step hstep planes scaled).2⟩

end Runs

/-! ### A session with 2x2 pictures -/

/-- A frame of three bytes behind the header of the stream. -/
def smallStream : List UInt8 := [0, 2, 0, 2, 0, 0, 0, 0, 0] ++ [3, 0, 0, 0] ++ [255, 216, 255]

/-- `Start` up to the header of the stream. -/
def connecting : List Act :=
  [.start (some smallStream), .video .go, .video (.send true), .video (.recv 9)]

/-- `decoder_prepare_video` without a scaler. -/
def preparing : List Act := VideoThreads.prepareActs JPG_BACKBUF_MAX false true true true true

/-- The frame is received, decoded and written. -/
def oneFrame : List Act :=
  VideoThreads.receiveAndDecode 3 ++
    [.decode (.tjHeader (some (2, 2, 2))), .decode .go, .decode (.tjDecompress true)] ++
    List.replicate 2 (.decode .go)

def smallThreads : VideoState JPG_BACKBUF_MAX :=
  VideoState.init JPG_BACKBUF_MAX 5 (decoderInit 2 2)

/-- The `buf` of the video thread with the header. -/
def smallHeader : List UInt8 := [0, 2, 0, 2] ++ List.replicate 28 0

def smallDecoder : DecoderState :=
  (DecoderState.init 2 2 5 (decoderInit 2 2)).prepareVideo smallHeader DecoderSession.preparing

def smallContext : JpgDecCtx := setStreamSizes { decoderInit 2 2 with mWidth := 2, mHeight := 2 }

theorem smallSession :
    ∃ s : VideoState JPG_BACKBUF_MAX,
      execute VideoThreads.next smallThreads (connecting ++ preparing) = some s ∧
      Matched s smallDecoder ∧ s.seen = [] := by
  obtain ⟨r, hr, hvalues⟩ := Option.map_eq_some_iff.mp (by decide +kernel :
    (execute VideoThreads.next smallThreads connecting).map
      (fun r => (r.vpc, r.decoder, r.buf, r.droidcamDeviceFd)) =
        some (.prepareHeader, decoderInit 2 2, smallHeader, 5))
  simp only [Prod.mk.injEq] at hvalues
  obtain ⟨hpc, hdec, hbuf, hfd⟩ := hvalues
  obtain ⟨s, hs, hvalues⟩ := Option.map_eq_some_iff.mp (by decide +kernel :
    (execute VideoThreads.next smallThreads (connecting ++ preparing)).map
      (fun s => ((s.vpc, s.receiveQueue, s.decodeQueue), s.dpc.held, s.seen)) =
        some ((.loop, [0, 1, 2], []), none, []))
  simp only [Prod.mk.injEq] at hvalues
  obtain ⟨⟨hloop, hreceive, hdecode⟩, hidle, hseen⟩ := hvalues
  have hprepared : Prepared s := ⟨hloop, by rw [hreceive]; exact List.Perm.refl _, hdecode, hidle⟩
  have hprepare := hs
  rw [execute_append, hr, Option.bind_some] at hprepare
  have hv : decoderPrepareVideo JPG_BACKBUF_MAX 2 2 r.droidcamDeviceFd true true r.decoder r.buf =
      .ok (videoBuffers JPG_BACKBUF_MAX 2 2 smallContext) := by
    rw [hdec, hbuf, hfd]
    rfl
  have hmatched : Matched s ((DecoderState.init 2 2 5 (decoderInit 2 2)).prepareVideo r.buf
      DecoderSession.preparing) :=
    Matched.of_prepare hpc hdec.symm hfd.symm hv ⟨rfl, rfl⟩ rfl hprepare hprepared
  rw [hbuf] at hmatched
  exact ⟨s, hs, hmatched, hseen⟩

theorem threads_refine_decoder_oneFrame :
    ∃ (s t : VideoState JPG_BACKBUF_MAX) (calls : List DecoderCall) (d : DecoderState),
      Run (Guarded (Answering (DecoderSession.headersOf 2 2)) VideoThreads.Step) s oneFrame t ∧
      Run (DecoderSession.Step (DecoderSession.headersOf 2 2)) smallDecoder calls d ∧
      d.frames = [[255, 216, 255]] ∧ d.dec = t.decoder := by
  obtain ⟨s, hs, hmatched, hseen⟩ := smallSession
  obtain ⟨t, ht, hvalues⟩ := Option.map_eq_some_iff.mp (by decide +kernel :
    ((execute VideoThreads.next smallThreads (connecting ++ preparing)).bind fun s =>
      execute (guard (Answering (DecoderSession.headersOf 2 2)) VideoThreads.next) s oneFrame).map
        (fun t => (t.seen, insideFrame t.dpc)) = some ([[255, 216, 255]], false))
  rw [hs, Option.bind_some] at ht
  have hrun := Run.of_execute_guard ht
  rw [Prod.mk.injEq] at hvalues
  obtain ⟨calls, d, hcalls, hrefines, -⟩ :=
    threads_refine_decoder (by decide) hmatched hrun
  obtain ⟨hdec, hframes⟩ := hrefines.outside hvalues.2
  rw [hvalues.1, hseen, List.nil_append] at hframes
  exact ⟨s, t, calls, d, hrun, hcalls, hframes.symm, hdec⟩

end DroidCam.DecoderRefinement
