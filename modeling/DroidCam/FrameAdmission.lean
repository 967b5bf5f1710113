import DroidCam.DecoderSession

/-
  DroidCam/FrameAdmission.lean
  ============================
  Which frames `process_frame` hands to turbojpeg.

  The buffers of a session are made for pictures of the size that its header
  announced.  `process_frame` compares the header of a frame with it and drops the
  frame when they differ, but only until a frame has passed: `jpg_decoder.subsamp`
  is then set, and later frames are not looked at.  `Admitting.subsamp` says what
  the field remembers.
-/

namespace DroidCam.DecoderSession

open ByteMemory LabelledRun JpgDecoder
open VideoThreads (TJSAMP_420)

section Admission

variable (tjHeader : List UInt8 → Option Header)

/-- What a frame may do: it gets to turbojpeg only when it is of the announced size,
    and otherwise it leaves the picture and the device alone. -/
structure FrameSafe (s t : DecoderState) (p : List UInt8) : Prop where
  reached : t.reached ≠ s.reached → Announced tjHeader s.dec p
  dropped : ¬Announced tjHeader s.dec p → t.decodeBuf = s.decodeBuf ∧ t.written = s.written

def CallSafe (s : DecoderState) (call : DecoderCall) : Prop :=
  ∀ p lib, call = .processFrame p lib → ∀ t, Step tjHeader s call t → FrameSafe tjHeader s t p

/-- A frame of another size comes before all frames of the announced size. -/
def BeforeAnnounced (s : DecoderState) (call : DecoderCall) : Prop :=
  ∀ p lib, call = .processFrame p lib → s.prepared = true →
    Announced tjHeader s.dec p ∨ ∀ q ∈ s.frames, ¬Announced tjHeader s.dec q

/-- During a session `subsamp` tells whether one of its frames was of the announced size. -/
def Admitting (s : DecoderState) : Prop :=
  s.prepared = true → (s.dec.subsamp = 0 ↔ ∀ q ∈ s.frames, ¬Announced tjHeader s.dec q)

end Admission

variable {tjHeader : List UInt8 → Option Header} {s t : DecoderState}

/-! ### One frame

With `subsamp` at 0 the header decides, otherwise every frame passes. -/

theorem checkHeader_unchecked {dec : JpgDecCtx} {p : List UInt8} (h : dec.subsamp ≠ 0) :
    checkHeader tjHeader dec p = some dec := if_neg h

theorem checkHeader_checked {dec : JpgDecCtx} {p : List UInt8} (h : dec.subsamp = 0) :
    checkHeader tjHeader dec p =
      if Announced tjHeader dec p then some { dec with subsamp := TJSAMP_420 } else none := by
  rw [checkHeader, if_pos h]
  cases hheader : tjHeader p with
  | none => simp [Announced, hheader]
  | some header =>
      obtain ⟨width, height, subsamp⟩ := header
      simp only [Announced, hheader, Option.some.injEq, Header.mk.injEq]
      split_ifs <;> simp_all

theorem decodeFrame_frame (s : DecoderState) (lib : FrameAnswers) :
    (decodeFrame s lib).dec = s.dec ∧ (decodeFrame s lib).frames = s.frames ∧
      (decodeFrame s lib).reached = s.reached := by
  unfold decodeFrame
  split
  · exact ⟨rfl, rfl, rfl⟩
  · split
    · exact ⟨rfl, rfl, rfl⟩
    · dsimp only
      split
      · simp only [decoderShareFrame]
        split <;> exact ⟨rfl, rfl, rfl⟩
      · exact ⟨rfl, rfl, rfl⟩

/-- A frame that is dropped is only counted. -/
theorem processFrame_dropped {p : List UInt8} {lib : FrameAnswers}
    (h : checkHeader tjHeader s.dec p = none) :
    processFrame tjHeader s p lib = { s with frames := s.frames ++ [p] } := by
  simp only [processFrame, h]

theorem processFrame_passed {dec : JpgDecCtx} {p : List UInt8} (lib : FrameAnswers)
    (h : checkHeader tjHeader s.dec p = some dec) :
    (processFrame tjHeader s p lib).dec = dec ∧
      (processFrame tjHeader s p lib).frames = s.frames ++ [p] ∧
      (processFrame tjHeader s p lib).reached = s.reached ++ [p] := by
  simp only [processFrame, h]
  exact decodeFrame_frame _ lib

/-- While the header is checked only announced frames pass, and after that all do. -/
theorem frameSafe_iff {p : List UInt8} {lib : FrameAnswers} :
    FrameSafe tjHeader s (processFrame tjHeader s p lib) p ↔
      Announced tjHeader s.dec p ∨ s.dec.subsamp = 0 := by
  by_cases hannounced : Announced tjHeader s.dec p
  · exact iff_of_true ⟨fun _ => hannounced, fun hnot => absurd hannounced hnot⟩ (Or.inl hannounced)
  by_cases hcheck : s.dec.subsamp = 0
  · have hnone : checkHeader tjHeader s.dec p = none := by
      rw [checkHeader_checked hcheck, if_neg hannounced]
    rw [processFrame_dropped hnone]
    exact iff_of_true ⟨fun hne => absurd rfl hne, fun _ => ⟨rfl, rfl⟩⟩ (Or.inr hcheck)
  · obtain ⟨-, -, hreached⟩ := processFrame_passed lib
      (checkHeader_unchecked hcheck : checkHeader tjHeader s.dec p = _)
    refine iff_of_false (fun hsafe => hannounced (hsafe.reached ?_)) ?_
    · rw [hreached]
      simp
    · simp [hannounced, hcheck]

/-! ### Sessions

The field is cleared when the buffers are made and set by the first frame that passes,
so that during a session it is a summary of the frames so far. -/

theorem Admitting.init (W H : Nat) (fd : Int) (dec : JpgDecCtx) :
    Admitting tjHeader (DecoderState.init W H fd dec) := nofun

theorem Admitting.processFrame (hs : Admitting tjHeader s) (p : List UInt8) (lib : FrameAnswers) :
    Admitting tjHeader (processFrame tjHeader s p lib) := by
  have hsame := processFrame_same tjHeader s p lib
  have hannounced : ∀ q, Announced tjHeader (DecoderSession.processFrame tjHeader s p lib).dec q ↔
      Announced tjHeader s.dec q := by
    intro q
    rw [hsame.dec]
    exact Iff.rfl
  intro hprepared
  rw [hsame.prepared] at hprepared
  have hbefore := hs hprepared
  simp only [hannounced]
  -- dropped, which takes a frame of another size and a header that is still looked at
  cases hcheck : checkHeader tjHeader s.dec p with
  | none =>
      have hzero : s.dec.subsamp = 0 := by
        by_contra hne
        rw [checkHeader_unchecked hne] at hcheck
        cases hcheck
      have hnot : ¬Announced tjHeader s.dec p := by
        intro hp
        rw [checkHeader_checked hzero, if_pos hp] at hcheck
        cases hcheck
      rw [processFrame_dropped hcheck]
      refine iff_of_true hzero fun q hq => ?_
      rcases List.mem_append.mp hq with hold | hnew
      · exact hbefore.mp hzero q hold
      · obtain rfl := List.mem_singleton.mp hnew
        exact hnot
  | some dec =>
      obtain ⟨hdec, hframes, -⟩ := processFrame_passed lib hcheck
      rw [hdec, hframes]
      -- the first frame that passes sets the field, and a later one finds it set
      by_cases hzero : s.dec.subsamp = 0
      · rw [checkHeader_checked hzero] at hcheck
        split at hcheck
        · rename_i hp
          cases hcheck
          exact iff_of_false (show TJSAMP_420 ≠ 0 by decide) fun hnone => hnone p (by simp) hp
        · cases hcheck
      · rw [checkHeader_unchecked hzero] at hcheck
        cases hcheck
        refine iff_of_false hzero fun hnone => hzero (hbefore.mpr fun q hq => ?_)
        exact hnone q (List.mem_append_left _ hq)

theorem Admitting.step {call : DecoderCall} (hs : Admitting tjHeader s)
    (h : Step tjHeader s call t) : Admitting tjHeader t := by
  cases call with
  | prepareVideo header lib =>
      obtain rfl := Option.some.inj h
      unfold DecoderState.prepareVideo
      split
      · exact nofun
      · rename_i v hv
        obtain ⟨-, -, rfl⟩ := decoderPrepareVideo_ok hv
        exact fun _ => iff_of_true rfl nofun
  | cleanup =>
      obtain rfl := Option.some.inj h
      exact nofun
  | horizontalFlip =>
      obtain rfl := Option.some.inj h
      exact hs
  | verticalFlip =>
      obtain rfl := Option.some.inj h
      exact hs
  | processFrame p lib =>
      simp only [ofNext, next] at h
      split at h
      · obtain rfl := Option.some.inj h
        exact hs.processFrame p lib
      · cases h

theorem Admitting.callSafe_iff (hs : Admitting tjHeader s) (call : DecoderCall) :
    CallSafe tjHeader s call ↔ BeforeAnnounced tjHeader s call := by
  refine forall_congr' fun p => forall_congr' fun lib => imp_congr_right ?_
  rintro rfl
  by_cases hprepared : s.prepared = true
  · have hstep : ∀ t, Step tjHeader s (.processFrame p lib) t ↔
        t = DecoderSession.processFrame tjHeader s p lib := by
      intro t
      simp only [ofNext, next, if_pos hprepared, Option.some.injEq]
      exact eq_comm
    simp only [hstep, forall_eq, frameSafe_iff, hprepared, true_implies, hs hprepared]
  · have hstep : ∀ t, ¬Step tjHeader s (.processFrame p lib) t := by
      intro t ht
      simp only [ofNext, next, if_neg hprepared] at ht
      cases ht
    exact iff_of_true (fun t ht => absurd ht (hstep t)) fun h => absurd h hprepared

/-- **Only announced frames are decoded exactly when the others come first.**  For every
    sequence of calls: a frame that is not of the size and the subsampling its
    session was announced with is dropped without a trace, each time, if and only
    if it comes before the first one that is. -/
theorem frames_announced_iff (tjHeader : List UInt8 → Option Header) (W H : Nat) (fd : Int)
    (dec : JpgDecCtx) (calls : List DecoderCall) :
    Along (Step tjHeader) (CallSafe tjHeader) (DecoderState.init W H fd dec) calls ↔
      Along (Step tjHeader) (BeforeAnnounced tjHeader) (DecoderState.init W H fd dec) calls :=
  along_iff (fun _ _ _ hs _ hstep => hs.step hstep) (fun _ call hs => hs.callSafe_iff call)
    (Admitting.init W H fd dec)

/-- A frame of 1280x720 pixels after one of the 640x480 that were announced. -/
theorem frames_unannounced_decoded :
    ¬ ∀ (tjHeader : List UInt8 → Option Header) (W H : Nat) (fd : Int) dec calls,
      decoderInitOf (W, H) = some dec →
        Along (Step tjHeader) (CallSafe tjHeader) (DecoderState.init W H fd dec) calls := by
  intro h
  let headers : List UInt8 → Option Header :=
    fun p => if p = [1] then headersOf 640 480 p else headersOf 1280 720 p
  let s := (DecoderState.init 640 480 1 (decoderInit 640 480)).prepareVideo [2, 128, 1, 224]
    preparing
  have hprepare : Step headers (DecoderState.init 640 480 1 (decoderInit 640 480))
      (.prepareVideo [2, 128, 1, 224] preparing) s := rfl
  have hframe : Step headers s (.processFrame [1] decoding)
      (DecoderSession.processFrame headers s [1] decoding) := rfl
  have hsafe := h headers 640 480 1 _ _ rfl _ _ _ (List.prefix_refl _)
    (Run.snoc (Run.single hprepare) hframe) [2] decoding rfl _ rfl
  have hannounced := hsafe.reached (by decide)
  exact absurd hannounced (by decide)

end DroidCam.DecoderSession
