import DroidCam.DecoderSession

/-
  DroidCam/SharedFrames.lean
  ==========================
  What `decoder_share_frame` writes to the device.

  The device takes pictures of one size.  `decoder_prepare_video` sets a scaler up
  when the sizes in bytes differ, which is when the areas do, and nobody looks at
  what `sws_getCachedContext` returned.  So a stream of the same area and other
  sides is written as it is, and so is every stream without its scaler.
-/

namespace DroidCam.DecoderSession

open CArith ByteMemory LabelledRun JpgDecoder

/-! ### What the device needs

The driver takes what it is given as a picture of its own size. So a shared buffer has
to hold all of one, in the geometry of the device. -/

/-- The buffer holds a picture of the device's size, and all of it is in the block. -/
structure FullImage (webcamW webcamH : Nat) (w : Written) : Prop where
  geometry :
    w.source = .webcamBuf ∧ w.context = some ⟨w.dWidth, w.dHeight, webcamW, webcamH⟩ ∨
      w.source = .decodeBuf ∧ w.dWidth = webcamW ∧ w.dHeight = webcamH
  available : ∃ b, w.block = some b ∧ w.count ≤ b.size

/-- The picture has the sides of the device, and no scaler is left from a session that
    was not cleaned up; or its size in bytes is another one, and its scaler and the
    buffer for it are there. -/
def SessionFits (s : DecoderState) : Prop :=
  s.dec.dWidth = s.webcamW ∧ s.dec.dHeight = s.webcamH ∧ s.swc = none ∨
    s.dec.mWebcamYuvSize ≠ s.dec.mYuv420Size ∧ s.swc.isSome = true ∧ s.webcamBuf.isSome = true

section Frames

variable (tjDecompressHeader3 : List UInt8 → Option Header)

/-- A frame is only shared in a session that fits the device. -/
def SharedFits (s : DecoderState) (call : DecoderCall) : Prop :=
  ∀ p lib, call = .processFrame p lib → s.prepared = true →
    sharesFrame tjDecompressHeader3 s p lib = true → SessionFits s

end Frames

/-! ### The scaler

The scaler is made when the sizes in bytes differ. Two pictures of other sides and as
many bytes are taken for equal, and nothing scales them. -/

/-- What the sizes, the buffers and the scaler have to do with each other. -/
structure ScalerInv (webcamW webcamH : Nat) (s : DecoderState) : Prop where
  webcam : s.webcamW = webcamW ∧ s.webcamH = webcamH
  bounds : (2 ≤ webcamW ∧ webcamW ≤ 9999) ∧ 2 ≤ webcamH ∧ webcamH ≤ 9999
  webcamSize : s.dec.mWebcamYuvSize = toInt32 (toUInt32 (webcamW * webcamH * 3) / 2)
  streamSize : s.prepared = true → s.dec.mYuv420Size = yuv420Size s.dec.dWidth s.dec.dHeight
  decodeBuf : s.prepared = true → ∀ b, s.decodeBuf = some b → b.size = toSize s.dec.mYuv420Size
  -- also a scaler that is left over was made for another size
  context : ∀ c, s.swc = some c → yuv420Size c.srcW c.srcH ≠ s.dec.mWebcamYuvSize
  current : s.prepared = true → s.dec.mWebcamYuvSize ≠ s.dec.mYuv420Size →
    (∀ c, s.swc = some c → c = ⟨s.dec.dWidth, s.dec.dHeight, webcamW, webcamH⟩) ∧
      ∀ b, s.webcamBuf = some b → b.size = toSize s.dec.mWebcamYuvSize

/-- The device's own size is computed exactly, and as that of a stream is. -/
theorem yuv420Size_webcam {W H : Nat} (hW : W ≤ 9999) (hH : H ≤ 9999) :
    yuv420Size W H = toInt32 (toUInt32 (W * H * 3) / 2) := by
  have hmul : W * H ≤ 9999 * 9999 := Nat.mul_le_mul hW hH
  have hcast : (W : Int) * H = (W * H : Nat) := (Int.natCast_mul W H).symm
  have hexact := yuv420Size_eq (w := W) (h := H) (by omega) (by omega)
  rw [hexact, toUInt32_of_fits (by omega) (by omega), toInt32_of_fits (by omega) (by omega),
    Int.mul_comm]

theorem yuv420Size_comm (w h : Int) : yuv420Size w h = yuv420Size h w := by
  rw [yuv420Size, yuv420Size, ySize, ySize, Int.mul_comm w h]

theorem ScalerInv.init {W H : Nat} {fd : Int} {dec : JpgDecCtx}
    (h : decoderInitOf (W, H) = some dec) : ScalerInv W H (DecoderState.init W H fd dec) := by
  obtain ⟨hbounds, rfl⟩ := decoderInitOf_eq h
  exact ⟨⟨rfl, rfl⟩, hbounds, rfl, nofun, nofun, nofun, nofun⟩

theorem malloc_eq_some {bytes : Int} {mem : Option (Memory UInt8)} {b : Block}
    (h : malloc bytes mem = some b) : b.size = bytes := by
  unfold malloc at h
  split at h
  · obtain ⟨m, -, rfl⟩ := Option.map_eq_some_iff.mp h
    rfl
  · cases h

/-- What a header that is accepted leaves in the context. -/
theorem prepared_sizes {n W H : Nat} {fd : Int} {tj tjXform : Bool} {dec : JpgDecCtx}
    {header : List UInt8} {v : VideoBuffers}
    (h : decoderPrepareVideo n W H fd tj tjXform dec header = .ok v) :
    v.dec.mWebcamYuvSize = dec.mWebcamYuvSize ∧
      v.dec.mYuv420Size = yuv420Size v.dec.dWidth v.dec.dHeight ∧
      v.decodeBufBytes = toSize v.dec.mYuv420Size ∧
      v.scaler = if v.dec.mWebcamYuvSize ≠ v.dec.mYuv420Size
        then some (scalerOf W H v.dec) else none := by
  obtain ⟨-, -, rfl⟩ := decoderPrepareVideo_ok h
  refine ⟨rfl, ?_, rfl, rfl⟩
  simp only [videoBuffers, setStreamSizes]
  split
  · exact yuv420Size_comm _ _
  · rfl

theorem ScalerInv.prepareVideo {W H : Nat} {s : DecoderState} (hs : ScalerInv W H s)
    (header : List UInt8) (lib : PrepareAnswers) : ScalerInv W H (s.prepareVideo header lib) := by
  unfold DecoderState.prepareVideo
  split
  -- the header is refused, and no session is prepared
  · exact ⟨hs.webcam, hs.bounds, hs.webcamSize, nofun, nofun, hs.context, nofun⟩
  · rename_i v hv
    obtain ⟨hwebcam, hstream, hbytes, hscaler⟩ := prepared_sizes hv
    have hW : toInt32 s.webcamW = W := by
      have := hs.bounds
      rw [hs.webcam.1, toInt32_of_fits (by omega) (by omega)]
    have hH : toInt32 s.webcamH = H := by
      have := hs.bounds
      rw [hs.webcam.2, toInt32_of_fits (by omega) (by omega)]
    have hdecode : ∀ b, malloc v.decodeBufBytes lib.decodeBuf = some b →
        b.size = toSize v.dec.mYuv420Size := fun b hb => (malloc_eq_some hb).trans hbytes
    by_cases hdiffer : v.dec.mWebcamYuvSize ≠ v.dec.mYuv420Size
    -- the sizes differ, so there is a scaler if its context and its buffer could be
    -- made
    · rw [if_pos hdiffer] at hscaler
      simp only [DecoderState.prepareScaler, hscaler, hW, hH]
      refine ⟨hs.webcam, hs.bounds, hwebcam.trans hs.webcamSize, fun _ => hstream,
        fun _ => hdecode, ?_, fun _ _ => ⟨?_, fun b hb => malloc_eq_some hb⟩⟩
      · intro c hc
        split at hc
        · cases hc
          exact fun hsame => hdiffer (hsame.symm.trans hstream.symm)
        · cases hc
      · intro c hc
        split at hc
        · cases hc
          rfl
        · cases hc
    -- the sizes are equal, and the scaler stays what it was
    · rw [if_neg hdiffer] at hscaler
      simp only [DecoderState.prepareScaler, hscaler]
      refine ⟨hs.webcam, hs.bounds, hwebcam.trans hs.webcamSize, fun _ => hstream,
        fun _ => hdecode, ?_, fun _ hne => absurd hne hdiffer⟩
      intro c hc
      rw [hwebcam]
      exact hs.context c hc

/-! ### Frames -/

theorem ScalerInv.same {W H : Nat} {s t : DecoderState} (hs : ScalerInv W H s)
    (h : SameSession s t) : ScalerInv W H t := by
  have hsize : ∀ {x y : Option Block} {n : Int}, y.map Block.size = x.map Block.size →
      (∀ b, x = some b → b.size = n) → ∀ b, y = some b → b.size = n := by
    intro x y n hxy hx b hb
    obtain ⟨c, hc, hbc⟩ := Option.map_eq_some_iff.mp (hxy.symm.trans (congrArg _ hb))
    exact hbc.symm.trans (hx c hc)
  refine ⟨?_, hs.bounds, h.sizes.1.trans hs.webcamSize, ?_, ?_, ?_, ?_⟩
  · rw [h.webcam.1, h.webcam.2]
    exact hs.webcam
  · rw [h.prepared, h.sizes.2, h.sides.1, h.sides.2]
    exact hs.streamSize
  · rw [h.prepared, h.sizes.2]
    exact fun hprepared => hsize h.decodeBuf (hs.decodeBuf hprepared)
  · rw [h.swc, h.sizes.1]
    exact hs.context
  · rw [h.prepared, h.swc, h.sizes.1, h.sizes.2, h.sides.1, h.sides.2]
    exact fun hprepared hdiffer => ⟨(hs.current hprepared hdiffer).1,
      hsize h.webcamBuf (hs.current hprepared hdiffer).2⟩

/-- **A frame that is shared is a full image when its session fits.** -/
theorem ScalerInv.sharedImage {W H : Nat} {u : DecoderState} (hu : ScalerInv W H u)
    (hprepared : u.prepared = true) (hbuf : u.decodeBuf.isSome = true) (lib : FrameAnswers) :
    ∃ w, (decoderShareFrame u lib).written = u.written ++ [w] ∧
      (FullImage W H w ↔ SessionFits u) := by
  have hstream := hu.streamSize hprepared
  -- without a scaler the decoded picture is written as it is
  cases hswc : u.swc with
  | none =>
      obtain ⟨b, hb⟩ := Option.isSome_iff_exists.mp hbuf
      refine ⟨⟨.decodeBuf, none, some b, toSize u.dec.mWebcamYuvSize, u.dec.dWidth,
        u.dec.dHeight⟩, ?_, ?_⟩
      · simp [decoderShareFrame, DecoderState.writeDevice, hswc, hb]
      constructor
      · intro hfull
        rcases hfull.geometry with ⟨hsource, -⟩ | ⟨-, hw, hh⟩
        · cases hsource
        · exact Or.inl ⟨hw.trans (congrArg _ hu.webcam.1.symm),
            hh.trans (congrArg _ hu.webcam.2.symm), hswc⟩
      · rintro (⟨hw, hh, -⟩ | ⟨-, hsome, -⟩)
        · rw [hu.webcam.1] at hw
          rw [hu.webcam.2] at hh
          refine ⟨Or.inr ⟨rfl, hw, hh⟩, b, rfl, ?_⟩
          have hsame : u.dec.mYuv420Size = u.dec.mWebcamYuvSize := by
            rw [hstream, hw, hh, hu.webcamSize, yuv420Size_webcam hu.bounds.1.2 hu.bounds.2.2]
          rw [hu.decodeBuf hprepared b hb, hsame]
        · rw [hswc] at hsome
          cases hsome
  | some c =>
      refine ⟨⟨.webcamBuf, some c, u.webcamBuf.map fun b => { b with bytes := lib.scaled },
        toSize u.dec.mWebcamYuvSize, u.dec.dWidth, u.dec.dHeight⟩, ?_, ?_⟩
      · simp [decoderShareFrame, DecoderState.writeDevice, hswc]
      constructor
      · intro hfull
        rcases hfull.geometry with ⟨-, hc⟩ | ⟨hsource, -⟩
        · have hsides : c = ⟨u.dec.dWidth, u.dec.dHeight, W, H⟩ := Option.some.inj hc
          obtain ⟨b, hb, -⟩ := hfull.available
          obtain ⟨b', hb', -⟩ := Option.map_eq_some_iff.mp hb
          refine Or.inr ⟨fun hsame => hu.context c hswc ?_, by rw [hswc]; rfl, by rw [hb']; rfl⟩
          rw [hsame, hstream, hsides]
        · cases hsource
      · rintro (⟨-, -, hnone⟩ | ⟨hdiffer, -, hwebcam⟩)
        · rw [hswc] at hnone
          cases hnone
        · obtain ⟨hc, hsize⟩ := hu.current hprepared hdiffer
          obtain ⟨b, hb⟩ := Option.isSome_iff_exists.mp hwebcam
          refine ⟨Or.inl ⟨rfl, congrArg some (hc c hswc)⟩, { b with bytes := lib.scaled }, ?_, ?_⟩
          · rw [hb]
            rfl
          · exact Int.le_of_eq (hsize b hb).symm

theorem SameSession.fits_iff {s t : DecoderState} (h : SameSession s t) :
    SessionFits t ↔ SessionFits s := by
  have hsome : t.webcamBuf.isSome = s.webcamBuf.isSome := by
    rw [← Option.isSome_map (f := Block.size), h.webcamBuf, Option.isSome_map]
  simp only [SessionFits, h.webcam.1, h.webcam.2, h.swc, h.sizes.1, h.sizes.2, h.sides.1,
    h.sides.2, hsome]

/-! ### Runs -/

section Runs

variable {tjHeader : List UInt8 → Option Header} {W H : Nat} {s t : DecoderState}

theorem ScalerInv.step {call : DecoderCall} (hs : ScalerInv W H s)
    (h : Step tjHeader s call t) : ScalerInv W H t := by
  cases call with
  | prepareVideo header lib =>
      obtain rfl := Option.some.inj h
      exact hs.prepareVideo header lib
  | horizontalFlip =>
      obtain rfl := Option.some.inj h
      exact ⟨hs.webcam, hs.bounds, hs.webcamSize, hs.streamSize, hs.decodeBuf, hs.context,
        hs.current⟩
  | verticalFlip =>
      obtain rfl := Option.some.inj h
      exact ⟨hs.webcam, hs.bounds, hs.webcamSize, hs.streamSize, hs.decodeBuf, hs.context,
        hs.current⟩
  | cleanup =>
      obtain rfl := Option.some.inj h
      exact ⟨hs.webcam, hs.bounds, hs.webcamSize, nofun, nofun, nofun, nofun⟩
  | processFrame p lib =>
      simp only [ofNext, next] at h
      split at h
      · obtain rfl := Option.some.inj h
        exact hs.same (processFrame_same tjHeader s p lib)
      · cases h

/-- Only `process_frame` writes, and what it writes depends on the session. -/
theorem ScalerInv.step_images {call : DecoderCall} (hs : ScalerInv W H s)
    (hgood : ∀ w ∈ s.written, FullImage W H w) (h : Step tjHeader s call t) :
    (∀ w ∈ t.written, FullImage W H w) ↔ SharedFits tjHeader s call := by
  have hquiet : t.written = s.written → (∀ p lib, call ≠ .processFrame p lib) →
      ((∀ w ∈ t.written, FullImage W H w) ↔ SharedFits tjHeader s call) := by
    intro hsame hcall
    rw [hsame]
    exact iff_of_true hgood fun p lib hp => absurd hp (hcall p lib)
  cases call with
  | prepareVideo header lib =>
      obtain rfl := Option.some.inj h
      refine hquiet ?_ nofun
      unfold DecoderState.prepareVideo
      split
      · rfl
      · simp only [DecoderState.prepareScaler]
        split <;> rfl
  | horizontalFlip =>
      obtain rfl := Option.some.inj h
      exact hquiet rfl nofun
  | verticalFlip =>
      obtain rfl := Option.some.inj h
      exact hquiet rfl nofun
  | cleanup =>
      obtain rfl := Option.some.inj h
      exact hquiet rfl nofun
  | processFrame p lib =>
      simp only [ofNext, next] at h
      split at h
      · rename_i hprepared
        obtain rfl := Option.some.inj h
        cases processFrame_move tjHeader s p lib with
        | kept hshares _ hwritten =>
            rw [hwritten]
            refine iff_of_true hgood ?_
            rintro _ _ ⟨rfl, rfl⟩ _ htrue
            exact absurd (hshares.symm.trans htrue) (by decide)
        | shared u hshares hsame hwritten hbuf ht =>
            obtain ⟨w, hw, hfull⟩ := (hs.same hsame).sharedImage
              (hsame.prepared.trans hprepared) hbuf lib
            rw [ht, hw, hwritten]
            constructor
            · rintro hall _ _ ⟨rfl, rfl⟩ _ _
              exact hsame.fits_iff.mp (hfull.mp (hall w (by simp)))
            · intro hfits v hv
              rcases List.mem_append.mp hv with hold | hnew
              · exact hgood v hold
              · obtain rfl := List.mem_singleton.mp hnew
                exact hfull.mpr (hsame.fits_iff.mpr (hfits p lib rfl hprepared hshares))
      · cases h

end Runs

/-- **What is written are full images exactly when the sessions fit the device.**  In
    every run from `decoder_init` the device only gets pictures of its own size if
    and only if each frame that is shared belongs to a session that fits. -/
theorem shared_frames_full_iff {tjHeader : List UInt8 → Option Header} {W H : Nat} {fd : Int}
    {dec : JpgDecCtx} {calls : List DecoderCall} {s : DecoderState}
    (hinit : decoderInitOf (W, H) = some dec)
    (h : Run (Step tjHeader) (DecoderState.init W H fd dec) calls s) :
    (∀ bs u, bs <+: calls → Run (Step tjHeader) (DecoderState.init W H fd dec) bs u →
        ∀ w ∈ u.written, FullImage W H w) ↔
      Run (Guarded (SharedFits tjHeader) (Step tjHeader)) (DecoderState.init W H fd dec) calls s :=
  Run.guarded_iff (ofNext_deterministic _) (fun _ _ _ hs => hs.step)
    (fun _ _ _ hs hgood hstep => hs.step_images hgood hstep) (ScalerInv.init hinit) nofun h

/-- A stream of 1280x720 pixels for a device of 640x480. -/
theorem shared_frames_full_scaled :
    ∃ s, Run (Step (headersOf 1280 720)) (DecoderState.init 640 480 1 (decoderInit 640 480))
        [.prepareVideo [5, 0, 2, 208] preparing, .processFrame [255] decoding] s ∧
      s.written.length = 1 ∧ ∀ w ∈ s.written, FullImage 640 480 w := by
  let s := (DecoderState.init 640 480 1 (decoderInit 640 480)).prepareVideo [5, 0, 2, 208] preparing
  have hprepare : Guarded (SharedFits (headersOf 1280 720)) (Step (headersOf 1280 720))
      (DecoderState.init 640 480 1 (decoderInit 640 480))
      (.prepareVideo [5, 0, 2, 208] preparing) s := ⟨nofun, rfl⟩
  have hframe : Guarded (SharedFits (headersOf 1280 720)) (Step (headersOf 1280 720)) s
      (.processFrame [255] decoding) (processFrame (headersOf 1280 720) s [255] decoding) :=
    ⟨fun _ _ _ _ _ => Or.inr ⟨by decide, rfl, rfl⟩, rfl⟩
  have hrun := Run.snoc (Run.single hprepare) hframe
  exact ⟨_, hrun.of_guarded, rfl,
    (shared_frames_full_iff rfl hrun.of_guarded).mpr hrun _ _ (List.prefix_refl _) hrun.of_guarded⟩

/-- A stream of 320x960 pixels has the area of 640x480, and is written as it is. -/
theorem shared_frames_same_area :
    ¬ ∀ (tjHeader : List UInt8 → Option Header) (W H : Nat) (fd : Int) dec calls s,
      decoderInitOf (W, H) = some dec →
        Run (Step tjHeader) (DecoderState.init W H fd dec) calls s →
          ∀ w ∈ s.written, FullImage W H w := by
  intro h
  let s := (DecoderState.init 640 480 1 (decoderInit 640 480)).prepareVideo [1, 64, 3, 192] preparing
  have hprepare : Step (headersOf 320 960) (DecoderState.init 640 480 1 (decoderInit 640 480))
      (.prepareVideo [1, 64, 3, 192] preparing) s := rfl
  have hframe : Step (headersOf 320 960) s (.processFrame [255] decoding)
      (processFrame (headersOf 320 960) s [255] decoding) := rfl
  have hfull := h _ 640 480 1 _ _ _ rfl (Run.snoc (Run.single hprepare) hframe) _
    (List.mem_singleton.mpr rfl)
  rcases hfull.geometry with ⟨hsource, -⟩ | ⟨-, hwidth, -⟩
  · cases hsource
  · exact absurd hwidth (by decide)

end DroidCam.DecoderSession
