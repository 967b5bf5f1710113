import DroidCam.VideoThreadMoves

/-
  DroidCam/VideoSlots.lean
  ========================
  Where the payload of a frame lands in `m_inBuf`.

  `decoder_prepare_video` cuts one allocation into a slot per descriptor, sized by
  the stream header; `VideoThreadProc` then hands `recv` the length announced in
  front of each frame.  `Sized` is what the header, the sizes and the descriptors
  have to do with each other in every reachable state, and from it
  `payload_contained_iff` says exactly for which announced lengths the bytes stay
  in the slot.
-/

namespace DroidCam.VideoThreads

open CArith ByteMemory LabelledRun
open DroidCam.JpgDecoder DroidCam.Queue

variable {numFrames : Nat}

/-! ### How far `decoder_prepare_video` has come

m_Yuv420Size, the block and the places in it are set one after the other, so each is
known from its own step on. -/

def VideoPc.sized : VideoPc numFrames → Bool
  | .prepareInBuf | .prepareDecodeBuf | .prepareWebcamBuf | .prepareSwc => true
  | .prepareFrames _ => true
  | pc => pc.streaming

def VideoPc.allocated : VideoPc numFrames → Bool
  | .prepareDecodeBuf | .prepareWebcamBuf | .prepareSwc | .prepareFrames _ => true
  | pc => pc.streaming

def VideoPc.placed (i : Fin numFrames) : VideoPc numFrames → Prop
  | .prepareFrames todo => i ∉ todo
  | pc => pc.streaming = true

theorem VideoPc.sized_of_allocated {pc : VideoPc numFrames} (h : pc.allocated = true) :
    pc.sized = true := by
  cases pc <;> first | rfl | exact h

theorem VideoPc.sized_of_placed {pc : VideoPc numFrames} {i : Fin numFrames} (h : pc.placed i) :
    pc.sized = true := by
  cases pc <;> first | rfl | exact h

/-- The sizes, the block and the descriptors follow from the header of the
    session, as far as `decoder_prepare_video` has come. -/
structure Sized (s : VideoState numFrames) : Prop where
  size : s.vpc.sized = true →
    s.decoder.mYuv420Size = yuv420Size s.decoder.mWidth s.decoder.mHeight
  block : s.vpc.allocated = true →
    s.inBufSize = inBufBytes numFrames s.decoder.mYuv420Size ∧
      (s.resources .inBuf ≠ none → s.inBufSize < 9223372036854775808)
  data : ∀ i, s.vpc.placed i → (s.frames i).data = frameData s.decoder.mYuv420Size i
  length : ∀ i, (s.frames i).length < 4294967296

theorem le32_lt (buf : List UInt8) : le32 buf < 4294967296 := by
  have h0 := (buf.getD 0 0).toNat_lt
  have h1 := (buf.getD 1 0).toNat_lt
  have h2 := (buf.getD 2 0).toNat_lt
  have h3 := (buf.getD 3 0).toNat_lt
  unfold le32
  omega

theorem Sized.init (fd : Int) (dec : JpgDecCtx) : Sized (VideoState.init numFrames fd dec) := by
  refine ⟨?_, ?_, ?_, ?_⟩
  · intro h; cases h
  · intro h; cases h
  · intro i h; cases h
  · intro i
    show 0 < 4294967296
    decide

/-- A step outside `decoder_prepare_video` keeps the sizes. -/
theorem Sized.keep {s t : VideoState numFrames} (h : Sized s)
    (hpc : t.vpc.sized = true → s.vpc.streaming = true ∧ t.vpc.streaming = true)
    (hdec : t.decoder = s.decoder) (hres : t.resources = s.resources)
    (hblock : t.inBufSize = s.inBufSize)
    (hframe : ∀ i, (t.frames i).data = (s.frames i).data ∧ (t.frames i).length < 4294967296) :
    Sized t := by
  -- from the loop on all three are known
  have hstreaming : s.vpc.streaming = true →
      s.vpc.sized = true ∧ s.vpc.allocated = true ∧ ∀ i, s.vpc.placed i := by
    intro hs
    cases hvpc : s.vpc <;> simp_all [VideoPc.streaming, VideoPc.sized, VideoPc.allocated,
      VideoPc.placed]
  refine ⟨?_, ?_, ?_, fun i => (hframe i).2⟩
  · intro ht
    rw [hdec]
    exact h.size (hstreaming (hpc ht).1).1
  · intro ht
    rw [hdec, hres, hblock]
    exact h.block (hstreaming (hpc (VideoPc.sized_of_allocated ht)).1).2.1
  · intro i ht
    rw [hdec, (hframe i).1]
    exact h.data i ((hstreaming (hpc (VideoPc.sized_of_placed ht)).1).2.2 i)

theorem Sized.videoMove {s t : VideoState numFrames} {a : VideoAct} (hs : Sized s)
    (h : VideoMove s a t) : Sized t := by
  have hsame : ∀ i, (s.frames i).data = (s.frames i).data ∧ (s.frames i).length < 4294967296 :=
    fun i => ⟨rfl, hs.length i⟩
  cases h with
  | prepareHeader w h pc hpc hw hh hnext =>
      refine ⟨?_, ?_, ?_, hs.length⟩ <;>
        rcases hnext with rfl | rfl <;>
        simp [VideoPc.sized, VideoPc.streaming, VideoPc.allocated, VideoPc.placed]
  | prepareTj ok hpc =>
      refine ⟨?_, ?_, ?_, hs.length⟩ <;>
        cases ok <;> simp [VideoPc.sized, VideoPc.streaming, VideoPc.allocated, VideoPc.placed]
  | prepareTjXform ok hpc =>
      refine ⟨?_, ?_, ?_, hs.length⟩ <;>
        cases ok <;> simp [VideoPc.sized, VideoPc.streaming, VideoPc.allocated, VideoPc.placed,
          setStreamSizes]
  | prepareInBuf ok hpc =>
      refine ⟨?_, ?_, ?_, hs.length⟩
      · intro _
        exact hs.size (by simp [hpc, VideoPc.sized])
      · intro _
        refine ⟨rfl, fun hlive => ?_⟩
        -- a malloc of 2^63 bytes or more gives NULL
        simp only [VideoState.allocate, Function.update_self, mallocSucceeds] at hlive
        by_contra hbig
        simp [hbig] at hlive
      · intro i hplaced; cases hplaced
  | prepareDecodeBuf ok pc hpc hnext =>
      refine ⟨?_, ?_, ?_, hs.length⟩
      · intro _
        exact hs.size (by simp [hpc, VideoPc.sized])
      · intro _
        simpa [VideoState.allocate] using hs.block (by simp [hpc, VideoPc.allocated])
      · intro i hplaced
        rcases hnext with rfl | rfl
        · cases hplaced
        · exact absurd (List.mem_finRange i) hplaced
  | prepareWebcamBuf ok hpc =>
      refine ⟨?_, ?_, ?_, hs.length⟩
      · intro _
        exact hs.size (by simp [hpc, VideoPc.sized])
      · intro _
        simpa [VideoState.allocate] using hs.block (by simp [hpc, VideoPc.allocated])
      · intro i hplaced; cases hplaced
  | prepareSwc ok hpc =>
      refine ⟨?_, ?_, ?_, hs.length⟩
      · intro _
        exact hs.size (by simp [hpc, VideoPc.sized])
      · intro _
        simpa [VideoState.allocate] using hs.block (by simp [hpc, VideoPc.allocated])
      · intro i hplaced
        exact absurd (List.mem_finRange i) hplaced
  | prepared hpc =>
      refine ⟨?_, ?_, ?_, hs.length⟩
      · intro _
        exact hs.size (by simp [hpc, VideoPc.sized])
      · intro _
        exact hs.block (by simp [hpc, VideoPc.allocated])
      · intro i _
        exact hs.data i (by simp [hpc, VideoPc.placed])
  | prepareFrame i todo hpc =>
      refine ⟨?_, ?_, ?_, ?_⟩
      · intro _
        exact hs.size (by simp [hpc, VideoPc.sized])
      · intro _
        exact hs.block (by simp [hpc, VideoPc.allocated])
      · intro j hplaced
        by_cases hji : j = i
        · subst hji
          simp
        · have hj : s.vpc.placed j := by
            rw [hpc]
            intro hmem
            exact (List.mem_cons.mp hmem).elim hji hplaced
          simpa [hji] using hs.data j hj
      · intro j
        by_cases hji : j = i
        · subst hji
          simp
        · simpa [hji] using hs.length j
  | length ret bs f hpc hrecv hret =>
      refine hs.keep (by simp [hpc, VideoPc.streaming]) rfl rfl rfl fun i => ?_
      by_cases hif : i = f
      · subst hif
        simpa using le32_lt _
      · simpa [hif] using hs.length i
  | cleanup c todo hpc =>
      refine ⟨?_, ?_, ?_, ?_⟩
      · intro h; cases h
      · intro h; cases h
      · intro i h; cases h
      · cases c <;> exact hs.length
  | _ =>
      -- outside of `decoder_prepare_video` only lengths change, with `length` above
      refine hs.keep ?_ rfl rfl rfl hsame
      grind [VideoPc.sized, VideoPc.streaming]

theorem Sized.step {s t : VideoState numFrames} {a : Act} (hs : Sized s) (h : Step s a t) :
    Sized t := by
  cases h.move with
  | video a _ hmove => exact hs.videoMove hmove
  | decode a _ hmove =>
      have hframe := hmove.frame
      obtain ⟨subsamp, hdec⟩ := hframe.decoder
      refine ⟨?_, ?_, ?_, ?_⟩
      · rw [hframe.vpc, hdec]
        exact hs.size
      · rw [hframe.vpc, hframe.inBufSize, hframe.resources, hdec]
        exact hs.block
      · rw [hframe.vpc, hframe.frames, hdec]
        exact hs.data
      · rw [hframe.frames]
        exact hs.length
  | stop => exact ⟨hs.size, hs.block, hs.data, hs.length⟩
  | start conn hvpc hdpc =>
      refine ⟨?_, ?_, ?_, hs.length⟩
      · intro h; cases h
      · intro h; cases h
      · intro i h; cases h
  | flip _ op _ => exact ⟨hs.size, hs.block, hs.data, hs.length⟩

theorem Sized.reachable {fd : Int} {dec : JpgDecCtx} {as : List Act} {s : VideoState numFrames}
    (h : Run Step (VideoState.init numFrames fd dec) as s) : Sized s :=
  h.invariant (fun _ _ _ hs hstep => hs.step hstep) (Sized.init fd dec)

/-! ### The announced length

The length is read from the stream and nothing compares it with the slot. The block is
no larger than its slots and the spare bytes, so what leaves the last slot by more
leaves the block. -/

/-- The bytes `[off, off + len)` lie in the block `m_inBuf` points to. -/
def SpanInBlock (s : VideoState numFrames) (off len : Int) : Prop :=
  ∀ x, off ≤ x → x < off + len → s.resources .inBuf ≠ none ∧ 0 ≤ x ∧ x < s.inBufSize

/-- However many bytes the `recv` of the payload of `f` delivers, they stay in the
    slot of `f` and in the allocation. -/
def PayloadContained (s : VideoState numFrames) (f : Fin numFrames) : Prop :=
  ∀ n : Nat, (n : Int) ≤ toSize (toInt32 (s.frames f).length) →
    SpanInSlot numFrames s.decoder.mYuv420Size f (s.frames f).data n ∧
      SpanInBlock s (s.frames f).data n

/-- The length announced for `f` is 0, or `m_inBuf` was allocated, `m_Yuv420Size`
    did not come out negative, and the length is at most that size (and the spare
    bytes, for the last descriptor). -/
def AnnouncedFits (s : VideoState numFrames) (f : Fin numFrames) : Prop :=
  (s.frames f).length = 0 ∨
    s.resources .inBuf ≠ none ∧ 0 ≤ s.decoder.mYuv420Size ∧
      ((s.frames f).length : Int) ≤
        s.decoder.mYuv420Size + if (f : Nat) + 1 = numFrames then spareBytes else 0

/-- `recv` may deliver at least the announced length: from `2^31` on the `int`
    is negative and the `size_t` larger still. -/
theorem le_toSize_toInt32 {n : Nat} (h : n < 4294967296) :
    (n : Int) ≤ toSize (toInt32 n) ∧
      ((n : Int) < 2147483648 → toSize (toInt32 n) = n) := by
  unfold toSize toInt32
  omega

/-- For three descriptors the multiplication of `&m_inBuf[i*m_Yuv420Size]` does not wrap. -/
theorem frameData_yuv420Size (w h : Int) {i : Nat} (hi : i < JPG_BACKBUF_MAX) :
    frameData (yuv420Size w h) i = i * yuv420Size w h := by
  have hlo := yuv420Size_lower w h
  have hhi := yuv420Size_upper w h
  obtain rfl | rfl | rfl : i = 0 ∨ i = 1 ∨ i = 2 := by unfold JPG_BACKBUF_MAX at hi; omega
  all_goals
    apply toInt32_of_fits
    · push_cast; omega
    · push_cast; omega

/-- A block of less than `2^63` bytes holds every slot and the spare bytes. -/
theorem inBufBytes_of_small {yuv : Int} (hlo : 0 ≤ yuv) (hhi : yuv < 1073741824)
    (hsmall : inBufBytes JPG_BACKBUF_MAX yuv < 9223372036854775808) :
    inBufBytes JPG_BACKBUF_MAX yuv = 3 * yuv + spareBytes := by
  change toSize (toInt32 (toInt32 (yuv * 3) + 4096)) < 9223372036854775808 at hsmall
  change toSize (toInt32 (toInt32 (yuv * 3) + 4096)) = 3 * yuv + 4096
  by_cases hfits : yuv * 3 + 4096 < 2147483648
  · have hproduct : toInt32 (yuv * 3) = yuv * 3 := toInt32_of_fits (by omega) (by omega)
    rw [hproduct, toInt32_of_fits (by omega) hfits, toSize_of_fits (by omega) (by omega)]
    omega
  -- a product or a sum that wraps is negative, so the size_t is beyond 2^63
  have hneg : toInt32 (toInt32 (yuv * 3) + 4096) < 0 := by
    by_cases hproduct : yuv * 3 < 2147483648
    · rw [toInt32_of_fits (x := yuv * 3) (by omega) hproduct,
        toInt32_of_wraps (by omega) (by omega)]
      omega
    · rw [toInt32_of_wraps (x := yuv * 3) (by omega) (by omega),
        toInt32_of_fits (by omega) (by omega)]
      omega
  have hlower := toInt32_lower (toInt32 (yuv * 3) + 4096)
  rw [toSize_of_neg hlower hneg] at hsmall
  omega

/-- The `recv` of a payload writes what it delivers at `f->data`. -/
theorem Step.payload_recv {s t : VideoState numFrames} {f : Fin numFrames} {ret : Int}
    (hpc : s.vpc = .payload f) (h : Step s (.video (.recv ret)) t) :
    ∃ bs : List UInt8, (bs.length : Int) ≤ toSize (toInt32 (s.frames f).length) ∧
      t.inBuf = write s.inBuf (s.frames f).data bs := by
  simp only [Step, ofNext, next, videoStep, hpc, Option.map_eq_some_iff] at h
  obtain ⟨bs, hrecv, rfl⟩ := h
  refine ⟨bs, ?_, by split <;> rfl⟩
  rcases recvAll_eq_some hrecv with ⟨-, rfl⟩ | ⟨-, hle, -, hlen⟩
  · exact toSize_nonneg _
  · omega

section Payload

variable {s : VideoState JPG_BACKBUF_MAX} {f : Fin JPG_BACKBUF_MAX}

theorem Sized.data_eq (hs : Sized s) (hpc : s.vpc.streaming = true) :
    (s.frames f).data = f * s.decoder.mYuv420Size := by
  have hplaced : s.vpc.placed f := by
    cases hvpc : s.vpc <;> simp_all [VideoPc.streaming, VideoPc.placed]
  rw [hs.data f hplaced, hs.size (VideoPc.sized_of_placed hplaced)]
  exact frameData_yuv420Size _ _ f.isLt

theorem announcedFits_of_contained (hs : Sized s) (hpc : s.vpc = .payload f)
    (h : PayloadContained s f) : AnnouncedFits s f := by
  have hdata : (s.frames f).data = f * s.decoder.mYuv420Size :=
    hs.data_eq (by simp [hpc, VideoPc.streaming])
  by_cases hzero : (s.frames f).length = 0
  · exact Or.inl hzero
  right
  have hpos : (0 : Int) < (s.frames f).length := by omega
  -- as many bytes may arrive as were announced
  obtain ⟨hslot, hblock⟩ := h (s.frames f).length (le_toSize_toInt32 (hs.length f)).1
  obtain ⟨-, hend⟩ := (spanInSlot_iff hpos).mp hslot
  obtain ⟨hlive, hstart, -⟩ := hblock (s.frames f).data (le_refl _) (by omega)
  rw [hdata] at hend hstart
  have hlen : ((s.frames f).length : Int) ≤
      s.decoder.mYuv420Size + if (f : Nat) + 1 = JPG_BACKBUF_MAX then spareBytes else 0 := by
    have hexp : ((f : Nat) + 1 : Int) * s.decoder.mYuv420Size
        = f * s.decoder.mYuv420Size + s.decoder.mYuv420Size := by ring
    omega
  refine ⟨hlive, ?_, hlen⟩
  -- a slot of negative size is empty, but for the last, which then starts before the block
  by_contra hneg
  by_cases hlast : (f : Nat) + 1 = JPG_BACKBUF_MAX
  · have htwo : ((f : Nat) : Int) = 2 := by unfold JPG_BACKBUF_MAX at hlast; omega
    rw [htwo] at hstart
    omega
  · rw [if_neg hlast] at hlen
    omega

theorem contained_of_announcedFits (hs : Sized s) (hpc : s.vpc = .payload f)
    (h : AnnouncedFits s f) : PayloadContained s f := by
  have hstreaming : s.vpc.streaming = true := by simp [hpc, VideoPc.streaming]
  have hdata : (s.frames f).data = f * s.decoder.mYuv420Size := hs.data_eq hstreaming
  intro n hn
  rcases h with hzero | ⟨hlive, hyuv, hlen⟩
  · have : n = 0 := by simpa [hzero, toSize, toInt32] using hn
    subst this
    exact ⟨fun x _ _ => by omega, fun x _ _ => by omega⟩
  have hsized : s.vpc.sized = true := by simp [hpc, VideoPc.sized, VideoPc.streaming]
  -- the size of a picture is below 2^30, so 3 of them and the spare bytes fit the
  -- size_t if malloc could give them
  have hupper : s.decoder.mYuv420Size < 1073741824 := hs.size hsized ▸ yuv420Size_upper _ _
  obtain ⟨hbytes, hsmall⟩ := hs.block (by simp [hpc, VideoPc.allocated, VideoPc.streaming])
  have hsize : s.inBufSize = 3 * s.decoder.mYuv420Size + spareBytes :=
    hbytes.trans (inBufBytes_of_small hyuv hupper (hbytes ▸ hsmall hlive))
  have hfits : (n : Int) ≤ (s.frames f).length := by
    rwa [(le_toSize_toInt32 (hs.length f)).2 (by unfold spareBytes at hlen; split at hlen <;> omega)]
      at hn
  have hf := f.isLt
  have hbase : 0 ≤ (f : Int) * s.decoder.mYuv420Size := Int.mul_nonneg (by omega) hyuv
  have hexp : ((f : Nat) + 1 : Int) * s.decoder.mYuv420Size
      = f * s.decoder.mYuv420Size + s.decoder.mYuv420Size := by ring
  have hslots : ((f : Nat) + 1 : Int) * s.decoder.mYuv420Size ≤ 3 * s.decoder.mYuv420Size := by
    apply Int.mul_le_mul_of_nonneg_right _ hyuv
    unfold JPG_BACKBUF_MAX at hf
    omega
  have hspare : spareBytes = 4096 := rfl
  rw [hdata]
  refine ⟨fun x hlo hhi => ⟨hlo, by omega⟩, fun x hlo hhi => ⟨hlive, by omega, ?_⟩⟩
  split at hlen <;> omega

/-- **A frame is received into its own slot exactly when its announced length
    fits it.**  Nothing in the program checks that it does; when it does, the
    `recv` changes no byte outside the slot and the allocation. -/
theorem payload_contained_iff {fd : Int} {dec : JpgDecCtx} {as : List Act}
    (hrun : Run Step (VideoState.init JPG_BACKBUF_MAX fd dec) as s)
    (hpc : s.vpc = .payload f) :
    (PayloadContained s f ↔ AnnouncedFits s f) ∧
      (AnnouncedFits s f → ∀ ret t, Step s (.video (.recv ret)) t →
        ∀ x, t.inBuf x ≠ s.inBuf x →
          InSlot JPG_BACKBUF_MAX s.decoder.mYuv420Size f x ∧ 0 ≤ x ∧ x < s.inBufSize) := by
  have hs : Sized s := Sized.reachable hrun
  refine ⟨⟨announcedFits_of_contained hs hpc, contained_of_announcedFits hs hpc⟩, ?_⟩
  intro hfits ret t hstep x hchanged
  have hcontained := contained_of_announcedFits hs hpc hfits
  obtain ⟨bs, hbs, hmem⟩ := Step.payload_recv hpc hstep
  -- recv writes where f->data points, and no more than it returns
  have hin : (s.frames f).data ≤ x ∧ x < (s.frames f).data + bs.length := by
    by_contra hout
    apply hchanged
    rw [hmem, write_outside (by omega)]
  obtain ⟨hslot, hblock⟩ := hcontained bs.length hbs
  exact ⟨hslot x hin.1 hin.2, (hblock x hin.1 hin.2).2⟩

end Payload

/-! ### A frame in a stream of 4x4 pictures -/

theorem payload_contained_iff_20_bytes :
    ∃ s, Run Step pipelineInit (startSession (streamOf4x4 20) ++ receiveLength) s ∧
      s.vpc = .payload 0 ∧ PayloadContained s 0 := by
  obtain ⟨s, hs, hvalues⟩ := Option.map_eq_some_iff.mp (by decide +kernel :
    (execute next pipelineInit (startSession (streamOf4x4 20) ++ receiveLength)).map (fun s =>
      (s.vpc, (s.frames 0).length, s.resources .inBuf, s.decoder.mYuv420Size)) =
        some (.payload 0, 20, some 1, 24))
  simp only [Prod.mk.injEq] at hvalues
  obtain ⟨hpc, hlen, hlive, hyuv⟩ := hvalues
  have hfits : AnnouncedFits s 0 := by
    right
    rw [hlen, hlive, hyuv]
    decide
  exact ⟨s, Run.of_execute hs, hpc, (payload_contained_iff (Run.of_execute hs) hpc).1.mpr hfits⟩

theorem payload_not_contained :
    ¬ ∀ (as : List Act) (s t : VideoState JPG_BACKBUF_MAX) (f : Fin JPG_BACKBUF_MAX) (ret : Int),
      Run Step pipelineInit as s → s.vpc = .payload f → Step s (.video (.recv ret)) t →
        ∀ x, t.inBuf x ≠ s.inBuf x → InSlot JPG_BACKBUF_MAX s.decoder.mYuv420Size f x := by
  intro h
  obtain ⟨s, hs, hstep⟩ := Option.bind_eq_some_iff.mp (by decide +kernel :
    ((execute next pipelineInit (startSession (streamOf4x4 100) ++ receiveLength)).bind fun s =>
      (next s (.video (.recv 100))).map fun t =>
        (s.vpc, s.decoder.mYuv420Size, s.inBuf 30, t.inBuf 30)) = some (.payload 0, 24, 0, 255))
  obtain ⟨t, ht, hvalues⟩ := Option.map_eq_some_iff.mp hstep
  simp only [Prod.mk.injEq] at hvalues
  obtain ⟨hpc, hyuv, hbefore, hafter⟩ := hvalues
  have hslot := h _ s t 0 100 (Run.of_execute hs) hpc ht 30 (by rw [hbefore, hafter]; decide)
  rw [hyuv] at hslot
  exact absurd hslot.2 (by decide)

end DroidCam.VideoThreads
