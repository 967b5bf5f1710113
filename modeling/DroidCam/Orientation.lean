import DroidCam.DecoderSession
import DroidCam.Lib.Picture

/-
  DroidCam/Orientation.lean
  =========================
  The transform that `process_frame` hands to turbojpeg.

  One field holds it: a device in portrait needs a turn by a quarter, which
  `decoder_prepare_video` stores, and the two flips are toggled by the user.  The
  toggles know four of its values, and the quarter turn is not among them.  So a
  device in portrait gets the right picture only while no flip is asked for.

  `tjTransform` is a parameter.  It moves whole blocks of a JPEG picture, and with
  `TJXOPT_TRIM` it cuts off those at the right and at the bottom that are not full
  where they would have to move (`TrimsBlocks`).  So the sides of the stream matter
  too, on a device in landscape as well.
-/

namespace DroidCam.JpgDecoder

/-! ### Operations

What the manual of turbojpeg says of an operation has two parts: the picture that it
makes of one whose blocks are all full, and the edges whose blocks have to be full
for that. -/

/-- The picture that an operation makes of one without partial blocks. -/
def TjxOp.image {α : Type} : TjxOp → Picture α → Picture α
  | .none, p => p
  | .hflip, p => p.hflip
  | .vflip, p => p.vflip
  | .rot90, p => p.rot90
  | .rot180, p => p.rot180

/-- The operation moves the right edge. -/
def TjxOp.movesRight : TjxOp → Bool
  | .hflip | .rot180 => true
  | _ => false

/-- The operation moves the bottom edge. -/
def TjxOp.movesBottom : TjxOp → Bool
  | .vflip | .rot90 | .rot180 => true
  | _ => false

/-- `tjMCUWidth[TJSAMP_420]` and `tjMCUHeight[TJSAMP_420]`. -/
def mcuSide : Int := 16

/-- The blocks at the edges that are moved are full. -/
def TjxOp.Whole (op : TjxOp) (width height : Int) : Prop :=
  (op.movesRight = true → width % mcuSide = 0) ∧ (op.movesBottom = true → height % mcuSide = 0)

instance (op : TjxOp) (width height : Int) : Decidable (op.Whole width height) :=
  inferInstanceAs (Decidable (_ ∧ _))

/-- There is a full block along each edge that is moved. -/
def TjxOp.HasBlock (op : TjxOp) (width height : Int) : Prop :=
  (op.movesRight = true → mcuSide ≤ width) ∧ (op.movesBottom = true → mcuSide ≤ height)

/-- The picture without the partial blocks at the edges that are moved. -/
def TjxOp.trim {α : Type} (op : TjxOp) (p : Picture α) : Picture α :=
  p.corner (if op.movesRight then p.width / mcuSide * mcuSide else p.width)
    (if op.movesBottom then p.height / mcuSide * mcuSide else p.height)

/-- The operation for two flips. -/
def TjxOp.ofFlips : Bool → Bool → TjxOp
  | false, false => .none
  | true, false => .hflip
  | false, true => .vflip
  | true, true => .rot180

theorem TjxOp.image_ofFlips {α : Type} (a b : Bool) (p : Picture α) :
    (TjxOp.ofFlips a b).image p = p.flip a b := by
  cases a <;> cases b <;> rfl

theorem decoderHorizontalFlip_ofFlips (a b : Bool) :
    decoderHorizontalFlip (.ofFlips a b) = .ofFlips (!a) b := by
  cases a <;> cases b <;> rfl

theorem decoderVerticalFlip_ofFlips (a b : Bool) :
    decoderVerticalFlip (.ofFlips a b) = .ofFlips a (!b) := by
  cases a <;> cases b <;> rfl

/-- Any operation but the quarter turn is one of two flips. -/
theorem TjxOp.eq_ofFlips {op : TjxOp} (h : op ≠ .rot90) : ∃ a b, op = .ofFlips a b := by
  cases op with
  | none => exact ⟨false, false, rfl⟩
  | hflip => exact ⟨true, false, rfl⟩
  | vflip => exact ⟨false, true, rfl⟩
  | rot180 => exact ⟨true, true, rfl⟩
  | rot90 => exact absurd rfl h

/-! ### Trimming

Pictures that are equal have equal sides, so what is cut off shows. -/

/-- With full blocks nothing is cut off. -/
theorem TjxOp.trim_of_whole {α : Type} {op : TjxOp} {p : Picture α}
    (h : op.Whole p.width p.height) : op.trim p = p := by
  obtain ⟨hright, hbottom⟩ := h
  have hwidth : (if op.movesRight then p.width / mcuSide * mcuSide else p.width) = p.width := by
    unfold mcuSide at hright ⊢
    split <;> grind
  have hheight : (if op.movesBottom then p.height / mcuSide * mcuSide else p.height) =
      p.height := by
    unfold mcuSide at hbottom ⊢
    split <;> grind
  rw [TjxOp.trim, hwidth, hheight]
  rfl

/-- A picture keeps its sides only when its blocks are full. -/
theorem TjxOp.whole_of_trim {α : Type} {op : TjxOp} {p : Picture α}
    (hwidth : (op.trim p).width = p.width) (hheight : (op.trim p).height = p.height) :
    op.Whole p.width p.height := by
  simp only [TjxOp.trim, Picture.corner, mcuSide] at hwidth hheight
  refine ⟨fun hright => ?_, fun hbottom => ?_⟩
  · rw [if_pos hright] at hwidth
    unfold mcuSide
    omega
  · rw [if_pos hbottom] at hheight
    unfold mcuSide
    omega

theorem TjxOp.trim_le {α : Type} (op : TjxOp) (p : Picture α) :
    (op.trim p).width ≤ p.width ∧ (op.trim p).height ≤ p.height := by
  simp only [TjxOp.trim, Picture.corner, mcuSide]
  constructor <;> split <;> omega

/-- Full blocks of a picture that is not empty are at least one. -/
theorem TjxOp.Whole.hasBlock {op : TjxOp} {width height : Int} (h : op.Whole width height)
    (hwidth : 0 < width) (hheight : 0 < height) : op.HasBlock width height := by
  refine ⟨fun hright => ?_, fun hbottom => ?_⟩
  · have hfull := h.1 hright
    unfold mcuSide at hfull ⊢
    omega
  · have hfull := h.2 hbottom
    unfold mcuSide at hfull ⊢
    omega

/-- Only the quarter turn makes a quarter turn of a picture, without flips and of full
    blocks. -/
theorem TjxOp.image_trim_turned {op : TjxOp} {width height : Int} {a b : Bool}
    (h : op.image (op.trim (Picture.coordinates width height)) =
      (Picture.coordinates width height).rot90.flip a b) :
    op = .rot90 ∧ a = false ∧ b = false ∧ op.Whole width height := by
  have hw := congrArg Picture.width h
  have hh := congrArg Picture.height h
  obtain ⟨hwle, hhle⟩ := op.trim_le (Picture.coordinates width height)
  rw [Picture.flip_width] at hw
  rw [Picture.flip_height] at hh
  by_cases hop : op = .rot90
  · subst hop
    have hwhole : TjxOp.rot90.Whole width height :=
      TjxOp.whole_of_trim (p := Picture.coordinates width height) hh hw
    rw [TjxOp.trim_of_whole hwhole] at h
    obtain ⟨ha, hb⟩ := Picture.rot90_flip_eq h
    exact ⟨rfl, ha, hb, hwhole⟩
  · -- sides that are swapped and not larger are those of a square, which is whole
    obtain ⟨a', b', rfl⟩ := TjxOp.eq_ofFlips hop
    rw [TjxOp.image_ofFlips, Picture.flip_width] at hw
    rw [TjxOp.image_ofFlips, Picture.flip_height] at hh
    have hsides : width = height := by
      have hw' : ((TjxOp.ofFlips a' b').trim (Picture.coordinates width height)).width = height := hw
      have hh' : ((TjxOp.ofFlips a' b').trim (Picture.coordinates width height)).height = width := hh
      have hwle' : _ ≤ width := hwle
      have hhle' : _ ≤ height := hhle
      omega
    subst hsides
    have hwhole : (TjxOp.ofFlips a' b').Whole width width :=
      TjxOp.whole_of_trim (p := Picture.coordinates width width) hw hh
    rw [TjxOp.trim_of_whole hwhole, TjxOp.image_ofFlips] at h
    exact absurd h.symm (Picture.rot90_ne_flip width width a b a' b')

/-! ### The library -/

section Library

variable (tjTransform : ∀ α : Type, TjxOp → List TjxOpt → Picture α → Picture α)

/-- The manual of turbojpeg on `TJXOPT_TRIM`, for pictures in 4:2:0: partial blocks
    that cannot be moved are discarded.  It does not say what is left of a picture
    that has no other blocks there. -/
def TrimsBlocks : Prop :=
  ∀ (α : Type) (op : TjxOp) (options : List TjxOpt) (p : Picture α), .trim ∈ options →
    op.HasBlock p.width p.height → tjTransform α op options p = op.image (op.trim p)

/-- What `process_frame` decodes; it does not call `tjTransform` for `TJXOP_NONE`. -/
def transformed {α : Type} (op : TjxOp) (p : Picture α) : Picture α :=
  if op = .none then p else tjTransform α op transformOptions p

variable {tjTransform}

theorem TrimsBlocks.transformed_eq (htj : TrimsBlocks tjTransform) {α : Type} {op : TjxOp}
    {p : Picture α} (h : op.HasBlock p.width p.height) :
    transformed tjTransform op p = op.image (op.trim p) := by
  unfold transformed
  split
  · rename_i hop
    subst hop
    rfl
  · exact htj α op transformOptions p (by decide) h

end Library

end DroidCam.JpgDecoder

namespace DroidCam.DecoderSession

open LabelledRun JpgDecoder
open VideoThreads (JPG_BACKBUF_MAX)

/-! ### The right picture -/

/-- The turn that the device needs. -/
def baseRotation {α : Type} (webcamW webcamH : Nat) (p : Picture α) : Picture α :=
  if webcamW < webcamH then p.rot90 else p

def isOdd (n : Nat) : Bool := decide (n % 2 = 1)

theorem isOdd_succ (n : Nat) : isOdd (n + 1) = !isOdd n := by
  unfold isOdd
  rw [← decide_not, decide_eq_decide]
  omega

/-- On the pictures of the stream the transform is the turn the device needs, with
    each flip that was asked for an odd number of times, and it takes them to the
    sides that the buffers were made for. -/
structure Oriented (tjTransform : ∀ α : Type, TjxOp → List TjxOpt → Picture α → Picture α)
    (s : DecoderState) : Prop where
  transform : ∀ (α : Type) (p : Picture α), p.width = s.dec.mWidth → p.height = s.dec.mHeight →
    transformed tjTransform s.dec.transformOp p =
      (baseRotation s.webcamW s.webcamH p).flip (isOdd s.hflips) (isOdd s.vflips)
  sides : ∀ (α : Type) (p : Picture α), p.width = s.dec.mWidth → p.height = s.dec.mHeight →
    (transformed tjTransform s.dec.transformOp p).width = s.dec.dWidth ∧
      (transformed tjTransform s.dec.transformOp p).height = s.dec.dHeight

/-- The operation that the device and the flips call for, if there is one. -/
def wantedOp (s : DecoderState) (horizontal vertical : Bool) : TjxOp :=
  if s.webcamW < s.webcamH then .rot90 else .ofFlips horizontal vertical

/-- A stream of these sides can be had with these flips: a device in portrait has
    none, and the edges that are moved have full blocks. -/
def CanShow (s : DecoderState) (horizontal vertical : Bool) (width height : Int) : Prop :=
  (s.webcamW < s.webcamH → horizontal = false ∧ vertical = false) ∧
    (wantedOp s horizontal vertical).Whole width height

instance (s : DecoderState) (horizontal vertical : Bool) (width height : Int) :
    Decidable (CanShow s horizontal vertical width height) :=
  inferInstanceAs (Decidable (_ ∧ _))

/-- `decoder_prepare_video` takes the header. -/
def acceptsHeader (s : DecoderState) (header : List UInt8) (lib : PrepareAnswers) : Bool :=
  (decoderPrepareVideo JPG_BACKBUF_MAX s.webcamW s.webcamH s.droidcamDeviceFd lib.tj lib.tjXform
    s.dec header).isOk

/-- A session starts with flips that the stream can be had with, and so does each flip
    during the session leave it. -/
def KeepsPicture (s : DecoderState) (call : DecoderCall) : Prop :=
  match call with
  | .horizontalFlip =>
    s.prepared = true → CanShow s (!isOdd s.hflips) (isOdd s.vflips) s.dec.mWidth s.dec.mHeight
  | .verticalFlip =>
    s.prepared = true → CanShow s (isOdd s.hflips) (!isOdd s.vflips) s.dec.mWidth s.dec.mHeight
  | .prepareVideo header lib =>
    acceptsHeader s header lib = true →
      CanShow s (isOdd s.hflips) (isOdd s.vflips) (headerWidth header) (headerHeight header)
  | _ => True

/-- A stream that is taken has a full block on both sides. -/
def LargeStream (s : DecoderState) (call : DecoderCall) : Prop :=
  match call with
  | .prepareVideo header lib =>
    acceptsHeader s header lib = true →
      mcuSide ≤ headerWidth header ∧ mcuSide ≤ headerHeight header
  | _ => True

/-! ### What the calls keep

The field is right in a session when it is the operation that is called for.  In
landscape it always is, and in portrait from `decoder_prepare_video` to the next
flip, of which no second one finds the quarter turn again. -/

/-- What the calls keep, whatever the device. -/
structure OrientInv (s : DecoderState) : Prop where
  invert : s.dec.invert = decide (s.webcamW < s.webcamH)
  positive : s.prepared = true → 0 < s.dec.mWidth ∧ 0 < s.dec.mHeight
  sides : s.prepared = true →
    s.dec.dWidth = (if s.dec.invert then s.dec.mHeight else s.dec.mWidth) ∧
      s.dec.dHeight = if s.dec.invert then s.dec.mWidth else s.dec.mHeight
  landscape : s.dec.invert = false →
    s.dec.transformOp = .ofFlips (isOdd s.hflips) (isOdd s.vflips)

/-- The field is the operation that is called for, and the stream can be had with it. -/
structure Turned (s : DecoderState) : Prop where
  op : s.dec.transformOp = wantedOp s (isOdd s.hflips) (isOdd s.vflips)
  canShow : CanShow s (isOdd s.hflips) (isOdd s.vflips) s.dec.mWidth s.dec.mHeight

theorem OrientInv.init {W H : Nat} (fd : Int) :
    OrientInv (DecoderState.init W H fd (decoderInit W H)) :=
  ⟨rfl, nofun, nofun, fun _ => rfl⟩

/-- Where the stream can be had, the operation called for makes the right picture. -/
theorem wantedOp_image {α : Type} {s : DecoderState} {a b : Bool} {width height : Int}
    (h : CanShow s a b width height) (p : Picture α) :
    (wantedOp s a b).image p = (baseRotation s.webcamW s.webcamH p).flip a b := by
  unfold wantedOp baseRotation
  split
  · rename_i hportrait
    obtain ⟨rfl, rfl⟩ := h.1 hportrait
    rfl
  · exact TjxOp.image_ofFlips a b p

section Library

variable {tjTransform : ∀ α : Type, TjxOp → List TjxOpt → Picture α → Picture α}
variable {s : DecoderState}

theorem OrientInv.oriented (hs : OrientInv s) (htj : TrimsBlocks tjTransform)
    (hprepared : s.prepared = true) (h : Turned s) : Oriented tjTransform s := by
  obtain ⟨hwidth, hheight⟩ := hs.positive hprepared
  obtain ⟨hdWidth, hdHeight⟩ := hs.sides hprepared
  have hwhole := h.canShow.2
  have hright : ∀ (α : Type) (p : Picture α), p.width = s.dec.mWidth →
      p.height = s.dec.mHeight → transformed tjTransform s.dec.transformOp p =
        (baseRotation s.webcamW s.webcamH p).flip (isOdd s.hflips) (isOdd s.vflips) := by
    intro α p hw hh
    rw [← hw, ← hh] at hwhole
    rw [h.op, htj.transformed_eq (hwhole.hasBlock (hw ▸ hwidth) (hh ▸ hheight)),
      TjxOp.trim_of_whole hwhole]
    exact wantedOp_image h.canShow p
  refine ⟨hright, fun α p hw hh => ?_⟩
  rw [hright α p hw hh, Picture.flip_width, Picture.flip_height, hdWidth, hdHeight, hs.invert]
  unfold baseRotation
  by_cases hportrait : s.webcamW < s.webcamH
  · rw [if_pos hportrait, decide_eq_true hportrait]
    exact ⟨hh, hw⟩
  · rw [if_neg hportrait, decide_eq_false hportrait]
    exact ⟨hw, hh⟩

/-- With a full block on both sides of the stream nothing else gives the right
    picture. -/
theorem OrientInv.turned (hs : OrientInv s) (htj : TrimsBlocks tjTransform)
    (hlarge : mcuSide ≤ s.dec.mWidth ∧ mcuSide ≤ s.dec.mHeight) (h : Oriented tjTransform s) :
    Turned s := by
  have hpicture := h.transform _ (Picture.coordinates s.dec.mWidth s.dec.mHeight) rfl rfl
  rw [htj.transformed_eq ⟨fun _ => hlarge.1, fun _ => hlarge.2⟩] at hpicture
  by_cases hportrait : s.webcamW < s.webcamH
  · rw [baseRotation, if_pos hportrait] at hpicture
    obtain ⟨hop, ha, hb, hwhole⟩ := TjxOp.image_trim_turned hpicture
    have hwanted : wantedOp s (isOdd s.hflips) (isOdd s.vflips) = .rot90 := if_pos hportrait
    refine ⟨hop.trans hwanted.symm, fun _ => ⟨ha, hb⟩, ?_⟩
    rwa [hwanted, ← hop]
  · have hop := hs.landscape (by rw [hs.invert, decide_eq_false hportrait])
    have hwanted : wantedOp s (isOdd s.hflips) (isOdd s.vflips) =
        .ofFlips (isOdd s.hflips) (isOdd s.vflips) := if_neg hportrait
    rw [baseRotation, if_neg hportrait, hop, TjxOp.image_ofFlips] at hpicture
    have hw := congrArg Picture.width hpicture
    have hh := congrArg Picture.height hpicture
    rw [Picture.flip_width, Picture.flip_width] at hw
    rw [Picture.flip_height, Picture.flip_height] at hh
    refine ⟨hop.trans hwanted.symm, fun hp => absurd hp hportrait, ?_⟩
    rw [hwanted]
    exact TjxOp.whole_of_trim hw hh

end Library

/-! ### Steps

A call keeps the right field exactly when its condition holds, so the condition of a run
is one on its calls. -/

section Steps

variable {tjHeader : List UInt8 → Option Header} {s t : DecoderState}

/-- A header that is taken starts a session, another one ends it. -/
theorem prepareVideo_cases (s : DecoderState) (header : List UInt8) (lib : PrepareAnswers) :
    (acceptsHeader s header lib = true ∧ (1 ≤ headerWidth header ∧ 1 ≤ headerHeight header) ∧
        (s.prepareVideo header lib).dec = setStreamSizes
          { s.dec with mWidth := headerWidth header, mHeight := headerHeight header } ∧
        (s.prepareVideo header lib).prepared = true) ∨
      (acceptsHeader s header lib = false ∧ (s.prepareVideo header lib).prepared = false ∧
        (s.prepareVideo header lib).dec =
          { s.dec with mWidth := headerWidth header, mHeight := headerHeight header }) := by
  unfold DecoderState.prepareVideo acceptsHeader
  split
  · rename_i hv
    exact Or.inr ⟨by rw [hv]; rfl, rfl, rfl⟩
  · rename_i v hv
    obtain ⟨hwidth, hheight, rfl⟩ := decoderPrepareVideo_ok hv
    exact Or.inl ⟨by rw [hv]; rfl, ⟨hwidth.1, hheight.1⟩, rfl, rfl⟩

theorem prepareVideo_frame (s : DecoderState) (header : List UInt8) (lib : PrepareAnswers) :
    (s.prepareVideo header lib).webcamW = s.webcamW ∧
      (s.prepareVideo header lib).webcamH = s.webcamH ∧
      (s.prepareVideo header lib).hflips = s.hflips ∧
      (s.prepareVideo header lib).vflips = s.vflips := by
  unfold DecoderState.prepareVideo
  split
  · exact ⟨rfl, rfl, rfl, rfl⟩
  · simp only [DecoderState.prepareScaler]
    split <;> exact ⟨rfl, rfl, rfl, rfl⟩

theorem OrientInv.prepareVideo (hs : OrientInv s) (header : List UInt8) (lib : PrepareAnswers) :
    OrientInv (s.prepareVideo header lib) := by
  obtain ⟨hW, hH, hhflips, hvflips⟩ := prepareVideo_frame s header lib
  rcases prepareVideo_cases s header lib with ⟨-, hpositive, hdec, -⟩ | ⟨-, hended, hdec⟩
  · refine ⟨?_, fun _ => ?_, fun _ => ?_, ?_⟩
    · rw [hdec, hW, hH]
      exact hs.invert
    · rw [hdec]
      exact hpositive
    · rw [hdec]
      exact ⟨rfl, rfl⟩
    · rw [hdec, hhflips, hvflips]
      intro hlandscape
      have hfalse : s.dec.invert = false := hlandscape
      simp only [setStreamSizes, hfalse, Bool.false_eq_true, if_false]
      exact hs.landscape hfalse
  · have hidle : (s.prepareVideo header lib).prepared ≠ true := by
      rw [hended]
      exact Bool.false_ne_true
    refine ⟨?_, fun hprepared => absurd hprepared hidle, fun hprepared => absurd hprepared hidle,
      ?_⟩
    · rw [hdec, hW, hH]
      exact hs.invert
    · rw [hdec, hhflips, hvflips]
      exact hs.landscape

theorem OrientInv.step {call : DecoderCall} (hs : OrientInv s) (h : Step tjHeader s call t) :
    OrientInv t := by
  cases call with
  | prepareVideo header lib =>
      obtain rfl := Option.some.inj h
      exact hs.prepareVideo header lib
  | horizontalFlip =>
      obtain rfl := Option.some.inj h
      refine ⟨hs.invert, hs.positive, hs.sides, fun hlandscape => ?_⟩
      have hop := hs.landscape hlandscape
      simp only [DecoderState.setTransform, hop, decoderHorizontalFlip_ofFlips, isOdd_succ]
  | verticalFlip =>
      obtain rfl := Option.some.inj h
      refine ⟨hs.invert, hs.positive, hs.sides, fun hlandscape => ?_⟩
      have hop := hs.landscape hlandscape
      simp only [DecoderState.setTransform, hop, decoderVerticalFlip_ofFlips, isOdd_succ]
  | cleanup =>
      obtain rfl := Option.some.inj h
      exact ⟨hs.invert, nofun, nofun, hs.landscape⟩
  | processFrame p lib =>
      simp only [ofNext, next] at h
      split at h
      · obtain rfl := Option.some.inj h
        have hsame := processFrame_same tjHeader s p lib
        refine ⟨?_, ?_, ?_, ?_⟩
        · rw [hsame.dec, hsame.webcam.1, hsame.webcam.2]
          exact hs.invert
        · rw [hsame.dec, hsame.prepared]
          exact hs.positive
        · rw [hsame.dec, hsame.prepared]
          exact hs.sides
        · rw [hsame.dec, hsame.flips.1, hsame.flips.2]
          exact hs.landscape
      · cases h

/-- A flip takes the operation called for to the next one.  In portrait there is none,
    since only one of the two can be had. -/
theorem wantedOp_flip {flip : TjxOp → TjxOp} {a b a' b' : Bool} {width height : Int}
    (hflip : flip (.ofFlips a b) = .ofFlips a' b') (hne : a ≠ a' ∨ b ≠ b')
    (h : CanShow s a b width height) (h' : CanShow s a' b' width height) :
    flip (wantedOp s a b) = wantedOp s a' b' := by
  unfold wantedOp
  split
  · rename_i hportrait
    obtain ⟨rfl, rfl⟩ := h.1 hportrait
    obtain ⟨rfl, rfl⟩ := h'.1 hportrait
    simp at hne
  · exact hflip

/-- What one call makes of a session that is right. -/
theorem OrientInv.step_turned_iff {call : DecoderCall} (hs : OrientInv s)
    (hgood : s.prepared = true → Turned s) (h : Step tjHeader s call t) :
    (t.prepared = true → Turned t) ↔ KeepsPicture s call := by
  cases call with
  | prepareVideo header lib =>
      obtain rfl := Option.some.inj h
      obtain ⟨hW, hH, hhflips, hvflips⟩ := prepareVideo_frame s header lib
      -- a header that is refused leaves the field as it was, and no session is prepared
      rcases prepareVideo_cases s header lib with ⟨haccepts, -, hdec, hprepared⟩ |
        ⟨haccepts, hended, -⟩
      · have hop : (s.prepareVideo header lib).dec.transformOp =
            wantedOp s (isOdd s.hflips) (isOdd s.vflips) := by
          rw [hdec]
          -- in portrait the quarter turn is stored over whatever flips there were
          by_cases hportrait : s.webcamW < s.webcamH
          · simp only [setStreamSizes, hs.invert, decide_eq_true hportrait, if_true, wantedOp,
              if_pos hportrait]
          · have hinvert : s.dec.invert = false := by rw [hs.invert, decide_eq_false hportrait]
            simp only [setStreamSizes, hinvert, Bool.false_eq_true, if_false, wantedOp,
              if_neg hportrait]
            exact hs.landscape hinvert
        have hturned : Turned (s.prepareVideo header lib) ↔ CanShow s (isOdd s.hflips)
            (isOdd s.vflips) (headerWidth header) (headerHeight header) := by
          have hsame : ∀ a b, wantedOp (s.prepareVideo header lib) a b = wantedOp s a b := by
            intro a b
            rw [wantedOp, wantedOp, hW, hH]
          have hshow : CanShow (s.prepareVideo header lib)
              (isOdd (s.prepareVideo header lib).hflips) (isOdd (s.prepareVideo header lib).vflips)
              (s.prepareVideo header lib).dec.mWidth (s.prepareVideo header lib).dec.mHeight ↔
                CanShow s (isOdd s.hflips) (isOdd s.vflips) (headerWidth header)
                  (headerHeight header) := by
            unfold CanShow
            rw [hsame, hW, hH, hhflips, hvflips, hdec]
            rfl
          refine ⟨fun ht => hshow.mp ht.canShow, fun hcan => ⟨?_, hshow.mpr hcan⟩⟩
          rw [hop, hhflips, hvflips, hsame]
        simp only [KeepsPicture, haccepts, hprepared, true_implies]
        exact hturned
      · simp only [KeepsPicture, hended, haccepts, Bool.false_eq_true, false_implies]
  | horizontalFlip =>
      obtain rfl := Option.some.inj h
      refine forall_congr' fun hprepared => ?_
      -- the field before the flip is the one that was called for
      have hbefore := hgood hprepared
      constructor
      · intro ht
        have hshow := ht.canShow
        rwa [isOdd_succ] at hshow
      · intro hshow
        refine ⟨?_, by rwa [isOdd_succ]⟩
        rw [isOdd_succ]
        have hflip := wantedOp_flip (decoderHorizontalFlip_ofFlips _ _) (Or.inl (by simp))
          hbefore.canShow hshow
        rwa [← hbefore.op] at hflip
  | verticalFlip =>
      obtain rfl := Option.some.inj h
      refine forall_congr' fun hprepared => ?_
      have hbefore := hgood hprepared
      constructor
      · intro ht
        have hshow := ht.canShow
        rwa [isOdd_succ] at hshow
      · intro hshow
        refine ⟨?_, by rwa [isOdd_succ]⟩
        rw [isOdd_succ]
        have hflip := wantedOp_flip (decoderVerticalFlip_ofFlips _ _) (Or.inr (by simp))
          hbefore.canShow hshow
        rwa [← hbefore.op] at hflip
  | cleanup =>
      obtain rfl := Option.some.inj h
      refine iff_of_true (fun hprepared => ?_) trivial
      cases hprepared
  | processFrame p lib =>
      simp only [ofNext, next] at h
      split at h
      · rename_i hprepared
        obtain rfl := Option.some.inj h
        have hsame := processFrame_same tjHeader s p lib
        obtain ⟨hop, hshow⟩ := hgood hprepared
        refine iff_of_true (fun _ => ⟨?_, ?_⟩) trivial
        · rw [wantedOp, hsame.webcam.1, hsame.webcam.2, hsame.flips.1, hsame.flips.2, hsame.dec]
          exact hop
        · unfold CanShow wantedOp
          rw [hsame.webcam.1, hsame.webcam.2, hsame.flips.1, hsame.flips.2, hsame.dec]
          exact hshow
      · cases h

/-- In a session of a large stream the sides stay large. -/
theorem step_large {call : DecoderCall}
    (hlarge : s.prepared = true → mcuSide ≤ s.dec.mWidth ∧ mcuSide ≤ s.dec.mHeight)
    (h : Guarded LargeStream (Step tjHeader) s call t) :
    t.prepared = true → mcuSide ≤ t.dec.mWidth ∧ mcuSide ≤ t.dec.mHeight := by
  obtain ⟨hcall, h⟩ := h
  cases call with
  | prepareVideo header lib =>
      obtain rfl := Option.some.inj h
      rcases prepareVideo_cases s header lib with ⟨haccepts, -, hdec, -⟩ | ⟨-, hended, -⟩
      · rw [hdec]
        exact fun _ => hcall haccepts
      · rw [hended]
        intro hprepared
        cases hprepared
  | processFrame p lib =>
      simp only [ofNext, next] at h
      split at h
      · obtain rfl := Option.some.inj h
        have hsame := processFrame_same tjHeader s p lib
        rw [hsame.dec, hsame.prepared]
        exact hlarge
      · cases h
  | cleanup =>
      obtain rfl := Option.some.inj h
      intro hprepared
      cases hprepared
  | horizontalFlip =>
      obtain rfl := Option.some.inj h
      exact hlarge
  | verticalFlip =>
      obtain rfl := Option.some.inj h
      exact hlarge

end Steps

/-- **The picture is the right way up where the flips asked for can be had.**  In every
    run from `decoder_init` whose sessions start, and are flipped, only so that
    `CanShow` holds, each session applies the turn of the device and the flips that
    were asked for.  Where no stream is smaller than a block no other run does. -/
theorem transform_oriented {tjTransform : ∀ α : Type, TjxOp → List TjxOpt → Picture α → Picture α}
    {tjHeader : List UInt8 → Option Header} {W H : Nat} {fd : Int} {dec : JpgDecCtx}
    (htj : TrimsBlocks tjTransform) (hinit : decoderInitOf (W, H) = some dec) :
    (∀ calls s, Run (Guarded KeepsPicture (Step tjHeader)) (DecoderState.init W H fd dec) calls s →
      s.prepared = true → Oriented tjTransform s) ∧
    (∀ calls s, Run (Guarded LargeStream (Step tjHeader)) (DecoderState.init W H fd dec) calls s →
      (∀ bs u, bs <+: calls → Run (Step tjHeader) (DecoderState.init W H fd dec) bs u →
        u.prepared = true → Oriented tjTransform u) →
      Run (Guarded KeepsPicture (Step tjHeader)) (DecoderState.init W H fd dec) calls s) := by
  obtain ⟨-, rfl⟩ := decoderInitOf_eq hinit
  constructor
  · intro calls s h hprepared
    -- the field is the one that is called for, and with full blocks it gives the
    -- picture
    have hinv : OrientInv s ∧ (s.prepared = true → Turned s) := by
      refine @Run.invariant _ _ _ (fun u => OrientInv u ∧ (u.prepared = true → Turned u)) _ _ _ ?_
        ⟨OrientInv.init fd, nofun⟩ h
      rintro u call v ⟨hu, hgood⟩ ⟨hkeeps, hstep⟩
      exact ⟨hu.step hstep, (hu.step_turned_iff hgood hstep).mpr hkeeps⟩
    exact hinv.1.oriented htj hprepared (hinv.2 hprepared)
  · intro calls s h hall
    have hdet : ∀ u call v v', Guarded LargeStream (Step tjHeader) u call v →
        Guarded LargeStream (Step tjHeader) u call v' → v = v' :=
      fun u call v v' hv hv' => ofNext_deterministic _ u call v v' hv.2 hv'.2
    -- a picture that comes out right says that the field was the right one
    have hiff := @Run.guarded_iff_of_inv _ _ (Guarded LargeStream (Step tjHeader))
      (fun u => OrientInv u ∧
        (u.prepared = true → mcuSide ≤ u.dec.mWidth ∧ mcuSide ≤ u.dec.mHeight))
      (fun u => u.prepared = true → Turned u)
      (fun u => u.prepared = true → Oriented tjTransform u) KeepsPicture hdet
      (fun u call v hu hstep => ⟨hu.1.step hstep.2, step_large hu.2 hstep⟩)
      (fun u hu hturned hprepared => hu.1.oriented htj hprepared (hturned hprepared))
      (fun u call v hu hturned hstep hkeeps =>
        (hu.1.step_turned_iff hturned hstep.2).mpr hkeeps)
      (fun u call v hu hturned hstep hgood =>
        (hu.1.step_turned_iff hturned hstep.2).mp fun hprepared =>
          (hu.1.step hstep.2).turned htj (step_large hu.2 hstep hprepared) (hgood hprepared))
      _ _ _ ⟨OrientInv.init fd, nofun⟩ nofun h
    have hrun := hiff.mp fun bs u hbs hu => hall bs u hbs hu.of_guarded
    exact hrun.mono fun u call v hstep => ⟨hstep.1, hstep.2.2⟩

/-- turbojpeg on pictures that have a full block at each edge. -/
def trimming (α : Type) (op : TjxOp) (_ : List TjxOpt) (p : Picture α) : Picture α :=
  op.image (op.trim p)

/-- A device in portrait; the user flips twice and then a session starts. -/
theorem transform_oriented_portrait :
    ∃ s, Run (Step (headersOf 640 480)) (DecoderState.init 480 640 1 (decoderInit 480 640))
        [.verticalFlip, .verticalFlip, .prepareVideo [2, 128, 1, 224] preparing] s ∧
      s.prepared = true ∧ Oriented trimming s := by
  let s := DecoderState.init 480 640 1 (decoderInit 480 640)
  let once : DecoderState := { s.setTransform .vflip with vflips := 1 }
  let twice : DecoderState := { s.setTransform .none with vflips := 2 }
  have hfirst : Guarded KeepsPicture (Step (headersOf 640 480)) s .verticalFlip once :=
    ⟨nofun, rfl⟩
  have hsecond : Guarded KeepsPicture (Step (headersOf 640 480)) once .verticalFlip twice :=
    ⟨nofun, rfl⟩
  have hprepare : Guarded KeepsPicture (Step (headersOf 640 480)) twice
      (.prepareVideo [2, 128, 1, 224] preparing)
      (twice.prepareVideo [2, 128, 1, 224] preparing) :=
    ⟨fun _ => by decide, rfl⟩
  have hrun := ((Run.single hfirst).snoc hsecond).snoc hprepare
  exact ⟨_, hrun.of_guarded, rfl,
    (@transform_oriented trimming _ 480 640 1 _ (fun _ _ _ _ _ _ => rfl) rfl).1 _ _ hrun rfl⟩

/-- A flip during a session loses the turn of a device in portrait. -/
theorem transform_loses_rotation :
    ¬ ∀ (tjTransform : ∀ α : Type, TjxOp → List TjxOpt → Picture α → Picture α)
        (tjHeader : List UInt8 → Option Header) (W H : Nat) (fd : Int) dec calls s,
      TrimsBlocks tjTransform → decoderInitOf (W, H) = some dec →
        Run (Step tjHeader) (DecoderState.init W H fd dec) calls s →
          s.prepared = true → Oriented tjTransform s := by
  intro h
  let s := (DecoderState.init 480 640 1 (decoderInit 480 640)).prepareVideo [2, 128, 1, 224]
    preparing
  have hprepare : Step (headersOf 640 480) (DecoderState.init 480 640 1 (decoderInit 480 640))
      (.prepareVideo [2, 128, 1, 224] preparing) s := rfl
  have hflip : Step (headersOf 640 480) s .horizontalFlip
      { s.setTransform .hflip with hflips := 1 } := rfl
  have horiented := h trimming _ 480 640 1 _ _ _ (fun _ _ _ _ _ _ => rfl) rfl
    (Run.snoc (Run.single hprepare) hflip) rfl
  have hsides := horiented.sides _ (Picture.coordinates 640 480) rfl rfl
  exact absurd hsides.1 (by decide)

/-- A stream of 1920x1080 that is flipped upside down loses its last eight rows. -/
example : (transformed trimming .vflip (Picture.coordinates 1920 1080)).height = 1072 := rfl

end DroidCam.DecoderSession
