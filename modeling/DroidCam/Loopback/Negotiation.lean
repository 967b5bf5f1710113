import DroidCam.Loopback.Geometry
import DroidCam.Loopback.Cursors

/-
  DroidCam/Loopback/Negotiation.lean
  ==================================
  What a client finds out about the format: the ioctls that enumerate formats, frame
  sizes and frame intervals, and those that get, try and set a format.

  The open that makes the device ready settles the format, and it takes nothing over
  from what was there before.  So all clients see one format that depends on the module
  parameters only, whatever any of them asks for.  Frame intervals are enumerated once
  for each handle: the driver counts the calls and does not look at the index.
-/

namespace DroidCam.Loopback

open CArith LabelledRun

/-! ### The ioctls -/

abbrev V4L2LOOPBACK_SIZE_MIN_WIDTH : Nat := 48
abbrev V4L2LOOPBACK_SIZE_MIN_HEIGHT : Nat := 32

/-- The names in `formats`, in its order. -/
def formatNames : List String :=
  [ "32 bpp RGB, le", "32 bpp RGB, be", "24 bpp RGB, le", "24 bpp RGB, be",
    "4:2:2, packed, YUYV", "4:2:2, packed, YUYV", "4:2:2, packed, UYVY", "4:2:2, packed YVYU",
    "4:2:2, packed VYUY", "4:2:2, packed YYUV", "YUV-8-8-8-8", "8 bpp, gray", "16 Greyscale",
    "4:1:0, planar, Y-Cr-Cb", "4:2:0, planar, Y-Cr-Cb", "4:1:0, planar, Y-Cb-Cr",
    "4:2:0, planar, Y-Cb-Cr" ]

/-- `fourcc2str`. -/
def fourcc2str (format : Nat) : List Char :=
  [format % 256, format / 256 % 256, format / 65536 % 256, format / 16777216 % 256].map Char.ofNat

theorem fourcc2str_yuv420 : fourcc2str V4L2_PIX_FMT_YUV420 = "YU12".toList := by decide

/-- `struct v4l2_fmtdesc`; the flags are always 0. -/
structure FmtDesc where
  type : BufType
  description : List Char
  pixelformat : Nat
deriving DecidableEq, Repr

/-- `struct v4l2_frmsizeenum`. -/
inductive FrameSizes where
  | discrete (width height : Nat)
  | continuous (minWidth minHeight maxWidth maxHeight stepWidth stepHeight : Nat)
deriving DecidableEq, Repr

/-- `vidioc_enum_framesizes`; no answer is `-EINVAL`, here and below. -/
def vidiocEnumFramesizes (d : Device) (index : Nat) : Option FrameSizes :=
  if index ≠ 0 then none
  else if d.readyForCapture then some (.discrete d.pixFormat.width d.pixFormat.height)
  else some (.continuous V4L2LOOPBACK_SIZE_MIN_WIDTH V4L2LOOPBACK_SIZE_MIN_HEIGHT
    V4L2LOOPBACK_SIZE_MAX_WIDTH V4L2LOOPBACK_SIZE_MAX_HEIGHT 1 1)

def vidiocEnumFmtCap (d : Device) (index : Nat) : Option FmtDesc :=
  if index ≠ 0 then none
  else if d.readyForCapture then
    some ⟨.videoCapture, '[' :: fourcc2str d.pixFormat.pixelformat ++ [']'],
      d.pixFormat.pixelformat⟩
  else none

def vidiocGFmtCap (d : Device) : Option V4l2PixFormat :=
  if d.readyForCapture then some d.pixFormat else none

def vidiocTryFmtCap (d : Device) (f : V4l2PixFormat) : Except Int V4l2PixFormat :=
  if d.readyForCapture = false then .error (-EBUSY)
  else if f.pixelformat ≠ d.pixFormat.pixelformat then .error (-EINVAL)
  else .ok d.pixFormat

def vidiocSFmtCap (d : Device) (f : V4l2PixFormat) : Except Int V4l2PixFormat :=
  vidiocTryFmtCap d f

/-- `vidioc_enum_fmt_out`; on a ready device the type it answers with is that of the other
    queue. -/
def vidiocEnumFmtOut (d : Device) (index : Nat) : Option FmtDesc :=
  if d.readyForCapture then
    if index ≠ 0 then none
    else
      match formats.findIdx? fun f => f.fourcc = d.pixFormat.pixelformat with
      | none => none
      | some i =>
        some ⟨.videoCapture, (formatNames.getD i "").toList, d.pixFormat.pixelformat⟩
  else
    match formats[index]? with
    | none => none
    | some f => some ⟨.videoOutput, (formatNames.getD index "").toList, f.fourcc⟩

def vidiocGFmtOut (d : Device) : V4l2PixFormat := d.pixFormat

/-! ### The format of the open

Only the open that finds the device unformatted sets a format, and it is that of the
parameters. -/

/-- What every client is told. -/
def Config.negotiated (cfg : Config) : V4l2PixFormat where
  width := cfg.frameWidth
  height := cfg.frameHeight
  pixelformat := V4L2_PIX_FMT_YUV420
  field := V4L2_FIELD_NONE
  bytesperline := cfg.frameWidth
  sizeimage := cfg.imageSize
  colorspace := V4L2_COLORSPACE_SRGB

/-- Nothing is left of the format that was there before. -/
theorem tryPixFormat_defaultFormat (cfg : Config) (f : V4l2PixFormat) :
    tryPixFormat (defaultFormat cfg f) = cfg.negotiated := by
  have hsize : (tryPixFormat (defaultFormat cfg f)).sizeimage = cfg.imageSize :=
    tryPixFormat_default cfg f
  have hrest : { tryPixFormat (defaultFormat cfg f) with sizeimage := cfg.imageSize } =
      cfg.negotiated := by
    simp only [tryPixFormat, defaultFormat, formatByFourcc_yuv420, Option.getD_some,
      pixFormatSetSize, if_true]
    rfl
  rw [← hrest, ← hsize]

/-- A ready device has the format of the open. -/
def FormatSettled (cfg : Config) (d : Device) : Prop :=
  d.readyForCapture = true → d.pixFormat = cfg.negotiated

theorem FormatSettled.same {cfg : Config} {d d' : Device} (hd : FormatSettled cfg d)
    (hformat : d'.pixFormat = d.pixFormat) (hready : d'.readyForCapture = d.readyForCapture) :
    FormatSettled cfg d' :=
  fun h => hformat.trans (hd (hready.symm.trans h))

theorem openFormat_settled {cfg : Config} {mem : Allocation} {d : Device}
    (hd : FormatSettled cfg d) :
    FormatSettled cfg (openFormat cfg mem d) := by
  cases hready : d.readyForCapture with
  | true =>
      rw [openFormat_ready hready]
      exact hd
  | false =>
      obtain ⟨e, he, hopen⟩ : ∃ e : Device,
          e = (d.setPixFormat (tryPixFormat (defaultFormat cfg d.pixFormat))).setBufferSize
            (pageAlign (tryPixFormat (defaultFormat cfg d.pixFormat)).sizeimage) ∧
          openFormat cfg mem d = (e.allocateBuffers mem).2.setReady := by
        refine ⟨_, rfl, ?_⟩
        rw [openFormat, vidiocSFmtOut, vidiocTryFmtOut, if_neg (by simp [hready])]
        simp only [Device.setPixFormat, hready, Bool.false_eq_true, if_false]
      intro _
      have hformat : e.pixFormat = cfg.negotiated := by
        rw [he]
        exact tryPixFormat_defaultFormat cfg d.pixFormat
      rw [hopen]
      exact (e.allocateBuffers_slots mem).bufferSize.2.2.trans hformat

theorem FormatSettled.step {cfg : Config} {s t : Driver} {call : Call} (hs : Accounted s)
    (hd : FormatSettled cfg s.dev) (h : Step cfg s call t) : FormatSettled cfg t.dev := by
  have hopening : ∀ mem, FormatSettled cfg (s.dev.opening mem) := fun mem =>
    hd.same (s.dev.opening_slots mem).bufferSize.2.2 (s.dev.opening_frame mem).ready
  cases h.move with
  | @openFailed file mem kzalloc ret d hfree hopen =>
      cases v4l2LoopbackOpen_move hopen with
      | refused => exact hd
      | leaked => exact hopening mem
  | @opened file mem kzalloc ret d o hfree hopen =>
      cases v4l2LoopbackOpen_move hopen with
      | opened => exact openFormat_settled (hopening mem)
  | @closed file o hfile =>
      show FormatSettled cfg (v4l2LoopbackClose s.dev)
      -- unformatted again, and the next open sets the same format
      by_cases hfree : s.dev.openCount = 1 ∧ s.dev.keepFormat = false
      · rw [v4l2LoopbackClose_freed hfree.1 hfree.2]
        intro hready
        cases hready
      · rw [v4l2LoopbackClose_kept hfree]
        split <;> exact hd.same rfl rfl
  | @request file req o reply d o' hfile hreq =>
      obtain ⟨hready, hcount⟩ := hs.held hfile
      have hkept := (hs.request_kept hfile hreq).1
      exact hd.same (request_slots hready hcount hreq).bufferSize.2.2 hkept
  | sustainTimer =>
      simp only [Device.sustainTimerClb]
      split <;> exact hd.same rfl rfl
  | timeoutTimer =>
      simp only [Device.timeoutTimerClb]
      split <;> exact hd.same rfl rfl
  | @storeFormat text len reply d hstore =>
      rcases attrStoreFormat_dev hstore with rfl | ⟨num, den, -, -, he⟩
      · exact hd
      · exact hd.same (Device.setTimeperframe_slots he).bufferSize.2.2
          (Device.setTimeperframe_frame he).ready
  | @storeMaxopeners curr len =>
      rcases attrStoreMaxopeners_dev s.dev curr len with hsame | ⟨n, hset⟩
      · rwa [hsame]
      · rw [hset]
        exact hd.same rfl rfl

theorem FormatSettled.run {cfg : Config} {s : Driver} {calls : List Call}
    (h : Run (Step cfg) (Driver.init cfg) calls s) : Accounted s ∧ FormatSettled cfg s.dev := by
  refine @Run.invariant _ _ _ (fun s => Accounted s ∧ FormatSettled cfg s.dev) _ _ _ ?_ ?_ h
  · rintro s call t ⟨hs, hd⟩ hstep
    exact ⟨hs.step hstep, hd.step hs hstep⟩
  · exact ⟨Accounted.init cfg, fun hready => by cases hready⟩

/-! ### What clients see

A ready device answers every question about formats from the one it has. -/

/-- The device offers one format, one size, and makes no other of what it is asked. -/
structure Negotiated (cfg : Config) (d : Device) : Prop where
  enumCap : ∀ index, vidiocEnumFmtCap d index =
    if index = 0 then some ⟨.videoCapture, "[YU12]".toList, V4L2_PIX_FMT_YUV420⟩ else none
  enumOut : ∀ index, vidiocEnumFmtOut d index =
    if index = 0 then
      some ⟨.videoCapture, "4:2:0, planar, Y-Cb-Cr".toList, V4L2_PIX_FMT_YUV420⟩
    else none
  sizes : ∀ index, vidiocEnumFramesizes d index =
    if index = 0 then some (.discrete cfg.frameWidth cfg.frameHeight) else none
  getCap : vidiocGFmtCap d = some cfg.negotiated
  getOut : vidiocGFmtOut d = cfg.negotiated
  setCap : ∀ f, vidiocSFmtCap d f =
    if f.pixelformat = V4L2_PIX_FMT_YUV420 then .ok cfg.negotiated else .error (-EINVAL)
  tryOut : ∀ f, vidiocTryFmtOut d f = (cfg.negotiated, d)
  setOut : ∀ mem f, vidiocSFmtOut mem d f = (cfg.negotiated, d)

theorem FormatSettled.negotiated {cfg : Config} {d : Device} (hd : FormatSettled cfg d)
    (hready : d.readyForCapture = true) : Negotiated cfg d := by
  have hformat := hd hready
  have htry : ∀ f, vidiocTryFmtOut d f = (cfg.negotiated, d) := fun f => by
    rw [vidiocTryFmtOut, if_pos hready, hformat]
  have hpixelformat : cfg.negotiated.pixelformat = V4L2_PIX_FMT_YUV420 := rfl
  constructor
  · intro index
    by_cases hindex : index = 0
    · rw [vidiocEnumFmtCap, if_neg (not_not.mpr hindex), if_pos hready, if_pos hindex, hformat,
        hpixelformat, fourcc2str_yuv420]
      rfl
    · rw [vidiocEnumFmtCap, if_pos hindex, if_neg hindex]
  · intro index
    by_cases hindex : index = 0
    · rw [vidiocEnumFmtOut, if_pos hready, if_neg (not_not.mpr hindex), if_pos hindex, hformat,
        hpixelformat]
      rfl
    · rw [vidiocEnumFmtOut, if_pos hready, if_pos hindex, if_neg hindex]
  · intro index
    by_cases hindex : index = 0
    · rw [vidiocEnumFramesizes, if_neg (not_not.mpr hindex), if_pos hready, if_pos hindex, hformat]
      rfl
    · rw [vidiocEnumFramesizes, if_pos hindex, if_neg hindex]
  · rw [vidiocGFmtCap, if_pos hready, hformat]
  · exact hformat
  · intro f
    have hbusy : ¬ d.readyForCapture = false := by simp [hready]
    rw [vidiocSFmtCap, vidiocTryFmtCap, if_neg hbusy, hformat, hpixelformat]
    by_cases hf : f.pixelformat = V4L2_PIX_FMT_YUV420
    · simp only [hf, ne_eq, not_true_eq_false, if_false, if_true]
    · simp only [hf, ne_eq, not_false_eq_true, if_true, if_false]
  · exact htry
  · intro mem f
    rw [vidiocSFmtOut, htry]
    simp only [hready, if_true]

/-! ### Intervals, once for each handle

The call counts itself on the handle, and the second one is told that there is nothing
more. -/

/-- The client does not close the handle. -/
def StaysOpen (file : Nat) (_ : Driver) (call : Call) : Prop := call ≠ .closeDevice file

/-- A handle that has enumerated the intervals. -/
def Enumerated (file : Nat) (s : Driver) : Prop :=
  ∃ o, s.openers.lookup file = some o ∧ 0 < o.enumFrameintervalsCalls

theorem nextPosition_calls (d : Device) (o : Opener) :
    (nextPosition d o).2.enumFrameintervalsCalls = o.enumFrameintervalsCalls := by
  unfold nextPosition
  split <;> rfl

theorem getCaptureBuffer_calls {w : Waiting} {d d' : Device} {o o' : Opener} {ret : Option Int}
    (h : getCaptureBuffer w d o = .ok (ret, d', o')) :
    o'.enumFrameintervalsCalls = o.enumFrameintervalsCalls := by
  cases getCaptureBuffer_move h with
  | again => rfl
  | asleep => rfl
  | index => exact nextPosition_calls d o

theorem vidiocEnumFrameintervals_calls (d : Device) (o : Opener) (width height : Nat) :
    o.enumFrameintervalsCalls ≤
      (vidiocEnumFrameintervals d o width height).2.enumFrameintervalsCalls := by
  unfold vidiocEnumFrameintervals
  split_ifs
  · exact Nat.le_refl _
  · exact Nat.le_succ _
  · exact Nat.le_refl _
  · exact Nat.le_refl _

/-- No request forgets that the intervals were enumerated. -/
theorem request_calls {cfg : Config} {d d' : Device} {o o' : Opener} {req : Request}
    {reply : Reply} (h : request cfg d o req = .ok (reply, d', o')) :
    o.enumFrameintervalsCalls ≤ o'.enumFrameintervalsCalls := by
  cases request_move h with
  | counted width height n =>
      have hcalls := vidiocEnumFrameintervals_calls d o width height
      simp only [request, Except.ok.injEq, Prod.mk.injEq] at h
      rwa [h.2.2] at hcalls
  | granted memory count _ _ hgrant => cases hgrant <;> exact Nat.le_refl _
  | dequeued type w _ _ hdequeue =>
      cases hdequeue with
      | captured ret e _ _ hio hcapture => exact (getCaptureBuffer_calls hcapture).ge
      | _ => exact Nat.le_refl _
  | captured count w fault ret _ _ hcapture => exact (getCaptureBuffer_calls hcapture).ge
  | _ => exact Nat.le_refl _

theorem Enumerated.step {cfg : Config} {file : Nat} {s t : Driver} {call : Call}
    (hs : Enumerated file s) (hopen : StaysOpen file s call) (h : Step cfg s call t) :
    Enumerated file t := by
  obtain ⟨o, hfile, hcalls⟩ := hs
  cases h.move with
  | openFailed => exact ⟨o, hfile, hcalls⟩
  | @opened f mem kzalloc ret d e hfree =>
      have hne : file ≠ f := by
        rintro rfl
        rw [hfree] at hfile
        cases hfile
      exact ⟨o, (AList.lookup_insert_ne hne).trans hfile, hcalls⟩
  | @closed f e =>
      have hne : file ≠ f := by
        rintro rfl
        exact hopen rfl
      exact ⟨o, (AList.lookup_erase_ne hne).trans hfile, hcalls⟩
  | @request f req e reply d e' hhandle hreq =>
      by_cases hf : file = f
      · subst hf
        obtain rfl : o = e := Option.some.inj (hfile.symm.trans hhandle)
        exact ⟨e', AList.lookup_insert s.openers, hcalls.trans_le (request_calls hreq)⟩
      · exact ⟨o, (AList.lookup_insert_ne hf).trans hfile, hcalls⟩
  | _ => exact ⟨o, hfile, hcalls⟩

theorem lookup_staysOpen {cfg : Config} {file : Nat} {s t : Driver} {call : Call}
    (hfile : (s.openers.lookup file).isSome = true) (hopen : StaysOpen file s call)
    (h : Step cfg s call t) : (t.openers.lookup file).isSome = true := by
  cases h.move with
  | @opened f =>
      by_cases hf : file = f
      · subst hf
        rw [Driver.afterRequest, AList.lookup_insert]
        rfl
      · rwa [Driver.afterRequest, AList.lookup_insert_ne hf]
  | @closed f =>
      have hne : file ≠ f := by
        rintro rfl
        exact hopen rfl
      rwa [AList.lookup_erase_ne hne]
  | @request f =>
      by_cases hf : file = f
      · subst hf
        rw [Driver.afterRequest, AList.lookup_insert]
        rfl
      · rwa [Driver.afterRequest, AList.lookup_insert_ne hf]
  | _ => exact hfile

/-- **One format for everybody.**  As long as a client keeps its handle, whatever any client
    asks for, the device offers the one format that the module parameters determine; the
    interval is enumerated for its size, once, and then never again on this handle. -/
theorem format_negotiated {cfg : Config} {s t : Driver} {before after : List Call} {file : Nat}
    {o : Opener} (h₀ : Run (Step cfg) (Driver.init cfg) before s)
    (hfile : s.openers.lookup file = some o)
    (h : Run (Guarded (StaysOpen file) (Step cfg)) s after t) :
    Negotiated cfg t.dev ∧
      (o.enumFrameintervalsCalls = 0 → ∀ width height,
        vidiocEnumFrameintervals s.dev o width height =
          if width = cfg.frameWidth ∧ height = cfg.frameHeight then
            (.interval (some s.dev.timeperframe), { o with enumFrameintervalsCalls := 1 })
          else (.code (-EINVAL), o)) ∧
      (0 < o.enumFrameintervalsCalls → ∃ o', t.openers.lookup file = some o' ∧
        ∀ width height,
          vidiocEnumFrameintervals t.dev o' width height = (.code (-EINVAL), o')) := by
  obtain ⟨hs, hd⟩ := FormatSettled.run h₀
  obtain ⟨ht, hd'⟩ := FormatSettled.run (h₀.append h.of_guarded)
  have hready := (hs.held hfile).1
  have hready' : t.dev.readyForCapture = true := by
    have hsome : (t.openers.lookup file).isSome = true := by
      refine @Run.invariant _ _ _ (fun t : Driver => (t.openers.lookup file).isSome = true) _ _ _
        (fun u call v hu hstep => lookup_staysOpen hu hstep.1 hstep.2) ?_ h
      rw [hfile]
      rfl
    obtain ⟨o', ho'⟩ := Option.isSome_iff_exists.mp hsome
    exact (ht.held ho').1
  refine ⟨hd'.negotiated hready', fun hnone width height => ?_, fun hcalls => ?_⟩
  · have hwidth : s.dev.pixFormat.width = cfg.frameWidth := by rw [hd hready]; rfl
    have hheight : s.dev.pixFormat.height = cfg.frameHeight := by rw [hd hready]; rfl
    rw [vidiocEnumFrameintervals, if_pos hready, if_neg (by omega), hwidth, hheight, hnone]
  · obtain ⟨o', ho', hcalls'⟩ : Enumerated file t := Run.invariant
      (fun u call v hu hstep => hu.step hstep.1 hstep.2) ⟨o, hfile, hcalls⟩ h
    refine ⟨o', ho', fun width height => ?_⟩
    rw [vidiocEnumFrameintervals, if_pos hready', if_pos hcalls']

instance (file : Nat) (s : Driver) : ∀ call, Decidable (StaysOpen file s call)
  | .closeDevice f => decidable_of_iff (f ≠ file) (by simp [StaysOpen])
  | .openDevice _ _ _ | .request _ _ | .sustainTimer | .timeoutTimer | .storeFormat _ _
  | .storeMaxopeners _ _ => isTrue (by simp [StaysOpen])

/-- One client enumerates the interval, another asks for a format of its own. -/
theorem format_negotiated_twoClients :
    ∃ s t o, s.openers.lookup 1 = some o ∧
      Run (Step ⟨1280, 720, 100⟩) s [.openDevice 2 granting true,
        .request 2 (.sFmtOut ⟨64, 64, bgr32.fourcc, 0, 0, 0, 0⟩ granting)] t ∧
      Negotiated ⟨1280, 720, 100⟩ t.dev ∧ 0 < o.enumFrameintervalsCalls := by
  obtain ⟨s, hs, hvalues⟩ := Option.map_eq_some_iff.mp (by decide +kernel :
    (execute (next ⟨1280, 720, 100⟩) (Driver.init ⟨1280, 720, 100⟩)
      [.openDevice 1 granting true, .request 1 (.enumFrameintervals 1280 720)]).map
      (fun s => (s.openers.lookup 1, (execute (guard (StaysOpen 1) (next ⟨1280, 720, 100⟩)) s
        [.openDevice 2 granting true,
          .request 2 (.sFmtOut ⟨64, 64, bgr32.fourcc, 0, 0, 0, 0⟩ granting)]).isSome)) =
        some (some { enumFrameintervalsCalls := 1 }, true))
  simp only [Prod.mk.injEq] at hvalues
  obtain ⟨hfile, hafter⟩ := hvalues
  obtain ⟨t, ht⟩ := Option.isSome_iff_exists.mp hafter
  have hguarded := Run.of_execute_guard ht
  exact ⟨s, t, _, hfile, hguarded.of_guarded,
    (format_negotiated (Run.of_execute hs) hfile hguarded).1, by decide⟩

end DroidCam.Loopback
