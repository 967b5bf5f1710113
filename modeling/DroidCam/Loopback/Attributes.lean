import DroidCam.Lib.KernelText
import DroidCam.Loopback.FrameInterval
import DroidCam.Loopback.Negotiation
import DroidCam.Loopback.OpenCount

/-
  DroidCam/Loopback/Attributes.lean
  =================================
  The attributes of the device in sysfs, as texts: what is shown and what a text that is
  written back does.

  The text of `format` begins with the four characters of the format, of which
  `fourcc2str` copies four and no more: `buf4cc[4]` is not set, and `stack` is what the
  function finds behind them.  The interval stands at the end, behind an `@`, and only
  that part can be written.
-/

namespace DroidCam.Loopback

open CArith LabelledRun Scanf KernelText CString

/-! ### Texts

What `sprintf` writes and `sscanf` reads.  `%d` prints a `__u32`, so that a value beyond
`INT_MAX` is shown with a minus sign. -/

/-- `%d` of a `__u32` or an `int`. -/
def printD (n : Int) : List Char := printInt (Int32.ofInt n)

/-- What goes into `buf_fps`, before it is cut off at its size. -/
def fpsText (tpf : Fract) : List Char :=
  if tpf.numerator = 1 then printD tpf.denominator
  else printD tpf.denominator ++ '/' :: printD tpf.numerator

/-- `%4s`. -/
def padLeft (s : List Char) : List Char := List.replicate (4 - s.length) ' ' ++ s

/-- The text before the interval. -/
def formatText (stack : List Char) (f : V4l2PixFormat) : List Char :=
  padLeft (cstr (fourcc2str f.pixelformat ++ stack)) ++ ':' :: printD f.width ++
    'x' :: printD f.height

/-- `attr_show_format`. -/
def attrShowFormat (stack : List Char) (d : Device) : List Char :=
  if d.readyForCapture = false then []
  else formatText stack d.pixFormat ++ '@' :: (fpsText d.timeperframe).take 31 ++ ['\n']

/-- `sscanf(buf, "@%d/%d", &fps_num, &fps_den)`. -/
def sscanfFps : List Char → FormatText
  | '@' :: s =>
    match scanInt s with
    | none => .nothing
    | some (num, '/' :: s) =>
      match scanInt s with
      | none => .fps (toInt32 num)
      | some (den, _) => .fraction (toInt32 num) (toInt32 den)
    | some (num, _) => .fps (toInt32 num)
  | _ => .nothing

/-- `attr_store_format` of a text. -/
def attrStoreFormatText (cfg : Config) (d : Device) (text : List Char) :
    Except Fault (Reply × Device) :=
  attrStoreFormat cfg d (sscanfFps text) text.length

def attrShowMaxopeners (d : Device) : List Char := printD d.maxOpeners ++ ['\n']

/-- `attr_store_maxopeners` of a text. -/
def attrStoreMaxopenersText (d : Device) (text : List Char) : Reply × Device :=
  attrStoreMaxopeners d (kstrtoul text) text.length

/-! ### The interval

The text is not longer than the buffer it goes through, so nothing of it is cut off. -/

theorem fpsText_take (tpf : Fract) : (fpsText tpf).take 31 = fpsText tpf := by
  have hden := printInt_length (Int32.ofInt tpf.denominator)
  have hnum := printInt_length (Int32.ofInt tpf.numerator)
  refine List.take_of_length_le ?_
  unfold fpsText printD
  split
  · omega
  · rw [List.length_append, List.length_cons]
    omega

theorem toInt_ofInt (n : Int) : (Int32.ofInt n).toInt = toInt32 n := by
  have hsize : (Int32.size : Int) = 4294967296 := rfl
  rw [Int32.toInt_ofInt, toInt32, Int.bmod, hsize]
  split <;> omega

@[simp] theorem scanInt_printD (n : Int) {rest : List Char} (hrest : NoDigit rest) :
    scanInt (printD n ++ rest) = some (toInt32 n, rest) := by
  rw [printD, scanInt_printInt _ hrest, toInt_ofInt]

theorem toInt32_idem (n : Int) : toInt32 (toInt32 n) = toInt32 n := by
  unfold toInt32
  omega

theorem noDigit_cons {c : Char} (h : c.isDigit = false) (rest : List Char) :
    NoDigit (c :: rest) := by
  intro x hx
  cases hx
  exact h

/-- What is shown behind the `@`, read again. -/
theorem sscanfFps_fpsText (tpf : Fract) :
    sscanfFps ('@' :: (fpsText tpf ++ ['\n'])) =
      if tpf.numerator = 1 then .fps (toInt32 tpf.denominator)
      else .fraction (toInt32 tpf.denominator) (toInt32 tpf.numerator) := by
  have hend : NoDigit ['\n'] := noDigit_cons (by decide) []
  have hslash : ∀ s, NoDigit ('/' :: s) := noDigit_cons (by decide)
  unfold fpsText
  split
  · simp only [sscanfFps, scanInt_printD _ hend]
    exact congrArg FormatText.fps (toInt32_idem _)
  · simp only [List.append_assoc, List.cons_append, sscanfFps, scanInt_printD _ (hslash _),
      scanInt_printD _ hend, toInt32_idem]

/-- A stored interval stored again changes nothing. -/
theorem Device.setTimeperframe_stored {cfg : Config} {d : Device} (hd : IntervalValid cfg d) :
    d.setTimeperframe cfg d.timeperframe = .ok d := by
  have hne : d.timeperframe.denominator ≠ 0 := Nat.ne_of_gt hd.denominator
  have hjiffies := hd.frameJiffies
  rw [← cfg.msecsToJiffies_second] at hjiffies
  rw [Device.setTimeperframe, if_neg hne, ← hjiffies]

/-- **The interval that is shown can be written back**, and changes nothing; one that does
    not fit an `int` is refused. -/
theorem attrStoreFormatText_shown {cfg : Config} {d : Device} (hd : IntervalValid cfg d)
    (hnum : d.timeperframe.numerator < 4294967296)
    (hden : d.timeperframe.denominator < 4294967296) :
    attrStoreFormatText cfg d ('@' :: (fpsText d.timeperframe ++ ['\n'])) =
      .ok (if d.timeperframe.numerator < 2147483648 ∧ d.timeperframe.denominator < 2147483648 then
          .transferred (2 + (fpsText d.timeperframe).length)
        else .code (-EINVAL), d) := by
  have hnumerator := hd.numerator
  have hdenominator := hd.denominator
  have hlength : ('@' :: (fpsText d.timeperframe ++ ['\n'])).length =
      2 + (fpsText d.timeperframe).length := by
    simp only [List.length_cons, List.length_append, List.length_nil]
    omega
  have hnumbers : (sscanfFps ('@' :: (fpsText d.timeperframe ++ ['\n']))).numbers =
      (toInt32 d.timeperframe.denominator, toInt32 d.timeperframe.numerator) := by
    rw [sscanfFps_fpsText]
    split
    · rename_i hone
      rw [hone]
      rfl
    · rfl
  have hsome : sscanfFps ('@' :: (fpsText d.timeperframe ++ ['\n'])) ≠ .nothing := by
    rw [sscanfFps_fpsText]
    split <;> simp
  by_cases hfits : d.timeperframe.numerator < 2147483648 ∧ d.timeperframe.denominator < 2147483648
  · have hden' : toInt32 d.timeperframe.denominator = d.timeperframe.denominator :=
      toInt32_of_fits (by omega) (by omega)
    have hnum' : toInt32 d.timeperframe.numerator = d.timeperframe.numerator :=
      toInt32_of_fits (by omega) (by omega)
    rw [hden', hnum'] at hnumbers
    have hvalid : ¬ ((d.timeperframe.denominator : Int) < 1 ∨
        (d.timeperframe.numerator : Int) < 1) := by
      omega
    simp only [attrStoreFormatText, attrStoreFormat, hnumbers, hsome, false_or, if_neg hvalid,
      Int.toNat_natCast, hlength, if_pos hfits]
    -- beyond `INT_MAX` the number comes back with its sign, and is refused
    rw [show (⟨d.timeperframe.numerator, d.timeperframe.denominator⟩ : Fract) =
        d.timeperframe from rfl,
      Device.setTimeperframe_stored hd]
    rfl
  · have hrefused : toInt32 d.timeperframe.denominator < 1 ∨
        toInt32 d.timeperframe.numerator < 1 := by
      rcases not_and_or.mp hfits with hn | hn
      · right
        unfold toInt32
        omega
      · left
        unfold toInt32
        omega
    simp only [attrStoreFormatText, attrStoreFormat, hnumbers, hsome, false_or, if_pos hrefused,
      if_neg hfits]

/-! ### The limit on openers -/

/-- `max_openers` is an `int`. -/
def LimitFits (d : Device) : Prop := toInt32 d.maxOpeners = d.maxOpeners

theorem LimitFits.same {d d' : Device} (hd : LimitFits d) (h : d'.maxOpeners = d.maxOpeners) :
    LimitFits d' := by
  rwa [LimitFits, h]

theorem LimitFits.step {cfg : Config} {s t : Driver} {call : Call} (hs : LimitFits s.dev)
    (h : Step cfg s call t) : LimitFits t.dev := by
  cases h.move with
  | openFailed hfree hopen => exact hs.same (v4l2LoopbackOpen_standing hopen).maxOpeners
  | opened hfree hopen => exact hs.same (v4l2LoopbackOpen_standing hopen).maxOpeners
  | closed hfile => exact hs.same (v4l2LoopbackClose_standing s.dev).maxOpeners
  | request hfile hreq => exact hs.same (request_standing hreq).maxOpeners
  | sustainTimer =>
      simp only [Device.sustainTimerClb]
      split <;> exact hs.same rfl
  | timeoutTimer =>
      simp only [Device.timeoutTimerClb]
      split <;> exact hs.same rfl
  | storeFormat hstore =>
      rcases attrStoreFormat_dev hstore with rfl | ⟨num, den, -, -, hset⟩
      · exact hs
      · obtain ⟨-, rfl⟩ := Device.setTimeperframe_eq_ok hset
        exact hs.same rfl
  | @storeMaxopeners curr len =>
      unfold attrStoreMaxopeners
      cases curr with
      | none => exact hs
      | some curr =>
          simp only
          split_ifs
          · exact hs
          · exact hs
          -- what is stored is an `int` again
          · exact toInt32_idem curr

/-- **The limit that is shown can be written back** unless it is negative, and changes
    nothing. -/
theorem attrStoreMaxopenersText_shown {d : Device} (hd : LimitFits d) :
    attrStoreMaxopenersText d (attrShowMaxopeners d) =
      (if 0 ≤ d.maxOpeners then .transferred (attrShowMaxopeners d).length else .code (-EINVAL),
        d) := by
  have hlimit : (Int32.ofInt d.maxOpeners).toInt = d.maxOpeners := (toInt_ofInt _).trans hd
  have hhi := (Int32.ofInt d.maxOpeners).toInt_lt
  rw [hlimit] at hhi
  rw [attrStoreMaxopenersText]
  generalize (attrShowMaxopeners d).length = len
  rw [attrShowMaxopeners, printD, kstrtoul_printInt, hlimit]
  split
  · rename_i hpos
    have hsize : toSize d.maxOpeners = (d.maxOpeners.toNat : Int) := by
      unfold toSize
      omega
    simp only [attrStoreMaxopeners, hsize, if_true]
  · rfl

/-! ### What is shown

The whole line begins with the format and not with `@`, so the line that is shown is not
one that is taken. -/

theorem attrShowFormat_ready {stack : List Char} {d : Device} (hready : d.readyForCapture = true) :
    attrShowFormat stack d =
      formatText stack d.pixFormat ++ '@' :: (fpsText d.timeperframe ++ ['\n']) := by
  rw [attrShowFormat, if_neg (by simp [hready]), fpsText_take]
  simp

/-- The line begins with a character of the format, and is not taken back as it is. -/
theorem sscanfFps_line {cfg : Config} {stack : List Char} {d : Device}
    (hd : FormatSettled cfg d) (hready : d.readyForCapture = true) :
    sscanfFps (attrShowFormat stack d) = .nothing := by
  have hchars : ∃ rest, cstr (fourcc2str d.pixFormat.pixelformat ++ stack) =
      'Y' :: 'U' :: '1' :: '2' :: rest := by
    rw [hd hready, show cfg.negotiated.pixelformat = V4L2_PIX_FMT_YUV420 from rfl,
      fourcc2str_yuv420]
    exact ⟨cstr stack, rfl⟩
  obtain ⟨rest, hrest⟩ := hchars
  have hpad : padLeft ('Y' :: 'U' :: '1' :: '2' :: rest) = 'Y' :: 'U' :: '1' :: '2' :: rest := by
    simp [padLeft]
  rw [attrShowFormat_ready hready, formatText, hrest, hpad]
  rfl

/-- A text that is taken is shown as the two numbers that were read. -/
theorem attrShowFormat_stored {cfg : Config} {stack text : List Char} {d d' : Device} {n : Nat}
    (hready : d.readyForCapture = true)
    (h : attrStoreFormatText cfg d text = .ok (.transferred n, d')) :
    n = text.length ∧ ∃ num den : Nat, 1 ≤ num ∧ 1 ≤ den ∧
      (sscanfFps text).numbers = ((num : Int), (den : Int)) ∧
      attrShowFormat stack d' =
        formatText stack d.pixFormat ++ '@' :: (fpsText ⟨den, num⟩ ++ ['\n']) := by
  rw [attrStoreFormatText, attrStoreFormat] at h
  rcases hnumbers : (sscanfFps text).numbers with ⟨num, den⟩
  simp only [hnumbers] at h
  split at h
  · cases h
  · rename_i hvalid
    obtain ⟨e, he, h⟩ := bind_eq_ok.mp h
    cases h
    obtain ⟨-, rfl⟩ := Device.setTimeperframe_eq_ok he
    refine ⟨rfl, num.toNat, den.toNat, by omega, by omega, ?_, ?_⟩
    · rw [Int.toNat_of_nonneg (by omega), Int.toNat_of_nonneg (by omega)]
    · exact attrShowFormat_ready hready

/-- **What the attributes show can be written back.**  In every state of a run in which
    S_PARM was given positive fractions, the interval that `format` shows is taken and
    changes nothing as long as it fits an `int`, but the whole line is refused; a text that
    is taken is shown as it was read.  The limit that `max_openers` shows is taken and
    changes nothing unless it is negative. -/
theorem attributes_write_back {cfg : Config} {s : Driver} {calls : List Call}
    (hrun : Run (Guarded PositiveInterval (Step cfg)) (Driver.init cfg) calls s)
    (hready : s.dev.readyForCapture = true) (hnum : s.dev.timeperframe.numerator < 4294967296)
    (hden : s.dev.timeperframe.denominator < 4294967296) (stack : List Char) :
    (∃ head, attrShowFormat stack s.dev =
        head ++ '@' :: (fpsText s.dev.timeperframe ++ ['\n']) ∧
      attrStoreFormatText cfg s.dev ('@' :: (fpsText s.dev.timeperframe ++ ['\n'])) =
        .ok (if s.dev.timeperframe.numerator < 2147483648 ∧
            s.dev.timeperframe.denominator < 2147483648 then
          .transferred (2 + (fpsText s.dev.timeperframe).length) else .code (-EINVAL), s.dev) ∧
      (∀ text n d', attrStoreFormatText cfg s.dev text = .ok (.transferred n, d') →
        n = text.length ∧ ∃ num den : Nat, 1 ≤ num ∧ 1 ≤ den ∧
          (sscanfFps text).numbers = ((num : Int), (den : Int)) ∧
          attrShowFormat stack d' = head ++ '@' :: (fpsText ⟨den, num⟩ ++ ['\n']))) ∧
    attrStoreFormatText cfg s.dev (attrShowFormat stack s.dev) = .ok (.code (-EINVAL), s.dev) ∧
    attrStoreMaxopenersText s.dev (attrShowMaxopeners s.dev) =
      (if 0 ≤ s.dev.maxOpeners then .transferred (attrShowMaxopeners s.dev).length
        else .code (-EINVAL), s.dev) := by
  have hinterval : IntervalValid cfg s.dev := by
    refine @Run.invariant _ _ _ (fun s : Driver => IntervalValid cfg s.dev) _ _ _ ?_
      (IntervalValid.init cfg) hrun
    exact fun r call t hr hstep => (hr.step_iff hstep.2).mpr hstep.1
  have hlimit : LimitFits s.dev := by
    refine @Run.invariant _ _ _ (fun s : Driver => LimitFits s.dev) _ _ _ ?_
      (show LimitFits (Driver.init cfg).dev from (by decide : toInt32 MAX_OPENERS = MAX_OPENERS))
      hrun
    exact fun r call t hr hstep => hr.step hstep.2
  have hsettled := (FormatSettled.run hrun.of_guarded).2
  refine ⟨⟨formatText stack s.dev.pixFormat, attrShowFormat_ready hready,
    attrStoreFormatText_shown hinterval hnum hden,
    fun text n d' h => attrShowFormat_stored hready h⟩, ?_, attrStoreMaxopenersText_shown hlimit⟩
  rw [attrStoreFormatText, sscanfFps_line hsettled hready]
  rfl

instance : ∀ req : Request, Decidable req.PositiveInterval
  | .sParm type tpf => inferInstanceAs (Decidable
      (type = .videoCapture ∨ type = .videoOutput → 1 ≤ tpf.numerator ∧ 1 ≤ tpf.denominator))
  | .enumFrameintervals .. | .tryFmtOut .. | .sFmtOut .. | .sCtrl .. | .reqbufs .. | .querybuf ..
  | .qbuf .. | .dqbuf .. | .streamon .. | .mmap .. | .read .. | .write .. | .poll => isTrue trivial

instance (s : Driver) : ∀ call, Decidable (PositiveInterval s call)
  | .request file req =>
    inferInstanceAs (Decidable (s.openers.lookup file ≠ none → req.PositiveInterval))
  | .openDevice .. | .closeDevice .. | .sustainTimer | .timeoutTimer | .storeFormat ..
  | .storeMaxopeners .. => isTrue trivial

/-- A client asks for the interval of NTSC. -/
theorem attributes_write_back_ntsc :
    ∃ s : Driver, attrShowFormat ['\x00'] s.dev = "YU12:640x480@30000/1001\n".toList ∧
      attrStoreFormatText ⟨640, 480, 100⟩ s.dev "@30000/1001\n".toList =
        .ok (.transferred 12, s.dev) := by
  obtain ⟨s, hs, hvalues⟩ := Option.map_eq_some_iff.mp (by decide +kernel :
    (execute (guard PositiveInterval (next ⟨640, 480, 100⟩)) (Driver.init ⟨640, 480, 100⟩)
      [.openDevice 1 granting true, .request 1 (.sParm .videoCapture ⟨1001, 30000⟩)]).map
      (fun s => (s.dev.readyForCapture, s.dev.timeperframe,
        attrShowFormat ['\x00'] s.dev)) =
        some (true, ⟨1001, 30000⟩, "YU12:640x480@30000/1001\n".toList))
  simp only [Prod.mk.injEq] at hvalues
  obtain ⟨hready, htpf, hshown⟩ := hvalues
  obtain ⟨⟨head, -, hstore, -⟩, -⟩ := attributes_write_back (Run.of_execute_guard hs) hready
    (by rw [htpf]; decide) (by rw [htpf]; decide) ['\x00']
  refine ⟨s, hshown, ?_⟩
  rw [htpf] at hstore
  exact hstore

end DroidCam.Loopback
