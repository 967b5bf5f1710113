import DroidCam.SettingsMigration
import DroidCam.Window

/-
  DroidCam/CommandLine.lean
  =========================
  The two `parse_args`, of `droidcam-cli.c` and of `droidcam.c`.

  An option is told by a few of its characters, compared one by one, and some are
  skipped: after the comparisons before it, an index may be behind the NUL.  So an
  argument is read with its length, and a read outside of it is an outcome of its own.
  A comparison that fails ends the chain, as `&&` does.
-/

namespace DroidCam.CommandLine

open CString Scanf SettingsFile Window

/-! ### Arguments -/

/-- `argv[i][j]`. -/
def argChar (arg : List Char) (j : Nat) : Except OutOfBounds Char :=
  match (arg ++ [NUL])[j]? with
  | some c => .ok c
  | none => .error ⟨j, arg.length + 1⟩

/-- `argv[i][j] == c && ..` -/
def charsAre (arg : List Char) : List (Nat × Char) → Except OutOfBounds Bool
  | [] => .ok true
  | (j, c) :: rest =>
    match argChar arg j with
    | .error e => .error e
    | .ok x => if x = c then charsAre arg rest else .ok false

inductive ArgsError where
  | outside (e : OutOfBounds)
  /-- `ERROR`: the usage is printed, and `exit(1)`. -/
  | usage
deriving DecidableEq, Repr

/-- `if (argv[i][j] == c && ..) { yes } ..` -/
def branch {α : Type} (arg : List Char) (cs : List (Nat × Char)) (yes no : Except ArgsError α) :
    Except ArgsError α :=
  match charsAre arg cs with
  | .error e => .error (.outside e)
  | .ok true => yes
  | .ok false => no

/-- `-dev=PATH` from its test on. -/
def takeDev (arg : List Char) : Except ArgsError (List Char) :=
  branch arg [(4, '=')]
    (branch arg [(5, NUL)] (.error .usage) (.ok (arg.drop 5)))
    (.error .usage)

/-- `sscanf(argv[i], "-size=%dx%d", ..)` into two `unsigned`. -/
def takeSize (arg : List Char) : Except ArgsError (UInt32 × UInt32) :=
  match sscanf (lits "-size=".toList ++ [.int, .lit 'x', .int]) arg with
  | [.int width, .int height] => .ok (width.toUInt32, height.toUInt32)
  | _ => .error .usage

/-! ### `droidcam-cli.c` -/

/-- The variables that `parse_args` sets. -/
structure CliArgs where
  settings : Settings
  vRunning : Bool
  aRunning : Bool
  noControls : Bool
  v4l2Dev : Option (List Char)
  v4l2Width : UInt32
  v4l2Height : UInt32

/-- `g_settings = {0}` and the others. -/
def CliArgs.init : CliArgs where
  settings := ⟨CharArray.zero 16, 0, 0, 0, 0, 0, 0, 0, 0, 0, 0, 0⟩
  vRunning := false
  aRunning := false
  noControls := false
  v4l2Dev := none
  v4l2Width := 640
  v4l2Height := 480

/-- What an argument does in the loop; `none` is its `break`. -/
def cliOption (arg : List Char) : Except ArgsError (Option (CliArgs → CliArgs)) :=
  branch arg [(0, '-'), (1, 'v'), (2, 'f'), (3, 'l'), (5, 'p')]
    (.ok (some fun s => { s with settings := { s.settings with verticalFlip := 1 } })) <|
  branch arg [(0, '-'), (1, 'h'), (2, 'f'), (3, 'l'), (5, 'p')]
    (.ok (some fun s => { s with settings := { s.settings with horizontalFlip := 1 } })) <|
  branch arg [(0, '-'), (1, 'a')] (.ok (some fun s => { s with aRunning := true })) <|
  branch arg [(0, '-'), (1, 'v')] (.ok (some fun s => { s with vRunning := true })) <|
  branch arg [(0, '-'), (1, 'd'), (3, 'v')]
    ((takeDev arg).map fun path => some fun s => { s with v4l2Dev := some path }) <|
  branch arg [(0, '-'), (1, 's'), (3, 'z')]
    ((takeSize arg).map fun size =>
      some fun s => { s with v4l2Width := size.1, v4l2Height := size.2 }) <|
  branch arg [(0, '-')]
    (if (afterFirst "nocontrols".toList (arg.drop 1)).isSome then
      .ok (some fun s => { s with noControls := true })
    else .ok none) <|
  .ok none

/-- The loop, with the arguments it leaves. -/
def cliOptions (s : CliArgs) : List (List Char) → Except ArgsError (CliArgs × List (List Char))
  | [] => .ok (s, [])
  | arg :: rest =>
    match cliOption arg with
    | .error e => .error e
    | .ok none => .ok (s, arg :: rest)
    | .ok (some set) => cliOptions (set s) rest

/-- `strtoul` into an `int`. -/
def portOf (text : List Char) : Int32 := (strtoul text).toInt64.toInt32

/-- The target and its port. -/
def cliTarget (s : CliArgs) (target port : List Char) : Except ArgsError CliArgs :=
  branch target [(0, '-'), (1, 'l')]
    (.ok { s with
      settings := { s.settings with port := portOf port, connection := CB_WIFI_SRVR }
      aRunning := false
      vRunning := true })
    (let ip := (s.settings.ip.strncpy target 15).set 15 NUL
     let settings := { s.settings with ip, port := portOf port }
     if cstr ip.chars = "adb".toList then
       .ok { s with settings := { settings with
          ip := (CharArray.zero 16).strncpy ADB_LOCALHOST_IP 16
          connection := CB_RADIO_ADB } }
     else if cstr ip.chars = "ios".toList then
       .ok { s with settings := { settings with connection := CB_RADIO_IOS } }
     else .ok { s with settings := { settings with connection := CB_RADIO_WIFI } })

def parseArgs (argv : List (List Char)) : Except ArgsError CliArgs :=
  if 3 ≤ argv.length then
    match cliOptions .init argv.tail with
    | .error e => .error e
    | .ok (s, target :: port :: _) => cliTarget s target port
    | .ok (_, _) => .error .usage
  else .error .usage

/-- `main` after `parse_args`. -/
def CliArgs.defaultVideo (s : CliArgs) : CliArgs :=
  if s.vRunning = false ∧ s.aRunning = false then { s with vRunning := true } else s

/-! ### `droidcam.c` -/

/-- `v4l2_dev` and the size in the settings. -/
structure GuiArgs where
  v4l2Dev : Option (List Char)
  v4l2Width : UInt32
  v4l2Height : UInt32

/-- An argument the window does not know is passed over. -/
def guiOption (arg : List Char) : Except ArgsError (GuiArgs → GuiArgs) :=
  branch arg [(0, '-'), (1, 'd'), (3, 'v')]
    ((takeDev arg).map fun path => fun s => { s with v4l2Dev := some path }) <|
  branch arg [(0, '-'), (1, 's'), (3, 'z')]
    ((takeSize arg).map fun size =>
      fun s => { s with v4l2Width := size.1, v4l2Height := size.2 }) <|
  branch arg [(0, '-'), (1, 'h')] (.error .usage) <|
  .ok id

def guiOptions (s : GuiArgs) : List (List Char) → Except ArgsError GuiArgs
  | [] => .ok s
  | arg :: rest =>
    match guiOption arg with
    | .error e => .error e
    | .ok set => guiOptions (set s) rest

/-- `parse_args` of the window, which starts from the settings that were loaded. -/
def parseGuiArgs (s : GuiArgs) (argv : List (List Char)) : Except ArgsError GuiArgs :=
  guiOptions s argv.tail

/-! ### Command lines as they are meant -/

/-- A device file, with a name. -/
structure Path where
  chars : List Char
  ne_nil : chars ≠ []
  no_nul : NUL ∉ chars

/-- An address that is not an option or a word of its own. -/
structure Host where
  chars : List Char
  no_nul : NUL ∉ chars
  no_dash : chars.head? ≠ some '-'
  ne_adb : chars ≠ "adb".toList
  ne_ios : chars ≠ "ios".toList

/-- The options of the usage text. -/
inductive CliOption where
  | audio
  | video
  | vflip
  | hflip
  | nocontrols
  | dev (path : Path)
  | size (width height : Decimal)

inductive Target where
  | listen
  | adb
  | ios
  | host (h : Host)

def CliOption.text : CliOption → List Char
  | .audio => "-a".toList
  | .video => "-v".toList
  | .vflip => "-vflip".toList
  | .hflip => "-hflip".toList
  | .nocontrols => "-nocontrols".toList
  | .dev path => "-dev=".toList ++ path.chars
  | .size width height => "-size=".toList ++ (width.text ++ 'x' :: height.text)

def Target.text : Target → List Char
  | .listen => "-l".toList
  | .adb => "adb".toList
  | .ios => "ios".toList
  | .host h => h.chars

def CliOption.apply (s : CliArgs) : CliOption → CliArgs
  | .audio => { s with aRunning := true }
  | .video => { s with vRunning := true }
  | .vflip => { s with settings := { s.settings with verticalFlip := 1 } }
  | .hflip => { s with settings := { s.settings with horizontalFlip := 1 } }
  | .nocontrols => { s with noControls := true }
  | .dev path => { s with v4l2Dev := some path.chars }
  | .size width height =>
    { s with v4l2Width := width.val.toUInt32, v4l2Height := height.val.toUInt32 }

/-! ### One argument

Words are told apart by single characters, in the order of the tests: the letter `v`
alone is asked for only after `-vfl?p`. -/

theorem argChar_getElem {arg : List Char} {j : Nat} (h : j < arg.length) :
    argChar arg j = .ok arg[j] := by
  rw [argChar, List.getElem?_append_left h, List.getElem?_eq_getElem h]

theorem argChar_nul (arg : List Char) : argChar arg arg.length = .ok NUL := by
  rw [argChar, List.getElem?_append_right (Nat.le_refl _), Nat.sub_self]
  rfl

theorem argChar_outside {arg : List Char} {j : Nat} (h : arg.length < j) :
    argChar arg j = .error ⟨j, arg.length + 1⟩ := by
  rw [argChar, List.getElem?_eq_none]
  rw [List.length_append, List.length_singleton]
  exact h

theorem branch_yes {α : Type} {arg : List Char} {cs : List (Nat × Char)}
    {yes no : Except ArgsError α} (h : charsAre arg cs = .ok true) :
    branch arg cs yes no = yes := by
  rw [branch, h]

theorem branch_no {α : Type} {arg : List Char} {cs : List (Nat × Char)}
    {yes no : Except ArgsError α} (h : charsAre arg cs = .ok false) :
    branch arg cs yes no = no := by
  rw [branch, h]

/-- The chain ends at a comparison that fails. -/
theorem charsAre_ne {arg : List Char} {j : Nat} {c x : Char} {rest : List (Nat × Char)}
    (h : argChar arg j = .ok x) (hne : x ≠ c) : charsAre arg ((j, c) :: rest) = .ok false := by
  rw [charsAre, h]
  exact if_neg hne

theorem takeDev_path (path : Path) :
    takeDev ('-' :: 'd' :: 'e' :: 'v' :: '=' :: path.chars) = .ok path.chars := by
  obtain ⟨c, cs, hpath⟩ := List.exists_cons_of_ne_nil path.ne_nil
  have hc : c ≠ NUL := fun h => path.no_nul (by simp [hpath, h])
  simp [takeDev, branch, charsAre, argChar, hpath, hc]

theorem takeSize_text (width height : Decimal) :
    takeSize ('-' :: 's' :: 'i' :: 'z' :: 'e' :: '=' :: (width.text ++ 'x' :: height.text)) =
      .ok (width.val.toUInt32, height.val.toUInt32) := by
  have hx : NoDigit ('x' :: height.text) := by
    intro c hc
    cases hc
    decide
  have hheight : sscanf [.int] height.text = [.int height.val] := by
    have h : sscanf [.int] (height.text ++ []) = [.int height.val] :=
      sscanf_int height.decimal nofun
    rwa [List.append_nil] at h
  have hkey : '-' :: 's' :: 'i' :: 'z' :: 'e' :: '=' :: (width.text ++ 'x' :: height.text) =
      "-size=".toList ++ (width.text ++ 'x' :: height.text) := rfl
  rw [hkey, takeSize, sscanf_lits, sscanf_int width.decimal hx]
  simp only [sscanf, if_true] at hheight ⊢
  rw [hheight]

theorem nul_ne_dash : NUL ≠ '-' := by decide

theorem charsAre_no_dash {arg : List Char} (h : arg.head? ≠ some '-')
    {rest : List (Nat × Char)} : charsAre arg ((0, '-') :: rest) = .ok false := by
  cases arg with
  | nil => exact charsAre_ne (argChar_nul []) nul_ne_dash
  | cons c arg => exact charsAre_ne (x := c) rfl fun hc => h (congrArg some hc)

/-- An argument that does not start with a dash ends the options. -/
theorem cliOption_no_dash {arg : List Char} (h : arg.head? ≠ some '-') :
    cliOption arg = .ok none := by
  unfold cliOption
  rw [branch_no (charsAre_no_dash h), branch_no (charsAre_no_dash h),
    branch_no (charsAre_no_dash h), branch_no (charsAre_no_dash h),
    branch_no (charsAre_no_dash h), branch_no (charsAre_no_dash h),
    branch_no (charsAre_no_dash h)]

theorem cliOption_text (o : CliOption) : cliOption o.text = .ok (some fun s => o.apply s) := by
  cases o with
  | audio =>
      unfold cliOption
      rw [branch_no rfl, branch_no rfl, branch_yes rfl]
      rfl
  | video =>
      unfold cliOption
      -- each test before the right one stops at a character that differs
      rw [branch_no rfl, branch_no rfl, branch_no rfl, branch_yes rfl]
      rfl
  | vflip =>
      unfold cliOption
      rw [branch_yes rfl]
      rfl
  | hflip =>
      unfold cliOption
      rw [branch_no rfl, branch_yes rfl]
      rfl
  | nocontrols =>
      unfold cliOption
      rw [branch_no rfl, branch_no rfl, branch_no rfl, branch_no rfl, branch_no rfl, branch_no rfl,
        branch_yes rfl]
      rfl
  | dev path =>
      have htake := takeDev_path path
      show cliOption ('-' :: 'd' :: 'e' :: 'v' :: '=' :: path.chars) = _
      unfold cliOption
      rw [branch_no rfl, branch_no rfl, branch_no rfl, branch_no rfl, branch_yes rfl, htake]
      rfl
  | size width height =>
      have htake := takeSize_text width height
      show cliOption ('-' :: 's' :: 'i' :: 'z' :: 'e' :: '=' ::
        (width.text ++ 'x' :: height.text)) = _
      unfold cliOption
      rw [branch_no rfl, branch_no rfl, branch_no rfl, branch_no rfl, branch_no rfl,
        branch_yes rfl, htake]
      rfl

theorem cliOption_target (t : Target) : cliOption t.text = .ok none := by
  cases t with
  | listen =>
      unfold cliOption
      rw [branch_no rfl, branch_no rfl, branch_no rfl, branch_no rfl, branch_no rfl, branch_no rfl,
        branch_yes rfl]
      rfl
  | adb => exact cliOption_no_dash (by decide)
  | ios => exact cliOption_no_dash (by decide)
  | host h => exact cliOption_no_dash h.no_dash

/-! ### The options of the command line

What the loop has collected is a fold over the options, so that each appended option
changes its own fields only. -/

/-- The device and the size that are asked for last. -/
def lastDev (opts : List CliOption) : Option (List Char) :=
  opts.reverse.findSome? fun
    | .dev path => some path.chars
    | _ => none

def lastSize (opts : List CliOption) : Option (UInt32 × UInt32) :=
  opts.reverse.findSome? fun
    | .size width height => some (width.val.toUInt32, height.val.toUInt32)
    | _ => none

/-- What the options have set, and what they leave to the target. -/
structure Collected (opts : List CliOption) (s : CliArgs) : Prop where
  audio : s.aRunning = true ↔ .audio ∈ opts
  video : s.vRunning = true ↔ .video ∈ opts
  vflip : s.settings.verticalFlip ≠ 0 ↔ .vflip ∈ opts
  hflip : s.settings.horizontalFlip ≠ 0 ↔ .hflip ∈ opts
  noControls : s.noControls = true ↔ .nocontrols ∈ opts
  dev : s.v4l2Dev = lastDev opts
  size : (s.v4l2Width, s.v4l2Height) = (lastSize opts).getD (640, 480)
  ip : s.settings.ip = CharArray.zero 16

theorem Collected.nil : Collected [] .init where
  audio := by simp [CliArgs.init]
  video := by simp [CliArgs.init]
  vflip := by simp [CliArgs.init]
  hflip := by simp [CliArgs.init]
  noControls := by simp [CliArgs.init]
  dev := rfl
  size := rfl
  ip := rfl

theorem Collected.snoc {opts : List CliOption} {s : CliArgs} (h : Collected opts s)
    (o : CliOption) : Collected (opts ++ [o]) (o.apply s) where
  audio := by cases o <;> simp [CliOption.apply, h.audio]
  video := by cases o <;> simp [CliOption.apply, h.video]
  vflip := by
    have hv := h.vflip
    cases o <;> simp [CliOption.apply] at hv ⊢ <;> exact hv
  hflip := by
    have hh := h.hflip
    cases o <;> simp [CliOption.apply] at hh ⊢ <;> exact hh
  noControls := by cases o <;> simp [CliOption.apply, h.noControls]
  dev := by cases o <;> simp [CliOption.apply, lastDev, h.dev]
  size := by
    have hs := h.size
    cases o <;> simp [CliOption.apply, lastSize] at hs ⊢ <;> exact hs
  ip := by cases o <;> exact h.ip

theorem Collected.foldl (opts : List CliOption) :
    Collected opts (opts.foldl CliOption.apply .init) := by
  induction opts using List.reverseRecOn with
  | nil => exact .nil
  | append_singleton opts o ih =>
      rw [List.foldl_append, List.foldl_cons, List.foldl_nil]
      exact ih.snoc o

theorem cliOptions_text (s : CliArgs) (opts : List CliOption) (rest : List (List Char)) :
    cliOptions s (opts.map CliOption.text ++ rest) =
      cliOptions (opts.foldl CliOption.apply s) rest := by
  induction opts generalizing s with
  | nil => rfl
  | cons o opts ih =>
      rw [List.map_cons, List.cons_append, cliOptions, cliOption_text]
      exact ih (o.apply s)

/-! ### The target

The target is copied into `ip` first and compared afterwards, so a host can be called
neither `adb` nor `ios`. -/

def Target.connection : Target → Int32
  | .listen => CB_WIFI_SRVR
  | .adb => CB_RADIO_ADB
  | .ios => CB_RADIO_IOS
  | .host _ => CB_RADIO_WIFI

/-- The string at `g_settings.ip`; a long address is cut. -/
def Target.ip : Target → List Char
  | .listen => []
  | .adb => ADB_LOCALHOST_IP
  | .ios => "ios".toList
  | .host h => h.chars.take 15

/-- What the target adds to the options. -/
structure Reached (s t : CliArgs) (target : Target) (port : Int32) : Prop where
  settings : ∃ ip connection, t.settings = { s.settings with ip, port, connection }
  connection : t.settings.connection = target.connection
  ip : Holds t.settings.ip target.ip
  running : target ≠ .listen → t.vRunning = s.vRunning ∧ t.aRunning = s.aRunning
  listening : target = .listen → t.vRunning = true ∧ t.aRunning = false
  others : t.noControls = s.noControls ∧ t.v4l2Dev = s.v4l2Dev ∧ t.v4l2Width = s.v4l2Width ∧
    t.v4l2Height = s.v4l2Height

theorem portOf_text (port : Decimal) : portOf port.text = port.val := by
  have h : portOf (port.text ++ []) = port.val := strtoul_decimal port.decimal nofun
  rwa [List.append_nil] at h

theorem holds_zero : Holds (CharArray.zero 16) [] := ⟨List.not_mem_nil, List.replicate 15 NUL, rfl⟩

theorem holds_localhost : Holds ((CharArray.zero 16).strncpy ADB_LOCALHOST_IP 16)
    ADB_LOCALHOST_IP :=
  ⟨by decide, List.replicate 6 NUL, by decide⟩

/-- The address that is copied, and compared. -/
theorem cstr_copied (s : CliArgs) {text : List Char} (h : NUL ∉ text) :
    Holds ((s.settings.ip.strncpy text 15).set 15 NUL) (text.take 15) ∧
      cstr ((s.settings.ip.strncpy text 15).set 15 NUL).chars = text.take 15 := by
  have hholds : Holds ((s.settings.ip.strncpy text 15).set 15 NUL) (text.take 15) :=
    holds_copyIp s.settings h
  obtain ⟨hnul, rest, hchars⟩ := hholds
  exact ⟨⟨hnul, rest, hchars⟩, by rw [hchars, cstr_append_nul hnul]⟩

/-- A word of three letters is not a long address that was cut. -/
theorem take_ne_word {text word : List Char} (hword : word.length = 3) (hne : text ≠ word) :
    text.take 15 ≠ word := by
  intro h
  have hlen := congrArg List.length h
  rw [List.length_take] at hlen
  have hshort : text.length ≤ 15 := by omega
  rw [List.take_of_length_le hshort] at h
  exact hne h

theorem cliTarget_text {s : CliArgs} (hip : s.settings.ip = CharArray.zero 16) (target : Target)
    (port : Decimal) :
    ∃ t, cliTarget s target.text port.text = .ok t ∧ Reached s t target port.val := by
  have hport := portOf_text port
  cases target with
  | listen =>
      refine ⟨_, by rw [cliTarget, branch_yes rfl], ?_⟩
      rw [hport]
      exact ⟨⟨_, _, rfl⟩, rfl, hip ▸ holds_zero, fun h => absurd rfl h, fun _ => ⟨rfl, rfl⟩,
        ⟨rfl, rfl, rfl, rfl⟩⟩
  | adb =>
      -- `strcmp` sees the copy in `ip`, not the argument
      obtain ⟨hholds, hcstr⟩ := cstr_copied s (show NUL ∉ "adb".toList by decide)
      have hadb : cstr ((s.settings.ip.strncpy "adb".toList 15).set 15 NUL).chars =
          "adb".toList := hcstr
      refine ⟨_, by rw [cliTarget, branch_no rfl]; exact if_pos hadb, ?_⟩
      rw [hport]
      exact ⟨⟨_, _, rfl⟩, rfl, holds_localhost, fun _ => ⟨rfl, rfl⟩, nofun, ⟨rfl, rfl, rfl, rfl⟩⟩
  | ios =>
      obtain ⟨hholds, hcstr⟩ := cstr_copied s (show NUL ∉ "ios".toList by decide)
      have hios : cstr ((s.settings.ip.strncpy "ios".toList 15).set 15 NUL).chars =
          "ios".toList := hcstr
      have hadb : cstr ((s.settings.ip.strncpy "ios".toList 15).set 15 NUL).chars ≠
          "adb".toList := by
        rw [hios]
        decide
      refine ⟨_, by rw [cliTarget, branch_no rfl]; exact (if_neg hadb).trans (if_pos hios), ?_⟩
      rw [hport]
      exact ⟨⟨_, _, rfl⟩, rfl, hholds, fun _ => ⟨rfl, rfl⟩, nofun, ⟨rfl, rfl, rfl, rfl⟩⟩
  | host h =>
      obtain ⟨hholds, hcstr⟩ := cstr_copied s h.no_nul
      have hadb := take_ne_word (rfl : "adb".toList.length = 3) h.ne_adb
      have hios := take_ne_word (rfl : "ios".toList.length = 3) h.ne_ios
      rw [← hcstr] at hadb hios
      have hdash : (Target.host h).text.head? ≠ some '-' := h.no_dash
      refine ⟨_, by
        rw [cliTarget, branch_no (charsAre_no_dash hdash)]
        exact (if_neg hadb).trans (if_neg hios), ?_⟩
      rw [hport]
      exact ⟨⟨_, _, rfl⟩, rfl, hholds, fun _ => ⟨rfl, rfl⟩, nofun, ⟨rfl, rfl, rfl, rfl⟩⟩

/-! ### What is asked for -/

/-- The program as the usage text describes it. -/
structure Asked (opts : List CliOption) (target : Target) (port : Int32) (s : CliArgs) : Prop where
  video : s.vRunning = true ↔ target = .listen ∨ .video ∈ opts ∨ .audio ∉ opts
  audio : s.aRunning = true ↔ target ≠ .listen ∧ .audio ∈ opts
  vflip : s.settings.verticalFlip ≠ 0 ↔ .vflip ∈ opts
  hflip : s.settings.horizontalFlip ≠ 0 ↔ .hflip ∈ opts
  noControls : s.noControls = true ↔ .nocontrols ∈ opts
  dev : s.v4l2Dev = lastDev opts
  size : (s.v4l2Width, s.v4l2Height) = (lastSize opts).getD (640, 480)
  connection : s.settings.connection = target.connection
  ip : s.settings.ipString = target.ip
  port : s.settings.port = port

/-- `main` turns the video on where nothing was asked for. -/
theorem Asked.of_collected {opts : List CliOption} {s t : CliArgs} {target : Target} {port : Int32}
    (hs : Collected opts s) (ht : Reached s t target port) :
    Asked opts target port t.defaultVideo := by
  obtain ⟨ip, connection, hsettings⟩ := ht.settings
  obtain ⟨hcontrols, hdev, hwidth, hheight⟩ := ht.others
  have hrest : t.defaultVideo.settings = t.settings ∧ t.defaultVideo.aRunning = t.aRunning ∧
      t.defaultVideo.noControls = t.noControls ∧ t.defaultVideo.v4l2Dev = t.v4l2Dev ∧
      t.defaultVideo.v4l2Width = t.v4l2Width ∧ t.defaultVideo.v4l2Height = t.v4l2Height ∧
      (t.defaultVideo.vRunning = true ↔ t.vRunning = true ∨ t.aRunning ≠ true) := by
    unfold CliArgs.defaultVideo
    cases hv : t.vRunning <;> cases ha : t.aRunning <;> simp [hv, ha]
  obtain ⟨hset, haudio, hno, hd, hw, hh, hvideo⟩ := hrest
  have hvflip : t.settings.verticalFlip = s.settings.verticalFlip := by rw [hsettings]
  have hhflip : t.settings.horizontalFlip = s.settings.horizontalFlip := by rw [hsettings]
  refine ⟨?video, ?audio, ?_, ?_, ?_, ?_, ?_, ?_, ?_, ?_⟩
  case video =>
    rw [hvideo]
    by_cases hlisten : target = .listen
    · simp [(ht.listening hlisten).1, hlisten]
    · obtain ⟨hv, ha⟩ := ht.running hlisten
      rw [hv, ha, hs.video, Ne, hs.audio]
      simp [hlisten]
  case audio =>
    rw [haudio]
    by_cases hlisten : target = .listen
    · simp [(ht.listening hlisten).2, hlisten]
    · rw [(ht.running hlisten).2, hs.audio]
      simp [hlisten]
  · rw [hset, hvflip]
    exact hs.vflip
  · rw [hset, hhflip]
    exact hs.hflip
  · rw [hno, hcontrols]
    exact hs.noControls
  · rw [hd, hdev]
    exact hs.dev
  · rw [hw, hh, hwidth, hheight]
    exact hs.size
  · rw [hset]
    exact ht.connection
  · rw [hset]
    exact ipString_of_holds ht.ip
  · rw [hset, hsettings]

/-- A command line as it is meant is taken: the options one by one, and then the target. -/
theorem parseArgs_text (prog : List Char) (opts : List CliOption) (target : Target)
    (port : Decimal) (rest : List (List Char)) :
    ∃ s, parseArgs (prog :: (opts.map CliOption.text ++ target.text :: port.text :: rest)) = .ok s ∧
      Reached (opts.foldl CliOption.apply .init) s target port.val := by
  have hcollected := Collected.foldl opts
  obtain ⟨s, htarget, hreached⟩ := cliTarget_text hcollected.ip target port
  have hoptions : cliOptions .init (opts.map CliOption.text ++ target.text :: port.text :: rest) =
      .ok (opts.foldl CliOption.apply .init, target.text :: port.text :: rest) := by
    rw [cliOptions_text, cliOptions, cliOption_target]
  have hargc : 3 ≤ (prog :: (opts.map CliOption.text ++
      target.text :: port.text :: rest)).length := by
    simp only [List.length_cons, List.length_append]
    omega
  refine ⟨s, ?_, hreached⟩
  rw [parseArgs, if_pos hargc, List.tail_cons, hoptions]
  exact htarget

/-- **The options in any order, the target and its port** are taken as the usage text says,
    and what follows them is ignored. -/
theorem parse_args_asked (prog : List Char) (opts : List CliOption) (target : Target)
    (port : Decimal) (rest : List (List Char)) :
    ∃ s, parseArgs (prog :: (opts.map CliOption.text ++ target.text :: port.text :: rest)) = .ok s ∧
      Asked opts target port.val s.defaultVideo := by
  obtain ⟨s, hparsed, hreached⟩ := parseArgs_text prog opts target port rest
  exact ⟨s, hparsed, .of_collected (Collected.foldl opts) hreached⟩

/-! ### Reading behind an argument

A test reads the characters it names from left to right and stops at the first that
differs, so it runs behind the NUL only where it skips a character. -/

section Outside

variable {α : Type} {arg : List Char} {cs : List (Nat × Char)} {e : OutOfBounds}

theorem argChar_eq_error : argChar arg j = .error e ↔ arg.length < j ∧ e = ⟨j, arg.length + 1⟩ := by
  rcases Nat.lt_trichotomy j arg.length with h | rfl | h
  · rw [argChar_getElem h]
    exact ⟨nofun, fun hlt => absurd (hlt.1.trans h) (Nat.lt_irrefl _)⟩
  · rw [argChar_nul]
    exact ⟨nofun, fun hlt => absurd hlt.1 (Nat.lt_irrefl _)⟩
  · rw [argChar_outside h]
    exact ⟨fun heq => ⟨h, (Except.error.inj heq).symm⟩, fun heq => by rw [heq.2]⟩

/-- A chain is left at an index behind the NUL, or goes on after a character. -/
theorem charsAre_cons_error {j : Nat} {c : Char} :
    charsAre arg ((j, c) :: cs) = .error e ↔
      (arg.length < j ∧ e = ⟨j, arg.length + 1⟩) ∨
        (argChar arg j = .ok c ∧ charsAre arg cs = .error e) := by
  rw [charsAre, ← argChar_eq_error]
  cases h : argChar arg j with
  | error e' => simp
  | ok x =>
      by_cases hx : x = c
      · simp [hx]
      · simp [hx]

theorem argChar_eq_ok {j : Nat} {c : Char} (hc : c ≠ NUL) :
    argChar arg j = .ok c ↔ arg[j]? = some c := by
  rcases Nat.lt_trichotomy j arg.length with h | rfl | h
  · rw [argChar_getElem h, List.getElem?_eq_getElem h, Except.ok.injEq, Option.some.injEq]
  · rw [argChar_nul, List.getElem?_eq_none (Nat.le_refl _), Except.ok.injEq]
    exact ⟨fun h => absurd h.symm hc, nofun⟩
  · rw [argChar_outside h, List.getElem?_eq_none h.le]
    exact ⟨nofun, nofun⟩

theorem branch_outside {yes no : Except ArgsError α} :
    branch arg cs yes no = .error (.outside e) ↔
      charsAre arg cs = .error e ∨ (charsAre arg cs = .ok true ∧ yes = .error (.outside e)) ∨
        (charsAre arg cs = .ok false ∧ no = .error (.outside e)) := by
  rw [branch]
  cases h : charsAre arg cs with
  | error e' => simp
  | ok b => cases b <;> simp

theorem charsAre_nil_error : ¬ charsAre arg [] = .error e := nofun

/-- A character in front of an index that is behind the NUL is the last one, where the
    index skips one. -/
theorem length_of_skip {j : Nat} {c : Char} (hc : argChar arg j = .ok c) (hne : c ≠ NUL)
    (h : arg.length < j + 2) : arg.length = j + 1 := by
  have hj := (List.getElem?_eq_some_iff.mp ((argChar_eq_ok hne).mp hc)).1
  omega

theorem not_outside {j : Nat} {c : Char} (hc : argChar arg j = .ok c) (hne : c ≠ NUL) :
    ¬ arg.length < j + 1 := by
  have hj := (List.getElem?_eq_some_iff.mp ((argChar_eq_ok hne).mp hc)).1
  omega

/-- `-vflip` and `-hflip` skip their fifth character. -/
theorem flip_outside {c : Char} (hc : c ≠ NUL) :
    (∃ e, charsAre arg [(0, '-'), (1, c), (2, 'f'), (3, 'l'), (5, 'p')] = .error e) ↔
      arg = ['-', c, 'f', 'l'] := by
  simp only [charsAre_cons_error, charsAre_nil_error]
  constructor
  · rintro ⟨e, h⟩
    -- characters 0 to 3 are there one after the other; only the step from 3 to 5 skips
    -- one
    obtain ⟨h, -⟩ | ⟨h₀, ⟨h, -⟩ | ⟨h₁, ⟨h, -⟩ | ⟨h₂, ⟨h, -⟩ | ⟨h₃, ⟨h, -⟩ | ⟨-, h⟩⟩⟩⟩⟩ := h
    · exact absurd h (Nat.not_lt_zero _)
    · exact absurd h (not_outside h₀ (by decide))
    · exact absurd h (not_outside h₁ hc)
    · exact absurd h (not_outside h₂ (by decide))
    · have hlen := length_of_skip h₃ (by decide) h
      rw [argChar_eq_ok (by decide)] at h₀ h₂ h₃
      rw [argChar_eq_ok hc] at h₁
      refine List.ext_getElem? fun i => ?_
      match i with
      | 0 => exact h₀
      | 1 => exact h₁
      | 2 => exact h₂
      | 3 => exact h₃
      | i + 4 =>
          rw [List.getElem?_eq_none (by omega)]
          rfl
    · exact h.elim
  · rintro rfl
    exact ⟨⟨5, 5⟩,
      Or.inr ⟨rfl, Or.inr ⟨rfl, Or.inr ⟨rfl, Or.inr ⟨rfl, Or.inl ⟨Nat.lt_succ_self 4, rfl⟩⟩⟩⟩⟩⟩

/-- `-dev` and `-size` skip their third character. -/
theorem word_outside {c x : Char} (hc : c ≠ NUL) :
    (∃ e, charsAre arg [(0, '-'), (1, c), (3, x)] = .error e) ↔ arg = ['-', c] := by
  simp only [charsAre_cons_error, charsAre_nil_error]
  constructor
  · rintro ⟨e, h⟩
    obtain ⟨h, -⟩ | ⟨h₀, ⟨h, -⟩ | ⟨h₁, ⟨h, -⟩ | ⟨-, h⟩⟩⟩ := h
    · exact absurd h (Nat.not_lt_zero _)
    · exact absurd h (not_outside h₀ (by decide))
    · have hlen := length_of_skip h₁ hc h
      rw [argChar_eq_ok (by decide)] at h₀
      rw [argChar_eq_ok hc] at h₁
      refine List.ext_getElem? fun i => ?_
      match i with
      | 0 => exact h₀
      | 1 => exact h₁
      | i + 2 =>
          rw [List.getElem?_eq_none (by omega)]
          rfl
    · exact h.elim
  · rintro rfl
    exact ⟨⟨3, 3⟩, Or.inr ⟨rfl, Or.inr ⟨rfl, Or.inl ⟨Nat.lt_succ_self 2, rfl⟩⟩⟩⟩

theorem letter_inside {c : Char} : ¬ charsAre arg [(0, '-'), (1, c)] = .error e := by
  simp only [charsAre_cons_error, charsAre_nil_error]
  rintro (⟨h, -⟩ | ⟨h₀, ⟨h, -⟩ | ⟨-, h⟩⟩)
  · exact absurd h (Nat.not_lt_zero _)
  · exact absurd h (not_outside h₀ (by decide))
  · exact h

theorem dash_inside : ¬ charsAre arg [(0, '-')] = .error e := by
  simp only [charsAre_cons_error, charsAre_nil_error]
  rintro (⟨h, -⟩ | ⟨-, h⟩)
  · exact absurd h (Nat.not_lt_zero _)
  · exact h

/-- All comparisons were made. -/
theorem charsAre_true {j : Nat} {c : Char} (h : charsAre arg cs = .ok true)
    (hmem : (j, c) ∈ cs) : argChar arg j = .ok c := by
  induction cs with
  | nil => cases hmem
  | cons p cs ih =>
      obtain ⟨i, x⟩ := p
      rw [charsAre] at h
      split at h
      · cases h
      · rename_i y hy
        split at h
        · rename_i heq
          rcases List.mem_cons.mp hmem with heq' | hmem
          · cases heq'
            rw [hy, heq]
          · exact ih h hmem
        · cases h

/-- Where the `v` of `-dev` was found, its test stays inside. -/
theorem takeDev_inside (h : argChar arg 3 = .ok 'v') : takeDev arg ≠ .error (.outside e) := by
  rw [takeDev, Ne, branch_outside, branch_outside]
  simp only [charsAre_cons_error, charsAre_nil_error, and_false, or_false]
  have hlen := not_outside h (by decide)
  rintro (⟨h, -⟩ | ⟨htrue, h⟩ | ⟨-, h⟩)
  · exact hlen h
  · have heq := charsAre_true htrue List.mem_cons_self
    rcases h with ⟨h, -⟩ | ⟨-, h⟩ | ⟨-, h⟩
    · exact not_outside heq (by decide) h
    · cases h
    · cases h
  · cases h

theorem takeSize_inside : takeSize arg ≠ .error (.outside e) := by
  unfold takeSize
  split
  · nofun
  · nofun

theorem map_outside {β : Type} {f : α → β} {x : Except ArgsError α} :
    x.map f = .error (.outside e) ↔ x = .error (.outside e) := by
  cases x <;> simp [Except.map]

/-- The options that are looked at behind their NUL. -/
def shortOptions : List (List Char) := ["-vfl".toList, "-hfl".toList, "-d".toList, "-s".toList]

theorem cliOption_outside : (∃ e, cliOption arg = .error (.outside e)) ↔ arg ∈ shortOptions := by
  constructor
  · rintro ⟨e, h⟩
    unfold cliOption at h
    -- test by test: a flip or a word that skips a character is one of the four, the
    -- others stay inside
    rcases branch_outside.mp h with h | ⟨-, h⟩ | ⟨-, h⟩
    · rw [(flip_outside (by decide)).mp ⟨e, h⟩]
      decide
    · cases h
    rcases branch_outside.mp h with h | ⟨-, h⟩ | ⟨-, h⟩
    · rw [(flip_outside (by decide)).mp ⟨e, h⟩]
      decide
    · cases h
    rcases branch_outside.mp h with h | ⟨-, h⟩ | ⟨-, h⟩
    · exact absurd h letter_inside
    · cases h
    rcases branch_outside.mp h with h | ⟨-, h⟩ | ⟨-, h⟩
    · exact absurd h letter_inside
    · cases h
    rcases branch_outside.mp h with h | ⟨hdev, h⟩ | ⟨-, h⟩
    · rw [(word_outside (by decide)).mp ⟨e, h⟩]
      decide
    · exact absurd (map_outside.mp h) (takeDev_inside (charsAre_true hdev (by simp)))
    rcases branch_outside.mp h with h | ⟨-, h⟩ | ⟨-, h⟩
    · rw [(word_outside (by decide)).mp ⟨e, h⟩]
      decide
    · exact absurd (map_outside.mp h) takeSize_inside
    rcases branch_outside.mp h with h | ⟨-, h⟩ | ⟨-, h⟩
    · exact absurd h dash_inside
    · split at h <;> cases h
    · cases h
  · intro h
    simp only [shortOptions, List.mem_cons, List.not_mem_nil, or_false] at h
    rcases h with rfl | rfl | rfl | rfl
    · exact ⟨⟨5, 5⟩, rfl⟩
    · exact ⟨⟨5, 5⟩, rfl⟩
    · exact ⟨⟨3, 3⟩, rfl⟩
    · exact ⟨⟨3, 3⟩, rfl⟩

end Outside

/-- The first argument of some kind, after arguments of another. -/
def FirstAfter {α : Type} (before here : α → Prop) (l : List α) : Prop :=
  ∃ front x rest, l = front ++ x :: rest ∧ (∀ y ∈ front, before y) ∧ here x

theorem firstAfter_nil {α : Type} {before here : α → Prop} : ¬ FirstAfter before here [] := by
  rintro ⟨front, x, rest, h, -⟩
  exact List.append_ne_nil_of_right_ne_nil front (List.cons_ne_nil x rest) h.symm

theorem firstAfter_cons {α : Type} {before here : α → Prop} {a : α} {l : List α} :
    FirstAfter before here (a :: l) ↔ here a ∨ (before a ∧ FirstAfter before here l) := by
  constructor
  · rintro ⟨front, x, rest, heq, hfront, hx⟩
    cases front with
    | nil =>
        cases heq
        exact Or.inl hx
    | cons y front =>
        cases heq
        exact Or.inr ⟨hfront a List.mem_cons_self, front, x, rest, rfl,
          fun b hb => hfront b (List.mem_cons_of_mem _ hb), hx⟩
  · rintro (ha | ⟨ha, front, x, rest, rfl, hfront, hx⟩)
    · exact ⟨[], a, l, rfl, nofun, ha⟩
    · refine ⟨a :: front, x, rest, rfl, fun b hb => ?_, hx⟩
      rcases List.mem_cons.mp hb with rfl | hb
      · exact ha
      · exact hfront b hb

/-- An argument the loop takes. -/
def Taken (arg : List Char) : Prop := ∃ set, cliOption arg = .ok (some set)

theorem cliOptions_outside {s : CliArgs} {args : List (List Char)} :
    (∃ e, cliOptions s args = .error (.outside e)) ↔
      FirstAfter Taken (· ∈ shortOptions) args := by
  induction args generalizing s with
  | nil => exact ⟨fun ⟨e, h⟩ => absurd h nofun, fun h => absurd h firstAfter_nil⟩
  | cons arg args ih =>
      rw [firstAfter_cons, ← cliOption_outside, Taken, cliOptions]
      cases hopt : cliOption arg with
      | error err => simp
      | ok taken =>
          cases taken with
          | none => simp
          | some set => simp [ih]

theorem cliTarget_inside {s : CliArgs} {target port : List Char} {e : OutOfBounds} :
    cliTarget s target port ≠ .error (.outside e) := by
  rw [cliTarget, Ne, branch_outside]
  rintro (h | ⟨-, h⟩ | ⟨-, h⟩)
  · exact letter_inside h
  · cases h
  · dsimp only at h
    split_ifs at h

theorem parseArgs_outside (argv : List (List Char)) :
    (∃ e, parseArgs argv = .error (.outside e)) ↔
      3 ≤ argv.length ∧ FirstAfter Taken (· ∈ shortOptions) argv.tail := by
  rw [← cliOptions_outside (s := .init), parseArgs]
  split
  · rename_i hargc
    simp only [hargc, true_and]
    cases hopts : cliOptions .init argv.tail with
    | error err => simp
    | ok r =>
        obtain ⟨s, rest⟩ := r
        refine ⟨fun ⟨e, h⟩ => ?_, fun ⟨e, h⟩ => absurd h nofun⟩
        match rest with
        | [] => cases h
        | [_] => cases h
        | _ :: _ :: _ => exact absurd h cliTarget_inside
  · rename_i hargc
    simp [hargc]

/-! ### The window

The window takes `-h` for a question about its usage, and leaves the loaded size where
none is given. -/

theorem guiOption_outside {arg : List Char} :
    (∃ e, guiOption arg = .error (.outside e)) ↔ arg ∈ ["-d".toList, "-s".toList] := by
  constructor
  · rintro ⟨e, h⟩
    unfold guiOption at h
    rcases branch_outside.mp h with h | ⟨hdev, h⟩ | ⟨-, h⟩
    · rw [(word_outside (by decide)).mp ⟨e, h⟩]
      decide
    · exact absurd (map_outside.mp h) (takeDev_inside (charsAre_true hdev (by simp)))
    rcases branch_outside.mp h with h | ⟨-, h⟩ | ⟨-, h⟩
    · rw [(word_outside (by decide)).mp ⟨e, h⟩]
      decide
    · exact absurd (map_outside.mp h) takeSize_inside
    rcases branch_outside.mp h with h | ⟨-, h⟩ | ⟨-, h⟩
    · exact absurd h letter_inside
    · cases h
    · cases h
  · intro h
    simp only [List.mem_cons, List.not_mem_nil, or_false] at h
    rcases h with rfl | rfl
    · exact ⟨⟨3, 3⟩, rfl⟩
    · exact ⟨⟨3, 3⟩, rfl⟩

/-- An argument the window goes on after. -/
def GuiTaken (arg : List Char) : Prop := ∃ set, guiOption arg = .ok set

theorem guiOptions_outside {s : GuiArgs} {args : List (List Char)} :
    (∃ e, guiOptions s args = .error (.outside e)) ↔
      FirstAfter GuiTaken (· ∈ ["-d".toList, "-s".toList]) args := by
  induction args generalizing s with
  | nil => exact ⟨fun ⟨e, h⟩ => absurd h nofun, fun h => absurd h firstAfter_nil⟩
  | cons arg args ih =>
      rw [firstAfter_cons, ← guiOption_outside, GuiTaken, guiOptions]
      cases hopt : guiOption arg with
      | error err => simp
      | ok set => simp [ih]

/-- **Reading outside of an argument.**  `parse_args` reads behind the NUL of an argument
    exactly where the arguments that it takes end at one of four words, and that of the
    window where they end at one of two. -/
theorem parse_args_outside_iff (s : GuiArgs) (argv : List (List Char)) :
    ((∃ e, parseArgs argv = .error (.outside e)) ↔
      3 ≤ argv.length ∧ FirstAfter Taken (· ∈ shortOptions) argv.tail) ∧
    ((∃ e, parseGuiArgs s argv = .error (.outside e)) ↔
      FirstAfter GuiTaken (· ∈ ["-d".toList, "-s".toList]) argv.tail) :=
  ⟨parseArgs_outside argv, guiOptions_outside⟩

/-- What the window makes of an option of the other program. -/
def CliOption.applyGui (s : GuiArgs) : CliOption → GuiArgs
  | .dev path => { s with v4l2Dev := some path.chars }
  | .size width height =>
    { s with v4l2Width := width.val.toUInt32, v4l2Height := height.val.toUInt32 }
  | _ => s

theorem guiOption_text {o : CliOption} (h : o ≠ .hflip) :
    guiOption o.text = .ok fun s => o.applyGui s := by
  cases o with
  | audio | video | vflip | nocontrols =>
      unfold guiOption
      rw [branch_no rfl, branch_no rfl, branch_no rfl]
      rfl
  | hflip => exact absurd rfl h
  | dev path =>
      have htake := takeDev_path path
      show guiOption ('-' :: 'd' :: 'e' :: 'v' :: '=' :: path.chars) = _
      unfold guiOption
      rw [branch_yes rfl, htake]
      rfl
  | size width height =>
      have htake := takeSize_text width height
      show guiOption ('-' :: 's' :: 'i' :: 'z' :: 'e' :: '=' ::
        (width.text ++ 'x' :: height.text)) = _
      unfold guiOption
      rw [branch_no rfl, branch_yes rfl, htake]
      rfl

/-- `-h` is for help here. -/
theorem guiOption_hflip : guiOption CliOption.hflip.text = .error .usage := by
  unfold guiOption
  rw [branch_no rfl, branch_no rfl, branch_yes rfl]

theorem guiOptions_hflip {opts : List CliOption} (h : .hflip ∈ opts) (s : GuiArgs) :
    guiOptions s (opts.map CliOption.text) = .error .usage := by
  induction opts generalizing s with
  | nil => cases h
  | cons o opts ih =>
      rw [List.map_cons, guiOptions]
      by_cases ho : o = .hflip
      · rw [ho, guiOption_hflip]
      · rw [guiOption_text ho]
        exact ih ((List.mem_cons.mp h).resolve_left (Ne.symm ho)) _

theorem guiOptions_text {opts : List CliOption} (h : .hflip ∉ opts) (s : GuiArgs) :
    guiOptions s (opts.map CliOption.text) = .ok (opts.foldl CliOption.applyGui s) := by
  induction opts generalizing s with
  | nil => rfl
  | cons o opts ih =>
      rw [List.mem_cons, not_or] at h
      rw [List.map_cons, guiOptions, guiOption_text (Ne.symm h.1)]
      exact ih h.2 _

/-- The device and the size that are asked for last, where there is one. -/
theorem foldl_applyGui (opts : List CliOption) (s : GuiArgs) :
    opts.foldl CliOption.applyGui s =
      ⟨(lastDev opts).or s.v4l2Dev, ((lastSize opts).getD (s.v4l2Width, s.v4l2Height)).1,
        ((lastSize opts).getD (s.v4l2Width, s.v4l2Height)).2⟩ := by
  induction opts using List.reverseRecOn with
  | nil => rfl
  | append_singleton opts o ih =>
      rw [List.foldl_append, List.foldl_cons, List.foldl_nil, ih]
      cases o <;> simp [CliOption.applyGui, lastDev, lastSize]

theorem lastSize_isSome {opts : List CliOption} :
    (lastSize opts).isSome = true ↔ ∃ width height, .size width height ∈ opts := by
  rw [lastSize, List.findSome?_isSome_iff]
  constructor
  · rintro ⟨o, ho, hsome⟩
    cases o with
    | size width height => exact ⟨width, height, List.mem_reverse.mp ho⟩
    | _ => cases hsome
  · rintro ⟨width, height, ho⟩
    exact ⟨_, List.mem_reverse.mpr ho, rfl⟩

/-- What the two programs make of the same options. -/
structure Agree (opts : List CliOption) (loaded : Settings) (s : CliArgs) (g : GuiArgs) : Prop where
  dev : g.v4l2Dev = s.v4l2Dev
  size : (∃ width height, .size width height ∈ opts) →
    g.v4l2Width = s.v4l2Width ∧ g.v4l2Height = s.v4l2Height
  noSize : ¬ (∃ width height, .size width height ∈ opts) →
    (g.v4l2Width, g.v4l2Height) = (loaded.v4l2Width, loaded.v4l2Height) ∧
      (s.v4l2Width, s.v4l2Height) = (640, 480)

theorem Agree.of_collected {opts : List CliOption} {loaded : Settings} {s t : CliArgs}
    {target : Target} {port : Int32} (hs : Collected opts s) (ht : Reached s t target port) :
    Agree opts loaded t
      (opts.foldl CliOption.applyGui ⟨none, loaded.v4l2Width, loaded.v4l2Height⟩) := by
  obtain ⟨-, hdev, hwidth, hheight⟩ := ht.others
  have hsize : (t.v4l2Width, t.v4l2Height) = (lastSize opts).getD (640, 480) := by
    rw [hwidth, hheight]
    exact hs.size
  rw [foldl_applyGui]
  refine ⟨?_, fun hgiven => ?_, fun hnone => ?_⟩
  · rw [hdev, hs.dev]
    exact Option.or_none
  · obtain ⟨size, hlast⟩ := Option.isSome_iff_exists.mp (lastSize_isSome.mpr hgiven)
    rw [hlast] at hsize ⊢
    exact ⟨(congrArg Prod.fst hsize).symm, (congrArg Prod.snd hsize).symm⟩
  · have hlast : lastSize opts = none :=
      Option.not_isSome_iff_eq_none.mp fun hsome => hnone (lastSize_isSome.mp hsome)
    rw [hlast] at hsize ⊢
    exact ⟨rfl, hsize⟩

/-- **The two programs agree.**  Started with the same options, whatever settings were
    loaded and whatever the target of the command line program is, the window takes the
    device that the other one takes, and its size where one is given; it passes the other
    options over, but prints its usage exactly when `-hflip` is among them. -/
theorem parse_args_agree (file : Option (List Char)) (prog prog' : List Char)
    (opts : List CliOption) (target : Target) (port : Decimal) (rest : List (List Char)) :
    let loaded := loadSettings file
    let parsed := parseGuiArgs ⟨none, loaded.v4l2Width, loaded.v4l2Height⟩
      (prog' :: opts.map CliOption.text)
    ∃ s, parseArgs (prog :: (opts.map CliOption.text ++ target.text :: port.text :: rest)) = .ok s ∧
      (parsed = .error .usage ↔ .hflip ∈ opts) ∧
      (.hflip ∉ opts → ∃ g, parsed = .ok g ∧ Agree opts loaded s g ∧
        launchSettings file (lastSize opts) =
          { loaded with v4l2Width := g.v4l2Width, v4l2Height := g.v4l2Height }) := by
  intro loaded parsed
  obtain ⟨s, hparsed, hreached⟩ := parseArgs_text prog opts target port rest
  refine ⟨s, hparsed, ⟨fun husage => ?_, fun h => guiOptions_hflip h _⟩, fun h => ?_⟩
  · by_contra h
    cases husage.symm.trans (guiOptions_text h _)
  · refine ⟨_, guiOptions_text h _, .of_collected (Collected.foldl opts) hreached, ?_⟩
    rw [foldl_applyGui]
    cases lastSize opts <;> rfl

end DroidCam.CommandLine
