import DroidCam.Lib.LabelledRun
import DroidCam.Orientation
import DroidCam.SettingsRoundTrip

/-
  DroidCam/Window.lean
  ====================
  The window of the GUI, from one start of the program to the next: `main`, `Start`,
  `Stop` and the callbacks of `droidcam.c` that are not about control requests.

  All of it runs on one thread, so a callback is a step.  Only `Start` sets the flags
  `v_running` and `a_running`, and only `Stop` clears them; a thread that ends on its own
  leaves them as they are.  What the phone, the tools and the user answer is in the label.

  Fields below the line `history` are not in the program.
-/

namespace DroidCam.Window

open LabelledRun JpgDecoder SettingsFile CString

/-! ### Constants -/

def CB_RADIO_ADB : Int32 := 1

def CB_RADIO_IOS : Int32 := 2

def CB_WIFI_SRVR : Int32 := 3

def CB_RADIO_COUNT : Int32 := 4

def ADB_LOCALHOST_IP : List Char := "127.0.0.1".toList

/-! ### State -/

/-- The label of the start button, and which widgets are sensitive; `menus` stands for
    `elButton`, `wbButton` and `menuButton`. -/
structure Widgets where
  startButton : String
  ipEntry : Bool
  portEntry : Bool
  audioCheckbox : Bool
  videoCheckbox : Bool
  menus : Bool
deriving DecidableEq, Repr

/-- The handles that are not `NULL`. -/
structure Handles where
  hVideoThread : Bool
  hDecodeThread : Bool
  hAudioThread : Bool
  hBatteryThread : Bool
deriving DecidableEq, Repr

def Handles.null : Handles := ⟨false, false, false, false⟩

/-- What a run of the program ended with. -/
structure Session where
  settings : Settings
  invert : Bool
  transformOp : TjxOp

structure WindowState where
  /-- `gtk_main` runs. -/
  isOpen : Bool
  settings : Settings
  vRunning : Bool
  aRunning : Bool
  handles : Handles
  invert : Bool
  transformOp : TjxOp
  widgets : Widgets
  /-- The settings file. -/
  file : Option (List Char)
  -- history
  /-- Threads whose handle was overwritten before they were joined. -/
  lost : Nat
  /-- The last radio button toggled since the start, while only audio ran. -/
  toggled : Option Int32
  /-- The last run that saved its settings. -/
  saved : Option Session

/-- The widgets when they have been made. -/
def Widgets.initial : Widgets := ⟨"Connect", true, true, true, true, false⟩

/-- Before the program is started for the first time. -/
def WindowState.init (file : Option (List Char)) : WindowState where
  isOpen := false
  settings := Settings.defaults
  vRunning := false
  aRunning := false
  handles := .null
  invert := false
  transformOp := .none
  widgets := .initial
  file := file
  lost := 0
  toggled := none
  saved := none

/-- What `Start` is answered: the entries, `CheckAdbDevices`, `CheckiOSDevices`, and
    whether `Connect` gives a socket. -/
structure StartAnswers where
  port : Int
  ip : List Char
  adb : Int
  ios : Int
  connects : Bool

inductive Event where
  /-- `main` up to `gtk_main`, with what `-size` sets and the size `decoder_init` finds. -/
  | launch (size : Option (UInt32 × UInt32)) (webcam : Option (Nat × Nat))
  | button (a : StartAnswers)
  /-- "toggled" of a radio button. -/
  | radio (cb : Int32)
  | audio (active : Bool)
  | video (active : Bool)
  /-- `CB_H_FLIP` or `CB_V_FLIP`; `busy` when `thread_cmd` is not 0. -/
  | flip (horizontal busy : Bool)
  /-- `decoder_prepare_video` on the video thread. -/
  | prepared
  /-- The window is closed, unless the user answers "no"; the file can be written or not. -/
  | close (no writable : Bool)

/-! ### Callbacks -/

/-- What `the_callback` shows for a radio button. -/
def radioWidgets (cb : Int32) (menus : Bool) : Option Widgets :=
  if cb = CB_WIFI_SRVR then some ⟨"Prepare", false, true, false, false, menus⟩
  else if cb = CB_RADIO_WIFI then some ⟨"Connect", true, true, true, true, menus⟩
  else if cb = CB_RADIO_ADB ∨ cb = CB_RADIO_IOS then
    some ⟨"Connect", false, true, true, true, menus⟩
  else none

def WindowState.setConnection (s : WindowState) (cb : Int32) : WindowState :=
  { s with settings := { s.settings with connection := cb } }

/-- `the_callback` of a radio button; it only looks at `v_running`. -/
def WindowState.radioCallback (s : WindowState) (cb : Int32) : WindowState :=
  match radioWidgets cb s.widgets.menus with
  | none => s
  | some widgets =>
    { s.setConnection cb with
      widgets := if s.vRunning then s.widgets else widgets
      toggled := if s.aRunning ∧ ¬ s.vRunning then some cb else s.toggled }

def boolInt (b : Bool) : Int32 := if b then 1 else 0

def WindowState.audioCallback (s : WindowState) (active : Bool) : WindowState :=
  { s with settings := { s.settings with audio := boolInt active } }

def WindowState.videoCallback (s : WindowState) (active : Bool) : WindowState :=
  { s with settings := { s.settings with video := boolInt active } }

/-- `controls_callback` with a flip. -/
def WindowState.flipCallback (s : WindowState) (horizontal busy : Bool) : WindowState :=
  if s.vRunning = false ∨ busy then s
  else if horizontal then
    let op := decoderHorizontalFlip s.transformOp
    { s with
      transformOp := op
      settings := { s.settings with horizontalFlip := boolInt (op = .hflip ∨ op = .rot180) } }
  else
    let op := decoderVerticalFlip s.transformOp
    { s with
      transformOp := op
      settings := { s.settings with verticalFlip := boolInt (op = .vflip ∨ op = .rot180) } }

/-! ### `Start` and `Stop` -/

/-- `Stop`; every thread it joins ends. -/
def WindowState.stop (s : WindowState) : WindowState :=
  { s with
    vRunning := false, aRunning := false, handles := .null, toggled := none
    widgets := { s.widgets with menus := false } }

def WindowState.startVideo (s : WindowState) : WindowState :=
  { s with
    vRunning := true
    handles := { s.handles with hVideoThread := true, hDecodeThread := true }
    lost := s.lost + s.handles.hVideoThread.toNat + s.handles.hDecodeThread.toNat }

def WindowState.startAudio (s : WindowState) : WindowState :=
  { s with
    aRunning := true
    handles := { s.handles with hAudioThread := true }
    lost := s.lost + s.handles.hAudioThread.toNat }

def WindowState.startBattery (s : WindowState) : WindowState :=
  { s with
    handles := { s.handles with hBatteryThread := true }
    lost := s.lost + s.handles.hBatteryThread.toNat }

def runningWidgets : Widgets := ⟨"Stop", false, false, false, false, true⟩

/-- `EARLY_OUT` of `Start`. -/
def WindowState.showRunning (s : WindowState) : WindowState := { s with widgets := runningWidgets }

def WindowState.setStartButton (s : WindowState) (label : String) : WindowState :=
  { s with widgets := { s.widgets with startButton := label } }

/-- The address that is connected to, or none for a phone behind usbmuxd; an error has
    been shown in the other cases. -/
def WindowState.address (s : WindowState) (a : StartAnswers) : Option (Option (List Char)) :=
  let ip : Option (Option (List Char)) :=
    if s.settings.connection = CB_RADIO_ADB then
      if a.adb ≠ 0 then none else some (some ADB_LOCALHOST_IP)
    else if s.settings.connection = CB_RADIO_IOS then
      if a.ios ≤ 0 then none else some none
    else if s.settings.connection = CB_RADIO_WIFI then some (some a.ip)
    else none
  match ip with
  | some (some ip) => if ip.length < 7 then none else some (some ip)
  | ip => ip

/-- The threads that the check boxes ask for. -/
def WindowState.startThreads (s : WindowState) : WindowState :=
  let s := if s.settings.video ≠ 0 then s.startVideo else s
  let s := if s.settings.audio ≠ 0 then s.startAudio else s
  s.startBattery.showRunning

def WindowState.start (s : WindowState) (a : StartAnswers) : WindowState :=
  if a.port ≤ 0 ∨ a.port > 65535 then s
  else
    let s := { s with settings := { s.settings with port := Int32.ofInt a.port } }
    if s.settings.connection = CB_WIFI_SRVR then s.startVideo.showRunning
    else if s.settings.audio = 0 ∧ s.settings.video = 0 then s
    else
      match s.address a with
      | none => s
      | some none => s.startThreads
      | some (some ip) =>
        let s := s.setStartButton "Please wait"
        if a.connects = false then s.setStartButton "Connect"
        else
          let stored := (s.settings.ip.strncpy ip 15).set 15 NUL
          { s with settings := { s.settings with ip := stored } }.startThreads

/-- `the_callback` of the start button. -/
def WindowState.buttonCallback (s : WindowState) (a : StartAnswers) : WindowState :=
  if s.vRunning ∨ s.aRunning then s.stop.radioCallback s.settings.connection else s.start a

/-! ### The program -/

/-- The settings that `LoadSettings` and `parse_args` give. -/
def launchSettings (file : Option (List Char)) (size : Option (UInt32 × UInt32)) : Settings :=
  match size with
  | none => loadSettings file
  | some (width, height) => { loadSettings file with v4l2Width := width, v4l2Height := height }

/-- `gtk_toggle_button_set_active` of the radio button that was saved: the one for WiFi
    is toggled first, unless it is the same. -/
def WindowState.setActive (s : WindowState) : WindowState :=
  let connection := s.settings.connection
  if connection < CB_RADIO_COUNT ∧ connection ≠ CB_RADIO_WIFI then
    (s.radioCallback CB_RADIO_WIFI).radioCallback connection
  else s

/-- The check boxes that were saved. -/
def WindowState.setChecked (s : WindowState) : WindowState :=
  let s := if s.settings.audio ≠ 0 then s.audioCallback true else s
  if s.settings.video ≠ 0 then s.videoCallback true else s

/-- The flips of the last run, made to a decoder without any. -/
def savedFlips (settings : Settings) : TjxOp :=
  let op := if settings.horizontalFlip ≠ 0 then decoderHorizontalFlip .none else .none
  if settings.verticalFlip ≠ 0 then decoderVerticalFlip op else op

/-- `main` up to `gtk_main`; where `decoder_init` fails the program ends. -/
def WindowState.launch (s : WindowState) (size : Option (UInt32 × UInt32))
    (webcam : Option (Nat × Nat)) : WindowState :=
  let s := { s with settings := launchSettings s.file size, widgets := .initial }
  let s := s.setActive.setChecked
  match webcam with
  | none => s
  | some (webcamW, webcamH) =>
    { s with
      isOpen := true, invert := decide (webcamW < webcamH), transformOp := savedFlips s.settings }

/-- The end of `main`. -/
def WindowState.finish (s : WindowState) (writable : Bool) : WindowState :=
  let s := s.stop
  if writable then
    { s with
      isOpen := false
      file := some (saveSettings s.settings)
      saved := some ⟨s.settings, s.invert, s.transformOp⟩ }
  else { s with isOpen := false }

def windowNext (s : WindowState) : Event → Option WindowState
  | .launch size webcam =>
    if s.isOpen then none
    -- `radios[g_settings.connection]`
    else if (launchSettings s.file size).connection < 0 then none
    else some (s.launch size webcam)
  | .button a => if s.isOpen then some (s.buttonCallback a) else none
  | .radio cb =>
    if s.isOpen ∧ (radioWidgets cb true).isSome then some (s.radioCallback cb) else none
  | .audio active => if s.isOpen then some (s.audioCallback active) else none
  | .video active => if s.isOpen then some (s.videoCallback active) else none
  | .flip horizontal busy => if s.isOpen then some (s.flipCallback horizontal busy) else none
  | .prepared =>
    if s.vRunning then some { s with transformOp := if s.invert then .rot90 else s.transformOp }
    else none
  | .close no writable =>
    if s.isOpen then
      if (s.vRunning ∨ s.aRunning) ∧ s.settings.confirmClose ≠ 0 ∧ no then some s
      else some (s.finish writable)
    else none

abbrev Step : WindowState → Event → WindowState → Prop := ofNext windowNext

/-! ### Radio buttons

The radio buttons are four, and the settings may hold another number: then no button is
pressed and the widgets stay as they were made. -/

def IsRadio (cb : Int32) : Prop := (radioWidgets cb true).isSome

/-- Every radio button shows something; of the menus it says nothing. -/
theorem IsRadio.widgets {cb : Int32} (h : IsRadio cb) (menus : Bool) :
    ∃ w, radioWidgets cb menus = some w ∧ w.menus = menus := by
  revert h
  unfold IsRadio radioWidgets
  split_ifs
  · exact fun _ => ⟨_, rfl, rfl⟩
  · exact fun _ => ⟨_, rfl, rfl⟩
  · exact fun _ => ⟨_, rfl, rfl⟩
  · intro h
    cases h

theorem radioWidgets_of_not {cb : Int32} (h : ¬ IsRadio cb) (menus : Bool) :
    radioWidgets cb menus = none := by
  revert h
  unfold IsRadio radioWidgets
  split_ifs <;> simp

/-- The buttons that `Connect` is called for have its label. -/
theorem radioWidgets_connect {cb : Int32} (h : cb = CB_RADIO_ADB ∨ cb = CB_RADIO_WIFI)
    (menus : Bool) : ∃ w, radioWidgets cb menus = some w ∧ w.startButton = "Connect" := by
  rcases h with rfl | rfl
  · exact ⟨_, rfl, rfl⟩
  · exact ⟨_, rfl, rfl⟩

/-- The indices of `radios`. -/
theorem isRadio_of_lt {cb : Int32} (hpos : 0 ≤ cb) (hlt : cb < CB_RADIO_COUNT) : IsRadio cb := by
  rw [Int32.le_iff_toInt_le] at hpos
  rw [Int32.lt_iff_toInt_lt] at hlt
  have hnum : ∀ n : Int32, cb.toInt = n.toInt → cb = n := fun n => Int32.toInt_inj.mp
  have hcases : cb.toInt = 0 ∨ cb.toInt = 1 ∨ cb.toInt = 2 ∨ cb.toInt = 3 := by
    have hzero : (0 : Int32).toInt = 0 := rfl
    have hfour : CB_RADIO_COUNT.toInt = 4 := rfl
    omega
  rcases hcases with h | h | h | h
  · exact hnum CB_RADIO_WIFI h ▸ rfl
  · exact hnum CB_RADIO_ADB h ▸ rfl
  · exact hnum CB_RADIO_IOS h ▸ rfl
  · exact hnum CB_WIFI_SRVR h ▸ rfl

theorem IsRadio.bounds {cb : Int32} (h : IsRadio cb) : 0 ≤ cb ∧ cb < CB_RADIO_COUNT := by
  revert h
  unfold IsRadio radioWidgets
  split_ifs with h₁ h₂ h₃
  · exact fun _ => by subst h₁; decide
  · exact fun _ => by subst h₂; decide
  · rcases h₃ with rfl | rfl
    · exact fun _ => by decide
    · exact fun _ => by decide
  · intro h
    cases h

/-! ### The invariant

`toggled` remembers a radio button pressed while audio alone was running, after which
the widgets are no longer those of a running program. -/

def WindowState.running (s : WindowState) : Bool := s.vRunning || s.aRunning

/-- What the window shows: the radio button while it is stopped, and "Stop" while it runs,
    unless a radio button was toggled while only audio ran. -/
def shownWidgets (running : Bool) (toggled : Option Int32) (connection : Int32) : Widgets :=
  match running, toggled with
  | false, _ => (radioWidgets connection false).getD .initial
  | true, none => runningWidgets
  | true, some cb => (radioWidgets cb true).getD runningWidgets

def WindowState.shown (s : WindowState) : Widgets :=
  shownWidgets s.running s.toggled s.settings.connection

def IsBit (v : Int32) : Prop := v = 0 ∨ v = 1

/-- The flips that the settings have. -/
def flipsOf (settings : Settings) : TjxOp :=
  .ofFlips (decide (settings.horizontalFlip ≠ 0)) (decide (settings.verticalFlip ≠ 0))

/-- What the callbacks keep about the settings and the transform. -/
structure Chosen (settings : Settings) (invert : Bool) (transformOp : TjxOp) : Prop where
  connection : 0 ≤ settings.connection
  audio : IsBit settings.audio
  video : IsBit settings.video
  flips : invert = false → transformOp = flipsOf settings

structure Inv (s : WindowState) : Prop where
  closed : s.isOpen = false → s.running = false
  video : s.handles.hVideoThread = s.vRunning
  decode : s.handles.hDecodeThread = s.vRunning
  audio : s.handles.hAudioThread = s.aRunning
  battery : s.handles.hBatteryThread = true → s.running = true
  lost : s.lost = 0
  radio : s.running = true → IsRadio s.settings.connection
  toggled : ∀ cb, s.toggled = some cb →
    s.vRunning = false ∧ s.aRunning = true ∧ s.settings.connection = cb
  shown : s.isOpen = true → s.widgets = s.shown
  chosen : s.isOpen = true → Chosen s.settings s.invert s.transformOp
  saved : ∀ c, s.saved = some c →
    s.file = some (saveSettings c.settings) ∧ Chosen c.settings c.invert c.transformOp

theorem Inv.init (file : Option (List Char)) : Inv (WindowState.init file) where
  closed := fun _ => rfl
  video := rfl
  decode := rfl
  audio := rfl
  battery := nofun
  lost := rfl
  radio := nofun
  toggled := nofun
  shown := nofun
  chosen := nofun
  saved := nofun

/-! ### The callbacks keep it

One lemma for each callback; `Start` is taken apart by the ways it can end. -/

theorem boolInt_isBit (b : Bool) : IsBit (boolInt b) := by
  cases b
  · exact Or.inl rfl
  · exact Or.inr rfl

theorem boolInt_ne_zero (b : Bool) : decide (boolInt b ≠ 0) = b := by
  cases b <;> decide

section Callbacks

variable {s t : WindowState}

theorem Inv.toggled_none (hs : Inv s) (h : s.running = false) : s.toggled = none := by
  cases htoggled : s.toggled with
  | none => rfl
  | some cb =>
      rw [WindowState.running, (hs.toggled cb htoggled).2.1, Bool.or_true] at h
      cases h

/-- The menus are for a phone that is connected. -/
theorem Inv.shown_menus (hs : Inv s) : s.shown.menus = s.running := by
  unfold WindowState.shown shownWidgets
  cases hrun : s.running with
  | true =>
      cases htoggled : s.toggled with
      | none => rfl
      | some cb =>
          obtain ⟨-, -, hconnection⟩ := hs.toggled cb htoggled
          obtain ⟨w, hw, hmenus⟩ := (hconnection ▸ hs.radio hrun).widgets true
          simp only [hw, Option.getD_some, hmenus]
  | false =>
      by_cases hradio : IsRadio s.settings.connection
      · obtain ⟨w, hw, hmenus⟩ := hradio.widgets false
        simp only [hw, Option.getD_some, hmenus]
      · simp only [radioWidgets_of_not hradio, Option.getD_none, Widgets.initial]

/-- Changes that neither the threads nor the widgets see. -/
theorem Inv.set (hs : Inv s) {settings : Settings} {transformOp : TjxOp}
    (hconnection : settings.connection = s.settings.connection)
    (hchosen : s.isOpen = true → Chosen settings s.invert transformOp) :
    Inv { s with settings, transformOp } where
  closed := hs.closed
  video := hs.video
  decode := hs.decode
  audio := hs.audio
  battery := hs.battery
  lost := hs.lost
  radio := fun h => hconnection.symm ▸ hs.radio h
  toggled := fun cb h => hconnection.symm ▸ hs.toggled cb h
  shown := fun h => by
    show s.widgets = shownWidgets _ _ settings.connection
    rw [hconnection]
    exact hs.shown h
  chosen := hchosen
  saved := hs.saved

theorem Inv.radioCallback (hs : Inv s) (hopen : s.isOpen = true) {cb : Int32}
    (hradio : IsRadio cb) : Inv (s.radioCallback cb) := by
  obtain ⟨w, hw, hmenus⟩ := hradio.widgets s.widgets.menus
  have hshown := hs.shown hopen
  have hchosen := hs.chosen hopen
  rw [hshown, hs.shown_menus] at hw
  rw [WindowState.radioCallback, hshown, hs.shown_menus, hw]
  refine { hs with radio := fun _ => hradio, toggled := ?toggled, shown := ?shown,
                   chosen := fun _ => { hchosen with connection := hradio.bounds.1 } }
  case toggled =>
    intro cb' h
    dsimp only [WindowState.setConnection] at h ⊢
    split_ifs at h with haudio
    · cases h
      exact ⟨Bool.eq_false_iff.mpr haudio.2, haudio.1, rfl⟩
    · obtain ⟨hv, ha, -⟩ := hs.toggled cb' h
      exact absurd ⟨ha, Bool.eq_false_iff.mp hv⟩ haudio
  case shown =>
    -- with video running the callback only stores the connection
    intro _
    show _ = shownWidgets s.running _ cb
    cases hv : s.vRunning with
    | true =>
        have hnone : s.toggled = none := by
          cases htoggled : s.toggled with
          | none => rfl
          | some cb' =>
              rw [(hs.toggled cb' htoggled).1] at hv
              cases hv
        simp only [WindowState.shown, WindowState.running, hv, hnone, Bool.true_or, shownWidgets,
          not_true_eq_false, and_false, if_false, if_true]
    -- without video it also shows its widgets, running audio or not
    | false =>
        cases ha : s.aRunning with
        | true =>
            simp only [WindowState.running, hv, ha, Bool.or_true] at hw ⊢
            simp only [shownWidgets, hw, Option.getD_some, Bool.false_eq_true, not_false_eq_true,
              and_self, if_false, if_true]
        | false =>
            simp only [WindowState.running, hv, ha, Bool.or_false] at hw ⊢
            simp only [shownWidgets, hw, Option.getD_some, Bool.false_eq_true, if_false]

theorem Inv.audioCallback (hs : Inv s) (active : Bool) : Inv (s.audioCallback active) :=
  hs.set rfl fun h => { hs.chosen h with audio := boolInt_isBit active }

theorem Inv.videoCallback (hs : Inv s) (active : Bool) : Inv (s.videoCallback active) :=
  hs.set rfl fun h => { hs.chosen h with video := boolInt_isBit active }

/-- What a flip returns says how the transform is flipped. -/
theorem flips_ofFlips (a b : Bool) :
    decide (TjxOp.ofFlips a b = .hflip ∨ TjxOp.ofFlips a b = .rot180) = a ∧
      decide (TjxOp.ofFlips a b = .vflip ∨ TjxOp.ofFlips a b = .rot180) = b := by
  cases a <;> cases b <;> decide

theorem Inv.flipCallback (hs : Inv s) (horizontal busy : Bool) :
    Inv (s.flipCallback horizontal busy) := by
  unfold WindowState.flipCallback
  split
  · exact hs
  cases horizontal with
  | true =>
      refine hs.set rfl fun hopen => { hs.chosen hopen with flips := fun hinvert => ?_ }
      rw [(hs.chosen hopen).flips hinvert, flipsOf, decoderHorizontalFlip_ofFlips, flipsOf]
      simp only [(flips_ofFlips _ _).1, boolInt_ne_zero]
  | false =>
      refine hs.set rfl fun hopen => { hs.chosen hopen with flips := fun hinvert => ?_ }
      rw [(hs.chosen hopen).flips hinvert, flipsOf, decoderVerticalFlip_ofFlips, flipsOf]
      simp only [(flips_ofFlips _ _).2, boolInt_ne_zero]

/-- `Stop`, once the widgets are reset. -/
theorem Inv.stopped (hs : Inv s) : Inv { s.stop with widgets := s.stop.shown } where
  closed := fun _ => rfl
  video := rfl
  decode := rfl
  audio := rfl
  battery := nofun
  lost := hs.lost
  radio := nofun
  toggled := nofun
  shown := fun _ => rfl
  chosen := hs.chosen
  saved := hs.saved

/-- A radio button sets all the widgets but the menus. -/
theorem radioCallback_widgets {cb : Int32} (hradio : IsRadio cb) (hv : s.vRunning = false)
    {w : Widgets} (hmenus : w.menus = s.widgets.menus) :
    WindowState.radioCallback { s with widgets := w } cb = s.radioCallback cb := by
  obtain ⟨w', hw', -⟩ := hradio.widgets s.widgets.menus
  simp only [WindowState.radioCallback, hmenus, hw', hv, WindowState.setConnection,
    Bool.false_eq_true, if_false]

/-- What `Start` can do; `port` and `ip` are all it stores in the settings. -/
inductive StartMove (s : WindowState) : WindowState → Prop
  | fails (port : Int32) : StartMove s { s with settings := { s.settings with port } }
  | unreachable (port : Int32)
      (hconnection : s.settings.connection = CB_RADIO_ADB ∨ s.settings.connection = CB_RADIO_WIFI) :
      StartMove s (WindowState.setStartButton { s with settings := { s.settings with port } }
        "Connect")
  | server (port : Int32) (hconnection : s.settings.connection = CB_WIFI_SRVR) :
      StartMove s (WindowState.startVideo
        { s with settings := { s.settings with port } }).showRunning
  | connects (port : Int32) (ip : CharArray 16) (hradio : IsRadio s.settings.connection)
      (hboxes : s.settings.audio ≠ 0 ∨ s.settings.video ≠ 0) :
      StartMove s (WindowState.startThreads { s with settings := { s.settings with port, ip } })

/-- An address is that of an entry or of `adb`. -/
theorem address_cases {a : StartAnswers} {ip : Option (List Char)} (h : s.address a = some ip) :
    IsRadio s.settings.connection ∧ (ip.isSome → s.settings.connection = CB_RADIO_ADB ∨
      s.settings.connection = CB_RADIO_WIFI) := by
  unfold WindowState.address at h
  by_cases hadb : s.settings.connection = CB_RADIO_ADB
  · exact ⟨hadb ▸ rfl, fun _ => Or.inl hadb⟩
  by_cases hios : s.settings.connection = CB_RADIO_IOS
  · refine ⟨hios ▸ rfl, fun hip => ?_⟩
    simp only [if_neg hadb, if_pos hios] at h
    split_ifs at h
    cases h
    cases hip
  by_cases hwifi : s.settings.connection = CB_RADIO_WIFI
  · exact ⟨hwifi ▸ rfl, fun _ => Or.inr hwifi⟩
  · simp only [if_neg hadb, if_neg hios, if_neg hwifi] at h
    cases h

theorem startThreads_setStartButton (label : String) :
    (s.setStartButton label).startThreads = s.startThreads := by
  by_cases hvideo : s.settings.video = 0 <;> by_cases haudio : s.settings.audio = 0 <;>
    simp [WindowState.startThreads, WindowState.setStartButton, WindowState.startVideo,
      WindowState.startAudio, WindowState.startBattery, WindowState.showRunning, hvideo, haudio]

theorem start_move (s : WindowState) (a : StartAnswers) : StartMove s (s.start a) := by
  unfold WindowState.start
  split
  · exact .fails s.settings.port
  dsimp only
  split
  · rename_i hserver
    exact .server _ hserver
  split
  · exact .fails _
  -- past the checks: one of the two boxes is ticked
  rename_i hboxes
  have hsome : s.settings.audio ≠ 0 ∨ s.settings.video ≠ 0 := by
    by_cases haudio : s.settings.audio = 0
    · exact Or.inr fun hvideo => hboxes ⟨haudio, hvideo⟩
    · exact Or.inl haudio
  split
  · exact .fails _
  · rename_i hip
    exact .connects _ s.settings.ip (address_cases hip).1 hsome
  · rename_i ip hip
    obtain ⟨hradio, hconnect⟩ := address_cases hip
    split
    · exact .unreachable (s := s) _ (hconnect rfl)
    · have hmove := StartMove.connects (s := s) (Int32.ofInt a.port)
        ((s.settings.ip.strncpy ip 15).set 15 NUL) hradio hsome
      rw [← startThreads_setStartButton "Please wait"] at hmove
      exact hmove

theorem Inv.handles (hs : Inv s) (h : s.running = false) : s.handles = .null := by
  have hrun : s.vRunning = false ∧ s.aRunning = false := Bool.or_eq_false_iff.mp h
  have hbattery : s.handles.hBatteryThread = false := by
    rw [Bool.eq_false_iff]
    intro hb
    rw [hs.battery hb] at h
    cases h
  have hvideo := hs.video.trans hrun.1
  have hdecode := hs.decode.trans hrun.1
  have haudio := hs.audio.trans hrun.2
  generalize s.handles = handles at *
  obtain ⟨video, decode, audio, battery⟩ := handles
  cases hvideo
  cases hdecode
  cases haudio
  cases hbattery
  rfl

/-- Threads are started where there are none. -/
theorem Inv.started (hs : Inv s) (hopen : s.isOpen = true) (hstop : s.running = false)
    (hradio : IsRadio s.settings.connection) {video audio battery : Bool}
    (hsome : (video || audio) = true) :
    Inv { s with
      vRunning := video, aRunning := audio, handles := ⟨video, video, audio, battery⟩
      widgets := runningWidgets } where
  closed := fun h => by
    rw [hopen] at h
    cases h
  video := rfl
  decode := rfl
  audio := rfl
  battery := fun _ => hsome
  lost := hs.lost
  radio := fun _ => hradio
  toggled := fun cb h => by
    rw [hs.toggled_none hstop] at h
    cases h
  shown := fun _ => by
    show _ = shownWidgets (video || audio) s.toggled _
    rw [hsome, hs.toggled_none hstop]
    rfl
  chosen := hs.chosen
  saved := hs.saved

theorem Inv.startServer (hs : Inv s) (hopen : s.isOpen = true) (hstop : s.running = false)
    (hradio : IsRadio s.settings.connection) : Inv s.startVideo.showRunning := by
  have hrun : s.vRunning = false ∧ s.aRunning = false := Bool.or_eq_false_iff.mp hstop
  have heq : s.startVideo.showRunning =
      { s with
        vRunning := true, aRunning := false, handles := ⟨true, true, false, false⟩
        widgets := runningWidgets } := by
    simp [WindowState.startVideo, WindowState.showRunning, hs.handles hstop, hrun.2, Handles.null]
  rw [heq]
  exact hs.started hopen hstop hradio rfl

theorem startThreads_eq (h : s.handles = .null) (hstop : s.running = false) :
    s.startThreads =
      let video := decide (s.settings.video ≠ 0)
      let audio := decide (s.settings.audio ≠ 0)
      { s with
        vRunning := video, aRunning := audio, handles := ⟨video, video, audio, true⟩
        widgets := runningWidgets } := by
  obtain ⟨hv, ha⟩ : s.vRunning = false ∧ s.aRunning = false := Bool.or_eq_false_iff.mp hstop
  by_cases hvideo : s.settings.video = 0 <;> by_cases haudio : s.settings.audio = 0 <;>
    simp [WindowState.startThreads, WindowState.startVideo, WindowState.startAudio,
      WindowState.startBattery, WindowState.showRunning, Handles.null, hvideo, haudio, h, hv, ha]

theorem Inv.startThreads (hs : Inv s) (hopen : s.isOpen = true) (hstop : s.running = false)
    (hradio : IsRadio s.settings.connection)
    (hboxes : s.settings.audio ≠ 0 ∨ s.settings.video ≠ 0) : Inv s.startThreads := by
  rw [startThreads_eq (hs.handles hstop) hstop]
  refine hs.started hopen hstop hradio ?_
  rw [Bool.or_eq_true, decide_eq_true_eq, decide_eq_true_eq]
  exact hboxes.symm

theorem Inv.start (hs : Inv s) (hopen : s.isOpen = true) (hstop : s.running = false)
    (a : StartAnswers) : Inv (s.start a) := by
  have hset : ∀ port ip, Inv { s with settings := { s.settings with port, ip } } :=
    fun port ip => hs.set rfl fun h => { hs.chosen h with flips := (hs.chosen h).flips }
  have hmove := start_move s a
  generalize s.start a = t at hmove
  cases hmove with
  | fails port => exact hset port s.settings.ip
  | unreachable port hconnection =>
      obtain ⟨w, hw, hlabel⟩ := radioWidgets_connect hconnection false
      have hshown : s.widgets = w := by
        rw [hs.shown hopen, WindowState.shown, hstop]
        simp only [shownWidgets, hw, Option.getD_some]
      have hsame : { s.widgets with startButton := "Connect" } = s.widgets := by
        rw [hshown, ← hlabel]
      rw [WindowState.setStartButton, hsame]
      exact hset port s.settings.ip
  | server port hconnection =>
      exact (hset port s.settings.ip).startServer hopen hstop (hconnection ▸ rfl)
  | connects port ip hradio hboxes =>
      exact (hset port ip).startThreads hopen hstop hradio hboxes

/-- The start button; where something runs it shows the radio button again. -/
theorem Inv.buttonCallback (hs : Inv s) (hopen : s.isOpen = true) (a : StartAnswers) :
    Inv (s.buttonCallback a) := by
  unfold WindowState.buttonCallback
  split
  · rename_i hrun
    have hradio := hs.radio ((Bool.or_eq_true _ _).mpr hrun)
    have hmenus : s.stop.shown.menus = false := hs.stopped.shown_menus
    rw [← radioCallback_widgets hradio rfl (s := s.stop) hmenus]
    exact hs.stopped.radioCallback hopen hradio
  · rename_i hrun
    exact hs.start hopen (Bool.eq_false_iff.mpr fun h => hrun ((Bool.or_eq_true _ _).mp h)) a

theorem radioCallback_eq (hv : s.vRunning = false) (ha : s.aRunning = false) {cb : Int32}
    {w : Widgets} (hw : radioWidgets cb s.widgets.menus = some w) :
    s.radioCallback cb = { s.setConnection cb with widgets := w } := by
  rw [WindowState.radioCallback, hw]
  simp only [hv, ha, WindowState.setConnection, Bool.false_eq_true, false_and, if_false]

/-- The radio button that was saved is shown. -/
theorem setActive_eq (hstop : s.running = false) (hwidgets : s.widgets = .initial)
    (hpos : 0 ≤ s.settings.connection) :
    s.setActive = { s with
      widgets := (radioWidgets s.settings.connection false).getD .initial } := by
  obtain ⟨hv, ha⟩ : s.vRunning = false ∧ s.aRunning = false := Bool.or_eq_false_iff.mp hstop
  unfold WindowState.setActive
  dsimp only
  split
  · rename_i hactive
    obtain ⟨w, hw, -⟩ := (isRadio_of_lt hpos hactive.1).widgets false
    have hwifi : radioWidgets CB_RADIO_WIFI s.widgets.menus = some .initial := by
      rw [hwidgets]
      rfl
    -- the button of WiFi goes off before the right one comes on, and each is a callback
    rw [radioCallback_eq hv ha hwifi, hw,
      radioCallback_eq (s := { s.setConnection CB_RADIO_WIFI with widgets := .initial }) hv ha hw]
    rfl
  · rename_i hactive
    have hinitial : (radioWidgets s.settings.connection false).getD .initial = s.widgets := by
      rw [hwidgets]
      by_cases hconnection : s.settings.connection = CB_RADIO_WIFI
      · rw [hconnection]
        rfl
      · have hnot : ¬ IsRadio s.settings.connection := by
          intro hradio
          exact hactive ⟨hradio.bounds.2, hconnection⟩
        rw [radioWidgets_of_not hnot]
        rfl
    rw [hinitial]

/-- A check box that was saved, and shown. -/
def checked (v : Int32) : Int32 := if v ≠ 0 then 1 else v

theorem checked_isBit (v : Int32) : IsBit (checked v) := by
  unfold checked
  split
  · exact Or.inr rfl
  · rename_i h
    exact Or.inl (not_not.mp h)

theorem checked_of_isBit {v : Int32} (h : IsBit v) : checked v = v := by
  rcases h with rfl | rfl <;> rfl

def checkedSettings (settings : Settings) : Settings :=
  { settings with audio := checked settings.audio, video := checked settings.video }

theorem checkedSettings_eq {settings : Settings} (haudio : IsBit settings.audio)
    (hvideo : IsBit settings.video) : checkedSettings settings = settings := by
  rw [checkedSettings, checked_of_isBit haudio, checked_of_isBit hvideo]

theorem setChecked_eq (s : WindowState) :
    s.setChecked = { s with settings := checkedSettings s.settings } := by
  have haudio : (if s.settings.audio ≠ 0 then s.audioCallback true else s) =
      { s with settings := { s.settings with audio := checked s.settings.audio } } := by
    unfold checked
    split <;> rfl
  rw [WindowState.setChecked, haudio]
  dsimp only [checkedSettings]
  unfold checked
  split <;> rfl

theorem savedFlips_eq (settings : Settings) : savedFlips settings = flipsOf settings := by
  have hnone : TjxOp.none = TjxOp.ofFlips false false := rfl
  unfold savedFlips flipsOf
  rw [hnone]
  split_ifs with hh hv hv
  · rw [decoderHorizontalFlip_ofFlips, decoderVerticalFlip_ofFlips, decide_eq_true hh,
      decide_eq_true hv]
    rfl
  · rw [decoderHorizontalFlip_ofFlips, decide_eq_true hh, decide_eq_false hv]
    rfl
  · rw [decoderVerticalFlip_ofFlips, decide_eq_false hh, decide_eq_true hv]
    rfl
  · rw [decide_eq_false hh, decide_eq_false hv]

/-- What the program starts with. -/
theorem launch_eq (hstop : s.running = false) {size : Option (UInt32 × UInt32)}
    (hpos : 0 ≤ (launchSettings s.file size).connection) (webcam : Option (Nat × Nat)) :
    s.launch size webcam =
      let settings := checkedSettings (launchSettings s.file size)
      let t := { s with
        settings, widgets := (radioWidgets settings.connection false).getD .initial }
      match webcam with
      | none => t
      | some (webcamW, webcamH) =>
        { t with
          isOpen := true, invert := decide (webcamW < webcamH)
          transformOp := flipsOf settings } := by
  unfold WindowState.launch
  dsimp only
  rw [setActive_eq (s := { s with settings := launchSettings s.file size, widgets := .initial })
    hstop rfl hpos, setChecked_eq]
  cases webcam with
  | none => rfl
  | some webcam => simp only [savedFlips_eq, checkedSettings]

theorem Inv.launch (hs : Inv s) (hclosed : s.isOpen = false) {size : Option (UInt32 × UInt32)}
    (hpos : 0 ≤ (launchSettings s.file size).connection) (webcam : Option (Nat × Nat)) :
    Inv (s.launch size webcam) := by
  have hstop := hs.closed hclosed
  -- nothing but these five changes, so the rest of the invariant is that of a closed
  -- window
  have hrest : ∀ settings widgets isOpen invert transformOp,
      (isOpen = true → widgets = shownWidgets false none settings.connection) →
      (isOpen = true → Chosen settings invert transformOp) →
      Inv { s with settings, widgets, isOpen, invert, transformOp } :=
    fun settings widgets isOpen invert transformOp hshown hchosen => {
      hs with
      closed := fun _ => hstop
      radio := fun h => absurd (h.symm.trans hstop) (by decide)
      toggled := fun cb h => absurd (h.symm.trans (hs.toggled_none hstop)) nofun
      shown := fun h => by
        show _ = shownWidgets s.running s.toggled _
        rw [hstop, hs.toggled_none hstop]
        exact hshown h
      chosen := hchosen }
  rw [launch_eq hstop hpos]
  cases webcam with
  | none =>
      have hnot : s.isOpen = true → False := fun h => by
        rw [hclosed] at h
        cases h
      exact hrest _ _ s.isOpen s.invert s.transformOp (fun h => (hnot h).elim)
        fun h => (hnot h).elim
  | some webcam =>
      exact hrest _ _ true _ _ (fun _ => rfl) fun _ =>
        ⟨hpos, checked_isBit _, checked_isBit _, fun _ => rfl⟩

theorem Inv.finish (hs : Inv s) (hopen : s.isOpen = true) (writable : Bool) :
    Inv (s.finish writable) := by
  unfold WindowState.finish
  cases writable with
  | true =>
      exact { hs.stopped with
        closed := fun _ => rfl
        shown := nofun
        chosen := nofun
        saved := fun c h => by
          cases h
          exact ⟨rfl, hs.chosen hopen⟩ }
  | false =>
      exact { hs.stopped with
        closed := fun _ => rfl
        shown := nofun
        chosen := nofun }

/-- `decoder_prepare_video` turns the picture where the device is in portrait. -/
theorem Inv.prepared (hs : Inv s) :
    Inv { s with transformOp := if s.invert then .rot90 else s.transformOp } :=
  hs.set rfl fun hopen => { hs.chosen hopen with
    flips := fun hinvert => by
      rw [hinvert]
      exact (hs.chosen hopen).flips hinvert }

end Callbacks

/-! ### Runs -/

theorem Inv.step {s t : WindowState} {e : Event} (hs : Inv s) (h : Step s e t) : Inv t := by
  cases e with
  | launch size webcam =>
      simp only [Step, ofNext, windowNext] at h
      split_ifs at h with hopen hneg
      cases h
      exact hs.launch (Bool.eq_false_iff.mpr hopen) (Int32.not_lt.mp hneg) webcam
  | button a =>
      simp only [Step, ofNext, windowNext] at h
      split_ifs at h with hopen
      cases h
      exact hs.buttonCallback hopen a
  | radio cb =>
      simp only [Step, ofNext, windowNext] at h
      split_ifs at h with hopen
      cases h
      exact hs.radioCallback hopen.1 hopen.2
  | audio active =>
      simp only [Step, ofNext, windowNext] at h
      split_ifs at h with hopen
      cases h
      exact hs.audioCallback active
  | video active =>
      simp only [Step, ofNext, windowNext] at h
      split_ifs at h with hopen
      cases h
      exact hs.videoCallback active
  | flip horizontal busy =>
      simp only [Step, ofNext, windowNext] at h
      split_ifs at h with hopen
      cases h
      exact hs.flipCallback horizontal busy
  | prepared =>
      simp only [Step, ofNext, windowNext] at h
      split at h
      · cases h
        exact hs.prepared
      · cases h
  | close no writable =>
      simp only [Step, ofNext, windowNext] at h
      split_ifs at h with hopen hno
      · cases h
        exact hs
      · cases h
        exact hs.finish hopen writable

theorem Inv.run {file : Option (List Char)} {es : List Event} {s : WindowState}
    (h : Run Step (.init file) es s) : Inv s :=
  h.invariant (fun _ _ _ hs hstep => Inv.step hs hstep) (Inv.init file)

/-- No radio button says "Stop". -/
theorem radioWidgets_ne_stop (cb : Int32) (menus : Bool) (default : Widgets)
    (hdefault : default.startButton ≠ "Stop") :
    ((radioWidgets cb menus).getD default).startButton ≠ "Stop" := by
  unfold radioWidgets
  split_ifs
  · exact (by decide : "Prepare" ≠ "Stop")
  · exact (by decide : "Connect" ≠ "Stop")
  · exact (by decide : "Connect" ≠ "Stop")
  · exact hdefault

theorem shown_stop_iff {s : WindowState} (hs : Inv s) :
    s.shown.startButton = "Stop" ↔ s.running = true ∧ s.toggled = none := by
  unfold WindowState.shown
  cases hrun : s.running with
  | false =>
      refine ⟨fun h => absurd h ?_, fun h => absurd h.1 nofun⟩
      exact radioWidgets_ne_stop _ _ _ (by decide)
  | true =>
      cases htoggled : s.toggled with
      | none => exact ⟨fun _ => ⟨rfl, rfl⟩, fun _ => rfl⟩
      | some cb =>
          refine ⟨fun h => absurd h ?_, fun h => absurd h.2 nofun⟩
          obtain ⟨-, -, hconnection⟩ := hs.toggled cb htoggled
          obtain ⟨w, hw, -⟩ := (hconnection ▸ hs.radio hrun).widgets true
          have hne := radioWidgets_ne_stop cb true .initial (by decide)
          rw [hw] at hne
          simp only [shownWidgets, hw]
          exact hne

/-- **The window over any run of the program.**  A thread is only started where there is
    none, and its handle is there exactly while its flag is set; a window that is closed
    has none.  The widgets are those of the radio button, or of a phone that is
    connected, and the button says "Stop" exactly while something runs, unless a radio
    button was toggled while only audio ran.  In landscape the settings have the flips of
    the transform. -/
theorem window_consistent {file : Option (List Char)} {es : List Event} {s : WindowState}
    (h : Run Step (.init file) es s) :
    s.lost = 0 ∧
      (s.handles.hVideoThread = s.vRunning ∧ s.handles.hDecodeThread = s.vRunning ∧
        s.handles.hAudioThread = s.aRunning ∧
        (s.handles.hBatteryThread = true → s.running = true)) ∧
      (s.isOpen = false → s.handles = .null) ∧
      (s.isOpen = true → s.widgets = s.shown ∧
        (s.widgets.startButton = "Stop" ↔ s.running = true ∧ s.toggled = none) ∧
        (s.invert = false → s.transformOp = flipsOf s.settings)) := by
  have hs := Inv.run h
  refine ⟨hs.lost, ⟨hs.video, hs.decode, hs.audio, hs.battery⟩,
    fun hclosed => hs.handles (hs.closed hclosed), fun hopen => ?_⟩
  have hshown := hs.shown hopen
  refine ⟨hshown, ?_, (hs.chosen hopen).flips⟩
  rw [hshown]
  exact shown_stop_iff hs

/-- Audio and video, a flip, and then audio alone, with a radio button toggled while it
    runs. -/
def twoConnections : List Event :=
  let wifi : StartAnswers := ⟨4747, "192.168.0.7".toList, 0, 0, true⟩
  [.launch none (some (640, 480)), .audio true, .button wifi, .prepared, .flip true false,
    .flip false false, .flip false false, .radio CB_RADIO_ADB, .button wifi,
    .radio CB_RADIO_WIFI, .video false, .button wifi, .radio CB_WIFI_SRVR]

def WindowState.view (s : WindowState) : String × Handles × TjxOp × Option Int32 :=
  (s.widgets.startButton, s.handles, s.transformOp, s.toggled)

theorem window_consistent_twoConnections : ∃ s, Run Step (.init none) twoConnections s ∧
    s.view = ("Prepare", ⟨false, false, true, true⟩, .hflip, some CB_WIFI_SRVR) ∧ s.lost = 0 := by
  obtain ⟨s, hrun, hview⟩ := Option.map_eq_some_iff.mp
    (by decide +kernel : (execute windowNext (.init none) twoConnections).map WindowState.view =
      some ("Prepare", ⟨false, false, true, true⟩, .hflip, some CB_WIFI_SRVR))
  have hrun := Run.of_execute hrun
  exact ⟨s, hrun, hview, (window_consistent hrun).1⟩

/-- **The program started again.**  After a run that could write its settings, a start
    without `-size` finds them: the window shows their radio button, and where neither
    device is in portrait the picture is flipped as it was. -/
theorem restart_keeps {file : Option (List Char)} {es : List Event} {s : WindowState}
    {c : Session} (h : Run Step (.init file) es s) (hclosed : s.isOpen = false)
    (hsaved : s.saved = some c) (hc : Storable c.settings) {webcamW webcamH : Nat} :
    ∃ t, Step s (.launch none (some (webcamW, webcamH))) t ∧ t.isOpen = true ∧
      SameSaved c.settings t.settings ∧
      t.widgets = (radioWidgets c.settings.connection false).getD .initial ∧
      (c.invert = false → webcamH ≤ webcamW → t.transformOp = c.transformOp) := by
  have hs := Inv.run h
  obtain ⟨hfile, hchosen⟩ := hs.saved c hsaved
  have hsame : SameSaved c.settings (launchSettings s.file none) := by
    rw [hfile]
    exact (reload hc).1
  have hpos : 0 ≤ (launchSettings s.file none).connection := hsame.connection ▸ hchosen.connection
  refine ⟨s.launch none (some (webcamW, webcamH)), ?_, ?_⟩
  · show windowNext _ _ = _
    simp only [windowNext, hclosed, Int32.not_lt.mpr hpos, Bool.false_eq_true, if_false]
  have haudio : IsBit (launchSettings s.file none).audio := hsame.audio ▸ hchosen.audio
  have hvideo : IsBit (launchSettings s.file none).video := hsame.video ▸ hchosen.video
  rw [launch_eq (hs.closed hclosed) hpos, checkedSettings_eq haudio hvideo]
  refine ⟨rfl, hsame, ?widgets, fun hinvert _ => ?flips⟩
  case widgets =>
    show (radioWidgets (launchSettings s.file none).connection false).getD .initial = _
    rw [hsame.connection]
  case flips =>
    rw [hchosen.flips hinvert]
    show flipsOf (launchSettings s.file none) = _
    rw [flipsOf, hsame.horizontalFlip, hsame.verticalFlip, flipsOf]

/-- The window is closed while it runs, the file is written, and a start without a usable
    device comes in between. -/
def closing : List Event :=
  twoConnections ++ [.close true true, .close false true, .launch none none]

/-- What `Storable` asks for, and the transform. -/
structure SessionView where
  ip : List Char
  width : UInt32
  height : UInt32
  invert : Bool
  transformOp : TjxOp
deriving DecidableEq

def Session.view (c : Session) : SessionView :=
  ⟨c.settings.ipString, c.settings.v4l2Width, c.settings.v4l2Height, c.invert, c.transformOp⟩

theorem restart_keeps_closing : ∃ s c, Run Step (.init none) closing s ∧ s.saved = some c ∧
    c.settings.ipString = "192.168.0.7".toList ∧
    ∃ t, Step s (.launch none (some (1280, 720))) t ∧ t.isOpen = true ∧
      t.settings.ipString = "192.168.0.7".toList ∧ t.transformOp = .hflip := by
  obtain ⟨s, hrun, hview⟩ := Option.map_eq_some_iff.mp
    (by decide +kernel : (execute windowNext (.init none) closing).map
        (fun s => (s.isOpen, s.saved.map Session.view)) =
      some (false, some ⟨"192.168.0.7".toList, 640, 480, false, .hflip⟩))
  have hrun := Run.of_execute hrun
  obtain ⟨hclosed, hsaved⟩ := Prod.ext_iff.mp hview
  obtain ⟨c, hc, hsession⟩ := Option.map_eq_some_iff.mp hsaved
  simp only [Session.view, SessionView.mk.injEq] at hsession
  obtain ⟨hip, hwidth, hheight, hinvert, hop⟩ := hsession
  have hstorable : Storable c.settings := by
    refine ⟨?_, ?_, ?_, ?_⟩
    · rw [hip]
      exact plain_of_all (by decide +kernel)
    · rw [hip]
      decide
    · rw [hwidth]
      decide
    · rw [hheight]
      decide
  obtain ⟨t, ht, hopen, hsame, -, hflips⟩ := restart_keeps hrun hclosed hc hstorable
  exact ⟨s, c, hrun, hc, hip, t, ht, hopen, hsame.ip.trans hip,
    (hflips hinvert (by decide)).trans hop⟩

end DroidCam.Window
