import DroidCam.Lib.CString
import Mathlib.Data.List.Infix

/-
  DroidCam/AdbDevices.lean
  ========================
  `CheckAdbDevices`: what it makes of the text of `adb devices`.

  The text is a header and one line for each device, with its serial number, a tab
  and its state.  The scan does not take lines apart: it looks for words anywhere
  in what `fgets` returns, and the first that it finds decides.
-/

namespace DroidCam.AdbDevices

open CString

/-! ### `CheckAdbDevices` -/

def NO_ERROR : Int := 0

def ERROR_NO_DEVICES : Int := -1

def ERROR_LOADING_DEVICES : Int := -2

def ERROR_ADDING_FORWARD : Int := -3

def ERROR_DEVICE_OFFLINE : Int := -4

def ERROR_DEVICE_NOTAUTH : Int := -5

/-- The size of `buf`. -/
def BUF_SIZE : Nat := 256

/-- A program that is started. -/
inductive Command where
  | startServer
  | devices
  | killServer
  | forward (port : Int)
deriving DecidableEq, Repr

/-- What the commands of `adb` give: the results of `system`, and the output of
    `adb devices` where `popen` succeeds. -/
structure Adb where
  startServer : Int
  devices : Option (List Char)
  forward : Int

/-- `WEXITSTATUS`. -/
def wexitstatus (rc : Int) : Int := rc / 256 % 256

/-- `strstr(buf, word) != NULL`. -/
def strstr (buf : List Char) (word : String) : Bool := decide (word.toList <:+: buf)

/-- One turn of the loop: the code with which it ends, if it does. -/
def scanLine (buf : List Char) : Option Int :=
  if strstr buf "List of" then none
  else if strstr buf "offline" then some ERROR_DEVICE_OFFLINE
  else if strstr buf "unauthorized" then some ERROR_DEVICE_NOTAUTH
  else if strstr buf "device" ∧ strstr buf "??" = false then some NO_ERROR
  else none

/-- The loop over the lines, as far as they fit into `buf`. -/
def scanDevices (out : List Char) : Int :=
  ((allLines BUF_SIZE out).findSome? fun buf => scanLine (cstr buf)).getD ERROR_NO_DEVICES

structure Checked where
  rc : Int
  commands : List Command
deriving DecidableEq, Repr

/-- From the label `EXIT` on. -/
def addForward (adb : Adb) (port : Int) (c : Checked) : Checked :=
  if c.rc = NO_ERROR then
    { rc := if wexitstatus adb.forward ≠ 0 then ERROR_ADDING_FORWARD else adb.forward
      commands := c.commands ++ [.forward port] }
  else c

def checkAdbDevices (adb : Adb) (port : Int) : Checked :=
  addForward adb port <|
    if wexitstatus adb.startServer ≠ 0 then ⟨ERROR_LOADING_DEVICES, [.startServer]⟩
    else
      match adb.devices with
      | none => ⟨ERROR_LOADING_DEVICES, [.startServer, .devices]⟩
      | some out =>
          { rc := scanDevices out
            commands := [.startServer, .devices] ++
              if scanDevices out = ERROR_DEVICE_OFFLINE then [.killServer] else [] }

/-! ### The listing -/

/-- The line of a device.  What is said about a state belongs to it. -/
structure AdbDevice where
  serial : List Char
  state : List Char
  serial_plain : '\n' ∉ serial ∧ '\t' ∉ serial
  state_plain : '\n' ∉ state

def AdbDevice.line (d : AdbDevice) : List Char := d.serial ++ '\t' :: d.state

def AdbDevice.Ready (d : AdbDevice) : Prop := d.state = "device".toList

instance (d : AdbDevice) : Decidable d.Ready := inferInstanceAs (Decidable (_ = _))

def AdbDevice.Offline (d : AdbDevice) : Prop := "offline".toList <+: d.state

def AdbDevice.Unauthorized (d : AdbDevice) : Prop := "unauthorized".toList <+: d.state

instance (d : AdbDevice) : Decidable d.Offline := inferInstanceAs (Decidable (_ <+: _))

instance (d : AdbDevice) : Decidable d.Unauthorized := inferInstanceAs (Decidable (_ <+: _))

/-- The code for a device that cannot be used. -/
def AdbDevice.errorCode (d : AdbDevice) : Int :=
  if d.Offline then ERROR_DEVICE_OFFLINE
  else if d.Unauthorized then ERROR_DEVICE_NOTAUTH
  else ERROR_NO_DEVICES

/-- What `adb devices` prints, messages of the daemon first. -/
structure Listing where
  messages : List (List Char)
  devices : List AdbDevice
  messages_plain : ∀ m ∈ messages, '\n' ∉ m

def Listing.lines (x : Listing) : List (List Char) :=
  x.messages ++ "List of devices attached".toList :: x.devices.map AdbDevice.line

def Listing.text (x : Listing) : List Char := x.lines.flatMap (· ++ ['\n'])

def Listing.HasDevice (x : Listing) : Prop := ∃ d ∈ x.devices, d.Ready

/-- `adb forward` is run for a usable device; without one the code is that of a state
    in the list. -/
structure FollowsListing (x : Listing) (c : Checked) : Prop where
  forward : (∃ port, Command.forward port ∈ c.commands) ↔ x.HasDevice
  error : ¬ x.HasDevice →
    (x.devices = [] ∧ c.rc = ERROR_NO_DEVICES) ∨ ∃ d ∈ x.devices, c.rc = d.errorCode

/-! ### Words -/

/-- The line has one of the words and is not the header. -/
def Speaks (buf : List Char) : Bool :=
  strstr buf "List of" = false ∧ (strstr buf "offline" ∨ strstr buf "unauthorized" ∨
    (strstr buf "device" ∧ strstr buf "??" = false))

/-- What is read of the lines of the listing, one line after the other. -/
def Listing.pieces (x : Listing) : List (List Char) :=
  (x.lines.flatMap fun l => allLines BUF_SIZE (l ++ ['\n'])).map cstr

/-- The first piece of the listing that has one of the words is about a usable device
    where there is one; else it is about a device in the list, or there is none such
    piece and no device whose state has a code of its own. -/
structure ReadsRight (x : Listing) : Prop where
  device : x.HasDevice → ∃ b, x.pieces.find? Speaks = some b ∧
    strstr b "offline" = false ∧ strstr b "unauthorized" = false
  other : ¬ x.HasDevice →
    (∃ b, x.pieces.find? Speaks = some b ∧ strstr b "offline" = true ∧
      ∃ d ∈ x.devices, d.Offline) ∨
    (∃ b, x.pieces.find? Speaks = some b ∧ strstr b "offline" = false ∧
      strstr b "unauthorized" = true ∧ ∃ d ∈ x.devices, ¬ d.Offline ∧ d.Unauthorized) ∨
    (x.pieces.find? Speaks = none ∧
      (x.devices = [] ∨ ∃ d ∈ x.devices, ¬ d.Offline ∧ ¬ d.Unauthorized))

/-! ### The scan

`fgets` hands the scan pieces of at most 255 characters, not lines, so a serial is read
with the same eyes as a state. -/

theorem AdbDevice.line_plain (d : AdbDevice) : '\n' ∉ d.line := by
  simp [AdbDevice.line, d.serial_plain.1, d.state_plain]

theorem Listing.lines_plain (x : Listing) : ∀ l ∈ x.lines, '\n' ∉ l := by
  intro l hl
  rcases List.mem_append.mp hl with hmessage | hl
  · exact x.messages_plain l hmessage
  · rcases List.mem_cons.mp hl with rfl | hdevice
    · decide
    · obtain ⟨d, -, rfl⟩ := List.mem_map.mp hdevice
      exact d.line_plain

theorem scanLine_isSome (buf : List Char) : (scanLine buf).isSome = Speaks buf := by
  cases hheader : strstr buf "List of" <;> cases hoffline : strstr buf "offline" <;>
    cases hunauthorized : strstr buf "unauthorized" <;>
      by_cases hdevice : strstr buf "device" ∧ strstr buf "??" = false <;>
        simp [scanLine, Speaks, hheader, hoffline, hunauthorized, hdevice]

/-- A search with a result for each element that is looked for. -/
theorem findSome?_eq_find?_bind {α β : Type} {f : α → Option β} {p : α → Bool}
    (h : ∀ x, (f x).isSome = p x) (l : List α) : l.findSome? f = (l.find? p).bind f := by
  induction l with
  | nil => rfl
  | cons x l ih =>
      have hx := h x
      rw [List.findSome?_cons, List.find?_cons]
      cases hf : f x with
      | none =>
          rw [hf] at hx
          rw [← hx]
          exact ih
      | some b =>
          rw [hf] at hx
          rw [← hx]
          exact hf.symm

theorem scanDevices_eq (x : Listing) :
    scanDevices x.text = ((x.pieces.find? Speaks).bind scanLine).getD ERROR_NO_DEVICES := by
  rw [← findSome?_eq_find?_bind scanLine_isSome, Listing.pieces, List.findSome?_map,
    ← allLines_lines (by decide) x.lines_plain]
  rfl

/-- How the scan ends. -/
inductive ScanMove (x : Listing) : Int → Prop
  | silent (hfirst : x.pieces.find? Speaks = none) : ScanMove x ERROR_NO_DEVICES
  | offline (b : List Char) (hfirst : x.pieces.find? Speaks = some b)
      (hoffline : strstr b "offline" = true) : ScanMove x ERROR_DEVICE_OFFLINE
  | unauthorized (b : List Char) (hfirst : x.pieces.find? Speaks = some b)
      (hoffline : strstr b "offline" = false) (hunauthorized : strstr b "unauthorized" = true) :
      ScanMove x ERROR_DEVICE_NOTAUTH
  | device (b : List Char) (hfirst : x.pieces.find? Speaks = some b)
      (hoffline : strstr b "offline" = false) (hunauthorized : strstr b "unauthorized" = false) :
      ScanMove x NO_ERROR

theorem scanDevices_move (x : Listing) : ScanMove x (scanDevices x.text) := by
  rw [scanDevices_eq]
  cases hfirst : x.pieces.find? Speaks with
  | none => exact .silent hfirst
  | some b =>
      have hspeaks : Speaks b = true := List.find?_some hfirst
      simp only [Speaks, decide_eq_true_eq] at hspeaks
      obtain ⟨hheader, hword⟩ := hspeaks
      rw [Option.bind_some, scanLine, if_neg (by simp [hheader])]
      cases hoffline : strstr b "offline" with
      | true => exact .offline b hfirst hoffline
      | false =>
          cases hunauthorized : strstr b "unauthorized" with
          | true => exact .unauthorized b hfirst hoffline hunauthorized
          | false =>
              have hdevice : strstr b "device" = true ∧ strstr b "??" = false := by
                simpa [hoffline, hunauthorized] using hword
              rw [if_neg (by simp), if_neg (by simp), if_pos hdevice]
              exact .device b hfirst hoffline hunauthorized

/-! ### The result

Where no device is ready, a right code is one of three, and each of them comes from one
way the scan can end. -/

theorem AdbDevice.errorCode_spec (d : AdbDevice) :
    (d.errorCode = ERROR_DEVICE_OFFLINE ↔ d.Offline) ∧
    (d.errorCode = ERROR_DEVICE_NOTAUTH ↔ ¬ d.Offline ∧ d.Unauthorized) ∧
    (d.errorCode = ERROR_NO_DEVICES ↔ ¬ d.Offline ∧ ¬ d.Unauthorized) := by
  unfold AdbDevice.errorCode
  by_cases hoffline : d.Offline
  · simp [hoffline, ERROR_DEVICE_OFFLINE, ERROR_DEVICE_NOTAUTH, ERROR_NO_DEVICES]
  · by_cases hunauthorized : d.Unauthorized <;>
      simp [hoffline, hunauthorized, ERROR_DEVICE_OFFLINE, ERROR_DEVICE_NOTAUTH, ERROR_NO_DEVICES]

theorem AdbDevice.errorCode_ne (d : AdbDevice) : d.errorCode ≠ NO_ERROR := by
  unfold AdbDevice.errorCode
  split_ifs <;> decide

theorem checkAdbDevices_eq {adb : Adb} {x : Listing} (port : Int)
    (hstart : wexitstatus adb.startServer = 0) (hdevices : adb.devices = some x.text) :
    ((∃ p, Command.forward p ∈ (checkAdbDevices adb port).commands) ↔
      scanDevices x.text = NO_ERROR) ∧
    (scanDevices x.text ≠ NO_ERROR → (checkAdbDevices adb port).rc = scanDevices x.text) := by
  rw [checkAdbDevices, if_neg (by simp [hstart]), hdevices]
  by_cases hscan : scanDevices x.text = NO_ERROR
  · simp [addForward, hscan]
  · refine ⟨?_, fun _ => by simp [addForward, hscan]⟩
    simp only [addForward, hscan, if_false, iff_false]
    rintro ⟨p, hp⟩
    by_cases hoffline : scanDevices x.text = ERROR_DEVICE_OFFLINE <;> simp [hoffline] at hp

/-- Each code stands for what the first piece with a word says. -/
theorem ScanMove.spec {x : Listing} {rc : Int} (h : ScanMove x rc) :
    (rc = NO_ERROR ↔ ∃ b, x.pieces.find? Speaks = some b ∧
      strstr b "offline" = false ∧ strstr b "unauthorized" = false) ∧
    (rc = ERROR_DEVICE_OFFLINE ↔ ∃ b, x.pieces.find? Speaks = some b ∧
      strstr b "offline" = true) ∧
    (rc = ERROR_DEVICE_NOTAUTH ↔ ∃ b, x.pieces.find? Speaks = some b ∧
      strstr b "offline" = false ∧ strstr b "unauthorized" = true) ∧
    (rc = ERROR_NO_DEVICES ↔ x.pieces.find? Speaks = none) := by
  cases h with
  | silent hfirst =>
      simp [hfirst, NO_ERROR, ERROR_DEVICE_OFFLINE, ERROR_DEVICE_NOTAUTH, ERROR_NO_DEVICES]
  | offline b hfirst hoffline =>
      simp [hfirst, hoffline, NO_ERROR, ERROR_DEVICE_OFFLINE, ERROR_DEVICE_NOTAUTH,
        ERROR_NO_DEVICES]
  | unauthorized b hfirst hoffline hunauthorized =>
      simp [hfirst, hoffline, hunauthorized, NO_ERROR, ERROR_DEVICE_OFFLINE,
        ERROR_DEVICE_NOTAUTH, ERROR_NO_DEVICES]
  | device b hfirst hoffline hunauthorized =>
      simp [hfirst, hoffline, hunauthorized, NO_ERROR, ERROR_DEVICE_OFFLINE,
        ERROR_DEVICE_NOTAUTH, ERROR_NO_DEVICES]

/-- The code tells the state of a device, or that there is none. -/
def Told (x : Listing) (rc : Int) : Prop :=
  (x.devices = [] ∧ rc = ERROR_NO_DEVICES) ∨ ∃ d ∈ x.devices, rc = d.errorCode

theorem Told.ne_noError {x : Listing} {rc : Int} (h : Told x rc) : rc ≠ NO_ERROR := by
  rcases h with ⟨-, rfl⟩ | ⟨d, -, rfl⟩
  · decide
  · exact d.errorCode_ne

/-- What a code tells, state by state. -/
-- the header and the quiet lines have no word, the first of the others decides
theorem told_iff {x : Listing} {rc : Int} :
    Told x rc ↔
      (rc = ERROR_DEVICE_OFFLINE ∧ ∃ d ∈ x.devices, d.Offline) ∨
      (rc = ERROR_DEVICE_NOTAUTH ∧ ∃ d ∈ x.devices, ¬ d.Offline ∧ d.Unauthorized) ∨
      (rc = ERROR_NO_DEVICES ∧
        (x.devices = [] ∨ ∃ d ∈ x.devices, ¬ d.Offline ∧ ¬ d.Unauthorized)) := by
  constructor
  · rintro (⟨hempty, hrc⟩ | ⟨d, hd, hrc⟩)
    · exact Or.inr (Or.inr ⟨hrc, Or.inl hempty⟩)
    · by_cases hoffline : d.Offline
      · exact Or.inl ⟨hrc.trans (d.errorCode_spec.1.mpr hoffline), d, hd, hoffline⟩
      · by_cases hunauthorized : d.Unauthorized
        · exact Or.inr (Or.inl ⟨hrc.trans (d.errorCode_spec.2.1.mpr ⟨hoffline, hunauthorized⟩),
            d, hd, hoffline, hunauthorized⟩)
        · exact Or.inr (Or.inr ⟨hrc.trans (d.errorCode_spec.2.2.mpr ⟨hoffline, hunauthorized⟩),
            Or.inr ⟨d, hd, hoffline, hunauthorized⟩⟩)
  · rintro (⟨hrc, d, hd, hstate⟩ | ⟨hrc, d, hd, hstate⟩ | ⟨hrc, hempty | ⟨d, hd, hstate⟩⟩)
    · exact Or.inr ⟨d, hd, hrc.trans (d.errorCode_spec.1.mpr hstate).symm⟩
    · exact Or.inr ⟨d, hd, hrc.trans (d.errorCode_spec.2.1.mpr hstate).symm⟩
    · exact Or.inl ⟨hempty, hrc⟩
    · exact Or.inr ⟨d, hd, hrc.trans (d.errorCode_spec.2.2.mpr hstate).symm⟩

/-- What is read of a listing without a usable device tells of it exactly where
    the code does. -/
theorem ScanMove.told_iff {x : Listing} {rc : Int} (h : ScanMove x rc) :
    Told x rc ↔
      (∃ b, x.pieces.find? Speaks = some b ∧ strstr b "offline" = true ∧
        ∃ d ∈ x.devices, d.Offline) ∨
      (∃ b, x.pieces.find? Speaks = some b ∧ strstr b "offline" = false ∧
        strstr b "unauthorized" = true ∧ ∃ d ∈ x.devices, ¬ d.Offline ∧ d.Unauthorized) ∨
      (x.pieces.find? Speaks = none ∧
        (x.devices = [] ∨ ∃ d ∈ x.devices, ¬ d.Offline ∧ ¬ d.Unauthorized)) := by
  obtain ⟨-, hoffline, hunauthorized, hsilent⟩ := h.spec
  rw [AdbDevices.told_iff, hoffline, hunauthorized, hsilent]
  simp only [exists_and_right, ← and_assoc]

/-- **When `CheckAdbDevices` follows the listing**, for every listing. -/
theorem follows_listing_iff {adb : Adb} {x : Listing} (port : Int)
    (hstart : wexitstatus adb.startServer = 0) (hdevices : adb.devices = some x.text) :
    FollowsListing x (checkAdbDevices adb port) ↔ ReadsRight x := by
  obtain ⟨hforward, hrc⟩ := checkAdbDevices_eq port hstart hdevices
  have hmove := scanDevices_move x
  generalize scanDevices x.text = rc at hforward hrc hmove
  constructor
  · intro h
    constructor
    · intro hdevice
      exact hmove.spec.1.mp (hforward.mp (h.forward.mpr hdevice))
    · intro hnone
      have hscan : rc ≠ NO_ERROR := fun hscan => hnone (h.forward.mp (hforward.mpr hscan))
      have htold : Told x rc := hrc hscan ▸ h.error hnone
      exact hmove.told_iff.mp htold
  · intro h
    constructor
    · constructor
      · intro hrun
        -- a forward is run for a piece that looks ready; without a device that is wrong
        by_contra hnone
        exact (hmove.told_iff.mpr (h.other hnone)).ne_noError (hforward.mp hrun)
      · intro hdevice
        exact hforward.mpr (hmove.spec.1.mpr (h.device hdevice))
    · intro hnone
      have htold : Told x rc := hmove.told_iff.mpr (h.other hnone)
      rw [hrc htold.ne_noError]
      exact htold

/-- A device with this serial number and state. -/
def adbDevice (serial state : String) (hserial : '\n' ∉ serial.toList ∧ '\t' ∉ serial.toList)
    (hstate : '\n' ∉ state.toList) : AdbDevice := ⟨serial.toList, state.toList, hserial, hstate⟩

def listingOf (devices : List AdbDevice) : Listing := ⟨[], devices, by simp⟩

def workingAdb (x : Listing) : Adb := ⟨0, some x.text, 0⟩

/-- A device that may be used, before one that is offline. -/
theorem follows_listing_iff_first :
    FollowsListing (listingOf [adbDevice "emulator-5554" "device" (by decide) (by decide),
        adbDevice "0a388e93" "offline" (by decide) (by decide)])
      (checkAdbDevices (workingAdb (listingOf
        [adbDevice "emulator-5554" "device" (by decide) (by decide),
          adbDevice "0a388e93" "offline" (by decide) (by decide)])) 4747) := by
  refine (follows_listing_iff 4747 rfl rfl).mpr ⟨fun _ => ?_, fun hnone => ?_⟩
  · exact ⟨"emulator-5554\tdevice\n".toList, by decide +kernel, by decide +kernel,
      by decide +kernel⟩
  · exact absurd ⟨_, List.mem_cons_self, rfl⟩ hnone

/-- The text about a device without permissions names a web page for developers of
    devices: the port of a device that cannot be used is forwarded. -/
theorem forward_without_device :
    ¬ ∀ (adb : Adb) (x : Listing) (port : Int), wexitstatus adb.startServer = 0 →
      adb.devices = some x.text → FollowsListing x (checkAdbDevices adb port) := by
  intro h
  let x := listingOf [adbDevice "0a388e93"
    "no permissions; see [http://developer.android.com/tools/device.html]" (by decide) (by decide)]
  have hrun : Command.forward 4747 ∈ (checkAdbDevices (workingAdb x) 4747).commands := by
    decide +kernel
  obtain ⟨d, hd, hready⟩ := (h (workingAdb x) x 4747 rfl rfl).forward.mp ⟨4747, hrun⟩
  rw [List.mem_singleton.mp hd] at hready
  exact absurd hready (by decide)

end DroidCam.AdbDevices
