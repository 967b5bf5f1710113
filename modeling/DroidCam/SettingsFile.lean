import DroidCam.Lib.Scanf

/-
  DroidCam/SettingsFile.lean
  ==========================
  The settings file.

  `LoadSettings` reads three formats: the address copied from a line and numbers in
  a fixed order (versions 1 to 3), and lines with keys in any order (version 4).
  `SaveSettings` writes version 4.  A file is the list of its characters, and
  `none` where it cannot be opened.

  A version 4 line is taken by the first pattern that matches it.  No key is the
  start of another, so a line that starts with a key is taken by its pattern or by
  none (`firstMatch_eq`).
-/

namespace DroidCam.SettingsFile

open CString Scanf

/-! ### `struct settings` -/

def CB_RADIO_WIFI : Int32 := 0

structure Settings where
  ip : CharArray 16
  port : Int32
  audio : Int32
  video : Int32
  encoder : Int32
  connection : Int32
  v4l2Width : UInt32
  v4l2Height : UInt32
  adbAutoStart : Int32
  confirmClose : Int32
  horizontalFlip : Int32
  verticalFlip : Int32

/-- What `LoadSettings` starts from: `memset`, and the defaults that are not 0. -/
def Settings.defaults : Settings where
  ip := CharArray.zero 16
  port := 4747
  audio := 0
  video := 1
  encoder := 0
  connection := CB_RADIO_WIFI
  v4l2Width := 640
  v4l2Height := 480
  adbAutoStart := 0
  confirmClose := 1
  horizontalFlip := 0
  verticalFlip := 0

/-- The bytes of an `int`, the lowest first. -/
def intBytes (v : UInt32) : List Char :=
  [1, 256, 65536, 16777216].map fun place => Char.ofNat (v.toNat / place % 256)

/-- The string at `ip`.  Where `ip` holds no NUL it runs on into the next members. -/
def Settings.ipString (s : Settings) : List Char :=
  cstr (s.ip.chars ++ ([s.port.toUInt32, s.audio.toUInt32, s.video.toUInt32,
    s.encoder.toUInt32, s.connection.toUInt32, s.v4l2Width, s.v4l2Height,
    s.adbAutoStart.toUInt32, s.confirmClose.toUInt32, s.horizontalFlip.toUInt32,
    s.verticalFlip.toUInt32]).flatMap intBytes)

/-- `%16s` stores a word and a NUL at `ip`.  After 16 characters the NUL is the low
    byte of `port`. -/
def Settings.storeIp (s : Settings) (w : List Char) : Settings :=
  { s with
    ip := s.ip.put (w ++ [NUL])
    port := if w.length < 16 then s.port else s.port &&& -256 }

/-- The members that are read with a single `%d`. -/
inductive Field where
  | port
  | audio
  | video
  | connection
  | adbAutoStart
  | confirmClose
  | verticalFlip
  | horizontalFlip
deriving DecidableEq, Repr

def Field.get (s : Settings) : Field → Int32
  | .port => s.port
  | .audio => s.audio
  | .video => s.video
  | .connection => s.connection
  | .adbAutoStart => s.adbAutoStart
  | .confirmClose => s.confirmClose
  | .verticalFlip => s.verticalFlip
  | .horizontalFlip => s.horizontalFlip

def Field.set (s : Settings) (v : Int32) : Field → Settings
  | .port => { s with port := v }
  | .audio => { s with audio := v }
  | .video => { s with video := v }
  | .connection => { s with connection := v }
  | .adbAutoStart => { s with adbAutoStart := v }
  | .confirmClose => { s with confirmClose := v }
  | .verticalFlip => { s with verticalFlip := v }
  | .horizontalFlip => { s with horizontalFlip := v }

@[simp] theorem Field.get_set (f : Field) (s : Settings) (v : Int32) : f.get (f.set s v) = v := by
  cases f <;> rfl

/-- A field leaves the other fields, the address and the size alone. -/
theorem Field.set_frame {f g : Field} {s : Settings} {v : Int32} (h : g ≠ f) :
    g.get (f.set s v) = g.get s := by
  cases f <;> cases g <;> first | rfl | exact absurd rfl h

@[simp] theorem Field.set_ip (f : Field) (s : Settings) (v : Int32) : (f.set s v).ip = s.ip := by
  cases f <;> rfl

theorem Field.set_size (f : Field) (s : Settings) (v : Int32) :
    (f.set s v).v4l2Width = s.v4l2Width ∧ (f.set s v).v4l2Height = s.v4l2Height := by
  cases f <;> exact ⟨rfl, rfl⟩

@[simp] theorem Field.get_ip (f : Field) (s : Settings) (ip : CharArray 16) :
    f.get { s with ip } = f.get s := by
  cases f <;> rfl

@[simp] theorem Field.get_size (f : Field) (s : Settings) (w h : UInt32) :
    f.get { s with v4l2Width := w, v4l2Height := h } = f.get s := by
  cases f <;> rfl

/-! ### Version 4 lines

`sscanf` on a whole line stands for the choice of the key and for the reading of its
value. -/

inductive Pattern where
  | ip
  | int (f : Field)
  | size
deriving DecidableEq, Repr

/-- The characters before the first conversion. -/
def Pattern.key : Pattern → List Char
  | .ip => ['i', 'p', '=']
  | .int .port => ['p', 'o', 'r', 't', '=']
  | .int .audio => ['a', 'u', 'd', 'i', 'o', '=']
  | .int .video => ['v', 'i', 'd', 'e', 'o', '=']
  | .size => ['s', 'i', 'z', 'e', '=']
  | .int .connection => ['t', 'y', 'p', 'e', '=']
  | .int .adbAutoStart =>
      ['a', 'd', 'b', '_', 'a', 'u', 't', 'o', '_', 's', 't', 'a', 'r', 't', '=']
  | .int .confirmClose => ['c', 'o', 'n', 'f', 'i', 'r', 'm', '_', 'c', 'l', 'o', 's', 'e', '=']
  | .int .verticalFlip => ['v', 'e', 'r', 't', 'i', 'c', 'a', 'l', '_', 'f', 'l', 'i', 'p', '=']
  | .int .horizontalFlip =>
      ['h', 'o', 'r', 'i', 'z', 'o', 'n', 't', 'a', 'l', '_', 'f', 'l', 'i', 'p', '=']

/-- The patterns in the order in which they are tried. -/
def patterns : List Pattern :=
  [.ip, .int .port, .int .audio, .int .video, .size, .int .connection, .int .adbAutoStart,
    .int .confirmClose, .int .verticalFlip, .int .horizontalFlip]

/-- What a line assigns if the pattern takes it. -/
def Pattern.take (p : Pattern) (buf : List Char) : Option (Settings → Settings) :=
  match p with
  | .ip =>
      match sscanf (lits p.key ++ [.word 16, .space]) buf with
      | [.word w] => some fun s => s.storeIp w
      | _ => none
  | .int f =>
      match sscanf (lits p.key ++ [.int, .space]) buf with
      | [.int v] => some fun s => f.set s v
      | _ => none
  | .size =>
      match sscanf (lits p.key ++ [.int, .lit 'x', .int, .space]) buf with
      | [.int arg1, .int arg2] =>
          if 0 < arg1 ∧ 0 < arg2 then
            some fun s => { s with v4l2Width := arg1.toUInt32, v4l2Height := arg2.toUInt32 }
          else none
      | _ => none

/-- The chain of `if (.. sscanf ..) continue`. -/
def loadLine (s : Settings) (buf : List Char) : Settings :=
  match patterns.findSome? fun p => p.take buf with
  | some assign => assign s
  | none => s

/-! ### `LoadSettings`

The versions 1 to 3 are read line by line in a fixed order, version 4 in any order. -/

/-- The size of `buf`. -/
def BUF_SIZE : Nat := 512

/-- `if (fgets(buf, sizeof(buf), fp)) read(settings, buf)`. -/
def withLine (read : Settings → List Char → Settings) (r : Settings × List Char) :
    Settings × List Char :=
  match fgets BUF_SIZE r.2 with
  | none => r
  | some (buf, fp) => (read r.1 (cstr buf), fp)

/-- The address line of versions 1 to 3. -/
def copyIp (s : Settings) (buf : List Char) : Settings :=
  { s with ip := (s.ip.strncpy buf 15).set 15 NUL }

/-- `settings->port = strtoul(buf, NULL, 10)`. -/
def readPort (s : Settings) (buf : List Char) : Settings :=
  { s with port := (strtoul buf).toInt64.toInt32 }

/-- `sscanf(buf, "%d", &field)`. -/
def readField (f : Field) (s : Settings) (buf : List Char) : Settings :=
  match sscanf [.int] buf with
  | [.int v] => f.set s v
  | _ => s

def loadV1 (s : Settings) (fp : List Char) : Settings :=
  (withLine readPort (withLine copyIp (s, fp))).1

/-- Versions 2 and 3, which differ in the line of `video`. -/
def loadV2 (version : Int32) (s : Settings) (fp : List Char) : Settings :=
  let r := withLine (readField .audio) (withLine (readField .port) (withLine copyIp (s, fp)))
  let r := if version = 3 then withLine (readField .video) r else r
  (withLine (readField .connection) r).1

def loadV4 (s : Settings) (fp : List Char) : Settings :=
  (allLines BUF_SIZE fp).foldl (fun s buf => loadLine s (cstr buf)) s

def loadVersion (version : Int32) (s : Settings) (fp : List Char) : Settings :=
  if version = 1 then loadV1 s fp
  else if version = 2 ∨ version = 3 then loadV2 version s fp
  else if version = 4 then loadV4 s fp
  else s

/-- `sscanf(buf, "v%d", &version)`, with 0 where nothing is assigned. -/
def readVersion (buf : List Char) : Int32 :=
  match sscanf (lits ['v'] ++ [.int]) buf with
  | [.int version] => version
  | _ => 0

def loadSettings (fp : Option (List Char)) : Settings :=
  match fp with
  | none => Settings.defaults
  | some fp =>
      match fgets BUF_SIZE fp with
      | none => Settings.defaults
      | some (buf, fp) => loadVersion (readVersion (cstr buf)) Settings.defaults fp

/-! ### `SaveSettings` -/

/-- The lines of the format, without their newlines. -/
def savedLines (s : Settings) : List (List Char) :=
  ['v' :: printInt 4,
    Pattern.ip.key ++ s.ipString,
    (Pattern.int .port).key ++ printInt s.port,
    (Pattern.int .audio).key ++ printInt s.audio,
    (Pattern.int .video).key ++ printInt s.video,
    Pattern.size.key ++ printInt s.v4l2Width.toInt32 ++ 'x' :: printInt s.v4l2Height.toInt32,
    -- TODO in the source: adb_auto_start
    (Pattern.int .confirmClose).key ++ printInt s.confirmClose,
    (Pattern.int .verticalFlip).key ++ printInt s.verticalFlip,
    (Pattern.int .horizontalFlip).key ++ printInt s.horizontalFlip,
    (Pattern.int .connection).key ++ printInt s.connection]

def saveSettings (s : Settings) : List Char := (savedLines s).flatMap (· ++ ['\n'])

/-! ### One line, one pattern

The order of the patterns does not matter, as no key is the start of another. -/

theorem mem_patterns (p : Pattern) : p ∈ patterns := by
  cases p with
  | ip | size => decide
  | int f => cases f <;> decide

/-- No key is the start of another. -/
theorem key_prefix_free : ∀ p ∈ patterns, ∀ q ∈ patterns, q.key <+: p.key → q = p := by
  decide

/-- A line that does not start with the key is not taken. -/
theorem take_of_not_prefix {p : Pattern} {buf : List Char} (h : ¬ p.key <+: buf) :
    p.take buf = none := by
  cases p with
  | ip | int | size => rw [Pattern.take, sscanf_lits_of_not_prefix h]

/-- A line starts with one key at most. -/
theorem key_unique {p q : Pattern} {buf : List Char} (hp : p.key <+: buf) (hq : q.key <+: buf) :
    q = p := by
  rcases List.prefix_or_prefix_of_prefix hq hp with hqp | hpq
  · exact key_prefix_free p (mem_patterns p) q (mem_patterns q) hqp
  · exact (key_prefix_free q (mem_patterns q) p (mem_patterns p) hpq).symm

/-- **A line that starts with a key** is taken by the pattern of the key or by none. -/
theorem firstMatch_eq {p : Pattern} {buf : List Char} (h : p.key <+: buf) :
    (patterns.findSome? fun q => q.take buf) = p.take buf := by
  refine findSome?_of_unique (mem_patterns p) fun q hq hne => ?_
  apply take_of_not_prefix
  intro hpre
  exact hne (key_unique h hpre)

end DroidCam.SettingsFile
