import DroidCam.SettingsRoundTrip

/-
  DroidCam/SettingsMigration.lean
  ===============================
  Files of every version, loaded and saved as version 4.

  Versions 1 to 3 copy the address with the end of its line, so `ip` is the address
  exactly when it has the 15 characters that leave no room for the newline.  A
  version 4 file keeps everything but an address for which `ip` has no room, and
  `adb_auto_start`, which is read and never written.

  A number is read into an `int`, so one beyond it is lost in every version.  The
  files may give a member twice, and then it must be the same value.
-/

namespace DroidCam.SettingsFile

open CString Scanf

/-! ### Files -/

/-- An address that fits in `ip` with its NUL. -/
structure Address extends Word where
  length_le : chars.length ≤ 15

/-- A line that holds an address. -/
structure AddressLine extends Address where
  pad : Blanks
  fits : (chars ++ pad.chars).length + 1 < BUF_SIZE

def AddressLine.line (a : AddressLine) : List Char := a.chars ++ a.pad.chars

/-- A line that holds a number. -/
structure NumberLine extends Number where
  pad : Blanks
  fits : (text ++ pad.chars).length + 1 < BUF_SIZE

def NumberLine.line (d : NumberLine) : List Char := d.text ++ d.pad.chars

/-- What follows the last number of versions 1 to 3: the file ends, or the line does and
    nothing reads the rest. -/
structure Ending where
  chars : List Char
  starts : chars = [] ∨ ∃ tail, chars = '\n' :: tail

/-- The files of the four layouts. -/
inductive ConfigFile where
  | v1 (version : VersionLine 1) (ip : AddressLine) (port : NumberLine) (ending : Ending)
  | v2 (version : VersionLine 2) (ip : AddressLine) (port audio connection : NumberLine)
      (ending : Ending)
  | v3 (version : VersionLine 3) (ip : AddressLine) (port audio video connection : NumberLine)
      (ending : Ending)
  | v4 (version : VersionLine 4) (es : List Entry) (last : Option Entry)
      (hfits : ∀ e ∈ es ++ last.toList, e.Fits)

/-- A file of versions 1 to 3: the version, these lines, and the last one. -/
def positional {version : Int32} (v : VersionLine version) (lines : List (List Char))
    (last : List Char) (ending : Ending) : List Char :=
  v.line ++ '\n' :: (lines.flatMap (· ++ ['\n']) ++ (last ++ ending.chars))

def ConfigFile.text : ConfigFile → List Char
  | .v1 version ip port ending => positional version [ip.line] port.line ending
  | .v2 version ip port audio connection ending =>
      positional version [ip.line, port.line, audio.line] connection.line ending
  | .v3 version ip port audio video connection ending =>
      positional version [ip.line, port.line, audio.line, video.line] connection.line ending
  | .v4 version es last _ => v4Text version es last

/-- The settings hold what a version 4 line gives. -/
def Entry.Given (s : Settings) : Entry → Prop
  | .ip w _ => Holds s.ip w.chars
  | .int f d _ => (f.get s).toInt = d.val
  | .size w h _ => (s.v4l2Width.toNat : Int) = w.val ∧ (s.v4l2Height.toNat : Int) = h.val
  | .other _ _ _ => True

/-- Every member has the value on its line. -/
def ConfigFile.Yields (s : Settings) : ConfigFile → Prop
  | .v1 _ ip port _ => Holds s.ip ip.chars ∧ s.port.toInt = port.val
  | .v2 _ ip port audio connection _ =>
      Holds s.ip ip.chars ∧ s.port.toInt = port.val ∧ s.audio.toInt = audio.val ∧
        s.connection.toInt = connection.val
  | .v3 _ ip port audio video connection _ =>
      Holds s.ip ip.chars ∧ s.port.toInt = port.val ∧ s.audio.toInt = audio.val ∧
        s.video.toInt = video.val ∧ s.connection.toInt = connection.val
  | .v4 _ es last _ => ∀ e ∈ es ++ last.toList, e.Given s

/-- Equal in every member that `LoadSettings` reads. -/
def SameRead (s t : Settings) : Prop := SameSaved s t ∧ t.adbAutoStart = s.adbAutoStart

def loadText (text : List Char) : Settings := loadSettings (some text)

/-- Loading gives what the file says, and saving and loading that again the same. -/
def ConfigFile.Migrates (f : ConfigFile) : Prop :=
  f.Yields (loadText f.text) ∧
    SameRead (loadText f.text) (loadText (saveSettings (loadText f.text)))

/-- A number that an `int` holds. -/
def Number.InInt (d : Number) : Prop := -2147483648 ≤ d.val ∧ d.val ≤ 2147483647

/-- A number that can be a side of the picture. -/
def Number.IsSide (d : Number) : Prop := 1 ≤ d.val ∧ d.val ≤ 2147483647

/-- A version 4 line whose address fits with its NUL. -/
def Entry.Short : Entry → Prop
  | .ip w _ => w.chars.length ≤ 15
  | _ => True

/-- A version 4 line whose numbers its members can hold. -/
def Entry.InRange : Entry → Prop
  | .int _ d _ => d.InInt
  | .size w h _ => w.IsSide ∧ h.IsSide
  | _ => True

/-- A version 4 line that does not turn `adb_auto_start` on. -/
def Entry.AdbOff : Entry → Prop
  | .int .adbAutoStart d _ => d.val = 0
  | _ => True

/-- Two lines for one member give the same value. -/
def Entry.Agrees : Entry → Entry → Prop
  | .ip w _, .ip w' _ => w.chars = w'.chars
  | .int f d _, .int g d' _ => f = g → d.val = d'.val
  | .size w h _, .size w' h' _ => w.val = w'.val ∧ h.val = h'.val
  | _, _ => True

/-- The address of versions 1 to 3 fills `ip`; the lines of version 4 are short, leave
    `adb_auto_start` off and do not contradict each other; the numbers of all versions
    fit where they go. -/
def ConfigFile.Kept : ConfigFile → Prop
  | .v1 _ ip port _ => ip.chars.length = 15 ∧ port.InInt
  | .v2 _ ip port audio connection _ =>
      ip.chars.length = 15 ∧ port.InInt ∧ audio.InInt ∧ connection.InInt
  | .v3 _ ip port audio video connection _ =>
      ip.chars.length = 15 ∧ port.InInt ∧ audio.InInt ∧ video.InInt ∧ connection.InInt
  | .v4 _ es last _ =>
      (∀ e ∈ es ++ last.toList, e.Short ∧ e.InRange ∧ e.AdbOff) ∧
        (es ++ last.toList).Pairwise Entry.Agrees

/-- What is saved comes back but for `adb_auto_start`. -/
theorem sameRead_iff {s : Settings} (hs : Storable s) :
    SameRead s (loadText (saveSettings s)) ↔ s.adbAutoStart = 0 := by
  obtain ⟨hsame, hadb⟩ := reload hs
  constructor
  · rintro ⟨-, h⟩
    exact h.symm.trans hadb
  · intro h
    exact ⟨hsame, hadb.trans h.symm⟩

/-- What `SaveSettings` can write back, after any lines. -/
structure Sound (s : Settings) : Prop where
  ip : ∃ w : Word, Holds s.ip w.chars
  width : 1 ≤ s.v4l2Width.toNat ∧ s.v4l2Width.toNat ≤ 2147483647
  height : 1 ≤ s.v4l2Height.toNat ∧ s.v4l2Height.toNat ≤ 2147483647

theorem Sound.storable {s : Settings} (hs : Sound s) : Storable s := by
  obtain ⟨w, hw⟩ := hs.ip
  have hstring := ipString_of_holds hw
  refine ⟨fun c hc => ?_, ?_, hs.width, hs.height⟩
  · rw [hstring] at hc
    exact (w.plain c hc).1
  · rw [hstring]
    exact hw.length_le

theorem Sound.defaults : Sound Settings.defaults where
  ip := ⟨⟨[], fun c hc => absurd hc List.not_mem_nil⟩, holds_defaults⟩
  width := by decide
  height := by decide

/-! ### Versions 1 to 3

Each line has its member, so a file is lossless line by line; the rest of the text is
never read. -/

/-- A line is read whole. -/
theorem withLine_line {read : Settings → List Char → Settings} {s : Settings}
    {line fp : List Char} (hline : '\n' ∉ line) (hnul : NUL ∉ line)
    (hfits : line.length + 1 < BUF_SIZE) :
    withLine read (s, line ++ '\n' :: fp) = (read s (line ++ ['\n']), fp) := by
  have hcstr : cstr (line ++ ['\n']) = line ++ ['\n'] := by
    have hn : NUL ≠ '\n' := by decide
    exact cstr_of_no_nul (by simp [hnul, hn])
  rw [withLine, fgets_line hline hfits]
  dsimp only
  rw [hcstr]

/-- The last line may end with the file. -/
theorem withLine_last {read : Settings → List Char → Settings} {s : Settings} {line : List Char}
    (ending : Ending) (hline : '\n' ∉ line) (hnul : NUL ∉ line) (hne : line ≠ [])
    (hfits : line.length + 1 < BUF_SIZE) :
    ∃ eol ∈ lineEnds, (withLine read (s, line ++ ending.chars)).1 = read s (line ++ eol) := by
  rcases ending.starts with hnil | ⟨tail, htail⟩
  · refine ⟨[], by decide, ?_⟩
    rw [hnil, List.append_nil, withLine, fgets_last hline hne (Nat.lt_of_succ_lt hfits)]
    dsimp only
    rw [cstr_of_no_nul hnul]
  · refine ⟨['\n'], by decide, ?_⟩
    rw [htail, withLine_line hline hnul hfits]

theorem NumberLine.ne_nil (d : NumberLine) : d.line ≠ [] :=
  List.append_ne_nil_of_left_ne_nil d.decimal.ne_nil _

theorem NumberLine.no_newline (d : NumberLine) : '\n' ∉ d.line := by
  simp [NumberLine.line, d.toNumber.no_newline, d.pad.no_newline]

theorem NumberLine.no_nul (d : NumberLine) : NUL ∉ d.line := by
  have hpad : NUL ∉ d.pad.chars := Blank.no_nul d.pad.blank
  simp [NumberLine.line, d.toNumber.no_nul, hpad]

theorem AddressLine.no_newline (a : AddressLine) : '\n' ∉ a.line := by
  simp [AddressLine.line, a.toWord.no_newline, a.pad.no_newline]

theorem AddressLine.no_nul (a : AddressLine) : NUL ∉ a.line := by
  have hpad : NUL ∉ a.pad.chars := Blank.no_nul a.pad.blank
  simp [AddressLine.line, a.toWord.no_nul, hpad]

theorem Number.InInt.toInt_eq {d : Number} (h : d.InInt) : (intOf d.val).toInt = d.val :=
  toInt_intOf h.1 h.2

/-- A member can only have a value that an `int` holds. -/
theorem inInt_of_toInt_eq {v : Int32} {d : Number} (h : v.toInt = d.val) : d.InInt := by
  have hlo := v.le_toInt
  have hhi := v.toInt_lt
  constructor <;> omega

theorem withLine_address {s : Settings} {ip : AddressLine} {fp : List Char} :
    withLine copyIp (s, ip.line ++ '\n' :: fp) = (copyIp s (ip.line ++ ['\n']), fp) :=
  withLine_line ip.no_newline ip.no_nul ip.fits

/-- `strtoul` reads the port of version 1 as `%d` would, where an `int` holds it. -/
theorem withLine_port {s : Settings} {d : NumberLine} {ending : Ending} (hd : d.InInt) :
    (withLine readPort (s, d.line ++ ending.chars)).1 = { s with port := intOf d.val } := by
  have hdecimal : IsDecimal d.text (intOf d.val).toInt := by
    rw [hd.toInt_eq]
    exact d.decimal
  obtain ⟨eol, heol, hread⟩ :=
    @withLine_last readPort s _ ending d.no_newline d.no_nul d.ne_nil d.fits
  have hend := (d.pad.append (lineEnds_blank heol)).noDigit
  rw [hread, readPort, NumberLine.line, List.append_assoc, strtoul_decimal hdecimal hend]

/-- `%d` reads the number of a line. -/
theorem readField_line {f : Field} {s : Settings} {d : NumberLine} {eol : List Char}
    (heol : eol ∈ lineEnds) : readField f s (d.line ++ eol) = f.set s (intOf d.val) := by
  have hend := (d.pad.append (lineEnds_blank heol)).noDigit
  have hint : sscanf [.int] (d.line ++ eol) = [.int (intOf d.val)] := by
    rw [NumberLine.line, List.append_assoc, sscanf_number d.decimal hend]
    rfl
  rw [readField, hint]

theorem withLine_field {f : Field} {s : Settings} {d : NumberLine} {fp : List Char} :
    withLine (readField f) (s, d.line ++ '\n' :: fp) = (f.set s (intOf d.val), fp) := by
  rw [withLine_line d.no_newline d.no_nul d.fits, readField_line (by decide)]

theorem withLine_lastField {f : Field} {s : Settings} {d : NumberLine} {ending : Ending} :
    (withLine (readField f) (s, d.line ++ ending.chars)).1 = f.set s (intOf d.val) := by
  obtain ⟨eol, heol, hread⟩ :=
    @withLine_last (readField f) s _ ending d.no_newline d.no_nul d.ne_nil d.fits
  rw [hread, readField_line heol]

/-- **`strncpy` keeps the first 15 characters of the line**, the newline too where
    there is room for it. -/
theorem holds_copyIp (s : Settings) {buf : List Char} (h : NUL ∉ buf) :
    Holds (copyIp s buf).ip (buf.take 15) := by
  refine ⟨fun hmem => h (List.mem_of_mem_take hmem), List.replicate (15 - buf.length) NUL, ?_⟩
  have hlen : (buf.take 15 ++ List.replicate (15 - buf.length) NUL).length = 15 := by
    rw [List.length_append, List.length_take, List.length_replicate]
    omega
  have hput := s.ip.put_chars (hlen.le.trans (by decide))
  obtain ⟨c, hc⟩ : ∃ c, s.ip.chars.drop 15 = [c] := by
    apply List.length_eq_one_iff.mp
    rw [List.length_drop, s.ip.length_eq]
  rw [hlen, hc] at hput
  show (s.ip.strncpy buf 15).chars.set 15 NUL = _
  rw [CharArray.strncpy, hput, List.set_append_right _ _ hlen.le, hlen, List.append_assoc]
  congr 1
  exact List.replicate_succ'.symm.trans List.replicate_succ

/-- The first 15 characters are the address when they leave out the end of the line. -/
theorem take_address_iff (ip : AddressLine) :
    (ip.line ++ ['\n']).take 15 = ip.chars ↔ ip.chars.length = 15 := by
  have hlen := ip.length_le
  rw [AddressLine.line, List.append_assoc]
  constructor
  · intro h
    have hlength := congrArg List.length h
    rw [List.length_take, List.length_append, List.length_append, List.length_singleton]
      at hlength
    omega
  · intro h
    rw [List.take_append_of_le_length h.ge, List.take_of_length_le h.le]

/-- After a file of versions 1 to 3, whatever its numbers are, the address decides. -/
theorem positional_migrates (ip : AddressLine) (port audio video connection : Int32)
    {s : Settings}
    (hs : s = { copyIp Settings.defaults (ip.line ++ ['\n']) with
      port, audio, video, connection }) :
    (Holds s.ip ip.chars ∧ SameRead s (loadText (saveSettings s))) ↔ ip.chars.length = 15 := by
  have hholds : Holds s.ip ((ip.line ++ ['\n']).take 15) := by
    rw [hs]
    apply holds_copyIp
    have hn : NUL ≠ '\n' := by decide
    simp [ip.no_nul, hn]
  rw [← take_address_iff]
  constructor
  · rintro ⟨hip, -⟩
    exact (ipString_of_holds hholds).symm.trans (ipString_of_holds hip)
  · intro h
    rw [h] at hholds
    have hsound : Sound s := by
      refine ⟨⟨ip.toWord, hholds⟩, ?_, ?_⟩
      · rw [hs]
        exact Sound.defaults.width
      · rw [hs]
        exact Sound.defaults.height
    have hadb : s.adbAutoStart = 0 := by rw [hs]; rfl
    exact ⟨hholds, (sameRead_iff hsound.storable).mpr hadb⟩

/-- A file of these versions is read line by line. -/
theorem load_positional {version : Int32} (v : VersionLine version) (lines : List (List Char))
    (last : List Char) (ending : Ending) :
    loadText (positional v lines last ending) =
      loadVersion version Settings.defaults
        (lines.flatMap (· ++ ['\n']) ++ (last ++ ending.chars)) :=
  loadSettings_version v _

theorem load_v1 (version : VersionLine 1) (ip : AddressLine) (port : NumberLine)
    (ending : Ending) (hport : port.InInt) :
    loadText (ConfigFile.v1 version ip port ending).text =
      { copyIp Settings.defaults (ip.line ++ ['\n']) with port := intOf port.val } := by
  rw [ConfigFile.text, load_positional]
  show loadV1 Settings.defaults _ = _
  simp only [List.flatMap_cons, List.flatMap_nil, List.append_assoc, List.nil_append,
    List.cons_append]
  rw [loadV1, withLine_address, withLine_port hport]

theorem load_v2 (version : VersionLine 2) (ip : AddressLine) (port audio connection : NumberLine)
    (ending : Ending) :
    loadText (ConfigFile.v2 version ip port audio connection ending).text =
      { copyIp Settings.defaults (ip.line ++ ['\n']) with
        port := intOf port.val, audio := intOf audio.val, connection := intOf connection.val } := by
  rw [ConfigFile.text, load_positional]
  show loadV2 2 Settings.defaults _ = _
  simp only [List.flatMap_cons, List.flatMap_nil, List.append_assoc, List.nil_append,
    List.cons_append]
  have hvideo : ¬ (2 : Int32) = 3 := by decide
  rw [loadV2, withLine_address, withLine_field, withLine_field, if_neg hvideo,
    withLine_lastField]
  rfl

theorem load_v3 (version : VersionLine 3) (ip : AddressLine)
    (port audio video connection : NumberLine) (ending : Ending) :
    loadText (ConfigFile.v3 version ip port audio video connection ending).text =
      { copyIp Settings.defaults (ip.line ++ ['\n']) with
        port := intOf port.val, audio := intOf audio.val, video := intOf video.val,
        connection := intOf connection.val } := by
  rw [ConfigFile.text, load_positional]
  show loadV2 3 Settings.defaults _ = _
  simp only [List.flatMap_cons, List.flatMap_nil, List.append_assoc, List.nil_append,
    List.cons_append]
  rw [loadV2, withLine_address, withLine_field, withLine_field, if_pos rfl, withLine_field,
    withLine_lastField]
  rfl

/-! ### Version 4

A line overwrites what an earlier one gave, so a file whose lines disagree loses one of
them, and one whose lines agree may repeat itself. -/

/-- An empty address is not stored, so nothing but the address itself may be there. -/
def Entry.Ready (s : Settings) : Entry → Prop
  | .ip w _ => Holds s.ip [] ∨ Holds s.ip w.chars
  | _ => True

/-- A positive number is the same as an `unsigned`. -/
theorem toUInt32_toNat {v : Int32} (h : 0 < v) : (v.toUInt32.toNat : Int) = v.toInt := by
  have hpos : 0 < v.toInt := by
    rw [Int32.lt_iff_toInt_lt, Int32.toInt_zero] at h
    exact h
  have hmsb := BitVec.toInt_eq_toNat_cond v.toBitVec
  have hnat : v.toBitVec.toNat = v.toUInt32.toNat := rfl
  have hint : v.toBitVec.toInt = v.toInt := rfl
  have hbound := v.toBitVec.isLt
  rw [hint, hnat] at hmsb
  split at hmsb <;> omega

/-- A size that a line may give fits an `unsigned`. -/
theorem toUInt32_size {v : Int32} (h : 0 < v) :
    1 ≤ v.toUInt32.toNat ∧ v.toUInt32.toNat ≤ 2147483647 := by
  have hval := toUInt32_toNat h
  have hhi := v.toInt_lt
  rw [Int32.lt_iff_toInt_lt, Int32.toInt_zero] at h
  omega

theorem Number.IsSide.pos {d : Number} (h : d.IsSide) : 0 < intOf d.val := by
  rw [Int32.lt_iff_toInt_lt, Int32.toInt_zero, toInt_intOf (by have := h.1; omega) h.2]
  exact h.1

theorem Number.IsSide.toNat_eq {d : Number} (h : d.IsSide) :
    ((intOf d.val).toUInt32.toNat : Int) = d.val := by
  rw [toUInt32_toNat h.pos, toInt_intOf (by have := h.1; omega) h.2]

theorem isSide_of_toNat_eq {v : UInt32} {d : Number} (hv : 1 ≤ v.toNat ∧ v.toNat ≤ 2147483647)
    (h : (v.toNat : Int) = d.val) : d.IsSide := by
  constructor <;> omega

/-- A size in range is stored. -/
theorem Entry.apply_size {w h : Number} (hw : w.IsSide) (hh : h.IsSide) (pad : Blanks)
    (s : Settings) :
    (Entry.size w h pad).apply s = { s with
      v4l2Width := (intOf w.val).toUInt32
      v4l2Height := (intOf h.val).toUInt32 } :=
  if_pos ⟨hw.pos, hh.pos⟩

/-- Its own line stores what an entry gives. -/
theorem Entry.given_apply {e : Entry} {s : Settings} (hshort : e.Short) (hrange : e.InRange)
    (h : e.Ready s) : e.Given (e.apply s) := by
  cases e with
  | ip w pad =>
      obtain ⟨ip, hip, hholds⟩ := @Entry.apply_ip s w pad hshort
      rw [hip]
      rcases h with hnone | hsame
      · exact holds_of_empty (hholds [] hnone)
      · have hnew := hholds w.chars hsame
        rwa [ite_self] at hnew
  | int f d pad =>
      show (f.get (f.set s (intOf d.val))).toInt = d.val
      rw [f.get_set, hrange.toInt_eq]
  | size w h pad =>
      rw [Entry.apply_size hrange.1 hrange.2]
      exact ⟨hrange.1.toNat_eq, hrange.2.toNat_eq⟩
  | other => trivial

/-- A line that agrees leaves it alone, whether it is about the same member or not. -/
theorem Entry.given_frame {e e' : Entry} {s : Settings} (hagrees : e.Agrees e')
    (hshort : e'.Short) (hrange : e'.InRange) (h : e.Given s) : e.Given (e'.apply s) := by
  cases e' with
  | ip w' pad =>
      obtain ⟨ip, hip, hholds⟩ := @Entry.apply_ip s w' pad hshort
      rw [hip]
      cases e with
      -- an empty address is not stored, and then the one that is there stays
      | ip w =>
          have hnew := hholds w.chars h
          rw [← (hagrees : w.chars = w'.chars), ite_self] at hnew
          exact hnew
      | int f d =>
          show (f.get { s with ip }).toInt = d.val
          rw [f.get_ip]
          exact h
      | size | other => exact h
  | int f d' pad =>
      cases e with
      | ip w =>
          show Holds (f.set s (intOf d'.val)).ip w.chars
          rw [f.set_ip]
          exact h
      | int g d =>
          show (g.get (f.set s (intOf d'.val))).toInt = d.val
          -- the later line of one member wins, and the two agree
          by_cases heq : g = f
          · subst heq
            rw [g.get_set, hrange.toInt_eq]
            exact (hagrees rfl).symm
          · rw [Field.set_frame heq]
            exact h
      | size =>
          obtain ⟨hw, hh⟩ := f.set_size s (intOf d'.val)
          show (((f.set s (intOf d'.val)).v4l2Width.toNat : Int) = _ ∧
            ((f.set s (intOf d'.val)).v4l2Height.toNat : Int) = _)
          rw [hw, hh]
          exact h
      | other => trivial
  | size w' h' pad =>
      rw [Entry.apply_size hrange.1 hrange.2]
      cases e with
      | int f d =>
          show (f.get { s with v4l2Width := _, v4l2Height := _ }).toInt = d.val
          rw [f.get_size]
          exact h
      | size =>
          obtain ⟨hw, hh⟩ := hagrees
          exact ⟨hrange.1.toNat_eq.trans hw.symm, hrange.2.toNat_eq.trans hh.symm⟩
      | ip | other => exact h
  | other => exact h

theorem Entry.ready_frame {e e' : Entry} {s : Settings} (hagrees : e'.Agrees e)
    (hshort : e'.Short) (hrange : e'.InRange) (h : e.Ready s) : e.Ready (e'.apply s) := by
  cases e with
  | ip w =>
      cases e' with
      | ip w' pad =>
          obtain ⟨ip, hip, hholds⟩ := @Entry.apply_ip s w' pad hshort
          rw [hip]
          rcases h with hnone | hsame
          · -- the other line gives the same address, stored unless it is empty
            have hnew := holds_of_empty (hholds [] hnone)
            rw [(hagrees : w'.chars = w.chars)] at hnew
            exact .inr hnew
          · have hnew := hholds w.chars hsame
            rw [(hagrees : w'.chars = w.chars), ite_self] at hnew
            exact .inr hnew
      | int f d =>
          show Holds (f.set s (intOf d.val)).ip [] ∨ Holds (f.set s (intOf d.val)).ip w.chars
          rw [f.set_ip]
          exact h
      | size =>
          rw [Entry.apply_size hrange.1 hrange.2]
          exact h
      | other => exact h
  | _ => trivial

theorem Entry.given_foldl_frame {e : Entry} {es : List Entry} {s : Settings}
    (hagrees : ∀ e' ∈ es, e.Agrees e') (hfits : ∀ e' ∈ es, e'.Short ∧ e'.InRange)
    (h : e.Given s) : e.Given (es.foldl Entry.apply s) := by
  induction es generalizing s with
  | nil => exact h
  | cons e' es ih =>
      obtain ⟨hshort, hrange⟩ := hfits e' List.mem_cons_self
      have hstep := Entry.given_frame (hagrees e' List.mem_cons_self) hshort hrange h
      exact ih (fun e'' he => hagrees e'' (List.mem_cons_of_mem e' he))
        (fun e'' he => hfits e'' (List.mem_cons_of_mem e' he)) hstep

/-- **Every line of the file is stored at the end.** -/
theorem given_foldl {es : List Entry} {s : Settings} (hagrees : es.Pairwise Entry.Agrees)
    (hfits : ∀ e ∈ es, e.Short ∧ e.InRange) (hready : ∀ e ∈ es, e.Ready s) :
    ∀ e ∈ es, e.Given (es.foldl Entry.apply s) := by
  induction es generalizing s with
  | nil =>
      intro e he
      cases he
  | cons e₀ es ih =>
      obtain ⟨hhead, htail⟩ := List.pairwise_cons.mp hagrees
      obtain ⟨hshort, hrange⟩ := hfits e₀ List.mem_cons_self
      have hrest : ∀ e ∈ es, e.Short ∧ e.InRange := fun e he =>
        hfits e (List.mem_cons_of_mem e₀ he)
      intro e he
      rw [List.foldl_cons]
      rcases List.mem_cons.mp he with rfl | he
      · -- stored by its own line, and left alone by those after it
        exact Entry.given_foldl_frame hhead hrest
          (Entry.given_apply hshort hrange (hready e List.mem_cons_self))
      · refine ih htail hrest (fun e' he' => ?_) e he
        exact Entry.ready_frame (hhead e' he') hshort hrange
          (hready e' (List.mem_cons_of_mem e₀ he'))

theorem Sound.apply {s : Settings} {e : Entry} (hs : Sound s) (hshort : e.Short) :
    Sound (e.apply s) := by
  cases e with
  | ip w pad =>
      obtain ⟨ip, hip, hholds⟩ := @Entry.apply_ip s w pad hshort
      obtain ⟨v, hv⟩ := hs.ip
      have hnew := hholds v.chars hv
      rw [hip]
      refine ⟨?_, hs.width, hs.height⟩
      split at hnew
      · exact ⟨v, hnew⟩
      · exact ⟨w, hnew⟩
  | int f d =>
      obtain ⟨hwidth, hheight⟩ := f.set_size s (intOf d.val)
      refine ⟨?_, ?_, ?_⟩
      · rw [Entry.apply, f.set_ip]
        exact hs.ip
      · rw [Entry.apply, hwidth]
        exact hs.width
      · rw [Entry.apply, hheight]
        exact hs.height
  | size w h =>
      rw [Entry.apply]
      split
      · rename_i hpos
        exact ⟨hs.ip, toUInt32_size hpos.1, toUInt32_size hpos.2⟩
      · exact hs
  | other => exact hs

theorem Sound.foldl {s : Settings} {es : List Entry} (hs : Sound s) (hshort : ∀ e ∈ es, e.Short) :
    Sound (es.foldl Entry.apply s) := by
  induction es generalizing s with
  | nil => exact hs
  | cons e es ih =>
      exact ih (hs.apply (hshort e List.mem_cons_self)) fun e' he =>
        hshort e' (List.mem_cons_of_mem e he)

/-- Only its own line can turn `adb_auto_start` on. -/
theorem adbAutoStart_foldl {es : List Entry} {s : Settings} (hs : s.adbAutoStart = 0)
    (h : ∀ e ∈ es, e.Short ∧ e.InRange ∧ e.AdbOff) :
    (es.foldl Entry.apply s).adbAutoStart = 0 := by
  induction es generalizing s with
  | nil => exact hs
  | cons e es ih =>
      obtain ⟨hshort, -, hoff⟩ := h e List.mem_cons_self
      apply ih _ fun e' he => h e' (List.mem_cons_of_mem e he)
      cases e with
      | ip w pad =>
          obtain ⟨ip, hip, -⟩ := @Entry.apply_ip s w pad hshort
          rw [hip]
          exact hs
      | int f d =>
          by_cases hf : f = .adbAutoStart
          · subst hf
            show intOf d.val = 0
            rw [show d.val = 0 from hoff]
            decide
          · exact (Field.set_frame (Ne.symm hf) : Field.get _ .adbAutoStart = _).trans hs
      | size =>
          rw [Entry.apply]
          split <;> exact hs
      | other => exact hs

/-- What is given fits, as nothing else can be read back from the members. -/
theorem Entry.inRange_of_given {e : Entry} {s : Settings} (hs : Sound s) (h : e.Given s) :
    e.InRange := by
  cases e with
  | int f d => exact inInt_of_toInt_eq h
  | size w h' => exact ⟨isSide_of_toNat_eq hs.width h.1, isSide_of_toNat_eq hs.height h.2⟩
  | ip | other => trivial

/-- Two values cannot be in one member. -/
theorem Entry.agrees_of_given {e e' : Entry} {s : Settings} (h : e.Given s) (h' : e'.Given s) :
    e.Agrees e' := by
  unfold Entry.Agrees
  split
  · exact (ipString_of_holds h).symm.trans (ipString_of_holds h')
  · rintro rfl
    exact h.symm.trans h'
  · exact ⟨h.1.symm.trans h'.1, h.2.symm.trans h'.2⟩
  · trivial

theorem v4_migrates (version : VersionLine 4) {es : List Entry} {last : Option Entry}
    (hfits : ∀ e ∈ es ++ last.toList, e.Fits) :
    (ConfigFile.v4 version es last hfits).Migrates ↔
      (ConfigFile.v4 version es last hfits).Kept := by
  have hload : loadText (v4Text version es last) =
      (es ++ last.toList).foldl Entry.apply Settings.defaults := by
    apply load_v4
    · exact fun e he => hfits e (List.mem_append_left _ he)
    · exact fun e he => hfits e (List.mem_append_right _ (Option.mem_toList.mpr he))
  have hready : ∀ e ∈ es ++ last.toList, e.Ready Settings.defaults := by
    intro e _
    cases e with
    | ip => exact .inl holds_defaults
    | _ => trivial
  have hsound : (∀ e ∈ es ++ last.toList, e.Short) →
      Sound (loadText (v4Text version es last)) := by
    intro hshort
    rw [hload]
    exact Sound.defaults.foldl hshort
  constructor
  -- what the file says is there after loading: then every number was in range and no
  -- line was overwritten
  · rintro ⟨hyields, hread⟩
    have hshort : ∀ e ∈ es ++ last.toList, e.Short := by
      intro e he
      have hgiven := hyields e he
      cases e with
      | ip w => exact hgiven.length_le
      | _ => trivial
    have hzero := (sameRead_iff (hsound hshort).storable).mp hread
    refine ⟨fun e he => ?_, List.pairwise_of_forall_mem_list fun e he e' he' => ?_⟩
    · have hgiven := hyields e he
      refine ⟨hshort e he, Entry.inRange_of_given (hsound hshort) hgiven, ?_⟩
      unfold Entry.AdbOff
      split
      · have hnumber : (loadText (v4Text version es last)).adbAutoStart.toInt = _ := hgiven
        rw [hzero] at hnumber
        exact hnumber.symm
      · trivial
    · exact Entry.agrees_of_given (hyields e he) (hyields e' he')
  · rintro ⟨hkept, hagrees⟩
    have hshort : ∀ e ∈ es ++ last.toList, e.Short := fun e he => (hkept e he).1
    refine ⟨?_, (sameRead_iff (hsound hshort).storable).mpr ?_⟩
    · show ∀ e ∈ es ++ last.toList, e.Given (loadText (v4Text version es last))
      rw [hload]
      exact given_foldl hagrees (fun e he => ⟨hshort e he, (hkept e he).2.1⟩) hready
    · rw [hload]
      exact adbAutoStart_foldl rfl hkept

/-! ### Migration -/

/-- **A settings file is migrated without loss** exactly when its numbers fit their
    members, an address of versions 1 to 3 has 15 characters, and a version 4 file has no
    address of more than 15, does not turn `adb_auto_start` on and does not give one member
    two values. -/
theorem migrates_iff_kept (f : ConfigFile) : f.Migrates ↔ f.Kept := by
  cases f with
  | v1 version ip port ending =>
      constructor
      · rintro ⟨⟨hip, hport⟩, hsame⟩
        have hfits := inInt_of_toInt_eq hport
        have hload := load_v1 version ip port ending hfits
        exact ⟨(positional_migrates ip (intOf port.val) 0 1 0 hload).mp ⟨hip, hsame⟩, hfits⟩
      · rintro ⟨hlen, hfits⟩
        have hload := load_v1 version ip port ending hfits
        obtain ⟨hip, hsame⟩ := (positional_migrates ip (intOf port.val) 0 1 0 hload).mpr hlen
        refine ⟨⟨hip, ?_⟩, hsame⟩
        rw [hload]
        exact hfits.toInt_eq
  | v2 version ip port audio connection ending =>
      have hload := load_v2 version ip port audio connection ending
      have haddress := positional_migrates ip (intOf port.val) (intOf audio.val) 1
        (intOf connection.val) hload
      constructor
      · rintro ⟨⟨hip, hport, haudio, hconn⟩, hsame⟩
        exact ⟨haddress.mp ⟨hip, hsame⟩, inInt_of_toInt_eq hport, inInt_of_toInt_eq haudio,
          inInt_of_toInt_eq hconn⟩
      · rintro ⟨hlen, hport, haudio, hconn⟩
        obtain ⟨hip, hsame⟩ := haddress.mpr hlen
        refine ⟨⟨hip, ?_⟩, hsame⟩
        rw [hload]
        exact ⟨hport.toInt_eq, haudio.toInt_eq, hconn.toInt_eq⟩
  | v3 version ip port audio video connection ending =>
      have hload := load_v3 version ip port audio video connection ending
      have haddress := positional_migrates ip (intOf port.val) (intOf audio.val)
        (intOf video.val) (intOf connection.val) hload
      constructor
      · rintro ⟨⟨hip, hport, haudio, hvideo, hconn⟩, hsame⟩
        exact ⟨haddress.mp ⟨hip, hsame⟩, inInt_of_toInt_eq hport, inInt_of_toInt_eq haudio,
          inInt_of_toInt_eq hvideo, inInt_of_toInt_eq hconn⟩
      · rintro ⟨hlen, hport, haudio, hvideo, hconn⟩
        obtain ⟨hip, hsame⟩ := haddress.mpr hlen
        refine ⟨⟨hip, ?_⟩, hsame⟩
        rw [hload]
        exact ⟨hport.toInt_eq, haudio.toInt_eq, hvideo.toInt_eq, hconn.toInt_eq⟩
  | v4 version es last hfits => exact v4_migrates version hfits

def NumberLine.printed (v : Int32) : NumberLine where
  toNumber := .printed v
  pad := .none
  fits := by
    have hlen := printInt_length v
    show (printInt v ++ []).length + 1 < 512
    rw [List.append_nil]
    omega

def shortAddress : AddressLine :=
  ⟨⟨⟨['1', '0', '.', '0', '.', '0', '.', '7'], fun c hc =>
    ⟨plain_of_all (by decide) c hc, fun h => absurd (h ▸ hc) (by decide)⟩⟩, by decide⟩, .none,
    by decide⟩

def version2File : ConfigFile :=
  .v2 (.printed 2) shortAddress (.printed 4747) (.printed 1) (.printed 0)
    ⟨['\n'], Or.inr ⟨[], rfl⟩⟩

def adbFile : ConfigFile :=
  .v4 (.printed 4) [.int .adbAutoStart (.printed 1) .none] none
    (fun e he => by
      rw [List.mem_singleton.mp he]
      exact (by decide +kernel :
        (Entry.int .adbAutoStart (.printed 1) .none).line.length + 1 < BUF_SIZE))

/-- **What is lost**: a version 2 address comes with its newline until it is saved, and
    `adb_auto_start` is gone once it is saved. -/
theorem migration_loses :
    (¬ version2File.Migrates ∧
      (loadText version2File.text).ipString = shortAddress.chars ++ ['\n'] ∧
      (loadText (saveSettings (loadText version2File.text))).ipString = shortAddress.chars) ∧
    ¬ adbFile.Migrates ∧ (loadText adbFile.text).adbAutoStart = 1 ∧
      (loadText (saveSettings (loadText adbFile.text))).adbAutoStart = 0 := by
  have hnewline : (loadText version2File.text).ipString = shortAddress.chars ++ ['\n'] := by
    decide +kernel
  have hon : (loadText adbFile.text).adbAutoStart = 1 := by decide +kernel
  have hoff : (loadText (saveSettings (loadText adbFile.text))).adbAutoStart = 0 := by
    decide +kernel
  refine ⟨⟨?_, hnewline, by decide +kernel⟩, ?_, hon, hoff⟩
  · rintro ⟨⟨hip, -⟩, -⟩
    exact absurd (hnewline.symm.trans (ipString_of_holds hip)) (by decide)
  · rintro ⟨-, -, hadb⟩
    rw [hon, hoff] at hadb
    exact absurd hadb (by decide)

end DroidCam.SettingsFile
