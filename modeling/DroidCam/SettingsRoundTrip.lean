import DroidCam.SettingsFile

/-
  DroidCam/SettingsRoundTrip.lean
  ===============================
  Version 4 files, and what `SaveSettings` writes.

  An `Entry` is a line of the format with its meaning.  Loading a file made of
  entries applies them in order (`load_v4`); a saved file is one
  (`saveSettings_eq`), so saving and loading is the effect of its nine entries on
  the defaults (`reload`).
-/

namespace DroidCam.SettingsFile

open CString Scanf

/-! ### Lines and their meaning -/

/-- The text of an address, of any length. -/
structure Word where
  chars : List Char
  plain : ∀ c ∈ chars, isSpace c = false ∧ c ≠ NUL

/-- A number that an `int` can hold, as it is written. -/
structure Decimal where
  text : List Char
  val : Int32
  decimal : IsDecimal text val.toInt

/-- A number as it is written, whether an `int` can hold it or not. -/
structure Number where
  text : List Char
  val : Int
  decimal : IsDecimal text val

/-- The number as `printf` writes it. -/
def Number.printed (v : Int32) : Number := ⟨printInt v, v.toInt, printInt_decimal v⟩

/-- The blanks that a line may have behind its value; a `\r` is one of them. -/
structure Blanks where
  chars : List Char
  blank : ∀ c ∈ chars, isSpace c = true
  no_newline : '\n' ∉ chars

def Blanks.none : Blanks := ⟨[], fun _ h => absurd h List.not_mem_nil, List.not_mem_nil⟩

/-- A line that names the version. -/
structure VersionLine (version : Int32) extends Number where
  pad : Blanks
  names : val = version.toInt
  fits : (text ++ pad.chars).length + 2 < BUF_SIZE

def VersionLine.line {version : Int32} (v : VersionLine version) : List Char :=
  'v' :: (v.text ++ v.pad.chars)

/-- The version as `SaveSettings` writes it. -/
def VersionLine.printed (version : Int32) : VersionLine version where
  toNumber := .printed version
  pad := .none
  names := rfl
  fits := by
    have hlen := printInt_length version
    show (printInt version ++ []).length + 2 < 512
    rw [List.append_nil]
    omega

/-- A line ends with a newline, and the last one of a file may end with the file. -/
def lineEnds : List (List Char) := [[], ['\n']]

/-- No pattern takes the line, and not because it gives a size of 0. -/
structure Silent (buf : List Char) : Prop where
  no_take : ∀ p ∈ patterns, p.take buf = none
  no_size : ∀ w h, sscanf (lits Pattern.size.key ++ [.int, .lit 'x', .int, .space]) buf ≠
    [.int w, .int h]

/-- A line of a version 4 file. -/
inductive Entry where
  | ip (w : Word) (pad : Blanks)
  | int (f : Field) (d : Number) (pad : Blanks)
  | size (w h : Number) (pad : Blanks)
  /-- A line that gives nothing. -/
  | other (line : List Char) (hline : '\n' ∉ line)
      (hother : ∀ eol ∈ lineEnds, Silent (cstr (line ++ eol)))

def Entry.line : Entry → List Char
  | .ip w pad => Pattern.ip.key ++ (w.chars ++ pad.chars)
  | .int f d pad => (Pattern.int f).key ++ (d.text ++ pad.chars)
  | .size w h pad => Pattern.size.key ++ (w.text ++ 'x' :: h.text ++ pad.chars)
  | .other line _ _ => line

/-- What the loader does with a line.  An empty address is no word, and a size of which
    a side is not positive is left where it is. -/
def Entry.apply (s : Settings) : Entry → Settings
  | .ip w _ => if w.chars = [] then s else s.storeIp (w.chars.take 16)
  | .int f d _ => f.set s (intOf d.val)
  | .size w h _ =>
      if 0 < intOf w.val ∧ 0 < intOf h.val then
        { s with v4l2Width := (intOf w.val).toUInt32, v4l2Height := (intOf h.val).toUInt32 }
      else s
  | .other _ _ _ => s

/-! ### Reading a line

Behind a value comes a blank or the end of the line, so each conversion stops where the
value does. -/

theorem key_plain : ∀ p ∈ patterns, NUL ∉ p.key ∧ '\n' ∉ p.key := by
  decide

/-- What may stand behind a value: blanks and the end of the line. -/
def Blank (rest : List Char) : Prop := ∀ c ∈ rest, isSpace c = true

theorem Blank.no_nul {rest : List Char} (h : Blank rest) : NUL ∉ rest := fun hmem =>
  absurd (h NUL hmem) (by decide)

/-- No digit is a blank. -/
theorem Blank.noDigit {rest : List Char} (h : Blank rest) : NoDigit rest := by
  intro c hc
  have hspace := h c (List.mem_of_mem_head? hc)
  cases hd : c.isDigit with
  | false => rfl
  | true =>
      have hplain := (isDigit_plain hd).1
      rw [hplain] at hspace
      cases hspace

theorem lineEnds_blank {eol : List Char} (h : eol ∈ lineEnds) : Blank eol := by
  simp only [lineEnds, List.mem_cons, List.not_mem_nil, or_false] at h
  rcases h with rfl | rfl
  · exact fun c hc => absurd hc List.not_mem_nil
  · exact List.forall_mem_singleton.mpr (by decide)

theorem Blanks.append (pad : Blanks) {eol : List Char} (h : Blank eol) :
    Blank (pad.chars ++ eol) := by
  intro c hc
  rcases List.mem_append.mp hc with hpad | heol
  · exact pad.blank c hpad
  · exact h c heol

theorem Word.no_nul (w : Word) : NUL ∉ w.chars := fun h => (w.plain NUL h).2 rfl

theorem Word.no_newline (w : Word) : '\n' ∉ w.chars := fun h =>
  absurd (w.plain '\n' h).1 (by decide)

theorem Number.no_nul (d : Number) : NUL ∉ d.text := fun h => (d.decimal.chars NUL h).2.1 rfl

theorem Number.no_newline (d : Number) : '\n' ∉ d.text := fun h =>
  (d.decimal.chars '\n' h).2.2 rfl

theorem Entry.no_newline (e : Entry) : '\n' ∉ e.line := by
  cases e with
  | ip w pad =>
      simp [Entry.line, (key_plain _ (mem_patterns .ip)).2, w.no_newline, pad.no_newline]
  | int f d pad =>
      simp [Entry.line, (key_plain _ (mem_patterns (.int f))).2, d.no_newline, pad.no_newline]
  | size w h pad =>
      simp [Entry.line, (key_plain _ (mem_patterns .size)).2, w.no_newline, h.no_newline,
        pad.no_newline]
  | other line hline => exact hline

/-- A line whose key is that of `p`, with its value and what follows that. -/
theorem loadLine_key {p : Pattern} {value pad eol : List Char} (hvalue : NUL ∉ value)
    (hpad : Blank (pad ++ eol)) (s : Settings) :
    loadLine s (cstr (p.key ++ (value ++ pad) ++ eol)) =
      (p.take (p.key ++ (value ++ (pad ++ eol)))).elim s fun assign => assign s := by
  have hkey := (key_plain p (mem_patterns p)).1
  have hend := hpad.no_nul
  have hcstr : cstr (p.key ++ (value ++ pad) ++ eol) = p.key ++ (value ++ (pad ++ eol)) := by
    rw [List.append_assoc, List.append_assoc]
    apply cstr_of_no_nul
    simp only [List.mem_append, not_or] at hend ⊢
    exact ⟨hkey, hvalue, hend⟩
  rw [loadLine, hcstr, firstMatch_eq (List.prefix_append p.key _)]
  cases p.take (p.key ++ (value ++ (pad ++ eol))) <;> rfl

theorem take_ip {w : Word} {rest : List Char} (hrest : Blank rest) (hne : w.chars ≠ []) :
    Pattern.ip.take (Pattern.ip.key ++ (w.chars ++ rest)) =
      some fun s => s.storeIp (w.chars.take 16) := by
  have hword : sscanf [.word 16, .space] (w.chars ++ rest) = [.word (w.chars.take 16)] :=
    sscanf_word hne (by decide) (fun c hc => (w.plain c hc).1)
      fun c hc => hrest c (List.mem_of_mem_head? hc)
  simp only [Pattern.take, sscanf_lits, hword]

/-- The address of `"ip=\n"` stays as it is. -/
theorem take_ip_nil {rest : List Char} (hrest : Blank rest) :
    Pattern.ip.take (Pattern.ip.key ++ rest) = none := by
  have hword : sscanf [.word 16, .space] rest = [] := sscanf_word_of_space hrest
  simp only [Pattern.take, sscanf_lits, hword]

theorem take_int {f : Field} {d : Number} {rest : List Char} (hrest : Blank rest) :
    (Pattern.int f).take ((Pattern.int f).key ++ (d.text ++ rest)) =
      some fun s => f.set s (intOf d.val) := by
  have hint : sscanf [.int, .space] (d.text ++ rest) = [.int (intOf d.val)] :=
    sscanf_number d.decimal hrest.noDigit
  simp only [Pattern.take, sscanf_lits, hint]

theorem take_size {w h : Number} {rest : List Char} (hrest : Blank rest) :
    Pattern.size.take (Pattern.size.key ++ (w.text ++ 'x' :: h.text ++ rest)) =
      if 0 < intOf w.val ∧ 0 < intOf h.val then
        some fun s => { s with
          v4l2Width := (intOf w.val).toUInt32
          v4l2Height := (intOf h.val).toUInt32 }
      else none := by
  have hx : NoDigit ('x' :: h.text ++ rest) := by
    intro c hc
    cases hc
    decide
  have hsize : sscanf [.int, .lit 'x', .int, .space] (w.text ++ 'x' :: h.text ++ rest) =
      [.int (intOf w.val), .int (intOf h.val)] := by
    rw [List.append_assoc, sscanf_number w.decimal hx]
    show Value.int (intOf w.val) :: sscanf [.int, .space] (h.text ++ rest) = _
    rw [sscanf_number h.decimal hrest.noDigit]
    rfl
  simp only [Pattern.take, sscanf_lits, hsize]

/-- **A line does what it means.** -/
theorem loadLine_entry (e : Entry) {eol : List Char} (heol : eol ∈ lineEnds) (s : Settings) :
    loadLine s (cstr (e.line ++ eol)) = e.apply s := by
  cases e with
  | ip w pad =>
      have hrest := pad.append (lineEnds_blank heol)
      rw [Entry.line, loadLine_key w.no_nul hrest]
      by_cases hne : w.chars = []
      · rw [hne, List.nil_append, take_ip_nil hrest, Entry.apply, if_pos hne, Option.elim_none]
      · rw [take_ip hrest hne, Entry.apply, if_neg hne, Option.elim_some]
  | int f d pad =>
      have hrest := pad.append (lineEnds_blank heol)
      rw [Entry.line, loadLine_key d.no_nul hrest, take_int hrest, Entry.apply,
        Option.elim_some]
  | size w h pad =>
      have hrest := pad.append (lineEnds_blank heol)
      have hvalue : NUL ∉ w.text ++ 'x' :: h.text := by
        have hx : NUL ≠ 'x' := by decide
        simp [w.no_nul, h.no_nul, hx]
      rw [Entry.line, loadLine_key hvalue hrest, take_size hrest, Entry.apply]
      split
      · rw [Option.elim_some]
      · rw [Option.elim_none]
  | other line _ hother =>
      have hnone : (patterns.findSome? fun p => p.take (cstr (line ++ eol))) = none :=
        List.findSome?_eq_none_iff.mpr (hother eol heol).no_take
      rw [Entry.line, loadLine, hnone, Entry.apply]

/-! ### Loading version 4

The first line chooses the version, the others are folded one by one.  Only the last
line may come without its newline. -/

/-- A version 4 file: its version, its lines, and an open last one. -/
def v4Text (version : VersionLine 4) (es : List Entry) (last : Option Entry) : List Char :=
  version.line ++ '\n' :: ((es.map Entry.line).flatMap (· ++ ['\n']) ++
    (last.map Entry.line).getD [])

/-- The line and its newline fit in `buf` with a NUL. -/
def Entry.Fits (e : Entry) : Prop := e.line.length + 1 < BUF_SIZE

/-- The first line of a file says its version. -/
theorem loadSettings_version {version : Int32} (v : VersionLine version) (rest : List Char) :
    loadSettings (some (v.line ++ '\n' :: rest)) =
      loadVersion version Settings.defaults rest := by
  have hnewline : '\n' ∉ v.line := by
    simp [VersionLine.line, v.toNumber.no_newline, v.pad.no_newline]
  have hnul : NUL ∉ v.line ++ ['\n'] := by
    have hpad : NUL ∉ v.pad.chars := Blank.no_nul v.pad.blank
    have hv : NUL ≠ 'v' := by decide
    have hn : NUL ≠ '\n' := by decide
    simp [VersionLine.line, v.toNumber.no_nul, hpad, hv, hn]
  have hread : readVersion (v.line ++ ['\n']) = version := by
    have hend := (v.pad.append (lineEnds_blank (by decide : ['\n'] ∈ lineEnds))).noDigit
    have hint : sscanf (lits ['v'] ++ [.int]) (v.line ++ ['\n']) = [.int version] := by
      have hline : v.line ++ ['\n'] = ['v'] ++ (v.text ++ (v.pad.chars ++ ['\n'])) := by
        simp [VersionLine.line]
      rw [hline, sscanf_lits, sscanf_int (v.names ▸ v.decimal) hend]
      rfl
    rw [readVersion, hint]
  have hfits : v.line.length + 1 < BUF_SIZE := v.fits
  rw [loadSettings, fgets_line hnewline hfits]
  dsimp only
  rw [cstr_of_no_nul hnul, hread]

/-- An empty line means nothing. -/
theorem Entry.apply_of_line_nil {e : Entry} (h : e.line = []) (s : Settings) : e.apply s = s := by
  cases e with
  | ip | size => exact absurd h (by simp [Entry.line, Pattern.key])
  | int f => cases f <;> exact absurd h (by simp [Entry.line, Pattern.key])
  | other => rfl

theorem foldl_loadLine (es : List Entry) (s : Settings) :
    ((es.map Entry.line).map (· ++ ['\n'])).foldl (fun s buf => loadLine s (cstr buf)) s =
      es.foldl Entry.apply s := by
  induction es generalizing s with
  | nil => rfl
  | cons e es ih =>
      have hend : ['\n'] ∈ lineEnds := by decide
      rw [List.map_cons, List.map_cons, List.foldl_cons, loadLine_entry e hend, ih,
        List.foldl_cons]

/-- **Loading a version 4 file** applies its lines in order. -/
theorem load_v4 (version : VersionLine 4) {es : List Entry} {last : Option Entry}
    (hes : ∀ e ∈ es, e.Fits) (hlast : ∀ e ∈ last, e.Fits) :
    loadSettings (some (v4Text version es last)) =
      (es ++ last.toList).foldl Entry.apply Settings.defaults := by
  have hlines : ∀ l ∈ es.map Entry.line, '\n' ∉ l ∧ l.length + 1 < BUF_SIZE := by
    intro l hl
    obtain ⟨e, he, rfl⟩ := List.mem_map.mp hl
    exact ⟨e.no_newline, hes e he⟩
  have hversion : ∀ s fp, loadVersion 4 s fp = loadV4 s fp := fun s fp => rfl
  rw [v4Text, loadSettings_version version, hversion, loadV4]
  cases last with
  | none =>
      have hread := allLines_flatMap hlines List.not_mem_nil (by decide : [].length < BUF_SIZE)
      rw [Option.map_none, Option.getD_none, hread, if_pos rfl, List.append_nil, foldl_loadLine,
        Option.toList_none, List.append_nil]
  | some e =>
      have hfits : e.line.length < BUF_SIZE := Nat.lt_of_succ_lt (hlast e rfl)
      rw [Option.map_some, Option.getD_some, allLines_flatMap hlines e.no_newline hfits,
        List.foldl_append, foldl_loadLine, Option.toList_some, List.foldl_append,
        List.foldl_cons, List.foldl_nil]
      -- an open last line that is empty is none: `fgets` finds the end of the file
      split
      · rename_i hnil
        rw [List.foldl_nil, e.apply_of_line_nil hnil]
      · have hload := loadLine_entry e (by decide : [] ∈ lineEnds)
          (es.foldl Entry.apply Settings.defaults)
        rw [List.append_nil] at hload
        rw [List.foldl_cons, List.foldl_nil, hload]

/-! ### Saving and loading

What `SaveSettings` writes is a list of entries, of which loading makes the settings
again, one member each. -/

/-- Settings that version 4 can express: an address of one word, and a size. -/
structure Storable (s : Settings) : Prop where
  plain : ∀ c ∈ s.ipString, isSpace c = false
  length_le : s.ipString.length ≤ 15
  width : 1 ≤ s.v4l2Width.toNat ∧ s.v4l2Width.toNat ≤ 2147483647
  height : 1 ≤ s.v4l2Height.toNat ∧ s.v4l2Height.toNat ≤ 2147483647

/-- Equal in every member that `SaveSettings` writes. -/
structure SameSaved (s t : Settings) : Prop where
  ip : t.ipString = s.ipString
  port : t.port = s.port
  audio : t.audio = s.audio
  video : t.video = s.video
  width : t.v4l2Width = s.v4l2Width
  height : t.v4l2Height = s.v4l2Height
  connection : t.connection = s.connection
  confirmClose : t.confirmClose = s.confirmClose
  verticalFlip : t.verticalFlip = s.verticalFlip
  horizontalFlip : t.horizontalFlip = s.horizontalFlip

/-- A size that `%d` writes as it is. -/
theorem toInt32_pos {x : UInt32} (hx : 1 ≤ x.toNat ∧ x.toNat ≤ 2147483647) : 0 < x.toInt32 := by
  have hsmall : 2 * x.toBitVec.toNat < 2 ^ 32 := by
    have hnat : x.toBitVec.toNat = x.toNat := rfl
    omega
  have hval : x.toInt32.toInt = x.toNat := BitVec.toInt_eq_toNat_of_lt hsmall
  rw [Int32.lt_iff_toInt_lt, hval, Int32.toInt_zero]
  omega

def Storable.word {s : Settings} (hs : Storable s) : Word where
  chars := s.ipString
  plain := fun c hc => ⟨hs.plain c hc, fun h => nul_not_mem_cstr _ (h ▸ hc)⟩

/-- The lines that `SaveSettings` writes after the version. -/
def savedEntries {s : Settings} (hs : Storable s) : List Entry :=
  [.ip hs.word .none,
    .int .port (.printed s.port) .none,
    .int .audio (.printed s.audio) .none,
    .int .video (.printed s.video) .none,
    .size (.printed s.v4l2Width.toInt32) (.printed s.v4l2Height.toInt32) .none,
    .int .confirmClose (.printed s.confirmClose) .none,
    .int .verticalFlip (.printed s.verticalFlip) .none,
    .int .horizontalFlip (.printed s.horizontalFlip) .none,
    .int .connection (.printed s.connection) .none]

theorem saveSettings_eq {s : Settings} (hs : Storable s) :
    saveSettings s = v4Text (.printed 4) (savedEntries hs) none := by
  simp [saveSettings, savedLines, v4Text, VersionLine.line, VersionLine.printed, savedEntries,
    Entry.line, Storable.word, Number.printed, Blanks.none]

theorem key_length : ∀ p ∈ patterns, p.key.length ≤ 16 := by
  decide

theorem savedEntries_fit {s : Settings} (hs : Storable s) : ∀ e ∈ savedEntries hs, e.Fits := by
  have hint : ∀ (f : Field) (v : Int32), (Entry.int f (.printed v) .none).Fits := by
    intro f v
    have hkey := key_length _ (mem_patterns (.int f))
    have hnum := printInt_length v
    show ((Pattern.int f).key ++ (printInt v ++ [])).length + 1 < 512
    rw [List.append_nil, List.length_append]
    omega
  intro e he
  simp only [savedEntries, List.mem_cons, List.not_mem_nil, or_false] at he
  rcases he with rfl | rfl | rfl | rfl | rfl | rfl | rfl | rfl | rfl
  · have hword := hs.length_le
    show (Pattern.ip.key ++ (s.ipString ++ [])).length + 1 < 512
    rw [List.append_nil, List.length_append]
    have hkey := key_length _ (mem_patterns .ip)
    omega
  case inr.inr.inr.inr.inl =>
    have hw := printInt_length s.v4l2Width.toInt32
    have hh := printInt_length s.v4l2Height.toInt32
    have hkey := key_length _ (mem_patterns .size)
    show (Pattern.size.key ++ (printInt s.v4l2Width.toInt32 ++
      'x' :: printInt s.v4l2Height.toInt32 ++ [])).length + 1 < 512
    simp only [List.length_append, List.length_cons, List.length_nil]
    omega
  all_goals exact hint _ _

/-- `ip` holds this string and its NUL. -/
def Holds (ip : CharArray 16) (w : List Char) : Prop :=
  NUL ∉ w ∧ ∃ rest, ip.chars = w ++ NUL :: rest

theorem ipString_of_holds {s : Settings} {w : List Char} (h : Holds s.ip w) :
    s.ipString = w := by
  obtain ⟨hw, rest, hchars⟩ := h
  rw [Settings.ipString, hchars, List.append_assoc, List.cons_append, cstr_append_nul hw]

theorem holds_defaults : Holds Settings.defaults.ip [] :=
  ⟨List.not_mem_nil, List.replicate 15 NUL, rfl⟩

/-- The string that `ip` holds has room for its NUL. -/
theorem Holds.length_le {ip : CharArray 16} {w : List Char} (h : Holds ip w) : w.length ≤ 15 := by
  obtain ⟨-, rest, hchars⟩ := h
  have hlen := ip.length_eq
  rw [hchars, List.length_append, List.length_cons] at hlen
  omega

/-- A word that fits leaves the other members alone. -/
theorem storeIp_eq (s : Settings) {w : List Char} (h : w.length ≤ 15) :
    s.storeIp w = { s with ip := s.ip.put (w ++ [NUL]) } := by
  rw [Settings.storeIp, if_pos (by omega)]

/-- A line with an address that fits changes `ip` only; an empty one leaves the
    address that was there. -/
theorem Entry.apply_ip (s : Settings) {w : Word} {pad : Blanks} (hlen : w.chars.length ≤ 15) :
    ∃ ip, Entry.apply s (.ip w pad) = { s with ip } ∧
      ∀ v, Holds s.ip v → Holds ip (if w.chars = [] then v else w.chars) := by
  by_cases hne : w.chars = []
  · refine ⟨s.ip, if_pos hne, fun v hv => ?_⟩
    rwa [if_pos hne]
  · have htake : w.chars.take 16 = w.chars := List.take_of_length_le (by omega)
    have hput := s.ip.put_chars (show (w.chars ++ [NUL]).length ≤ 16 by
      rw [List.length_append, List.length_singleton]
      omega)
    rw [List.append_assoc, List.singleton_append] at hput
    refine ⟨s.ip.put (w.chars ++ [NUL]), ?_, fun v _ => ?_⟩
    · rw [Entry.apply, if_neg hne, htake, storeIp_eq s hlen]
    · rw [if_neg hne]
      exact ⟨w.no_nul, _, hput⟩

/-- Where there was no address, the line stores its own. -/
theorem holds_of_empty {ip : CharArray 16} {w : Word}
    (h : Holds ip (if w.chars = [] then [] else w.chars)) : Holds ip w.chars := by
  by_cases hne : w.chars = []
  · rwa [if_pos hne, ← hne] at h
  · rwa [if_neg hne] at h

/-- A printed number is stored as it was. -/
theorem Entry.apply_printed (f : Field) (v : Int32) (pad : Blanks) (s : Settings) :
    (Entry.int f (.printed v) pad).apply s = f.set s v := by
  show f.set s (intOf v.toInt) = f.set s v
  rw [intOf_toInt]

theorem Entry.apply_size_printed {w h : UInt32} (hw : 1 ≤ w.toNat ∧ w.toNat ≤ 2147483647)
    (hh : 1 ≤ h.toNat ∧ h.toNat ≤ 2147483647) (pad : Blanks) (s : Settings) :
    (Entry.size (.printed w.toInt32) (.printed h.toInt32) pad).apply s =
      { s with v4l2Width := w, v4l2Height := h } := by
  have hpos : 0 < w.toInt32 ∧ 0 < h.toInt32 := ⟨toInt32_pos hw, toInt32_pos hh⟩
  simp only [Entry.apply, Number.printed, intOf_toInt, if_pos hpos, UInt32.toUInt32_toInt32]

/-- **Loading what was saved**: every member that is written comes back, and
    `adb_auto_start` is 0. -/
theorem reload {s : Settings} (hs : Storable s) :
    SameSaved s (loadSettings (some (saveSettings s))) ∧
      (loadSettings (some (saveSettings s))).adbAutoStart = 0 := by
  rw [saveSettings_eq hs, load_v4 _ (savedEntries_fit hs) (fun e he => by cases he),
    Option.toList_none, List.append_nil]
  obtain ⟨ip, hip, hholds⟩ := @Entry.apply_ip Settings.defaults hs.word .none hs.length_le
  rw [savedEntries, List.foldl_cons, hip]
  simp only [List.foldl_cons, List.foldl_nil, Entry.apply_printed,
    Entry.apply_size_printed hs.width hs.height]
  refine ⟨⟨?_, rfl, rfl, rfl, rfl, rfl, rfl, rfl, rfl, rfl⟩, rfl⟩
  exact ipString_of_holds (holds_of_empty (hholds [] holds_defaults))

/-- **The settings round trip.** -/
theorem settings_round_trip (s : Settings) (hs : Storable s) :
    SameSaved s (loadSettings (some (saveSettings s))) :=
  (reload hs).1

/-- `Storable.plain`, as a test. -/
theorem plain_of_all {s : List Char} (h : s.all (fun c => !isSpace c) = true) :
    ∀ c ∈ s, isSpace c = false := by
  intro c hc
  simpa using List.all_eq_true.mp h c hc

/-- An address that looks like a line, extreme numbers, and a member that is not
    saved. -/
def keyAddress : Settings :=
  { Settings.defaults with
    ip := (CharArray.zero 16).put ['p', 'o', 'r', 't', '=', '5']
    port := -2147483648
    v4l2Width := 2147483647
    adbAutoStart := 1 }

theorem settings_round_trip_key :
    SameSaved keyAddress (loadSettings (some (saveSettings keyAddress))) ∧
      keyAddress.ipString = ['p', 'o', 'r', 't', '=', '5'] :=
  ⟨settings_round_trip keyAddress ⟨plain_of_all (by decide +kernel), by decide +kernel,
    by decide +kernel, by decide +kernel⟩, by decide +kernel⟩

end DroidCam.SettingsFile
