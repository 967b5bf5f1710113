import DroidCam.SettingsMigration
import Mathlib.Data.List.Induction

/-
  DroidCam/SettingsLines.lean
  ===========================
  What the lines of a version 4 file leave in `struct settings`, for any text.

  A line is about the member whose key it starts with.  Every conversion stores
  into its own member, but for the address: `%16s` stores up to 17 characters at
  `ip`, and `port` comes right after its 16.
-/

namespace DroidCam.SettingsFile

open CString Scanf

/-! ### What a line assigns -/

inductive Assignment where
  | ip (w : List Char)
  | int (f : Field) (v : Int32)
  | size (w h : Int32)
deriving DecidableEq, Repr

def Assignment.pattern : Assignment → Pattern
  | .ip _ => .ip
  | .int f _ => .int f
  | .size _ _ => .size

def Assignment.apply (s : Settings) : Assignment → Settings
  | .ip w => s.storeIp w
  | .int f v => f.set s v
  | .size w h => { s with v4l2Width := w.toUInt32, v4l2Height := h.toUInt32 }

/-- The values behind the key, where the line has them. -/
def Pattern.assignment (p : Pattern) (buf : List Char) : Option Assignment :=
  match p with
  | .ip =>
      match sscanf (lits p.key ++ [.word 16, .space]) buf with
      | [.word w] => some (.ip w)
      | _ => none
  | .int f =>
      match sscanf (lits p.key ++ [.int, .space]) buf with
      | [.int v] => some (.int f v)
      | _ => none
  | .size =>
      match sscanf (lits p.key ++ [.int, .lit 'x', .int, .space]) buf with
      | [.int w, .int h] => if 0 < w ∧ 0 < h then some (.size w h) else none
      | _ => none

def lineAssignment (line : List Char) : Option Assignment :=
  patterns.findSome? fun p => p.assignment (cstr line)

theorem take_eq_assignment (p : Pattern) (buf : List Char) :
    p.take buf = (p.assignment buf).map fun a s => a.apply s := by
  cases p with
  | ip =>
      simp only [Pattern.take, Pattern.assignment]
      rcases sscanf _ buf with _ | ⟨_ | _, _ | ⟨_, _⟩⟩ <;> rfl
  | int f =>
      simp only [Pattern.take, Pattern.assignment]
      rcases sscanf _ buf with _ | ⟨_ | _, _ | ⟨_, _⟩⟩ <;> rfl
  | size =>
      simp only [Pattern.take, Pattern.assignment]
      rcases sscanf _ buf with _ | ⟨w | _, _ | ⟨h | _, _ | ⟨_, _⟩⟩⟩ <;> try rfl
      by_cases hpos : 0 < w ∧ 0 < h
      · simp only [if_pos hpos]
        rfl
      · simp only [if_neg hpos]
        rfl

/-- The loader does what the line assigns. -/
theorem loadLine_eq (s : Settings) (line : List Char) :
    loadLine s (cstr line) = (lineAssignment line).elim s fun a => a.apply s := by
  have htake : (fun p : Pattern => p.take (cstr line)) =
      Option.map (fun a s => Assignment.apply s a) ∘ fun p => p.assignment (cstr line) := by
    funext p
    exact take_eq_assignment p (cstr line)
  rw [loadLine, htake, ← List.map_findSome?, lineAssignment]
  cases patterns.findSome? fun p => p.assignment (cstr line) <;> rfl

/-- What an assignment read from a line is like. -/
def Assignment.Readable : Assignment → Prop
  | .ip w => w.length ≤ 16 ∧ NUL ∉ w
  | .int _ _ => True
  | .size w h => 0 < w ∧ 0 < h

theorem assignment_eq_some {p : Pattern} {buf : List Char} {a : Assignment}
    (h : p.assignment buf = some a) (hnul : NUL ∉ buf) :
    a.pattern = p ∧ a.Readable ∧ p.key <+: buf := by
  have hkey : p.key <+: buf := by
    by_contra hno
    have hnone : p.take buf = none := take_of_not_prefix hno
    rw [take_eq_assignment, h] at hnone
    cases hnone
  cases p with
  | ip =>
      simp only [Pattern.assignment] at h
      split at h
      · rename_i w hw
        cases h
        obtain ⟨rest, rfl⟩ := hkey
        rw [sscanf_lits] at hw
        obtain ⟨hlen, hmem⟩ := sscanf_word_le hw
        refine ⟨rfl, ⟨hlen, fun hin => hnul ?_⟩, List.prefix_append _ _⟩
        exact List.mem_append_right _ (hmem NUL hin)
      · cases h
  | int f =>
      simp only [Pattern.assignment] at h
      split at h
      · cases h
        exact ⟨rfl, trivial, hkey⟩
      · cases h
  | size =>
      simp only [Pattern.assignment] at h
      split at h
      · split at h
        · rename_i hpos
          cases h
          exact ⟨rfl, hpos, hkey⟩
        · cases h
      · cases h

theorem lineAssignment_eq_some {line : List Char} {a : Assignment}
    (h : lineAssignment line = some a) : a.Readable ∧ a.pattern.key <+: cstr line := by
  obtain ⟨p, -, hp⟩ := List.exists_of_findSome?_eq_some h
  obtain ⟨rfl, hread, hkey⟩ := assignment_eq_some hp (nul_not_mem_cstr line)
  exact ⟨hread, hkey⟩

/-! ### The rest stays

The one line that reaches beyond its key is an address of 16 characters or more: `%16s`
puts the NUL behind `ip`, into the first byte of `port`. -/

/-- A line changes only members whose key it starts with. -/
structure OnlyNamed (buf : List Char) (s t : Settings) : Prop where
  ip : ¬ Pattern.ip.key <+: buf → t.ip = s.ip
  field : ∀ f, ¬ (Pattern.int f).key <+: buf → f.get t = f.get s
  size : ¬ Pattern.size.key <+: buf → t.v4l2Width = s.v4l2Width ∧ t.v4l2Height = s.v4l2Height
  encoder : t.encoder = s.encoder

/-- Clearing the low byte changes nothing where it is 0. -/
theorem and_low_byte (v : Int32) : v &&& -256 = v ↔ v &&& 255 = 0 := by
  constructor
  · intro h
    have hmask : (-256 : Int32) &&& 255 = 0 := by decide
    rw [← h, Int32.and_assoc, hmask, Int32.and_zero]
  · intro h
    have hmask : (-256 : Int32) ||| 255 = -1 := by decide
    calc v &&& -256 = (v &&& -256) ||| (v &&& 255) := by rw [h, Int32.or_zero]
      _ = v &&& ((-256) ||| 255) := (Int32.toBitVec_inj.1 BitVec.and_or_distrib_left).symm
      _ = v := by rw [hmask, Int32.and_neg_one]

theorem Field.get_storeIp {f : Field} {s : Settings} {w : List Char} (hf : f ≠ .port) :
    f.get (s.storeIp w) = f.get s := by
  cases f with
  | port => exact absurd rfl hf
  | _ => rfl

theorem storeIp_port {s : Settings} {w : List Char} :
    (s.storeIp w).port = s.port ↔ (16 ≤ w.length → s.port &&& 255 = 0) := by
  by_cases hlen : w.length < 16
  · simp [Settings.storeIp, hlen, Nat.not_le_of_lt hlen]
  · simp [Settings.storeIp, hlen, Nat.le_of_not_lt hlen, and_low_byte]

/-- Only an address of 16 characters reaches into another member. -/
theorem onlyNamed_iff {line : List Char} {s : Settings} :
    OnlyNamed (cstr line) s (loadLine s (cstr line)) ↔
      ∀ w, lineAssignment line = some (.ip w) → 16 ≤ w.length → s.port &&& 255 = 0 := by
  rw [loadLine_eq]
  cases ha : lineAssignment line with
  | none =>
      refine ⟨fun _ w hw => (by cases hw), fun _ => ?_⟩
      exact ⟨fun _ => rfl, fun _ _ => rfl, fun _ => ⟨rfl, rfl⟩, rfl⟩
  | some a =>
      have hkey := (lineAssignment_eq_some ha).2
      -- `ip` holds 16 bytes, `port` is what follows it
      cases a with
      | ip w =>
          have hport : ¬ (Pattern.int .port).key <+: cstr line := by
            intro hpre
            cases key_unique hkey hpre
          constructor
          · rintro hnamed w' hw'
            cases hw'
            exact storeIp_port.mp (hnamed.field .port hport)
          · intro hlow
            refine ⟨fun hno => absurd hkey hno, fun f _ => ?_, fun _ => ⟨rfl, rfl⟩, rfl⟩
            by_cases hf : f = .port
            · subst hf
              exact storeIp_port.mpr (hlow w rfl)
            · exact Field.get_storeIp hf
      | int f v =>
          refine ⟨fun _ w hw => (by cases hw), fun _ => ?_⟩
          refine ⟨fun _ => f.set_ip s v, fun g hg => ?_, fun _ => f.set_size s v, ?_⟩
          · have hne : g ≠ f := by
              rintro rfl
              exact hg hkey
            exact Field.set_frame hne
          · cases f <;> rfl
      | size w h =>
          refine ⟨fun _ w hw => (by cases hw), fun _ => ?_⟩
          exact ⟨fun _ => rfl, fun f _ => f.get_size s _ _, fun hno => absurd hkey hno, rfl⟩

/-! ### All lines

By induction from the last line backwards, since which line gives a value is decided by
the lines before it. -/

/-- The settings after these lines. -/
def afterLines (lines : List (List Char)) : Settings :=
  lines.foldl (fun s line => loadLine s (cstr line)) Settings.defaults

theorem afterLines_concat (lines : List (List Char)) (line : List Char) :
    afterLines (lines ++ [line]) = loadLine (afterLines lines) (cstr line) := by
  simp only [afterLines, List.foldl_append, List.foldl_cons, List.foldl_nil]

/-- The value that the line assigns to the member. -/
def assignedInt (f : Field) (line : List Char) : Option Int32 :=
  match lineAssignment line with
  | some (.int g v) => if g = f then some v else none
  | _ => none

def assignedIp (line : List Char) : Option (List Char) :=
  match lineAssignment line with
  | some (.ip w) => some w
  | _ => none

/-- The value of the last line that assigns the member, or its default. -/
def lastValue (f : Field) (lines : List (List Char)) : Int32 :=
  (lines.filterMap (assignedInt f)).getLast?.getD (f.get Settings.defaults)

def lastIp (lines : List (List Char)) : Option (List Char) :=
  (lines.filterMap assignedIp).getLast?

theorem lastValue_concat (f : Field) (lines : List (List Char)) (line : List Char) :
    lastValue f (lines ++ [line]) = (assignedInt f line).getD (lastValue f lines) := by
  rw [lastValue, List.filterMap_append]
  cases h : assignedInt f line with
  | none => simp [h, lastValue]
  | some v => simp [h]

theorem lastIp_concat (lines : List (List Char)) (line : List Char) :
    lastIp (lines ++ [line]) = (assignedIp line).or (lastIp lines) := by
  rw [lastIp, List.filterMap_append]
  cases h : assignedIp line with
  | none => simp [h, lastIp]
  | some w => simp [h]

/-- Every line of the file leaves the members it does not name alone. -/
def EachNamed (lines : List (List Char)) : Prop :=
  ∀ before line after, lines = before ++ line :: after →
    OnlyNamed (cstr line) (afterLines before) (afterLines (before ++ [line]))

/-- A member that no line reaches but its own has the last value assigned to it. -/
theorem EachNamed.get_eq {lines : List (List Char)} (h : EachNamed lines) (f : Field) :
    f.get (afterLines lines) = lastValue f lines := by
  induction lines using List.reverseRecOn with
  | nil => rfl
  | append_singleton lines line ih =>
      have hbefore : EachNamed lines := by
        rintro before line' after rfl
        exact h before line' (after ++ [line]) (by simp)
      have hline := h lines line [] rfl
      have hget := ih hbefore
      rw [lastValue_concat, ← hget]
      rw [afterLines_concat] at hline ⊢
      rw [loadLine_eq] at hline ⊢
      cases ha : lineAssignment line with
      | none => simp [assignedInt, ha]
      | some a =>
          have hkey := (lineAssignment_eq_some ha).2
          rw [ha] at hline
          cases a with
          -- an address leaves the numbers alone; one that did not was excluded above
          | ip w =>
              have hnone : assignedInt f line = none := by simp [assignedInt, ha]
              rw [hnone]
              apply hline.field f
              intro hpre
              cases key_unique hkey hpre
          | int g v =>
              by_cases hg : g = f
              · subst hg
                simp [assignedInt, ha, Assignment.apply]
              · have hnone : assignedInt f line = none := by simp [assignedInt, ha, hg]
                rw [hnone]
                exact Field.set_frame (Ne.symm hg)
          | size w h =>
              have hnone : assignedInt f line = none := by simp [assignedInt, ha]
              rw [hnone]
              exact f.get_size _ _ _

/-- An address of 16 characters finds a `port` whose low byte is 0. -/
def LongAddressesFit (lines : List (List Char)) : Prop :=
  ∀ before line after, lines = before ++ line :: after →
    ∀ w, assignedIp line = some w → 16 ≤ w.length → lastValue .port before &&& 255 = 0

theorem assignedIp_eq_some {line w : List Char} :
    assignedIp line = some w ↔ lineAssignment line = some (.ip w) := by
  unfold assignedIp
  split
  · rename_i w' hw
    simp [hw]
  · rename_i hother
    refine ⟨fun h => (by cases h), fun h => ?_⟩
    exact absurd h (hother w)

theorem eachNamed_iff {lines : List (List Char)} : EachNamed lines ↔ LongAddressesFit lines := by
  constructor
  · rintro h before line after rfl w hw
    have hbefore : EachNamed before := by
      rintro b l a rfl
      exact h b l (a ++ line :: after) (by simp)
    have hline := h before line after rfl
    rw [afterLines_concat, onlyNamed_iff] at hline
    rw [← hbefore.get_eq .port]
    exact hline w (assignedIp_eq_some.mp hw)
  · intro h
    induction lines using List.reverseRecOn with
    | nil =>
        intro before line after hnil
        simp at hnil
    | append_singleton lines line ih =>
        have hbefore : EachNamed lines := by
          apply ih
          rintro b l a rfl
          exact h b l (a ++ [line]) (by simp)
        intro b l a hsplit
        -- the line asked about is the last one, or it is among those before
        rcases List.eq_nil_or_concat a with rfl | ⟨a, x, rfl⟩
        · obtain ⟨rfl, hlast⟩ := List.append_inj' hsplit rfl
          cases hlast
          rw [afterLines_concat, onlyNamed_iff]
          intro w hw
          rw [show (afterLines lines).port = lastValue .port lines from hbefore.get_eq .port]
          exact h lines line [] rfl w (assignedIp_eq_some.mpr hw)
        · have hassoc : lines ++ [line] = (b ++ l :: a) ++ [x] := by
            rw [hsplit]
            simp
          obtain ⟨rfl, -⟩ := List.append_inj' hassoc rfl
          exact hbefore b l a rfl

/-! ### The address and the size

After an address of 16 characters `ip` has no NUL, and a shorter one brings it back. -/

/-- 16 characters leave no room for the NUL in `ip`. -/
theorem nul_mem_storeIp {s : Settings} {w : List Char} (hlen : w.length ≤ 16) (hnul : NUL ∉ w) :
    NUL ∈ (s.storeIp w).ip.chars ↔ w.length < 16 := by
  show NUL ∈ (w ++ [NUL]).take 16 ++ s.ip.chars.drop (w ++ [NUL]).length ↔ _
  constructor
  · intro hmem
    by_contra hlong
    have hfull : w.length = 16 := by omega
    have hdrop : s.ip.chars.drop (w ++ [NUL]).length = [] := by
      apply List.drop_eq_nil_of_le
      rw [s.ip.length_eq, List.length_append, hfull]
      decide
    rw [hdrop, List.append_nil, List.take_append_of_le_length hfull.ge,
      List.take_of_length_le hlen] at hmem
    exact hnul hmem
  · intro hshort
    apply List.mem_append_left
    rw [List.take_of_length_le (by rw [List.length_append, List.length_singleton]; omega)]
    exact List.mem_append_right _ List.mem_cons_self

theorem nul_mem_afterLines (lines : List (List Char)) :
    NUL ∈ (afterLines lines).ip.chars ↔ ∀ w, lastIp lines = some w → w.length < 16 := by
  induction lines using List.reverseRecOn with
  | nil =>
      refine ⟨fun _ w hw => (by cases hw), fun _ => ?_⟩
      show NUL ∈ List.replicate 16 NUL
      decide
  | append_singleton lines line ih =>
      rw [afterLines_concat, loadLine_eq, lastIp_concat]
      cases ha : lineAssignment line with
      | none => simpa [assignedIp, ha] using ih
      | some a =>
          cases a with
          | ip w =>
              obtain ⟨hlen, hnul⟩ := (lineAssignment_eq_some ha).1
              simpa [assignedIp, ha, Assignment.apply] using nul_mem_storeIp hlen hnul
          | int f v =>
              have hip : (f.set (afterLines lines) v).ip = (afterLines lines).ip := f.set_ip _ v
              simpa [assignedIp, ha, Assignment.apply, hip] using ih
          | size w h => simpa [assignedIp, ha, Assignment.apply] using ih

theorem size_afterLines (lines : List (List Char)) :
    1 ≤ (afterLines lines).v4l2Width.toNat ∧ 1 ≤ (afterLines lines).v4l2Height.toNat := by
  induction lines using List.reverseRecOn with
  | nil => decide
  | append_singleton lines line ih =>
      rw [afterLines_concat, loadLine_eq]
      cases ha : lineAssignment line with
      | none => exact ih
      | some a =>
          cases a with
          | ip w => exact ih
          | int f v =>
              obtain ⟨hwidth, hheight⟩ := f.set_size (afterLines lines) v
              simpa [Assignment.apply, hwidth, hheight] using ih
          | size w h =>
              obtain ⟨hw, hh⟩ := (lineAssignment_eq_some ha).1
              exact ⟨(toUInt32_size hw).1, (toUInt32_size hh).1⟩

/-! ### Version 4 files -/

/-- What the lines of a version 4 file should leave. -/
structure LoadsLines (lines : List (List Char)) (s : Settings) : Prop where
  terminated : NUL ∈ s.ip.chars
  size : 1 ≤ s.v4l2Width.toNat ∧ 1 ≤ s.v4l2Height.toNat
  fields : ∀ f : Field, f.get s = lastValue f lines
  named : EachNamed lines

/-- The last address fits in `ip`, and the long ones before it find a `port` that is a
    multiple of 256. -/
structure AddressesFit (lines : List (List Char)) : Prop where
  last : ∀ w, lastIp lines = some w → w.length < 16
  long : LongAddressesFit lines

theorem loadSettings_eq_afterLines {text first : List Char} {lines : List (List Char)}
    (hlines : splitLines text = first :: lines) (hfits : ∀ l ∈ first :: lines, l.length < BUF_SIZE)
    (hversion : readVersion (cstr first) = 4) : loadSettings (some text) = afterLines lines := by
  obtain ⟨rest, hread, hne, hrest⟩ := readLine_splitLines hlines
    (Nat.le_sub_one_of_lt (hfits first List.mem_cons_self))
  have hfgets : fgets BUF_SIZE text = some (first, rest) := by
    simp only [fgets, hread, hne, if_false]
  have hloop : allLines BUF_SIZE rest = lines := by
    rw [allLines_eq_splitLines, hrest]
    intro l hl
    exact hfits l (List.mem_cons_of_mem first (hrest ▸ hl))
  simp only [loadSettings, hfgets, hversion]
  show loadV4 Settings.defaults rest = _
  rw [loadV4, hloop]
  rfl

/-- **What `LoadSettings` makes of a version 4 file** of lines that fit its buffer. -/
theorem loads_lines_iff {text first : List Char} {lines : List (List Char)}
    (hlines : splitLines text = first :: lines) (hfits : ∀ l ∈ first :: lines, l.length < BUF_SIZE)
    (hversion : readVersion (cstr first) = 4) :
    LoadsLines lines (loadSettings (some text)) ↔ AddressesFit lines := by
  rw [loadSettings_eq_afterLines hlines hfits hversion]
  constructor
  · intro h
    exact ⟨(nul_mem_afterLines lines).mp h.terminated, eachNamed_iff.mp h.named⟩
  · intro h
    have hnamed := eachNamed_iff.mpr h.long
    exact ⟨(nul_mem_afterLines lines).mpr h.last, size_afterLines lines, hnamed.get_eq, hnamed⟩

/-- A host name of 16 characters after a port of 19 * 256, and a short address after it. -/
theorem loads_lines_iff_multiple :
    LoadsLines ["port=4864\n".toList, "ip=pixel-phone.home\n".toList, "ip=10.0.0.7\n".toList]
      (loadSettings (some "v4\nport=4864\nip=pixel-phone.home\nip=10.0.0.7\n".toList)) := by
  have hlines : splitLines "v4\nport=4864\nip=pixel-phone.home\nip=10.0.0.7\n".toList =
      "v4\n".toList :: ["port=4864\n".toList, "ip=pixel-phone.home\n".toList,
        "ip=10.0.0.7\n".toList] := by decide +kernel
  refine (loads_lines_iff hlines (by decide +kernel) (by decide +kernel)).mpr ⟨?_, ?_⟩
  · intro w hw
    have hlast : lastIp ["port=4864\n".toList, "ip=pixel-phone.home\n".toList,
        "ip=10.0.0.7\n".toList] = some "10.0.0.7".toList := by decide +kernel
    rw [hlast] at hw
    cases hw
    decide
  · intro before line after hsplit w hw hlong
    match before, hsplit with
    | [], hsplit =>
        cases hsplit
        exact absurd hw (by
          rw [show assignedIp "port=4864\n".toList = none by decide +kernel]
          simp)
    | [_], hsplit =>
        cases hsplit
        decide +kernel
    | [_, _], hsplit =>
        cases hsplit
        rw [show assignedIp "ip=10.0.0.7\n".toList = some "10.0.0.7".toList by
          decide +kernel] at hw
        cases hw
        exact absurd hlong (by decide)
    | _ :: _ :: _ :: _, hsplit => simp at hsplit

/-- A host name of 16 characters: there is no NUL in `ip`, and `port` is 4608. -/
theorem loads_lines_overflow :
    ¬ ∀ (text first : List Char) (lines : List (List Char)),
      splitLines text = first :: lines → (∀ l ∈ first :: lines, l.length < BUF_SIZE) →
        readVersion (cstr first) = 4 → LoadsLines lines (loadSettings (some text)) := by
  intro h
  have hloads := h "v4\nip=pixel-phone.home\n".toList "v4\n".toList
    ["ip=pixel-phone.home\n".toList] (by decide +kernel) (by decide +kernel) (by decide +kernel)
  have hport : (loadSettings (some "v4\nip=pixel-phone.home\n".toList)).port = 4608 := by
    decide +kernel
  have hdefault : lastValue .port ["ip=pixel-phone.home\n".toList] = 4747 := by decide +kernel
  exact absurd (hport.symm.trans ((hloads.fields .port).trans hdefault)) (by decide)

end DroidCam.SettingsFile
