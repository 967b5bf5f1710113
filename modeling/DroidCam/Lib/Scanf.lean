import DroidCam.Lib.CString

/-
  DroidCam/Lib/Scanf.lean
  =======================
  **Decimal numbers and the directives of `sscanf`.**

  `sscanf` stops at the first directive that does not match; what it assigned
  before that stays assigned, so its result is the list of the values it assigned.
  An early end of the input, which it reports as `EOF`, is a list like any other.

  * `IsDecimal` — the texts of a number, `printInt` among them;
  * `scanNumber_decimal`, `sscanf_int`, `sscanf_word` — what a text is read as;
  * `sscanf_lits`, `sscanf_lits_of_not_prefix` — dispatch on a key.
-/

namespace Scanf

open CString

/-- `isspace` of the C locale. -/
def isSpace (c : Char) : Bool := c.toNat == 32 || (9 ≤ c.toNat && c.toNat ≤ 13)

def skipSpace (s : List Char) : List Char := s.dropWhile isSpace

/-! ### Numbers

printf writes a number without blanks or a plus sign, but a file that was edited may
have signs and leading zeros. -/

/-- A text that is a decimal number, with this value. -/
inductive IsDecimal : List Char → Int → Prop
  | plain {ds : List Char} (hne : ds ≠ []) (hds : ∀ c ∈ ds, c.isDigit = true) :
      IsDecimal ds (Nat.ofDigitChars 10 ds 0)
  | plus {ds : List Char} (hne : ds ≠ []) (hds : ∀ c ∈ ds, c.isDigit = true) :
      IsDecimal ('+' :: ds) (Nat.ofDigitChars 10 ds 0)
  | minus {ds : List Char} (hne : ds ≠ []) (hds : ∀ c ∈ ds, c.isDigit = true) :
      IsDecimal ('-' :: ds) (-Nat.ofDigitChars 10 ds 0)

/-- The sign of a number, and what follows it. -/
def scanSign : List Char → Bool × List Char
  | '-' :: s => (true, s)
  | '+' :: s => (false, s)
  | s => (false, s)

/-- The number at the start of a text, after white space, and what follows it. -/
def scanNumber (s : List Char) : Option (Int × List Char) :=
  let r := scanSign (skipSpace s)
  let ds := r.2.takeWhile Char.isDigit
  if ds = [] then none
  else
    let n : Int := Nat.ofDigitChars 10 ds 0
    some (if r.1 then -n else n, r.2.dropWhile Char.isDigit)

/-- `printf("%d")`. -/
def printInt (v : Int32) : List Char :=
  let digits := Nat.toDigits 10 v.toInt.natAbs
  if v.toInt < 0 then '-' :: digits else digits

theorem printInt_decimal (v : Int32) : IsDecimal (printInt v) v.toInt := by
  have hne : Nat.toDigits 10 v.toInt.natAbs ≠ [] := Nat.toDigits_ne_nil
  have hds : ∀ c ∈ Nat.toDigits 10 v.toInt.natAbs, c.isDigit = true := fun c hc =>
    Nat.isDigit_of_mem_toDigits (by decide) (by decide) hc
  have hval : Nat.ofDigitChars 10 (Nat.toDigits 10 v.toInt.natAbs) 0 = v.toInt.natAbs :=
    Nat.ofDigitChars_ten_toDigits
  unfold printInt
  dsimp only
  split
  · rename_i hneg
    have h := IsDecimal.minus hne hds
    rw [hval] at h
    rwa [show -(v.toInt.natAbs : Int) = v.toInt by omega] at h
  · rename_i hpos
    have h := IsDecimal.plain hne hds
    rw [hval] at h
    rwa [show (v.toInt.natAbs : Int) = v.toInt by omega] at h

theorem printInt_length (v : Int32) : (printInt v).length ≤ 11 := by
  have hlo := v.le_toInt
  have hhi := v.toInt_lt
  have hdigits : (Nat.toDigits 10 v.toInt.natAbs).length ≤ 10 := by
    rw [Nat.length_toDigits_le_iff (by decide) (by decide)]
    omega
  unfold printInt
  dsimp only
  split
  · rw [List.length_cons]
    omega
  · omega

/-- Nothing in a number is white space, a newline or a NUL. -/
theorem isDigit_plain {c : Char} (h : c.isDigit = true) :
    isSpace c = false ∧ c ≠ NUL ∧ c ≠ '\n' := by
  have hrange : 48 ≤ c.toNat ∧ c.toNat ≤ 57 := Char.isDigit_iff_toNat.mp h
  refine ⟨?_, ?_, ?_⟩
  · simp only [isSpace, Bool.or_eq_false_iff, beq_eq_false_iff_ne, Bool.and_eq_false_iff,
      decide_eq_false_iff_not]
    omega
  · rintro rfl
    exact absurd hrange.1 (by decide)
  · rintro rfl
    exact absurd hrange.1 (by decide)

theorem IsDecimal.chars {text : List Char} {v : Int} (h : IsDecimal text v) :
    ∀ c ∈ text, isSpace c = false ∧ c ≠ NUL ∧ c ≠ '\n' := by
  cases h with
  | plain _ hds => exact fun c hc => isDigit_plain (hds c hc)
  | plus _ hds =>
      intro c hc
      rcases List.mem_cons.mp hc with rfl | hc
      · decide
      · exact isDigit_plain (hds c hc)
  | minus _ hds =>
      intro c hc
      rcases List.mem_cons.mp hc with rfl | hc
      · decide
      · exact isDigit_plain (hds c hc)

theorem IsDecimal.ne_nil {text : List Char} {v : Int} (h : IsDecimal text v) : text ≠ [] := by
  cases h with
  | plain hne _ => exact hne
  | plus | minus => exact List.cons_ne_nil _ _

theorem skipSpace_append {s rest : List Char} (hne : s ≠ []) (h : ∀ c ∈ s, isSpace c = false) :
    skipSpace (s ++ rest) = s ++ rest := by
  obtain ⟨c, s, rfl⟩ := List.exists_cons_of_ne_nil hne
  have hc := h c List.mem_cons_self
  simp [skipSpace, hc]

theorem skipSpace_of_all {s : List Char} (h : ∀ c ∈ s, isSpace c = true) : skipSpace s = [] := by
  rw [skipSpace, List.dropWhile_eq_nil_iff]
  exact h

/-- No digit follows. -/
def NoDigit (rest : List Char) : Prop := ∀ c, rest.head? = some c → c.isDigit = false

theorem takeDigits {ds rest : List Char} (hds : ∀ c ∈ ds, c.isDigit = true)
    (hrest : NoDigit rest) :
    (ds ++ rest).takeWhile Char.isDigit = ds ∧ (ds ++ rest).dropWhile Char.isDigit = rest := by
  rw [List.takeWhile_append_of_pos hds, List.dropWhile_append_of_pos hds]
  cases rest with
  | nil => simp
  | cons c rest =>
      have hc := hrest c rfl
      simp [hc]

/-- **A number is read whole.** -/
theorem scanNumber_decimal {text rest : List Char} {v : Int} (h : IsDecimal text v)
    (hrest : NoDigit rest) : scanNumber (text ++ rest) = some (v, rest) := by
  have hskip : skipSpace (text ++ rest) = text ++ rest :=
    skipSpace_append h.ne_nil fun c hc => (h.chars c hc).1
  rw [scanNumber, hskip]
  cases h with
  | plain hne hds =>
      obtain ⟨htake, hdrop⟩ := takeDigits hds hrest
      have hsign : scanSign (text ++ rest) = (false, text ++ rest) := by
        obtain ⟨c, ds, rfl⟩ := List.exists_cons_of_ne_nil hne
        have hc := hds c List.mem_cons_self
        rw [List.cons_append]
        unfold scanSign
        split
        -- a digit is no sign
        · rename_i heq
          rw [(List.cons.inj heq).1] at hc
          exact absurd hc (by decide)
        · rename_i heq
          rw [(List.cons.inj heq).1] at hc
          exact absurd hc (by decide)
        · rfl
      simp [hsign, htake, hdrop, hne]
  | plus hne hds =>
      obtain ⟨htake, hdrop⟩ := takeDigits hds hrest
      simp [scanSign, htake, hdrop, hne]
  | minus hne hds =>
      obtain ⟨htake, hdrop⟩ := takeDigits hds hrest
      simp [scanSign, htake, hdrop, hne]

/-- What `%d` stores for a number: a `long` that is cut off at its bounds, converted to
    `int`. -/
def intOf (v : Int) : Int32 := (Int64.ofIntClamp v).toInt32

@[simp] theorem intOf_toInt (v : Int32) : intOf v.toInt = v := by
  rw [intOf, Int64.ofIntClamp_int32ToInt]
  simp

/-- A number that an `int` holds is stored as it is. -/
theorem toInt_intOf {v : Int} (hlo : -2147483648 ≤ v) (hhi : v ≤ 2147483647) :
    (intOf v).toInt = v := by
  have hv : (Int32.ofInt v).toInt = v := Int32.toInt_ofInt_of_le hlo (by omega)
  rw [← hv, intOf_toInt]

/-- `strtoul(s, NULL, 10)`. -/
def strtoul (s : List Char) : UInt64 :=
  match scanNumber s with
  | none => 0
  | some (v, _) =>
      if 18446744073709551616 ≤ v.natAbs then 18446744073709551615
      else (Int64.ofInt v).toUInt64

theorem strtoul_decimal {text rest : List Char} {v : Int32} (h : IsDecimal text v.toInt)
    (hrest : NoDigit rest) : (strtoul (text ++ rest)).toInt64.toInt32 = v := by
  have hlo := v.le_toInt
  have hhi := v.toInt_lt
  have hfits : ¬ 18446744073709551616 ≤ v.toInt.natAbs := by omega
  rw [strtoul, scanNumber_decimal h hrest]
  simp only [hfits, if_false]
  simp

/-! ### Directives

A format is the list of its directives. sscanf stops at the first one that does not
match, so the number of values says how far it has come. -/

inductive Directive where
  /-- A character that is neither `%` nor white space. -/
  | lit (c : Char)
  /-- White space in the format. -/
  | space
  /-- `%d` -/
  | int
  /-- `%`width`s` -/
  | word (width : Nat)
deriving DecidableEq, Repr

/-- A value that was assigned. -/
inductive Value where
  | int (v : Int32)
  | word (w : List Char)
deriving DecidableEq, Repr

def sscanf : List Directive → List Char → List Value
  | [], _ => []
  | .lit c :: ds, s =>
      match s with
      | [] => []
      | x :: xs => if x = c then sscanf ds xs else []
  | .space :: ds, s => sscanf ds (skipSpace s)
  | .int :: ds, s =>
      match scanNumber s with
      | none => []
      | some (v, rest) => .int (intOf v) :: sscanf ds rest
  | .word width :: ds, s =>
      let t := skipSpace s
      let w := (t.take width).takeWhile fun c => !isSpace c
      if w = [] then [] else .word w :: sscanf ds (t.drop w.length)

/-- The format that starts with these characters. -/
def lits (key : List Char) : List Directive := key.map .lit

theorem sscanf_lits {key s : List Char} {ds : List Directive} :
    sscanf (lits key ++ ds) (key ++ s) = sscanf ds s := by
  induction key with
  | nil => rfl
  | cons c key ih => simpa [lits, sscanf] using ih

/-- A text that does not start with the key. -/
theorem sscanf_lits_of_not_prefix {key s : List Char} {ds : List Directive}
    (h : ¬ key <+: s) : sscanf (lits key ++ ds) s = [] := by
  induction key generalizing s with
  | nil => exact absurd List.nil_prefix h
  | cons c key ih =>
      cases s with
      | nil => rfl
      | cons x s =>
          show (if x = c then sscanf (lits key ++ ds) s else []) = []
          split
          · rename_i heq
            apply ih
            intro hpre
            exact h (List.cons_prefix_cons.mpr ⟨heq.symm, hpre⟩)
          · rfl

/-- `%d` takes a number of any size. -/
theorem sscanf_number {text rest : List Char} {v : Int} {ds : List Directive}
    (h : IsDecimal text v) (hrest : NoDigit rest) :
    sscanf (.int :: ds) (text ++ rest) = .int (intOf v) :: sscanf ds rest := by
  rw [sscanf, scanNumber_decimal h hrest]

theorem sscanf_int {text rest : List Char} {v : Int32} {ds : List Directive}
    (h : IsDecimal text v.toInt) (hrest : NoDigit rest) :
    sscanf (.int :: ds) (text ++ rest) = .int v :: sscanf ds rest := by
  rw [sscanf_number h hrest, intOf_toInt]

/-- A word, before white space, of which `width` characters are taken. -/
theorem sscanf_word {w rest : List Char} {width : Nat} {ds : List Directive} (hne : w ≠ [])
    (hpos : 0 < width) (hw : ∀ c ∈ w, isSpace c = false)
    (hrest : ∀ c, rest.head? = some c → isSpace c = true) :
    sscanf (.word width :: ds) (w ++ rest) =
      .word (w.take width) :: sscanf ds (w.drop width ++ rest) := by
  have hnot : ∀ c ∈ w.take width, (!isSpace c) = true := fun c hc => by
    simp [hw c (List.mem_of_mem_take hc)]
  have htake : (((w ++ rest).take width).takeWhile fun c => !isSpace c) = w.take width := by
    rw [List.take_append, List.takeWhile_append_of_pos hnot]
    -- a longer word is cut off at the width, a shorter one at the space that follows it
    cases rest with
    | nil => simp
    | cons c rest =>
        have hc := hrest c rfl
        cases width - w.length <;> simp [hc]
  have htaken : w.take width ≠ [] := by
    simp [hne, Nat.ne_of_gt hpos]
  have hdrop : (w ++ rest).drop (w.take width).length = w.drop width ++ rest := by
    rw [List.length_take]
    rcases Nat.le_total width w.length with hle | hle
    · rw [Nat.min_eq_left hle, List.drop_append_of_le_length hle]
    · rw [Nat.min_eq_right hle, List.drop_of_length_le hle, List.drop_left, List.nil_append]
  rw [sscanf, skipSpace_append hne hw]
  simp only [htake, htaken, if_false, hdrop]

/-- A word that was assigned: its length, and where its characters are from. -/
theorem sscanf_word_le {s w : List Char} {width : Nat} {ds : List Directive} {vs : List Value}
    (h : sscanf (.word width :: ds) s = .word w :: vs) : w.length ≤ width ∧ ∀ c ∈ w, c ∈ s := by
  rw [sscanf] at h
  split at h
  · cases h
  · cases h
    constructor
    · exact (List.takeWhile_prefix _).length_le.trans (List.length_take_le _ _)
    · intro c hc
      have htake := (List.takeWhile_prefix _).subset hc
      exact (List.dropWhile_suffix _).subset (List.mem_of_mem_take htake)

/-- No word, where only white space is left. -/
theorem sscanf_word_of_space {s : List Char} {width : Nat} {ds : List Directive}
    (h : ∀ c ∈ s, isSpace c = true) : sscanf (.word width :: ds) s = [] := by
  rw [sscanf, skipSpace_of_all h]
  simp

/-- Where no other format takes the text, the first that takes it is the one that
    does, if any. -/
theorem findSome?_of_unique {ι β : Type*} {l : List ι} {f : ι → Option β} {i : ι} (hi : i ∈ l)
    (h : ∀ j ∈ l, j ≠ i → f j = none) : l.findSome? f = f i := by
  cases hfi : f i with
  | none =>
      rw [List.findSome?_eq_none_iff]
      intro j hj
      by_cases heq : j = i
      · rwa [heq]
      · exact h j hj heq
  | some b =>
      induction l with
      | nil => cases hi
      | cons j l ih =>
          by_cases heq : j = i
          · rw [List.findSome?_cons, heq, hfi]
          · have hmem : i ∈ l := (List.mem_cons.mp hi).resolve_left (Ne.symm heq)
            rw [List.findSome?_cons, h j List.mem_cons_self heq]
            exact ih hmem fun k hk => h k (List.mem_cons_of_mem j hk)

end Scanf
