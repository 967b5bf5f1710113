import DroidCam.Lib.Scanf

/-
  DroidCam/Lib/KernelText.lean
  ============================
  **The numbers that a Linux kernel reads from a text**: `%d` of its `sscanf`, and
  `kstrtoul` with base 0.

  They differ from those of the C library: `%d` takes no plus sign, and a value that does
  not fit is reduced and not cut off; `kstrtoul` takes no minus sign, reads octal and
  hexadecimal numbers by their prefix, and wants the whole text, but for one newline.

  * `scanInt_printInt`, `kstrtoul_printInt` — what `printf("%d")` prints is read back.
-/

namespace KernelText

open Scanf

/-! ### Signed numbers

The kernel reads as the C library does, but for a plus sign, which it does not take, and
for what is a space. -/

/-- `isspace` of the kernel; the no-break space of Latin-1 is one too. -/
def isSpace (c : Char) : Bool := Scanf.isSpace c || c.toNat == 160

def scanMinus : List Char → Bool × List Char
  | '-' :: s => (true, s)
  | s => (false, s)

/-- The number that `%d` finds, before it is stored in an `int`, and what follows it. -/
def scanInt (s : List Char) : Option (Int × List Char) :=
  let r := scanMinus (s.dropWhile isSpace)
  let digits := r.2.takeWhile Char.isDigit
  if digits = [] then none
  else
    let n : Int := Nat.ofDigitChars 10 digits 0
    some (if r.1 then -n else n, r.2.dropWhile Char.isDigit)

/-- A digit is no white space and no sign. -/
theorem isSpace_of_isDigit {c : Char} (h : c.isDigit = true) : isSpace c = false := by
  have hrange : 48 ≤ c.toNat ∧ c.toNat ≤ 57 := Char.isDigit_iff_toNat.mp h
  simp only [isSpace, (isDigit_plain h).1, Bool.false_or, beq_eq_false_iff_ne]
  omega

theorem scanInt_digits {ds rest : List Char} (hne : ds ≠ []) (hds : ∀ c ∈ ds, c.isDigit = true)
    (hrest : NoDigit rest) :
    scanInt (ds ++ rest) = some ((Nat.ofDigitChars 10 ds 0 : Int), rest) ∧
      scanInt ('-' :: (ds ++ rest)) = some (-(Nat.ofDigitChars 10 ds 0 : Int), rest) := by
  obtain ⟨htake, hdrop⟩ := takeDigits hds hrest
  constructor
  · have hskip : (ds ++ rest).dropWhile isSpace = ds ++ rest := by
      obtain ⟨c, cs, rfl⟩ := List.exists_cons_of_ne_nil hne
      rw [List.cons_append, List.dropWhile_cons,
        if_neg (by simp [isSpace_of_isDigit (hds c List.mem_cons_self)])]
    have hplain : scanMinus (ds ++ rest) = (false, ds ++ rest) := by
      obtain ⟨c, cs, rfl⟩ := List.exists_cons_of_ne_nil hne
      have hc := hds c List.mem_cons_self
      rw [List.cons_append]
      unfold scanMinus
      split
      · rename_i heq
        rw [(List.cons.inj heq).1] at hc
        exact absurd hc (by decide)
      · rfl
    simp [scanInt, hskip, hplain, htake, hdrop, hne]
  · have hskip : ('-' :: (ds ++ rest)).dropWhile isSpace = '-' :: (ds ++ rest) := by
      rw [List.dropWhile_cons, if_neg (by decide)]
    simp [scanInt, hskip, scanMinus, htake, hdrop, hne]

/-- **What `%d` prints, `%d` reads.** -/
theorem scanInt_printInt (v : Int32) {rest : List Char} (hrest : NoDigit rest) :
    scanInt (printInt v ++ rest) = some (v.toInt, rest) := by
  have hne : Nat.toDigits 10 v.toInt.natAbs ≠ [] := Nat.toDigits_ne_nil
  have hds : ∀ c ∈ Nat.toDigits 10 v.toInt.natAbs, c.isDigit = true := fun c hc =>
    Nat.isDigit_of_mem_toDigits (by decide) (by decide) hc
  obtain ⟨hplain, hminus⟩ := scanInt_digits hne hds hrest
  rw [Nat.ofDigitChars_ten_toDigits] at hplain hminus
  unfold printInt
  dsimp only
  split
  · rw [List.cons_append, hminus, show -(v.toInt.natAbs : Int) = v.toInt by omega]
  · rw [hplain, show (v.toInt.natAbs : Int) = v.toInt by omega]

/-! ### Unsigned numbers

A number that starts with 0 is in another base, so what is printed can be read back only
because no other digit 0 comes first. -/

/-- The value of a digit in any base up to 16. -/
def digitValue (c : Char) : Option Nat :=
  if c.isDigit then some (c.toNat - '0'.toNat)
  else if 'a' ≤ c.toLower ∧ c.toLower ≤ 'f' then some (c.toLower.toNat - 'a'.toNat + 10)
  else none

def isDigitOf (base : Nat) (c : Char) : Bool :=
  match digitValue c with
  | some v => v < base
  | none => false

/-- The base that the prefix stands for, and the text behind it. -/
def radix : List Char → Nat × List Char
  | '0' :: x :: h :: rest =>
    if x.toLower = 'x' ∧ (digitValue h).isSome then (16, h :: rest) else (8, '0' :: x :: h :: rest)
  | '0' :: rest => (8, '0' :: rest)
  | s => (10, s)

def parseInteger (base : Nat) (digits : List Char) : Nat :=
  digits.foldl (fun sofar c => base * sofar + (digitValue c).getD 0) 0

def skipPlus : List Char → List Char
  | '+' :: s => s
  | s => s

/-- `kstrtoul(s, 0, &res)` of a kernel with 64-bit longs; no value is an error. -/
def kstrtoul (s : List Char) : Option Nat :=
  let r := radix (skipPlus s)
  let digits := r.2.takeWhile (isDigitOf r.1)
  let rest := r.2.dropWhile (isDigitOf r.1)
  let value := parseInteger r.1 digits
  if digits = [] ∨ 18446744073709551616 ≤ value then none
  else if rest = [] ∨ rest = ['\n'] then some value
  else none

theorem digitValue_of_isDigit {c : Char} (h : c.isDigit = true) :
    digitValue c = some (c.toNat - '0'.toNat) := if_pos h

theorem isDigitOf_ten {c : Char} (h : c.isDigit = true) : isDigitOf 10 c = true := by
  have hrange : 48 ≤ c.toNat ∧ c.toNat ≤ 57 := Char.isDigit_iff_toNat.mp h
  have hzero : '0'.toNat = 48 := rfl
  simp only [isDigitOf, digitValue_of_isDigit h, decide_eq_true_eq]
  omega

/-- In base 10 the value is that of the decimal number. -/
theorem parseInteger_ten {ds : List Char} (hds : ∀ c ∈ ds, c.isDigit = true) :
    parseInteger 10 ds = Nat.ofDigitChars 10 ds 0 := by
  rw [parseInteger, Nat.ofDigitChars_eq_foldl]
  apply List.foldl_ext
  intro sofar c hc
  rw [digitValue_of_isDigit (hds c hc), Option.getD_some]

/-- A decimal number other than 0 has no prefix. -/
theorem head_toDigits_ne_zero {n : Nat} (h : 0 < n) : (Nat.toDigits 10 n).head? ≠ some '0' := by
  induction n using Nat.strongRecOn with
  | ind n ih =>
      -- the first digit is that of the quotient until the quotient is a digit
      by_cases hlt : n < 10
      · rw [Nat.toDigits_of_lt_base hlt]
        intro heq
        have hdigit : n.digitChar = '0' := by simpa using heq
        have hvalues : ∀ m < 10, 0 < m → m.digitChar ≠ '0' := by decide
        exact hvalues n hlt h hdigit
      · have hle : 10 ≤ n := Nat.le_of_not_lt hlt
        rw [Nat.toDigits_of_base_le (by decide) hle, List.head?_append]
        have hquot : 0 < n / 10 := by omega
        have hsmaller := ih (n / 10) (by omega) hquot
        have hne : Nat.toDigits 10 (n / 10) ≠ [] := Nat.toDigits_ne_nil
        obtain ⟨c, cs, hcs⟩ := List.exists_cons_of_ne_nil hne
        rw [hcs] at hsmaller ⊢
        exact hsmaller

theorem skipPlus_of_ne {c : Char} (h : c ≠ '+') (s : List Char) : skipPlus (c :: s) = c :: s := by
  unfold skipPlus
  split
  · rename_i heq
    exact absurd (List.cons.inj heq).1 h
  · rfl

theorem radix_of_ne {c : Char} (h : c ≠ '0') (s : List Char) : radix (c :: s) = (10, c :: s) := by
  unfold radix
  split
  · rename_i heq
    exact absurd (List.cons.inj heq).1 h
  · rename_i heq
    exact absurd (List.cons.inj heq).1 h
  · rfl

theorem kstrtoul_toDigits {n : Nat} (hn : n < 18446744073709551616) :
    kstrtoul (Nat.toDigits 10 n ++ ['\n']) = some n := by
  rcases Nat.eq_zero_or_pos n with rfl | hpos
  · decide
  · have hds : ∀ c ∈ Nat.toDigits 10 n, c.isDigit = true := fun c hc =>
      Nat.isDigit_of_mem_toDigits (by decide) (by decide) hc
    have hhead := head_toDigits_ne_zero hpos
    have hvalue : parseInteger 10 (Nat.toDigits 10 n) = n :=
      (parseInteger_ten hds).trans Nat.ofDigitChars_ten_toDigits
    obtain ⟨c, cs, hcs⟩ := List.exists_cons_of_ne_nil (Nat.toDigits_ne_nil (n := n) (b := 10))
    rw [hcs] at hds hhead hvalue ⊢
    have hc := hds c List.mem_cons_self
    -- no prefix of another base and no sign: the text starts with a digit that is not 0
    have hplus : c ≠ '+' := by
      rintro rfl
      exact absurd hc (by decide)
    have hzero : c ≠ '0' := by
      rintro rfl
      exact hhead rfl
    have hdigits : ∀ d ∈ c :: cs, isDigitOf 10 d = true := fun d hd => isDigitOf_ten (hds d hd)
    have htake : (c :: cs ++ ['\n']).takeWhile (isDigitOf 10) = c :: cs := by
      rw [List.takeWhile_append_of_pos hdigits]
      simp [show isDigitOf 10 '\n' = false by decide]
    have hdrop : (c :: cs ++ ['\n']).dropWhile (isDigitOf 10) = ['\n'] := by
      rw [List.dropWhile_append_of_pos hdigits]
      simp [show isDigitOf 10 '\n' = false by decide]
    rw [kstrtoul, List.cons_append, skipPlus_of_ne hplus, radix_of_ne hzero, ← List.cons_append]
    have hfits : ¬ (c :: cs = [] ∨ 18446744073709551616 ≤ n) := by simp [hn]
    simp only [htake, hdrop, hvalue, if_neg hfits, or_true, if_true]

/-- **What `%d` prints, `kstrtoul` reads**, unless it has a minus sign. -/
theorem kstrtoul_printInt (v : Int32) :
    kstrtoul (printInt v ++ ['\n']) = if 0 ≤ v.toInt then some v.toInt.toNat else none := by
  have hhi := v.toInt_lt
  unfold printInt
  dsimp only
  split
  · rename_i hneg
    rw [if_neg (by omega), List.cons_append, kstrtoul, skipPlus_of_ne (by decide),
      radix_of_ne (by decide)]
    simp [show isDigitOf 10 '-' = false by decide]
  · rename_i hpos
    rw [if_pos (by omega), show v.toInt.natAbs = v.toInt.toNat by omega]
    exact kstrtoul_toDigits (by omega)

end KernelText
