import DroidCam.Lib.CString

/-
  DroidCam/BatteryLabel.lean
  ==========================
  The label that `BatteryThreadProc` makes of a response.

  The response is a page of HTTP: the number is what follows the empty line.  Two
  loops share the index `i`: the first looks for CR LF CR LF, the second copies
  digits from where the first stopped.  Accesses are checked, so a run without a
  fault keeps to both arrays.
-/

namespace DroidCam.BatteryLabel

open CString

/-! ### `BatteryThreadProc` -/

/-- `sizeof(buf)` and `sizeof(battery_value)`. -/
def BUF_SIZE : Nat := 128

def VALUE_SIZE : Nat := 32

/-- The comparisons `buf[i] == .. && buf[i+1] == ..`, up to the first that fails. -/
def matchesAt (buf : CharArray BUF_SIZE) : Nat → List Char → Except OutOfBounds Bool
  | _, [] => .ok true
  | i, c :: cs => do
      let x ← buf.load i
      if x = c then matchesAt buf (i + 1) cs else .ok false

def CRLFCRLF : List Char := ['\r', '\n', '\r', '\n']

/-- The loop over the header; it ends at `sizeof(buf) - 4` where there is no break. -/
def skipHeader (buf : CharArray BUF_SIZE) (i : Nat) : Except OutOfBounds Nat := do
  if i < BUF_SIZE - 4 then
    if ← matchesAt buf i CRLFCRLF then .ok (i + 4)
    else skipHeader buf (i + 1)
  else .ok i
termination_by BUF_SIZE - i

/-- The loop over the digits. -/
def copyDigits (buf : CharArray BUF_SIZE) (i j : Nat) (batteryValue : CharArray VALUE_SIZE) :
    Except OutOfBounds (Nat × CharArray VALUE_SIZE) := do
  if i < BUF_SIZE ∧ j < VALUE_SIZE - 2 then
    let c ← buf.load i
    if '0' ≤ c ∧ c ≤ '9' then
      let batteryValue ← batteryValue.store j c
      copyDigits buf (i + 1) (j + 1) batteryValue
    else .ok (j, batteryValue)
  else .ok (j, batteryValue)
termination_by BUF_SIZE - i

/-- `if (j == 0) battery_value[j++] = '-'`. -/
def dashIfEmpty (j : Nat) (batteryValue : CharArray VALUE_SIZE) :
    Except OutOfBounds (Nat × CharArray VALUE_SIZE) :=
  if j = 0 then (batteryValue.store j '-').map fun v => (j + 1, v) else .ok (j, batteryValue)

/-- From the search for the empty line to `UpdateBatteryLabel`. -/
def batteryValueOf (buf : CharArray BUF_SIZE) (batteryValue : CharArray VALUE_SIZE) :
    Except OutOfBounds (CharArray VALUE_SIZE) := do
  let i ← skipHeader buf 0
  let (j, batteryValue) ← copyDigits buf i 0 batteryValue
  let (j, batteryValue) ← dashIfEmpty j batteryValue
  let batteryValue ← batteryValue.store j '%'
  batteryValue.store (j + 1) NUL

/-- `buf` after `memset` and `RecvAll`. -/
def received (response : List Char) : CharArray BUF_SIZE := (CharArray.zero BUF_SIZE).put response

/-- One turn of the loop from `memset` on, on whatever the turn before has left in
    `battery_value`.  Nothing is displayed where nothing was received. -/
def batteryTurn (batteryValue : CharArray VALUE_SIZE) (response : List Char) :
    Except OutOfBounds (Option (CharArray VALUE_SIZE)) :=
  if response = [] then .ok none else (batteryValueOf (received response) batteryValue).map some

/-! ### The label -/

/-- At most 30 digits. -/
def digitRun (s : List Char) : List Char := (s.takeWhile Char.isDigit).take (VALUE_SIZE - 2)

def withPercent (digits : List Char) : List Char :=
  (if digits = [] then ['-'] else digits) ++ ['%']

/-- The digits behind the empty line, and none where there is no empty line. -/
def label (buf : List Char) : List Char :=
  withPercent (digitRun ((afterFirst CRLFCRLF buf).getD []))

/-- No access leaves an array, and what is displayed is the label of the response. -/
def Labelled (batteryValue : CharArray VALUE_SIZE) (response : List Char) : Prop :=
  ∃ displayed, batteryTurn batteryValue response = .ok displayed ∧
    ∀ value, displayed = some value → cstr value.chars = label (received response).chars

/-! ### The loops

Each loop is followed over the characters that are left of the buffer; its bounds are
what makes every load and store of it land inside the array. -/

theorem matchesAt_eq (buf : CharArray BUF_SIZE) (cs : List Char) :
    ∀ {i : Nat}, i + cs.length ≤ BUF_SIZE →
      matchesAt buf i cs = .ok (decide (cs <+: buf.chars.drop i)) := by
  induction cs with
  | nil =>
      intro i _
      simp [matchesAt]
  | cons c cs ih =>
      intro i hi
      rw [List.length_cons] at hi
      obtain ⟨x, hx⟩ := buf.drop_eq_cons (show i < BUF_SIZE by omega)
      have hrest := ih (show i + 1 + cs.length ≤ BUF_SIZE by omega)
      rw [matchesAt, CharArray.load_eq hx, hx]
      show (if x = c then matchesAt buf (i + 1) cs else .ok false) = _
      split
      · rename_i heq
        simp [hrest, heq, List.cons_prefix_cons]
      · rename_i hne
        simp [List.cons_prefix_cons, Ne.symm hne]

/-- Where the first loop stops: behind the empty line, or at `sizeof(buf) - 4` when it
    has not found one.  One that ends with the buffer is not found. -/
inductive Stopped (buf : CharArray BUF_SIZE) (start : Nat) : Nat → Prop
  | found (k : Nat) (hk : k ≤ BUF_SIZE)
      (h : afterFirst CRLFCRLF (buf.chars.drop start) = some (buf.chars.drop k)) :
      Stopped buf start k
  | atEnd (h : afterFirst CRLFCRLF (buf.chars.drop start) = some [])
      (hlast : CRLFCRLF <+: buf.chars.drop (BUF_SIZE - 4)) : Stopped buf start (BUF_SIZE - 4)
  | missing (h : afterFirst CRLFCRLF (buf.chars.drop start) = none) :
      Stopped buf start (BUF_SIZE - 4)

theorem afterFirst_step {buf : CharArray BUF_SIZE} {i : Nat} (hi : i < BUF_SIZE)
    (hno : ¬ CRLFCRLF <+: buf.chars.drop i) :
    afterFirst CRLFCRLF (buf.chars.drop i) = afterFirst CRLFCRLF (buf.chars.drop (i + 1)) := by
  obtain ⟨c, hc⟩ := buf.drop_eq_cons hi
  rw [hc] at hno ⊢
  rw [afterFirst, if_neg hno]

theorem afterFirst_found {buf : CharArray BUF_SIZE} {i : Nat} (hi : i < BUF_SIZE)
    (hpre : CRLFCRLF <+: buf.chars.drop i) :
    afterFirst CRLFCRLF (buf.chars.drop i) = some (buf.chars.drop (i + 4)) := by
  obtain ⟨c, hc⟩ := buf.drop_eq_cons hi
  rw [hc] at hpre
  rw [hc, afterFirst, if_pos hpre, ← hc, List.drop_drop]
  rfl

theorem skipHeader_stopped (buf : CharArray BUF_SIZE) {i : Nat} (hi : i ≤ BUF_SIZE - 4) :
    ∃ k, skipHeader buf i = .ok k ∧ Stopped buf i k := by
  fun_induction skipHeader buf i with
  | case1 i hlt ih =>
      have hmatch := matchesAt_eq buf CRLFCRLF
        (show i + CRLFCRLF.length ≤ BUF_SIZE by
          simp only [CRLFCRLF, List.length_cons, List.length_nil, BUF_SIZE] at hlt ⊢
          omega)
      have hin : i < BUF_SIZE := by omega
      simp only [hmatch]
      by_cases hpre : CRLFCRLF <+: buf.chars.drop i
      -- the loop's `break`, with `i` just behind the blank line
      · refine ⟨i + 4, by simp [hpre, bind, Except.bind], .found _ (by omega) ?_⟩
        exact afterFirst_found hin hpre
      · obtain ⟨k, hk, hstopped⟩ := ih (by omega)
        refine ⟨k, by simp [hpre, bind, Except.bind, hk], ?_⟩
        have hstep := afterFirst_step hin hpre
        cases hstopped with
        | found _ hle h => exact .found k hle (hstep.trans h)
        | atEnd h hlast => exact .atEnd (hstep.trans h) hlast
        | missing h => exact .missing (hstep.trans h)
  | case2 i hend =>
      obtain rfl : i = BUF_SIZE - 4 := by omega
      refine ⟨_, rfl, ?_⟩
      -- the loop ran to its bound, `i = sizeof(buf) - 4`: what stands there was not
      -- compared
      by_cases hpre : CRLFCRLF <+: buf.chars.drop (BUF_SIZE - 4)
      · refine .atEnd ?_ hpre
        rw [afterFirst_found (by decide) hpre, List.drop_eq_nil_of_le]
        exact buf.length_eq.le
      · refine .missing ?_
        rw [afterFirst_step (by decide) hpre]
        apply afterFirst_of_short
        rw [List.length_drop, buf.length_eq]
        decide

theorem isDigit_iff {c : Char} : c.isDigit = true ↔ '0' ≤ c ∧ c ≤ '9' := by
  simp [Char.isDigit, Char.le_def]

/-- The digits go behind what is in front of `battery_value`. -/
theorem copyDigits_eq (buf : CharArray BUF_SIZE) (i j : Nat) (value : CharArray VALUE_SIZE)
    {front : List Char} (hj : front.length = j) (hle : j ≤ VALUE_SIZE - 2)
    (hfront : front <+: value.chars) :
    ∃ v, copyDigits buf i j value = .ok (j + (((buf.chars.drop i).takeWhile Char.isDigit).take
        (VALUE_SIZE - 2 - j)).length, v) ∧
      front ++ ((buf.chars.drop i).takeWhile Char.isDigit).take (VALUE_SIZE - 2 - j) <+:
        v.chars := by
  fun_induction copyDigits buf i j value generalizing front with
  | case1 i j value hin ih =>
      obtain ⟨c, hc⟩ := buf.drop_eq_cons hin.1
      have hsize : j < VALUE_SIZE := by omega
      rw [CharArray.load_eq hc]
      simp only [bind, Except.bind]
      -- a digit is stored and the loop goes on; anything else, the zero byte included,
      -- ends it
      by_cases hdigit : '0' ≤ c ∧ c ≤ '9'
      · obtain ⟨v, hstore, hv⟩ := CharArray.store_eq c hfront (hj ▸ hsize)
        rw [hj] at hstore
        have hlen : (front ++ [c]).length = j + 1 := by
          rw [List.length_append, hj, List.length_singleton]
        obtain ⟨w, hcopy, hw⟩ := ih v hlen (by omega) hv
        obtain ⟨r, hr⟩ : ∃ r, VALUE_SIZE - 2 - j = r + 1 := ⟨VALUE_SIZE - 2 - j - 1, by omega⟩
        have hnext : VALUE_SIZE - 2 - (j + 1) = r := by omega
        rw [hnext] at hcopy hw
        have htake : ((buf.chars.drop i).takeWhile Char.isDigit).take (VALUE_SIZE - 2 - j) =
            c :: ((buf.chars.drop (i + 1)).takeWhile Char.isDigit).take r := by
          rw [hc, List.takeWhile_cons, if_pos (isDigit_iff.mpr hdigit), hr, List.take_succ_cons]
        refine ⟨w, ?_, ?_⟩
        · rw [if_pos hdigit, hstore]
          simp only [hcopy, htake, List.length_cons]
          congr 2
          omega
        · rw [htake]
          simpa using hw
      · have htake : (buf.chars.drop i).takeWhile Char.isDigit = [] := by
          rw [hc, List.takeWhile_cons, if_neg (mt isDigit_iff.mp hdigit)]
        refine ⟨value, by rw [if_neg hdigit, htake]; simp, ?_⟩
        rw [htake]
        simpa using hfront
  | case2 i j value hout =>
      have htake : ((buf.chars.drop i).takeWhile Char.isDigit).take (VALUE_SIZE - 2 - j) = [] := by
        by_cases hi : i < BUF_SIZE
        · have hfull : VALUE_SIZE - 2 - j = 0 := by omega
          rw [hfull, List.take_zero]
        · rw [List.drop_eq_nil_of_le (buf.length_eq.trans_le (Nat.le_of_not_lt hi)),
            List.takeWhile_nil, List.take_nil]
      refine ⟨value, by rw [htake]; rfl, ?_⟩
      rw [htake, List.append_nil]
      exact hfront

/-- The label is made of the digits from where the first loop stopped. -/
theorem batteryValueOf_eq {buf : CharArray BUF_SIZE} {k : Nat} (value : CharArray VALUE_SIZE)
    (hk : skipHeader buf 0 = .ok k) :
    ∃ v, batteryValueOf buf value = .ok v ∧
      cstr v.chars = withPercent (digitRun (buf.chars.drop k)) := by
  obtain ⟨v, hcopy, hv⟩ := copyDigits_eq buf k 0 value List.length_nil
    (Nat.zero_le _) List.nil_prefix
  rw [Nat.sub_zero] at hcopy hv
  rw [List.nil_append] at hv
  rw [Nat.zero_add] at hcopy
  have hrun : ((buf.chars.drop k).takeWhile Char.isDigit).take (VALUE_SIZE - 2) =
      digitRun (buf.chars.drop k) := rfl
  rw [hrun] at hcopy hv
  have hdigits : ∀ c ∈ digitRun (buf.chars.drop k), c.isDigit = true := by
    intro c hc
    exact List.mem_takeWhile_imp (List.mem_of_mem_take hc)
  have hlen : (digitRun (buf.chars.drop k)).length ≤ VALUE_SIZE - 2 := List.length_take_le _ _
  generalize digitRun (buf.chars.drop k) = ds at hcopy hv hdigits hlen ⊢
  -- the minus sign in place of the number
  obtain ⟨w, hminus, hw⟩ : ∃ w, dashIfEmpty ds.length v =
      .ok ((if ds = [] then ['-'] else ds).length, w) ∧
        (if ds = [] then ['-'] else ds) <+: w.chars := by
    cases ds with
    | nil =>
        obtain ⟨w, hstore, hw⟩ := CharArray.store_eq '-' hv (by decide)
        refine ⟨w, ?_, hw⟩
        rw [dashIfEmpty, if_pos List.length_nil, hstore]
        rfl
    | cons c ds => exact ⟨v, rfl, hv⟩
  generalize hnumber : (if ds = [] then ['-'] else ds) = number at hminus hw
  have hnumberLen : number.length ≤ VALUE_SIZE - 2 := by
    rw [← hnumber]
    split
    · decide
    · exact hlen
  have hnul : NUL ∉ number ++ ['%'] := by
    have hplain : NUL ∉ number := by
      rw [← hnumber]
      split
      · decide
      · intro hmem
        exact absurd (hdigits NUL hmem) (by decide)
    simpa using ⟨hplain, (by decide : NUL ≠ '%')⟩
  obtain ⟨x, hpercent, hx⟩ := CharArray.store_eq '%' hw
    (Nat.lt_of_le_of_lt hnumberLen (by decide))
  obtain ⟨y, hend, hy⟩ := CharArray.store_eq NUL hx (by
    rw [List.length_append, List.length_singleton]
    exact Nat.lt_of_le_of_lt (Nat.succ_le_succ hnumberLen) (by decide))
  rw [List.length_append, List.length_singleton] at hend
  refine ⟨y, ?_, ?_⟩
  · simp only [batteryValueOf, hk, bind, Except.bind, hcopy, hminus, hpercent, hend]
  · obtain ⟨rest, hrest⟩ := hy
    rw [← hrest, List.append_assoc (number ++ ['%']), List.singleton_append,
      cstr_append_nul hnul, withPercent, hnumber]

/-! ### The label of a response -/

theorem withPercent_inj {ds : List Char} (hds : ∀ c ∈ ds, c.isDigit = true) :
    withPercent ds = withPercent [] ↔ ds = [] := by
  refine ⟨fun h => ?_, fun h => by rw [h]⟩
  cases ds with
  | nil => rfl
  | cons c ds =>
      have hhead : c = '-' := (List.cons.inj h).1
      have hdigit := hds c List.mem_cons_self
      rw [hhead] at hdigit
      exact absurd hdigit (by decide)

theorem digitRun_eq_nil {s : List Char} :
    digitRun s = [] ↔ ∀ c, s.head? = some c → c.isDigit = false := by
  cases s with
  | nil => simp [digitRun]
  | cons c s => 
      cases hc : c.isDigit <;> simp [digitRun, hc, VALUE_SIZE]

theorem labelled_iff_digitRun {batteryValue : CharArray VALUE_SIZE} {response : List Char} {k : Nat}
    (hne : response ≠ []) (hk : skipHeader (received response) 0 = .ok k) :
    Labelled batteryValue response ↔
      withPercent (digitRun ((received response).chars.drop k)) =
        label (received response).chars := by
  obtain ⟨v, hv, hlabel⟩ := batteryValueOf_eq batteryValue hk
  have hturn : batteryTurn batteryValue response = .ok (some v) := by
    rw [batteryTurn, if_neg hne, hv]
    rfl
  rw [← hlabel]
  constructor
  · rintro ⟨displayed, hok, hdisplayed⟩
    rw [hturn] at hok
    cases hok
    exact hdisplayed v rfl
  · intro h
    refine ⟨some v, hturn, ?_⟩
    intro value hvalue
    cases hvalue
    exact h

/-- Without an empty line the digits at `sizeof(buf) - 4` are displayed. -/
theorem labelled_of_missing {batteryValue : CharArray VALUE_SIZE} {response : List Char}
    (hne : response ≠ []) (hmissing : afterFirst CRLFCRLF (received response).chars = none) :
    Labelled batteryValue response ↔
      ∀ c, (received response).chars[BUF_SIZE - 4]? = some c → c.isDigit = false := by
  obtain ⟨k, hk, hstopped⟩ :=
    skipHeader_stopped (received response) (Nat.zero_le (BUF_SIZE - 4))
  rw [labelled_iff_digitRun hne hk, label, hmissing]
  cases hstopped with
  | found _ _ h =>
      rw [List.drop_zero, hmissing] at h
      cases h
  | atEnd h =>
      rw [List.drop_zero, hmissing] at h
      cases h
  | missing =>
      have hdigits : ∀ c ∈ digitRun ((received response).chars.drop (BUF_SIZE - 4)),
          c.isDigit = true := fun c hc => List.mem_takeWhile_imp (List.mem_of_mem_take hc)
      have hnone : digitRun (Option.getD none []) = [] := rfl
      rw [hnone, withPercent_inj hdigits, digitRun_eq_nil, List.head?_drop]

/-- Behind an empty line the label is right, at the end of the buffer too. -/
theorem labelled_of_header {batteryValue : CharArray VALUE_SIZE} {response rest : List Char}
    (hne : response ≠ []) (hheader : afterFirst CRLFCRLF (received response).chars = some rest) :
    Labelled batteryValue response := by
  obtain ⟨k, hk, hstopped⟩ :=
    skipHeader_stopped (received response) (Nat.zero_le (BUF_SIZE - 4))
  rw [labelled_iff_digitRun hne hk, label, hheader, Option.getD_some]
  cases hstopped with
  | found _ _ h =>
      rw [List.drop_zero, hheader] at h
      rw [Option.some.inj h]
  | atEnd h hlast =>
      rw [List.drop_zero, hheader] at h
      -- a blank line in the last four bytes: the text from there on starts with `\r`
      have hnone : digitRun ((received response).chars.drop (BUF_SIZE - 4)) = [] := by
        rw [digitRun_eq_nil]
        obtain ⟨tail, htail⟩ := hlast
        intro c hc
        rw [← htail] at hc
        cases hc
        decide
      rw [hnone, Option.some.inj h]
      rfl
  | missing h =>
      rw [List.drop_zero, hheader] at h
      cases h

/-- **When the displayed label is that of the response**: where it has an empty line,
    or its byte at `sizeof(buf) - 4` is no digit. -/
theorem labelled_iff (batteryValue : CharArray VALUE_SIZE) (response : List Char) :
    Labelled batteryValue response ↔
      (afterFirst CRLFCRLF (received response).chars).isSome = true ∨
        ∀ c, (received response).chars[BUF_SIZE - 4]? = some c → c.isDigit = false := by
  by_cases hne : response = []
  · subst hne
    have hlast : (received []).chars[BUF_SIZE - 4]? = some NUL := by decide +kernel
    constructor
    · intro _
      right
      intro c hc
      rw [hlast] at hc
      cases hc
      rfl
    · intro _
      refine ⟨none, rfl, ?_⟩
      intro value hvalue
      cases hvalue
  · cases hheader : afterFirst CRLFCRLF (received response).chars with
    | none => simpa using labelled_of_missing hne hheader
    | some rest => simpa using labelled_of_header hne hheader

/-- The labels of a response with a number behind its header, and of one without a
    header. -/
example : label "HTTP/1.1 200 OK\r\n\r\n87\r\n".toList = "87%".toList ∧
    label "87".toList = "-%".toList := by
  decide +kernel

/-- 124 bytes without an empty line, and a digit behind them: it is displayed. -/
theorem label_without_header :
    ¬ ∀ (batteryValue : CharArray VALUE_SIZE) (response : List Char),
      Labelled batteryValue response := by
  intro h
  have hlabelled := h (CharArray.zero VALUE_SIZE) (List.replicate 124 'x' ++ ['7'])
  rw [labelled_of_missing (by decide) (by decide +kernel)] at hlabelled
  exact absurd (hlabelled '7' (by decide +kernel)) (by decide)

end DroidCam.BatteryLabel
