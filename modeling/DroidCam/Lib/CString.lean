import Mathlib.Data.List.Basic
import Mathlib.Data.List.TakeWhile

/-
  DroidCam/Lib/CString.lean
  =========================
  **Strings in `char` arrays, and lines read with `fgets`.**

  A buffer is the list of its characters and the string in it ends before the first
  NUL.  A stream is the list of the characters that are still to be read.

  * `CharArray` — an array whose length its type fixes; `put`, `strncpy`; `load` and
    `store` of one element, which fail outside the array;
  * `fgets`, `allLines` — one line, and the lines a loop over `fgets` sees;
    `allLines_flatMap` reads back the lines a text was made of;
  * `splitLines` — the lines of any text; `allLines_eq_splitLines` where they fit.
-/

namespace CString

def NUL : Char := '\x00'

/-- The string in a buffer. -/
def cstr (buf : List Char) : List Char := buf.takeWhile (· ≠ NUL)

@[simp] theorem cstr_of_no_nul {s : List Char} (h : NUL ∉ s) : cstr s = s := by
  rw [cstr, List.takeWhile_eq_self_iff]
  intro c hc
  have hne : c ≠ NUL := fun heq => h (heq ▸ hc)
  simpa using hne

/-- A NUL after the string ends it. -/
theorem cstr_append_nul {s rest : List Char} (h : NUL ∉ s) : cstr (s ++ NUL :: rest) = s := by
  have hne : ∀ c ∈ s, decide (c ≠ NUL) = true := by
    intro c hc
    have hne : c ≠ NUL := fun heq => h (heq ▸ hc)
    simpa using hne
  rw [cstr, List.takeWhile_append_of_pos hne]
  simp

theorem nul_not_mem_cstr (buf : List Char) : NUL ∉ cstr buf := by
  intro h
  have hp := List.mem_takeWhile_imp h
  simp at hp

/-! ### Arrays -/

/-- A `char` array of `n` elements. -/
structure CharArray (n : Nat) where
  chars : List Char
  length_eq : chars.length = n

variable {n : Nat}

def CharArray.zero (n : Nat) : CharArray n := ⟨List.replicate n NUL, List.length_replicate⟩

/-- Put characters at the start of the array; what does not fit is not in it. -/
def CharArray.put (a : CharArray n) (cs : List Char) : CharArray n where
  chars := cs.take n ++ a.chars.drop cs.length
  length_eq := by
    have h := a.length_eq
    simp only [List.length_append, List.length_take, List.length_drop]
    omega

/-- `strncpy(a, src, k)`: the string, cut or filled with NUL to `k` characters. -/
def CharArray.strncpy (a : CharArray n) (src : List Char) (k : Nat) : CharArray n :=
  a.put (src.take k ++ List.replicate (k - src.length) NUL)

/-- `a[i] = c`. -/
def CharArray.set (a : CharArray n) (i : Nat) (c : Char) : CharArray n where
  chars := a.chars.set i c
  length_eq := by rw [List.length_set, a.length_eq]

theorem CharArray.put_chars {a : CharArray n} {cs : List Char} (h : cs.length ≤ n) :
    (a.put cs).chars = cs ++ a.chars.drop cs.length := by
  show cs.take n ++ a.chars.drop cs.length = cs ++ a.chars.drop cs.length
  rw [List.take_of_length_le h]

/-- An access to element `i` of an array of `size` elements that is not there. -/
structure OutOfBounds where
  i : Nat
  size : Nat
deriving DecidableEq, Repr

def CharArray.load (a : CharArray n) (i : Nat) : Except OutOfBounds Char :=
  match a.chars[i]? with
  | some c => .ok c
  | none => .error ⟨i, n⟩

def CharArray.store (a : CharArray n) (i : Nat) (c : Char) : Except OutOfBounds (CharArray n) :=
  if i < n then .ok (a.set i c) else .error ⟨i, n⟩

/-- The element is the first of those from it on. -/
theorem CharArray.load_eq {a : CharArray n} {i : Nat} {c : Char} {s : List Char}
    (h : a.chars.drop i = c :: s) : a.load i = .ok c := by
  have hget : a.chars[i]? = some c := by
    rw [← List.head?_drop, h, List.head?_cons]
  rw [CharArray.load, hget]

theorem CharArray.drop_eq_cons (a : CharArray n) {i : Nat} (hi : i < n) :
    ∃ c, a.chars.drop i = c :: a.chars.drop (i + 1) := by
  have hlt : i < a.chars.length := hi.trans_eq a.length_eq.symm
  exact ⟨_, List.drop_eq_getElem_cons hlt⟩

/-- Storing behind a front puts the character behind it. -/
theorem CharArray.store_eq {a : CharArray n} {front : List Char} (c : Char)
    (hfront : front <+: a.chars) (hi : front.length < n) :
    ∃ b, a.store front.length c = .ok b ∧ front ++ [c] <+: b.chars := by
  refine ⟨a.set front.length c, if_pos hi, ?_⟩
  obtain ⟨rest, hrest⟩ := hfront
  have hlen := a.length_eq
  cases rest with
  -- the store is inside the array, so the front is not all of it
  | nil =>
      rw [List.append_nil] at hrest
      rw [hrest] at hi
      omega
  | cons x rest =>
      refine ⟨rest, ?_⟩
      show (front ++ [c]) ++ rest = a.chars.set front.length c
      rw [← hrest, List.set_append_right _ _ (Nat.le_refl _), Nat.sub_self, List.set_cons_zero,
        List.append_assoc, List.singleton_append]

/-! ### Lines

fgets stops at a newline or when the buffer is full, so the lines of a file are those of
its text as long as each fits the buffer. A longer one comes in pieces. -/

/-- Read up to `count` characters, and no further than the first newline. -/
def readLine : Nat → List Char → List Char × List Char
  | 0, fp => ([], fp)
  | _ + 1, [] => ([], [])
  | count + 1, c :: fp =>
      if c = '\n' then ([c], fp)
      else
        let r := readLine count fp
        (c :: r.1, r.2)

/-- `fgets` with a buffer of `size` characters; the NUL it appends is left out. -/
def fgets (size : Nat) (fp : List Char) : Option (List Char × List Char) :=
  let r := readLine (size - 1) fp
  if r.1 = [] then none else some r

theorem readLine_append {count : Nat} {line rest : List Char} (hline : '\n' ∉ line)
    (hcount : line.length < count) :
    readLine count (line ++ '\n' :: rest) = (line ++ ['\n'], rest) := by
  induction line generalizing count with
  | nil =>
      obtain ⟨k, rfl⟩ : ∃ k, count = k + 1 := ⟨count - 1, by simp at hcount; omega⟩
      simp [readLine]
  | cons c line ih =>
      obtain ⟨k, rfl⟩ : ∃ k, count = k + 1 := ⟨count - 1, by simp at hcount; omega⟩
      simp only [List.mem_cons, not_or] at hline
      have hrest := ih hline.2 (by simpa using hcount)
      simp [readLine, Ne.symm hline.1, hrest]

theorem readLine_last {count : Nat} {line : List Char} (hline : '\n' ∉ line)
    (hcount : line.length ≤ count) : readLine count line = (line, []) := by
  induction line generalizing count with
  | nil => cases count <;> rfl
  | cons c line ih =>
      obtain ⟨k, rfl⟩ : ∃ k, count = k + 1 := ⟨count - 1, by simp at hcount; omega⟩
      simp only [List.mem_cons, not_or] at hline
      have hrest := ih hline.2 (by simpa using hcount)
      simp [readLine, Ne.symm hline.1, hrest]

/-- Nothing is read twice or skipped. -/
theorem readLine_parts (count : Nat) (fp : List Char) :
    (readLine count fp).1 ++ (readLine count fp).2 = fp := by
  induction count generalizing fp with
  | zero => rfl
  | succ count ih =>
      cases fp with
      | nil => rfl
      | cons c fp =>
          rw [readLine]
          split
          · rfl
          · rw [List.cons_append, ih]

/-- A line with its newline. -/
theorem fgets_line {size : Nat} {line rest : List Char} (hline : '\n' ∉ line)
    (hsize : line.length + 1 < size) :
    fgets size (line ++ '\n' :: rest) = some (line ++ ['\n'], rest) := by
  simp only [fgets, readLine_append hline (Nat.lt_sub_of_add_lt hsize)]
  simp

/-- A last line without a newline. -/
theorem fgets_last {size : Nat} {line : List Char} (hline : '\n' ∉ line) (hne : line ≠ [])
    (hsize : line.length < size) : fgets size line = some (line, []) := by
  simp only [fgets, readLine_last hline (Nat.le_sub_one_of_lt hsize), hne, if_false]

/-- The end of the stream comes nearer. -/
theorem fgets_shorter {size : Nat} {fp line rest : List Char}
    (h : fgets size fp = some (line, rest)) : rest.length < fp.length := by
  have hparts := congrArg List.length (readLine_parts (size - 1) fp)
  simp only [fgets] at h
  split at h
  · cases h
  · rename_i hne
    have hline : readLine (size - 1) fp = (line, rest) := Option.some.inj h
    rw [hline] at hne hparts
    have hpos := List.length_pos_of_ne_nil hne
    simp only [List.length_append] at hparts hpos
    omega

/-- The lines that the next `fuel` calls of `fgets` return. -/
def linesWithin (size : Nat) : Nat → List Char → List (List Char)
  | 0, _ => []
  | fuel + 1, fp =>
      match fgets size fp with
      | none => []
      | some (line, rest) => line :: linesWithin size fuel rest

/-- What a loop over `fgets` reads, one line each time round. -/
def allLines (size : Nat) (fp : List Char) : List (List Char) := linesWithin size fp.length fp

theorem linesWithin_eq_allLines {size fuel : Nat} {fp : List Char} (h : fp.length ≤ fuel) :
    linesWithin size fuel fp = allLines size fp := by
  induction fuel using Nat.strong_induction_on generalizing fp with
  | _ fuel ih =>
      cases fuel with
      | zero =>
          obtain rfl : fp = [] := List.eq_nil_of_length_eq_zero (Nat.le_zero.mp h)
          rfl
      | succ fuel =>
          -- by strong induction: fgets takes at least one character, and both amounts
          -- of fuel have enough for the rest
          cases hline : fgets size fp with
          | none =>
              cases hfp : fp.length <;> simp [allLines, linesWithin, hfp, hline]
          | some r =>
              obtain ⟨line, rest⟩ := r
              have hshort := fgets_shorter hline
              obtain ⟨k, hk⟩ : ∃ k, fp.length = k + 1 := ⟨fp.length - 1, by omega⟩
              have hfuel : linesWithin size fuel rest = allLines size rest :=
                ih fuel (Nat.lt_succ_self fuel) (by omega)
              have hlen : linesWithin size k rest = allLines size rest :=
                ih k (by omega) (by omega)
              simp only [allLines, linesWithin, hk, hline, hfuel] at hlen ⊢
              rw [hlen]

@[simp] theorem allLines_nil (size : Nat) : allLines size [] = [] := rfl

/-- **Once round the loop.** -/
theorem allLines_of_fgets {size : Nat} {fp line rest : List Char}
    (h : fgets size fp = some (line, rest)) :
    allLines size fp = line :: allLines size rest := by
  have hshort := fgets_shorter h
  obtain ⟨k, hk⟩ : ∃ k, fp.length = k + 1 := ⟨fp.length - 1, by omega⟩
  rw [allLines, hk, linesWithin, h]
  dsimp only
  rw [linesWithin_eq_allLines (by omega)]

/-- The lines of a text made of lines that fit, the last of them open or closed. -/
theorem allLines_flatMap {size : Nat} {ls : List (List Char)} {last : List Char}
    (hls : ∀ l ∈ ls, '\n' ∉ l ∧ l.length + 1 < size) (hlast : '\n' ∉ last)
    (hsize : last.length < size) :
    allLines size (ls.flatMap (· ++ ['\n']) ++ last) =
      ls.map (· ++ ['\n']) ++ if last = [] then [] else [last] := by
  induction ls with
  -- at the end of the file an open last line counts if it is not empty
  | nil =>
      rw [List.flatMap_nil, List.nil_append, List.map_nil, List.nil_append]
      split
      · rename_i hnil
        rw [hnil, allLines_nil]
      · rename_i hne
        rw [allLines_of_fgets (fgets_last hlast hne hsize), allLines_nil]
  | cons l ls ih =>
      have hl := hls l (List.mem_cons_self)
      have htail := ih fun l' hl' => hls l' (List.mem_cons_of_mem l hl')
      have hread : fgets size (l ++ '\n' :: (ls.flatMap (· ++ ['\n']) ++ last)) =
          some (l ++ ['\n'], ls.flatMap (· ++ ['\n']) ++ last) := fgets_line hl.1 hl.2
      rw [List.flatMap_cons, List.append_assoc, List.append_assoc, List.singleton_append,
        allLines_of_fgets hread, htail, List.map_cons, List.cons_append]

/-- A line that does not fit is read up to the size of the buffer. -/
theorem readLine_long {count : Nat} {line rest : List Char} (hline : '\n' ∉ line)
    (hcount : count ≤ line.length) :
    readLine count (line ++ rest) = (line.take count, line.drop count ++ rest) := by
  induction line generalizing count with
  | nil =>
      obtain rfl : count = 0 := Nat.le_zero.mp hcount
      rfl
  | cons c line ih =>
      cases count with
      | zero => rfl
      | succ count =>
          simp only [List.mem_cons, not_or] at hline
          have hrest := ih hline.2 (Nat.le_of_succ_le_succ hcount)
          simp [readLine, Ne.symm hline.1, hrest]

/-- **A newline ends a piece**: what is read of a line does not depend on what follows. -/
theorem allLines_line {size : Nat} (hsize : 2 ≤ size) {line rest : List Char}
    (hline : '\n' ∉ line) :
    allLines size (line ++ '\n' :: rest) =
      allLines size (line ++ ['\n']) ++ allLines size rest := by
  induction h : line.length using Nat.strong_induction_on generalizing line with
  | _ n ih =>
      -- a line that does not fit is read in pieces of size - 1, and the induction is on
      -- what is left of it
      by_cases hfits : line.length + 1 < size
      · have hread : ∀ s, fgets size (line ++ '\n' :: s) = some (line ++ ['\n'], s) :=
          fun s => fgets_line hline hfits
        rw [allLines_of_fgets (hread rest), allLines_of_fgets (hread []), allLines_nil]
        rfl
      · have hread : ∀ s, fgets size (line ++ s) =
            some (line.take (size - 1), line.drop (size - 1) ++ s) := by
          intro s
          have hne : line.take (size - 1) ≠ [] := by
            intro hnil
            have hlen := congrArg List.length hnil
            rw [List.length_take, List.length_nil] at hlen
            omega
          have hlong : readLine (size - 1) (line ++ s) =
              (line.take (size - 1), line.drop (size - 1) ++ s) :=
            readLine_long hline (by omega)
          simp only [fgets, hlong, hne, if_false]
        have hshort : (line.drop (size - 1)).length < n := by
          rw [List.length_drop]
          omega
        have hrest := ih _ hshort (fun hmem => hline (List.mem_of_mem_drop hmem)) rfl
        rw [allLines_of_fgets (hread _), allLines_of_fgets (hread _), hrest, List.cons_append]

theorem allLines_lines {size : Nat} (hsize : 2 ≤ size) {ls : List (List Char)}
    (hls : ∀ l ∈ ls, '\n' ∉ l) :
    allLines size (ls.flatMap (· ++ ['\n'])) =
      ls.flatMap fun l => allLines size (l ++ ['\n']) := by
  induction ls with
  | nil => rfl
  | cons l ls ih =>
      rw [List.flatMap_cons, List.append_assoc, List.singleton_append,
        allLines_line hsize (hls l List.mem_cons_self),
        ih fun l' hl' => hls l' (List.mem_cons_of_mem l hl'), List.flatMap_cons]

/-- The lines of a text, each with its newline; the last may have none. -/
def splitLines : List Char → List (List Char)
  | [] => []
  | c :: s =>
      if c = '\n' then [c] :: splitLines s
      else
        match splitLines s with
        | [] => [[c]]
        | l :: ls => (c :: l) :: ls

theorem splitLines_eq_nil {s : List Char} (h : splitLines s = []) : s = [] := by
  cases s with
  | nil => rfl
  | cons c s =>
      rw [splitLines] at h
      split at h
      · cases h
      · split at h <;> cases h

/-- The first line is read whole where it fits. -/
theorem readLine_splitLines {s l : List Char} {ls : List (List Char)} {count : Nat}
    (h : splitLines s = l :: ls) (hcount : l.length ≤ count) :
    ∃ rest, readLine count s = (l, rest) ∧ l ≠ [] ∧ splitLines rest = ls := by
  induction s generalizing l count with
  | nil => cases h
  | cons c s ih =>
      -- a line of the list has at least one character, so the buffer has room for one
      have hpos : 0 < count := by
        rw [splitLines] at h
        split at h
        · cases h
          exact hcount
        · split at h <;> cases h <;> exact Nat.lt_of_lt_of_le (Nat.succ_pos _) hcount
      obtain ⟨k, rfl⟩ : ∃ k, count = k + 1 := ⟨count - 1, by omega⟩
      rw [splitLines] at h
      rw [readLine]
      split at h
      · rename_i hnewline
        cases h
        rw [if_pos hnewline]
        exact ⟨s, rfl, List.cons_ne_nil _ _, rfl⟩
      · rename_i hchar
        rw [if_neg hchar]
        split at h
        -- the text ends with this line, which is open
        · rename_i hnil
          obtain rfl := splitLines_eq_nil hnil
          cases h
          refine ⟨[], ?_, List.cons_ne_nil _ _, rfl⟩
          cases k <;> rfl
        · rename_i l' ls' hlines
          cases h
          obtain ⟨rest, hread, -, hrest⟩ := ih hlines (Nat.le_of_succ_le_succ hcount)
          exact ⟨rest, by rw [hread], List.cons_ne_nil _ _, hrest⟩

/-- **A loop over `fgets` sees the lines of the text**, where each of them fits. -/
theorem allLines_eq_splitLines {size : Nat} {s : List Char}
    (h : ∀ l ∈ splitLines s, l.length < size) : allLines size s = splitLines s := by
  generalize hlines : splitLines s = lines at h
  induction lines generalizing s with
  | nil =>
      rw [splitLines_eq_nil hlines]
      rfl
  | cons l ls ih =>
      have hl := h l List.mem_cons_self
      obtain ⟨rest, hread, hne, hrest⟩ :=
        readLine_splitLines hlines (Nat.le_sub_one_of_lt hl)
      have hfgets : fgets size s = some (l, rest) := by
        simp only [fgets, hread, hne, if_false]
      rw [allLines_of_fgets hfgets, ih hrest fun l' hl' => h l' (List.mem_cons_of_mem l hl')]

/-- What follows the first `sep` of a text. -/
def afterFirst (sep : List Char) : List Char → Option (List Char)
  | [] => none
  | c :: s => if sep <+: c :: s then some ((c :: s).drop sep.length) else afterFirst sep s

theorem afterFirst_of_short {sep s : List Char} (h : s.length < sep.length) :
    afterFirst sep s = none := by
  induction s with
  | nil => rfl
  | cons c s ih =>
      rw [afterFirst, if_neg fun hpre => Nat.not_lt_of_le hpre.length_le h]
      exact ih (Nat.lt_of_succ_lt h)

end CString
