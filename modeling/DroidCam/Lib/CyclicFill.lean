import Mathlib.Logic.Function.Basic
import Mathlib.Data.Nat.ModEq

/-
  DroidCam/Lib/CyclicFill.lean
  ============================
  **Filling a cyclic table from a running position.**

  The position only grows; the table has `n` entries and is addressed by the
  position modulo `n`.  At most `n` consecutive entries never meet, and `n` of
  them reach every entry.
-/

namespace CyclicFill

variable {α : Type*}

/-- Assign `xs` to the positions `start`, `start + 1`, … modulo `n`. -/
def fill (n : Nat) : Nat → List α → (Nat → α) → Nat → α
  | _, [], f => f
  | start, x :: xs, f => fill n (start + 1) xs (Function.update f (start % n) x)

theorem fill_outside {n : Nat} {xs : List α} {p : Nat} :
    ∀ {start : Nat} {f : Nat → α}, (∀ j < xs.length, (start + j) % n ≠ p) →
      fill n start xs f p = f p := by
  induction xs with
  | nil => intro start f _; rfl
  | cons x xs ih =>
      intro start f h
      have hhead : start % n ≠ p := h 0 (Nat.succ_pos _)
      have htail : ∀ j < xs.length, (start + 1 + j) % n ≠ p := by
        intro j hj
        have hstep := h (j + 1) (Nat.succ_lt_succ hj)
        rwa [show start + (j + 1) = start + 1 + j by omega] at hstep
      rw [fill, ih htail, Function.update_of_ne (Ne.symm hhead)]

/-- Positions less than `n` apart have different entries. -/
theorem mod_ne_of_near {n a k : Nat} (hpos : 0 < k) (hk : k < n) : (a + k) % n ≠ a % n := by
  intro h
  have hmod : a + k ≡ a + 0 [MOD n] := h
  have hzero : k ≡ 0 [MOD n] := Nat.ModEq.add_left_cancel' a hmod
  have : k % n = 0 := by simpa [Nat.ModEq] using hzero
  rw [Nat.mod_eq_of_lt hk] at this
  omega

theorem fill_at {n : Nat} {xs : List α} :
    ∀ {start : Nat} {f : Nat → α} {j : Nat} (hj : j < xs.length), xs.length ≤ n →
      fill n start xs f ((start + j) % n) = xs[j] := by
  induction xs with
  | nil => intro start f j hj _; exact absurd hj (Nat.not_lt_zero j)
  | cons x xs ih =>
      intro start f j hj hlen
      simp only [List.length_cons] at hj hlen
      cases j with
      | zero =>
          -- the places that come later go round by less than n, so none of them is this
          -- one again
          have hlater : ∀ j < xs.length, (start + 1 + j) % n ≠ start % n := by
            intro j hj
            rw [show start + 1 + j = start + (j + 1) by omega]
            exact mod_ne_of_near (Nat.succ_pos j) (by omega)
          rw [Nat.add_zero, fill, fill_outside hlater, Function.update_self]
          rfl
      | succ j =>
          rw [fill, show start + (j + 1) = start + 1 + j by omega,
            ih (Nat.lt_of_succ_lt_succ hj) (by omega)]
          rfl

/-- Every entry is less than `n` positions ahead. -/
theorem reaches {n p : Nat} (start : Nat) (hp : p < n) : ∃ j < n, (start + j) % n = p := by
  have hdiv : n * (start / n) + start % n = start := Nat.div_add_mod start n
  have hmod : start % n < n := Nat.mod_lt _ (by omega)
  by_cases hle : start % n ≤ p
  · refine ⟨p - start % n, by omega, ?_⟩
    rw [show start + (p - start % n) = n * (start / n) + p by omega, Nat.mul_add_mod,
      Nat.mod_eq_of_lt hp]
  · refine ⟨p + n - start % n, by omega, ?_⟩
    have hsucc : n * (start / n + 1) = n * (start / n) + n := Nat.mul_succ n _
    rw [show start + (p + n - start % n) = n * (start / n + 1) + p by omega, Nat.mul_add_mod,
      Nat.mod_eq_of_lt hp]

/-- `n` entries fill the whole table. -/
theorem fill_mem {n p : Nat} {xs : List α} (start : Nat) (f : Nat → α) (hlen : xs.length = n)
    (hp : p < n) : fill n start xs f p ∈ xs := by
  obtain ⟨j, hj, rfl⟩ := reaches start hp
  rw [← hlen] at hj
  rw [fill_at hj (Nat.le_of_eq hlen)]
  exact List.getElem_mem hj

/-- The last of `n` entries is at the position before the first one. -/
theorem fill_before {n start : Nat} {xs : List α} {f : Nat → α} {a : α} (hlen : xs.length = n)
    (hstart : 1 ≤ start) (hlast : xs.getLast? = some a) :
    fill n start xs f ((start - 1) % n) = a := by
  have hpos : 0 < n := by
    rw [← hlen]
    exact List.length_pos_of_mem (List.mem_of_getLast? hlast)
  have hmod : (start - 1) % n = (start + (n - 1)) % n := by
    rw [← Nat.add_mod_right (start - 1) n, show start - 1 + n = start + (n - 1) by omega]
  rw [List.getLast?_eq_getElem?, hlen] at hlast
  obtain ⟨hindex, hget⟩ := List.getElem?_eq_some_iff.mp hlast
  rw [hmod, fill_at hindex (Nat.le_of_eq hlen), hget]

end CyclicFill
