import Mathlib.Algebra.Group.Int.Defs

/-
  DroidCam/Lib/CArith.lean
  ========================
  **Fixed-width C arithmetic over `Int`.**

  C computes in `int`, `unsigned` and `size_t`; a shallow embedding computes in
  `Int` and puts the conversion where the C expression has one.  A conversion is
  the residue of its argument in the target range, so each of them is the
  identity on values that fit.  Signed overflow is given its two's-complement
  value.

  C's `%` truncates towards zero, which is `Int.tmod`: the remainder has the sign
  of the dividend, and that sign is what decides whether it can be used as an
  array index.
-/

namespace CArith

/-! ### Conversions -/

/-- The value of `x` after conversion to a 32-bit two's-complement `int`. -/
def toInt32 (x : Int) : Int := (x + 2147483648) % 4294967296 - 2147483648

/-- The value of `x` after conversion to a 32-bit `unsigned`. -/
def toUInt32 (x : Int) : Int := x % 4294967296

/-- The value of `x` after conversion to a 64-bit `size_t`. -/
def toSize (x : Int) : Int := x % 18446744073709551616

theorem toInt32_lower (x : Int) : -2147483648 ≤ toInt32 x := by
  unfold toInt32; omega

theorem toInt32_upper (x : Int) : toInt32 x < 2147483648 := by
  unfold toInt32; omega

@[simp] theorem toInt32_of_fits {x : Int} (hlo : -2147483648 ≤ x) (hhi : x < 2147483648) :
    toInt32 x = x := by
  unfold toInt32; omega

/-- A value past `INT_MAX` by less than `2^32` comes out `2^32` smaller. -/
theorem toInt32_of_wraps {x : Int} (hlo : 2147483648 ≤ x) (hhi : x < 6442450944) :
    toInt32 x = x - 4294967296 := by
  have hquot : (x + 2147483648) / 4294967296 = 1 := by omega
  unfold toInt32; omega

@[simp] theorem toUInt32_of_fits {x : Int} (hlo : 0 ≤ x) (hhi : x < 4294967296) :
    toUInt32 x = x := by
  unfold toUInt32; omega

/-- Only the residue of a value reaches an `unsigned`. -/
theorem toUInt32_toInt32 (x : Int) : toUInt32 (toInt32 x) = toUInt32 x := by
  unfold toUInt32 toInt32; omega

theorem toSize_nonneg (x : Int) : 0 ≤ toSize x := by
  unfold toSize; omega

@[simp] theorem toSize_of_fits {x : Int} (hlo : 0 ≤ x) (hhi : x < 18446744073709551616) :
    toSize x = x := by
  unfold toSize; omega

/-- A negative `int` becomes a `size_t` of at least `2^64 - 2^31`. -/
theorem toSize_of_neg {x : Int} (hlo : -2147483648 ≤ x) (hneg : x < 0) :
    toSize x = x + 18446744073709551616 := by
  unfold toSize; omega

/-- No `int` becomes a `size_t` from `2^31` to `2^64 - 2^31`. -/
theorem toSize_toInt32_gap (x : Int) :
    toSize (toInt32 x) < 2147483648 ∨ 18446744071562067968 ≤ toSize (toInt32 x) := by
  have hlo := toInt32_lower x
  have hhi := toInt32_upper x
  rcases Int.lt_or_le (toInt32 x) 0 with hneg | hpos
  · right
    rw [toSize_of_neg hlo hneg]
    omega
  · left
    rwa [toSize_of_fits hpos (by omega)]

/-! ### Truncating division -/

/-- Halving loses at most one, and rounds a positive value down. -/
theorem tdiv_two_near (x : Int) :
    x - 1 ≤ 2 * x.tdiv 2 ∧ 2 * x.tdiv 2 ≤ x + 1 ∧ (0 ≤ x → 2 * x.tdiv 2 ≤ x) := by
  have hsign : Int.sign 2 = 1 := rfl
  rw [Int.tdiv_eq_ediv, hsign]
  split <;> omega

/-! ### The signed remainder as an array index

C rounds towards zero, so a negative dividend has a negative remainder, and used as an
index it is outside the array. It is safe only where the remainder is 0. -/

/-- The remainder of a non-negative dividend, as natural numbers. -/
theorem tmod_natCast (a b : Nat) : (a : Int).tmod (b : Int) = ((a % b : Nat) : Int) := by
  rw [Int.tmod_eq_emod_of_nonneg (Int.natCast_nonneg a)]
  exact (Int.natCast_emod a b).symm

/-- The remainder is negative exactly when the dividend is and is no multiple. -/
theorem tmod_nonneg_iff {x n : Int} : 0 ≤ x.tmod n ↔ 0 ≤ x ∨ n ∣ x := by
  constructor
  · intro h
    by_cases hx : 0 ≤ x
    · exact Or.inl hx
    -- the remainder of a negative dividend is at most 0, so it is 0 or outside
    · right
      have hle : x.tmod n ≤ 0 := by
        have hneg : 0 ≤ (-x).tmod n := Int.tmod_nonneg n (by omega)
        rw [Int.neg_tmod] at hneg
        omega
      exact Int.dvd_of_tmod_eq_zero (by omega)
  · rintro (hx | hdvd)
    · exact Int.tmod_nonneg n hx
    · exact Int.le_of_eq (Int.tmod_eq_zero_of_dvd hdvd).symm

end CArith
