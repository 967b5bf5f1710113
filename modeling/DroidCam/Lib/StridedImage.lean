import Mathlib.Logic.ExistsUnique
import Mathlib.Tactic.GCongr
import Mathlib.Algebra.Order.Ring.Nat

/-
  DroidCam/Lib/StridedImage.lean
  ==============================
  **Rows of bytes in a linear buffer.**

  A plane is a number of rows of one width, each row a stride behind the one
  before.  When no row is wider than the stride the rows are disjoint and the
  plane ends at its last row, so planes that are laid out one behind the other
  are disjoint as well; `FitsBuffer` is what a decoder that is handed such planes
  relies on.

  Blocks of one size, one behind the other, cut a buffer into parts: every byte
  lies in exactly one of them.
-/

namespace StridedImage

/-! ### Blocks -/

/-- A byte in front of the end of the last block lies in exactly one block. -/
theorem existsUnique_block {size count x : Nat} (hsize : 0 < size) :
    x < count * size ↔ ∃! i, i < count ∧ i * size ≤ x ∧ x < (i + 1) * size := by
  -- the block of a byte is its quotient
  have hdiv : ∀ i, i * size ≤ x ∧ x < (i + 1) * size ↔ i = x / size := by
    intro i
    constructor
    · rintro ⟨hlo, hhi⟩
      apply Nat.le_antisymm
      · exact (Nat.le_div_iff_mul_le hsize).mpr hlo
      · exact Nat.le_of_lt_succ ((Nat.div_lt_iff_lt_mul hsize).mpr hhi)
    · rintro rfl
      exact ⟨Nat.div_mul_le_self x size, (Nat.div_lt_iff_lt_mul hsize).mp (Nat.lt_succ_self _)⟩
  simp only [hdiv]
  constructor
  · intro hx
    exact ⟨x / size, ⟨(Nat.div_lt_iff_lt_mul hsize).mpr hx, rfl⟩, fun _ hi => hi.2⟩
  · rintro ⟨_, ⟨hi, rfl⟩, -⟩
    exact (Nat.div_lt_iff_lt_mul hsize).mp hi

/-! ### Planes -/

/-- `rows` rows of `width` bytes; row `r` starts at `offset + r * stride`. -/
structure Plane where
  offset : Nat
  width : Nat
  rows : Nat
  stride : Nat
deriving DecidableEq, Repr

namespace Plane

/-- Byte `x` of the buffer belongs to the plane. -/
def Covers (p : Plane) (x : Nat) : Prop :=
  ∃ r < p.rows, ∃ c < p.width, x = p.offset + r * p.stride + c

/-- Behind the last row. -/
def stop (p : Plane) : Nat := p.offset + p.rows * p.stride

def Disjoint (p q : Plane) : Prop := ∀ x, p.Covers x → ¬q.Covers x

/-- A plane whose rows fit their stride lies in front of its stop. -/
theorem Covers.bounds {p : Plane} {x : Nat} (hwidth : p.width ≤ p.stride) (h : p.Covers x) :
    p.offset ≤ x ∧ x < p.stop := by
  obtain ⟨r, hr, c, hc, rfl⟩ := h
  constructor
  · rw [Nat.add_assoc]
    exact Nat.le_add_right _ _
  · have hrow : r * p.stride + p.stride ≤ p.rows * p.stride := by
      rw [← Nat.succ_mul]
      exact Nat.mul_le_mul_right _ hr
    unfold stop
    omega

theorem covers_cell {p : Plane} {r c : Nat} (hr : r < p.rows) (hc : c < p.width) :
    p.Covers (p.offset + r * p.stride + c) :=
  ⟨r, hr, c, hc, rfl⟩

/-- A plane that stops where the next one starts, or before, is disjoint from it. -/
theorem disjoint_of_stop_le {p q : Plane} (hp : p.width ≤ p.stride) (hq : q.width ≤ q.stride)
    (h : p.stop ≤ q.offset) : p.Disjoint q := by
  intro x hx hx'
  have hbefore := (hx.bounds hp).2
  have hbehind := (hx'.bounds hq).1
  omega

/-- A cell at the start of a plane with bytes in it makes the planes meet. -/
theorem not_disjoint_of_cell {p q : Plane} {r c : Nat} (hr : r < p.rows) (hc : c < p.width)
    (hq : 0 < q.rows) (hq' : 0 < q.width) (h : p.offset + r * p.stride + c = q.offset) :
    ¬p.Disjoint q := by
  intro hdisjoint
  apply hdisjoint q.offset
  · rw [← h]
    exact covers_cell hr hc
  · have hfirst : q.Covers (q.offset + 0 * q.stride + 0) := covers_cell hq hq'
    rwa [Nat.zero_mul, Nat.add_zero] at hfirst

end Plane

/-! ### Planes in a buffer

The libraries get the address and the stride of each plane and know nothing of the
others, so the planes may neither meet nor leave the buffer. -/

/-- What a decoder relies on when it fills the planes of a buffer of `size` bytes. -/
structure FitsBuffer (planes : List Plane) (size : Nat) : Prop where
  rows : ∀ p ∈ planes, p.width ≤ p.stride
  inside : ∀ p ∈ planes, ∀ x, p.Covers x → x < size
  disjoint : planes.Pairwise Plane.Disjoint

/-- Planes one behind the other, the last of which ends inside the buffer. -/
theorem FitsBuffer.of_stacked {planes : List Plane} {size : Nat}
    (hrows : ∀ p ∈ planes, p.width ≤ p.stride)
    (hstacked : planes.Pairwise fun p q => p.stop ≤ q.offset)
    (hsize : ∀ p ∈ planes, p.stop ≤ size) : FitsBuffer planes size where
  rows := hrows
  inside := by
    intro p hp x hx
    have hbound := (hx.bounds (hrows p hp)).2
    have hstop := hsize p hp
    omega
  disjoint := by
    apply hstacked.imp_of_mem
    intro p q hp hq hle
    exact Plane.disjoint_of_stop_le (hrows p hp) (hrows q hq) hle

end StridedImage
