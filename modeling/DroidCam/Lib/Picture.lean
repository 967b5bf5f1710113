import Mathlib.Logic.Function.Basic

/-
  DroidCam/Lib/Picture.lean
  =========================
  **Rectangular pictures and their symmetries.**

  A picture has pixels at all integer coordinates, of which those in
  `[0, width) x [0, height)` show.  So a flip is undone by the same flip, and to cut
  a picture down is to give it other sides.

  `coordinates` is the picture of given sides that tells transformations apart: its
  pixels are their own coordinates.
-/

structure Picture (α : Type) where
  width : Int
  height : Int
  pixel : Int → Int → α

namespace Picture

variable {α : Type}

/-! ### Symmetries -/

/-- The upper left part of a picture, of the given sides. -/
def corner (width height : Int) (p : Picture α) : Picture α :=
  { p with width := width, height := height }

/-- Mirror left and right. -/
def hflip (p : Picture α) : Picture α :=
  { p with pixel := fun x y => p.pixel (p.width - 1 - x) y }

/-- Mirror top and bottom. -/
def vflip (p : Picture α) : Picture α :=
  { p with pixel := fun x y => p.pixel x (p.height - 1 - y) }

/-- Turn clockwise by a quarter. -/
def rot90 (p : Picture α) : Picture α where
  width := p.height
  height := p.width
  pixel := fun x y => p.pixel y (p.height - 1 - x)

/-- Turn by a half. -/
def rot180 (p : Picture α) : Picture α :=
  { p with pixel := fun x y => p.pixel (p.width - 1 - x) (p.height - 1 - y) }

/-- The flips that are asked for, first the horizontal one. -/
def flip (horizontal vertical : Bool) (p : Picture α) : Picture α :=
  let p := if horizontal then p.hflip else p
  if vertical then p.vflip else p

@[simp] theorem flip_width (a b : Bool) (p : Picture α) : (p.flip a b).width = p.width := by
  cases a <;> cases b <;> rfl

@[simp] theorem flip_height (a b : Bool) (p : Picture α) : (p.flip a b).height = p.height := by
  cases a <;> cases b <;> rfl

/-! ### Telling them apart

Equal pictures have equal sides, which is enough where a turn by a quarter changes
them.  Between the symmetries of a square two pixels are enough, since each
symmetry moves one coordinate of a pixel along with one of the place it shows at. -/

/-- The picture of which every pixel is its own coordinates. -/
def coordinates (width height : Int) : Picture (Int × Int) := ⟨width, height, Prod.mk⟩

/-- Flips do not turn a picture of any sides by a quarter. -/
theorem rot90_ne_flip (width height : Int) (a b a' b' : Bool) :
    (coordinates width height).rot90.flip a b ≠ (coordinates width height).flip a' b' := by
  intro h
  have horigin := congrArg (fun p => (p.pixel 0 0).1) h
  have hright := congrArg (fun p => (p.pixel 1 0).1) h
  -- on the left the first coordinate does not depend on the column
  cases a <;> cases b <;> cases a' <;> cases b' <;>
    simp [flip, hflip, vflip, rot90, coordinates] at horigin hright <;> omega

/-- Only the quarter turn without flips is the quarter turn. -/
theorem rot90_flip_eq {width height : Int} {a b : Bool}
    (h : (coordinates width height).rot90 = (coordinates width height).rot90.flip a b) :
    a = false ∧ b = false := by
  have horigin := congrArg (fun p => p.pixel 0 0) h
  have hnext := congrArg (fun p => p.pixel 1 1) h
  -- a coordinate and its mirror image agree at one place at most
  cases a <;> cases b <;>
    simp [flip, hflip, vflip, rot90, coordinates] at horigin hnext ⊢ <;> omega

end Picture
