/-
Points, vectors and rectangles of the scene, in exact arithmetic.

A `CGRect` is an origin and a size; `minX` to `maxY`, `width` and `height`
are those of the standardized rectangle, as the graphics library answers
them. `cells` are its points with the lower edges and without the upper
ones: what two rectangles side by side do not share.
-/
import Exolon.Lib.Tiling

namespace Exolon

/-- Where a coordinate pair is. -/
structure CGPoint where
  x : Rat
  y : Rat

structure CGVector where
  dx : Rat
  dy : Rat

structure CGRect where
  x : Rat
  y : Rat
  sizeWidth : Rat
  sizeHeight : Rat
  deriving DecidableEq

namespace CGRect

def minX (r : CGRect) : Rat := min r.x (r.x + r.sizeWidth)

def maxX (r : CGRect) : Rat := max r.x (r.x + r.sizeWidth)

def minY (r : CGRect) : Rat := min r.y (r.y + r.sizeHeight)

def maxY (r : CGRect) : Rat := max r.y (r.y + r.sizeHeight)

def width (r : CGRect) : Rat := r.maxX - r.minX

def height (r : CGRect) : Rat := r.maxY - r.minY

/-- `intersection(_:)`; `none` is the null rectangle. -/
def intersection (r s : CGRect) : Option CGRect :=
  let left := max r.minX s.minX
  let right := min r.maxX s.maxX
  let bottom := max r.minY s.minY
  let top := min r.maxY s.maxY
  if right < left ∨ top < bottom then none
  else some ⟨left, bottom, right - left, top - bottom⟩

/-- `intersects(_:)`: the rectangles share more than an edge, as the graphics
library of the game's platform answers. -/
def intersects (r s : CGRect) : Bool :=
  decide (max r.minX s.minX < min r.maxX s.maxX)
    && decide (max r.minY s.minY < min r.maxY s.maxY)

/-- The points of a rectangle, without its upper edges. -/
def cells (r : CGRect) : Set (Rat × Rat) :=
  {p | r.minX ≤ p.1 ∧ p.1 < r.maxX ∧ r.minY ≤ p.2 ∧ p.2 < r.maxY}

/-- A rectangle with an area. -/
def Positive (r : CGRect) : Prop := 0 < r.width ∧ 0 < r.height

instance (r : CGRect) : Decidable r.Positive := by
  unfold Positive
  infer_instance

section Sides

variable {x y w h : Rat}

theorem minX_mk (hw : 0 ≤ w) : (CGRect.mk x y w h).minX = x :=
  min_eq_left (by simpa using hw)

theorem maxX_mk (hw : 0 ≤ w) : (CGRect.mk x y w h).maxX = x + w :=
  max_eq_right (by simpa using hw)

theorem minY_mk (hh : 0 ≤ h) : (CGRect.mk x y w h).minY = y :=
  min_eq_left (by simpa using hh)

theorem maxY_mk (hh : 0 ≤ h) : (CGRect.mk x y w h).maxY = y + h :=
  max_eq_right (by simpa using hh)

theorem minX_le_maxX (r : CGRect) : r.minX ≤ r.maxX :=
  le_trans (min_le_left _ _) (le_max_left _ _)

theorem minY_le_maxY (r : CGRect) : r.minY ≤ r.maxY :=
  le_trans (min_le_left _ _) (le_max_left _ _)

/-- The points of a rectangle given by its sides. -/
theorem mem_cells_sides {a b c d : Rat} (hab : a ≤ b) (hcd : c ≤ d)
    (p : Rat × Rat) :
    p ∈ (CGRect.mk a c (b - a) (d - c)).cells ↔
      a ≤ p.1 ∧ p.1 < b ∧ c ≤ p.2 ∧ p.2 < d := by
  have hw : 0 ≤ b - a := sub_nonneg.mpr hab
  have hh : 0 ≤ d - c := sub_nonneg.mpr hcd
  show _ ∧ _ ∧ _ ∧ _ ↔ _
  rw [minX_mk hw, maxX_mk hw, minY_mk hh, maxY_mk hh, add_sub_cancel,
    add_sub_cancel]

theorem positive_sides {a b c d : Rat} (hab : a < b) (hcd : c < d) :
    (CGRect.mk a c (b - a) (d - c)).Positive := by
  have hw : 0 ≤ b - a := by linarith
  have hh : 0 ≤ d - c := by linarith
  unfold Positive width height
  rw [minX_mk hw, maxX_mk hw, minY_mk hh, maxY_mk hh]
  constructor
  · linarith
  · linarith

end Sides

end CGRect

end Exolon
