import Inkwell.Word

/-!
# Rectangles on the pixel grid

A rectangle is a corner and two extents.  Its right and bottom edges are
exclusive and stop at the limit of the coordinate space.  Read as a set of
points, a rectangle with a non-positive extent is empty.
-/

namespace Inkwell

/-- A point of the pixel grid. -/
structure Point where
  x : Int32
  y : Int32
  deriving DecidableEq, Inhabited

/-- The points `x ≤ px < x + width`, `y ≤ py < y + height`. -/
structure Rect where
  x : Int32
  y : Int32
  width : Int32
  height : Int32
  deriving DecidableEq, Inhabited

namespace Rect

/-- The rectangle at the origin without extent. -/
def zero : Rect := ⟨0, 0, 0, 0⟩

/-- The rectangle spanned by two corners given in any order; an extent that
no word can hold becomes the largest one. -/
def ofCorners (p q : Point) : Rect where
  x := Word.clampInt32 (min p.x.toInt q.x.toInt)
  y := Word.clampInt32 (min p.y.toInt q.y.toInt)
  width := Word.clampInt32 (max p.x.toInt q.x.toInt - min p.x.toInt q.x.toInt)
  height := Word.clampInt32 (max p.y.toInt q.y.toInt - min p.y.toInt q.y.toInt)

/-- The corner with the least coordinates. -/
def origin (r : Rect) : Point := ⟨r.x, r.y⟩

/-- The exclusive right edge. -/
def right (r : Rect) : Int32 := Word.clampInt32 (r.x.toInt + r.width.toInt)

/-- The exclusive bottom edge. -/
def bottom (r : Rect) : Int32 := Word.clampInt32 (r.y.toInt + r.height.toInt)

/-- Some extent is not positive. -/
def isEmpty (r : Rect) : Bool := r.width ≤ 0 || r.height ≤ 0

/-- The point lies between the edges. -/
def contains (r : Rect) (px py : Int) : Bool :=
  r.x.toInt ≤ px && px < r.right.toInt && r.y.toInt ≤ py && py < r.bottom.toInt

/-- The common part of two rectangles.  Without a common point the result has
no extent. -/
def intersect (r s : Rect) : Rect :=
  let left := max r.x.toInt s.x.toInt
  let top := max r.y.toInt s.y.toInt
  let right := min r.right.toInt s.right.toInt
  let bottom := min r.bottom.toInt s.bottom.toInt
  if right ≤ left ∨ bottom ≤ top then
    ⟨Word.clampInt32 left, Word.clampInt32 top, 0, 0⟩
  else
    ⟨Word.clampInt32 left, Word.clampInt32 top,
      Word.clampInt32 (right - left), Word.clampInt32 (bottom - top)⟩

/-- The rectangle moved by `(dx, dy)`; its corner stops at the limit of the
coordinate space. -/
def translate (r : Rect) (dx dy : Int32) : Rect :=
  { r with
    x := Word.clampInt32 (r.x.toInt + dx.toInt)
    y := Word.clampInt32 (r.y.toInt + dy.toInt) }

end Rect

end Inkwell
