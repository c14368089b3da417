import Inkwell.Paint.Rect

/-!
# The border of a rectangle

The one-pixel border of a rectangle is walked once, clockwise from its top left
corner: the top row, the right column, the bottom row and the left column, each
without the corners that came before.  A walk is a list of straight sides, so
that only the stretch of a side that can be seen has to be visited.
-/

namespace Inkwell

/-- The direction in which a side of a border is walked. -/
inductive Heading where
  | east
  | south
  | west
  | north
  deriving DecidableEq

/-- A straight row or column of pixels, walked from its first pixel. -/
structure Side where
  x : Int
  y : Int
  heading : Heading
  length : Nat
  deriving DecidableEq

namespace Side

/-- The pixel that is `i` steps into the side. -/
def point (s : Side) (i : Nat) : Int × Int :=
  match s.heading with
  | .east => (s.x + i, s.y)
  | .south => (s.x, s.y + i)
  | .west => (s.x - i, s.y)
  | .north => (s.x, s.y - i)

/-- The pixels of the side in the order in which they are walked. -/
def points (s : Side) : List (Int × Int) :=
  (List.range s.length).map s.point

/-- The steps at which the side may lie inside `clip`: all others lie before
its near edge or beyond its far edge.  The result is the first such step and
the step after the last one. -/
def window (s : Side) (clip : Rect) : Nat × Nat :=
  match s.heading with
  | .east => clamped (clip.x.toInt - s.x) (clip.right.toInt - s.x)
  | .south => clamped (clip.y.toInt - s.y) (clip.bottom.toInt - s.y)
  | .west => clamped (s.x - clip.right.toInt + 1) (s.x - clip.x.toInt + 1)
  | .north => clamped (s.y - clip.bottom.toInt + 1) (s.y - clip.y.toInt + 1)
where
  /-- Limit an interval of steps to the steps of the side. -/
  clamped (first stop : Int) : Nat × Nat :=
    (first.toNat, min s.length stop.toNat)

end Side

namespace Rect

/-- The last column inside the rectangle. -/
def lastColumn (r : Rect) : Checked Int32 :=
  Word.exactInt32 .sub (r.right.toInt - 1)

/-- The last row inside the rectangle. -/
def lastRow (r : Rect) : Checked Int32 :=
  Word.exactInt32 .sub (r.bottom.toInt - 1)

/-- The sides of the border between two corners.  A border that is one pixel
high has no bottom row of its own, and one that is one pixel wide no left
column. -/
def sidesBetween (left top right bottom : Int) : List Side :=
  [⟨left, top, .east, (right + 1 - left).toNat⟩,
    ⟨right, top + 1, .south, (bottom - top).toNat⟩]
  ++ (if top < bottom then [⟨right - 1, bottom, .west, (right - left).toNat⟩]
      else [])
  ++ (if left < right then
        [⟨left, bottom - 1, .north, (bottom - (top + 1)).toNat⟩]
      else [])

/-- The border of the rectangle, clockwise from its top left corner.  An empty
rectangle has none. -/
def sides (r : Rect) : Checked (List Side) :=
  if r.isEmpty then
    pure []
  else do
    let right ← r.lastColumn
    let bottom ← r.lastRow
    pure (sidesBetween r.x.toInt r.y.toInt right.toInt bottom.toInt)

end Rect

end Inkwell
