import Inkwell.Paint.Canvas
import Inkwell.Paint.Outline

/-!
# Brushes

A brush is a canvas together with what every drawing operation on it goes
through: the current color, the clip and the stroke.  No operation changes a
pixel outside the clip, and the clip never reaches outside the canvas.
-/

namespace Inkwell

/-- How the pixels along an outline are painted. -/
inductive Stroke where
  | solid
  /-- Every other pixel is skipped, beginning with the second. -/
  | dotted
  deriving DecidableEq

/-- Whether the pixel at a step of the outline is painted. -/
def Stroke.paints : Stroke → Nat → Bool
  | .solid, _ => true
  | .dotted, step => step % 2 == 0

/-- A canvas with the current color, clip and stroke. -/
structure Brush where
  canvas : Canvas
  color : Color
  clip : Rect
  stroke : Stroke

namespace Brush

/-- A solid black brush whose clip is the whole canvas. -/
def ofCanvas (canvas : Canvas) : Brush where
  canvas := canvas
  color := Color.black
  clip := canvas.bounds
  stroke := .solid

/-- The brush with the part of `clip` that lies on the canvas as its clip. -/
def setClip (b : Brush) (clip : Rect) : Brush :=
  { b with clip := clip.intersect b.canvas.bounds }

/-- The brush with the whole canvas as its clip. -/
def resetClip (b : Brush) : Brush :=
  { b with clip := b.canvas.bounds }

/-- Plotting at `(x, y)` paints a pixel: it lies in the clip and on the
canvas. -/
def reaches (b : Brush) (x y : Int) : Bool :=
  b.clip.contains x y && b.canvas.covers x y

/-- Paint one pixel with a given color if the clip allows it. -/
def paint (b : Brush) (color : Color) (x y : Int) : Brush :=
  if b.clip.contains x y then
    { b with canvas := b.canvas.set x y color }
  else
    b

/-- Paint one pixel with the current color at full alpha. -/
def plot (b : Brush) (x y : Int) : Brush :=
  b.paint b.color.solid x y

/-- Fill a rectangle with the current color as it is, so that a transparent
color erases. -/
def fillRect (b : Brush) (rect : Rect) : Brush :=
  { b with canvas := b.canvas.fill (rect.intersect b.clip) b.color }

/-- Fill the clip with a color other than the current one. -/
def clear (b : Brush) (color : Color) : Brush :=
  { b with canvas := b.canvas.fill b.clip color }

/-- Paint the pixels of a side from the one `first` steps into it, `count` in
all.  The side itself begins `offset` steps into the outline. -/
def paintSide (side : Side) (offset : Nat) : Nat → Nat → Brush → Brush
  | _, 0, b => b
  | first, count + 1, b =>
      paintSide side offset (first + 1) count
        (if b.stroke.paints (offset + first) then
          b.paint b.color (side.point first).1 (side.point first).2
        else
          b)

/-- Paint the sides of an outline one after the other, visiting of each only
the stretch that can lie in the clip.  The first side begins `offset` steps
into the outline. -/
def paintSides : List Side → Nat → Brush → Brush
  | [], _, b => b
  | side :: rest, offset, b =>
      let window := side.window b.clip
      paintSides rest (offset + side.length)
        (paintSide side offset window.1 (window.2 - window.1) b)

/-- Draw the one-pixel outline of a rectangle in the current stroke. -/
def drawRect (b : Brush) (rect : Rect) : Checked Brush := do
  let sides ← rect.sides
  pure (paintSides sides 0 b)

end Brush

end Inkwell
