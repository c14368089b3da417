import Inkwell.Paint.Color
import Inkwell.Paint.Rect

/-!
# Canvases

A canvas is a row-major grid of colors.  Pixels outside it cannot be read, and
writes to them are dropped.  Filling a rectangle writes whole spans of a row at
a time.
-/

namespace Inkwell

/-- A grid of colors, one row after the other. -/
structure Canvas where
  width : UInt32
  height : UInt32
  pixels : Array Color
  /-- Every row holds `width` pixels. -/
  size_eq : pixels.size = width.toNat * height.toNat

namespace Canvas

/-- A canvas with every pixel set to `color`. -/
def filled (width height : UInt32) (color : Color) : Canvas where
  width := width
  height := height
  pixels := Array.replicate (width.toNat * height.toNat) color
  size_eq := Array.size_replicate

/-- A transparent canvas. -/
def blank (width height : UInt32) : Canvas :=
  filled width height Color.transparent

/-- The whole canvas as a rectangle at the origin. -/
def bounds (c : Canvas) : Rect :=
  ⟨0, 0, Word.clampInt32 c.width.toNat, Word.clampInt32 c.height.toNat⟩

/-- The number of pixels. -/
def pixelCount (c : Canvas) : Nat := c.pixels.size

/-- The point is one of the canvas's pixels. -/
def covers (c : Canvas) (x y : Int) : Bool :=
  0 ≤ x && x < c.width.toNat && 0 ≤ y && y < c.height.toNat

/-- Where the pixel at `(x, y)` is stored. -/
def index (c : Canvas) (x y : Int) : Nat :=
  y.toNat * c.width.toNat + x.toNat

/-- The color at `(x, y)`, none outside the canvas. -/
def get? (c : Canvas) (x y : Int) : Option Color :=
  if c.covers x y then c.pixels[c.index x y]? else none

/-- The canvas with `color` at `(x, y)`; a point outside changes nothing. -/
def set (c : Canvas) (x y : Int) (color : Color) : Canvas :=
  if c.covers x y then
    { c with
      pixels := c.pixels.setIfInBounds (c.index x y) color
      size_eq := by simp [c.size_eq] }
  else
    c

/-- Write `color` to `count` pixels in storage order, beginning at `start`. -/
def fillSpan (color : Color) (start : Nat) : Nat → Array Color → Array Color
  | 0, pixels => pixels
  | count + 1, pixels =>
      fillSpan color start count (pixels.setIfInBounds (start + count) color)

@[simp]
theorem size_fillSpan (color : Color) (start count : Nat)
    (pixels : Array Color) :
    (fillSpan color start count pixels).size = pixels.size := by
  induction count generalizing pixels with
  | zero => rfl
  | succ count inductionHypothesis => simp [fillSpan, inductionHypothesis]

/-- Write a span of `width` pixels on each of `rows` rows that are `stride`
apart, the first beginning at `start`. -/
def fillRows (color : Color) (start width stride : Nat) :
    Nat → Array Color → Array Color
  | 0, pixels => pixels
  | rows + 1, pixels =>
      fillRows color start width stride rows
        (fillSpan color (start + rows * stride) width pixels)

@[simp]
theorem size_fillRows (color : Color) (start width stride rows : Nat)
    (pixels : Array Color) :
    (fillRows color start width stride rows pixels).size = pixels.size := by
  induction rows generalizing pixels with
  | zero => rfl
  | succ rows inductionHypothesis => simp [fillRows, inductionHypothesis]

/-- The canvas with every pixel inside `rect` set to `color`. -/
def fill (c : Canvas) (rect : Rect) (color : Color) : Canvas :=
  let area := rect.intersect c.bounds
  if area.isEmpty then
    c
  else
    { c with
      pixels :=
        fillRows color (c.index area.x.toInt area.y.toInt)
          area.width.toInt.toNat c.width.toNat area.height.toInt.toNat c.pixels
      size_eq := by simp [c.size_eq] }

/-- The number of pixels that differ between two canvases.  Canvases of
different sizes differ in every pixel of the larger one. -/
def diffCount (c d : Canvas) : Nat :=
  if c.width = d.width ∧ c.height = d.height then
    (c.pixels.zip d.pixels).countP fun pair => pair.1 != pair.2
  else
    max c.pixelCount d.pixelCount

/-- The number of pixels of the given color. -/
def count (c : Canvas) (color : Color) : Nat :=
  c.pixels.countP (· == color)

end Canvas

end Inkwell
