import Inkwell.Glyph.LineMetrics
import Inkwell.Glyph.Mask

/-!
# The box for a missing glyph

A cluster that no source knows is drawn as a hollow box that stands on the
baseline and reaches the ascent.  Its extents depend on the size alone, except
for its height.
-/

namespace Inkwell.MissingBox

/-- The space between two neighbouring boxes. -/
def gap (size : UInt16) : UInt16 := max (size / 8) 1

/-- The width of the box. -/
def width (size : UInt16) : UInt16 := max (size / 2) 3

/-- How far the box moves the pen. -/
def advance (size : UInt16) : Checked UInt16 :=
  Word.exactUInt16 .add ((width size).toNat + (gap size).toNat)

/-- The height of the box on a line with the given metrics. -/
def height (metrics : LineMetrics) : UInt32 :=
  UInt32.ofNat (max metrics.ascent.toInt 3).toNat

/-- The pixel at column `x` and row `y` is on the border of the box. -/
def OnBorder (width height : UInt32) (x y : Nat) : Prop :=
  x = 0 ∨ y = 0 ∨ x = width.toNat - 1 ∨ y = height.toNat - 1

instance (width height : UInt32) (x y : Nat) :
    Decidable (OnBorder width height x y) :=
  inferInstanceAs (Decidable (_ ∨ _))

/-- Paint a pixel of the box if it is on the border. -/
def paintPixel (width height : UInt32) (y : Nat) (bytes : Array UInt8)
    (x : Nat) : Checked (Array UInt8) :=
  if OnBorder width height x y then do
    let position ← bytePosition width (UInt32.ofNat x) (UInt32.ofNat y)
    setByte bytes position 255
  else
    pure bytes

/-- Paint the border in a row of the box. -/
def paintRow (width height : UInt32) (bytes : Array UInt8) (y : Nat) :
    Checked (Array UInt8) :=
  (List.range width.toNat).foldlM (paintPixel width height y) bytes

/-- The box at a size and on a line with the given metrics. -/
def mask (size : UInt16) (metrics : LineMetrics) : Checked Mask := do
  let w := (width size).toUInt32
  let h := height metrics
  let area ← Word.exactUInt32 .mul (w.toNat * h.toNat)
  let coverage ← (List.range h.toNat).foldlM (paintRow w h)
    (Array.replicate area.toNat 0)
  pure {
    width := w
    height := h
    bearingX := (gap size / 2).toInt16
    bearingY := Word.clampInt16 h.toNat
    coverage := coverage }

end Inkwell.MissingBox
