import Inkwell.Glyph.LineMetrics
import Inkwell.Glyph.Mask
import Inkwell.Glyph.Ref
import Inkwell.Layout.Anchor
import Inkwell.Paint.Rect

/-!
# Laying out a line

Glyphs are placed from left to right on one baseline, and the line is aligned
with its origin or within a box.  Positions are computed in 64-bit words and
limited to the coordinate space one by one, so that a line near its end leaves
the grid and nothing overflows but the height of the line.
-/

namespace Inkwell

/-- How a line is placed. -/
structure LineOptions where
  anchor : Anchor
  /-- Align within this box, not around the origin. -/
  box : Option Rect
  /-- Extra pixels between neighbouring glyphs. -/
  letterSpacing : Int32
  deriving DecidableEq

/-- Only an anchor: no box and no letter spacing. -/
def LineOptions.ofAnchor (anchor : Anchor) : LineOptions := ⟨anchor, none, 0⟩

/-- A glyph that waits to be placed. -/
structure LooseGlyph where
  ref : GlyphRef
  /-- The first unit of its cluster. -/
  start : Nat
  /-- The unit after the last one of its cluster. -/
  stop : Nat
  mask : Option Mask
  deriving DecidableEq

/-- A glyph with its place. -/
structure PlacedGlyph where
  ref : GlyphRef
  start : Nat
  stop : Nat
  /-- The position of the pen. -/
  x : Int32
  baseline : Int32
  mask : Option Mask
  deriving DecidableEq

/-- The position of the pen after the glyph, without letter spacing. -/
def PlacedGlyph.spanEnd (g : PlacedGlyph) : Int32 :=
  Word.clampInt32 (g.x.toInt + g.ref.advance.toNat)

/-- One line of placed glyphs. -/
structure Run where
  glyphs : List PlacedGlyph
  /-- The line box. -/
  bounds : Rect
  baseline : Int32
  /-- The total advance. -/
  width : Int32
  deriving DecidableEq

namespace Line

/-- The sum of advances. -/
def totalAdvance (start : Int) : List UInt16 → Checked Int
  | [] => pure start
  | advance :: rest => do
      let sum ← Word.exactInt64 .add (start + advance.toNat)
      totalAdvance sum rest

/-- The width of a line: its advances and the spacing between neighbours. -/
def measure (advances : List UInt16) (letterSpacing : Int32) :
    Checked Int32 := do
  let advance ← totalAdvance 0 advances
  let gaps ← Word.exactInt64 .mul
    (((advances.length - 1 : Nat) : Int) * letterSpacing.toInt)
  let width ← Word.exactInt64 .add (advance + gaps)
  pure (Word.clampInt32 width)

/-- The left edge of a line of the given width. -/
def startX (alignment : Alignment) (box : Option Rect) (x width : Int) :
    Checked Int :=
  match box, alignment with
  | none, .left => pure x
  | none, .center => Word.exactInt64 .sub (x - width.tdiv 2)
  | none, .right => Word.exactInt64 .sub (x - width)
  | some b, .left => pure b.x.toInt
  | some b, .center => do
      let margin ← Word.exactInt64 .sub (b.width.toInt - width)
      Word.exactInt64 .add (b.x.toInt + margin.tdiv 2)
  | some b, .right => do
      let edge ← Word.exactInt64 .add (b.x.toInt + b.width.toInt)
      Word.exactInt64 .sub (edge - width)

/-- The baseline of a line of the given extents. -/
def baselineY (anchor : VerticalAnchor) (box : Option Rect)
    (y height ascent descent : Int) : Checked Int :=
  match box, anchor with
  | _, .baseline => pure y
  | none, .top => Word.exactInt64 .add (y + ascent)
  | none, .bottom => Word.exactInt64 .sub (y - descent)
  | none, .center => do
      let top ← Word.exactInt64 .sub (y - height.tdiv 2)
      Word.exactInt64 .add (top + ascent)
  | some b, .top => Word.exactInt64 .add (b.y.toInt + ascent)
  | some b, .bottom => do
      let edge ← Word.exactInt64 .add (b.y.toInt + b.height.toInt)
      Word.exactInt64 .sub (edge - descent)
  | some b, .center => do
      let margin ← Word.exactInt64 .sub (b.height.toInt - height)
      let top ← Word.exactInt64 .add (b.y.toInt + margin.tdiv 2)
      Word.exactInt64 .add (top + ascent)

/-- Place glyphs one after the other, the first with the pen at `x`. -/
def place (letterSpacing : Int32) (baseline : Int32) (x : Int) :
    List LooseGlyph → Checked (List PlacedGlyph)
  | [] => pure []
  | g :: rest => do
      let step ← Word.exactInt64 .add (g.ref.advance.toNat + letterSpacing.toInt)
      let next ← Word.exactInt64 .add (x + step)
      let placed ← place letterSpacing baseline next rest
      pure (⟨g.ref, g.start, g.stop, Word.clampInt32 x, baseline, g.mask⟩
        :: placed)

/-- Lay out glyphs on one line. -/
def layout (glyphs : List LooseGlyph) (origin : Point) (options : LineOptions)
    (metrics : LineMetrics) : Checked Run := do
  let width ← measure (glyphs.map (·.ref.advance)) options.letterSpacing
  let height ← metrics.height
  let left ← startX options.anchor.alignment options.box origin.x.toInt
    width.toInt
  let baseline ← baselineY options.anchor.vertical options.box origin.y.toInt
    height.toInt metrics.ascent.toInt metrics.descent.toInt
  let placed ← place options.letterSpacing (Word.clampInt32 baseline) left
    glyphs
  let top ← Word.exactInt64 .sub (baseline - metrics.ascent.toInt)
  pure {
    glyphs := placed
    bounds := ⟨Word.clampInt32 left, Word.clampInt32 top, width, height⟩
    baseline := Word.clampInt32 baseline
    width := width }

end Line

end Inkwell
