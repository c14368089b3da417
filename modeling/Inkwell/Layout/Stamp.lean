import Inkwell.Layout.Line
import Inkwell.Paint.Brush

/-!
# Stamping runs

A run is painted by stamping the mask of each of its glyphs: every pixel with
nonzero coverage that lies in the clip gets the brush's color at full alpha.
Only the part of a mask that can be seen is looked at.  When a mask is too
large for the position of a byte to fit a word, what was stamped before stays.
-/

namespace Inkwell

namespace Mask

/-- The left edge of the mask with the pen at `x`. -/
def left (m : Mask) (x : Int32) : Int32 :=
  Word.clampInt32 (x.toInt + m.bearingX.toInt)

/-- The top edge of the mask over a baseline. -/
def top (m : Mask) (baseline : Int32) : Int32 :=
  Word.clampInt32 (baseline.toInt - m.bearingY.toInt)

/-- The area of the mask with the pen at `x` over a baseline. -/
def area (m : Mask) (x baseline : Int32) : Rect :=
  ⟨m.left x, m.top baseline, Int32.ofInt m.width.toNat,
    Int32.ofInt m.height.toNat⟩

/-- The coverage of the pixel `(px, py)` by a mask whose corner is
`(left, top)`. -/
def coverageOver (m : Mask) (left top : Int32) (px py : Int) :
    Checked UInt8 := do
  let row ← Word.exactInt32 .sub (py - top.toInt)
  let column ← Word.exactInt32 .sub (px - left.toInt)
  m.coverageAt column.toUInt32 row.toUInt32

end Mask

namespace Brush

/-- Stamp the pixels of row `py` from column `px` on. -/
def stampRow (m : Mask) (left top : Int32) (py : Int) :
    Nat → Int → Brush → Checked Unit × Brush
  | 0, _, b => (.ok (), b)
  | count + 1, px, b =>
      match m.coverageOver left top px py with
      | .error fault => (.error fault, b)
      | .ok coverage =>
          stampRow m left top py count (px + 1)
            (if coverage = 0 then b else b.plot px py)

/-- Stamp rows of `width` pixels from row `py` on. -/
def stampRows (m : Mask) (left top : Int32) (px : Int) (width : Nat) :
    Nat → Int → Brush → Checked Unit × Brush
  | 0, _, b => (.ok (), b)
  | count + 1, py, b =>
      match stampRow m left top py width px b with
      | (.error fault, b) => (.error fault, b)
      | (.ok (), b) => stampRows m left top px width count (py + 1) b

/-- Stamp a mask with the pen at `x` over a baseline. -/
def stampMask (m : Mask) (x baseline : Int32) (b : Brush) :
    Checked Unit × Brush :=
  let visible := (m.area x baseline).intersect b.clip
  if m.isEmpty || visible.isEmpty then
    (.ok (), b)
  else
    stampRows m (m.left x) (m.top baseline) visible.x.toInt
      visible.width.toInt.toNat visible.height.toInt.toNat visible.y.toInt b

/-- Stamp the glyphs of a run; those without a mask are skipped. -/
def stampGlyphs : List PlacedGlyph → Brush → Checked Unit × Brush
  | [], b => (.ok (), b)
  | g :: rest, b =>
      match g.mask with
      | none => stampGlyphs rest b
      | some m =>
          match stampMask m g.x g.baseline b with
          | (.error fault, b) => (.error fault, b)
          | (.ok (), b) => stampGlyphs rest b

/-- Paint a run in the brush's color. -/
def stamp (run : Run) (b : Brush) : Checked Unit × Brush :=
  stampGlyphs run.glyphs b

end Brush

end Inkwell
