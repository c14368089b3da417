import Inkwell.Font.Cells
import Inkwell.Glyph.Mask

/-!
# Rasterizing outlines

An outline is drawn on a grid of whole pixels around all its points, with an
empty column on each side.  The layers of a colored glyph are drawn each on a
grid of its own and then put over each other on a grid around them all.
-/

namespace Inkwell.Font

/-- The least and greatest coordinates of points. -/
structure Bounds where
  left : Int
  bottom : Int
  right : Int
  top : Int
  deriving DecidableEq

namespace Bounds

/-- The bounds of one point. -/
def ofPoint (p : Int × Int) : Bounds := ⟨p.1, p.2, p.1, p.2⟩

/-- The bounds with a point added. -/
def add (b : Bounds) (p : Int × Int) : Bounds :=
  ⟨min b.left p.1, min b.bottom p.2, max b.right p.1, max b.top p.2⟩

/-- The bounds of points; no points are at the pen. -/
def around : List (Int × Int) → Bounds
  | [] => ⟨0, 0, 0, 0⟩
  | p :: rest => rest.foldl add (ofPoint p)

/-- The bounds of all points of contours. -/
def ofContours (contours : List Contour) : Bounds :=
  around (contours.flatMap Contour.points)

end Bounds

/-- The pixel at or below a length in 64ths of a pixel. -/
def floorPixel (n : Int) : Int := n / 64

/-- The pixel at or above a length in 64ths of a pixel. -/
def ceilPixel (n : Int) : Int := -(-n / 64)

/-- Coverage on a grid of pixels whose upper left corner is given, row after
row from the top. -/
structure Picture where
  left : Int
  top : Int
  width : Nat
  height : Nat
  coverage : Array UInt8
  deriving DecidableEq

namespace Picture

/-- The picture of an outline. -/
def ofContours (contours : List Contour) : Picture :=
  let bounds := Bounds.ofContours contours
  let left := floorPixel bounds.left - 1
  let bottom := floorPixel bounds.bottom
  let top := ceilPixel bounds.top
  let width := (ceilPixel bounds.right + 1 - left).toNat
  let height := (top - bottom).toNat
  let cells := contours.foldl (Cells.contour left bottom)
    (Cells.empty width height)
  ⟨left, top, width, height, cells.coverage⟩

/-- The coverage of a pixel, zero outside the picture. -/
def coverageAt (p : Picture) (x y : Int) : Nat :=
  let column := x - p.left
  let row := p.top - y
  if 0 ≤ column ∧ column < p.width ∧ 0 ≤ row ∧ row < p.height then
    (p.coverage.getD (row.toNat * p.width + column.toNat) 0).toNat
  else 0

/-- An alpha put over another one. -/
def putOver (upper lower : Nat) : Nat :=
  if 255 ≤ upper then 255 else upper + (255 - upper) * lower / 255

/-- Put another picture in a color with an alpha over a picture. -/
def paint (p : Picture) (layer : Picture) (alpha : Nat) : Picture :=
  { p with
    coverage := p.coverage.mapIdx fun index lower =>
      let x := p.left + (index % p.width : Nat)
      let y := p.top - (index / p.width : Nat)
      UInt8.ofNat (putOver (layer.coverageAt x y * alpha / 256) lower.toNat) }

/-- An empty picture around the points of all layers.  Its size is that of
their bounds, rounded up. -/
def blank (bounds : Bounds) : Picture :=
  let width := (ceilPixel (bounds.right - bounds.left)).toNat
  let height := (ceilPixel (bounds.top - bounds.bottom)).toNat
  ⟨floorPixel bounds.left, height + ceilPixel bounds.bottom, width, height,
    Array.replicate (width * height) 0⟩

/-- The picture of layers, each with its alpha, the lowest one first. -/
def ofLayers (layers : List (List Contour × Nat)) : Picture :=
  layers.foldl (fun p layer => p.paint (ofContours layer.1) layer.2)
    (blank (Bounds.ofContours (layers.flatMap (·.1))))

/-- The picture as a mask. -/
def toMask (p : Picture) : Mask where
  width := UInt32.ofNat p.width
  height := UInt32.ofNat p.height
  bearingX := Word.clampInt16 p.left
  bearingY := Word.clampInt16 p.top
  coverage := p.coverage

end Picture

end Inkwell.Font
