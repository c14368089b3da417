import Inkwell.Font.Outline

/-!
# Cells

The area inside closed lines is counted in the cells of a grid, one for each
pixel.  A line leaves in each cell it passes how far it rises there, and twice
the area between it and the cell's left side.  What is inside a cell follows
from the rises in the cells to its left and from its own rise and area.

Lengths are 256ths of a pixel.  Where a line leaves a cell is found by a
multiplication with the rounded inverse of its length, and this rounding is
part of the result.
-/

namespace Inkwell.Font

/-- The parts of a pixel. -/
def pixelParts : Int := 256

/-- A quotient of nonnegative numbers of which the second is positive, by the
rounded inverse of the second. -/
def quickDiv (a b : Int) : Int := a * (16777215 / b) / 16777216

/-- A place in 256ths of a pixel. -/
structure Place where
  x : Int
  y : Int
  deriving DecidableEq

/-- The cells of a grid, row after row from the bottom: what lines that pass
through them leave there. -/
structure Cells where
  width : Nat
  height : Nat
  /-- How far lines rise. -/
  rises : Array Int
  /-- Twice the area to the left of the lines, downwards negative. -/
  areas : Array Int

namespace Cells

/-- Cells that no line passes. -/
def empty (width height : Nat) : Cells :=
  ⟨width, height, Array.replicate (width * height) 0,
    Array.replicate (width * height) 0⟩

/-- A line rises in a cell, between two distances from the left side whose sum
is given.  Cells outside the grid are not counted. -/
def add (cells : Cells) (column row rise sides : Int) : Cells :=
  if 0 ≤ column ∧ column < cells.width ∧ 0 ≤ row ∧ row < cells.height then
    let index := row.toNat * cells.width + column.toNat
    match cells with
    | ⟨width, height, rises, areas⟩ =>
        ⟨width, height, rises.modify index (· + rise),
          areas.modify index (· + rise * sides)⟩
  else cells

/-- Where a line has come to: a cell, the place in it, and on which side of the
line the cell's lower left corner is. -/
structure Visit where
  column : Int
  row : Int
  x : Int
  y : Int
  side : Int
  deriving DecidableEq

namespace Visit

/-- How a line begins. -/
def start (p : Place) (dx dy : Int) : Visit :=
  let x := p.x % pixelParts
  let y := p.y % pixelParts
  ⟨p.x / pixelParts, p.y / pixelParts, x, y, dx * y - dy * x⟩

/-- Where a line of the given direction leaves its cell, by the cell's sides,
and how it goes on in the next one. -/
def next (v : Visit) (dx dy : Int) : Place × Visit :=
  let wide := dx * pixelParts
  let high := dy * pixelParts
  if v.side ≤ 0 ∧ 0 < v.side - wide then
    let y := quickDiv (-v.side) (-dx)
    (⟨0, y⟩, ⟨v.column - 1, v.row, pixelParts, y, v.side - high⟩)
  else if v.side - wide ≤ 0 ∧ 0 < v.side - wide + high then
    let side := v.side - wide
    let x := if dx = 0 then v.x else quickDiv (-side) dy
    (⟨x, pixelParts⟩, ⟨v.column, v.row + 1, x, 0, side⟩)
  else if v.side - wide + high ≤ 0 ∧ 0 ≤ v.side + high then
    let side := v.side + high
    let y := quickDiv side dx
    (⟨pixelParts, y⟩, ⟨v.column + 1, v.row, 0, y, side⟩)
  else
    let x := if dx = 0 then v.x else quickDiv v.side (-dy)
    (⟨x, 0⟩, ⟨v.column, v.row - 1, x, pixelParts, v.side + wide⟩)

end Visit

/-- Follow a line to its end through at most `fuel` more cells. -/
def follow (stop : Place) (dx dy : Int) : (fuel : Nat) → Visit → Cells → Cells
  | 0, v, cells =>
      cells.add v.column v.row (stop.y % pixelParts - v.y)
        (v.x + stop.x % pixelParts)
  | fuel + 1, v, cells =>
      let (exit, v') := v.next dx dy
      follow stop dx dy fuel v'
        (cells.add v.column v.row (exit.y - v.y) (v.x + exit.x))

/-- Draw a line.  It passes as many cells as its ends are apart along both
axes. -/
def line (cells : Cells) (p q : Place) : Cells :=
  if p.y = q.y then cells
  else
    let dx := q.x - p.x
    let dy := q.y - p.y
    let passed := (q.x / pixelParts - p.x / pixelParts).natAbs
      + (q.y / pixelParts - p.y / pixelParts).natAbs
    follow q dx dy passed (.start p dx dy) cells

/-- How often a curve is halved so that it can be drawn in lines, by how far it
is bent: each halving leaves a quarter. -/
def halvings (bend : Nat) : Nat :=
  if 64 < bend then halvings (bend / 4) + 1 else 0
termination_by bend
decreasing_by omega

/-- Draw a curve in lines after halving it. -/
def halve (cells : Cells) : (times : Nat) → (p control q : Place) → Cells
  | 0, p, _, q => cells.line p q
  | times + 1, p, control, q =>
      let a : Place := ⟨p.x + control.x, p.y + control.y⟩
      let b : Place := ⟨control.x + q.x, control.y + q.y⟩
      let middle : Place := ⟨(a.x + b.x) / 4, (a.y + b.y) / 4⟩
      (cells.halve times p ⟨a.x / 2, a.y / 2⟩ middle).halve times middle
        ⟨b.x / 2, b.y / 2⟩ q

/-- Draw a curve. -/
def curve (cells : Cells) (p control q : Place) : Cells :=
  let bend := max (p.x - 2 * control.x + q.x).natAbs
    (p.y - 2 * control.y + q.y).natAbs
  cells.halve (halvings bend) p control q

/-- The place of a point in 64ths of a pixel, in a grid whose lower left corner
is the given pixel. -/
def placeOf (left bottom x y : Int) : Place :=
  ⟨4 * (x - 64 * left), 4 * (y - 64 * bottom)⟩

/-- Draw a piece of a closed line from where the last one ended. -/
def piece (left bottom : Int) (drawn : Cells × Place) (segment : Segment) :
    Cells × Place :=
  match drawn, segment with
  | (cells, here), .line x y =>
      let there := placeOf left bottom x y
      (cells.line here there, there)
  | (cells, here), .curve cx cy x y =>
      let there := placeOf left bottom x y
      (cells.curve here (placeOf left bottom cx cy) there, there)

/-- Draw a closed line in a grid at a pixel. -/
def contour (left bottom : Int) (cells : Cells) (c : Contour) : Cells :=
  let start := placeOf left bottom c.x c.y
  let (drawn, last) := c.segments.foldl (piece left bottom) (cells, start)
  drawn.line last start

/-- The coverage of a cell, from the rises up to it and its area.  Lines may go
round a cell either way. -/
def level (rise area : Int) : UInt8 :=
  let inside := (512 * rise - area) / 512
  UInt8.ofNat (min 255 (if inside < 0 then -inside - 1 else inside).toNat)

/-- The coverage of cells from one on, put after that of the cells before it;
`rise` is the sum of the rises to the left. -/
def scan (cells : Cells) :
    (count index : Nat) → (rise : Int) → Array UInt8 → Array UInt8
  | 0, _, _, done => done
  | count + 1, index, rise, done =>
      let rise := rise + cells.rises.getD index 0
      scan cells count (index + 1) rise
        (done.push (level rise (cells.areas.getD index 0)))

/-- The coverage of the lowest rows, the highest of them first. -/
def rows (cells : Cells) : (count : Nat) → Array UInt8 → Array UInt8
  | 0, done => done
  | count + 1, done =>
      rows cells count (cells.scan cells.width (count * cells.width) 0 done)

/-- The coverage of all cells, row after row from the top. -/
def coverage (cells : Cells) : Array UInt8 := cells.rows cells.height #[]

end Cells

end Inkwell.Font
