import Std.Data.HashMap
import Inkwell.Error
import Inkwell.Glyph.LineMetrics
import Inkwell.Glyph.Mask
import Inkwell.Text.Cluster

/-!
# Bitmap sheets

A sheet holds glyphs drawn pixel by pixel at one design size and finds them by
the exact characters of a cluster.  At any other size the drawing is scaled to
the nearest source pixel, and every length is scaled and rounded to the nearest
integer, halves away from zero.
-/

namespace Inkwell

/-- One drawing of a sheet, at the sheet's design size. -/
structure Drawing where
  width : UInt32
  height : UInt32
  bearingX : Int16
  bearingY : Int16
  advance : UInt16
  /-- Zero or 255 for each pixel, row after row. -/
  coverage : Array UInt8

namespace Drawing

/-- A drawing that only moves the pen. -/
def blank (advance : UInt16) : Drawing where
  width := 0
  height := 0
  bearingX := 0
  bearingY := 0
  advance := advance
  coverage := #[]

/-- The coverage that a character of row art stands for. -/
def inkOf? (c : Char) : Option UInt8 :=
  if c = '#' then some 255
  else if c = '.' ∨ c = ' ' then some 0
  else none

/-- The pixels of one row of art. -/
def readPixels (row : Nat) : List Char → Except SheetError (List UInt8)
  | [] => .ok []
  | c :: cs =>
      match inkOf? c with
      | none => .error (.badPixel c row)
      | some ink =>
          match readPixels row cs with
          | .error e => .error e
          | .ok bytes => .ok (ink :: bytes)

/-- The pixels of rows of art that all have to be `width` wide; `row` rows came
before them and make up the pixels `before`. -/
def readRows (width : UInt32) :
    (rows : List (List Char)) → (row : Nat) → (before : Array UInt8) →
      Except SheetError (Array UInt8)
  | [], _, before => .ok before
  | cs :: rows, row, before =>
      if UInt32.ofNat cs.length = width then
        match readPixels row cs with
        | .error e => .error e
        | .ok bytes => readRows width rows (row + 1) (before ++ bytes.toArray)
      else
        .error (.rowWidth row cs.length width.toNat)

/-- The width of row art: that of its first row. -/
def artWidth : List (List Char) → Nat
  | [] => 0
  | cs :: _ => cs.length

/-- A drawing from row art, in which `#` paints and `.` and blank do not.  The
bottom row stands on the baseline. -/
def ofRows (rows : List String) (advance : UInt16) :
    Checked (Except SheetError Drawing) := do
  let art := rows.map String.toList
  let height := UInt32.ofNat art.length
  let width := UInt32.ofNat (artWidth art)
  let _ ← Word.exactUInt32 .mul (width.toNat * height.toNat)
  pure ((readRows width art 0 #[]).map fun bytes =>
    { width := width
      height := height
      bearingX := 0
      bearingY := Int16.ofInt height.toNat
      advance := advance
      coverage := bytes })

/-- The drawing moved to another place relative to the pen. -/
def withBearing (d : Drawing) (x y : Int16) : Drawing :=
  { d with bearingX := x, bearingY := y }

/-- The drawing as a mask at its design size. -/
def mask (d : Drawing) : Mask :=
  ⟨d.width, d.height, d.bearingX, d.bearingY, d.coverage⟩

end Drawing

/-- Drawings at one design size, found by the characters of a cluster. -/
structure Sheet where
  name : String
  /-- The size in pixels at which the drawings are made. -/
  design : UInt16
  metrics : LineMetrics
  drawings : Array Drawing
  /-- The id of the drawing for each sequence of characters, by its text. -/
  ids : Std.HashMap String UInt16
  design_pos : 0 < design.toNat

namespace Sheet

/-- A sheet without drawings; a design size of zero counts as one. -/
def create (name : String) (design : UInt16) (metrics : LineMetrics) :
    Sheet where
  name := name
  design := if design = 0 then 1 else design
  metrics := metrics
  drawings := #[]
  ids := ∅
  design_pos := by
    split
    · decide
    · rename_i nonzero
      exact Nat.pos_of_ne_zero fun zero =>
        nonzero (UInt16.toNat_inj.mp zero)

/-- The number of drawings. -/
def size (s : Sheet) : Nat := s.drawings.size

/-- The sheet has no drawing. -/
def isEmpty (s : Sheet) : Bool := s.drawings.isEmpty

/-- Why the sheet cannot take a drawing for a sequence, if it cannot: the
sequence has to hold one or two characters, and a new one needs an id. -/
def refusal? (s : Sheet) (sequence : List Char) : Option SheetError :=
  if sequence.length = 0 ∨ maxSequence < sequence.length then
    some (.sequenceLength sequence)
  else if s.drawings.size < 65536 ∨ s.ids.contains (String.ofList sequence) then
    none
  else
    some (.full s.name)

/-- Put a drawing under a sequence that is not refused: in the place of the one
it has, or after all others.  The result is the id of the sequence, which it
keeps, and the new sheet. -/
def put (s : Sheet) (sequence : List Char) (drawing : Drawing) :
    UInt16 × Sheet :=
  match s.ids[String.ofList sequence]? with
  | some id =>
      (id, { s with drawings := s.drawings.setIfInBounds id.toNat drawing })
  | none =>
      let id := UInt16.ofNat s.drawings.size
      (id,
        { s with
          drawings := s.drawings.push drawing
          ids := s.ids.insert (String.ofList sequence) id })

/-- Add the drawing of a sequence, or replace the one it has. -/
def insert (s : Sheet) (sequence : List Char) (drawing : Drawing) :
    Except SheetError (UInt16 × Sheet) :=
  match s.refusal? sequence with
  | some e => .error e
  | none => .ok (s.put sequence drawing)

/-- The id of the drawing for the whole cluster. -/
def glyphFor? (s : Sheet) (cluster : Cluster) : Option UInt16 :=
  s.ids[cluster.text]?

/-- A length of the design, scaled to a size and rounded to the nearest
integer, halves away from zero. -/
def scale (s : Sheet) (value : Int32) (size : UInt16) : Checked Int32 := do
  let design : Int := s.design.toNat
  let scaled ← Word.exactInt32 .mul (value.toInt * size.toNat)
  let moved ←
    if 0 ≤ scaled.toInt then
      Word.exactInt32 .add (scaled.toInt + design / 2)
    else
      Word.exactInt32 .sub (scaled.toInt - design / 2)
  pure (Int32.ofInt (moved.toInt.tdiv design))

/-- How far a glyph moves the pen; an id without a drawing does not. -/
def advance (s : Sheet) (id size : UInt16) : Checked UInt16 :=
  match s.drawings[id.toNat]? with
  | none => pure 0
  | some drawing => do
      let scaled ← s.scale (Int32.ofNat drawing.advance.toNat) size
      pure (UInt16.ofNat (max scaled.toInt 0).toNat)

/-- The metrics of a line at a size. -/
def lineMetrics (s : Sheet) (size : UInt16) : Checked LineMetrics := do
  let ascent ← s.scale s.metrics.ascent size
  let descent ← s.scale s.metrics.descent size
  pure ⟨ascent, descent⟩

/-- An extent of a drawing at a size, at least one pixel. -/
def scaleExtent (s : Sheet) (extent : UInt32) (size : UInt16) :
    Checked UInt32 := do
  let scaled ← s.scale (Int32.ofInt extent.toNat) size
  pure (UInt32.ofNat (max scaled.toInt 1).toNat)

/-- The position in a line of `source` pixels that is nearest to position `i`
of the same line drawn with `target` pixels. -/
def nearest (source target i : Nat) : Nat := i * source / target

/-- The nearest position as it is computed in words. -/
def nearestWord (source target : UInt32) (i : Nat) : Checked UInt32 := do
  let product ← Word.exactUInt32 .mul (i * source.toNat)
  pure (UInt32.ofNat (product.toNat / target.toNat))

/-- Redraw column `x` of a row, with the pixel nearest to it in row `y` of the
drawing. -/
def redrawPixel (drawing : Drawing) (width y : UInt32) (bytes : Array UInt8)
    (x : Nat) : Checked (Array UInt8) := do
  let nearestX ← nearestWord drawing.width width x
  let position ← bytePosition drawing.width nearestX y
  let byte ← byteAt drawing.coverage position
  pure (bytes.push byte)

/-- Redraw a row with the row nearest to it in the drawing. -/
def redrawRow (drawing : Drawing) (width height : UInt32)
    (bytes : Array UInt8) (y : Nat) : Checked (Array UInt8) := do
  let nearestY ← nearestWord drawing.height height y
  (List.range width.toNat).foldlM (redrawPixel drawing width nearestY) bytes

/-- A drawing redrawn at a size. -/
def redraw (s : Sheet) (drawing : Drawing) (size : UInt16) :
    Checked Mask := do
  let width ← s.scaleExtent drawing.width size
  let height ← s.scaleExtent drawing.height size
  let _ ← Word.exactUInt32 .mul (width.toNat * height.toNat)
  let coverage ← (List.range height.toNat).foldlM
    (redrawRow drawing width height) #[]
  let bearingX ← s.scale (Int32.ofInt drawing.bearingX.toInt) size
  let bearingY ← s.scale (Int32.ofInt drawing.bearingY.toInt) size
  pure {
    width := width
    height := height
    bearingX := Int16.ofInt bearingX.toInt
    bearingY := Int16.ofInt bearingY.toInt
    coverage := coverage }

/-- The mask of a glyph at a size. -/
def rasterize (s : Sheet) (id size : UInt16) :
    Checked (Except Error Mask) :=
  match s.drawings[id.toNat]? with
  | none => pure (.error (.sheet (.noGlyph id.toNat s.name)))
  | some drawing =>
      if drawing.width = 0 ∨ drawing.height = 0 then
        pure (.ok Mask.empty)
      else if size = s.design then
        pure (.ok drawing.mask)
      else do
        let mask ← s.redraw drawing size
        pure (.ok mask)

end Sheet

end Inkwell
