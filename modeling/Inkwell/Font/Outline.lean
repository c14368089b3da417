import Inkwell.Font.Bytes
import Inkwell.Font.Fixed

/-!
# Outlines

The outline of a glyph is a list of contours through points.  A glyph stores
its points itself, or it is made of other glyphs that are moved and stretched.
Points are scaled to 64ths of a pixel as they are read, and the whole outline is
then moved so that it begins as far from the pen as the font's table of
advances says.
-/

namespace Inkwell.Font

/-- A point of an outline in 64ths of a pixel.  The line goes through it, or is
only drawn towards it. -/
structure Node where
  x : Int
  y : Int
  onCurve : Bool
  deriving DecidableEq

namespace Node

/-- The point moved. -/
def move (node : Node) (dx dy : Int) : Node :=
  { node with x := wrap32 (node.x + dx), y := wrap32 (node.y + dy) }

end Node

/-! ## Glyph data -/

/-- How a part of a glyph is placed. -/
inductive Attachment where
  /-- Moved by a distance. -/
  | offset (x y : Int)
  /-- Moved so that a point of it meets a point of what came before. -/
  | points (base own : Nat)
  deriving DecidableEq

/-- A part of a glyph: another glyph, placed and stretched.  The stretch is in
16384ths. -/
structure Part where
  glyph : Nat
  attachment : Attachment
  xx : Int
  yx : Int
  xy : Int
  yy : Int
  /-- Some stretch is given. -/
  stretched : Bool
  /-- The distance is stretched too. -/
  scaledOffset : Bool
  /-- The whole glyph begins where this part begins. -/
  leads : Bool
  deriving DecidableEq

/-- What is stored of a glyph. -/
inductive GlyphBody where
  /-- Points in font units, and the last point of each contour. -/
  | points (nodes : List Node) (ends : List Nat)
  | parts (all : List Part)
  deriving DecidableEq

/-- A glyph: its left edge and what is stored of it. -/
structure GlyphData where
  left : Int
  body : GlyphBody
  deriving DecidableEq

namespace GlyphData

/-- The flags of `count` points from a position on, and the position after
them.  A flag may be repeated by a count after it; at most `fuel` are read. -/
def flags? (data : ByteArray) :
    (fuel pos count : Nat) → Option (List Nat × Nat)
  | _, pos, 0 => some ([], pos)
  | 0, _, _ => none
  | fuel + 1, pos, count => do
      let flag ← byte? data pos
      if flag.testBit 3 then do
        let repeats ← byte? data (pos + 1)
        let here := min count (repeats + 1)
        let (others, stop) ← flags? data fuel (pos + 2) (count - here)
        pure (List.replicate here flag ++ others, stop)
      else do
        let (others, stop) ← flags? data fuel (pos + 1) (count - 1)
        pure (flag :: others, stop)

/-- The coordinates of points along one axis, each stored as the distance from
the last; `short` and `same` are the bits that tell how. -/
def coordinates? (data : ByteArray) (short same : Nat) :
    List Nat → (pos : Nat) → (last : Int) → Option (List Int × Nat)
  | [], pos, _ => some ([], pos)
  | flag :: rest, pos, last => do
      let (distance, next) ←
        if flag.testBit short then do
          let size ← byte? data pos
          pure (if flag.testBit same then (size : Int) else -(size : Int),
            pos + 1)
        else if flag.testBit same then
          pure ((0 : Int), pos)
        else do
          let size ← i16? data pos
          pure (size, pos + 2)
      let here := last + distance
      let (others, stop) ← coordinates? data short same rest next here
      pure (here :: others, stop)

/-- The numbers do not decrease. -/
def inOrder : List Nat → Bool
  | a :: b :: rest => decide (a ≤ b) && inOrder (b :: rest)
  | _ => true

/-- The points of a glyph with a number of contours. -/
def points? (data : ByteArray) (contours : Nat) : Option GlyphBody := do
  let ends ← items? (u16? data) 10 2 contours
  let length ← u16? data (10 + 2 * contours)
  let start ← after? data (12 + 2 * contours) length 1
  let count := (ends.getLast?.map (· + 1)).getD 0
  let (flags, pos) ← flags? data count start count
  let (xs, pos) ← coordinates? data 1 4 flags pos 0
  let (ys, _) ← coordinates? data 2 5 flags pos 0
  if inOrder ends then
    pure (.points
      ((flags.zip (xs.zip ys)).map fun point =>
        ⟨point.2.1, point.2.2, point.1.testBit 0⟩) ends)
  else none

/-- The signed value of a byte. -/
def signed8 (n : Nat) : Int := if n < 128 then n else (n : Int) - 256

/-- How the part at a position is placed, and the position after that. -/
def attachment? (data : ByteArray) (flags pos : Nat) :
    Option (Attachment × Nat) := do
  if flags.testBit 1 then
    if flags.testBit 0 then
      let x ← i16? data pos
      let y ← i16? data (pos + 2)
      pure (.offset x y, pos + 4)
    else
      let x ← byte? data pos
      let y ← byte? data (pos + 1)
      pure (.offset (signed8 x) (signed8 y), pos + 2)
  else if flags.testBit 0 then
    let base ← u16? data pos
    let own ← u16? data (pos + 2)
    pure (.points base own, pos + 4)
  else
    let base ← byte? data pos
    let own ← byte? data (pos + 1)
    pure (.points base own, pos + 2)

/-- How the part at a position is stretched, and the position after that. -/
def stretch? (data : ByteArray) (flags pos : Nat) :
    Option ((Int × Int × Int × Int) × Nat) := do
  if flags.testBit 3 then
    let both ← i16? data pos
    pure ((both, 0, 0, both), pos + 2)
  else if flags.testBit 6 then
    let xx ← i16? data pos
    let yy ← i16? data (pos + 2)
    pure ((xx, 0, 0, yy), pos + 4)
  else if flags.testBit 7 then
    let xx ← i16? data pos
    let yx ← i16? data (pos + 2)
    let xy ← i16? data (pos + 4)
    let yy ← i16? data (pos + 6)
    pure ((xx, yx, xy, yy), pos + 8)
  else pure ((16384, 0, 0, 16384), pos)

/-- The part at a position, whether another one follows, and the position after
it. -/
def part? (data : ByteArray) (pos : Nat) : Option (Part × Bool × Nat) := do
  let flags ← u16? data pos
  let glyph ← u16? data (pos + 2)
  let (attachment, pos) ← attachment? data flags (pos + 4)
  let ((xx, yx, xy, yy), pos) ← stretch? data flags pos
  pure ({
    glyph := glyph
    attachment := attachment
    xx := xx
    yx := yx
    xy := xy
    yy := yy
    stretched := flags.testBit 3 || flags.testBit 6 || flags.testBit 7
    scaledOffset := flags.testBit 11 && !flags.testBit 12
    leads := flags.testBit 9 }, flags.testBit 5, pos)

/-- The parts from a position on, up to one that cannot be read; at most `fuel`
are read. -/
def parts (data : ByteArray) : (fuel pos : Nat) → List Part
  | 0, _ => []
  | fuel + 1, pos =>
      match part? data pos with
      | none => []
      | some (part, more, pos) =>
          part :: if more then parts data fuel pos else []

/-- The glyph that is stored in data. -/
def read? (data : ByteArray) : Option GlyphData := do
  let contours ← i16? data 0
  let left ← i16? data 2
  let _ ← after? data 10 0 1
  if contours < 0 then pure ⟨left, .parts (parts data data.size 10)⟩
  else do
    let body ← points? data contours.toNat
    pure ⟨left, body⟩

end GlyphData

/-! ## Outlines of a font -/

/-- The tables that outlines are read from. -/
structure OutlineTables where
  unitsPerEm : Nat
  /-- Glyph places are stored as 32-bit numbers. -/
  longPlaces : Bool
  places : ByteArray
  glyphs : ByteArray
  /-- The table of advances, and how many are stored. -/
  metrics : ByteArray
  advances : Nat

namespace OutlineTables

/-- Where the data of a glyph begins and ends. -/
def place? (t : OutlineTables) (id : Nat) : Option (Nat × Nat) := do
  if t.longPlaces then
    let start ← u32? t.places (4 * id)
    let stop ← u32? t.places (4 * id + 4)
    pure (start, stop)
  else
    let start ← u16? t.places (2 * id)
    let stop ← u16? t.places (2 * id + 2)
    pure (2 * start, 2 * stop)

/-- The data of a glyph, if it has any. -/
def data? (t : OutlineTables) (id : Nat) : Option (Option GlyphData) := do
  let (start, stop) ← t.place? id
  if start = stop then pure none
  else if stop < start then none
  else do
    let data ← slice? t.glyphs start (stop - start)
    let glyph ← GlyphData.read? data
    pure (some glyph)

/-- How far from the pen a glyph begins. -/
def bearing (t : OutlineTables) (id : Nat) : Int :=
  (if id < t.advances then i16? t.metrics (4 * id + 2)
    else i16? t.metrics (4 * t.advances + 2 * (id - t.advances))).getD 0

end OutlineTables

/-- An outline as far as it was put together. -/
structure Sketch where
  nodes : List Node
  /-- The last point of each contour. -/
  ends : List Nat
  /-- Where the pen is. -/
  origin : Int
  /-- Some glyph with points of its own was read. -/
  drawn : Bool

namespace Sketch

/-- A part stretched about the pen. -/
def stretch (part : Part) (node : Node) : Node :=
  if part.stretched then
    { node with
      x := wrap32 (mulFixed node.x (4 * part.xx)
        + mulFixed node.y (4 * part.xy))
      y := wrap32 (mulFixed node.x (4 * part.yx)
        + mulFixed node.y (4 * part.yy)) }
  else node

/-- The whole number nearest to a length, from below. -/
def length (a b : Int) : Int := Nat.sqrt (a * a + b * b).toNat

/-- How far a part is moved.  The points are those of the outline so far and
those of the part. -/
def distance? (scale : Scale) (part : Part) (nodes own : List Node) :
    Option (Int × Int) := do
  match part.attachment with
  | .offset x y =>
      if part.stretched && part.scaledOffset then
        pure (scale.apply (mulFixed x (length (4 * part.xx) (4 * part.xy))),
          scale.apply (mulFixed y (length (4 * part.yy) (4 * part.yx))))
      else pure (scale.apply x, scale.apply y)
  | .points base index =>
      let there ← (nodes ++ own)[base]?
      let here ← own[index]?
      pure (there.x - here.x, there.y - here.y)

/-- Put a part to an outline. -/
def add? (scale : Scale) (sketch : Sketch) (part : Part) (piece : Sketch) :
    Option Sketch := do
  let own := piece.nodes.map (stretch part)
  let (dx, dy) ← distance? scale part sketch.nodes own
  pure {
    nodes := sketch.nodes ++ own.map (·.move dx dy)
    ends := sketch.ends ++ piece.ends.map (· + sketch.nodes.length)
    origin := if part.leads then piece.origin else sketch.origin
    drawn := sketch.drawn || piece.drawn }

/-- The outline of a glyph whose parts are nested at most `depth` deep. -/
def read? (t : OutlineTables) (scale : Scale) :
    (depth id : Nat) → Option Sketch
  | 0, _ => none
  | depth + 1, id => do
      match ← t.data? id with
      | none => pure ⟨[], [], scale.apply (-t.bearing id), false⟩
      | some glyph =>
          let origin := scale.apply (glyph.left - t.bearing id)
          match glyph.body with
          | .points nodes ends =>
              pure ⟨nodes.map fun node =>
                { node with x := scale.apply node.x, y := scale.apply node.y },
                ends, origin, true⟩
          | .parts all =>
              all.foldlM (fun sketch part => do
                let piece ← read? t scale depth part.glyph
                sketch.add? scale part piece) ⟨[], [], origin, false⟩

/-- How deep parts may be nested. -/
def maxDepth : Nat := 65

end Sketch

/-! ## Contours -/

/-- A piece of a contour that leads to a point. -/
inductive Segment where
  | line (x y : Int)
  /-- A parabola drawn towards a point between its ends. -/
  | curve (cx cy x y : Int)
  deriving DecidableEq

/-- A closed line: where it begins, and its pieces.  The last one leads back to
the beginning if nothing else does. -/
structure Contour where
  x : Int
  y : Int
  segments : List Segment
  deriving DecidableEq

namespace Contour

/-- The point between two, rounded towards zero. -/
def middle (a b : Node) : Node :=
  ⟨(a.x + b.x).tdiv 2, (a.y + b.y).tdiv 2, true⟩

/-- The pieces through points, after a point that is drawn towards, if there is
one; `start` is where the contour began. -/
def trace (start : Node) : (control : Option Node) → List Node → List Segment
  | none, [] => []
  | some c, [] => [.curve c.x c.y start.x start.y]
  | none, node :: rest =>
      if node.onCurve then .line node.x node.y :: trace start none rest
      else trace start (some node) rest
  | some c, node :: rest =>
      if node.onCurve then
        .curve c.x c.y node.x node.y :: trace start none rest
      else
        let between := middle c node
        .curve c.x c.y between.x between.y :: trace start (some node) rest

/-- The contour through points: it begins at the first point it goes through,
the last one counting as the one before the first. -/
def ofNodes? : List Node → Option Contour
  | [] => none
  | first :: rest =>
      let last := rest.getLastD first
      if first.onCurve then
        some ⟨first.x, first.y, trace first none rest⟩
      else if last.onCurve then
        some ⟨last.x, last.y, trace last none (first :: rest.dropLast)⟩
      else
        let start := middle first last
        some ⟨start.x, start.y, trace start none (first :: rest)⟩

/-- Cut points after each of the given last indices, each of which has to be
past the one before; `start` points came before. -/
def cut? : (ends : List Nat) → (start : Nat) → List Node →
    Option (List Contour)
  | [], _, _ => some []
  | last :: ends, start, nodes => do
      if last < start then none
      let count := last + 1 - start
      let contour ← ofNodes? (nodes.take count)
      let others ← cut? ends (last + 1) (nodes.drop count)
      pure (contour :: others)

/-- The points that a contour is drawn through or towards. -/
def points (contour : Contour) : List (Int × Int) :=
  (contour.x, contour.y) :: contour.segments.flatMap fun segment =>
    match segment with
    | .line x y => [(x, y)]
    | .curve cx cy x y => [(cx, cy), (x, y)]

end Contour

/-- The contours of a glyph.  A glyph that is made only of glyphs without
points is not drawn at all. -/
def OutlineTables.contours? (t : OutlineTables) (scale : Scale) (id : Nat) :
    Option (List Contour) := do
  let sketch ← Sketch.read? t scale Sketch.maxDepth id
  if sketch.drawn && sketch.nodes.isEmpty then none
  Contour.cut? sketch.ends 0
    (sketch.nodes.map fun node => node.move (-sketch.origin) 0)

end Inkwell.Font
