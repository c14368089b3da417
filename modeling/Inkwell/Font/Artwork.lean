import Inkwell.Font.Palette
import Inkwell.Font.Raster

/-!
# Drawing glyphs

A glyph of a font file is drawn from the layers it has, else from its outline.
Where a table is missing or does not fit the others, nothing is drawn.
-/

namespace Inkwell.Font

/-- A table that outlines are read from, of at least a given length. -/
def Directory.sized? (d : Directory) (tag : String) (length : Nat) :
    Option ByteArray := do
  let record ← d.search? tag
  if record.start = 0 ∨ record.length < length then none
  d.bytesOf? record

/-- The number of glyphs that the table of limits tells.  In its full version
it has to be complete. -/
def limit? (table : ByteArray) : Option Nat := do
  let version ← u16? table 0
  let count ← u16? table 4
  if version = 1 ∧ table.size < 32 then none else pure count

namespace OutlineTables

/-- The tables of a font.  There has to be an advance, or at least a distance
from the pen, for each glyph. -/
def ofDirectory? (d : Directory) : Option OutlineTables := do
  let head ← d.sized? "head" 54
  let hhea ← d.sized? "hhea" 36
  let maxp ← d.sized? "maxp" 6
  let unitsPerEm ← u16? head 18
  let longPlaces := u16? head 50 == some 1
  let advances ← u16? hhea 34
  let glyphs ← limit? maxp
  let metrics ← d.sized? "hmtx" (4 * advances + 2 * (glyphs - advances))
  let places ← d.sized? "loca" 0
  if places.size % (if longPlaces then 4 else 2) ≠ 0 then none
  let data ← d.sized? "glyf" 0
  pure {
    unitsPerEm := unitsPerEm
    longPlaces := longPlaces
    places := places
    glyphs := data
    metrics := metrics
    advances := advances }

end OutlineTables

/-- The tables that glyphs are drawn from. -/
structure Artwork where
  outlines : OutlineTables
  colors : Option ColorTables

namespace Artwork

/-- The tables of a font. -/
def ofDirectory? (d : Directory) : Option Artwork := do
  let outlines ← OutlineTables.ofDirectory? d
  pure ⟨outlines, ColorTables.ofDirectory? d⟩

/-- The picture of a colored glyph, all of whose layers can be drawn. -/
def colored? (a : Artwork) (scale : Scale) (id : Nat) : Option Picture := do
  let colors ← a.colors
  let layers ← colors.layers? id
  let drawn ← layers.mapM fun layer => do
    let contours ← a.outlines.contours? scale layer.glyph
    pure (contours, layer.alpha)
  pure (Picture.ofLayers drawn)

/-- The picture of a glyph. -/
def picture? (a : Artwork) (id size : Nat) : Option Picture :=
  let scale := Scale.ofSize size a.outlines.unitsPerEm
  (a.colored? scale id).orElse fun _ =>
    (a.outlines.contours? scale id).map Picture.ofContours

end Artwork

/-- The header of a collection is all there; in its second version a signature
follows the list of places. -/
def headerFits (bytes : ByteArray) : Bool :=
  match magic? bytes 0 with
  | some .collection =>
      ((do
        let version ← u16? bytes 4
        let count ← u32? bytes 8
        after? bytes (if version = 2 then 24 else 12) count 4)).isSome
  | _ => true

/-- What the face that begins at a place is drawn from. -/
def artworkAt? (bytes : ByteArray) (place : Nat) : Option Artwork :=
  match Directory.readAt bytes (place + 4) with
  | .error _ => none
  | .ok directory =>
      if headerFits bytes then Artwork.ofDirectory? directory else none

/-- The mask of a glyph of a font file.  A glyph that is not there or whose
tables cannot be read has nothing to paint. -/
def rasterize (bytes : ByteArray) (index : Nat) (threshold : UInt8)
    (id size : UInt16) : Except Error Mask :=
  match facePlace? bytes index with
  | none => .error .invalidFontData
  | some place =>
      let picture := (artworkAt? bytes place).bind fun artwork =>
        artwork.picture? id.toNat size.toNat
      .ok (((picture.map Picture.toMask).getD Mask.empty).threshold threshold)

end Inkwell.Font
