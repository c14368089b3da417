import Inkwell.Font.Artwork
import Inkwell.Font.Charmap
import Inkwell.Font.Feature
import Inkwell.Font.Header
import Inkwell.Font.Names
import Inkwell.Font.Single
import Inkwell.Glyph.Source

/-!
# Font faces

A face of a font file as a source of glyphs.  A single character is looked up
in the character maps; two joined characters have a glyph only if the font
makes one of them.
-/

namespace Inkwell

open Font

/-- A face of a font file. -/
structure Face where
  directory : Directory
  /-- The place of the face in its file. -/
  index : Nat
  family : String
  unitsPerEm : Nat
  glyphCount : Nat
  ascender : Int
  descender : Int
  /-- The number of advances that are stored. -/
  advances : Nat
  maps : List Charmap
  /-- What the font says about its glyphs. -/
  kinds : GlyphKinds
  /-- What the font says about substitutions, if anything. -/
  features : Option FeatureTable
  /-- The coverage from which on a pixel is painted. -/
  threshold : UInt8

namespace Face

/-- The coverage from which on a pixel is painted when nothing else is said. -/
def defaultThreshold : UInt8 := 128

/-- A table that has to be there and to be well formed. -/
def requireTable {α : Type} (d : Directory) (tag : String)
    (read : ByteArray → Option α) (otherwise : FontError) :
    Except FontError α :=
  match (d.last? tag).bind read with
  | some a => .ok a
  | none => .error otherwise

/-- The tables that a face cannot do without. -/
structure Essentials where
  directory : Directory
  head : Head
  hhea : Hhea
  glyphCount : Nat

/-- The essential tables of a face of a font file. -/
def essentials (bytes : ByteArray) (index : Nat) :
    Except FontError Essentials := do
  let directory ← Directory.read bytes index
  let head ← requireTable directory "head" head? .noHead
  let hhea ← requireTable directory "hhea" hhea? .noHhea
  let glyphs ← requireTable directory "maxp" glyphCount? .noMaxp
  pure ⟨directory, head, hhea, glyphs⟩

/-- The face with the given essential tables. -/
def ofEssentials (e : Essentials) (index : Nat) : Checked Face := do
  let table? := e.directory.last?
  let os2 := (table? "OS/2").bind os2?
  let names := ((table? "name").bind nameRecords?).getD []
  let descender ← Font.descender e.hhea os2
  pure {
    directory := e.directory
    index := index
    family := (familyOf names).getD "Unknown"
    unitsPerEm := e.head.unitsPerEm
    glyphCount := e.glyphCount
    ascender := Font.ascender e.hhea os2
    descender := descender
    advances := e.hhea.advances
    maps := ((table? "cmap").bind Charmap.all?).getD []
    kinds := ((table? "GDEF").bind GlyphKinds.read?).getD .none
    features := (table? "GSUB").bind FeatureTable.read?
    threshold := defaultThreshold }

/-- Read a face of a font file. -/
def read (bytes : ByteArray) (index : Nat) : Checked (Except FontError Face) :=
  match essentials bytes index with
  | .error e => pure (.error e)
  | .ok found => do
      let face ← ofEssentials found index
      pure (.ok face)

/-- The face with another threshold. -/
def withThreshold (f : Face) (threshold : UInt8) : Face :=
  { f with threshold := threshold }

/-- The glyph of a single character; the glyph with id zero counts as none. -/
def glyphId? (f : Face) (c : Char) : Option UInt16 := do
  let id ← Charmap.lookup? f.maps c.toNat
  if id = 0 then none else pure (UInt16.ofNat id)

/-- The glyph of a character in text that is shaped; a character without one is
shown by glyph zero. -/
def textGlyph (f : Face) (c : Char) : TextGlyph :=
  let glyph := ((Charmap.best? f.maps).bind (·.shapedGlyph? c.toNat)).getD 0
  ⟨glyph, (f.kinds.kind? glyph).getD (.ofChar c)⟩

/-- The glyphs that the font makes of characters. -/
def shape (f : Face) (cs : List Char) : List TextGlyph :=
  match f.features with
  | none => cs.map f.textGlyph
  | some table =>
      table.shape f.kinds (Text.scriptOfText? cs) (cs.map f.textGlyph)

/-- The one glyph that the font makes of characters, if it does. -/
def ligature? (f : Face) (cs : List Char) : Option UInt16 :=
  match f.shape cs with
  | [item] => if item.glyph = 0 then none else some (UInt16.ofNat item.glyph)
  | _ => none

/-- The glyph for a whole cluster. -/
def glyphFor? (f : Face) (cluster : Cluster) : Option UInt16 :=
  if cluster.isSequence then f.ligature? cluster.scalars
  else f.glyphId? cluster.first

/-- A length of font units in pixels. -/
def scale (f : Face) (n : Int) (size : UInt16) : Int :=
  Single.scale n size.toNat f.unitsPerEm

/-- How far a glyph moves the pen. -/
def advance (f : Face) (id size : UInt16) : UInt16 :=
  let stored := (f.directory.last? "hmtx").bind fun table =>
    advance? table f.advances f.glyphCount id.toNat
  Word.clampUInt16 (f.scale (stored.getD 0) size)

/-- The metrics of a line. -/
def lineMetrics (f : Face) (size : UInt16) : LineMetrics :=
  ⟨Word.clampInt32 (f.scale f.ascender size),
    Word.clampInt32 (f.scale (-f.descender) size)⟩

/-- The mask of a glyph. -/
def rasterize (f : Face) (id size : UInt16) : Except Error Mask :=
  Font.rasterize f.directory.bytes f.index f.threshold id size

/-- A face as a source. -/
def toSource (f : Face) : Source where
  name := f.family
  glyphFor? := f.glyphFor?
  advance := fun id size => pure (f.advance id size)
  lineMetrics := fun size => pure (f.lineMetrics size)
  rasterize := fun id size => pure (f.rasterize id size)

/-- The face in words. -/
def describe (f : Face) : String :=
  "FontSource \x7b family: " ++ Text.quotedString f.family
    ++ s!", face_index: {f.index}, units_per_em: {f.unitsPerEm} "
    ++ "\x7d"

end Face

end Inkwell
