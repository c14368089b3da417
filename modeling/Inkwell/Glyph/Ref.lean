/-!
# Glyph references

A reference names the source a glyph comes from, both by its place in a chain
and by a key that no other source has, together with the glyph's id there and
how far it moves the pen.  One place is reserved for the missing glyph.
-/

namespace Inkwell

/-- A resolved glyph. -/
structure GlyphRef where
  /-- The place of the source in its chain. -/
  source : UInt16
  /-- The key of the source. -/
  key : UInt32
  /-- The id of the glyph in its source. -/
  glyph : UInt16
  /-- How far the glyph moves the pen at the size it was resolved for. -/
  advance : UInt16
  deriving DecidableEq

namespace GlyphRef

/-- The place that no source of a chain can have. -/
def missingSource : UInt16 := 65535

/-- The key of a chain without sources. -/
def unsourcedKey : UInt32 := 0

/-- A reference to the missing glyph of a chain whose first source has the
given key. -/
def missing (key : UInt32) (advance : UInt16) : GlyphRef :=
  ⟨missingSource, key, 0, advance⟩

/-- The reference is to the missing glyph. -/
def isMissing (ref : GlyphRef) : Bool := ref.source == missingSource

end GlyphRef

end Inkwell
