import Inkwell.Font.Bytes
import Inkwell.Font.Search

/-!
# Sets and classes of glyphs

A coverage lists glyphs and gives each a place; a class definition puts each
glyph into a numbered class.  Both are stored either glyph by glyph or as
ranges, and both are searched by halving.
-/

namespace Inkwell.Font

/-- A range of glyphs with the number that is stored for it. -/
structure GlyphRange where
  first : Nat
  last : Nat
  value : Nat
  deriving DecidableEq

namespace GlyphRange

/-- The range at a position. -/
def read? (bytes : ByteArray) (pos : Nat) : Option GlyphRange := do
  let first ← u16? bytes pos
  let last ← u16? bytes (pos + 2)
  let value ← u16? bytes (pos + 4)
  pure ⟨first, last, value⟩

/-- The range with a glyph. -/
def find? (ranges : Array GlyphRange) (glyph : Nat) : Option GlyphRange :=
  (search? (fun index => ranges[index]?.map fun range =>
    if glyph < range.first then .gt
    else if glyph ≤ range.last then .eq
    else .lt) ranges.size).bind (ranges[·]?)

end GlyphRange

/-- A set of glyphs in which each has a place. -/
inductive Coverage where
  | glyphs (ids : Array Nat)
  /-- Ranges with the place of their first glyph. -/
  | ranges (all : Array GlyphRange)

namespace Coverage

/-- The coverage at a position. -/
def read? (bytes : ByteArray) (pos : Nat) : Option Coverage := do
  let format ← u16? bytes pos
  let count ← u16? bytes (pos + 2)
  match format with
  | 1 => (array? u16? bytes (pos + 4) 2 count).map .glyphs
  | 2 => (array? GlyphRange.read? bytes (pos + 4) 6 count).map .ranges
  | _ => none

/-- The place of a glyph. -/
def place? (coverage : Coverage) (glyph : Nat) : Option Nat :=
  match coverage with
  | .glyphs ids =>
      search? (fun index => ids[index]?.map (compare · glyph)) ids.size
  | .ranges all => do
      let range ← GlyphRange.find? all glyph
      let place := range.value + (glyph - range.first)
      if place < 65536 then pure place else none

end Coverage

/-- Glyphs in classes; a glyph without a class is in class zero. -/
inductive ClassTable where
  /-- The classes of the glyphs from `first` on. -/
  | list (first : Nat) (classes : Array Nat)
  | ranges (all : Array GlyphRange)

namespace ClassTable

/-- The classes at a position. -/
def read? (bytes : ByteArray) (pos : Nat) : Option ClassTable := do
  match ← u16? bytes pos with
  | 1 =>
      let first ← u16? bytes (pos + 2)
      let count ← u16? bytes (pos + 4)
      (array? u16? bytes (pos + 6) 2 count).map (.list first)
  | 2 =>
      let count ← u16? bytes (pos + 2)
      (array? GlyphRange.read? bytes (pos + 4) 6 count).map .ranges
  | _ => none

/-- The class of a glyph. -/
def classOf (table : ClassTable) (glyph : Nat) : Nat :=
  match table with
  | .list first classes =>
      if glyph < first then 0 else classes.getD (glyph - first) 0
  | .ranges all => ((GlyphRange.find? all glyph).map (·.value)).getD 0

end ClassTable

end Inkwell.Font
