import Inkwell.Font.Directory

/-!
# Color layers

A colored glyph is a stack of layers, each another glyph in a color of the
font's palette.  Only the alpha of a color matters here, since all glyphs are
painted in the brush's color.
-/

namespace Inkwell.Font

/-- A layer of a colored glyph. -/
structure Layer where
  glyph : Nat
  /-- The alpha of the layer's color. -/
  alpha : Nat
  deriving DecidableEq

/-- The tables of layers and of palettes.  They may go on past their recorded
ends. -/
structure ColorTables where
  layers : ByteArray
  palettes : ByteArray

namespace ColorTables

/-- The bytes of a file from the beginning of a table on. -/
def onwards? (d : Directory) (tag : String) : Option ByteArray := do
  let record ← d.bisect? tag
  if record.start = 0 then none
  from? d.bytes record.start

/-- The color tables of a font. -/
def ofDirectory? (d : Directory) : Option ColorTables := do
  let layers ← onwards? d "COLR"
  let palettes ← onwards? d "CPAL"
  pure ⟨layers, palettes⟩

/-- The entry that stands for the color of the text. -/
def foreground : Nat := 0xFFFF

/-- The place of the first color of the first palette, and the number of
entries. -/
def firstPalette? (t : ColorTables) : Option (Nat × Nat) := do
  let _ ← u16? t.palettes 0
  let entries ← u16? t.palettes 2
  let count ← u16? t.palettes 4
  if count = 0 then none
  let colors ← u32? t.palettes 8
  let first ← u16? t.palettes 12
  pure (colors + 4 * first, entries)

/-- The alpha of an entry.  The color of the text is solid, and so is every
color without a palette; an entry that a palette does not have is clear. -/
def alpha (t : ColorTables) (entry : Nat) : Nat :=
  if entry = foreground then 255
  else
    match t.firstPalette? with
    | none => 255
    | some (start, entries) =>
        if entries ≤ entry then 0
        else (byte? t.palettes (start + 4 * entry + 3)).getD 0

/-- The first layer and the number of layers of a glyph. -/
def span? (t : ColorTables) (id : Nat) : Option (Nat × Nat) := do
  let count ← u16? t.layers 2
  let records ← u32? t.layers 4
  let index ← bisect?
    (fun index => (u16? t.layers (records + 6 * index)).map (compare · id))
    0 count
  let first ← u16? t.layers (records + 6 * index + 2)
  let number ← u16? t.layers (records + 6 * index + 4)
  pure (first, number)

/-- The layer with a number. -/
def layer? (t : ColorTables) (number : Nat) : Option Layer := do
  let start ← u32? t.layers 8
  let glyph ← u16? t.layers (start + 4 * number)
  let entry ← u16? t.layers (start + 4 * number + 2)
  pure ⟨glyph, t.alpha entry⟩

/-- The layers of a colored glyph, those left out that are not there. -/
def layers? (t : ColorTables) (id : Nat) : Option (List Layer) := do
  let _ ← u32? t.layers 8
  let (first, number) ← t.span? id
  pure ((List.range number).filterMap fun index => t.layer? (first + index))

end ColorTables

end Inkwell.Font
