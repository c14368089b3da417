import Inkwell.Font.Directory
import Inkwell.Word

/-!
# Headers and metrics of a font

The tables that say how large the em square is, how far lines reach, how many
glyphs there are and how far each of them moves the pen.
-/

namespace Inkwell.Font

/-- What the header table says. -/
structure Head where
  unitsPerEm : Nat
  /-- Glyph places are stored as 32-bit numbers. -/
  longPlaces : Bool

/-- What the horizontal header says. -/
structure Hhea where
  ascender : Int
  descender : Int
  /-- The number of advances that are stored. -/
  advances : Nat

/-- What the table for one desktop system says. -/
structure Os2 where
  weight : Nat
  width : Nat
  /-- The slant of the face: upright, oblique or italic. -/
  italic : Bool
  oblique : Bool
  /-- The typographic metrics are the ones to use. -/
  typographic : Bool
  typoAscender : Int
  typoDescender : Int
  winAscent : Int
  /-- How far the face reaches below the baseline, downwards. -/
  winDescent : Int

/-- The header table. -/
def head? (table : ByteArray) : Option Head := do
  if table.size < 54 then none
  let units ← u16? table 18
  let format ← u16? table 50
  if units < 16 ∨ 16384 < units then none
  if format = 0 then pure ⟨units, false⟩
  else if format = 1 then pure ⟨units, true⟩
  else none

/-- The horizontal header. -/
def hhea? (table : ByteArray) : Option Hhea := do
  let ascender ← i16? table 4
  let descender ← i16? table 6
  let advances ← u16? table 34
  pure ⟨ascender, descender, advances⟩

/-- The number of glyphs. -/
def glyphCount? (table : ByteArray) : Option Nat := do
  let version ← u32? table 0
  if version ≠ 0x00005000 ∧ version ≠ 0x00010000 then none
  let count ← u16? table 4
  if count = 0 then none else pure count

/-- The least length of the system table in each version. -/
def os2Length? : Nat → Option Nat
  | 0 => some 78
  | 1 => some 86
  | 2 => some 96
  | 3 => some 96
  | 4 => some 96
  | 5 => some 100
  | _ => none

/-- The table for one desktop system. -/
def os2? (table : ByteArray) : Option Os2 := do
  let version ← u16? table 0
  let length ← os2Length? version
  if table.size < length then none
  let weight ← u16? table 4
  let width ← u16? table 6
  let selection ← u16? table 62
  let typoAscender ← i16? table 68
  let typoDescender ← i16? table 70
  let winAscent ← i16? table 74
  let winDescent ← i16? table 76
  pure {
    weight := weight
    width := width
    italic := selection.testBit 0
    oblique := decide (4 ≤ version) && selection.testBit 9
    typographic := decide (4 ≤ version) && selection.testBit 7
    typoAscender := typoAscender
    typoDescender := typoDescender
    winAscent := winAscent
    winDescent := winDescent }

/-- The first of three numbers that is not zero, or zero. -/
def firstNonzero (a b c : Int) : Int := if a ≠ 0 then a else if b ≠ 0 then b else c

/-- The ascender of a face. -/
def ascender (hhea : Hhea) : Option Os2 → Int
  | none => hhea.ascender
  | some os2 =>
      if os2.typographic then os2.typoAscender
      else firstNonzero hhea.ascender os2.typoAscender os2.winAscent

/-- A 16-bit number turned round, refused when there is no such number. -/
def negate16 (n : Int) : Checked Int :=
  if Word.FitsInt16 (-n) then .ok (-n) else .error (.overflow .neg)

/-- The descender of a face, negative below the baseline. -/
def descender (hhea : Hhea) : Option Os2 → Checked Int
  | none => pure hhea.descender
  | some os2 =>
      if os2.typographic then pure os2.typoDescender
      else if hhea.descender ≠ 0 then pure hhea.descender
      else if os2.typoDescender ≠ 0 then pure os2.typoDescender
      else negate16 os2.winDescent

/-- The advance of a glyph in font units, by the table of advances of which
`stored` are there for `glyphs` glyphs: the last one counts for all others. -/
def advance? (table : ByteArray) (stored glyphs id : Nat) : Option Nat := do
  if stored = 0 then none
  let _ ← after? table 0 stored 4
  if max stored glyphs ≤ id then none
  u16? table (4 * min id (stored - 1))

end Inkwell.Font
