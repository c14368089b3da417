import Inkwell.Glyph.Sheet
import Inkwell.Toml.Reader
import Inkwell.Toml.Schema

/-!
# Reading sheets

A bitmap sheet written as TOML: its name, design size and metrics, and for each
glyph the codes of its characters, its advance, its place and its rows.  The
form of the whole text is checked before the first glyph is looked at.
-/

namespace Inkwell.Sheet

/-- A glyph of a written sheet. -/
structure Entry where
  codes : List UInt32
  advance : UInt16
  bearingX : Int16
  /-- When it is left out, the bottom row stands on the baseline. -/
  bearingY : Option Int16
  rows : List String

/-- A written sheet. -/
structure Written where
  name : String
  design : UInt16
  metrics : LineMetrics
  entries : List Entry

/-- A glyph of a written sheet. -/
def readEntry (value : Toml.Value) : Option Entry := do
  let fields ← Toml.fields?
    ["sequence", "advance", "bearing_x", "bearing_y", "rows"] value
  let codes ← Toml.required fields "sequence" (Toml.list? Toml.uint32?)
  let advance ← Toml.required fields "advance" Toml.uint16?
  let bearingX ← Toml.withDefault fields "bearing_x" 0 Toml.int16?
  let bearingY ← Toml.withDefault fields "bearing_y" none
    fun value => (Toml.int16? value).map some
  let rows ← Toml.withDefault fields "rows" [] (Toml.list? Toml.text?)
  pure ⟨codes, advance, bearingX, bearingY, rows⟩

/-- A written sheet from the entries of a document. -/
def ofEntries (fields : Toml.Entries) : Option Written := do
  let name ← Toml.required fields "name" Toml.text?
  let design ← Toml.required fields "design_px" Toml.uint16?
  let ascent ← Toml.required fields "ascent" Toml.int32?
  let descent ← Toml.required fields "descent" Toml.int32?
  let entries ← Toml.withDefault fields "glyphs" [] (Toml.list? readEntry)
  pure ⟨name, design, ⟨ascent, descent⟩, entries⟩

/-- The characters with the given codes. -/
def sequence : List UInt32 → Except SheetError (List Char)
  | [] => .ok []
  | code :: rest =>
      match Toml.scalar? code.toNat with
      | none => .error (.notScalar code.toNat)
      | some c =>
          match sequence rest with
          | .error e => .error e
          | .ok cs => .ok (c :: cs)

/-- Add a written glyph to a sheet. -/
def addEntry (s : Sheet) (entry : Entry) :
    Checked (Except SheetError Sheet) :=
  match sequence entry.codes with
  | .error e => pure (.error e)
  | .ok cs => do
      match ← Drawing.ofRows entry.rows entry.advance with
      | .error e => pure (.error e)
      | .ok drawing =>
          let placed := drawing.withBearing entry.bearingX
            (entry.bearingY.getD drawing.bearingY)
          match s.insert cs placed with
          | .error e => pure (.error e)
          | .ok (_, s) => pure (.ok s)

/-- Add written glyphs to a sheet in order. -/
def addEntries : List Entry → Sheet → Checked (Except SheetError Sheet)
  | [], s => pure (.ok s)
  | entry :: rest, s => do
      match ← s.addEntry entry with
      | .error e => pure (.error e)
      | .ok s => addEntries rest s

/-- Read a sheet. -/
def read (text : String) : Checked (Except Error Sheet) :=
  match (Toml.read? text).bind ofEntries with
  | none => pure (.error .configParse)
  | some written => do
      match ← addEntries written.entries
          (create written.name written.design written.metrics) with
      | .error e => pure (.error (.sheet e))
      | .ok s => pure (.ok s)

end Inkwell.Sheet
