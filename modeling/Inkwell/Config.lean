import Inkwell.Cache
import Inkwell.Error
import Inkwell.Renderer
import Inkwell.Text.JoinRule
import Inkwell.Toml.Quoted
import Inkwell.Toml.Reader
import Inkwell.Toml.Schema

/-!
# Configurations

What a renderer is set up from, written as TOML.  Every field has a value to
fall back on.  Writing puts the fields in a fixed order, numbers and lists
before tables.  What cannot be written is a cache capacity above the range of
TOML integers and a string with more quotes in a row than a byte counts.
-/

namespace Inkwell

/-- Where glyphs come from. -/
structure FontsConfig where
  /-- Families for text, the first available one of which is used. -/
  base : List String
  /-- Families for emoji. -/
  emoji : List String
  /-- Families for symbols. -/
  symbol : List String
  /-- Directories with more fonts. -/
  fontDirs : List String
  /-- Files with bitmap sheets, tried after the fonts. -/
  bitmapTables : List String
  /-- Use the fonts of the system as well. -/
  systemFonts : Bool
  deriving DecidableEq

/-- What a renderer is set up from. -/
structure Config where
  /-- The size in pixels. -/
  size : UInt16
  /-- The coverage from which on a pixel of a font is painted. -/
  threshold : UInt8
  /-- The capacity of the cache. -/
  capacity : UInt64
  fonts : FontsConfig
  rules : RuleTable
  deriving DecidableEq

/-- No families, directories or sheets, and the fonts of the system. -/
def FontsConfig.standard : FontsConfig := ⟨[], [], [], [], [], true⟩

namespace Config

/-- The coverage from which on a pixel counts when nothing else is said. -/
def defaultThreshold : UInt8 := 128

/-- The configuration without any wishes. -/
def standard : Config where
  size := Renderer.defaultSize
  threshold := defaultThreshold
  capacity := UInt64.ofNat Cache.defaultCapacity
  fonts := FontsConfig.standard
  rules := RuleTable.standard

/-! ## Reading -/

/-- A range of code points. -/
def readRange (value : Toml.Value) : Option CodeRange := do
  let fields ← Toml.fields? ["start", "end"] value
  let low ← Toml.required fields "start" Toml.uint32?
  let high ← Toml.required fields "end" Toml.uint32?
  pure ⟨low, high⟩

/-- A join rule; a range that is left out holds every character. -/
def readRule (value : Toml.Value) : Option JoinRule := do
  let fields ← Toml.fields? ["name", "first", "second"] value
  let name ← Toml.required fields "name" Toml.text?
  let first ← Toml.withDefault fields "first" CodeRange.any readRange
  let second ← Toml.withDefault fields "second" CodeRange.any readRange
  pure ⟨name, first, second⟩

/-- A rule table. -/
def readRules (value : Toml.Value) : Option RuleTable := do
  let fields ← Toml.fields? ["rules"] value
  let rules ← Toml.withDefault fields "rules" RuleTable.standard.rules
    (Toml.list? readRule)
  pure ⟨rules⟩

/-- The capacity of the cache. -/
def readCache (value : Toml.Value) : Option UInt64 := do
  let fields ← Toml.fields? ["capacity"] value
  Toml.withDefault fields "capacity" standard.capacity Toml.uint64?

/-- Where glyphs come from. -/
def readFonts (value : Toml.Value) : Option FontsConfig := do
  let fields ← Toml.fields?
    ["base", "emoji", "symbol", "font_dirs", "bitmap_tables", "system_fonts"]
    value
  let texts := fun name =>
    Toml.withDefault fields name [] (Toml.list? Toml.text?)
  let base ← texts "base"
  let emoji ← texts "emoji"
  let symbol ← texts "symbol"
  let fontDirs ← texts "font_dirs"
  let bitmapTables ← texts "bitmap_tables"
  let systemFonts ← Toml.withDefault fields "system_fonts" true Toml.bool?
  pure ⟨base, emoji, symbol, fontDirs, bitmapTables, systemFonts⟩

/-- A configuration from the entries of a document. -/
def ofEntries (entries : Toml.Entries) : Option Config := do
  let size ← Toml.withDefault entries "font_size_px" standard.size Toml.uint16?
  let threshold ← Toml.withDefault entries "coverage_threshold"
    standard.threshold Toml.uint8?
  let capacity ← Toml.withDefault entries "cache" standard.capacity readCache
  let fonts ← Toml.withDefault entries "fonts" standard.fonts readFonts
  let rules ← Toml.withDefault entries "segmentation" standard.rules readRules
  pure ⟨size, threshold, capacity, fonts, rules⟩

/-- Read a configuration. -/
def read (text : String) : Except Error Config :=
  match (Toml.read? text).bind ofEntries with
  | some config => .ok config
  | none => .error .configParse

/-! ## Writing -/

/-- A line with a key and its value. -/
def line (key : String) (value : List Char) : List Char :=
  key.toList ++ [' ', '=', ' '] ++ value ++ ['\n']

/-- A header on a line of its own after an empty one. -/
def header (text : String) : List Char := ['\n'] ++ text.toList ++ ['\n']

/-- A number. -/
def number (n : Nat) : List Char := Nat.toDigits 10 n

/-- What is written for the elements of a list, one after the other. -/
def writeEach {α : Type} (write : α → Checked (List Char)) :
    List α → Checked (List Char)
  | [] => pure []
  | a :: as => do
      let first ← write a
      let others ← writeEach write as
      pure (first ++ others)

/-- A string on a line of its own in a list. -/
def item (text : String) : Checked (List Char) := do
  let written ← Toml.writeString text
  pure ([' ', ' ', ' ', ' '] ++ written ++ [',', '\n'])

/-- A list of strings: on one line unless there are several. -/
def texts : List String → Checked (List Char)
  | [] => pure ['[', ']']
  | [text] => do
      let written ← Toml.writeString text
      pure (['['] ++ written ++ [']'])
  | several => do
      let items ← writeEach item several
      pure (['[', '\n'] ++ items ++ [']'])

/-- The lines of a range. -/
def writeRange (range : CodeRange) : List Char :=
  line "start" (number range.low.toNat) ++ line "end" (number range.high.toNat)

/-- The lines of a rule. -/
def writeRule (rule : JoinRule) : Checked (List Char) := do
  let name ← Toml.writeString rule.name
  pure (header "[[segmentation.rules]]" ++ line "name" name
    ++ header "[segmentation.rules.first]" ++ writeRange rule.first
    ++ header "[segmentation.rules.second]" ++ writeRange rule.second)

/-- The lines of the rules. -/
def writeRules : List JoinRule → Checked (List Char)
  | [] => pure (header "[segmentation]" ++ line "rules" ['[', ']'])
  | rules => writeEach writeRule rules

/-- The lines of the fonts. -/
def writeFonts (fonts : FontsConfig) : Checked (List Char) := do
  let base ← texts fonts.base
  let emoji ← texts fonts.emoji
  let symbol ← texts fonts.symbol
  let fontDirs ← texts fonts.fontDirs
  let bitmapTables ← texts fonts.bitmapTables
  pure (line "base" base ++ line "emoji" emoji ++ line "symbol" symbol
    ++ line "font_dirs" fontDirs ++ line "bitmap_tables" bitmapTables
    ++ line "system_fonts"
      (if fonts.systemFonts then "true".toList else "false".toList))

/-- The text of a configuration. -/
def render (config : Config) : Checked (List Char) := do
  let fonts ← writeFonts config.fonts
  let rules ← writeRules config.rules.rules
  pure (line "font_size_px" (number config.size.toNat)
    ++ line "coverage_threshold" (number config.threshold.toNat)
    ++ header "[cache]" ++ line "capacity" (number config.capacity.toNat)
    ++ header "[fonts]" ++ fonts ++ rules)

/-- Write a configuration.  The capacity has to fit a signed word. -/
def write (config : Config) : Checked (Except Error String) :=
  if 9223372036854775807 < config.capacity.toNat then
    pure (.error .configSerialize)
  else do
    let text ← config.render
    pure (.ok (String.ofList text))

end Config

end Inkwell
