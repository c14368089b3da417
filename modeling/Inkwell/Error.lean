import Inkwell.Text.Quoted

/-!
# Errors

What can be wrong with the material a text engine is set up from: bitmap
sheets, fonts, files and configurations.  Every error is a cause; its wording
is given by `Error.message` alone.
-/

namespace Inkwell

/-- What is wrong with a bitmap sheet, or with a request to one. -/
inductive SheetError where
  /-- A row of a glyph is not as wide as its first row. -/
  | rowWidth (row found expected : Nat)
  /-- A row holds a character that is neither ink nor blank. -/
  | badPixel (pixel : Char) (row : Nat)
  /-- A sequence holds no character or more than two. -/
  | sequenceLength (sequence : List Char)
  /-- No glyph id is left. -/
  | full (name : String)
  /-- A number is not the code of a character. -/
  | notScalar (code : Nat)
  /-- No glyph has the id. -/
  | noGlyph (id : Nat) (name : String)
  deriving DecidableEq

/-- The longest sequence of characters that a sheet can match. -/
def maxSequence : Nat := 2

/-- The hexadecimal digits of a code point, in upper case and at least four of
them. -/
def codePoint (code : Nat) : String :=
  let digits := (Nat.toDigits 16 code).map Char.toUpper
  String.ofList (List.replicate (4 - digits.length) '0' ++ digits)

/-- The text shown for a fault in a sheet. -/
def SheetError.message : SheetError → String
  | .rowWidth row found expected =>
      s!"row {row} is {found} pixels wide, expected {expected}"
  | .badPixel pixel row =>
      "unexpected " ++ Text.quotedChar pixel ++ s!" in row {row}"
  | .sequenceLength sequence =>
      "sequence " ++ Text.bracketed (sequence.map Text.quotedChar)
        ++ s!" must hold 1 to {maxSequence} scalars"
  | .full name => "table '" ++ name ++ "' is full"
  | .notScalar code => "U+" ++ codePoint code ++ " is not a scalar value"
  | .noGlyph id name => s!"glyph {id} not in table '" ++ name ++ "'"

/-- What is wrong with the bytes of a font. -/
inductive FontError where
  /-- The first bytes name no font format. -/
  | unknownMagic
  /-- The header or the table directory is cut short. -/
  | malformed
  /-- There is no face with the index. -/
  | faceIndex
  /-- The header table is missing or malformed. -/
  | noHead
  /-- The horizontal header is missing or malformed. -/
  | noHhea
  /-- The glyph count is missing or malformed. -/
  | noMaxp
  deriving DecidableEq

/-- The text shown for a fault in a font. -/
def FontError.message : FontError → String
  | .unknownMagic => "unknown magic"
  | .malformed => "malformed font"
  | .faceIndex => "face index is out of bounds"
  | .noHead => "the head table is missing or malformed"
  | .noHhea => "the hhea table is missing or malformed"
  | .noMaxp => "the maxp table is missing or malformed"

/-- Why a file could not be read. -/
inductive FileError where
  | notFound
  | notADirectory
  | isADirectory
  | invalidUtf8
  deriving DecidableEq

/-- The text shown for a file that could not be read. -/
def FileError.message : FileError → String
  | .notFound => "No such file or directory (os error 2)"
  | .notADirectory => "Not a directory (os error 20)"
  | .isADirectory => "Is a directory (os error 21)"
  | .invalidUtf8 => "stream did not contain valid UTF-8"

/-- The families that stand for a style of type and not for one face. -/
inductive Generic where
  | sansSerif
  | serif
  | monospace
  | emoji
  | symbol
  deriving DecidableEq

/-- The name of a generic family. -/
def Generic.name : Generic → String
  | .sansSerif => "SansSerif"
  | .serif => "Serif"
  | .monospace => "Monospace"
  | .emoji => "Emoji"
  | .symbol => "Symbol"

/-- What a registry was asked for and does not have. -/
inductive LoadTarget where
  | family (name : String)
  | generic (kind : Generic)
  deriving DecidableEq

/-- Why something could not be set up or read. -/
inductive Error where
  /-- A registry has no such font; `remembered` when it had already been looked
  for in vain. -/
  | fontLoad (target : LoadTarget) (remembered : Bool)
  | fontParse (cause : FontError)
  | invalidFontData
  | sheet (cause : SheetError)
  | file (path : String) (cause : FileError)
  /-- A configuration or a sheet is not written as it has to be. -/
  | configParse
  /-- A configuration holds a number that cannot be written. -/
  | configSerialize
  deriving DecidableEq

/-- The text shown for a font that a registry does not have. -/
def LoadTarget.message : LoadTarget → String
  | .family name => "Font '" ++ name ++ "' not found"
  | .generic kind => "Generic font " ++ kind.name ++ " not found"

/-- The text shown for an error; the ones about the form of a configuration
have none. -/
def Error.message : Error → Option String
  | .fontLoad target remembered =>
      some ("Failed to load font: " ++ target.message
        ++ if remembered then " (cached)" else "")
  | .fontParse cause => some ("Failed to parse font: " ++ cause.message)
  | .invalidFontData => some "Invalid font data"
  | .sheet cause => some ("Invalid bitmap table: " ++ cause.message)
  | .file path cause =>
      some ("Failed to read " ++ path ++ ": " ++ cause.message)
  | .configParse => none
  | .configSerialize => none

end Inkwell
