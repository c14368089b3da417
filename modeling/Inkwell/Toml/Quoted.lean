import Inkwell.Word

/-!
# TOML strings

A string can be written in four forms: basic and literal, each on one line or
on several.  Basic forms have escapes; literal forms are taken as they are.

Reading walks a body piece by piece until its closing quotes.  Writing takes
the plainest form that can hold the text.
-/

namespace Inkwell.Toml

/-- The character may stand in a comment or a string: tab and everything but
the controls. -/
def isPlain (c : Char) : Bool :=
  c == '\t' || (0x20 ≤ c.toNat && c.toNat != 0x7F)

/-- The value of a hexadecimal digit. -/
def hexValue? (c : Char) : Option Nat :=
  if '0' ≤ c ∧ c ≤ '9' then some (c.toNat - '0'.toNat)
  else if 'a' ≤ c ∧ c ≤ 'f' then some (c.toNat - 'a'.toNat + 10)
  else if 'A' ≤ c ∧ c ≤ 'F' then some (c.toNat - 'A'.toNat + 10)
  else none

/-- The number that hexadecimal digits stand for, continuing `n`. -/
def hexNumber? (n : Nat) : List Char → Option Nat
  | [] => some n
  | c :: cs => do
      let digit ← hexValue? c
      hexNumber? (n * 16 + digit) cs

/-- The character with a code. -/
def scalar? (code : Nat) : Option Char :=
  if code.isValidChar then some (Char.ofNat code) else none

/-- The character written as `count` hexadecimal digits. -/
def codeEscape? (count : Nat) (cs : List Char) : Option (Char × List Char) :=
  if cs.length < count then
    none
  else do
    let code ← hexNumber? 0 (cs.take count)
    let c ← scalar? code
    pure (c, cs.drop count)

/-- The character that an escape stands for, read after its backslash. -/
def escape? : List Char → Option (Char × List Char)
  | [] => none
  | c :: rest =>
      if c = 'b' then some ('\x08', rest)
      else if c = 't' then some ('\t', rest)
      else if c = 'n' then some ('\n', rest)
      else if c = 'f' then some ('\x0c', rest)
      else if c = 'r' then some ('\r', rest)
      else if c = '"' then some ('"', rest)
      else if c = '\\' then some ('\\', rest)
      else if c = 'u' then codeEscape? 4 rest
      else if c = 'U' then codeEscape? 8 rest
      else none

/-- The text after a line break: a newline, possibly after a return. -/
def newline? : List Char → Option (List Char)
  | '\n' :: rest => some rest
  | '\r' :: '\n' :: rest => some rest
  | _ => none

/-- The text without the spaces and tabs it begins with. -/
def skipBlanks (cs : List Char) : List Char :=
  cs.dropWhile fun c => c == ' ' || c == '\t'

/-- The text without the blanks and line breaks it begins with. -/
def skipSpace : List Char → List Char
  | [] => []
  | c :: rest =>
      if c = ' ' ∨ c = '\t' ∨ c = '\n' then skipSpace rest
      else if c = '\r' then
        match rest with
        | '\n' :: rest => skipSpace rest
        | _ => c :: rest
      else c :: rest

/-- What the body of a string goes on with. -/
inductive Piece where
  /-- A character of the text. -/
  | char (c : Char) (rest : List Char)
  /-- Nothing that counts. -/
  | skip (rest : List Char)
  /-- The closing quotes. -/
  | close (rest : List Char)

/-- Read pieces up to the closing quotes, at most `fuel` of them. -/
def collect (step : List Char → Option Piece) :
    (fuel : Nat) → List Char → Option (List Char × List Char)
  | 0, _ => none
  | fuel + 1, cs =>
      match step cs with
      | none => none
      | some (.close rest) => some ([], rest)
      | some (.skip rest) => collect step fuel rest
      | some (.char c rest) =>
          match collect step fuel rest with
          | none => none
          | some (text, rest) => some (c :: text, rest)

/-- A piece of a basic string on one line. -/
def basicPiece? : List Char → Option Piece
  | [] => none
  | c :: rest =>
      if c = '"' then some (.close rest)
      else if c = '\\' then (escape? rest).map fun e => .char e.1 e.2
      else if isPlain c then some (.char c rest)
      else none

/-- A piece of a literal string on one line. -/
def literalPiece? : List Char → Option Piece
  | [] => none
  | c :: rest =>
      if c = '\'' then some (.close rest)
      else if isPlain c then some (.char c rest)
      else none

/-- The number of quotes that a text begins with. -/
def leading (quote : Char) : List Char → Nat
  | [] => 0
  | c :: rest => if c = quote then leading quote rest + 1 else 0

/-- A piece at quotes inside a string on several lines: three of them close it,
of which up to two more may belong to the text. -/
def quotePiece? (quote : Char) (cs : List Char) : Option Piece :=
  let count := leading quote cs
  if count = 3 then some (.close (cs.drop 3))
  else if count ≤ 5 then some (.char quote (cs.drop 1))
  else none

/-- A piece after a backslash in a basic string on several lines: blanks and
line breaks after the backslash do not count if there is a break on its
line. -/
def foldPiece? (rest : List Char) : Option Piece :=
  match newline? (skipBlanks rest) with
  | some after => some (.skip (skipSpace after))
  | none => (escape? rest).map fun e => .char e.1 e.2

/-- A piece of a basic string on several lines. -/
def basicBlockPiece? : List Char → Option Piece
  | [] => none
  | c :: rest =>
      if c = '"' then quotePiece? '"' (c :: rest)
      else if c = '\\' then foldPiece? rest
      else if isPlain c then some (.char c rest)
      else (newline? (c :: rest)).map (.char '\n')

/-- A piece of a literal string on several lines. -/
def literalBlockPiece? : List Char → Option Piece
  | [] => none
  | c :: rest =>
      if c = '\'' then quotePiece? '\'' (c :: rest)
      else if isPlain c then some (.char c rest)
      else (newline? (c :: rest)).map (.char '\n')

/-- The text without the line break it may begin with. -/
def skipNewline (cs : List Char) : List Char := (newline? cs).getD cs

/-- Read pieces of a string up to its closing quotes. -/
def body? (step : List Char → Option Piece) (cs : List Char) :
    Option (List Char × List Char) :=
  collect step (cs.length + 1) cs

/-- A string of one line, as a key or a value. -/
def lineString? : List Char → Option (List Char × List Char)
  | [] => none
  | c :: rest =>
      if c = '"' then body? basicPiece? rest
      else if c = '\'' then body? literalPiece? rest
      else none

/-- A string in any form. -/
def string? (cs : List Char) : Option (List Char × List Char) :=
  if ['"', '"', '"'].isPrefixOf cs then
    body? basicBlockPiece? (skipNewline (cs.drop 3))
  else if ['\'', '\'', '\''].isPrefixOf cs then
    body? literalBlockPiece? (skipNewline (cs.drop 3))
  else
    lineString? cs

/-! ## Writing -/

/-- The character can only be written as an escape. -/
def needsEscape (c : Char) : Bool :=
  c != '\t' && c != '\n' && (c.toNat < 0x20 || c.toNat == 0x7F)

/-- The length of the longest run of quotes, counted in a byte, in a text that
follows `run` quotes and before which the longest run was `longest`. -/
def longestRun (quote : Char) (run longest : UInt8) : List Char → Checked UInt8
  | [] => pure longest
  | c :: rest =>
      if c = quote then do
        let run ← Word.exactUInt8 .add (run.toNat + 1)
        longestRun quote run (max longest run) rest
      else
        longestRun quote 0 longest rest

/-- The forms in which a string can be written. -/
inductive Form where
  | basic
  | literal
  | basicBlock
  | literalBlock
  deriving DecidableEq

/-- The plainest form that can hold a text in which the longest runs of single
and of double quotes have these lengths. -/
def plainestForm (singles doubles : UInt8) (text : List Char) : Form :=
  let control := text.any needsEscape
  let backslash := text.contains '\\'
  let break_ := text.contains '\n'
  if !control && !backslash && doubles = 0 && !break_ then .basic
  else if !control && singles = 0 && !break_ then .literal
  else if !control && !backslash && doubles ≤ 2 then .basicBlock
  else if !control && singles ≤ 2 then .literalBlock
  else if break_ then .basicBlock
  else .basic

/-- The plainest form that can hold the text. -/
def formOf (text : List Char) : Checked Form := do
  let singles ← longestRun '\'' 0 0 text
  let doubles ← longestRun '"' 0 0 text
  pure (plainestForm singles doubles text)

/-- An upper-case hexadecimal digit. -/
def hexDigit (n : Nat) : Char :=
  if n < 10 then Char.ofNat ('0'.toNat + n) else Char.ofNat ('A'.toNat + n - 10)

/-- The escape for a control without a short one. -/
def controlEscape (c : Char) : List Char :=
  ['\\', 'u', '0', '0', hexDigit (c.toNat / 16), hexDigit (c.toNat % 16)]

/-- A character in a basic form; quotes and line breaks are left to the form. -/
def basicChar (c : Char) : List Char :=
  if c = '\x08' then ['\\', 'b']
  else if c = '\t' then ['\\', 't']
  else if c = '\x0c' then ['\\', 'f']
  else if c = '\r' then ['\\', 'r']
  else if c = '\\' then ['\\', '\\']
  else if needsEscape c then controlEscape c
  else [c]

/-- The body of a basic string on one line. -/
def basicBody (text : List Char) : List Char :=
  text.flatMap fun c =>
    if c = '"' then ['\\', '"']
    else if c = '\n' then ['\\', 'n']
    else basicChar c

/-- The body of a basic string on several lines, after `quotes` quotes that
were written as they are: the third in a row is escaped. -/
def basicBlockBody (quotes : Nat) : List Char → List Char
  | [] => []
  | c :: rest =>
      if c = '"' then
        if 2 ≤ quotes then '\\' :: '"' :: basicBlockBody 0 rest
        else '"' :: basicBlockBody (quotes + 1) rest
      else basicChar c ++ basicBlockBody 0 rest

/-- What stands between the opening quotes of a block and its text: a line
break, if the text has one. -/
def blockStart (text : List Char) : List Char :=
  if text.contains '\n' then ['\n'] else []

/-- A string in a form. -/
def writeForm (form : Form) (text : List Char) : List Char :=
  match form with
  | .basic => ['"'] ++ basicBody text ++ ['"']
  | .literal => ['\''] ++ text ++ ['\'']
  | .basicBlock =>
      ['"', '"', '"'] ++ blockStart text ++ basicBlockBody 0 text
        ++ ['"', '"', '"']
  | .literalBlock =>
      ['\'', '\'', '\''] ++ blockStart text ++ text ++ ['\'', '\'', '\'']

/-- A string in the plainest form that can hold it. -/
def writeString (text : String) : Checked (List Char) := do
  let form ← formOf text.toList
  pure (writeForm form text.toList)

end Inkwell.Toml
