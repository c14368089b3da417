import Inkwell.Toml.Document
import Inkwell.Toml.Number

/-!
# Reading TOML

A text is read line by line into statements, from which the document is built.
Values may be nested to a fixed depth, and a dotted key has a greatest number
of parts.  Reading is bounded by the length of the text.
-/

namespace Inkwell.Toml

/-- The greatest depth of values inside values, and the greatest number of
parts of a dotted key. -/
def maxDepth : Nat := 79

/-- The character may stand in a key without quotes. -/
def isBare (c : Char) : Bool :=
  isDecimal c || ('a' ≤ c && c ≤ 'z') || ('A' ≤ c && c ≤ 'Z') || c == '-'
    || c == '_'

/-- One part of a key. -/
def simpleKey? (cs : List Char) : Option (String × List Char) :=
  match lineString? cs with
  | some (text, rest) => some (String.ofList text, rest)
  | none =>
      let bare := cs.takeWhile isBare
      if bare.isEmpty then none
      else some (String.ofList bare, cs.dropWhile isBare)

/-- A key of at most `parts` parts, and the text after it and the blanks that
follow it. -/
def key? : (parts : Nat) → List Char → Option (List String × List Char)
  | 0, _ => none
  | parts + 1, cs => do
      let (part, rest) ← simpleKey? (skipBlanks cs)
      match skipBlanks rest with
      | '.' :: rest => do
          let (others, rest) ← key? parts rest
          pure (part :: others, rest)
      | rest => pure ([part], rest)

/-- The text after a comment: where its line ends. -/
def skipComment (cs : List Char) : List Char := cs.dropWhile isPlain

/-- The text without the blanks, line breaks and comments it begins with, read
in at most `fuel` steps. -/
def skipTrivia : (fuel : Nat) → List Char → List Char
  | 0, cs => cs
  | fuel + 1, cs =>
      match skipSpace cs with
      | '#' :: rest => skipTrivia fuel (skipComment rest)
      | rest => rest

/-- True or false. -/
def boolean? : List Char → Option (Value × List Char)
  | 't' :: 'r' :: 'u' :: 'e' :: rest => some (.boolean true, rest)
  | 'f' :: 'a' :: 'l' :: 's' :: 'e' :: rest => some (.boolean false, rest)
  | _ => none

/-- A value that holds no others. -/
def plainValue? (cs : List Char) : Option (Value × List Char) :=
  match cs with
  | [] => none
  | c :: _ =>
      if c = '"' ∨ c = '\'' then
        (string? cs).map fun s => (.string (String.ofList s.1), s.2)
      else if c = 't' ∨ c = 'f' then boolean? cs
      else if c = 'i' ∨ c = 'n' then specialFloat? cs
      else number? cs

mutual

/-- A value that may hold others to the given depth. -/
def value? : (fuel depth : Nat) → List Char → Option (Value × List Char)
  | 0, _, _ => none
  | fuel + 1, depth, cs =>
      match cs with
      | '[' :: rest =>
          match depth with
          | 0 => none
          | depth + 1 =>
              (items? fuel depth rest).map fun r => (.array r.1, r.2)
      | '\x7b' :: rest =>
          match depth with
          | 0 => none
          | depth + 1 =>
              match skipBlanks rest with
              | '\x7d' :: rest => some (.table .braces [], rest)
              | rest => do
                  let (pairs, rest) ← pairs? fuel depth rest
                  let entries ← assignAll pairs []
                  pure (.table .braces entries, rest)
      | cs => plainValue? cs

/-- The items of an array up to its closing bracket. -/
def items? : (fuel depth : Nat) → List Char → Option (List Value × List Char)
  | 0, _, _ => none
  | fuel + 1, depth, cs =>
      match skipTrivia fuel cs with
      | ']' :: rest => some ([], rest)
      | cs => do
          let (item, rest) ← value? fuel depth cs
          match skipTrivia fuel rest with
          | ',' :: rest => do
              let (others, rest) ← items? fuel depth rest
              pure (item :: others, rest)
          | ']' :: rest => pure ([item], rest)
          | _ => none

/-- The assignments of a table up to its closing brace. -/
def pairs? : (fuel depth : Nat) → List Char →
    Option (List (List String × Value) × List Char)
  | 0, _, _ => none
  | fuel + 1, depth, cs => do
      let (path, rest) ← key? maxDepth cs
      let rest ← expect? '=' rest
      let (value, rest) ← value? fuel depth (skipBlanks rest)
      match skipBlanks rest with
      | ',' :: rest => do
          let (others, rest) ← pairs? fuel depth rest
          pure ((path, value) :: others, rest)
      | '\x7d' :: rest => pure ([(path, value)], rest)
      | _ => none

end

/-- The text after the end of a line, which may hold blanks and a comment. -/
def lineEnd? (cs : List Char) : Option (List Char) :=
  let rest :=
    match skipBlanks cs with
    | '#' :: rest => skipComment rest
    | rest => rest
  match rest with
  | [] => some []
  | rest => newline? rest

/-- A line that opens a table or assigns a value, and the text after it. -/
def statement? (fuel : Nat) (cs : List Char) :
    Option (Statement × List Char) :=
  match cs with
  | '[' :: '[' :: rest => do
      let (path, rest) ← key? maxDepth rest
      let rest ← expect? ']' rest
      let rest ← expect? ']' rest
      let rest ← lineEnd? rest
      pure (.tables path, rest)
  | '[' :: rest => do
      let (path, rest) ← key? maxDepth rest
      let rest ← expect? ']' rest
      let rest ← lineEnd? rest
      pure (.table path, rest)
  | cs => do
      let (path, rest) ← key? maxDepth cs
      let rest ← expect? '=' rest
      let (value, rest) ← value? fuel maxDepth (skipBlanks rest)
      let rest ← lineEnd? rest
      pure (.assign path value, rest)

/-- The lines of a text, at most `fuel` of them. -/
def statements? : (fuel : Nat) → List Char → Option (List Statement)
  | 0, _ => none
  | fuel + 1, cs =>
      match skipBlanks cs with
      | [] => some []
      | '#' :: rest => do
          let rest ← lineEnd? ('#' :: rest)
          statements? fuel rest
      | '\n' :: rest => statements? fuel rest
      | '\r' :: rest => do
          let rest ← newline? ('\r' :: rest)
          statements? fuel rest
      | rest => do
          let (line, rest) ← statement? fuel rest
          let others ← statements? fuel rest
          pure (line :: others)

/-- The text without the byte order mark it may begin with. -/
def skipMark : List Char → List Char
  | '\uFEFF' :: rest => rest
  | cs => cs

/-- Read a document. -/
def read? (text : String) : Option Entries := do
  let cs := skipMark text.toList
  let lines ← statements? (2 * (cs.length + 1)) cs
  build? lines

end Inkwell.Toml
