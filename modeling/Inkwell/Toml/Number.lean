import Inkwell.Toml.Quoted
import Inkwell.Toml.Value

/-!
# TOML numbers and dates

Integers are decimal with an optional sign, or hexadecimal, octal or binary
without one, and have to fit a signed 64-bit word.  Underscores may stand
between digits.  Floats and dates are only checked for their form, except that
a float must not be too large and a date has to exist.
-/

namespace Inkwell.Toml

/-- The character is a decimal digit. -/
def isDecimal (c : Char) : Bool := '0' ≤ c && c ≤ '9'

/-- The character is a digit of the base. -/
def isDigitOf (base : Nat) (c : Char) : Bool :=
  match hexValue? c with
  | some digit => digit < base
  | none => false

/-- The digits that a text begins with, without the underscores between them;
an underscore has to be followed by a digit. -/
def digitRun? (base : Nat) : List Char → Option (List Char × List Char)
  | [] => some ([], [])
  | c :: rest =>
      if isDigitOf base c then
        (digitRun? base rest).map fun run => (c :: run.1, run.2)
      else if c = '_' then
        match rest with
        | [] => none
        | d :: rest =>
            if isDigitOf base d then
              (digitRun? base rest).map fun run => (d :: run.1, run.2)
            else none
      else some ([], c :: rest)

/-- A run of at least one digit. -/
def digits? (base : Nat) : List Char → Option (List Char × List Char)
  | [] => none
  | c :: rest =>
      if isDigitOf base c then
        (digitRun? base rest).map fun run => (c :: run.1, run.2)
      else none

/-- The number that digits of a base stand for. -/
def digitsValue (base : Nat) (ds : List Char) : Nat :=
  ds.foldl (fun n c => n * base + (hexValue? c).getD 0) 0

/-- Whether a text begins with a minus sign, and the text after its sign. -/
def sign : List Char → Bool × List Char
  | [] => (false, [])
  | c :: rest =>
      if c = '-' then (true, rest)
      else if c = '+' then (false, rest)
      else (false, c :: rest)

/-- The digits of a decimal integer, which do not begin with a zero unless it
is the only one. -/
def decimal? : List Char → Option (List Char × List Char)
  | [] => none
  | c :: rest =>
      if c = '0' then some (['0'], rest)
      else digits? 10 (c :: rest)

/-- A signed 64-bit integer. -/
def wordValue? (negative : Bool) (magnitude : Nat) : Option Value :=
  if negative then
    if magnitude ≤ 9223372036854775808 then some (.integer (-magnitude))
    else none
  else
    if magnitude < 9223372036854775808 then some (.integer magnitude)
    else none

/-- The base that a text begins with, and the text after it. -/
def base? : List Char → Option (Nat × List Char)
  | '0' :: 'x' :: rest => some (16, rest)
  | '0' :: 'o' :: rest => some (8, rest)
  | '0' :: 'b' :: rest => some (2, rest)
  | _ => none

/-- An integer. -/
def integer? (cs : List Char) : Option (Value × List Char) :=
  match base? cs with
  | some (base, rest) => do
      let run ← digits? base rest
      let value ← wordValue? false (digitsValue base run.1)
      pure (value, run.2)
  | none => do
      let signed := sign cs
      let run ← decimal? signed.2
      let value ← wordValue? signed.1 (digitsValue 10 run.1)
      pure (value, run.2)

/-- The exponent of a float. -/
def exponent? : List Char → Option (Int × List Char)
  | [] => none
  | c :: rest =>
      if c = 'e' ∨ c = 'E' then do
        let signed := sign rest
        let run ← digits? 10 signed.2
        let magnitude : Int := digitsValue 10 run.1
        pure (if signed.1 then -magnitude else magnitude, run.2)
      else none

/-- The digits after the point of a float. -/
def fraction? : List Char → Option (List Char × List Char)
  | [] => none
  | c :: rest => if c = '.' then digits? 10 rest else none

/-- The least number that is nearer to the power 2 ^ 1024 than to any float of
64 bits. -/
def floatLimit : Nat := Nat.pow 2 1024 - Nat.pow 2 970

/-- `mantissa · 10 ^ exponent` is too large for a float.  A number with more
than 310 digits before its point always is, and one with none never. -/
def overflowsFloat (mantissa : Nat) (exponent : Int) : Bool :=
  let size : Int := (Nat.toDigits 10 mantissa).length + exponent
  if mantissa = 0 ∨ size < 0 then false
  else if 310 < size then true
  else if 0 ≤ exponent then floatLimit ≤ mantissa * Nat.pow 10 exponent.toNat
  else floatLimit * Nat.pow 10 (-exponent).toNat ≤ mantissa

/-- A float with digits. -/
def digitFloat? (cs : List Char) : Option (Value × List Char) := do
  let signed := sign cs
  let whole ← decimal? signed.2
  let tail ←
    match exponent? whole.2 with
    | some (exponent, rest) => some (([] : List Char), exponent, rest)
    | none =>
        match fraction? whole.2 with
        | none => none
        | some (fraction, rest) =>
            match rest with
            | [] => some (fraction, 0, [])
            | c :: _ =>
                if c = 'e' ∨ c = 'E' then
                  (exponent? rest).map fun e => (fraction, e.1, e.2)
                else some (fraction, 0, rest)
  let digits := whole.1 ++ tail.1
  if !signed.1 && overflowsFloat (digitsValue 10 digits)
      (tail.2.1 - tail.1.length) then
    none
  else
    pure (.float, tail.2.2)

/-- Infinity or no number, with an optional sign. -/
def specialFloat? (cs : List Char) : Option (Value × List Char) :=
  match (sign cs).2 with
  | 'i' :: 'n' :: 'f' :: rest => some (.float, rest)
  | 'n' :: 'a' :: 'n' :: rest => some (.float, rest)
  | _ => none

/-- A float. -/
def float? (cs : List Char) : Option (Value × List Char) :=
  (digitFloat? cs).orElse fun _ => specialFloat? cs

/-- A number of exactly `count` decimal digits. -/
def fixedNumber? (count : Nat) (cs : List Char) : Option (Nat × List Char) :=
  if (cs.takeWhile isDecimal).length < count then none
  else some (digitsValue 10 (cs.take count), cs.drop count)

/-- A number of two digits within limits. -/
def twoDigits? (least greatest : Nat) (cs : List Char) :
    Option (Nat × List Char) :=
  match fixedNumber? 2 cs with
  | some (n, rest) => if least ≤ n ∧ n ≤ greatest then some (n, rest) else none
  | none => none

/-- The text after a character it has to begin with. -/
def expect? (c : Char) : List Char → Option (List Char)
  | [] => none
  | d :: rest => if d = c then some rest else none

/-- The number of days of a month. -/
def daysIn (year month : Nat) : Nat :=
  if month = 2 then
    if year % 4 = 0 ∧ (year % 100 ≠ 0 ∨ year % 400 = 0) then 29 else 28
  else if month = 4 ∨ month = 6 ∨ month = 9 ∨ month = 11 then 30
  else 31

/-- The text after a date. -/
def date? (cs : List Char) : Option (List Char) := do
  let (year, cs) ← fixedNumber? 4 cs
  let cs ← expect? '-' cs
  let (month, cs) ← twoDigits? 1 12 cs
  let cs ← expect? '-' cs
  let (_, cs) ← twoDigits? 1 (daysIn year month) cs
  pure cs

/-- The text after the fraction of a second, if there is one. -/
def skipFraction (cs : List Char) : List Char :=
  match cs with
  | '.' :: rest =>
      if (rest.takeWhile isDecimal).isEmpty then cs
      else rest.dropWhile isDecimal
  | _ => cs

/-- The text after a time of day. -/
def time? (cs : List Char) : Option (List Char) := do
  let (_, cs) ← twoDigits? 0 23 cs
  let cs ← expect? ':' cs
  let (_, cs) ← twoDigits? 0 59 cs
  let cs ← expect? ':' cs
  let (_, cs) ← twoDigits? 0 60 cs
  pure (skipFraction cs)

/-- The text after the offset of a time from the universal one; an offset has
to be complete. -/
def offset? : List Char → Option (List Char)
  | [] => some []
  | c :: rest =>
      if c = 'Z' ∨ c = 'z' then some rest
      else if c = '+' ∨ c = '-' then do
        let (_, cs) ← twoDigits? 0 23 rest
        let cs ← expect? ':' cs
        let (_, cs) ← twoDigits? 0 59 cs
        pure cs
      else some (c :: rest)

/-- The text after a time and its offset, if a date goes on with them. -/
def dateTail? : List Char → Option (List Char)
  | [] => some []
  | c :: rest =>
      if c = 'T' ∨ c = 't' ∨ c = ' ' then
        match time? rest with
        | some after => offset? after
        | none => some (c :: rest)
      else some (c :: rest)

/-- A date, a time or both. -/
def datetime? (cs : List Char) : Option (Value × List Char) :=
  match date? cs with
  | some rest => (dateTail? rest).map fun rest => (.datetime, rest)
  | none => (time? cs).map fun rest => (.datetime, rest)

/-- A number or a date. -/
def number? (cs : List Char) : Option (Value × List Char) :=
  (datetime? cs).orElse fun _ =>
    (float? cs).orElse fun _ => integer? cs

end Inkwell.Toml
