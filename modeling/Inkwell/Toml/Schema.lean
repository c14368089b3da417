import Inkwell.Toml.Value
import Inkwell.Word

/-!
# Reading records from values

A record is read from a table by the names of its fields; unknown keys are
ignored.  It may also be written as an array of its fields in order, of which
the last ones may be left out.  A date counts as a table without any known key.
-/

namespace Inkwell.Toml

/-- The fields of a record that a value gives.  `names` are all fields in
order. -/
def fields? (names : List String) : Value → Option Entries
  | .table _ entries => some entries
  | .array items => some (names.zip items)
  | .tables items =>
      some (names.zip (items.map fun entries => .table .header entries))
  | .datetime => some []
  | _ => none

/-- The elements of a list. -/
def elements? : Value → Option (List Value)
  | .array items => some items
  | .tables items => some (items.map fun entries => .table .header entries)
  | _ => none

/-- Read each element of a list. -/
def readAll {α : Type} (read : Value → Option α) :
    List Value → Option (List α)
  | [] => some []
  | value :: rest => do
      let first ← read value
      let others ← readAll read rest
      pure (first :: others)

/-- A list of values of one kind. -/
def list? {α : Type} (read : Value → Option α) (value : Value) :
    Option (List α) := do
  let items ← elements? value
  readAll read items

/-- A string. -/
def text? : Value → Option String
  | .string text => some text
  | _ => none

/-- True or false. -/
def bool? : Value → Option Bool
  | .boolean b => some b
  | _ => none

/-- An integer within limits. -/
def integerIn? (least greatest : Int) : Value → Option Int
  | .integer n => if least ≤ n ∧ n ≤ greatest then some n else none
  | _ => none

/-- A natural number below a limit. -/
def naturalBelow? (limit : Nat) : Value → Option Nat
  | .integer n => if 0 ≤ n ∧ n < limit then some n.toNat else none
  | _ => none

/-- An unsigned 8-bit number. -/
def uint8? (value : Value) : Option UInt8 :=
  (naturalBelow? 256 value).map UInt8.ofNat

/-- An unsigned 16-bit number. -/
def uint16? (value : Value) : Option UInt16 :=
  (naturalBelow? 65536 value).map UInt16.ofNat

/-- An unsigned 32-bit number. -/
def uint32? (value : Value) : Option UInt32 :=
  (naturalBelow? 4294967296 value).map UInt32.ofNat

/-- An unsigned 64-bit number. -/
def uint64? (value : Value) : Option UInt64 :=
  (naturalBelow? 18446744073709551616 value).map UInt64.ofNat

/-- A signed 16-bit number. -/
def int16? (value : Value) : Option Int16 :=
  (integerIn? (-32768) 32767 value).map Int16.ofInt

/-- A signed 32-bit number. -/
def int32? (value : Value) : Option Int32 :=
  (integerIn? (-2147483648) 2147483647 value).map Int32.ofInt

/-- A field that has to be there. -/
def required {α : Type} (entries : Entries) (name : String)
    (read : Value → Option α) : Option α := do
  let value ← entries.lookup name
  read value

/-- A field with a value to fall back on when it is not there. -/
def withDefault {α : Type} (entries : Entries) (name : String) (fallback : α)
    (read : Value → Option α) : Option α :=
  match entries.lookup name with
  | none => some fallback
  | some value => read value

end Inkwell.Toml
