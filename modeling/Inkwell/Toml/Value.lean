/-!
# TOML values

The values of a TOML document.  Tables remember how they came about, because
that decides whether a later line may still add to them.  Floats and dates
carry no content: nothing this library reads is stored as one, so it only
matters that they are well formed.
-/

namespace Inkwell.Toml

/-- How a table came about. -/
inductive Origin where
  /-- Written out between braces; it is closed. -/
  | braces
  /-- Opened by a header of its own. -/
  | header
  /-- Implied by the header of a table inside it. -/
  | implied
  /-- Implied by a dotted key. -/
  | dotted
  deriving DecidableEq

/-- A TOML value. -/
inductive Value where
  | string (text : String)
  | integer (n : Int)
  | float
  | boolean (b : Bool)
  | datetime
  | array (items : List Value)
  | table (origin : Origin) (entries : List (String × Value))
  /-- Tables opened one after the other by headers in double brackets. -/
  | tables (items : List (List (String × Value)))

/-- The entries of a table, in the order in which they were written. -/
abbrev Entries := List (String × Value)

/-- Put a value in the place of the one that a key has, or after all others. -/
def Entries.put (entries : Entries) (key : String) (value : Value) : Entries :=
  match entries with
  | [] => [(key, value)]
  | (k, v) :: rest =>
      if k = key then (key, value) :: rest
      else (k, v) :: Entries.put rest key value

/-- One line of a document. -/
inductive Statement where
  /-- A header in single brackets. -/
  | table (path : List String)
  /-- A header in double brackets. -/
  | tables (path : List String)
  /-- A key, possibly dotted, and its value. -/
  | assign (path : List String) (value : Value)

end Inkwell.Toml
