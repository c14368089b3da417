import Inkwell.Toml.Value

/-!
# TOML documents

A document is built by its lines in order.  A header opens a table, and the
assignments after it go there.  What a line may still add to depends on how the
tables on its way came about: a table between braces is closed, a header opens
each table once, and dotted keys only add to tables that dotted keys made.
-/

namespace Inkwell.Toml

/-- Add a value under a dotted key.  `here` tells how the table came about that
the rest of the key starts from: the last part has to go into a table made by
dotted keys, unless it is the whole key. -/
def assignFrom (here : Origin) :
    List String → Value → Entries → Option Entries
  | [], _, _ => none
  | [key], value, entries =>
      if here = .dotted ∨ here = .header then
        match entries.lookup key with
        | none => some (entries.put key value)
        | some _ => none
      else none
  | key :: path, value, entries =>
      match entries.lookup key with
      | none => do
          let inner ← assignFrom .dotted path value []
          pure (entries.put key (.table .dotted inner))
      | some (.table .dotted inner) => do
          let inner ← assignFrom .dotted path value inner
          pure (entries.put key (.table .dotted inner))
      | some (.table .implied inner) => do
          let inner ← assignFrom .implied path value inner
          pure (entries.put key (.table .implied inner))
      | some (.tables items) => do
          let last ← items.getLast?
          let last ← assignFrom .implied path value last
          pure (entries.put key (.tables (items.dropLast ++ [last])))
      | some _ => none

/-- Add a value under a dotted key to a table opened by a header. -/
def assign (path : List String) (value : Value) (entries : Entries) :
    Option Entries :=
  assignFrom .header path value entries

/-- Change the table at a path.  Tables on the way that are not there are
implied; of tables opened one after the other, the last is meant. -/
def modifyAt (change : Entries → Option Entries) :
    List String → Entries → Option Entries
  | [], entries => change entries
  | key :: path, entries =>
      match entries.lookup key with
      | none => do
          let inner ← modifyAt change path []
          pure (entries.put key (.table .implied inner))
      | some (.table .braces _) => none
      | some (.table origin inner) => do
          let inner ← modifyAt change path inner
          pure (entries.put key (.table origin inner))
      | some (.tables items) => do
          let last ← items.getLast?
          let last ← modifyAt change path last
          pure (entries.put key (.tables (items.dropLast ++ [last])))
      | some _ => none

/-- Add assignments to a table in order. -/
def assignAll : List (List String × Value) → Entries → Option Entries
  | [], entries => some entries
  | (path, value) :: rest, entries => do
      let entries ← assign path value entries
      assignAll rest entries

/-- Open a table under a key and add assignments to it.  A table that is there
already may only have been implied by other headers. -/
def openTable (key : String) (lines : List (List String × Value))
    (parent : Entries) : Option Entries :=
  match parent.lookup key with
  | none => do
      let inner ← assignAll lines []
      pure (parent.put key (.table .header inner))
  | some (.table .implied inner) => do
      let inner ← assignAll lines inner
      pure (parent.put key (.table .header inner))
  | some _ => none

/-- Open one more of the tables under a key and add assignments to it. -/
def openNext (key : String) (lines : List (List String × Value))
    (parent : Entries) : Option Entries := do
  let inner ← assignAll lines []
  match parent.lookup key with
  | none => pure (parent.put key (.tables [inner]))
  | some (.tables items) => pure (parent.put key (.tables (items ++ [inner])))
  | some _ => none

/-- A header with the assignments after it. -/
structure Section where
  /-- The header is in double brackets. -/
  repeated : Bool
  path : List String
  lines : List (List String × Value)

/-- The assignments before the first header, and the sections. -/
def split : List Statement → List (List String × Value) × List Section
  | [] => ([], [])
  | .assign path value :: rest =>
      let others := split rest
      ((path, value) :: others.1, others.2)
  | .table path :: rest =>
      let others := split rest
      ([], ⟨false, path, others.1⟩ :: others.2)
  | .tables path :: rest =>
      let others := split rest
      ([], ⟨true, path, others.1⟩ :: others.2)

/-- Add a section to a document. -/
def addSection (part : Section) (root : Entries) : Option Entries := do
  let key ← part.path.getLast?
  modifyAt
    (if part.repeated then openNext key part.lines
      else openTable key part.lines)
    part.path.dropLast root

/-- Add sections to a document in order. -/
def addSections : List Section → Entries → Option Entries
  | [], root => some root
  | part :: rest, root => do
      let root ← addSection part root
      addSections rest root

/-- The document that statements make up. -/
def build? (statements : List Statement) : Option Entries := do
  let parts := split statements
  let root ← assignAll parts.1 []
  addSections parts.2 root

end Inkwell.Toml
