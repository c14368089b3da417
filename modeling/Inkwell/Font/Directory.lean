import Inkwell.Error
import Inkwell.Font.Bytes
import Inkwell.Font.Search

/-!
# Table directories

A font is a directory of tables, each named by four letters.  A collection
holds several fonts, which may share tables.  A table that reaches past the end
of the bytes is missing.

A directory is meant to be in the order of its tags, each once.  Where it is
not, a tag leads to another table for each way of looking it up: `last?` goes
through the whole directory, `search?` and `bisect?` halve it.
-/

namespace Inkwell.Font

/-- What the first four bytes of a font tell. -/
inductive Magic where
  | single
  | collection
  deriving DecidableEq

/-- The kind of font that begins at a position. -/
def magic? (bytes : ByteArray) (pos : Nat) : Option Magic := do
  let word ← u32? bytes pos
  if word = 0x00010000 ∨ word = 0x74727565 ∨ word = 0x4F54544F then
    pure .single
  else if word = 0x74746366 then pure .collection
  else none

/-- A table of a directory. -/
structure TableRecord where
  tag : String
  start : Nat
  length : Nat

/-- The bytes of a font file and the tables of one of its faces. -/
structure Directory where
  bytes : ByteArray
  records : Array TableRecord

/-- The record of a table at a position. -/
def record? (bytes : ByteArray) (pos : Nat) : Option TableRecord := do
  let tag ← tag? bytes pos
  let start ← u32? bytes (pos + 8)
  let length ← u32? bytes (pos + 12)
  pure ⟨tag, start, length⟩

namespace Directory

/-- The directory that begins at a position, after its magic number. -/
def readAt (bytes : ByteArray) (pos : Nat) : Except FontError Directory :=
  match u16? bytes pos with
  | none => .error .malformed
  | some count =>
      match after? bytes (pos + 8) count 16,
          items? (record? bytes) (pos + 8) 16 count with
      | some _, some records => .ok ⟨bytes, records.toArray⟩
      | _, _ => .error .malformed

/-- The place of a face in a collection.  It has to be after the list of the
places. -/
def faceOffset (bytes : ByteArray) (index : Nat) : Except FontError Nat :=
  match (u32? bytes 8).bind fun count =>
      (after? bytes 12 count 4).map fun stop => (count, stop) with
  | none => .error .malformed
  | some (count, stop) =>
      if count ≤ index then .error .faceIndex
      else
        match u32? bytes (12 + 4 * index) with
        | none => .error .malformed
        | some offset =>
            if offset < stop ∨ bytes.size < offset then .error .malformed
            else .ok offset

/-- The directory of a face. -/
def read (bytes : ByteArray) (index : Nat) : Except FontError Directory :=
  match magic? bytes 0 with
  | none => .error .unknownMagic
  | some .single =>
      if index = 0 then readAt bytes 4 else .error .faceIndex
  | some .collection => do
      let offset ← faceOffset bytes index
      match magic? bytes offset with
      | some .single => readAt bytes (offset + 4)
      | _ => .error .unknownMagic

/-- The bytes of a record's table. -/
def bytesOf? (d : Directory) (record : TableRecord) : Option ByteArray :=
  slice? d.bytes record.start record.length

/-- The order of a record relative to a tag. -/
def order (d : Directory) (tag : String) (index : Nat) : Option Ordering :=
  d.records[index]?.map fun record => compare record.tag tag

/-- The bytes of the last table with a tag. -/
def last? (d : Directory) (tag : String) : Option ByteArray :=
  (d.records.toList.reverse.find? (·.tag == tag)).bind d.bytesOf?

/-- The record of the last table with a tag in an ordered directory. -/
def search? (d : Directory) (tag : String) : Option TableRecord :=
  (Font.search? (d.order tag) d.records.size).bind (d.records[·]?)

/-- The record of some table with a tag in an ordered directory. -/
def bisect? (d : Directory) (tag : String) : Option TableRecord :=
  (Font.bisect? (d.order tag) 0 d.records.size).bind (d.records[·]?)

/-- The bytes of the table with a tag in an ordered directory. -/
def table? (d : Directory) (tag : String) : Option ByteArray :=
  (d.search? tag).bind d.bytesOf?

end Directory

/-- A font begins at a position. -/
def beginsAt (bytes : ByteArray) (pos : Nat) : Bool :=
  magic? bytes pos == some .single

/-- Where the face with an index begins; its tables need not be readable. -/
def facePlace? (bytes : ByteArray) (index : Nat) : Option Nat := do
  match ← magic? bytes 0 with
  | .single => if index = 0 then pure 0 else none
  | .collection =>
      let count ← u32? bytes 8
      let start ← u32? bytes (12 + 4 * index)
      if index < count ∧ beginsAt bytes start then pure start else none

/-- The number of faces that the bytes of a font may hold. -/
def faceCount (bytes : ByteArray) : Nat :=
  match magic? bytes 0 with
  | some .collection => (u32? bytes 8).getD 1
  | _ => 1

end Inkwell.Font
