import Inkwell.Font.Bytes
import Inkwell.Text.Utf16

/-!
# Names of a font

The name table lists names in several languages and encodings.  Names are read
from UTF-16 records and, where nothing better is there, from one-byte records
of the Macintosh Roman encoding.
-/

namespace Inkwell.Font

/-- A name as it is stored. -/
structure NameRecord where
  platform : Nat
  encoding : Nat
  language : Nat
  id : Nat
  bytes : ByteArray

namespace NameRecord

/-- The id of the family of a face. -/
def familyId : Nat := 1

/-- The id of the name used in print jobs. -/
def postScriptId : Nat := 6

/-- The id of the family that a face belongs to with all its styles. -/
def typographicFamilyId : Nat := 16

/-- The record is in UTF-16. -/
def isUnicode (r : NameRecord) : Bool :=
  r.platform == 0 || (r.platform == 3 && (r.encoding == 0 || r.encoding == 1))

/-- The record is in the Macintosh Roman encoding. -/
def isRoman (r : NameRecord) : Bool := r.platform == 1 && r.encoding == 0

/-- The record is in English as spoken in the United States. -/
def isEnglish (r : NameRecord) : Bool :=
  (r.platform == 3 && r.language == 0x409) || (r.isRoman && r.language == 0)

end NameRecord

/-- The characters of the upper half of the Macintosh Roman encoding. -/
def romanUpper : String :=
  "ÄÅÇÉÑÖÜáàâäãåçéèêëíìîïñóòôöõúùûü†°¢£§•¶ß®©™´¨≠ÆØ∞±≤≥¥µ∂∑∏π∫ªºΩæø"
    ++ "¿¡¬√ƒ≈∆«»…\u00a0ÀÃÕŒœ–—“”‘’÷◊ÿŸ⁄€‹›ﬁﬂ‡·‚„‰ÂÊÁËÈÍÎÏÌÓÔ\uf8ffÒÚÛÙıˆ˜¯˘˙˚¸˝˛ˇ"

/-- The characters of the bytes from `0x11` on that stand for keys. -/
def romanKeys : List Nat := [0x2318, 0x21E7, 0x2325, 0x2303]

/-- The character of a byte in the Macintosh Roman encoding. -/
def romanChar (byte : Nat) : Char :=
  if 0x11 ≤ byte ∧ byte ≤ 0x14 then
    Char.ofNat (romanKeys.getD (byte - 0x11) 0xFFFD)
  else if byte < 128 then Char.ofNat byte
  else romanUpper.toList.getD (byte - 128) (Char.ofNat 0xFFFD)

/-- The byte of a character of the upper half of the Macintosh Roman encoding;
other characters have none, and zero stands for them. -/
def romanByte (code : Nat) : Nat :=
  match romanUpper.toList.findIdx? (·.toNat == code) with
  | some index => 128 + index
  | none => 0

/-- Big-endian units. -/
def units : List UInt8 → List UInt16
  | high :: low :: rest =>
      UInt16.ofNat (high.toNat * 256 + low.toNat) :: units rest
  | _ => []

/-- The text of units, none if a surrogate stands alone. -/
def unitsText? (us : List UInt16) : Option String :=
  let text := Utf16.decode us
  if Utf16.encode text = us then some (String.ofList text) else none

/-- The text of a record in UTF-16. -/
def NameRecord.unicodeText? (r : NameRecord) : Option String :=
  if r.isUnicode then unitsText? (units r.bytes.toList) else none

/-- The text of a record in an encoding that is known. -/
def NameRecord.text? (r : NameRecord) : Option String :=
  if r.isUnicode then r.unicodeText?
  else if r.isRoman then
    some (String.ofList (r.bytes.toList.map fun b => romanChar b.toNat))
  else none

/-- The record at a position, whose text is kept from `storage` on.  Platforms
are numbered up to 4. -/
def nameRecord? (table : ByteArray) (storage pos : Nat) :
    Option NameRecord := do
  let platform ← u16? table pos
  if 4 < platform then none
  let encoding ← u16? table (pos + 2)
  let language ← u16? table (pos + 4)
  let id ← u16? table (pos + 6)
  let length ← u16? table (pos + 8)
  let offset ← u16? table (pos + 10)
  let bytes ← slice? table (storage + offset) length
  pure ⟨platform, encoding, language, id, bytes⟩

/-- The records from a position on, up to the first that is malformed. -/
def recordsFrom (table : ByteArray) (storage : Nat) :
    (pos count : Nat) → List NameRecord
  | _, 0 => []
  | pos, count + 1 =>
      match nameRecord? table storage pos with
      | none => []
      | some record => record :: recordsFrom table storage (pos + 12) count

/-- The records of a name table. -/
def nameRecords? (table : ByteArray) : Option (List NameRecord) := do
  let version ← u16? table 0
  let count ← u16? table 2
  let storage ← u16? table 4
  let start ←
    if version = 0 then some 6
    else if version = 1 then (u16? table 6).map fun tags => 8 + 4 * tags
    else none
  let stop ← after? table start count 12
  pure (recordsFrom table (max stop storage) start count)

/-- The family of a face by its records. -/
def familyOf (records : List NameRecord) : Option String :=
  (records.filter (·.id == NameRecord.familyId)).findSome?
    NameRecord.unicodeText?

/-- All names with an id: those in UTF-16, and one in the Macintosh Roman
encoding if none of them is in English.  Each comes with whether it is in
English. -/
def namesWith (id : Nat) (records : List NameRecord) :
    List (String × Bool) :=
  let mine := records.filter (·.id == id)
  let unicode := mine.filterMap fun r =>
    r.unicodeText?.map fun text => (text, r.isEnglish)
  if unicode.any (·.2) then
    unicode
  else
    let roman := (mine.filter (·.isRoman)).findSome? fun r =>
      r.text?.map fun text => (text, r.isEnglish)
    unicode ++ roman.toList

/-- The names with an English one in front. -/
def englishFirst (names : List (String × Bool)) : List String :=
  match names.find? (·.2) with
  | none => names.map (·.1)
  | some english =>
      english.1 :: (names.eraseP (·.2)).map (·.1)

/-- The families under which a face is known, the one to list in front. -/
def familiesOf (records : List NameRecord) : List String :=
  let typographic := namesWith NameRecord.typographicFamilyId records
  if typographic.isEmpty then
    englishFirst (namesWith NameRecord.familyId records)
  else
    englishFirst typographic

/-- The face has a name for print jobs. -/
def hasPostScriptName (records : List NameRecord) : Bool :=
  match records.find? fun r =>
      r.id == NameRecord.postScriptId && (r.isUnicode || r.isRoman) with
  | some record => record.text?.isSome
  | none => false

end Inkwell.Font
