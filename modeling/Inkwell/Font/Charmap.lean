import Inkwell.Font.Bytes
import Inkwell.Font.Names
import Inkwell.Font.Search

/-!
# Character maps

A font maps characters to glyph ids by subtables in several formats: bytes,
words by their high byte, segments of the basic plane, trimmed lists and groups
of the whole code space.  A subtable is made for a platform and an encoding.
Single characters are looked up in all subtables for Unicode, text that is
shaped in the one that suits it best.
-/

namespace Inkwell.Font

/-- How a subtable maps codes; the bytes are those from the subtable on. -/
inductive CodeMap where
  /-- A glyph for each byte. -/
  | bytes (data : ByteArray)
  /-- Words in `headers` blocks, chosen by the high byte. -/
  | highBytes (data : ByteArray) (headers : Nat)
  /-- Segments of the basic plane. -/
  | segments (data : ByteArray) (count : Nat)
  /-- A list of glyphs for the codes from `first` on. -/
  | trimmed (first : Nat) (glyphs : Array Nat)
  /-- Groups of codes with glyphs in sequence. -/
  | groups (data : ByteArray) (count : Nat)
  /-- Groups of codes with one glyph each. -/
  | constants (data : ByteArray) (count : Nat)
  /-- A map that no single code is looked up in. -/
  | other

namespace CodeMap

/-- The number of blocks of a map by high bytes: one more than the greatest
key, an eighth of what is stored. -/
def headerCount? (data : ByteArray) : Option Nat := do
  let keys ← items? (u16? data) 6 2 256
  pure ((keys.foldl (fun most key => max most (key / 8)) 0) + 1)

/-- The map whose bytes are given. -/
def read? (data : ByteArray) : Option CodeMap := do
  match ← u16? data 0 with
  | 0 =>
      let _ ← after? data 6 256 1
      pure (.bytes data)
  | 2 =>
      let headers ← headerCount? data
      let _ ← after? data 518 headers 8
      pure (.highBytes data headers)
  | 4 =>
      let doubled ← u16? data 6
      if doubled < 2 then none
      let _ ← after? data 16 (doubled / 2) 8
      pure (.segments data (doubled / 2))
  | 6 =>
      let first ← u16? data 6
      let count ← u16? data 8
      let glyphs ← array? u16? data 10 2 count
      pure (.trimmed first glyphs)
  | 8 => pure .other
  | 10 =>
      let first ← u32? data 12
      let count ← u32? data 16
      let _ ← after? data 20 count 2
      let glyphs ← array? u16? data 20 2 count
      pure (.trimmed first glyphs)
  | 12 =>
      let count ← u32? data 12
      let _ ← after? data 16 count 12
      pure (.groups data count)
  | 13 =>
      let count ← u32? data 12
      let _ ← after? data 16 count 12
      pure (.constants data count)
  | 14 =>
      let count ← u32? data 6
      let _ ← after? data 10 count 11
      pure .other
  | _ => none

/-- The glyph of a code in a map by high bytes. -/
def highByteGlyph? (data : ByteArray) (headers code : Nat) : Option Nat := do
  if 0xFFFF < code then none
  let low := code % 256
  let block ←
    if code < 0xFF then some 0
    else (u16? data (6 + 2 * (code / 256))).map (· / 8)
  if headers ≤ block then none
  let header := 518 + 8 * block
  let first ← u16? data header
  let count ← u16? data (header + 2)
  let delta ← i16? data (header + 4)
  let offset ← u16? data (header + 6)
  if 0xFFFF < first + count ∨ low < first ∨ first + count ≤ low then none
  let glyph ← u16? data (header + 6 + offset + 2 * (low - first))
  if glyph = 0 then none
  let id := ((glyph : Int) + delta).tmod 65536
  if id < 0 then none else pure id.toNat

/-- The order of a range relative to a code. -/
def rangeOrder (code first last : Nat) : Ordering :=
  if last < code then .lt else if code < first then .gt else .eq

/-- The glyph of a code in a map of segments: the code moved by the segment's
delta, or an entry of a list that is kept after the segments.  Entries count
as signed once they are moved, and a negative one is no glyph. -/
def segmentGlyph? (data : ByteArray) (count code : Nat) : Option Nat := do
  if 0xFFFF < code then none
  let index ← bisect? (fun index => do
    let last ← u16? data (14 + 2 * index)
    let first ← u16? data (16 + 2 * count + 2 * index)
    pure (rangeOrder code first last)) 0 count
  let first ← u16? data (16 + 2 * count + 2 * index)
  let delta ← u16? data (16 + 4 * count + 2 * index)
  let position := 16 + 6 * count + 2 * index
  let offset ← u16? data position
  if offset = 0 then pure ((code + delta) % 65536)
  else if offset = 0xFFFF ∨ 0xFFFF < 2 * (code - first) then none
  else
    let glyph ← u16? data ((position + 2 * (code - first) + offset) % 65536)
    if glyph = 0 then none
    let id := (glyph + delta) % 65536
    if id < 32768 then pure id else none

/-- The glyph of a code in a map of groups with glyphs in sequence. -/
def groupGlyph? (data : ByteArray) (count code : Nat) : Option Nat := do
  let index ← search? (fun index => do
    let first ← u32? data (16 + 12 * index)
    let last ← u32? data (20 + 12 * index)
    pure (if code < first then .gt else if last < code then .lt else .eq))
    count
  let first ← u32? data (16 + 12 * index)
  let glyph ← u32? data (24 + 12 * index)
  if 0xFFFFFFFF < glyph + code then none
  let id := glyph + code - first
  if id < 65536 then pure id else none

/-- The glyph of a code in the groups with one glyph each from `index` on. -/
def constantGlyph? (data : ByteArray) (code : Nat) :
    (index count : Nat) → Option Nat
  | _, 0 => none
  | index, count + 1 => do
      let first ← u32? data (16 + 12 * index)
      let last ← u32? data (20 + 12 * index)
      let glyph ← u32? data (24 + 12 * index)
      if first ≤ code ∧ code ≤ last then
        if glyph < 65536 then pure glyph else none
      else constantGlyph? data code (index + 1) count

/-- The glyph of a code. -/
def glyph? (map : CodeMap) (code : Nat) : Option Nat :=
  match map with
  | .bytes data =>
      if code < 256 then
        (byte? data (6 + code)).filter (· != 0)
      else none
  | .highBytes data headers => highByteGlyph? data headers code
  | .segments data count => segmentGlyph? data count code
  | .trimmed first glyphs =>
      if code < first then none else glyphs[code - first]?
  | .groups data count => groupGlyph? data count code
  | .constants data count => constantGlyph? data code 0 count
  | .other => none

end CodeMap

/-- A subtable of a character map. -/
structure Charmap where
  platform : Nat
  encoding : Nat
  map : CodeMap

namespace Charmap

/-- The platform of subtables that are made for Unicode alone. -/
def unicode : Nat := 0

/-- The platform of one-byte encodings. -/
def macintosh : Nat := 1

/-- The platform with both a Unicode and a symbol encoding. -/
def windows : Nat := 3

/-- The map covers the whole code space in groups. -/
def isGrouped (map : Charmap) : Bool :=
  match map.map with
  | .groups _ _ => true
  | .constants _ _ => true
  | _ => false

/-- The map is from Unicode. -/
def isUnicode (map : Charmap) : Bool :=
  map.platform == unicode
    || (map.platform == windows
      && (map.encoding == 1 || (map.encoding == 10 && map.isGrouped)))

/-- The subtable whose record is at a position.  Platforms are numbered up to
4. -/
def at? (table : ByteArray) (pos : Nat) : Option Charmap := do
  let platform ← u16? table pos
  let encoding ← u16? table (pos + 2)
  let offset ← u32? table (pos + 4)
  if 4 < platform then none
  let data ← from? table offset
  let map ← CodeMap.read? data
  pure ⟨platform, encoding, map⟩

/-- The subtables whose records are at a position and after it, up to the first
that cannot be read. -/
def listAt (table : ByteArray) : (pos count : Nat) → List Charmap
  | _, 0 => []
  | pos, count + 1 =>
      match at? table pos with
      | none => []
      | some map => map :: listAt table (pos + 8) count

/-- The subtables of a character map. -/
def all? (table : ByteArray) : Option (List Charmap) := do
  let count ← u16? table 2
  let _ ← after? table 4 count 8
  pure (listAt table 4 count)

/-- The glyph of a code in the first Unicode map that has one. -/
def lookup? (maps : List Charmap) (code : Nat) : Option Nat :=
  (maps.filter isUnicode).findSome? (·.map.glyph? code)

/-- The kinds of map that text is shaped with, the best one first. -/
def preferred : List (Nat × Nat) :=
  [(3, 0), (3, 10), (0, 6), (0, 4), (3, 1), (0, 3), (0, 2), (0, 1), (0, 0),
    (1, 0)]

/-- The map that text is shaped with. -/
def best? (maps : List Charmap) : Option Charmap :=
  preferred.findSome? fun kind =>
    maps.find? fun map => map.platform == kind.1 && map.encoding == kind.2

/-- The glyph of a code in text that is shaped.  A one-byte map is asked for
the byte of a character, and a map of symbols has its bytes also at
`U+F000`. -/
def shapedGlyph? (map : Charmap) (code : Nat) : Option Nat :=
  if map.platform == macintosh && 0x7F < code then
    map.map.glyph? (romanByte code)
  else
    (map.map.glyph? code).orElse fun _ =>
      if map.platform == windows && map.encoding == 0 && code ≤ 0xFF then
        map.map.glyph? (0xF000 + code)
      else none

end Charmap

end Inkwell.Font
