/-!
# Font bytes

Numbers in a font file are big-endian.  Everything that reaches past the end of
the bytes is missing.
-/

namespace Inkwell.Font

/-- The byte at a position. -/
def byte? (bytes : ByteArray) (pos : Nat) : Option Nat :=
  if inside : pos < bytes.size then some bytes[pos].toNat else none

/-- The unsigned 16-bit number at a position. -/
def u16? (bytes : ByteArray) (pos : Nat) : Option Nat := do
  let high ← byte? bytes pos
  let low ← byte? bytes (pos + 1)
  pure (high * 256 + low)

/-- The unsigned 32-bit number at a position. -/
def u32? (bytes : ByteArray) (pos : Nat) : Option Nat := do
  let high ← u16? bytes pos
  let low ← u16? bytes (pos + 2)
  pure (high * 65536 + low)

/-- The signed value of an unsigned 16-bit number. -/
def signed16 (n : Nat) : Int := if n < 32768 then n else (n : Int) - 65536

/-- The signed 16-bit number at a position. -/
def i16? (bytes : ByteArray) (pos : Nat) : Option Int :=
  (u16? bytes pos).map signed16

/-- The bytes from a position on, which all have to be there. -/
def slice? (bytes : ByteArray) (start length : Nat) : Option ByteArray :=
  if start + length ≤ bytes.size then
    some (bytes.extract start (start + length))
  else none

/-- The bytes from a position on. -/
def from? (bytes : ByteArray) (start : Nat) : Option ByteArray :=
  if start ≤ bytes.size then some (bytes.extract start bytes.size) else none

/-- Read `count` items one after the other, the first at `start` and each
`stride` after the last. -/
def items? {α : Type} (read : Nat → Option α) (start stride : Nat) :
    (count : Nat) → Option (List α)
  | 0 => some []
  | count + 1 => do
      let first ← read start
      let others ← items? read (start + stride) stride count
      pure (first :: others)

/-- The items of a list of a known length, which all have to be there. -/
def array? {α : Type} (read : ByteArray → Nat → Option α)
    (bytes : ByteArray) (start stride count : Nat) : Option (Array α) :=
  (items? (read bytes) start stride count).map List.toArray

/-- Four letters at a position. -/
def tag? (bytes : ByteArray) (pos : Nat) : Option String := do
  let letters ← items? (byte? bytes) pos 1 4
  pure (String.ofList (letters.map Char.ofNat))

/-- The position after a number of items that all have to be there. -/
def after? (bytes : ByteArray) (start count stride : Nat) : Option Nat :=
  if start + count * stride ≤ bytes.size then some (start + count * stride)
  else none

end Inkwell.Font
