/-!
# UTF-16 text

Text arrives as 16-bit units.  Decoding pairs surrogates and is total: a
surrogate that is not part of a pair becomes the replacement character, which
stands for exactly one unit.  Encoding writes one unit for a character of the
basic plane and a surrogate pair for any other, so decoded text always takes up
as many units as it was read from.
-/

namespace Inkwell.Utf16

/-- The unit opens a surrogate pair. -/
def isHigh (unit : UInt16) : Bool := 0xD800 ≤ unit && unit ≤ 0xDBFF

/-- The unit closes a surrogate pair. -/
def isLow (unit : UInt16) : Bool := 0xDC00 ≤ unit && unit ≤ 0xDFFF

/-- The character shown for a surrogate that is not part of a pair. -/
def replacement : Char := '\uFFFD'

/-- The character of a unit that is not part of a pair. -/
def ofUnit (unit : UInt16) : Char :=
  if isHigh unit || isLow unit then replacement else Char.ofNat unit.toNat

/-- The character of a surrogate pair. -/
def ofPair (high low : UInt16) : Char :=
  Char.ofNat (0x10000 + (high.toNat - 0xD800) * 0x400 + (low.toNat - 0xDC00))

/-- Read units as characters. -/
def decode : List UInt16 → List Char
  | [] => []
  | [unit] => [ofUnit unit]
  | unit :: next :: rest =>
      if isHigh unit && isLow next then
        ofPair unit next :: decode rest
      else
        ofUnit unit :: decode (next :: rest)

/-- The units of a character. -/
def unitsOf (c : Char) : List UInt16 :=
  if c.toNat < 0x10000 then
    [UInt16.ofNat c.toNat]
  else
    [UInt16.ofNat (0xD800 + (c.toNat - 0x10000) / 0x400),
      UInt16.ofNat (0xDC00 + (c.toNat - 0x10000) % 0x400)]

/-- The number of units of a character. -/
def unitLength (c : Char) : Nat := if c.toNat < 0x10000 then 1 else 2

/-- The number of units of characters. -/
def textLength : List Char → Nat
  | [] => 0
  | c :: cs => unitLength c + textLength cs

/-- Write characters as units. -/
def encode (cs : List Char) : List UInt16 := cs.flatMap unitsOf

@[simp]
theorem length_unitsOf (c : Char) : (unitsOf c).length = unitLength c := by
  unfold unitsOf unitLength
  split <;> rfl

@[simp]
theorem encode_nil : encode [] = [] := rfl

@[simp]
theorem encode_cons (c : Char) (cs : List Char) :
    encode (c :: cs) = unitsOf c ++ encode cs := by
  simp [encode]

theorem encode_append (cs ds : List Char) :
    encode (cs ++ ds) = encode cs ++ encode ds := by
  simp [encode]

@[simp]
theorem length_encode (cs : List Char) :
    (encode cs).length = textLength cs := by
  induction cs with
  | nil => rfl
  | cons c cs inductionHypothesis =>
      simp [textLength, inductionHypothesis]

end Inkwell.Utf16
