import Inkwell.Word

/-!
# Coverage masks

A rasterized glyph is a mask: a grid of coverage bytes, row after row, and the
place of its top left corner relative to the pen.  A byte of zero leaves the
pixel alone.  The bytes may be fewer or more than the grid has pixels; missing
ones count as zero.
-/

namespace Inkwell

/-! ## Bytes in rows -/

/-- The position of column `x` and row `y` in rows of `width` bytes, as a word. -/
def bytePosition (width x y : UInt32) : Checked UInt32 := do
  let row ← Word.exactUInt32 .mul (y.toNat * width.toNat)
  Word.exactUInt32 .add (row.toNat + x.toNat)

/-- The byte at a position, which has to be there. -/
def byteAt (bytes : Array UInt8) (position : UInt32) : Checked UInt8 :=
  if inside : position.toNat < bytes.size then
    pure bytes[position.toNat]
  else
    throw (.outOfBounds position.toNat bytes.size)

/-- The bytes with another one at a position, which has to be there. -/
def setByte (bytes : Array UInt8) (position : UInt32) (byte : UInt8) :
    Checked (Array UInt8) :=
  if inside : position.toNat < bytes.size then
    pure (bytes.set position.toNat byte inside)
  else
    throw (.outOfBounds position.toNat bytes.size)

theorem bytePosition_eq_ok_iff {width x y position : UInt32} :
    bytePosition width x y = .ok position ↔
      position.toNat = y.toNat * width.toNat + x.toNat := by
  simp only [bytePosition, Checked.bind_eq_ok_iff, Word.exactUInt32_eq_ok_iff]
  constructor
  · rintro ⟨row, isRow, isPosition⟩
    rw [isPosition, isRow]
  · intro isPosition
    have position_lt := position.toNat_lt
    have isRow := UInt32.toNat_ofNat_of_lt
      (show y.toNat * width.toNat < 4294967296 by omega)
    exact ⟨_, isRow, by rw [isRow, isPosition]⟩

theorem byteAt_eq_ok_iff {bytes : Array UInt8} {position : UInt32}
    {byte : UInt8} :
    byteAt bytes position = .ok byte ↔ bytes[position.toNat]? = some byte := by
  unfold byteAt
  split
  · rename_i inside
    rw [Array.getElem?_eq_getElem inside]
    simp only [pure, Except.pure, Except.ok.injEq, Option.some.injEq]
  · rename_i outside
    rw [Array.getElem?_eq_none (Nat.le_of_not_lt outside)]
    constructor <;> nofun

theorem setByte_of_lt {bytes : Array UInt8} {position : UInt32}
    (inside : position.toNat < bytes.size) (byte : UInt8) :
    setByte bytes position byte =
      .ok (bytes.setIfInBounds position.toNat byte) := by
  rw [setByte, dif_pos inside, Array.setIfInBounds, dif_pos inside]
  rfl

/-! ## Masks -/

/-- The coverage of a glyph and its placement. -/
structure Mask where
  width : UInt32
  height : UInt32
  /-- From the pen to the left edge. -/
  bearingX : Int16
  /-- From the baseline up to the top edge. -/
  bearingY : Int16
  coverage : Array UInt8
  deriving DecidableEq

namespace Mask

/-- The mask of a glyph with nothing to paint. -/
def empty : Mask := ⟨0, 0, 0, 0, #[]⟩

/-- The mask has no pixels. -/
def isEmpty (m : Mask) : Bool := m.width == 0 || m.height == 0

/-- The coverage of the pixel at column `x` and row `y`, zero outside the
mask.  The position of the byte has to fit a word. -/
def coverageAt (m : Mask) (x y : UInt32) : Checked UInt8 :=
  if m.width ≤ x ∨ m.height ≤ y then
    pure 0
  else do
    let position ← bytePosition m.width x y
    pure (m.coverage[position.toNat]?.getD 0)

/-- The number of painted pixels. -/
def ink (m : Mask) : Nat := m.coverage.countP (· != 0)

/-- The level at and above which coverage counts as full. -/
def full (level coverage : UInt8) : UInt8 :=
  if max level 1 ≤ coverage then 255 else 0

/-- The mask with every byte made zero or full. -/
def threshold (m : Mask) (level : UInt8) : Mask :=
  { m with coverage := m.coverage.map (full level) }

end Mask

end Inkwell
