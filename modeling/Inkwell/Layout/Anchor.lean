/-!
# Anchors

An anchor is a set of flags that says which point of a line its origin is.
Each axis takes exactly one flag; an axis with none or several counts as left or
top, and unknown flags are ignored.
-/

namespace Inkwell

/-- Where a line stands relative to its horizontal origin. -/
inductive Alignment where
  | left
  | center
  | right
  deriving DecidableEq

/-- What of a line its vertical origin is. -/
inductive VerticalAnchor where
  | top
  | baseline
  | bottom
  | center
  deriving DecidableEq

/-- Anchor flags, as a word of bits. -/
structure Anchor where
  bits : UInt32
  deriving DecidableEq

namespace Anchor

/-- The flag for the horizontal center. -/
def hcenter : UInt32 := 1

/-- The flag for the vertical center. -/
def vcenter : UInt32 := 2

/-- The flag for the left edge. -/
def left : UInt32 := 4

/-- The flag for the right edge. -/
def right : UInt32 := 8

/-- The flag for the top edge. -/
def top : UInt32 := 16

/-- The flag for the bottom edge. -/
def bottom : UInt32 := 32

/-- The flag for the baseline. -/
def baseline : UInt32 := 64

/-- The top left corner. -/
def topLeft : Anchor := ⟨top ||| left⟩

/-- The flags of the horizontal axis. -/
def horizontalMask : UInt32 := hcenter ||| left ||| right

/-- The flags of the vertical axis. -/
def verticalMask : UInt32 := vcenter ||| top ||| bottom ||| baseline

/-- The horizontal alignment that the flags name. -/
def alignment (a : Anchor) : Alignment :=
  let flags := a.bits &&& horizontalMask
  if flags = hcenter then .center
  else if flags = right then .right
  else .left

/-- The vertical anchor that the flags name. -/
def vertical (a : Anchor) : VerticalAnchor :=
  let flags := a.bits &&& verticalMask
  if flags = baseline then .baseline
  else if flags = bottom then .bottom
  else if flags = vcenter then .center
  else .top

end Anchor

end Inkwell
