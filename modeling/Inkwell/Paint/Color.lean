/-!
# Colors

A color is a packed word with eight bits each of alpha, red, green and blue,
alpha highest.  Alpha only matters to shape fills, where a transparent color
erases; glyphs always paint at full alpha.
-/

namespace Inkwell

/-- A packed color, `0xAARRGGBB`. -/
structure Color where
  argb : UInt32
  deriving DecidableEq, Inhabited

namespace Color

/-- Opaque white. -/
def white : Color := ⟨0xFFFFFFFF⟩

/-- Opaque black. -/
def black : Color := ⟨0xFF000000⟩

/-- Opaque red. -/
def red : Color := ⟨0xFFFF0000⟩

/-- Opaque green. -/
def green : Color := ⟨0xFF00FF00⟩

/-- Opaque blue. -/
def blue : Color := ⟨0xFF0000FF⟩

/-- No color at all: every channel is zero. -/
def transparent : Color := ⟨0⟩

/-- The solid color with the low 24 bits of `rgb`. -/
def ofRgb (rgb : UInt32) : Color :=
  ⟨0xFF000000 ||| (rgb &&& 0x00FFFFFF)⟩

/-- A color from its four channels. -/
def ofChannels (red green blue alpha : UInt8) : Color :=
  ⟨alpha.toUInt32 <<< 24 ||| red.toUInt32 <<< 16 ||| green.toUInt32 <<< 8
    ||| blue.toUInt32⟩

/-- The alpha channel. -/
def alphaChannel (c : Color) : UInt8 := (c.argb >>> 24).toUInt8

/-- The red channel. -/
def redChannel (c : Color) : UInt8 := (c.argb >>> 16).toUInt8

/-- The green channel. -/
def greenChannel (c : Color) : UInt8 := (c.argb >>> 8).toUInt8

/-- The blue channel. -/
def blueChannel (c : Color) : UInt8 := c.argb.toUInt8

/-- The color erases what it covers: its alpha is zero. -/
def isTransparent (c : Color) : Bool := c.alphaChannel == 0

/-- The same red, green and blue at full alpha. -/
def solid (c : Color) : Color := ⟨c.argb ||| 0xFF000000⟩

/-- The same red, green and blue with another alpha. -/
def withAlpha (c : Color) (alpha : UInt8) : Color :=
  ⟨(c.argb &&& (0x00FFFFFF : UInt32)) ||| (alpha.toUInt32 <<< 24)⟩

/-- The color that a constant's upper-case name stands for. -/
def named? : String → Option Color
  | "WHITE" => some white
  | "BLACK" => some black
  | "RED" => some red
  | "GREEN" => some green
  | "BLUE" => some blue
  | "TRANSPARENT" => some transparent
  | _ => none

end Color

end Inkwell
