/-!
# Fixed-point numbers

Outlines are scaled in whole numbers: lengths on the screen are 64ths of a
pixel, and the scale is a number of 65536ths.  Results are rounded to the
nearest number, halves away from zero, and kept in 32 bits.
-/

namespace Inkwell.Font

/-- The signed 32-bit number with the low bits of an integer. -/
def wrap32 (n : Int) : Int := n.bmod 4294967296

/-- The product of two numbers, the second of which counts 65536ths. -/
def mulFixed (a b : Int) : Int :=
  let product := a * b
  wrap32 ((product + 32768 - if product < 0 then 1 else 0).fdiv 65536)

/-- The quotient of two numbers in 65536ths. -/
def divFixed (a b : Nat) : Int := wrap32 ((a * 65536 + b / 2) / b : Nat)

/-- How outlines are scaled: by a number of 65536ths of 64ths of a pixel for
each font unit, or one pixel for each unit. -/
structure Scale where
  factor : Option Int
  deriving DecidableEq

namespace Scale

/-- The scale of a font at a size; size zero, and a font without a size of its
own, is drawn one pixel for each unit. -/
def ofSize (size unitsPerEm : Nat) : Scale :=
  if size = 0 ∨ unitsPerEm = 0 then ⟨none⟩
  else ⟨some (divFixed (64 * size) unitsPerEm)⟩

/-- A length of font units in 64ths of a pixel. -/
def apply (scale : Scale) (units : Int) : Int :=
  match scale.factor with
  | some factor => mulFixed units factor
  | none => wrap32 (64 * units)

end Scale

end Inkwell.Font
