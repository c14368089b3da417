/-!
# Rounding to single precision

Font lengths are scaled in numbers with 24 significant bits.  A positive
fraction is rounded to the nearest such number, halves to the even one, and the
scaled length to the nearest integer, halves away from zero.
-/

namespace Inkwell.Font.Single

/-- The integer nearest to a fraction, halves to the even one. -/
def nearestEven (num den : Nat) : Nat :=
  let whole := num / den
  let rest := num % den
  if 2 * rest < den then whole
  else if den < 2 * rest then whole + 1
  else whole + whole % 2

/-- A positive fraction. -/
structure Fraction where
  num : Nat
  den : Nat
  deriving DecidableEq

/-- The fraction multiplied by a power of two. -/
def Fraction.shift (f : Fraction) (exponent : Int) : Fraction :=
  if 0 ≤ exponent then ⟨f.num * Nat.pow 2 exponent.toNat, f.den⟩
  else ⟨f.num, f.den * Nat.pow 2 (-exponent).toNat⟩

/-- The exponent of the last of 24 significant bits of a fraction. -/
def lastBit (f : Fraction) : Int :=
  let guess : Int := (Nat.log2 f.num : Int) - Nat.log2 f.den - 23
  let scaled := f.shift (-guess)
  if scaled.num < Nat.pow 2 23 * scaled.den then guess - 1 else guess

/-- The nearest number with 24 significant bits. -/
def round (f : Fraction) : Fraction :=
  if f.num = 0 then f
  else
    let exponent := lastBit f
    let scaled := f.shift (-exponent)
    (Fraction.mk (nearestEven scaled.num scaled.den) 1).shift exponent

/-- The integer nearest to a fraction, halves upwards. -/
def nearestUp (f : Fraction) : Nat := (2 * f.num + f.den) / (2 * f.den)

/-- `n · size / unitsPerEm`, with both results rounded to 24 significant bits,
and then to an integer. -/
def scale (n : Int) (size unitsPerEm : Nat) : Int :=
  let product := round ⟨n.natAbs * size, 1⟩
  let quotient := round ⟨product.num, product.den * unitsPerEm⟩
  let magnitude : Int := nearestUp quotient
  if n < 0 then -magnitude else magnitude

end Inkwell.Font.Single
