import Inkwell.Proofs.Glyph.Scaling

/-!
# Rounding to the nearest integer

A scaled length is a quotient rounded to the nearest integer, where a half goes away
from zero.  `Rounds` says this without dividing: it bounds the distance between the
dividend and a multiple of the divisor.  At most one integer satisfies it, a greater
dividend is not rounded to a smaller integer, and multiples of the divisor are rounded to
what they are multiplied by.

What scaling returns is determined by this alone.  So it has the same magnitude for
lengths of both signs, keeps the order of lengths and of sizes, and changes nothing at the
design size.
-/

namespace Inkwell

/-- The quotient of `dividend` by `divisor`, rounded to the nearest integer with halves
away from zero, is `rounded`. -/
structure Rounds (dividend : Int) (divisor : Nat) (rounded : Int) : Prop where
  near : 2 * (rounded * divisor - dividend).natAbs ≤ divisor
  away : 2 * (rounded * divisor - dividend).natAbs = divisor →
    dividend.natAbs < (rounded * divisor).natAbs

namespace Rounds

variable {dividend larger rounded next : Int} {divisor : Nat}

/-- Rounding keeps the order of dividends. -/
theorem le_of_le (isRounded : Rounds dividend divisor rounded)
    (isNext : Rounds larger divisor next) (positive : 0 < divisor)
    (le : dividend ≤ larger) : rounded ≤ next := by
  refine Int.not_lt.mp fun greater => ?_
  have apart : (next + 1) * (divisor : Int) ≤ rounded * divisor :=
    Int.mul_le_mul_of_nonneg_right (by omega) (Int.natCast_nonneg divisor)
  rw [Int.add_mul, Int.one_mul] at apart
  have nearRounded := isRounded.near
  have nearNext := isNext.near
  -- Both dividends lie halfway between two neighbours, and away from zero is one of them.
  have awayRounded := isRounded.away (by omega)
  have awayNext := isNext.away (by omega)
  rcases Int.lt_or_le 0 rounded with pos | nonpos
  · have pos : 1 * (divisor : Int) ≤ rounded * divisor :=
      Int.mul_le_mul_of_nonneg_right pos (Int.natCast_nonneg divisor)
    omega
  · have nonpos : rounded * (divisor : Int) ≤ 0 * divisor :=
      Int.mul_le_mul_of_nonneg_right nonpos (Int.natCast_nonneg divisor)
    omega

theorem unique (isRounded : Rounds dividend divisor rounded)
    (isNext : Rounds dividend divisor next) (positive : 0 < divisor) : rounded = next :=
  Int.le_antisymm (isRounded.le_of_le isNext positive (Int.le_refl dividend))
    (isNext.le_of_le isRounded positive (Int.le_refl dividend))

/-- A multiple of the divisor needs no rounding. -/
theorem of_mul (rounded : Int) (positive : 0 < divisor) :
    Rounds (rounded * divisor) divisor rounded where
  near := by omega
  away tie := by omega

theorem nonneg (isRounded : Rounds dividend divisor rounded) (positive : 0 < divisor)
    (dividend_nonneg : 0 ≤ dividend) : 0 ≤ rounded := by
  have isZero := of_mul 0 positive
  rw [Int.zero_mul] at isZero
  exact isZero.le_of_le isRounded positive dividend_nonneg

/-- Rounding does not prefer a sign. -/
theorem neg (isRounded : Rounds dividend divisor rounded) :
    Rounds (-dividend) divisor (-rounded) where
  near := by
    have near := isRounded.near
    rw [Int.neg_mul]
    omega
  away tie := by
    have away := isRounded.away
    rw [Int.neg_mul] at tie ⊢
    omega

end Rounds

/-- What is not negative is rounded by moving it up by half the divisor. -/
theorem rounds_ediv {dividend : Int} {divisor : Nat} (positive : 0 < divisor)
    (nonneg : 0 ≤ dividend) :
    Rounds dividend divisor ((dividend + (divisor : Int) / 2) / divisor) := by
  have whole := Int.mul_ediv_add_emod (dividend + (divisor : Int) / 2) divisor
  have remainder_nonneg := Int.emod_nonneg (dividend + (divisor : Int) / 2)
    (show (divisor : Int) ≠ 0 by omega)
  have remainder_lt := Int.emod_lt_of_pos (dividend + (divisor : Int) / 2)
    (show 0 < (divisor : Int) by omega)
  rw [Int.mul_comm] at whole
  constructor <;> omega

namespace Sheet

variable {s : Sheet} {value result other : Int32} {size : UInt16}

/-- A scaled length is the exact one, rounded. -/
theorem rounds_scaled (s : Sheet) (value : Int32) (size : UInt16) :
    Rounds (value.toInt * size.toNat) s.design.toNat (s.scaled value size) := by
  rw [scaled, moved]
  split
  · rename_i nonneg
    rw [Int.tdiv_eq_ediv_of_nonneg (by omega)]
    exact rounds_ediv s.design_pos nonneg
  · rename_i negative
    have mirrored := rounds_ediv s.design_pos
      (show 0 ≤ -(value.toInt * size.toNat) by omega)
    rw [← Int.tdiv_eq_ediv_of_nonneg (by omega)] at mirrored
    have isRounded := mirrored.neg
    rw [Int.neg_neg, ← Int.neg_tdiv, Int.neg_add, Int.neg_neg, ← Int.sub_eq_add_neg]
      at isRounded
    exact isRounded

/-- What scaling returns is the exact length, rounded. -/
theorem rounds_of_scale (returns : s.scale value size = .ok result) :
    Rounds (value.toInt * size.toNat) s.design.toNat result.toInt := by
  rw [(scale_eq_ok_iff.mp returns).2]
  exact s.rounds_scaled value size

/-- Scaling keeps the order of the exact lengths, whichever way they come about. -/
theorem scale_le_scale {larger : Int32} {otherSize : UInt16}
    (returns : s.scale value size = .ok result)
    (otherReturns : s.scale larger otherSize = .ok other)
    (le : value.toInt * size.toNat ≤ larger.toInt * otherSize.toNat) : result ≤ other :=
  Int32.le_iff_toInt_le.mpr
    ((rounds_of_scale returns).le_of_le (rounds_of_scale otherReturns) s.design_pos le)

/-- Take any sheet, of whatever design size.  Scaling a length returns precisely when the
product of both magnitudes, moved by half the design size, does not outgrow a 32-bit word
on the side of zero where the length lies; lengths that 16 bits can hold are scaled to
every size.  What is returned is the exact length rounded to the nearest integer, with
halves away from zero.  The opposite length is scaled to the opposite result.  A greater
length is not scaled to a smaller one, nor is a length that is not negative at a greater
size.  At the design size every length stays as it is. -/
theorem scaling_rounds_half_away (s : Sheet) :
    (∀ value size, (∃ result, s.scale value size = .ok result) ↔
      value.toInt.natAbs * size.toNat + s.design.toNat / 2 ≤
        if 0 ≤ value.toInt then 2147483647 else 2147483648) ∧
    (∀ value, Word.FitsInt16 value.toInt →
      ∀ size, ∃ result, s.scale value size = .ok result) ∧
    (∀ value size result, s.scale value size = .ok result →
      Rounds (value.toInt * size.toNat) s.design.toNat result.toInt) ∧
    (∀ value opposite size result mirrored, opposite.toInt = -value.toInt →
      s.scale value size = .ok result → s.scale opposite size = .ok mirrored →
      mirrored.toInt = -result.toInt) ∧
    (∀ value larger size result other, value ≤ larger →
      s.scale value size = .ok result → s.scale larger size = .ok other →
      result ≤ other) ∧
    (∀ value size larger result other, 0 ≤ value → size ≤ larger →
      s.scale value size = .ok result → s.scale value larger = .ok other →
      result ≤ other) ∧
    (∀ value result, s.scale value s.design = .ok result → result = value) := by
  refine ⟨fun value size => scale_returns_iff.trans scalable_iff,
    fun value fits size => scale_returns_iff.mpr (s.scalable_of_fitsInt16 fits size),
    fun value size result => rounds_of_scale, ?_, ?_, ?_, ?_⟩
  · intro value opposite size result mirrored isOpposite returns mirroredReturns
    have isMirrored := rounds_of_scale mirroredReturns
    rw [isOpposite, Int.neg_mul] at isMirrored
    exact isMirrored.unique (rounds_of_scale returns).neg s.design_pos
  · intro value larger size result other le returns otherReturns
    exact scale_le_scale returns otherReturns
      (Int.mul_le_mul_of_nonneg_right (Int32.le_iff_toInt_le.mp le) (Int.natCast_nonneg _))
  · intro value size larger result other nonneg le returns otherReturns
    exact scale_le_scale returns otherReturns
      (Int.mul_le_mul_of_nonneg_left (Int.ofNat_le.mpr le) (Int32.le_iff_toInt_le.mp nonneg))
  · intro value result returns
    exact Int32.toInt_inj.mp
      ((rounds_of_scale returns).unique (.of_mul _ s.design_pos) s.design_pos)

/-- A sheet of which half the design size is a whole number. -/
def evenSheet : Sheet := Sheet.create "even" 8 ⟨6, 2⟩

/-- Three eighths of four pixels are one and a half, which is two pixels away from zero on
both sides. -/
theorem scaling_rounds_half_away_even :
    (evenSheet.scale 3 4 = .ok 2 ∧ Rounds (3 * 4) 8 2) ∧
    (evenSheet.scale (-3) 4 = .ok (-2) ∧ (-2 : Int32).toInt = -(2 : Int32).toInt) ∧
    (evenSheet.scale 5 4 = .ok 3 ∧ (2 : Int32) ≤ 3) ∧
    (evenSheet.scale 3 7 = .ok 3 ∧ (2 : Int32) ≤ 3) ∧
    (evenSheet.scale (-3) evenSheet.design = .ok (-3)) ∧
    (∃ result, evenSheet.scale (-32768) 65535 = .ok result) ∧
    ¬ ∃ result, evenSheet.scale 32769 65535 = .ok result := by
  obtain ⟨bounded, shorts, rounds, mirrors, grows, growsWithSize, keeps⟩ :=
    scaling_rounds_half_away evenSheet
  have three : evenSheet.scale 3 4 = .ok 2 := rfl
  have minusThree : evenSheet.scale (-3) 4 = .ok (-2) := rfl
  have longer : evenSheet.scale 5 4 = .ok 3 := rfl
  have larger : evenSheet.scale 3 7 = .ok 3 := rfl
  obtain ⟨kept, designed⟩ := shorts (-3) (by decide) evenSheet.design
  refine ⟨⟨three, rounds 3 4 2 three⟩,
    ⟨minusThree, mirrors 3 (-3) 4 2 (-2) (by decide) three minusThree⟩,
    ⟨longer, grows 3 5 4 2 3 (by decide) three longer⟩,
    ⟨larger, growsWithSize 3 4 7 2 3 (by decide) (by decide) three larger⟩,
    ?_, shorts (-32768) (by decide) 65535, ?_⟩
  · rw [designed, keeps (-3) kept designed]
  · rw [bounded]
    decide

end Sheet

end Inkwell
