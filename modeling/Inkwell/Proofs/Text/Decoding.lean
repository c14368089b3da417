import Inkwell.Text.Utf16

/-!
# Decoding loses no place

Decoded characters take up as many units as they were read from, because the
replacement character stands for exactly one unit.  A text can therefore be cut
between two of its characters: the units before the cut decode to the characters
before it, and the units after the cut to those after it.
-/

namespace Inkwell.Utf16

@[simp]
theorem textLength_nil : textLength [] = 0 := rfl

@[simp]
theorem textLength_cons (c : Char) (cs : List Char) :
    textLength (c :: cs) = unitLength c + textLength cs := rfl

@[simp]
theorem textLength_append (cs ds : List Char) :
    textLength (cs ++ ds) = textLength cs + textLength ds := by
  induction cs with
  | nil => simp
  | cons c cs inductionHypothesis =>
      simp [inductionHypothesis, Nat.add_assoc]

/-! ## Lengths -/

/-- A character made of a valid code point has it. -/
theorem toNat_ofNat_of_valid {n : Nat} (valid : n.isValidChar) :
    (Char.ofNat n).toNat = n := by
  rw [Char.ofNat, dif_pos valid]
  rfl

/-- A code point of the basic plane makes a character of the basic plane. -/
theorem toNat_ofNat_lt {n : Nat} (small : n < 0x10000) :
    (Char.ofNat n).toNat < 0x10000 := by
  by_cases valid : n.isValidChar
  · rw [toNat_ofNat_of_valid valid]
    exact small
  · rw [Char.ofNat, dif_neg valid]
    decide

/-- A unit on its own stands for a character of one unit. -/
theorem unitLength_ofUnit (unit : UInt16) : unitLength (ofUnit unit) = 1 := by
  have small : (ofUnit unit).toNat < 0x10000 := by
    unfold ofUnit
    split
    · decide
    · exact toNat_ofNat_lt (UInt16.toNat_lt unit)
  rw [unitLength, if_pos small]

theorem isHigh_iff (unit : UInt16) :
    isHigh unit = true ↔ 0xD800 ≤ unit.toNat ∧ unit.toNat ≤ 0xDBFF := by
  simp [isHigh, UInt16.le_iff_toNat_le]

theorem isLow_iff (unit : UInt16) :
    isLow unit = true ↔ 0xDC00 ≤ unit.toNat ∧ unit.toNat ≤ 0xDFFF := by
  simp [isLow, UInt16.le_iff_toNat_le]

/-- The code point of a surrogate pair. -/
theorem toNat_ofPair {high low : UInt16} (isPair : (isHigh high && isLow low) = true) :
    (ofPair high low).toNat =
      0x10000 + (high.toNat - 0xD800) * 0x400 + (low.toNat - 0xDC00) := by
  rw [Bool.and_eq_true, isHigh_iff, isLow_iff] at isPair
  have valid : Nat.isValidChar
      (0x10000 + (high.toNat - 0xD800) * 0x400 + (low.toNat - 0xDC00)) := by
    right
    omega
  exact toNat_ofNat_of_valid valid

/-- A surrogate pair stands for a character of two units. -/
theorem unitLength_ofPair {high low : UInt16}
    (isPair : (isHigh high && isLow low) = true) :
    unitLength (ofPair high low) = 2 := by
  have large : ¬ (ofPair high low).toNat < 0x10000 := by
    rw [toNat_ofPair isPair]
    omega
  rw [unitLength, if_neg large]

/-- Decoded text takes up as many units as it was read from. -/
theorem textLength_decode (units : List UInt16) :
    textLength (decode units) = units.length := by
  fun_induction decode units with
  | case1 => rfl
  | case2 unit => simp [unitLength_ofUnit]
  | case3 unit next rest isPair inductionHypothesis =>
      simp only [textLength_cons, unitLength_ofPair isPair, inductionHypothesis,
        List.length_cons]
      omega
  | case4 unit next rest notPair inductionHypothesis =>
      simp only [textLength_cons, unitLength_ofUnit, inductionHypothesis,
        List.length_cons]
      omega

/-! ## Cutting between characters -/

/-- A unit that does not open a pair decodes on its own. -/
theorem decode_cons_of_not_pair {unit : UInt16} {rest : List UInt16}
    (notPair : ∀ next ∈ rest.head?, ¬ (isHigh unit && isLow next) = true) :
    decode (unit :: rest) = ofUnit unit :: decode rest := by
  cases rest with
  | nil => rfl
  | cons next rest =>
      rw [decode, if_neg (notPair next rfl)]

/-- Units decode separately on both sides of a cut between two characters. -/
theorem decode_cut {units : List UInt16} {before after : List Char}
    (isCut : decode units = before ++ after) :
    decode (units.take (textLength before)) = before ∧
      decode (units.drop (textLength before)) = after := by
  fun_induction decode units generalizing before with
  | case1 =>
      obtain ⟨rfl, rfl⟩ := List.append_eq_nil_iff.mp isCut.symm
      exact ⟨rfl, rfl⟩
  | case2 unit =>
      cases before with
      | nil => exact ⟨rfl, isCut⟩
      | cons c before =>
          simp only [List.cons_append, List.cons.injEq, List.nil_eq,
            List.append_eq_nil_iff] at isCut
          obtain ⟨rfl, rfl, rfl⟩ := isCut
          simp [unitLength_ofUnit, decode]
  | case3 unit next rest isPair inductionHypothesis =>
      cases before with
      | nil =>
          constructor
          · rfl
          · rw [textLength_nil, List.drop_zero, decode, if_pos isPair]
            exact isCut
      | cons c before =>
          obtain ⟨rfl, isRest⟩ := List.cons.inj isCut
          obtain ⟨left, right⟩ := inductionHypothesis isRest
          rw [textLength_cons, unitLength_ofPair isPair, Nat.add_comm,
            List.take_succ_cons, List.take_succ_cons, List.drop_succ_cons,
            List.drop_succ_cons, decode, if_pos isPair, left]
          exact ⟨rfl, right⟩
  | case4 unit next rest notPair inductionHypothesis =>
      cases before with
      | nil =>
          constructor
          · rfl
          · rw [textLength_nil, List.drop_zero, decode, if_neg notPair]
            exact isCut
      | cons c before =>
          obtain ⟨rfl, isRest⟩ := List.cons.inj isCut
          obtain ⟨left, right⟩ := inductionHypothesis isRest
          rw [textLength_cons, unitLength_ofUnit, Nat.add_comm,
            List.take_succ_cons, List.drop_succ_cons, decode_cons_of_not_pair, left]
          · exact ⟨rfl, right⟩
          -- What follows the unit in the part before the cut, if anything, is
          -- what follows it in the whole text.
          · intro other isHead
            rw [List.head?_take] at isHead
            split at isHead
            · cases isHead
            · cases isHead
              exact notPair

end Inkwell.Utf16
