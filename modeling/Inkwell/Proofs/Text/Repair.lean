import Inkwell.Proofs.Text.Decoding

/-!
# Decoding repairs lone surrogates

Decoding reads units from left to right and gives back the unit after a high surrogate
that has lost its partner.  What is lost can be told from each unit and its two
neighbours: written as units again, a decoded text is the text it was read from, with the
replacement character in the place of each surrogate that is not part of a pair.  The
other way round nothing is lost at all.
-/

namespace Inkwell.Utf16

/-! ## Lone surrogates -/

/-- The unit at place `i` opens a surrogate pair. -/
def HighAt (units : List UInt16) (i : Nat) : Prop :=
  ∃ unit ∈ units[i]?, isHigh unit = true

/-- The unit at place `i` closes a surrogate pair. -/
def LowAt (units : List UInt16) (i : Nat) : Prop :=
  ∃ unit ∈ units[i]?, isLow unit = true

/-- The unit at place `i` is a surrogate that is not part of a pair: one that opens a pair
and is not followed by one that closes it, or one that closes a pair and does not follow
one that opens it. -/
def LoneAt (units : List UInt16) (i : Nat) : Prop :=
  (HighAt units i ∧ ¬ LowAt units (i + 1)) ∨
    (LowAt units i ∧ ¬ (0 < i ∧ HighAt units (i - 1)))

instance (units : List UInt16) (i : Nat) : Decidable (HighAt units i) :=
  Option.decidableExistsMem units[i]?

instance (units : List UInt16) (i : Nat) : Decidable (LowAt units i) :=
  Option.decidableExistsMem units[i]?

instance (units : List UInt16) (i : Nat) : Decidable (LoneAt units i) :=
  inferInstanceAs (Decidable (_ ∨ _))

variable {unit high low : UInt16} {units rest : List UInt16} {i : Nat}

@[simp]
theorem highAt_cons_zero : HighAt (unit :: rest) 0 ↔ isHigh unit = true := by
  simp [HighAt]

@[simp]
theorem lowAt_cons_zero : LowAt (unit :: rest) 0 ↔ isLow unit = true := by
  simp [LowAt]

@[simp]
theorem highAt_cons_succ : HighAt (unit :: rest) (i + 1) ↔ HighAt rest i := by
  simp [HighAt]

@[simp]
theorem lowAt_cons_succ : LowAt (unit :: rest) (i + 1) ↔ LowAt rest i := by
  simp [LowAt]

theorem not_isLow_of_isHigh (isHigh : isHigh unit = true) : ¬ isLow unit = true := by
  rw [isHigh_iff] at isHigh
  rw [isLow_iff]
  omega

/-- Whether a unit is lone does not depend on the unit before it, unless the two are a
pair. -/
theorem loneAt_cons_succ (unpaired : i = 0 → ¬ (isHigh unit = true ∧ LowAt rest 0)) :
    LoneAt (unit :: rest) (i + 1) ↔ LoneAt rest i := by
  cases i with
  | zero =>
      have notPair : LowAt rest 0 → ¬ isHigh unit = true := fun low high =>
        unpaired rfl ⟨high, low⟩
      simp only [LoneAt, highAt_cons_succ, lowAt_cons_succ, Nat.add_sub_cancel,
        highAt_cons_zero]
      grind
  | succ i =>
      simp only [LoneAt, highAt_cons_succ, lowAt_cons_succ, Nat.add_sub_cancel,
        Nat.succ_pos, true_and]

/-- The replacement character is no surrogate. -/
theorem LoneAt.ne_replacement (lone : LoneAt units i) : units[i]? ≠ some 0xFFFD := by
  intro isReplacement
  rcases lone with ⟨⟨unit, isUnit, surrogate⟩, _⟩ | ⟨⟨unit, isUnit, surrogate⟩, _⟩
  all_goals
    cases isReplacement.symm.trans isUnit
    exact absurd surrogate (by decide)

/-! ## Units that are written again -/

/-- A unit that is not part of a pair is kept, unless it is a surrogate. -/
theorem unitsOf_ofUnit (unit : UInt16) :
    unitsOf (ofUnit unit) = [if isHigh unit || isLow unit then 0xFFFD else unit] := by
  unfold ofUnit
  split
  · rfl
  · rename_i plain
    have size := unit.toNat_lt
    have valid : unit.toNat.isValidChar := by
      rw [Bool.or_eq_true, isHigh_iff, isLow_iff] at plain
      unfold Nat.isValidChar
      omega
    rw [unitsOf, toNat_ofNat_of_valid valid, if_pos size, UInt16.ofNat_toNat]

/-- A surrogate pair is kept. -/
theorem unitsOf_ofPair (isPair : (isHigh high && isLow low) = true) :
    unitsOf (ofPair high low) = [high, low] := by
  have toNat_eq := toNat_ofPair isPair
  rw [Bool.and_eq_true, isHigh_iff, isLow_iff] at isPair
  have high_eq : 0xD800 + ((ofPair high low).toNat - 0x10000) / 0x400 = high.toNat := by
    omega
  have low_eq : 0xDC00 + ((ofPair high low).toNat - 0x10000) % 0x400 = low.toNat := by
    omega
  have large : ¬ (ofPair high low).toNat < 0x10000 := by
    omega
  rw [unitsOf, if_neg large, high_eq, low_eq, UInt16.ofNat_toNat, UInt16.ofNat_toNat]

/-- The second text is the first with each lone surrogate replaced. -/
def Repairs (units repaired : List UInt16) : Prop :=
  ∀ i, repaired[i]? = if LoneAt units i then some 0xFFFD else units[i]?

theorem repairs_nil : Repairs [] [] := by
  intro i
  simp [LoneAt, HighAt, LowAt]

/-- A unit that opens no pair is repaired by itself. -/
theorem Repairs.single {repaired : List UInt16} (repairs : Repairs rest repaired)
    (unpaired : ¬ (isHigh unit = true ∧ LowAt rest 0)) :
    Repairs (unit :: rest)
      ((if isHigh unit || isLow unit then 0xFFFD else unit) :: repaired) := by
  intro i
  cases i with
  | zero =>
      -- Nothing comes before the unit, and what comes after it makes no pair with it.
      have lone : LoneAt (unit :: rest) 0 ↔ (isHigh unit || isLow unit) = true := by
        simp only [LoneAt, highAt_cons_zero, lowAt_cons_zero, lowAt_cons_succ,
          Bool.or_eq_true]
        grind
      simp only [lone, List.getElem?_cons_zero]
      split <;> rfl
  | succ i =>
      simp only [loneAt_cons_succ fun _ => unpaired, List.getElem?_cons_succ]
      exact repairs i

/-- A pair stays, and so does what becomes of the units after it. -/
theorem Repairs.pair {repaired : List UInt16} (repairs : Repairs rest repaired)
    (isPair : (isHigh high && isLow low) = true) :
    Repairs (high :: low :: rest) (high :: low :: repaired) := by
  rw [Bool.and_eq_true] at isPair
  have notLow : ¬ isLow high = true := not_isLow_of_isHigh isPair.1
  have notHigh : ¬ isHigh low = true := fun isHigh => not_isLow_of_isHigh isHigh isPair.2
  intro i
  match i with
  | 0 =>
      have kept : ¬ LoneAt (high :: low :: rest) 0 := by
        simp [LoneAt, notLow, isPair]
      rw [if_neg kept]
      rfl
  | 1 =>
      have kept : ¬ LoneAt (high :: low :: rest) 1 := by
        simp [LoneAt, notHigh, isPair]
      rw [if_neg kept]
      rfl
  | i + 2 =>
      -- The unit before the next one is low, so it cannot be taken for its partner.
      have later : LoneAt (high :: low :: rest) (i + 2) ↔ LoneAt rest i := by
        rw [loneAt_cons_succ fun first => absurd first (Nat.succ_ne_zero i),
          loneAt_cons_succ fun _ pair => notHigh pair.1]
      simp only [later]
      exact repairs i

/-- A decoded text is written with each lone surrogate replaced. -/
theorem repairs_encode_decode (units : List UInt16) :
    Repairs units (encode (decode units)) := by
  fun_induction decode units with
  | case1 => exact repairs_nil
  | case2 unit =>
      rw [encode_cons, unitsOf_ofUnit]
      exact repairs_nil.single (by simp [LowAt])
  | case3 unit next rest isPair inductionHypothesis =>
      rw [encode_cons, unitsOf_ofPair isPair]
      exact inductionHypothesis.pair isPair
  | case4 unit next rest notPair inductionHypothesis =>
      rw [encode_cons, unitsOf_ofUnit]
      exact inductionHypothesis.single (by simpa using notPair)

/-! ## Characters that are read again -/

/-- A character is written as one unit that is no surrogate, or as a surrogate pair. -/
theorem unitsOf_cases (c : Char) :
    (∃ unit, unitsOf c = [unit] ∧ ¬ (isHigh unit || isLow unit) = true ∧
      ofUnit unit = c) ∨
    ∃ high low, unitsOf c = [high, low] ∧ (isHigh high && isLow low) = true ∧
      ofPair high low = c := by
  have valid : c.toNat.isValidChar := c.valid
  unfold Nat.isValidChar at valid
  by_cases small : c.toNat < 0x10000
  · refine .inl ⟨UInt16.ofNat c.toNat, if_pos small, ?_⟩
    have toNat_eq : (UInt16.ofNat c.toNat).toNat = c.toNat :=
      UInt16.toNat_ofNat_of_lt' small
    have plain : ¬ (isHigh (UInt16.ofNat c.toNat) || isLow (UInt16.ofNat c.toNat)) = true := by
      rw [Bool.or_eq_true, isHigh_iff, isLow_iff, toNat_eq]
      omega
    refine ⟨plain, ?_⟩
    rw [ofUnit, if_neg plain, toNat_eq, Char.ofNat_toNat]
  · refine .inr ⟨_, _, if_neg small, ?_⟩
    have high_eq : (UInt16.ofNat (0xD800 + (c.toNat - 0x10000) / 0x400)).toNat = _ :=
      UInt16.toNat_ofNat_of_lt' (by rw [UInt16.size]; omega)
    have low_eq : (UInt16.ofNat (0xDC00 + (c.toNat - 0x10000) % 0x400)).toNat = _ :=
      UInt16.toNat_ofNat_of_lt' (by rw [UInt16.size]; omega)
    constructor
    · rw [Bool.and_eq_true, isHigh_iff, isLow_iff, high_eq, low_eq]
      omega
    · have code_eq : 0x10000 + (0xD800 + (c.toNat - 0x10000) / 0x400 - 0xD800) * 0x400 +
          (0xDC00 + (c.toNat - 0x10000) % 0x400 - 0xDC00) = c.toNat := by
        omega
      rw [ofPair, high_eq, low_eq, code_eq, Char.ofNat_toNat]

/-- The units of a character decode to it, whatever follows. -/
theorem decode_unitsOf_append (c : Char) (rest : List UInt16) :
    decode (unitsOf c ++ rest) = c :: decode rest := by
  rcases unitsOf_cases c with ⟨unit, isUnit, plain, rfl⟩ | ⟨high, low, isUnits, isPair, rfl⟩
  · rw [isUnit, List.singleton_append, decode_cons_of_not_pair]
    -- A unit that is no surrogate pairs with nothing.
    intro next _ isPair
    rw [Bool.and_eq_true] at isPair
    exact plain (Bool.or_eq_true_iff.mpr (.inl isPair.1))
  · rw [isUnits, List.cons_append, List.singleton_append, decode, if_pos isPair]

/-- Nothing is lost when characters are written as units. -/
theorem decode_encode (cs : List Char) : decode (encode cs) = cs := by
  induction cs with
  | nil => rfl
  | cons c cs inductionHypothesis =>
      rw [encode_cons, decode_unitsOf_append, inductionHypothesis]

/-- Take any units.  Written as units again, the decoded text has as many units and agrees
with them at every place, except that a surrogate that is not part of a pair becomes the
replacement character; so the units come back precisely when there is no lone surrogate.
And whatever text is written as units decodes to its characters. -/
theorem decoding_repairs_lone_surrogates (units : List UInt16) :
    (encode (decode units)).length = units.length ∧
    (∀ i, (encode (decode units))[i]? =
      if LoneAt units i then some 0xFFFD else units[i]?) ∧
    (encode (decode units) = units ↔ ∀ i, ¬ LoneAt units i) ∧
    ∀ s : String, decode (encode s.toList) = s.toList := by
  have repairs := repairs_encode_decode units
  refine ⟨by rw [length_encode, textLength_decode], repairs, ?_,
    fun s => decode_encode s.toList⟩
  constructor
  · intro same i lone
    have replaced := repairs i
    rw [same, if_pos lone] at replaced
    exact lone.ne_replacement replaced
  · intro noneLone
    refine List.ext_getElem? fun i => ?_
    rw [repairs i, if_neg (noneLone i)]

/-- A high surrogate before a pair and a low one after it have lost their partners. -/
example : encode (decode [0xD83C, 0xD83C, 0xDDEE, 0xDC00]) =
    [0xFFFD, 0xD83C, 0xDDEE, 0xFFFD] := by
  decide

end Inkwell.Utf16
