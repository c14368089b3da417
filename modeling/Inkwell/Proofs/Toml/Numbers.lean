import Inkwell.Toml.Number
import Mathlib.Data.List.Basic

/-!
# Written numbers are read back

The decimal digits of a number, with the end of a value after them, are read as this
number: they are neither a date nor a float, and the number fits a signed word of 64
bits if it is small enough.
-/

namespace Inkwell.Toml

/-- The text goes on as after a value: with a line break, a comma or a closing
bracket. -/
def Ends (rest : List Char) : Prop :=
  ∃ c more, rest = c :: more ∧ c ∈ ['\n', ',', ']']

variable {ds rest : List Char} {c : Char}

/-! ## Digits -/

theorem hexValue?_of_isDigit (digit : c.isDigit = true) :
    hexValue? c = some (c.toNat - '0'.toNat) := by
  obtain ⟨lower, upper⟩ := Char.isDigit_iff_toNat.mp digit
  have inRange : '0' ≤ c ∧ c ≤ '9' := ⟨lower, upper⟩
  rw [hexValue?, if_pos inRange]

theorem isDigitOf_of_isDigit (digit : c.isDigit = true) : isDigitOf 10 c = true := by
  obtain ⟨_, upper⟩ := Char.isDigit_iff_toNat.mp digit
  rw [isDigitOf, hexValue?_of_isDigit digit]
  have : '0'.toNat = 48 := rfl
  have : '9'.toNat = 57 := rfl
  simp
  omega

theorem isDecimal_of_isDigit (digit : c.isDigit = true) : isDecimal c = true := by
  obtain ⟨lower, upper⟩ := Char.isDigit_iff_toNat.mp digit
  have inRange : '0' ≤ c ∧ c ≤ '9' := ⟨lower, upper⟩
  simpa [isDecimal] using inRange

theorem digitsValue_eq_ofDigitChars (digits : ∀ c ∈ ds, c.isDigit = true) :
    digitsValue 10 ds = Nat.ofDigitChars 10 ds 0 := by
  refine List.foldl_ext _ _ _ fun n c member => ?_
  rw [hexValue?_of_isDigit (digits c member), Option.getD_some, Nat.mul_comm]

theorem isDigit_of_mem_number {n : Nat} (member : c ∈ Nat.toDigits 10 n) :
    c.isDigit = true :=
  Nat.isDigit_of_mem_toDigits (by decide) (by decide) member

/-- The digits of a number stand for it. -/
theorem digitsValue_toDigits (n : Nat) : digitsValue 10 (Nat.toDigits 10 n) = n := by
  rw [digitsValue_eq_ofDigitChars fun _ => isDigit_of_mem_number]
  exact Nat.ofDigitChars_toDigits (by decide) (by decide)

/-- Only the number zero has digits that begin with a zero. -/
theorem toDigits_eq_of_head_zero {n : Nat} (zero : (Nat.toDigits 10 n).head? = some '0') :
    Nat.toDigits 10 n = ['0'] := by
  induction n using Nat.strongRecOn with
  | ind n inductionHypothesis =>
      by_cases small : n < 10
      · rw [Nat.toDigits_of_lt_base small] at zero ⊢
        rw [Option.some.inj zero]
      · rw [Nat.toDigits_of_base_le (by decide) (by omega), List.head?_append,
          Option.or_of_isSome (List.isSome_head?.mpr Nat.toDigits_ne_nil)] at zero
        have front := inductionHypothesis (n / 10) (by omega) zero
        have value := digitsValue_toDigits (n / 10)
        rw [front] at value
        have isZero : n / 10 = 0 := value.symm
        omega

/-! ## What a number is not -/

section

variable (digits : ∀ c ∈ ds, c.isDigit = true) (ends : Ends rest)

include digits ends

/-- Only digits and the end of the value are to be found. -/
theorem expect?_eq_none (other : c.isDigit = false ∧ c ∉ ['\n', ',', ']']) :
    expect? c (ds ++ rest) = none := by
  cases ds with
  | nil =>
      obtain ⟨last, more, rfl, member⟩ := ends
      have different : last ≠ c := fun same => other.2 (same ▸ member)
      exact if_neg different
  | cons d ds =>
      have different : d ≠ c := by
        rintro rfl
        simp [digits d List.mem_cons_self] at other
      exact if_neg different

theorem takeWhile_isDecimal : (ds ++ rest).takeWhile isDecimal = ds := by
  obtain ⟨last, more, rfl, member⟩ := ends
  have notDecimal : isDecimal last = false := by
    simp only [List.mem_cons, List.not_mem_nil, or_false] at member
    rcases member with rfl | rfl | rfl <;> rfl
  rw [List.takeWhile_append_of_pos fun c member => isDecimal_of_isDigit (digits c member),
    List.takeWhile_cons_of_neg (by simp [notDecimal]), List.append_nil]

/-- After a number of fixed length, there is nothing but more digits. -/
theorem expect?_of_fixedNumber? {count n : Nat} {after : List Char}
    (found : fixedNumber? count (ds ++ rest) = some (n, after))
    (other : c.isDigit = false ∧ c ∉ ['\n', ',', ']']) : expect? c after = none := by
  rw [fixedNumber?, takeWhile_isDecimal digits ends] at found
  split at found
  · cases found
  · rename_i enough
    cases found
    rw [List.drop_append_of_le_length (by omega)]
    exact expect?_eq_none (fun c member => digits c (List.mem_of_mem_drop member)) ends
      other

theorem datetime?_eq_none : datetime? (ds ++ rest) = none := by
  have notDate : date? (ds ++ rest) = none := by
    rw [date?]
    cases year : fixedNumber? 4 (ds ++ rest) with
    | none => rfl
    | some found =>
        have noDash := expect?_of_fixedNumber? (c := '-') digits ends year (by decide)
        simp [noDash]
  have notTime : time? (ds ++ rest) = none := by
    rw [time?, twoDigits?]
    cases hour : fixedNumber? 2 (ds ++ rest) with
    | none => rfl
    | some found =>
        have noColon := expect?_of_fixedNumber? (c := ':') digits ends hour (by decide)
        dsimp only
        split
        · simp [noColon]
        · rfl
  rw [datetime?, notDate, notTime]
  rfl

/-! ## What a number is -/

theorem digitRun?_digits : digitRun? 10 (ds ++ rest) = some (ds, rest) := by
  induction ds with
  | nil =>
      obtain ⟨last, more, rfl, member⟩ := ends
      simp only [List.mem_cons, List.not_mem_nil, or_false] at member
      rw [List.nil_append, digitRun?.eq_def]
      rcases member with rfl | rfl | rfl <;> rfl
  | cons d ds inductionHypothesis =>
      have digit := isDigitOf_of_isDigit (digits d List.mem_cons_self)
      have others := inductionHypothesis fun c member =>
        digits c (List.mem_cons_of_mem _ member)
      rw [List.cons_append, digitRun?.eq_def]
      simp [digit, others]

/-- Digits that do not begin with a zero, or are nothing but one, are a decimal
integer. -/
theorem decimal?_digits (nonempty : ds ≠ []) (zero : ds.head? = some '0' → ds = ['0']) :
    decimal? (ds ++ rest) = some (ds, rest) := by
  obtain ⟨d, others, rfl⟩ := List.exists_cons_of_ne_nil nonempty
  by_cases isZero : d = '0'
  · rw [zero (congrArg some isZero)]
    rfl
  · have digit := isDigitOf_of_isDigit (digits d List.mem_cons_self)
    have run := digitRun?_digits (fun c member => digits c (List.mem_cons_of_mem _ member))
      ends
    simp [decimal?, digits?, isZero, digit, run]

omit digits in
/-- A value that ends has neither an exponent nor a fraction. -/
theorem exponent?_and_fraction?_eq_none : exponent? rest = none ∧ fraction? rest = none := by
  obtain ⟨last, more, rfl, member⟩ := ends
  simp only [List.mem_cons, List.not_mem_nil, or_false] at member
  rcases member with rfl | rfl | rfl <;> exact ⟨rfl, rfl⟩

end

theorem sign_digit (digit : c.isDigit = true) (more : List Char) :
    sign (c :: more) = (false, c :: more) := by
  have notMinus : c ≠ '-' := by
    rintro rfl
    cases digit
  have notPlus : c ≠ '+' := by
    rintro rfl
    cases digit
  simp [sign, notMinus, notPlus]

/-- A number below the limit of a signed word is read from its digits. -/
theorem number?_toDigits (ends : Ends rest) {n : Nat} (fits : n < 9223372036854775808) :
    number? (Nat.toDigits 10 n ++ rest) = some (.integer n, rest) := by
  have digits (c : Char) (member : c ∈ Nat.toDigits 10 n) : c.isDigit = true :=
    isDigit_of_mem_number member
  have whole := decimal?_digits digits ends Nat.toDigits_ne_nil toDigits_eq_of_head_zero
  have notDate := datetime?_eq_none digits ends
  have value := digitsValue_toDigits n
  obtain ⟨noExponent, noFraction⟩ := exponent?_and_fraction?_eq_none ends
  obtain ⟨d, others, isDigits⟩ : ∃ d others, Nat.toDigits 10 n = d :: others :=
    List.exists_cons_of_ne_nil Nat.toDigits_ne_nil
  have digit : d.isDigit = true := digits d (isDigits ▸ List.mem_cons_self)
  have unsigned : sign (Nat.toDigits 10 n ++ rest) =
      (false, Nat.toDigits 10 n ++ rest) := by
    rw [isDigits]
    exact sign_digit digit _
  have notSpecial : specialFloat? (Nat.toDigits 10 n ++ rest) = none := by
    rw [specialFloat?, unsigned, isDigits]
    split
    · simp_all
    · simp_all
    · rfl
  have notFloat : digitFloat? (Nat.toDigits 10 n ++ rest) = none := by
    simp [digitFloat?, unsigned, whole, noExponent, noFraction]
  have notBased : base? (Nat.toDigits 10 n ++ rest) = none := by
    by_cases isZero : d = '0'
    · rw [toDigits_eq_of_head_zero (by rw [isDigits, isZero]; rfl)]
      obtain ⟨last, more, rfl, member⟩ := ends
      simp only [List.mem_cons, List.not_mem_nil, or_false] at member
      rcases member with rfl | rfl | rfl <;> rfl
    · rw [isDigits]
      unfold base?
      split <;> simp_all
  have isInteger : integer? (Nat.toDigits 10 n ++ rest) = some (.integer n, rest) := by
    simp [integer?, notBased, unsigned, whole, value, wordValue?, fits]
  simp [number?, notDate, float?, notFloat, notSpecial, isInteger]

end Inkwell.Toml
