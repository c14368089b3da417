/-!
# Machine words

Pixel coordinates, glyph ids and font sizes are machine words.  Every
computation on them is written as exact arithmetic on `Int` or `Nat`, and one
of three functions then brings the exact result back to a word:

* `clamp…` limits it to the nearest representable value;
* `exact…` refuses it with a `Fault` when it does not fit;
* the conversions of core (`Int16.ofInt`, `UInt16.ofNat`, …) keep its low bits.
-/

namespace Inkwell

/-- The arithmetic operations that are refused when their exact result does
not fit the word they are stored in. -/
inductive Arith where
  | add
  | sub
  | mul
  | neg
  deriving DecidableEq

/-- Why a computation was abandoned part-way. -/
inductive Fault where
  /-- The exact result of an operation does not fit its word. -/
  | overflow (operation : Arith)
  /-- There is no entry at an index of an array of the given size. -/
  | outOfBounds (index size : Nat)
  /-- A glyph could not be drawn by the caller that was asked for it. -/
  | renderFailed
  deriving DecidableEq

/-- The text shown for a fault. -/
def Fault.message : Fault → String
  | .overflow .add => "attempt to add with overflow"
  | .overflow .sub => "attempt to subtract with overflow"
  | .overflow .mul => "attempt to multiply with overflow"
  | .overflow .neg => "attempt to negate with overflow"
  | .outOfBounds index size =>
      s!"index out of bounds: the len is {size} but the index is {index}"
  | .renderFailed => "render failed"

/-- A computation that may be abandoned with a fault. -/
abbrev Checked (α : Type) := Except Fault α

/-- A computation of two parts returns precisely when both do. -/
theorem Checked.bind_eq_ok_iff {α β : Type} {first : Checked α}
    {next : α → Checked β} {result : β} :
    (first >>= next) = .ok result ↔
      ∃ value, first = .ok value ∧ next value = .ok result := by
  cases first with
  | error fault => simp [bind, Except.bind]
  | ok value => simp [bind, Except.bind]

namespace Word

/-- The integer is the value of a signed 16-bit word. -/
def FitsInt16 (n : Int) : Prop := -32768 ≤ n ∧ n ≤ 32767

/-- The integer is the value of a signed 32-bit word. -/
def FitsInt32 (n : Int) : Prop := -2147483648 ≤ n ∧ n ≤ 2147483647

/-- The integer is the value of a signed 64-bit word. -/
def FitsInt64 (n : Int) : Prop :=
  -9223372036854775808 ≤ n ∧ n ≤ 9223372036854775807

instance (n : Int) : Decidable (FitsInt16 n) :=
  inferInstanceAs (Decidable (_ ∧ _))

instance (n : Int) : Decidable (FitsInt32 n) :=
  inferInstanceAs (Decidable (_ ∧ _))

instance (n : Int) : Decidable (FitsInt64 n) :=
  inferInstanceAs (Decidable (_ ∧ _))

/-- The signed 16-bit word nearest to `n`. -/
def clampInt16 (n : Int) : Int16 :=
  Int16.ofInt (max (-32768) (min 32767 n))

/-- The signed 32-bit word nearest to `n`. -/
def clampInt32 (n : Int) : Int32 :=
  Int32.ofInt (max (-2147483648) (min 2147483647 n))

/-- The unsigned 16-bit word nearest to `n`. -/
def clampUInt16 (n : Int) : UInt16 :=
  UInt16.ofNat (min 65535 n.toNat)

/-- The signed 32-bit word equal to `n`, refused when there is none. -/
def exactInt32 (operation : Arith) (n : Int) : Checked Int32 :=
  if FitsInt32 n then .ok (Int32.ofInt n) else .error (.overflow operation)

/-- The integer `n` itself, refused when no signed 64-bit word equals it. -/
def exactInt64 (operation : Arith) (n : Int) : Checked Int :=
  if FitsInt64 n then .ok n else .error (.overflow operation)

/-- The byte equal to `n`, refused when there is none. -/
def exactUInt8 (operation : Arith) (n : Nat) : Checked UInt8 :=
  if n < 256 then .ok (UInt8.ofNat n) else .error (.overflow operation)

/-- The unsigned 16-bit word equal to `n`, refused when there is none. -/
def exactUInt16 (operation : Arith) (n : Nat) : Checked UInt16 :=
  if n < 65536 then .ok (UInt16.ofNat n) else .error (.overflow operation)

/-- The unsigned 32-bit word equal to `n`, refused when there is none. -/
def exactUInt32 (operation : Arith) (n : Nat) : Checked UInt32 :=
  if n < 4294967296 then .ok (UInt32.ofNat n) else .error (.overflow operation)

/-- What fits is the value of the word made of it. -/
theorem toInt_ofInt_of_fits {n : Int} (fits : FitsInt32 n) :
    (Int32.ofInt n).toInt = n := by
  unfold FitsInt32 at fits
  rw [Int32.toInt_ofInt_of_le] <;> omega

/-- What fits is the value of the 16-bit word made of it. -/
theorem toInt_ofInt_of_fitsInt16 {n : Int} (fits : FitsInt16 n) :
    (Int16.ofInt n).toInt = n := by
  unfold FitsInt16 at fits
  rw [Int16.toInt_ofInt_of_le] <;> omega

/-- Clamping to 16 bits keeps every value that fits. -/
theorem toInt_clampInt16_of_fits {n : Int} (fits : FitsInt16 n) :
    (clampInt16 n).toInt = n := by
  unfold FitsInt16 at fits
  rw [clampInt16, Int16.toInt_ofInt_of_le] <;> omega

/-- Clamping keeps every value that fits. -/
theorem toInt_clampInt32_of_fits {n : Int} (fits : FitsInt32 n) :
    (clampInt32 n).toInt = n := by
  unfold FitsInt32 at fits
  rw [clampInt32, Int32.toInt_ofInt_of_le] <;> omega

/-- The value of a clamped integer. -/
theorem toInt_clampInt32 (n : Int) :
    (clampInt32 n).toInt = max (-2147483648) (min 2147483647 n) := by
  rw [clampInt32, Int32.toInt_ofInt_of_le] <;> omega

/-- Every signed 32-bit word fits its own range. -/
theorem fitsInt32_toInt (word : Int32) : FitsInt32 word.toInt :=
  ⟨Int32.le_toInt word, Int.lt_add_one_iff.mp (Int32.toInt_lt word)⟩

/-- A word stays below whatever is limited, since it fits itself. -/
theorem toInt_le_toInt_clampInt32 {word : Int32} {n : Int} (le : word.toInt ≤ n) :
    word.toInt ≤ (clampInt32 n).toInt := by
  have fits := fitsInt32_toInt word
  unfold FitsInt32 at fits
  rw [toInt_clampInt32]
  omega

/-- The value of a word is not limited. -/
theorem clampInt32_toInt (word : Int32) : clampInt32 word.toInt = word :=
  Int32.toInt_inj.mp (toInt_clampInt32_of_fits (fitsInt32_toInt word))

/-- An exact computation returns precisely when its result fits. -/
theorem exactInt32_eq_ok_iff {operation : Arith} {n : Int} {word : Int32} :
    exactInt32 operation n = .ok word ↔ word.toInt = n := by
  unfold exactInt32
  split
  · rename_i fits
    have value : (Int32.ofInt n).toInt = n := toInt_ofInt_of_fits fits
    constructor
    · intro equal
      cases equal
      exact value
    · intro equal
      rw [← Int32.toInt_inj.mp (value.trans equal.symm)]
  · rename_i misfit
    constructor
    · intro equal
      cases equal
    · intro equal
      exact absurd (equal ▸ fitsInt32_toInt word) misfit

/-- An exact 64-bit computation returns precisely when its result fits. -/
theorem exactInt64_eq_ok_iff {operation : Arith} {n m : Int} :
    exactInt64 operation n = .ok m ↔ FitsInt64 n ∧ m = n := by
  unfold exactInt64
  split
  · rename_i fits
    simp [fits, eq_comm]
  · rename_i misfit
    simp [misfit]

/-- An exact unsigned computation returns precisely when its result fits. -/
theorem exactUInt32_eq_ok_iff {operation : Arith} {n : Nat} {word : UInt32} :
    exactUInt32 operation n = .ok word ↔ word.toNat = n := by
  unfold exactUInt32
  split
  · rename_i fits
    have value : (UInt32.ofNat n).toNat = n := UInt32.toNat_ofNat_of_lt fits
    constructor
    · intro equal
      cases equal
      exact value
    · intro equal
      rw [← UInt32.toNat_inj.mp (value.trans equal.symm)]
  · rename_i misfit
    constructor
    · intro equal
      cases equal
    · intro equal
      exact absurd (equal ▸ UInt32.toNat_lt word) misfit

end Word

end Inkwell
