import Inkwell.Proofs.Glyph.Magnification
import Inkwell.Proofs.Glyph.RowArt

/-!
# Lengths that outgrow their words

Bearings and advances are computed in wide words and kept in words of 16 bits.  As long as
the rounded length lies in the range of its word, the word is this length, as it would be
if it were limited to the range.  Beyond that the word has the low bits of the length only:
a great advance becomes a small one, and the bearing of a tall drawing changes its sign.
-/

namespace Inkwell

/-- The word has the low bits of the integer.  It is the integer, limited to the range of
such words, whenever it can hold it. -/
structure Word.Narrows (n : Int) (word : Int16) : Prop where
  low : word.toInt = n.bmod 65536
  limited : FitsInt16 n → word = clampInt16 n

theorem Word.narrows_ofInt (n : Int) : Narrows n (Int16.ofInt n) where
  low := Int16.toInt_ofInt
  limited fits := by
    unfold FitsInt16 at fits
    rw [clampInt16, Int.min_eq_right fits.2, Int.max_eq_right fits.1]

theorem Word.clampUInt16_eq_ofNat {n : Int} (fits : n ≤ 65535) :
    clampUInt16 n = UInt16.ofNat n.toNat := by
  rw [clampUInt16, Nat.min_eq_right (by omega)]

/-- The bottom row of row art stands on the baseline, as far as the word for the bearing
tells. -/
theorem Drawing.narrows_bearingY_ofRows {rows : List String} {advance : UInt16} {d : Drawing}
    (isDrawing : ofRows rows advance = .ok (.ok d)) :
    Word.Narrows rows.length d.bearingY := by
  obtain ⟨_, bytes, _, rfl⟩ := exists_readRows_of_ofRows isDrawing
  -- The number of rows has the same low bits as the word that counts them.
  have sameLow : Int16.ofInt (UInt32.ofNat rows.length).toNat = Int16.ofInt rows.length := by
    rw [← Int16.toInt_inj, Int16.toInt_ofInt, Int16.toInt_ofInt, UInt32.toNat_ofNat']
    simp only [Int.bmod_def, Int16.size]
    omega
  rw [inked, length_characters, sameLow]
  exact Word.narrows_ofInt _

/-- The word for a bearing has room for precisely 32767 rows. -/
theorem Word.Narrows.toInt_eq_length_iff {length : Nat} {word : Int16}
    (narrows : Narrows length word) : word.toInt = length ↔ length ≤ 32767 := by
  constructor
  · intro equal
    have upper := Int16.toInt_lt word
    omega
  · intro bound
    rw [narrows.low, Int.bmod_eq_of_le] <;> omega

namespace Sheet

variable {s : Sheet} {d : Drawing} {id size : UInt16}

theorem rounds_bearing (s : Sheet) (bearing : Int16) (size : UInt16) :
    Rounds (bearing.toInt * size.toNat) s.design.toNat
      (s.scaled (Int32.ofInt bearing.toInt) size) := by
  have isRounded := s.rounds_scaled (Int32.ofInt bearing.toInt) size
  rw [toInt_ofInt_bearing] at isRounded
  exact isRounded

theorem rounds_advance (s : Sheet) (d : Drawing) (size : UInt16) :
    Rounds (d.advance.toNat * size.toNat) s.design.toNat
      (s.scaled (Int32.ofNat d.advance.toNat) size) := by
  have isRounded := s.rounds_scaled (Int32.ofNat d.advance.toNat) size
  rw [toInt_ofNat_advance] at isRounded
  exact isRounded

/-- The bearings of a drawing that is shown are the scaled ones, also at the design
size. -/
theorem bearings_shown (s : Sheet) (inked : ¬ (d.width = 0 ∨ d.height = 0))
    (size : UInt16) :
    (s.shown d size).bearingX =
        Int16.ofInt (s.scaled (Int32.ofInt d.bearingX.toInt) size) ∧
      (s.shown d size).bearingY =
        Int16.ofInt (s.scaled (Int32.ofInt d.bearingY.toInt) size) := by
  rw [shown, if_neg inked]
  split
  · rename_i designed
    have once : size.toNat = 1 * s.design.toNat := by
      rw [designed, Nat.one_mul]
    rw [scaled_bearing_of_multiple once, scaled_bearing_of_multiple once, Int.natCast_one,
      Int.one_mul, Int.one_mul, Int16.ofInt_toInt, Int16.ofInt_toInt]
    exact ⟨rfl, rfl⟩
  · exact ⟨rfl, rfl⟩

/-- The advance of a glyph is its rounded advance, of which the word keeps the low bits. -/
theorem toNat_advance (stored : s.drawings[id.toNat]? = some d) {advance : UInt16}
    (returns : s.advance id size = .ok advance) {rounded : Int}
    (isRounded : Rounds (d.advance.toNat * size.toNat) s.design.toNat rounded) :
    0 ≤ rounded ∧ advance = UInt16.ofNat rounded.toNat := by
  have nonneg := isRounded.nonneg s.design_pos
    (Int.mul_nonneg (Int.natCast_nonneg _) (Int.natCast_nonneg _))
  obtain ⟨_, rfl⟩ := (advance_eq_ok_iff stored).mp returns
  rw [scaledAdvance, (s.rounds_advance d size).unique isRounded s.design_pos,
    Int.max_eq_left nonneg]
  exact ⟨nonneg, rfl⟩

/-- Take any row art that is accepted, and any drawing of any sheet.  The bearing of the
art is its number of rows precisely if there are at most 32767.  Whenever the advance of
the drawing at a size is returned, and whenever the mask of a drawing with pixels is, the
advance and the bearings are the exact ones, rounded to the nearest integer with halves
away from zero; each has the low bits of the rounded value and is this value, limited to
the range of the word, if it lies there.  An advance that does is not smaller than the
advances at smaller sizes. -/
theorem metrics_keep_low_bits (rows : List String) (rowAdvance : UInt16) (s : Sheet)
    (id : UInt16) (d : Drawing) (stored : s.drawings[id.toNat]? = some d) :
    (∀ art, Drawing.ofRows rows rowAdvance = .ok (.ok art) →
      Word.Narrows rows.length art.bearingY ∧
        (art.bearingY.toInt = rows.length ↔ rows.length ≤ 32767)) ∧
    (∀ size advance, s.advance id size = .ok advance →
      ∃ rounded, Rounds (d.advance.toNat * size.toNat) s.design.toNat rounded ∧
        (advance.toNat : Int) = rounded % 65536 ∧
        (rounded ≤ 65535 → advance = Word.clampUInt16 rounded)) ∧
    (¬ (d.width = 0 ∨ d.height = 0) →
      ∀ size mask, s.rasterize id size = .ok (.ok mask) →
        ∃ x y, Rounds (d.bearingX.toInt * size.toNat) s.design.toNat x ∧
          Rounds (d.bearingY.toInt * size.toNat) s.design.toNat y ∧
          Word.Narrows x mask.bearingX ∧ Word.Narrows y mask.bearingY) ∧
    (∀ small large before after rounded, small ≤ large →
      s.advance id small = .ok before → s.advance id large = .ok after →
      Rounds (d.advance.toNat * large.toNat) s.design.toNat rounded →
      rounded ≤ 65535 → before ≤ after) := by
  refine ⟨?_, ?_, ?_, ?_⟩
  · intro art isArt
    have narrows := Drawing.narrows_bearingY_ofRows isArt
    exact ⟨narrows, narrows.toInt_eq_length_iff⟩
  · intro size advance returns
    have isRounded := s.rounds_advance d size
    obtain ⟨nonneg, rfl⟩ := toNat_advance stored returns isRounded
    refine ⟨_, isRounded, ?_, fun fits => (Word.clampUInt16_eq_ofNat fits).symm⟩
    rw [UInt16.toNat_ofNat', Int.natCast_mod, Int.toNat_of_nonneg nonneg]
    rfl
  · intro inked size mask returns
    obtain ⟨_, isShown⟩ := (rasterize_eq_ok_iff stored).mp returns
    cases isShown
    obtain ⟨isX, isY⟩ := s.bearings_shown inked size
    rw [isX, isY]
    exact ⟨_, _, s.rounds_bearing _ _, s.rounds_bearing _ _, Word.narrows_ofInt _,
      Word.narrows_ofInt _⟩
  · intro small large before after rounded le isBefore isAfter isRounded fits
    have isSmaller := s.rounds_advance d small
    have ordered := isSmaller.le_of_le isRounded s.design_pos
      (Int.mul_le_mul_of_nonneg_left (Int.ofNat_le.mpr le) (Int.natCast_nonneg _))
    obtain ⟨nonneg, rfl⟩ := toNat_advance stored isBefore isSmaller
    obtain ⟨_, rfl⟩ := toNat_advance stored isAfter isRounded
    rw [UInt16.le_iff_toNat_le, UInt16.toNat_ofNat_of_lt' (by rw [UInt16.size]; omega),
      UInt16.toNat_ofNat_of_lt' (by rw [UInt16.size]; omega)]
    omega

/-- A dash with the greatest advance and the greatest bearing. -/
def wideDash : Drawing := ⟨2, 1, 32767, 1, 65535, #[255, 255]⟩

/-- A sheet with the dash as its only drawing, at the smallest design size. -/
def wideSheet : Sheet := { Sheet.create "wide" 1 ⟨1, 0⟩ with drawings := #[wideDash] }

/-- At twice its design size the dash has an advance and a bearing with the low bits of the
exact ones. -/
theorem metrics_keep_low_bits_wide :
    (∃ d, Drawing.ofRows ["#.", ".#"] 3 = .ok (.ok d) ∧ d.bearingY.toInt = 2) ∧
    wideSheet.advance 0 2 = .ok 65534 ∧
    (∃ rounded, Rounds 131070 1 rounded ∧ 65534 = rounded % 65536) ∧
    (∃ mask x y, wideSheet.rasterize 0 2 = .ok (.ok mask) ∧ Rounds 65534 1 x ∧
      Rounds 2 1 y ∧ Word.Narrows x mask.bearingX ∧ Word.Narrows y mask.bearingY) ∧
    wideSheet.advance 0 0 = .ok 0 ∧ wideSheet.advance 0 1 = .ok 65535 ∧
      (0 : UInt16) ≤ 65535 := by
  have stored : wideSheet.drawings[(0 : UInt16).toNat]? = some wideDash := rfl
  obtain ⟨stands, advances, bears, grows⟩ :=
    metrics_keep_low_bits ["#.", ".#"] 3 wideSheet 0 wideDash stored
  have drawn : Drawing.ofRows ["#.", ".#"] 3 =
      .ok (.ok ⟨2, 2, 0, 2, 3, #[255, 0, 0, 255]⟩) := rfl
  obtain ⟨rounded, isRounded, low, _⟩ := advances 2 65534 rfl
  have redrawable : wideSheet.Redrawable wideDash 2 :=
    ⟨by decide, by decide, by decide, by decide, by decide⟩
  have sound : wideDash.Sound := Drawing.Filled.sound rfl (by decide)
  have returns := (rasterize_eq_ok_iff_of_sound stored sound).mpr
    ⟨.inr (.inr (.inr redrawable)), rfl⟩
  obtain ⟨x, y, isX, isY, narrowsX, narrowsY⟩ := bears (by decide) 2 _ returns
  exact ⟨⟨_, drawn, (stands _ drawn).2.mpr (by decide)⟩, rfl,
    ⟨rounded, isRounded, low⟩, ⟨_, x, y, returns, isX, isY, narrowsX, narrowsY⟩, rfl, rfl,
    grows 0 1 0 65535 65535 (by decide) rfl rfl
      (Rounds.of_mul 65535 (show 0 < 1 by decide)) (by decide)⟩

/-- The advance of the dash decreases from its design size to twice this size, where it
should be limited to 65535. -/
theorem advance_wideSheet :
    wideSheet.advance 0 1 = .ok 65535 ∧ wideSheet.advance 0 2 = .ok 65534 ∧
      Rounds (65535 * 2) 1 131070 ∧ Word.clampUInt16 131070 = 65535 :=
  ⟨rfl, rfl, Rounds.of_mul 131070 (show 0 < 1 by decide), by decide⟩

end Sheet

end Inkwell
