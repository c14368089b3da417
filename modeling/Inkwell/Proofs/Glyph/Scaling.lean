import Inkwell.Glyph.Sheet
import Inkwell.Proofs.Glyph.Grid

/-!
# When glyphs can be scaled

A length is multiplied by the size before it is divided by the design size, so that
the words of the computation have to hold more than the result.  For every
computation on sheets there is a condition on exact integers that holds precisely when
the computation returns.
-/

namespace Inkwell

/-- Quotients of what fits do as well. -/
theorem Word.fitsInt32_tdiv {n : Int} (fits : FitsInt32 n) (d : Nat) :
    FitsInt32 (n.tdiv d) := by
  unfold FitsInt32 at fits ⊢
  have shrinks := Int.natAbs_tdiv_le_natAbs n d
  rcases Int.le_total 0 n with nonneg | nonpos
  · have nonneg := Int.tdiv_nonneg nonneg (Int.natCast_nonneg d)
    omega
  · have nonneg := Int.tdiv_nonneg (Int.neg_nonneg_of_nonpos nonpos)
      (Int.natCast_nonneg d)
    rw [Int.neg_tdiv] at nonneg
    omega

/-! ## Bytes of a drawing -/

theorem Sheet.nearest_lt {source target i : Nat} (positive : 0 < source)
    (bound : i < target) : nearest source target i < source := by
  rw [nearest, Nat.div_lt_iff_lt_mul (Nat.lt_of_le_of_lt (Nat.zero_le i) bound),
    Nat.mul_comm source target]
  exact Nat.mul_lt_mul_of_pos_right bound positive

namespace Drawing

/-- A word can count the bytes of the drawing. -/
def Countable (d : Drawing) : Prop := d.width.toNat * d.height.toNat < 4294967296

instance (d : Drawing) : Decidable d.Countable := inferInstanceAs (Decidable (_ < _))

/-- A word can count the pixels of the drawing, and there is a byte for each of them. -/
structure Sound (d : Drawing) : Prop where
  countable : d.Countable
  covered : d.width.toNat * d.height.toNat ≤ d.coverage.size

/-- The drawing has one byte for each pixel. -/
def Filled (d : Drawing) : Prop := d.coverage.size = d.width.toNat * d.height.toNat

/-- The drawing has a byte at a place, and a word can hold the place. -/
def HasByte (d : Drawing) (place : Nat) : Prop :=
  place < 4294967296 ∧ place < d.coverage.size

/-- All bytes that are read while the drawing is redrawn with the given extents are there,
and words can hold their places. -/
def Provides (d : Drawing) (width height : Nat) : Prop :=
  ∀ x < width, ∀ y < height,
    d.HasByte (Sheet.nearest d.height.toNat height y * d.width.toNat +
      Sheet.nearest d.width.toNat width x)

variable {d : Drawing}

theorem Filled.sound (filled : d.Filled) (countable : d.Countable) : d.Sound :=
  ⟨countable, Nat.le_of_eq filled.symm⟩

/-- However a sound drawing is redrawn, only bytes that it has are read. -/
theorem Sound.provides (sound : d.Sound) (width_pos : 0 < d.width.toNat)
    (height_pos : 0 < d.height.toNat) (width height : Nat) : d.Provides width height := by
  intro x inRow y inColumn
  have bound := place_lt_area (Sheet.nearest_lt width_pos inRow)
    (Sheet.nearest_lt height_pos inColumn)
  exact ⟨Nat.lt_trans bound sound.countable, Nat.lt_of_lt_of_le bound sound.covered⟩

end Drawing

namespace Sheet

variable {s : Sheet} {value : Int32} {size : UInt16}

/-! ## Lengths -/

/-- A length times a size, moved away from zero by half the design size. -/
def moved (s : Sheet) (value : Int32) (size : UInt16) : Int :=
  if 0 ≤ value.toInt * size.toNat then
    value.toInt * size.toNat + (s.design.toNat : Int) / 2
  else
    value.toInt * size.toNat - (s.design.toNat : Int) / 2

/-- Words can hold what a length is on its way to a size. -/
def Scalable (s : Sheet) (value : Int32) (size : UInt16) : Prop :=
  Word.FitsInt32 (s.moved value size)

instance : Decidable (s.Scalable value size) :=
  inferInstanceAs (Decidable (Word.FitsInt32 _))

/-- A length at a size, rounded to the nearest integer. -/
def scaled (s : Sheet) (value : Int32) (size : UInt16) : Int :=
  (s.moved value size).tdiv s.design.toNat

theorem Scalable.fits_scaled (scalable : s.Scalable value size) :
    Word.FitsInt32 (s.scaled value size) :=
  Word.fitsInt32_tdiv scalable _

/-- Both directions of moving are one computation. -/
theorem scale_eq (s : Sheet) (value : Int32) (size : UInt16) :
    s.scale value size = (do
      let product ← Word.exactInt32 .mul (value.toInt * size.toNat)
      let half ← Word.exactInt32 (if 0 ≤ product.toInt then .add else .sub)
        (if 0 ≤ product.toInt then product.toInt + (s.design.toNat : Int) / 2
          else product.toInt - (s.design.toNat : Int) / 2)
      pure (Int32.ofInt (half.toInt.tdiv s.design.toNat))) := by
  simp only [scale]
  refine bind_congr fun product => ?_
  split <;> rfl

/-- Scaling returns precisely when the length is scalable: the product fits whenever
it fits after it was moved. -/
theorem scale_eq_ok_iff {result : Int32} :
    s.scale value size = .ok result ↔
      s.Scalable value size ∧ result.toInt = s.scaled value size := by
  simp only [scale_eq, Checked.bind_eq_ok_iff, Word.exactInt32_eq_ok_iff]
  constructor
  · rintro ⟨product, isProduct, half, isHalf, isResult⟩
    have half_eq : half.toInt = s.moved value size := by
      rw [isHalf, isProduct]
      rfl
    have scalable : s.Scalable value size := by
      rw [Scalable, ← half_eq]
      exact Word.fitsInt32_toInt half
    cases isResult
    rw [half_eq]
    exact ⟨scalable, Word.toInt_ofInt_of_fits scalable.fits_scaled⟩
  · rintro ⟨scalable, isResult⟩
    have productFits : Word.FitsInt32 (value.toInt * size.toNat) := by
      unfold Scalable moved Word.FitsInt32 at scalable
      unfold Word.FitsInt32
      split at scalable <;> omega
    have isProduct := Word.toInt_ofInt_of_fits productFits
    have isMoved := Word.toInt_ofInt_of_fits scalable
    refine ⟨_, isProduct, Int32.ofInt (s.moved value size), ?_, ?_⟩
    · rw [isMoved, isProduct]
      rfl
    · rw [isMoved]
      exact congrArg Except.ok (Int32.toInt_inj.mp
        ((Word.toInt_ofInt_of_fits scalable.fits_scaled).trans isResult.symm))

theorem scale_returns_iff :
    (∃ result, s.scale value size = .ok result) ↔ s.Scalable value size := by
  simp only [scale_eq_ok_iff]
  constructor
  · rintro ⟨_, scalable, _⟩
    exact scalable
  · intro scalable
    exact ⟨_, scalable, Word.toInt_ofInt_of_fits scalable.fits_scaled⟩

/-- Lengths are scaled in words that can hold every bearing. -/
theorem toInt_ofInt_bearing (bearing : Int16) :
    (Int32.ofInt bearing.toInt).toInt = bearing.toInt := by
  have lower := Int16.le_toInt bearing
  have upper := Int16.toInt_lt bearing
  exact Word.toInt_ofInt_of_fits ⟨by omega, by omega⟩

/-- Lengths are scaled in words that can hold every advance. -/
theorem toInt_ofNat_advance (d : Drawing) :
    (Int32.ofNat d.advance.toNat).toInt = d.advance.toNat := by
  have advance_lt := d.advance.toNat_lt
  exact Int32.toInt_ofNat_of_lt (by omega)

/-- A length is scalable when the product and half the design size do not outgrow the
words on the side of zero where the length lies. -/
theorem scalable_iff :
    s.Scalable value size ↔
      value.toInt.natAbs * size.toNat + s.design.toNat / 2 ≤
        if 0 ≤ value.toInt then 2147483647 else 2147483648 := by
  have design_lt := UInt16.toNat_lt s.design
  have magnitude : (value.toInt * size.toNat).natAbs = value.toInt.natAbs * size.toNat := by
    rw [Int.natAbs_mul, Int.natAbs_natCast]
  rw [Scalable, moved, Word.FitsInt32, ← magnitude]
  by_cases nonneg : 0 ≤ value.toInt
  · have product_nonneg := Int.mul_nonneg nonneg (Int.natCast_nonneg size.toNat)
    rw [if_pos nonneg, if_pos product_nonneg]
    omega
  · have product_nonpos := Int.mul_nonpos_of_nonpos_of_nonneg
      (Int.le_of_not_le nonneg) (Int.natCast_nonneg size.toNat)
    rw [if_neg nonneg]
    split <;> omega

/-- A length that 16 bits can hold can be scaled from every design size to every size. -/
theorem scalable_of_fitsInt16 (s : Sheet) (fits : Word.FitsInt16 value.toInt)
    (size : UInt16) : s.Scalable value size := by
  unfold Word.FitsInt16 at fits
  have size_lt := UInt16.toNat_lt size
  have design_lt := UInt16.toNat_lt s.design
  have product_le : value.toInt.natAbs * size.toNat ≤ 32768 * 65535 :=
    Nat.mul_le_mul (by omega) (by omega)
  rw [scalable_iff]
  split <;> omega

/-- A bearing can be scaled to every size. -/
theorem scalable_ofInt16 (s : Sheet) (bearing : Int16) (size : UInt16) :
    s.Scalable (Int32.ofInt bearing.toInt) size := by
  apply scalable_of_fitsInt16
  rw [toInt_ofInt_bearing]
  exact ⟨Int16.le_toInt bearing, Int.le_of_lt_add_one (Int16.toInt_lt bearing)⟩

/-! ## Line metrics -/

theorem lineMetrics_eq_ok_iff {metrics : LineMetrics} :
    s.lineMetrics size = .ok metrics ↔
      (s.Scalable s.metrics.ascent size ∧ s.Scalable s.metrics.descent size) ∧
      metrics.ascent.toInt = s.scaled s.metrics.ascent size ∧
      metrics.descent.toInt = s.scaled s.metrics.descent size := by
  simp only [lineMetrics, Checked.bind_eq_ok_iff, scale_eq_ok_iff]
  constructor
  · rintro ⟨ascent, ⟨ascentScalable, isAscent⟩, descent, ⟨descentScalable, isDescent⟩,
      isMetrics⟩
    cases isMetrics
    exact ⟨⟨ascentScalable, descentScalable⟩, isAscent, isDescent⟩
  · rintro ⟨⟨ascentScalable, descentScalable⟩, isAscent, isDescent⟩
    exact ⟨_, ⟨ascentScalable, isAscent⟩, _, ⟨descentScalable, isDescent⟩, rfl⟩

/-! ## Advances and extents -/

/-- The advance of a drawing at a size, of which a glyph keeps the low bits. -/
def scaledAdvance (s : Sheet) (d : Drawing) (size : UInt16) : UInt16 :=
  UInt16.ofNat (max (s.scaled (Int32.ofNat d.advance.toNat) size) 0).toNat

theorem advance_eq_ok_iff {id : UInt16} {d : Drawing}
    (isDrawing : s.drawings[id.toNat]? = some d) {advance : UInt16} :
    s.advance id size = .ok advance ↔
      s.Scalable (Int32.ofNat d.advance.toNat) size ∧
        advance = s.scaledAdvance d size := by
  simp only [Sheet.advance, isDrawing, Checked.bind_eq_ok_iff, scale_eq_ok_iff]
  constructor
  · rintro ⟨result, ⟨scalable, isResult⟩, isAdvance⟩
    cases isAdvance
    rw [isResult]
    exact ⟨scalable, rfl⟩
  · rintro ⟨scalable, rfl⟩
    have isResult := Word.toInt_ofInt_of_fits scalable.fits_scaled
    refine ⟨_, ⟨scalable, isResult⟩, ?_⟩
    rw [isResult]
    rfl

/-- An extent of a drawing at a size.  What is scaled has a sign, so that the greatest
extents are taken for negative ones. -/
def scaledExtent (s : Sheet) (extent : UInt32) (size : UInt16) : Nat :=
  (max (s.scaled (Int32.ofInt extent.toNat) size) 1).toNat

theorem Scalable.scaledExtent_lt {extent : UInt32}
    (scalable : s.Scalable (Int32.ofInt extent.toNat) size) :
    s.scaledExtent extent size < 4294967296 := by
  have fits := scalable.fits_scaled
  unfold Word.FitsInt32 at fits
  unfold scaledExtent
  omega

theorem scaleExtent_eq_ok_iff {extent result : UInt32} :
    s.scaleExtent extent size = .ok result ↔
      s.Scalable (Int32.ofInt extent.toNat) size ∧
        result.toNat = s.scaledExtent extent size := by
  simp only [scaleExtent, Checked.bind_eq_ok_iff, scale_eq_ok_iff]
  constructor
  · rintro ⟨length, ⟨scalable, isLength⟩, isResult⟩
    cases isResult
    rw [isLength]
    exact ⟨scalable, UInt32.toNat_ofNat_of_lt scalable.scaledExtent_lt⟩
  · rintro ⟨scalable, isResult⟩
    have isLength := Word.toInt_ofInt_of_fits scalable.fits_scaled
    refine ⟨_, ⟨scalable, isLength⟩, ?_⟩
    rw [isLength]
    exact congrArg Except.ok (UInt32.toNat_inj.mp
      ((UInt32.toNat_ofNat_of_lt scalable.scaledExtent_lt).trans isResult.symm))

/-! ## Drawings -/

/-- The coverage of a drawing of `width` by `height` pixels, redrawn with
`targetWidth` by `targetHeight` pixels. -/
def resample (coverage : Array UInt8) (width height targetWidth targetHeight : Nat) :
    Array UInt8 :=
  grid targetWidth targetHeight fun x y =>
    coverage[nearest height targetHeight y * width + nearest width targetWidth x]?.getD 0

theorem nearestWord_eq_ok_iff {source target result : UInt32} {i : Nat} :
    nearestWord source target i = .ok result ↔
      i * source.toNat < 4294967296 ∧
        result.toNat = nearest source.toNat target.toNat i := by
  simp only [nearestWord, Checked.bind_eq_ok_iff, Word.exactUInt32_eq_ok_iff]
  constructor
  · rintro ⟨product, isProduct, isResult⟩
    cases isResult
    have fits := product.toNat_lt
    rw [UInt32.toNat_ofNat_of_lt' (Nat.lt_of_le_of_lt (Nat.div_le_self _ _) fits), nearest,
      isProduct]
    exact ⟨isProduct ▸ fits, rfl⟩
  · rintro ⟨fits, isResult⟩
    have isProduct := UInt32.toNat_ofNat_of_lt fits
    refine ⟨_, isProduct, ?_⟩
    rw [isProduct, ← nearest, ← isResult, UInt32.ofNat_toNat]
    rfl

theorem redrawPixel_eq_ok_iff {d : Drawing} {width y : UInt32} {bytes next : Array UInt8}
    {x : Nat} :
    redrawPixel d width y bytes x = .ok next ↔
      (x * d.width.toNat < 4294967296 ∧
        d.HasByte (y.toNat * d.width.toNat + nearest d.width.toNat width.toNat x)) ∧
      next = bytes.push (d.coverage[y.toNat * d.width.toNat +
        nearest d.width.toNat width.toNat x]?.getD 0) := by
  simp only [redrawPixel, Checked.bind_eq_ok_iff, nearestWord_eq_ok_iff,
    bytePosition_eq_ok_iff, byteAt_eq_ok_iff]
  constructor
  · rintro ⟨nearestX, ⟨fits, isNearest⟩, position, isPosition, byte, isByte, isNext⟩
    cases isNext
    rw [isNearest] at isPosition
    rw [isPosition] at isByte
    rw [isByte]
    refine ⟨⟨fits, ?_, (Array.getElem?_eq_some_iff.mp isByte).1⟩, rfl⟩
    rw [← isPosition]
    exact position.toNat_lt
  · rintro ⟨⟨fits, place_lt, inside⟩, rfl⟩
    have isNearest := UInt32.toNat_ofNat_of_lt
      (Nat.lt_of_le_of_lt (Nat.div_le_self (x * d.width.toNat) width.toNat) fits)
    have isPosition := UInt32.toNat_ofNat_of_lt place_lt
    have isByte := Array.getElem?_eq_getElem inside
    refine ⟨_, ⟨fits, isNearest⟩, _, isPosition.trans ?_, _,
      (congrArg (d.coverage[·]?) isPosition).trans isByte, ?_⟩
    · rw [isNearest, nearest]
    · rw [isByte]
      rfl

/-- A row is redrawn precisely when all of its pixels are. -/
theorem redrawRow_eq_ok_iff {d : Drawing} {width height : UInt32}
    {bytes next : Array UInt8} {y : Nat} :
    redrawRow d width height bytes y = .ok next ↔
      (y * d.height.toNat < 4294967296 ∧ ∀ x < width.toNat,
        x * d.width.toNat < 4294967296 ∧
        d.HasByte (nearest d.height.toNat height.toNat y * d.width.toNat +
          nearest d.width.toNat width.toNat x)) ∧
      next = bytes ++ Array.ofFn fun x : Fin width.toNat =>
        d.coverage[nearest d.height.toNat height.toNat y * d.width.toNat +
          nearest d.width.toNat width.toNat x]?.getD 0 := by
  simp only [redrawRow, Checked.bind_eq_ok_iff, nearestWord_eq_ok_iff]
  have columns (row : UInt32) :
      (List.range width.toNat).foldlM (redrawPixel d width row) bytes = .ok next ↔ _ :=
    Checked.foldlM_range_eq_ok_iff
      (fun x => bytes ++ Array.ofFn fun column : Fin x => d.coverage[row.toNat *
        d.width.toNat + nearest d.width.toNat width.toNat column]?.getD 0)
      fun x _ next => redrawPixel_eq_ok_iff.trans
        (and_congr_right fun _ => by rw [Array.ofFn_succ, Array.append_push]; rfl)
  constructor
  · rintro ⟨row, ⟨fits, isRow⟩, redrawn⟩
    obtain ⟨pixels, rfl⟩ := (columns row).mp redrawn
    rw [isRow] at pixels ⊢
    exact ⟨⟨fits, pixels⟩, rfl⟩
  · rintro ⟨⟨fits, pixels⟩, rfl⟩
    have isRow := UInt32.toNat_ofNat_of_lt
      (Nat.lt_of_le_of_lt (Nat.div_le_self (y * d.height.toNat) height.toNat) fits)
    rw [← nearest] at isRow
    refine ⟨_, ⟨fits, isRow⟩, (columns _).mpr ?_⟩
    rw [isRow]
    exact ⟨pixels, rfl⟩

/-- A drawing is redrawn precisely when all of its rows are. -/
theorem redrawRows_eq_ok_iff {d : Drawing} {width height : UInt32}
    {coverage : Array UInt8} :
    (List.range height.toNat).foldlM (redrawRow d width height) #[] = .ok coverage ↔
      (∀ y < height.toNat, y * d.height.toNat < 4294967296 ∧ ∀ x < width.toNat,
        x * d.width.toNat < 4294967296 ∧
        d.HasByte (nearest d.height.toNat height.toNat y * d.width.toNat +
          nearest d.width.toNat width.toNat x)) ∧
      coverage = resample d.coverage d.width.toNat d.height.toNat width.toNat
        height.toNat :=
  Checked.foldlM_range_eq_ok_iff
    (fun rows => grid width.toNat rows fun x y =>
      d.coverage[nearest d.height.toNat height.toNat y * d.width.toNat +
        nearest d.width.toNat width.toNat x]?.getD 0)
    fun y _ next => redrawRow_eq_ok_iff.trans
      (and_congr_right fun _ => by rw [grid_succ])

/-- Words can hold all that is computed while a drawing is redrawn at a size. -/
structure Redrawable (s : Sheet) (d : Drawing) (size : UInt16) : Prop where
  width : s.Scalable (Int32.ofInt d.width.toNat) size
  height : s.Scalable (Int32.ofInt d.height.toNat) size
  area : s.scaledExtent d.width size * s.scaledExtent d.height size < 4294967296
  lastRow : (s.scaledExtent d.height size - 1) * d.height.toNat < 4294967296
  lastColumn : (s.scaledExtent d.width size - 1) * d.width.toNat < 4294967296

/-- A redrawn drawing. -/
def redrawn (s : Sheet) (d : Drawing) (size : UInt16) : Mask where
  width := UInt32.ofNat (s.scaledExtent d.width size)
  height := UInt32.ofNat (s.scaledExtent d.height size)
  bearingX := Int16.ofInt (s.scaled (Int32.ofInt d.bearingX.toInt) size)
  bearingY := Int16.ofInt (s.scaled (Int32.ofInt d.bearingY.toInt) size)
  coverage := resample d.coverage d.width.toNat d.height.toNat
    (s.scaledExtent d.width size) (s.scaledExtent d.height size)

theorem Redrawable.toNat_width {d : Drawing} (redrawable : s.Redrawable d size) :
    (s.redrawn d size).width.toNat = s.scaledExtent d.width size :=
  UInt32.toNat_ofNat_of_lt' redrawable.width.scaledExtent_lt

theorem Redrawable.toNat_height {d : Drawing} (redrawable : s.Redrawable d size) :
    (s.redrawn d size).height.toNat = s.scaledExtent d.height size :=
  UInt32.toNat_ofNat_of_lt' redrawable.height.scaledExtent_lt

theorem scaledExtent_pos (extent : UInt32) : 0 < s.scaledExtent extent size := by
  rw [scaledExtent]
  omega

/-- Of the products of rows or columns with an extent, the last one is the greatest. -/
theorem forall_mul_lt_iff {count extent bound : Nat} (positive : 0 < count) :
    (∀ i < count, i * extent < bound) ↔ (count - 1) * extent < bound := by
  constructor
  · intro all
    exact all _ (Nat.sub_lt positive Nat.one_pos)
  · intro last i lt
    exact Nat.lt_of_le_of_lt (Nat.mul_le_mul_right extent (Nat.le_sub_one_of_lt lt)) last

/-- A drawing is redrawn precisely when words can hold all that is computed and all bytes
are there that are read. -/
theorem redraw_eq_ok_iff {d : Drawing} {mask : Mask} :
    s.redraw d size = .ok mask ↔
      s.Redrawable d size ∧
      d.Provides (s.scaledExtent d.width size) (s.scaledExtent d.height size) ∧
      mask = s.redrawn d size := by
  simp only [redraw, Checked.bind_eq_ok_iff, scaleExtent_eq_ok_iff, scale_eq_ok_iff,
    Word.exactUInt32_eq_ok_iff, redrawRows_eq_ok_iff]
  have width_pos : 0 < s.scaledExtent d.width size := scaledExtent_pos _
  have height_pos : 0 < s.scaledExtent d.height size := scaledExtent_pos _
  constructor
  · rintro ⟨width, ⟨widthScalable, isWidth⟩, height, ⟨heightScalable, isHeight⟩,
      area, isArea, coverage, ⟨rows, isCoverage⟩, bearingX, ⟨_, isBearingX⟩, bearingY,
      ⟨_, isBearingY⟩, isMask⟩
    rw [isWidth, isHeight] at isArea isCoverage rows
    refine ⟨⟨widthScalable, heightScalable, isArea ▸ area.toNat_lt, ?_, ?_⟩, ?_, ?_⟩
    · exact (forall_mul_lt_iff height_pos).mp fun y inColumn => (rows y inColumn).1
    · exact (forall_mul_lt_iff width_pos).mp fun x inRow => ((rows 0 height_pos).2 x inRow).1
    · exact fun x inRow y inColumn => ((rows y inColumn).2 x inRow).2
    · cases isMask
      rw [redrawn, ← isWidth, ← isHeight, ← isBearingX, ← isBearingY, isCoverage, isWidth,
        isHeight, ← isWidth, ← isHeight, UInt32.ofNat_toNat, UInt32.ofNat_toNat]
  · rintro ⟨redrawable, provides, rfl⟩
    have isWidth := redrawable.toNat_width
    have isHeight := redrawable.toNat_height
    have scalableX := s.scalable_ofInt16 d.bearingX size
    have scalableY := s.scalable_ofInt16 d.bearingY size
    have isBearingX := Word.toInt_ofInt_of_fits scalableX.fits_scaled
    have isBearingY := Word.toInt_ofInt_of_fits scalableY.fits_scaled
    refine ⟨_, ⟨redrawable.width, isWidth⟩, _, ⟨redrawable.height, isHeight⟩,
      _, UInt32.toNat_ofNat_of_lt (by rw [isWidth, isHeight]; exact redrawable.area),
      _, ⟨?_, rfl⟩, _, ⟨scalableX, isBearingX⟩, _, ⟨scalableY, isBearingY⟩, ?_⟩
    · rw [isWidth, isHeight]
      exact fun y inColumn => ⟨(forall_mul_lt_iff height_pos).mpr redrawable.lastRow y inColumn,
        fun x inRow => ⟨(forall_mul_lt_iff width_pos).mpr redrawable.lastColumn x inRow,
          provides x inRow y inColumn⟩⟩
    · rw [isWidth, isHeight, isBearingX, isBearingY]
      rfl

/-- The drawing can be shown at a size: it is not redrawn or can be. -/
def Showable (s : Sheet) (d : Drawing) (size : UInt16) : Prop :=
  d.width = 0 ∨ d.height = 0 ∨ size = s.design ∨ s.Redrawable d size

/-- All bytes that are read while the drawing is shown at a size are there, and words can
hold their places. -/
def Legible (s : Sheet) (d : Drawing) (size : UInt16) : Prop :=
  d.width = 0 ∨ d.height = 0 ∨ size = s.design ∨
    d.Provides (s.scaledExtent d.width size) (s.scaledExtent d.height size)

/-- The mask of a drawing at a size. -/
def shown (s : Sheet) (d : Drawing) (size : UInt16) : Mask :=
  if d.width = 0 ∨ d.height = 0 then Mask.empty
  else if size = s.design then d.mask
  else s.redrawn d size

theorem rasterize_eq_ok_iff {id : UInt16} {d : Drawing}
    (isDrawing : s.drawings[id.toNat]? = some d) {outcome : Except Error Mask} :
    s.rasterize id size = .ok outcome ↔
      (s.Showable d size ∧ s.Legible d size) ∧ outcome = .ok (s.shown d size) := by
  simp only [rasterize, Showable, Legible, shown, isDrawing]
  by_cases blank : d.width = 0 ∨ d.height = 0
  · rw [if_pos blank, if_pos blank]
    rcases blank with blank | blank <;> simp [blank, pure, Except.pure, eq_comm]
  · rw [not_or] at blank
    by_cases designed : size = s.design
    · simp [blank, designed, pure, Except.pure, eq_comm]
    · simp only [blank, designed, or_self, if_false, false_or, Checked.bind_eq_ok_iff,
        redraw_eq_ok_iff, pure, Except.pure, Except.ok.injEq]
      constructor
      · rintro ⟨mask, ⟨redrawable, provides, rfl⟩, rfl⟩
        exact ⟨⟨redrawable, provides⟩, rfl⟩
      · rintro ⟨⟨redrawable, provides⟩, rfl⟩
        exact ⟨_, ⟨redrawable, provides, rfl⟩, rfl⟩

/-- Of a sound drawing all bytes are there, at whatever size it is shown. -/
theorem legible_of_sound (s : Sheet) {d : Drawing} (sound : d.Sound) (size : UInt16) :
    s.Legible d size := by
  by_cases noWidth : d.width = 0
  · exact .inl noWidth
  · by_cases noHeight : d.height = 0
    · exact .inr (.inl noHeight)
    · rw [← UInt32.toNat_inj] at noWidth noHeight
      exact .inr (.inr (.inr (sound.provides (Nat.pos_of_ne_zero noWidth)
        (Nat.pos_of_ne_zero noHeight) _ _)))

theorem rasterize_eq_ok_iff_of_sound {id : UInt16} {d : Drawing}
    (isDrawing : s.drawings[id.toNat]? = some d) (sound : d.Sound)
    {outcome : Except Error Mask} :
    s.rasterize id size = .ok outcome ↔
      s.Showable d size ∧ outcome = .ok (s.shown d size) := by
  rw [rasterize_eq_ok_iff isDrawing, and_iff_left (s.legible_of_sound sound size)]

/-- A drawing with pixels that can be shown at another size can be redrawn at it. -/
theorem Showable.redrawable {d : Drawing} (showable : s.Showable d size)
    (inked : ¬ (d.width = 0 ∨ d.height = 0)) (other : size ≠ s.design) :
    s.Redrawable d size := by
  rw [not_or] at inked
  rcases showable with noWidth | noHeight | designed | redrawable
  · exact absurd noWidth inked.1
  · exact absurd noHeight inked.2
  · exact absurd designed other
  · exact redrawable

theorem Legible.provides {d : Drawing} (legible : s.Legible d size)
    (inked : ¬ (d.width = 0 ∨ d.height = 0)) (other : size ≠ s.design) :
    d.Provides (s.scaledExtent d.width size) (s.scaledExtent d.height size) := by
  rw [not_or] at inked
  rcases legible with noWidth | noHeight | designed | provides
  · exact absurd noWidth inked.1
  · exact absurd noHeight inked.2
  · exact absurd designed other
  · exact provides

/-- The bytes of a drawing that is shown can be counted by a word if those of the
drawing can. -/
theorem Showable.countable {d : Drawing} (showable : s.Showable d size)
    (countable : d.width.toNat * d.height.toNat < 4294967296) :
    (s.shown d size).width.toNat * (s.shown d size).height.toNat < 4294967296 := by
  unfold shown
  split
  · decide
  · rename_i inked
    split
    · exact countable
    · rename_i other
      have redrawable := showable.redrawable inked other
      rw [redrawable.toNat_width, redrawable.toNat_height]
      exact redrawable.area

end Sheet

end Inkwell
