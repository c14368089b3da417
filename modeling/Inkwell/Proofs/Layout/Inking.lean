import Inkwell.Proofs.Layout.Stamping

/-!
# The pixels that a run covers

The corner of a mask stops at the limit of the coordinate space, while the place of a
byte is computed with plain words.  For masks of which a word can count the bytes this
makes no difference to any pixel in the clip: the pixels painted are those over which a
byte of some mask stands that is not zero, counted from the mask's corner.

A set of pixels has no order and holds nothing twice, so neither the order of the
glyphs nor stamping them again shows.
-/

namespace Inkwell

/-- A word made of an integer that is not negative is the same unsigned. -/
theorem Word.toNat_toUInt32_ofInt {n : Int} (nonneg : 0 ≤ n) (fits : Word.FitsInt32 n) :
    (Int32.ofInt n).toUInt32.toNat = n.toNat := by
  have value := Word.toInt_ofInt_of_fits fits
  have word_nonneg : (0 : Int32) ≤ Int32.ofInt n := by
    rw [Int32.le_iff_toInt_le, value]
    exact nonneg
  rw [Int32.toNat_toUInt32_of_le word_nonneg, ← Int32.toNat_toInt, value]

/-! ## Single masks -/

namespace Mask

/-- The extents of the mask are values of signed words, and a word can count its
bytes. -/
def Fits (m : Mask) : Prop :=
  m.width.toNat < 2147483648 ∧ m.height.toNat < 2147483648 ∧
    m.width.toNat * m.height.toNat ≤ 4294967296

instance (m : Mask) : Decidable m.Fits :=
  inferInstanceAs (Decidable (_ ∧ _))

/-- The mask with its corner at `(left, top)` covers a pixel: the pixel lies in its
grid, and the byte there is not zero. -/
def Covers (m : Mask) (left top px py : Int) : Prop :=
  (0 ≤ px - left ∧ px - left < m.width.toNat) ∧
  (0 ≤ py - top ∧ py - top < m.height.toNat) ∧
  ∃ byte ∈ m.coverage[((py - top) * m.width.toNat + (px - left)).toNat]?, byte ≠ 0

instance (m : Mask) (left top px py : Int) : Decidable (m.Covers left top px py) :=
  inferInstanceAs (Decidable (_ ∧ _))

variable {m : Mask}

/-- The byte at a pixel of the grid, none counting as zero. -/
theorem coverageAt_eq_ok (countable : m.width.toNat * m.height.toNat ≤ 4294967296)
    {x y : UInt32} (inWidth : x.toNat < m.width.toNat)
    (inHeight : y.toNat < m.height.toNat) :
    m.coverageAt x y =
      .ok (m.coverage[y.toNat * m.width.toNat + x.toNat]?.getD 0) := by
  obtain ⟨coverage, read⟩ := exists_coverageAt countable x y
  rw [read]
  unfold coverageAt at read
  have inGrid : ¬ (m.width ≤ x ∨ m.height ≤ y) := by
    simp only [not_or, UInt32.not_le, UInt32.lt_iff_toNat_lt]
    exact ⟨inWidth, inHeight⟩
  rw [if_neg inGrid] at read
  obtain ⟨place, isPlace, read⟩ := Checked.bind_eq_ok_iff.mp read
  rw [← bytePosition_eq_ok_iff.mp isPlace]
  exact read.symm

/-- The coverage of a pixel in the grid, counted from the corner. -/
theorem coverageOver_eq_ok (fits : m.Fits) {left top : Int32} {px py : Int}
    (inColumns : 0 ≤ px - left.toInt ∧ px - left.toInt < m.width.toNat)
    (inRows : 0 ≤ py - top.toInt ∧ py - top.toInt < m.height.toNat) :
    m.coverageOver left top px py =
      .ok (m.coverage[((py - top.toInt) * m.width.toNat +
        (px - left.toInt)).toNat]?.getD 0) := by
  obtain ⟨width_lt, height_lt, countable⟩ := fits
  have column_fits : Word.FitsInt32 (px - left.toInt) := by
    unfold Word.FitsInt32
    omega
  have row_fits : Word.FitsInt32 (py - top.toInt) := by
    unfold Word.FitsInt32
    omega
  have column := Word.toNat_toUInt32_ofInt inColumns.1 column_fits
  have row := Word.toNat_toUInt32_ofInt inRows.1 row_fits
  have place : ((py - top.toInt) * m.width.toNat + (px - left.toInt)).toNat =
      (py - top.toInt).toNat * m.width.toNat + (px - left.toInt).toNat := by
    obtain ⟨rowNumber, isRow⟩ := Int.eq_ofNat_of_zero_le inRows.1
    obtain ⟨columnNumber, isColumn⟩ := Int.eq_ofNat_of_zero_le inColumns.1
    rw [isRow, isColumn]
    rfl
  rw [place, ← row, ← column]
  unfold coverageOver Word.exactInt32
  rw [if_pos row_fits, if_pos column_fits]
  apply coverageAt_eq_ok countable
  · rw [column]
    omega
  · rw [row]
    omega

/-- Below the limit of the coordinate space, the area of a mask is its grid. -/
theorem contains_area_iff (fits : m.Fits) {x baseline : Int32} {px py : Int}
    (belowLimit : px < 2147483647 ∧ py < 2147483647) :
    (m.area x baseline).contains px py = true ↔
      (0 ≤ px - (m.left x).toInt ∧ px - (m.left x).toInt < m.width.toNat) ∧
      (0 ≤ py - (m.top baseline).toInt ∧
        py - (m.top baseline).toInt < m.height.toNat) := by
  obtain ⟨width_lt, height_lt, _⟩ := fits
  have left_fits := Word.fitsInt32_toInt (m.left x)
  have top_fits := Word.fitsInt32_toInt (m.top baseline)
  have width_eq : (Int32.ofInt m.width.toNat).toInt = m.width.toNat :=
    Word.toInt_ofInt_of_fits (by unfold Word.FitsInt32; omega)
  have height_eq : (Int32.ofInt m.height.toNat).toInt = m.height.toNat :=
    Word.toInt_ofInt_of_fits (by unfold Word.FitsInt32; omega)
  rw [Rect.contains_iff, Rect.toInt_right, Rect.toInt_bottom, area]
  dsimp only
  rw [width_eq, height_eq]
  unfold Word.FitsInt32 at left_fits top_fits
  omega

end Mask

/-! ## Runs -/

namespace PlacedGlyph

/-- The glyph has a mask that covers a pixel. -/
def Covers (g : PlacedGlyph) (px py : Int) : Prop :=
  ∃ m ∈ g.mask, m.Covers (m.left g.x).toInt (m.top g.baseline).toInt px py

instance (g : PlacedGlyph) (px py : Int) : Decidable (g.Covers px py) :=
  inferInstanceAs (Decidable (∃ m ∈ g.mask, _))

/-- In the clip, a glyph paints the pixels that it covers. -/
theorem inks_iff_covers {g : PlacedGlyph} (fits : ∀ m ∈ g.mask, m.Fits) {clip : Rect}
    {px py : Int} (inClip : clip.contains px py = true) :
    g.Inks px py ↔ g.Covers px py := by
  have belowLimit := Rect.lt_limit_of_contains inClip
  constructor
  · rintro ⟨m, isMask, inArea, coverage, read, nonzero⟩
    have inGrid := (Mask.contains_area_iff (fits m isMask) belowLimit).mp inArea
    rw [Mask.coverageOver_eq_ok (fits m isMask) inGrid.1 inGrid.2] at read
    refine ⟨m, isMask, inGrid.1, inGrid.2, coverage, ?_, nonzero⟩
    -- A byte that is missing would count as zero.
    cases found : m.coverage[((py - (m.top g.baseline).toInt) * m.width.toNat +
        (px - (m.left g.x).toInt)).toNat]? with
    | none =>
        rw [found] at read
        cases read
        exact absurd rfl nonzero
    | some byte =>
        rw [found] at read
        cases read
        rfl
  · rintro ⟨m, isMask, inColumns, inRows, byte, found, nonzero⟩
    have inArea := (Mask.contains_area_iff (fits m isMask) belowLimit).mpr
      ⟨inColumns, inRows⟩
    refine ⟨m, isMask, inArea, byte, ?_, nonzero⟩
    rw [Mask.coverageOver_eq_ok (fits m isMask) inColumns inRows, Option.mem_def.mp found]
    rfl

end PlacedGlyph

namespace Brush

variable {run : Run} {b : Brush}

/-- A run with such masks can be stamped, and it paints what its glyphs cover. -/
theorem stamp_of_fits (fits : ∀ g ∈ run.glyphs, ∀ m ∈ g.mask, m.Fits) :
    (b.stamp run).1 = .ok () ∧
      Painted (fun px py => ∃ g ∈ run.glyphs, g.Covers px py) b.color.solid b
        (b.stamp run).2 := by
  have returns : (b.stamp run).1 = .ok () := by
    rw [stamp_returns_iff]
    intro g member m isMask px py visible
    exact Mask.readable_of_countable (fits g member m isMask).2.2 visible.1
  refine ⟨returns, (painted_stamp returns).congr fun px py inClip => ?_⟩
  constructor
  · rintro ⟨g, member, covers⟩
    exact ⟨g, member, (PlacedGlyph.inks_iff_covers (fits g member) inClip).mpr covers⟩
  · rintro ⟨g, member, inks⟩
    exact ⟨g, member, (PlacedGlyph.inks_iff_covers (fits g member) inClip).mp inks⟩

/-- Take any brush and any run with masks whose extents are values of signed words and
whose bytes a word can count; there may be fewer or more bytes than the grid has places.
Stamping the run returns.  A pixel in the clip over which a byte of some mask stands that
is not zero has the brush's color at full alpha then; every other pixel is as it was,
and so is the rest of the brush.  Hence stamping the glyphs in any other order leaves
the same, and stamping them again changes nothing. -/
theorem stamp_paints_covered_pixels (run : Run) (b : Brush)
    (fits : ∀ g ∈ run.glyphs, ∀ m ∈ g.mask, m.Fits) :
    ∃ after, b.stamp run = (.ok (), after) ∧
      (after.canvas.SameSize b.canvas ∧ after.color = b.color ∧ after.clip = b.clip ∧
        after.stroke = b.stroke) ∧
      (∀ px py, b.canvas.covers px py = true → b.clip.contains px py = true →
        (∃ g ∈ run.glyphs, g.Covers px py) →
        after.canvas.get? px py = some b.color.solid) ∧
      (∀ px py,
        ¬ (b.clip.contains px py = true ∧ ∃ g ∈ run.glyphs, g.Covers px py) →
        after.canvas.get? px py = b.canvas.get? px py) ∧
      (∀ other : Run, other.glyphs.Perm run.glyphs →
        b.stamp other = (.ok (), after)) ∧
      after.stamp run = (.ok (), after) := by
  obtain ⟨returns, painted⟩ := stamp_of_fits fits
  refine ⟨(b.stamp run).2, Prod.ext returns rfl, ⟨?_, painted.color_eq, painted.clip_eq,
    painted.stroke_eq⟩, ?_, fun px py apart => painted.outside apart, ?_, ?_⟩
  · exact Canvas.sameSize_of_extents painted.width_eq painted.height_eq
  · intro px py covered inClip covers
    obtain ⟨color, shown⟩ := Canvas.exists_get? covered
    rw [painted.inside inClip covers, shown]
    rfl
  · intro other reordered
    obtain ⟨otherReturns, otherPainted⟩ := stamp_of_fits fun g member =>
      fits g (reordered.mem_iff.mp member)
    refine Prod.ext otherReturns (otherPainted.unique painted fun px py _ => ?_)
    simp only [reordered.mem_iff]
  · obtain ⟨againReturns, again⟩ := stamp_of_fits fits
    rw [painted.color_eq] at again
    refine Prod.ext againReturns ((painted.trans again).unique painted fun px py _ => ?_)
    exact or_self_iff.symm

/-- A black square of which the last byte is missing, under a glyph without a mask and
next to one whose corner stops at the limit of the coordinate space. -/
def cutSquareRun : Run where
  glyphs :=
    [⟨⟨0, 1, 0, 3⟩, 0, 1, 0, 2, some ⟨2, 2, 0, 2, #[255, 255, 1]⟩⟩,
      ⟨⟨0, 1, 0, 3⟩, 1, 2, 0, 2, none⟩,
      ⟨⟨0, 1, 0, 3⟩, 2, 3, 2147483647, -2147483648, some ⟨1, 1, 3, 3, #[255]⟩⟩]
  bounds := Rect.zero
  baseline := 2
  width := 9

theorem stamp_paints_covered_pixels_cutSquare :
    (∀ g ∈ cutSquareRun.glyphs, ∀ m ∈ g.mask, m.Fits) ∧
    ∃ after, (ofCanvas (Canvas.blank 3 3)).stamp cutSquareRun = (.ok (), after) ∧
      after.canvas.get? 0 1 = some Color.black ∧
      after.canvas.get? 1 1 = some Color.transparent ∧
      after.stamp cutSquareRun = (.ok (), after) := by
  have fits : ∀ g ∈ cutSquareRun.glyphs, ∀ m ∈ g.mask, m.Fits := by decide
  obtain ⟨after, stamped, _, painted, kept, _, again⟩ :=
    stamp_paints_covered_pixels cutSquareRun (ofCanvas (Canvas.blank 3 3)) fits
  refine ⟨fits, after, stamped, ?_, ?_, again⟩
  · exact painted 0 1 rfl rfl (by decide)
  · exact (kept 1 1 (by decide)).trans (by decide)

end Brush

end Inkwell
