import Inkwell.Glyph.MissingBox
import Inkwell.Proofs.Glyph.Grid

/-!
# When the box for a missing glyph can be painted

The box is painted pixel by pixel, row by row.  The bytes after each pixel are known in
closed form, so that the loops end with a whole frame whenever words can count its pixels.
-/

namespace Inkwell

namespace MissingBox

variable {size : UInt16} {metrics : LineMetrics}

theorem toNat_max (a b : UInt16) : (max a b).toNat = max a.toNat b.toNat := by
  show (if a ≤ b then b else a).toNat = max a.toNat b.toNat
  rw [Nat.max_def, apply_ite UInt16.toNat]
  rfl

theorem toNat_width (size : UInt16) : (width size).toNat = max (size.toNat / 2) 3 := by
  simp [width, toNat_max]

theorem toNat_gap (size : UInt16) : (gap size).toNat = max (size.toNat / 8) 1 := by
  simp [gap, toNat_max]

/-- The advance of the box fits a word at every size. -/
theorem advance_eq_ok (size : UInt16) :
    advance size = .ok (UInt16.ofNat ((width size).toNat + (gap size).toNat)) := by
  have size_lt := size.toNat_lt
  have fits : (width size).toNat + (gap size).toNat < 65536 := by
    rw [toNat_width, toNat_gap]
    omega
  rw [advance, Word.exactUInt16, if_pos fits]

/-- Words can count the bytes of the box on a line with the given ascent. -/
def Showable (size : UInt16) (ascent : Int) : Prop :=
  (width size).toNat * (max ascent 3).toNat < 4294967296

instance (ascent : Int) : Decidable (Showable size ascent) :=
  inferInstanceAs (Decidable (_ < _))

theorem toNat_height (metrics : LineMetrics) :
    (height metrics).toNat = (max metrics.ascent.toInt 3).toNat := by
  have upper := Int32.toInt_lt metrics.ascent
  rw [height, UInt32.toNat_ofNat_of_lt']
  rw [UInt32.size]
  omega

/-- The coverage of a hollow frame at column `x` and row `y`. -/
def frame (width height x y : Nat) : UInt8 :=
  if x = 0 ∨ y = 0 ∨ x + 1 = width ∨ y + 1 = height then 255 else 0

/-- The bytes of a box of which the first `count` pixels have been painted. -/
def painted (width height count : Nat) : Array UInt8 :=
  Array.ofFn fun i : Fin (width * height) =>
    if i.val < count then frame width height (i.val % width) (i.val / width) else 0

theorem painted_zero (width height : Nat) :
    painted width height 0 = Array.replicate (width * height) 0 := by
  apply Array.ext_getElem?
  intro i
  simp [painted, Array.getElem?_ofFn, Array.getElem?_replicate]

theorem painted_area (width height : Nat) :
    painted width height (height * width) = grid width height (frame width height) := by
  rw [painted, grid, Nat.mul_comm height]
  simp only [Fin.is_lt, if_true]

/-- Painting one more pixel. -/
theorem painted_succ {width height x y : Nat} (inRow : x < width) :
    painted width height (y * width + x + 1) =
      (painted width height (y * width + x)).setIfInBounds (y * width + x)
        (frame width height x y) := by
  obtain ⟨column_eq, row_eq⟩ := place_mod_div inRow y
  apply Array.ext_getElem?
  intro i
  rw [Array.getElem?_setIfInBounds, painted, painted, Array.getElem?_ofFn,
    Array.getElem?_ofFn, Array.size_ofFn]
  by_cases same : y * width + x = i
  · subst same
    simp only [column_eq, row_eq, Nat.lt_succ_self, if_true]
    rfl
  · have lt_iff : i < y * width + x + 1 ↔ i < y * width + x := by omega
    simp only [same, if_false, lt_iff]

section Painting

variable {w h : UInt32} {x y : Nat} (inRow : x < w.toNat) (inColumn : y < h.toNat)

include inRow inColumn

theorem frame_eq_ite_onBorder :
    frame w.toNat h.toNat x y = if OnBorder w h x y then 255 else 0 := by
  have last_iff : (x = w.toNat - 1 ↔ x + 1 = w.toNat) ∧ (y = h.toNat - 1 ↔ y + 1 = h.toNat) := by
    omega
  rw [frame]
  simp only [OnBorder, last_iff]

/-- A pass of the inner loop paints one more pixel. -/
theorem paintPixel_painted (showable : w.toNat * h.toNat < 4294967296) :
    paintPixel w h y (painted w.toNat h.toNat (y * w.toNat + x)) x =
      .ok (painted w.toNat h.toNat (y * w.toNat + x + 1)) := by
  have inside := place_lt_area inRow inColumn
  have place_lt := Nat.lt_trans inside showable
  rw [painted_succ inRow, paintPixel, frame_eq_ite_onBorder inRow inColumn]
  split
  · have isPlace := UInt32.toNat_ofNat_of_lt' place_lt
    have isColumn := UInt32.toNat_ofNat_of_lt' (Nat.lt_trans inRow w.toNat_lt)
    have isRow := UInt32.toNat_ofNat_of_lt' (Nat.lt_trans inColumn h.toNat_lt)
    refine Checked.bind_eq_ok_iff.mpr ⟨_, bytePosition_eq_ok_iff.mpr (isPlace.trans ?_), ?_⟩
    · rw [isColumn, isRow]
    · rw [setByte_of_lt, isPlace]
      rw [isPlace, painted, Array.size_ofFn]
      exact inside
  · -- A pixel inside of the border keeps the zero that it has from the beginning.
    have unpainted : (painted w.toNat h.toNat (y * w.toNat + x))[y * w.toNat + x]? = some 0 := by
      rw [painted, Array.getElem?_ofFn, dif_pos inside, if_neg (Nat.lt_irrefl _)]
    refine congrArg Except.ok (Array.ext_getElem? fun i => ?_)
    rw [Array.getElem?_setIfInBounds]
    split
    · rename_i same
      rw [← same, unpainted, painted, Array.size_ofFn, if_pos inside]
    · rfl

end Painting

variable {w h : UInt32} (showable : w.toNat * h.toNat < 4294967296)

include showable

/-- The inner loop paints one more row. -/
theorem paintRow_painted {y : Nat} (inColumn : y < h.toNat) :
    paintRow w h (painted w.toNat h.toNat (y * w.toNat)) y =
      .ok (painted w.toNat h.toNat ((y + 1) * w.toNat)) := by
  rw [Nat.succ_mul]
  exact Checked.foldlM_range_eq_ok (fun x => painted w.toNat h.toNat (y * w.toNat + x))
    fun x inRow => paintPixel_painted inRow inColumn showable

/-- Both loops together paint the whole box. -/
theorem paintRows_eq_ok :
    (List.range h.toNat).foldlM (paintRow w h) (Array.replicate (w.toNat * h.toNat) 0) =
      .ok (grid w.toNat h.toNat (frame w.toNat h.toNat)) := by
  have rows : (List.range h.toNat).foldlM (paintRow w h)
      (painted w.toNat h.toNat (0 * w.toNat)) = .ok (painted w.toNat h.toNat _) :=
    Checked.foldlM_range_eq_ok (fun y => painted w.toNat h.toNat (y * w.toNat))
      fun y inColumn => paintRow_painted showable inColumn
  rw [Nat.zero_mul, painted_zero, painted_area] at rows
  exact rows

omit showable

/-- The box on a line with the given metrics. -/
def box (size : UInt16) (metrics : LineMetrics) : Mask where
  width := (width size).toUInt32
  height := height metrics
  bearingX := (gap size / 2).toInt16
  bearingY := Word.clampInt16 (height metrics).toNat
  coverage := grid (width size).toNat (height metrics).toNat
    (frame (width size).toNat (height metrics).toNat)

/-- The box is drawn precisely when words can count its bytes. -/
theorem mask_eq_ok_iff {mask : Mask} :
    MissingBox.mask size metrics = .ok mask ↔
      Showable size metrics.ascent.toInt ∧ mask = box size metrics := by
  simp only [MissingBox.mask, Checked.bind_eq_ok_iff, Word.exactUInt32_eq_ok_iff,
    UInt16.toNat_toUInt32]
  rw [Showable, ← toNat_height]
  have paints := paintRows_eq_ok (w := (width size).toUInt32) (h := height metrics)
  rw [UInt16.toNat_toUInt32] at paints
  constructor
  · rintro ⟨area, isArea, coverage, isCoverage, isMask⟩
    have showable := isArea ▸ area.toNat_lt
    rw [isArea, paints showable] at isCoverage
    cases isCoverage
    cases isMask
    exact ⟨showable, rfl⟩
  · rintro ⟨showable, rfl⟩
    have isArea := UInt32.toNat_ofNat_of_lt showable
    refine ⟨_, isArea, _, ?_, rfl⟩
    rw [isArea]
    exact paints showable

theorem mask_returns_iff :
    (∃ mask, MissingBox.mask size metrics = .ok mask) ↔
      Showable size metrics.ascent.toInt := by
  simp only [mask_eq_ok_iff, exists_and_left, exists_eq, and_true]

theorem countable_of_mask {mask : Mask} (isMask : MissingBox.mask size metrics = .ok mask) :
    mask.width.toNat * mask.height.toNat < 4294967296 := by
  obtain ⟨showable, rfl⟩ := mask_eq_ok_iff.mp isMask
  rw [Showable, ← toNat_height] at showable
  exact showable

end MissingBox

end Inkwell
