import Inkwell.Proofs.Glyph.Boxes
import Inkwell.Proofs.Glyph.Magnification

/-!
# The box as a frame

The box for a missing glyph is listed byte by byte.  Read by columns and rows it is a
frame: its outermost pixels are painted, and of the pixels inside there is at least one and
none is painted.  The painted ones are counted along both axes by the same sum, in which
the first and the last term differ from those between them.

The width of the box, the gap next to it and the bearing, which is half of the gap, are
rounded one by one.  At every size the box still keeps to its advance.
-/

namespace Inkwell

/-! ## Frames -/

namespace Mask

/-- The mask is a frame: every pixel of the outermost rows and columns has full coverage,
and the pixels inside, of which there are some, have none. -/
structure IsFrame (m : Mask) : Prop where
  width_ge : 3 ≤ m.width.toNat
  height_ge : 3 ≤ m.height.toNat
  size_eq : m.coverage.size = m.width.toNat * m.height.toNat
  outermost : ∀ x < m.width.toNat, ∀ y < m.height.toNat,
    x = 0 ∨ x = m.width.toNat - 1 ∨ y = 0 ∨ y = m.height.toNat - 1 →
      m.coverage[y * m.width.toNat + x]? = some 255
  inner : ∀ x y, 0 < x → x < m.width.toNat - 1 → 0 < y → y < m.height.toNat - 1 →
    m.coverage[y * m.width.toNat + x]? = some 0
  hollow : ∃ x y, (0 < x ∧ x < m.width.toNat - 1) ∧ (0 < y ∧ y < m.height.toNat - 1) ∧
    m.coverage[y * m.width.toNat + x]? = some 0
  ink_eq : m.ink = 2 * m.width.toNat + 2 * m.height.toNat - 4

end Mask

/-- A sum in which the first and the last term are `a` and all others are `b`. -/
theorem sum_ends (n a b : Nat) :
    ∑ i ∈ Finset.range (n + 2), (if i = 0 ∨ i + 1 = n + 2 then a else b) = 2 * a + n * b := by
  have between : ∀ i ∈ Finset.range n,
      (if i + 1 = 0 ∨ i + 1 + 1 = n + 2 then a else b) = b := by
    intro i inside
    have inside := Finset.mem_range.mp inside
    exact if_neg (by omega)
  rw [Finset.sum_range_succ, Finset.sum_range_succ', Finset.sum_congr rfl between,
    if_pos (Or.inl rfl), if_pos (Or.inr rfl), Finset.sum_const, Finset.card_range,
    Nat.nsmul_eq_mul]
  omega

namespace MissingBox

variable {size : UInt16} {metrics : LineMetrics}

theorem frame_ne_zero_iff {width height x y : Nat} :
    (frame width height x y != 0) = true ↔
      (y = 0 ∨ y + 1 = height) ∨ (x = 0 ∨ x + 1 = width) := by
  unfold frame
  split
  · rename_i outermost
    exact iff_of_true (by decide) (by omega)
  · rename_i inner
    exact iff_of_false (by decide) (by omega)

/-- The outermost rows of a frame are painted from end to end, and of all others the two
ends. -/
theorem ink_row (n height y : Nat) :
    ∑ x ∈ Finset.range (n + 2), (if frame (n + 2) height x y != 0 then 1 else 0) =
      if y = 0 ∨ y + 1 = height then n + 2 else 2 := by
  simp only [frame_ne_zero_iff]
  split
  · rename_i outermost
    simp only [outermost, true_or, if_true, Finset.sum_const, Finset.card_range,
      Nat.nsmul_eq_mul, Nat.mul_one]
  · rename_i inner
    simp only [inner, false_or]
    exact sum_ends n 1 0

theorem ink_frame {width height : Nat} (width_ge : 2 ≤ width) (height_ge : 2 ≤ height) :
    (grid width height (frame width height)).countP (· != 0) =
      2 * width + 2 * height - 4 := by
  obtain ⟨columns, rfl⟩ := Nat.exists_eq_add_of_le' width_ge
  obtain ⟨rows, rfl⟩ := Nat.exists_eq_add_of_le' height_ge
  rw [countP_grid]
  simp only [ink_row]
  rw [sum_ends]
  omega

/-! ## The box -/

theorem width_box_ge (size : UInt16) (metrics : LineMetrics) :
    3 ≤ (box size metrics).width.toNat := by
  rw [box, UInt16.toNat_toUInt32, toNat_width]
  omega

theorem height_box (size : UInt16) (metrics : LineMetrics) :
    ((box size metrics).height.toNat : Int) = max metrics.ascent.toInt 3 := by
  rw [box, toNat_height]
  omega

/-- The byte of the box in a column and a row. -/
theorem getElem?_box {x y : Nat} (inRow : x < (box size metrics).width.toNat)
    (inColumn : y < (box size metrics).height.toNat) :
    (box size metrics).coverage[y * (box size metrics).width.toNat + x]? =
      some (frame (box size metrics).width.toNat (box size metrics).height.toNat x y) :=
  getElem?_grid (frame (width size).toNat (height metrics).toNat) inRow inColumn

theorem isFrame_box (size : UInt16) (metrics : LineMetrics) : (box size metrics).IsFrame := by
  have width_ge := width_box_ge size metrics
  have height_ge : 3 ≤ (box size metrics).height.toNat := by
    have height_eq := height_box size metrics
    omega
  have inner : ∀ x y, 0 < x → x < (box size metrics).width.toNat - 1 →
      0 < y → y < (box size metrics).height.toNat - 1 →
      (box size metrics).coverage[y * (box size metrics).width.toNat + x]? = some 0 := by
    intro x y x_pos x_lt y_pos y_lt
    rw [getElem?_box (by omega) (by omega), frame, if_neg (by omega)]
  constructor
  case width_ge => exact width_ge
  case height_ge => exact height_ge
  case size_eq => exact size_grid _
  case outermost =>
    intro x inRow y inColumn outermost
    rw [getElem?_box inRow inColumn, frame, if_pos (by omega)]
  case inner => exact inner
  case hollow =>
    exact ⟨1, 1, ⟨by omega, by omega⟩, ⟨by omega, by omega⟩,
      inner 1 1 (by omega) (by omega) (by omega) (by omega)⟩
  case ink_eq => exact ink_frame (Nat.le_of_succ_le width_ge) (Nat.le_of_succ_le height_ge)

theorem toInt_bearingX_box (size : UInt16) (metrics : LineMetrics) :
    (box size metrics).bearingX.toInt = (gap size).toNat / 2 := by
  have size_lt := size.toNat_lt
  have half_eq : (gap size / 2).toNat = (gap size).toNat / 2 := UInt16.toNat_div _ _
  have half_lt : (gap size / 2).toNat < 2 ^ 15 := by
    rw [half_eq, toNat_gap]
    omega
  calc
    (gap size / 2).toInt16.toInt = (Int16.ofNat (gap size / 2).toNat).toInt := by
      rw [← UInt16.toInt16_ofNat', UInt16.ofNat_toNat]
    _ = (gap size / 2).toNat := Int16.toInt_ofNat_of_lt half_lt
    _ = (gap size).toNat / 2 := congrArg Nat.cast half_eq

/-- The box begins no earlier than where the pen is and ends no later than where the pen
goes next. -/
theorem bearingX_add_width_le (metrics : LineMetrics) {moved : UInt16}
    (isAdvance : advance size = .ok moved) :
    0 ≤ (box size metrics).bearingX.toInt ∧
      (box size metrics).bearingX.toInt + (box size metrics).width.toNat ≤ moved.toNat := by
  have size_lt := size.toNat_lt
  have width_eq : (box size metrics).width.toNat = max (size.toNat / 2) 3 := by
    rw [box, UInt16.toNat_toUInt32, toNat_width]
  rw [advance_eq_ok] at isAdvance
  cases isAdvance
  rw [toInt_bearingX_box, width_eq, toNat_width, toNat_gap,
    UInt16.toNat_ofNat_of_lt' (by rw [UInt16.size]; omega)]
  omega

/-- Unless it is too high for its bearing, the box stands on the baseline. -/
theorem toInt_bearingY_box (short : metrics.ascent.toInt ≤ 32767) :
    (box size metrics).bearingY.toInt = (box size metrics).height.toNat := by
  have height_eq := height_box size metrics
  have fits : Word.FitsInt16 (box size metrics).height.toNat := ⟨by omega, by omega⟩
  exact Word.toInt_clampInt16_of_fits fits

end MissingBox

end Inkwell
