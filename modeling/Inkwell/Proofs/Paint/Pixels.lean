import Inkwell.Proofs.Paint.Region

/-!
# Reading a canvas after writing to it

Setting a pixel and filling a rectangle are described by what is read afterwards:
the pixels that were written hold the new color and all others what they held
before.  A fill writes spans of the pixel array; read back by columns and rows,
these spans are the points of the rectangle, because a pixel has only one row and
column.
-/

namespace Inkwell

namespace Canvas

/-! ## Writing to the pixel array -/

theorem getElem?_setIfInBounds (pixels : Array Color) (color : Color) (i j : Nat) :
    (pixels.setIfInBounds i color)[j]? =
      if i = j then pixels[j]?.map (fun _ => color) else pixels[j]? := by
  rw [Array.getElem?_setIfInBounds]
  split
  · rename_i same
    subst same
    split
    · rename_i inBounds
      simp [inBounds]
    · rename_i outOfBounds
      simp [outOfBounds]
  · rfl

theorem getElem?_fillSpan (color : Color) (start count : Nat)
    (pixels : Array Color) (i : Nat) :
    (fillSpan color start count pixels)[i]? =
      if start ≤ i ∧ i < start + count then pixels[i]?.map (fun _ => color)
      else pixels[i]? := by
  induction count generalizing pixels with
  | zero =>
      rw [if_neg (by omega)]
      rfl
  | succ count inductionHypothesis =>
      rw [fillSpan, inductionHypothesis, getElem?_setIfInBounds]
      by_cases last : start + count = i
      · rw [if_pos last, if_neg (by omega), if_pos (by omega)]
      · rw [if_neg last]
        congr 1
        exact propext (by omega)

theorem getElem?_fillRows (color : Color) (start width stride rows : Nat)
    (pixels : Array Color) (i : Nat) :
    (fillRows color start width stride rows pixels)[i]? =
      if ∃ row < rows, start + row * stride ≤ i ∧ i < start + row * stride + width
      then pixels[i]?.map (fun _ => color) else pixels[i]? := by
  induction rows generalizing pixels with
  | zero => simp [fillRows]
  | succ rows inductionHypothesis =>
      rw [fillRows, inductionHypothesis, getElem?_fillSpan]
      by_cases last : start + rows * stride ≤ i ∧ i < start + rows * stride + width
      · have inRows : ∃ row < rows + 1, start + row * stride ≤ i ∧
            i < start + row * stride + width :=
          ⟨rows, Nat.lt_succ_self rows, last⟩
        rw [if_pos last, if_pos inRows, Option.map_map]
        split <;> rfl
      · rw [if_neg last]
        congr 1
        apply propext
        constructor
        · rintro ⟨row, inRows, inSpan⟩
          exact ⟨row, Nat.lt_succ_of_lt inRows, inSpan⟩
        · rintro ⟨row, inRows, inSpan⟩
          rcases Nat.lt_succ_iff_lt_or_eq.mp inRows with inRows | rfl
          · exact ⟨row, inRows, inSpan⟩
          · exact absurd inSpan last

/-! ## Reading by column and row -/

/-- A place in a grid has only one row and column. -/
theorem row_column_unique {stride row column otherRow otherColumn : Nat}
    (inside : column < stride) (otherInside : otherColumn < stride)
    (same : row * stride + column = otherRow * stride + otherColumn) :
    row = otherRow ∧ column = otherColumn := by
  have positive : 0 < stride := Nat.zero_lt_of_lt inside
  have rowOf : ∀ r c, c < stride → (r * stride + c) / stride = r := by
    intro r c bound
    rw [Nat.mul_comm, Nat.mul_add_div positive, Nat.div_eq_of_lt bound,
      Nat.add_zero]
  have sameRow : row = otherRow := by
    rw [← rowOf row column inside, same, rowOf _ _ otherInside]
  subst sameRow
  exact ⟨rfl, Nat.add_left_cancel same⟩

theorem covers_iff {c : Canvas} {x y : Int} :
    c.covers x y = true ↔
      (0 ≤ x ∧ x < c.width.toNat) ∧ (0 ≤ y ∧ y < c.height.toNat) := by
  simp [covers, and_assoc]

/-- Two pixels of a canvas are stored in one place only when they are the same. -/
theorem index_eq_iff {c : Canvas} {x y px py : Int} (covered : c.covers x y = true)
    (otherCovered : c.covers px py = true) :
    c.index x y = c.index px py ↔ px = x ∧ py = y := by
  rw [covers_iff] at covered otherCovered
  constructor
  · intro same
    obtain ⟨sameRow, sameColumn⟩ :=
      row_column_unique (by omega) (by omega) same
    omega
  · rintro ⟨rfl, rfl⟩
    rfl

@[simp]
theorem width_set (c : Canvas) (x y : Int) (color : Color) :
    (c.set x y color).width = c.width := by
  unfold set
  split <;> rfl

@[simp]
theorem height_set (c : Canvas) (x y : Int) (color : Color) :
    (c.set x y color).height = c.height := by
  unfold set
  split <;> rfl

@[simp]
theorem width_fill (c : Canvas) (rect : Rect) (color : Color) :
    (c.fill rect color).width = c.width := by
  unfold fill
  dsimp only
  split <;> rfl

@[simp]
theorem height_fill (c : Canvas) (rect : Rect) (color : Color) :
    (c.fill rect color).height = c.height := by
  unfold fill
  dsimp only
  split <;> rfl

/-- Two canvases have the same extents and number of pixels. -/
def SameSize (c d : Canvas) : Prop :=
  c.width = d.width ∧ c.height = d.height ∧
    c.pixels.size = d.width.toNat * d.height.toNat

theorem sameSize_of_extents {c d : Canvas} (width : c.width = d.width)
    (height : c.height = d.height) : c.SameSize d :=
  ⟨width, height, by rw [c.size_eq, width, height]⟩

/-- Reading a canvas of the same size as another. -/
theorem get?_of_same_size {c d : Canvas} (width : d.width = c.width)
    (height : d.height = c.height) (x y : Int) :
    d.get? x y = if c.covers x y then d.pixels[c.index x y]? else none := by
  unfold get? covers index
  rw [width, height]

/-- Reading after setting one pixel. -/
theorem get?_set (c : Canvas) (x y : Int) (color : Color) (px py : Int) :
    (c.set x y color).get? px py =
      if px = x ∧ py = y then (c.get? px py).map (fun _ => color)
      else c.get? px py := by
  rw [get?_of_same_size (c.width_set x y color) (c.height_set x y color), get?]
  by_cases otherCovered : c.covers px py = true
  · simp only [otherCovered, if_true]
    by_cases covered : c.covers x y = true
    · have read := getElem?_setIfInBounds c.pixels color (c.index x y) (c.index px py)
      simp only [index_eq_iff covered otherCovered] at read
      rw [set, if_pos covered]
      exact read
    · have apart : ¬ (px = x ∧ py = y) := by
        rintro ⟨rfl, rfl⟩
        exact covered otherCovered
      rw [set, if_neg covered, if_neg apart]
  · simp [otherCovered]

/-- Every pixel can be read. -/
theorem exists_get? {c : Canvas} {x y : Int} (covered : c.covers x y = true) :
    ∃ color, c.get? x y = some color := by
  have inside : c.index x y < c.pixels.size := by
    obtain ⟨inColumns, inRows⟩ := covers_iff.mp covered
    rw [c.size_eq, index, Nat.mul_comm c.width.toNat]
    calc
      y.toNat * c.width.toNat + x.toNat
        < (y.toNat + 1) * c.width.toNat := by rw [Nat.add_mul]; omega
      _ ≤ c.height.toNat * c.width.toNat := Nat.mul_le_mul_right _ (by omega)
  rw [get?, if_pos covered]
  exact ⟨_, Array.getElem?_eq_getElem inside⟩

/-- Every place of the storage belongs to a pixel. -/
theorem exists_index_eq {c : Canvas} {i : Nat} (inside : i < c.pixels.size) :
    ∃ x y, c.covers x y = true ∧ c.index x y = i := by
  rw [c.size_eq] at inside
  have width_pos : 0 < c.width.toNat := Nat.pos_of_mul_pos_right (Nat.zero_lt_of_lt inside)
  refine ⟨(i % c.width.toNat : Nat), (i / c.width.toNat : Nat), ?_, ?_⟩
  · have inRow := Nat.mod_lt i width_pos
    have inColumn := Nat.div_lt_of_lt_mul inside
    rw [covers_iff]
    exact ⟨⟨Int.natCast_nonneg _, Int.ofNat_lt.mpr inRow⟩,
      ⟨Int.natCast_nonneg _, Int.ofNat_lt.mpr inColumn⟩⟩
  · rw [index, Int.toNat_natCast, Int.toNat_natCast]
    exact Nat.div_add_mod' i c.width.toNat

/-- Canvases of one size that show the same are the same. -/
theorem eq_of_get?_eq {c d : Canvas} (width : c.width = d.width)
    (height : c.height = d.height) (same : ∀ x y, c.get? x y = d.get? x y) : c = d := by
  have size : c.pixels.size = d.pixels.size := by
    rw [c.size_eq, d.size_eq, width, height]
  have pixels : c.pixels = d.pixels := by
    apply Array.ext size
    intro i inside otherInside
    obtain ⟨x, y, covered, rfl⟩ := exists_index_eq inside
    have shown := same x y
    rw [get?_of_same_size width.symm height.symm, get?, if_pos covered, if_pos covered,
      Array.getElem?_eq_getElem inside, Array.getElem?_eq_getElem otherInside] at shown
    exact Option.some.inj shown
  cases c
  cases d
  subst width height pixels
  rfl

/-- Every pixel that some rectangle contains lies in the bounds: a canvas may be
wider than the coordinate space, but no rectangle reaches that far. -/
theorem bounds_contains {c : Canvas} {rect : Rect} {x y : Int}
    (covered : c.covers x y = true) (inside : rect.contains x y = true) :
    c.bounds.contains x y = true := by
  have limit := Rect.lt_limit_of_contains inside
  rw [covers_iff] at covered
  rw [Rect.contains_iff, Rect.toInt_right, Rect.toInt_bottom]
  simp only [bounds, Word.toInt_clampInt32]
  simp only [Int32.toInt_zero]
  omega

/-- The part of a rectangle on the canvas begins at a pixel and ends inside a
row. -/
theorem columns_intersect_bounds {c : Canvas} {rect : Rect}
    (nonempty : ¬ (rect.intersect c.bounds).isEmpty = true) :
    0 ≤ (rect.intersect c.bounds).x.toInt ∧ 0 ≤ (rect.intersect c.bounds).y.toInt ∧
      (rect.intersect c.bounds).x.toInt + (rect.intersect c.bounds).width.toInt ≤
        c.width.toNat := by
  obtain ⟨x_eq, y_eq, right_eq, _⟩ := Rect.edges_intersect nonempty
  have edge := c.bounds.toInt_right
  rw [x_eq] at right_eq ⊢
  rw [y_eq]
  simp only [bounds, Word.toInt_clampInt32, Int32.toInt_zero] at *
  omega

/-- The spans that a fill writes are the points of its area. -/
theorem index_mem_spans_iff {c : Canvas} {rect : Rect} {px py : Int}
    (nonempty : ¬ (rect.intersect c.bounds).isEmpty = true)
    (covered : c.covers px py = true) :
    (∃ row < (rect.intersect c.bounds).height.toInt.toNat,
      c.index (rect.intersect c.bounds).x.toInt (rect.intersect c.bounds).y.toInt +
          row * c.width.toNat ≤ c.index px py ∧
        c.index px py <
          c.index (rect.intersect c.bounds).x.toInt
            (rect.intersect c.bounds).y.toInt +
          row * c.width.toNat + (rect.intersect c.bounds).width.toInt.toNat) ↔
      (rect.intersect c.bounds).contains px py = true := by
  obtain ⟨left, top, right⟩ := columns_intersect_bounds nonempty
  rw [Rect.contains_intersect_iff nonempty]
  generalize rect.intersect c.bounds = area at *
  rw [covers_iff] at covered
  unfold index
  constructor
  · rintro ⟨row, inRows, fromStart, toStop⟩
    -- The place lies in the span, so its row is the span's and its column is the
    -- distance from the row's beginning.
    have regroup : area.y.toInt.toNat * c.width.toNat + row * c.width.toNat =
        (area.y.toInt.toNat + row) * c.width.toNat := (Nat.add_mul _ _ _).symm
    obtain ⟨column, place⟩ := Nat.exists_eq_add_of_le
      (m := (area.y.toInt.toNat + row) * c.width.toNat)
      (n := py.toNat * c.width.toNat + px.toNat) (by omega)
    obtain ⟨sameRow, sameColumn⟩ :=
      row_column_unique (by omega) (by omega) place
    omega
  · rintro ⟨inColumns, inRows⟩
    have regroup : area.y.toInt.toNat * c.width.toNat +
        (py.toNat - area.y.toInt.toNat) * c.width.toNat =
          py.toNat * c.width.toNat := by
      rw [← Nat.add_mul]
      congr 1
      omega
    exact ⟨py.toNat - area.y.toInt.toNat, by omega, by omega, by omega⟩

/-- Reading after filling a rectangle. -/
theorem get?_fill (c : Canvas) (rect : Rect) (color : Color) (px py : Int) :
    (c.fill rect color).get? px py =
      if rect.contains px py then (c.get? px py).map (fun _ => color)
      else c.get? px py := by
  rw [get?_of_same_size (c.width_fill rect color) (c.height_fill rect color), get?]
  by_cases covered : c.covers px py = true
  · simp only [covered, if_true]
    have inArea : (rect.intersect c.bounds).contains px py = true ↔
        rect.contains px py = true := by
      rw [Rect.contains_intersect]
      exact ⟨And.left, fun inside => ⟨inside, bounds_contains covered inside⟩⟩
    unfold fill
    dsimp only
    by_cases empty : (rect.intersect c.bounds).isEmpty = true
    · have outside : ¬ rect.contains px py = true := fun inside =>
        Rect.not_contains_of_isEmpty empty px py (inArea.mpr inside)
      rw [if_pos empty, if_neg outside]
    · rw [if_neg empty]
      dsimp only
      rw [getElem?_fillRows]
      simp only [index_mem_spans_iff empty covered, inArea]
  · simp [covered]

end Canvas

end Inkwell
