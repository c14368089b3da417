import Inkwell.Proofs.Paint.Painting

/-!
# Walking a border

An outline is a walk around a rectangle: clockwise from its top left corner, over every
pixel of its border once.  The number of a pixel on the walk is its clockwise distance from
that corner, so that a dotted stroke paints the pixels at even distances.  Drawing looks at
no more of the walk than can lie in the clip, and paints what painting the whole walk pixel
by pixel does.
-/

namespace Inkwell

/-! ## Walks -/

namespace Side

/-- The pixels of sides, one side after the other. -/
def walk (sides : List Side) : List (Int × Int) := sides.flatMap points

theorem length_points (side : Side) : side.points.length = side.length := by
  simp [points]

theorem getElem?_points_eq_some_iff {side : Side} {step : Nat} {pixel : Int × Int} :
    side.points[step]? = some pixel ↔ step < side.length ∧ side.point step = pixel := by
  simp only [List.getElem?_eq_some_iff, points, List.length_map, List.length_range,
    List.getElem_map, List.getElem_range, exists_prop]

@[simp]
theorem getElem?_walk_nil (step : Nat) : (walk [])[step]? = none := rfl

/-- A step of a walk belongs to its first side or to the others. -/
theorem getElem?_walk_cons {side : Side} {rest : List Side} {step : Nat}
    {pixel : Int × Int} :
    (walk (side :: rest))[step]? = some pixel ↔
      (step < side.length ∧ side.point step = pixel) ∨
      ∃ later, step = side.length + later ∧ (walk rest)[later]? = some pixel := by
  rw [walk, List.flatMap_cons]
  by_cases inside : step < side.length
  · rw [List.getElem?_append_left (by rwa [length_points]), getElem?_points_eq_some_iff]
    refine (or_iff_left ?_).symm
    rintro ⟨later, rfl, _⟩
    omega
  · obtain ⟨later, rfl⟩ := Nat.exists_eq_add_of_le (Nat.not_lt.mp inside)
    rw [List.getElem?_append_right (by rw [length_points]; omega), length_points,
      Nat.add_sub_cancel_left, or_iff_right fun first => inside first.1]
    constructor
    · exact fun found => ⟨later, rfl, found⟩
    · rintro ⟨other, same, found⟩
      rwa [Nat.add_left_cancel same]

/-- The pixels that a stroke paints are those that the walk reaches at one of the steps
that the stroke paints. -/
theorem strokes_iff {stroke : Stroke} {sides : List Side} {offset : Nat} {x y : Int} :
    Strokes stroke sides offset x y ↔
      ∃ step, (walk sides)[step]? = some (x, y) ∧ stroke.paints (offset + step) = true := by
  induction sides generalizing offset with
  | nil => simp [Strokes]
  | cons side rest inductionHypothesis =>
      simp only [Strokes, inductionHypothesis, getElem?_walk_cons]
      constructor
      · rintro (⟨step, inside, paints, isPoint⟩ | ⟨later, isPoint, paints⟩)
        · exact ⟨step, .inl ⟨inside, isPoint⟩, paints⟩
        · exact ⟨_, .inr ⟨later, rfl, isPoint⟩, Nat.add_assoc _ _ later ▸ paints⟩
      · rintro ⟨step, ⟨inside, isPoint⟩ | ⟨later, rfl, isPoint⟩, paints⟩
        · exact .inl ⟨step, inside, paints, isPoint⟩
        · exact .inr ⟨later, isPoint, (Nat.add_assoc _ _ later).symm ▸ paints⟩

end Side

namespace Brush

/-- Paint the pixels of a walk one after the other, from a step of the outline on. -/
def trace : List (Int × Int) → Nat → Brush → Brush
  | [], _, b => b
  | pixel :: rest, step, b =>
      trace rest (step + 1)
        (if b.stroke.paints step then b.paint b.color pixel.1 pixel.2 else b)

theorem painted_trace (walk : List (Int × Int)) (step : Nat) (b : Brush) :
    Painted (fun x y => ∃ i, walk[i]? = some (x, y) ∧ b.stroke.paints (step + i) = true)
      b.color b (trace walk step b) := by
  induction walk generalizing step b with
  | nil =>
      apply painted_self
      rintro x y _ ⟨i, found, _⟩
      cases found
  | cons pixel rest inductionHypothesis =>
      rw [trace]
      have head := b.painted_step step pixel.1 pixel.2
      have tail := inductionHypothesis (step + 1)
        (if b.stroke.paints step then b.paint b.color pixel.1 pixel.2 else b)
      rw [head.color_eq, head.stroke_eq] at tail
      apply (head.trans tail).congr
      intro x y _
      constructor
      · rintro ⟨i, found, paints⟩
        cases i with
        | zero =>
            cases found
            exact .inl ⟨paints, rfl, rfl⟩
        | succ i =>
            refine .inr ⟨i, found, ?_⟩
            rwa [Nat.add_assoc, Nat.add_comm 1]
      · rintro (⟨paints, rfl, rfl⟩ | ⟨i, found, paints⟩)
        · exact ⟨0, rfl, paints⟩
        · refine ⟨i + 1, found, ?_⟩
          rwa [Nat.add_comm i, ← Nat.add_assoc]

/-- Painting of each side only what can lie in the clip does the same as painting the whole
walk pixel by pixel. -/
theorem paintSides_eq_trace (sides : List Side) (b : Brush) :
    paintSides sides 0 b = trace (Side.walk sides) 0 b :=
  (painted_paintSides sides 0 b).unique (painted_trace (Side.walk sides) 0 b)
    fun _ _ _ => Side.strokes_iff.symm

end Brush

/-! ## Borders -/

namespace Rect

/-- The walk around a rectangle. -/
def walk (r : Rect) : Checked (List (Int × Int)) := do
  let sides ← r.sides
  pure (Side.walk sides)

/-- The point lies on the first or last column or row of the rectangle. -/
def OnBorder (r : Rect) (x y : Int) : Prop :=
  r.contains x y = true ∧
    (x = r.x.toInt ∨ x = r.right.toInt - 1 ∨ y = r.y.toInt ∨ y = r.bottom.toInt - 1)

instance (r : Rect) (x y : Int) : Decidable (r.OnBorder x y) :=
  inferInstanceAs (Decidable (_ ∧ _))

/-- How far a point of the border is from the top left corner: along the top row to the
right, down the right column, along the bottom row to the left, and up the left column. -/
def clockwise (r : Rect) (x y : Int) : Int :=
  if y = r.y.toInt then x - r.x.toInt
  else if x = r.right.toInt - 1 then r.width.toInt - 1 + (y - r.y.toInt)
  else if y = r.bottom.toInt - 1 then
    r.width.toInt - 1 + (r.height.toInt - 1) + (r.right.toInt - 1 - x)
  else
    r.width.toInt - 1 + (r.height.toInt - 1) + (r.width.toInt - 1) +
      (r.bottom.toInt - 1 - y)

/-- The rectangle has pixels, and its edges lie within the coordinate space. -/
structure Proper (r : Rect) : Prop where
  nonempty : r.isEmpty = false
  right : r.x.toInt + r.width.toInt ≤ 2147483647
  bottom : r.y.toInt + r.height.toInt ≤ 2147483647

variable {r : Rect}

theorem Proper.extents_pos (proper : r.Proper) : 0 < r.width.toInt ∧ 0 < r.height.toInt := by
  have nonempty := proper.nonempty
  rw [← Bool.not_eq_true, isEmpty_iff] at nonempty
  omega

theorem Proper.toInt_right (proper : r.Proper) :
    r.right.toInt = r.x.toInt + r.width.toInt := by
  have x_fits := Word.fitsInt32_toInt r.x
  have extents_pos := proper.extents_pos
  have inside := proper.right
  rw [Rect.toInt_right]
  unfold Word.FitsInt32 at x_fits
  omega

theorem Proper.toInt_bottom (proper : r.Proper) :
    r.bottom.toInt = r.y.toInt + r.height.toInt := by
  have y_fits := Word.fitsInt32_toInt r.y
  have extents_pos := proper.extents_pos
  have inside := proper.bottom
  rw [Rect.toInt_bottom]
  unfold Word.FitsInt32 at y_fits
  omega

/-- The walk along the border whose last column and row are `w` and `h` away from its first
ones.  A border one pixel high has no bottom row of its own, and one that is one pixel wide
no left column. -/
theorem walk_sidesBetween (left top : Int) (w h : Nat) :
    ∃ bottomLength leftLength : Nat,
      (0 < h ∧ bottomLength = w ∨ h = 0 ∧ bottomLength = 0) ∧
      (0 < w ∧ leftLength = h - 1 ∨ w = 0 ∧ leftLength = 0) ∧
      Side.walk (sidesBetween left top (left + w) (top + h)) =
        Side.walk [⟨left, top, .east, w + 1⟩, ⟨left + w, top + 1, .south, h⟩,
          ⟨left + w - 1, top + h, .west, bottomLength⟩,
          ⟨left, top + h - 1, .north, leftLength⟩] := by
  have topLength : (left + w + 1 - left).toNat = w + 1 := by omega
  have rightLength : (top + h - top).toNat = h := by omega
  have bottomLength : (left + w - left).toNat = w := by omega
  have leftLength : (top + h - (top + 1)).toNat = h - 1 := by omega
  have isTall : top < top + h ↔ 0 < h := by omega
  have isBroad : left < left + w ↔ 0 < w := by omega
  simp only [sidesBetween, topLength, rightLength, bottomLength, leftLength, isTall, isBroad]
  refine ⟨if 0 < h then w else 0, if 0 < w then h - 1 else 0, by split <;> omega,
    by split <;> omega, ?_⟩
  by_cases tall : 0 < h <;> by_cases broad : 0 < w <;>
    simp [tall, broad, Side.walk, Side.points]

/-- Where the walk is at a step, side by side. -/
theorem getElem?_walk_sidesBetween {left top x y : Int} {w h step : Nat} :
    (Side.walk (sidesBetween left top (left + w) (top + h)))[step]? = some (x, y) ↔
      (y = top ∧ (left ≤ x ∧ x ≤ left + w) ∧ (step : Int) = x - left) ∨
      (x = left + w ∧ (top < y ∧ y ≤ top + h) ∧ (step : Int) = w + (y - top)) ∨
      (y = top + h ∧ top < y ∧ (left ≤ x ∧ x < left + w) ∧
        (step : Int) = w + h + (left + w - x)) ∨
      (x = left ∧ 0 < w ∧ (top < y ∧ y < top + h) ∧
        (step : Int) = w + h + w + (top + h - y)) := by
  obtain ⟨bottomLength, leftLength, isBottom, isLeft, walk_eq⟩ :=
    walk_sidesBetween left top w h
  rw [walk_eq]
  simp only [Side.getElem?_walk_cons, Side.point, Prod.mk.injEq, Side.getElem?_walk_nil,
    reduceCtorEq, and_false, exists_false, or_false]
  constructor
  · rintro (⟨inside, rfl, rfl⟩ | ⟨_, rfl, ⟨inside, rfl, rfl⟩ | ⟨_, rfl, ⟨inside, rfl, rfl⟩ |
      ⟨_, rfl, inside, rfl, rfl⟩⟩⟩)
    · exact .inl ⟨rfl, by omega, by omega⟩
    · exact .inr (.inl ⟨rfl, by omega, by omega⟩)
    · exact .inr (.inr (.inl ⟨rfl, by omega, by omega, by omega⟩))
    · exact .inr (.inr (.inr ⟨rfl, by omega, by omega, by omega⟩))
  · rintro (⟨rfl, inside, isStep⟩ | ⟨rfl, inside, isStep⟩ | ⟨rfl, tall, inside, isStep⟩ |
      ⟨rfl, broad, inside, isStep⟩)
    · exact .inl ⟨by omega, by omega, rfl⟩
    · exact .inr ⟨step - (w + 1), by omega, .inl ⟨by omega, rfl, by omega⟩⟩
    · exact .inr ⟨step - (w + 1), by omega, .inr ⟨step - (w + 1) - h, by omega,
        .inl ⟨by omega, by omega, rfl⟩⟩⟩
    · exact .inr ⟨step - (w + 1), by omega, .inr ⟨step - (w + 1) - h, by omega,
        .inr ⟨step - (w + 1) - h - w, by omega, by omega, rfl, by omega⟩⟩⟩

theorem length_walk_sidesBetween (left top : Int) (w h : Nat) :
    (Side.walk (sidesBetween left top (left + w) (top + h))).length =
      if w = 0 ∨ h = 0 then max w h + 1 else 2 * w + 2 * h := by
  obtain ⟨bottomLength, leftLength, isBottom, isLeft, walk_eq⟩ :=
    walk_sidesBetween left top w h
  rw [walk_eq]
  simp only [Side.walk, List.flatMap_cons, List.flatMap_nil, List.length_append,
    Side.length_points, List.length_nil]
  split <;> omega

/-! ## The walk around a rectangle -/

/-- The sides of a proper rectangle lie between its first and last column and row. -/
theorem Proper.exists_sides (proper : r.Proper) : ∃ w h : Nat,
    r.width.toInt = w + 1 ∧ r.height.toInt = h + 1 ∧
    r.sides = .ok (sidesBetween r.x.toInt r.y.toInt (r.x.toInt + w) (r.y.toInt + h)) := by
  obtain ⟨width_pos, height_pos⟩ := proper.extents_pos
  obtain ⟨w, width_eq⟩ := Int.eq_ofNat_of_zero_le (Int.sub_nonneg_of_le width_pos)
  obtain ⟨h, height_eq⟩ := Int.eq_ofNat_of_zero_le (Int.sub_nonneg_of_le height_pos)
  obtain ⟨sides, isSides⟩ := r.exists_sides
  refine ⟨w, h, by omega, by omega, ?_⟩
  have computed := isSides
  rw [Rect.sides, proper.nonempty, if_neg Bool.false_ne_true] at computed
  obtain ⟨lastColumn, isColumn, computed⟩ := Checked.bind_eq_ok_iff.mp computed
  obtain ⟨lastRow, isRow, computed⟩ := Checked.bind_eq_ok_iff.mp computed
  have column_eq : lastColumn.toInt = r.x.toInt + w := by
    rw [Word.exactInt32_eq_ok_iff.mp isColumn, proper.toInt_right]
    omega
  have row_eq : lastRow.toInt = r.y.toInt + h := by
    rw [Word.exactInt32_eq_ok_iff.mp isRow, proper.toInt_bottom]
    omega
  rw [column_eq, row_eq] at computed
  rw [isSides, ← computed]
  rfl

/-- A walk goes over every pixel of the border once, each at its distance from the top left
corner. -/
structure WalkedBy (r : Rect) (walk : List (Int × Int)) : Prop where
  nodup : walk.Nodup
  mem_iff : ∀ x y, (x, y) ∈ walk ↔ r.OnBorder x y
  step_eq : ∀ (step : Nat) (x y : Int), walk[step]? = some (x, y) →
    r.clockwise x y = step
  length_eq : (walk.length : Int) =
    if r.width = 1 ∨ r.height = 1 then max r.width.toInt r.height.toInt
    else 2 * r.width.toInt + 2 * r.height.toInt - 4

/-- The walk around a proper rectangle is at a pixel of the border after as many steps as
the pixel is away. -/
theorem Proper.getElem?_walk (proper : r.Proper) {walk : List (Int × Int)}
    (isWalk : r.walk = .ok walk) {step : Nat} {x y : Int} :
    walk[step]? = some (x, y) ↔ r.OnBorder x y ∧ r.clockwise x y = step := by
  obtain ⟨w, h, width_eq, height_eq, isSides⟩ := proper.exists_sides
  rw [Rect.walk, isSides] at isWalk
  cases isWalk
  rw [getElem?_walk_sidesBetween, OnBorder, contains_iff, clockwise, proper.toInt_right,
    proper.toInt_bottom, width_eq, height_eq]
  constructor
  · rintro (⟨isTop, inside, isStep⟩ | ⟨isRight, inside, isStep⟩ |
      ⟨isBottom, tall, inside, isStep⟩ | ⟨isLeft, broad, inside, isStep⟩)
    · rw [if_pos isTop]
      exact ⟨⟨by omega, by omega⟩, by omega⟩
    · rw [if_neg (by omega), if_pos (by omega)]
      exact ⟨⟨by omega, by omega⟩, by omega⟩
    · rw [if_neg (by omega), if_neg (by omega), if_pos (by omega)]
      exact ⟨⟨by omega, by omega⟩, by omega⟩
    · rw [if_neg (by omega), if_neg (by omega), if_neg (by omega)]
      exact ⟨⟨by omega, by omega⟩, by omega⟩
  · rintro ⟨⟨inside, onEdge⟩, isStep⟩
    split at isStep
    · exact .inl ⟨by omega, by omega, by omega⟩
    split at isStep
    · exact .inr (.inl ⟨by omega, by omega, by omega⟩)
    split at isStep
    · exact .inr (.inr (.inl ⟨by omega, by omega, by omega, by omega⟩))
    · exact .inr (.inr (.inr ⟨by omega, by omega, by omega, by omega⟩))

theorem Proper.clockwise_nonneg (proper : r.Proper) {x y : Int} (onBorder : r.OnBorder x y) :
    0 ≤ r.clockwise x y := by
  have extents_pos := proper.extents_pos
  have inside := contains_iff.mp onBorder.1
  rw [clockwise]
  split
  · omega
  split
  · omega
  split <;> omega

theorem Proper.walkedBy (proper : r.Proper) {walk : List (Int × Int)}
    (isWalk : r.walk = .ok walk) : r.WalkedBy walk := by
  constructor
  case nodup =>
      apply List.pairwise_iff_getElem.mpr
      intro i j inside otherInside before same
      rcases isPixel : walk[i] with ⟨x, y⟩
      have first := (proper.getElem?_walk isWalk).mp
        ((List.getElem?_eq_getElem inside).trans (congrArg some isPixel))
      have second := (proper.getElem?_walk isWalk).mp
        ((List.getElem?_eq_getElem otherInside).trans (congrArg some (same.symm.trans isPixel)))
      have sameStep : (i : Int) = j := first.2.symm.trans second.2
      omega
  case mem_iff =>
      intro x y
      rw [List.mem_iff_getElem?]
      constructor
      · rintro ⟨step, found⟩
        exact ((proper.getElem?_walk isWalk).mp found).1
      · intro onBorder
        refine ⟨(r.clockwise x y).toNat, (proper.getElem?_walk isWalk).mpr ⟨onBorder, ?_⟩⟩
        exact (Int.toNat_of_nonneg (proper.clockwise_nonneg onBorder)).symm
  case step_eq => exact fun step x y found => ((proper.getElem?_walk isWalk).mp found).2
  case length_eq =>
      obtain ⟨w, h, width_eq, height_eq, isSides⟩ := proper.exists_sides
      have isThin : (r.width = 1 ∨ r.height = 1) ↔ (w = 0 ∨ h = 0) := by
        rw [← Int32.toInt_inj, ← Int32.toInt_inj, width_eq, height_eq, Int32.toInt_one]
        omega
      rw [Rect.walk, isSides] at isWalk
      cases isWalk
      rw [length_walk_sidesBetween, width_eq, height_eq]
      simp only [isThin]
      split <;> omega

end Rect

/-! ## Outlines -/

namespace Brush

/-- Painting the walk around a proper rectangle paints the pixels of its border at the
distances that the stroke paints. -/
theorem painted_border (b : Brush) {rect : Rect} (proper : rect.Proper)
    {walk : List (Int × Int)} (isWalk : rect.walk = .ok walk) :
    Painted
      (fun x y => rect.OnBorder x y ∧ b.stroke.paints (rect.clockwise x y).toNat = true)
      b.color b (trace walk 0 b) := by
  apply (painted_trace walk 0 b).congr
  intro x y _
  simp only [proper.getElem?_walk isWalk, Nat.zero_add]
  constructor
  · rintro ⟨onBorder, paints⟩
    have nonneg := proper.clockwise_nonneg onBorder
    exact ⟨_, ⟨onBorder, (Int.toNat_of_nonneg nonneg).symm⟩, paints⟩
  · rintro ⟨step, ⟨onBorder, isStep⟩, paints⟩
    rw [isStep, Int.toNat_natCast]
    exact ⟨onBorder, paints⟩

/-- Drawing the outline of a rectangle always returns, and it paints the walk around the
rectangle pixel by pixel; an empty rectangle has none.  If the rectangle is not empty and
its edges lie within the coordinate space, the walk goes over every pixel of its border once,
each at its clockwise distance from the top left corner.  A solid stroke then paints the
pixels of the border that lie in the clip, a dotted one those of them at even distances, and
nothing else has changed. -/
theorem outline_walks_border_once (b : Brush) (rect : Rect) :
    ∃ walk after, rect.walk = .ok walk ∧ b.drawRect rect = .ok after ∧
      after = trace walk 0 b ∧
      (rect.isEmpty = true → after = b) ∧
      (rect.Proper →
        rect.WalkedBy walk ∧
        (b.stroke = .solid → Painted rect.OnBorder b.color b after) ∧
        (b.stroke = .dotted →
          Painted (fun x y => rect.OnBorder x y ∧ rect.clockwise x y % 2 = 0)
            b.color b after)) := by
  obtain ⟨sides, isSides⟩ := rect.exists_sides
  have isWalk : rect.walk = .ok (Side.walk sides) := by
    rw [Rect.walk, isSides]
    rfl
  have drawn : b.drawRect rect = .ok (trace (Side.walk sides) 0 b) := by
    rw [drawRect, isSides, ← paintSides_eq_trace]
    rfl
  refine ⟨Side.walk sides, _, isWalk, drawn, rfl, fun isEmpty => ?_, fun proper => ?_⟩
  · rw [Rect.sides, if_pos isEmpty] at isSides
    cases isSides
    rfl
  · have painted := b.painted_border proper isWalk
    refine ⟨proper.walkedBy isWalk, fun solid => ?_, fun dotted => ?_⟩
    · refine painted.congr fun x y _ => ?_
      rw [solid]
      exact (and_iff_left rfl).symm
    · refine painted.congr fun x y _ => and_congr_right fun onBorder => ?_
      have nonneg := proper.clockwise_nonneg onBorder
      simp only [dotted, Stroke.paints, beq_iff_eq]
      omega

/-- A dotted brush on a small canvas. -/
def dottedBrush : Brush :=
  { ofCanvas (Canvas.blank 4 5) with stroke := .dotted }

/-- A rectangle whose left column lies outside of the canvas. -/
def cutFrame : Rect := ⟨-1, 1, 4, 3⟩

/-- Of the right column the pixel at distance four is painted and the corner before it is
not. -/
theorem outline_walks_border_once_cutFrame : ∃ walk after,
    cutFrame.Proper ∧ dottedBrush.drawRect cutFrame = .ok after ∧
    cutFrame.WalkedBy walk ∧ walk.length = 10 ∧
    after.canvas.get? 2 2 = some Color.black ∧
    after.canvas.get? 2 1 = some Color.transparent := by
  have proper : cutFrame.Proper := ⟨by decide, by decide, by decide⟩
  obtain ⟨walk, after, _, drawn, _, _, outlined⟩ :=
    outline_walks_border_once dottedBrush cutFrame
  obtain ⟨walkedBy, _, dotted⟩ := outlined proper
  have painted := dotted rfl
  have length_eq : (walk.length : Int) = 10 := walkedBy.length_eq.trans (by decide)
  refine ⟨walk, after, proper, drawn, walkedBy, by omega, ?_, ?_⟩
  · exact (painted.inside (by decide) ⟨by decide, by decide⟩).trans (by decide)
  · exact (painted.outside fun inside => absurd inside.2.2 (by decide)).trans (by decide)

end Brush

end Inkwell
