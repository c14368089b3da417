import Inkwell.Proofs.Paint.Intersection

/-!
# Filling is setting pixels one by one

A fill computes where its rectangle lies in the storage and writes whole spans, without
looking at single pixels.  No span leaves the storage, and the result is that of setting
each pixel of the rectangle by itself, in whatever order.  Edits of either kind keep the
size of a canvas.
-/

namespace Inkwell

/-- A change to a canvas. -/
inductive CanvasEdit where
  /-- Set one pixel. -/
  | set (p : Point) (color : Color)
  /-- Fill a rectangle. -/
  | fill (rect : Rect) (color : Color)

namespace Canvas

/-- Make a change. -/
def edit (c : Canvas) : CanvasEdit → Canvas
  | .set p color => c.set p.x.toInt p.y.toInt color
  | .fill rect color => c.fill rect color

/-- Make changes one after the other. -/
def editAll (c : Canvas) : List CanvasEdit → Canvas
  | [] => c
  | change :: rest => (c.edit change).editAll rest

/-- Set pixels one after the other to one color. -/
def setEach (c : Canvas) (color : Color) : List Point → Canvas
  | [] => c
  | p :: rest => (c.set p.x.toInt p.y.toInt color).setEach color rest

/-- The list holds the points of a rectangle that lie on the canvas, in any order and any
number of times. -/
def Lists (c : Canvas) (rect : Rect) (points : List Point) : Prop :=
  ∀ p, p ∈ points ↔ p ∈ c.points ∧ p ∈ rect.points

/-- The spans of an area lie in the storage: its corner is at no negative place, the rows
from its corner to its bottom edge are as many as its height, and each of them ends before
the storage does. -/
structure SpansFit (c : Canvas) (area : Rect) : Prop where
  left_nonneg : 0 ≤ area.x.toInt
  top_nonneg : 0 ≤ area.y.toInt
  bottom_eq : area.bottom.toInt = area.y.toInt + area.height.toInt
  span_le : ∀ row < area.height.toInt.toNat,
    c.index area.x.toInt area.y.toInt + row * c.width.toNat + area.width.toInt.toNat ≤
      c.pixels.size

variable {c : Canvas} {rect : Rect} {color : Color}

/-! ## Edits -/

theorem sameSize_edit (c : Canvas) (change : CanvasEdit) : (c.edit change).SameSize c := by
  cases change with
  | set p color => exact sameSize_of_extents (width_set ..) (height_set ..)
  | fill rect color => exact sameSize_of_extents (width_fill ..) (height_fill ..)

theorem sameSize_editAll (c : Canvas) (changes : List CanvasEdit) :
    (c.editAll changes).SameSize c := by
  induction changes generalizing c with
  | nil => exact sameSize_of_extents rfl rfl
  | cons change rest inductionHypothesis =>
      have first := c.sameSize_edit change
      have others := inductionHypothesis (c.edit change)
      exact sameSize_of_extents (others.1.trans first.1) (others.2.1.trans first.2.1)

/-! ## Spans -/

/-- The part of a rectangle on the canvas ends at the last row of the canvas, or before. -/
theorem rows_intersect_bounds (nonempty : ¬ (rect.intersect c.bounds).isEmpty = true) :
    (rect.intersect c.bounds).y.toInt + (rect.intersect c.bounds).height.toInt ≤
      c.height.toNat := by
  obtain ⟨_, _, _, bottom_eq⟩ := Rect.edges_intersect nonempty
  have edge := c.bounds.toInt_bottom
  simp only [bounds, Word.toInt_clampInt32, Int32.toInt_zero] at *
  omega

theorem spansFit_intersect_bounds (nonempty : ¬ (rect.intersect c.bounds).isEmpty = true) :
    c.SpansFit (rect.intersect c.bounds) := by
  obtain ⟨left, top, right⟩ := columns_intersect_bounds nonempty
  have bottom := rows_intersect_bounds nonempty
  have extents := mt Rect.isEmpty_iff.mpr nonempty
  obtain ⟨_, _, _, bottom_eq⟩ := Rect.edges_intersect nonempty
  constructor
  case left_nonneg => exact left
  case top_nonneg => exact top
  case bottom_eq =>
      rw [Rect.bottom, bottom_eq, Word.toInt_clampInt32_of_fits]
      exact Rect.fits_min (Word.fitsInt32_toInt _) (Word.fitsInt32_toInt _)
  case span_le =>
      intro row inRows
      generalize rect.intersect c.bounds = area at *
      -- The span ends in the row in which it begins, and this row lies on the canvas.
      have inRow : area.x.toInt.toNat + area.width.toInt.toNat ≤ c.width.toNat := by
        omega
      calc
        c.index area.x.toInt area.y.toInt + row * c.width.toNat + area.width.toInt.toNat
          ≤ (area.y.toInt.toNat + row + 1) * c.width.toNat := by
            rw [index, Nat.add_mul, Nat.add_mul]
            omega
        _ ≤ c.height.toNat * c.width.toNat := Nat.mul_le_mul_right _ (by omega)
        _ = c.pixels.size := by rw [c.size_eq, Nat.mul_comm]

/-! ## Pixel by pixel -/

theorem sameSize_setEach (c : Canvas) (color : Color) (points : List Point) :
    (c.setEach color points).SameSize c := by
  induction points generalizing c with
  | nil => exact sameSize_of_extents rfl rfl
  | cons p rest inductionHypothesis =>
      have others := inductionHypothesis (c.set p.x.toInt p.y.toInt color)
      exact sameSize_of_extents (others.1.trans (width_set ..))
        (others.2.1.trans (height_set ..))

/-- Reading after setting pixels one after the other. -/
theorem get?_setEach (c : Canvas) (color : Color) (points : List Point) (x y : Int) :
    (c.setEach color points).get? x y =
      if ∃ p ∈ points, p.x.toInt = x ∧ p.y.toInt = y then (c.get? x y).map fun _ => color
      else c.get? x y := by
  induction points generalizing c with
  | nil => simp [setEach]
  | cons p rest inductionHypothesis =>
      rw [setEach, inductionHypothesis, get?_set]
      by_cases first : x = p.x.toInt ∧ y = p.y.toInt
      · have listed : ∃ q ∈ p :: rest, q.x.toInt = x ∧ q.y.toInt = y :=
          ⟨p, List.mem_cons_self, first.1.symm, first.2.symm⟩
        rw [if_pos first, if_pos listed, Option.map_map]
        split <;> rfl
      · rw [if_neg first]
        congr 1
        apply propext
        constructor
        · rintro ⟨q, inRest, same⟩
          exact ⟨q, List.mem_cons_of_mem p inRest, same⟩
        · rintro ⟨q, listed, rfl, rfl⟩
          rcases List.mem_cons.mp listed with rfl | inRest
          · exact absurd ⟨rfl, rfl⟩ first
          · exact ⟨q, inRest, rfl, rfl⟩

/-- A pixel that a rectangle contains has a point of the coordinate space. -/
theorem exists_point {x y : Int} (covered : c.covers x y = true)
    (inside : rect.contains x y = true) :
    ∃ p : Point, p.x.toInt = x ∧ p.y.toInt = y := by
  have limit := Rect.lt_limit_of_contains inside
  obtain ⟨inColumns, inRows⟩ := covers_iff.mp covered
  refine ⟨⟨Word.clampInt32 x, Word.clampInt32 y⟩, ?_, ?_⟩
  · exact Word.toInt_clampInt32_of_fits ⟨by omega, by omega⟩
  · exact Word.toInt_clampInt32_of_fits ⟨by omega, by omega⟩

theorem fill_eq_setEach {points : List Point} (lists : c.Lists rect points) :
    c.fill rect color = c.setEach color points := by
  have sameSize := c.sameSize_setEach color points
  apply eq_of_get?_eq
  · exact (width_fill ..).trans sameSize.1.symm
  · exact (height_fill ..).trans sameSize.2.1.symm
  intro x y
  rw [get?_fill, get?_setEach]
  by_cases covered : c.covers x y = true
  · congr 1
    apply propext
    constructor
    · intro inside
      obtain ⟨p, rfl, rfl⟩ := exists_point covered inside
      exact ⟨p, (lists p).mpr ⟨covered, inside⟩, rfl, rfl⟩
    · rintro ⟨p, listed, rfl, rfl⟩
      exact ((lists p).mp listed).2
  · have unread : c.get? x y = none := if_neg covered
    rw [unread, Option.map_none, ite_self, ite_self]

/-- The points of a rectangle that lie on the canvas, row after row. -/
def pointsIn (c : Canvas) (rect : Rect) : List Point :=
  (List.range c.height.toNat).flatMap fun y : Nat =>
    ((List.range c.width.toNat).filter fun x : Nat => rect.contains x y).map fun x : Nat =>
      ⟨Word.clampInt32 x, Word.clampInt32 y⟩

theorem lists_pointsIn (c : Canvas) (rect : Rect) : c.Lists rect (c.pointsIn rect) := by
  intro p
  simp only [pointsIn, List.mem_flatMap, List.mem_map, List.mem_filter, List.mem_range]
  constructor
  · rintro ⟨y, inRows, x, ⟨inColumns, inside⟩, rfl⟩
    have limit := Rect.lt_limit_of_contains inside
    have x_eq : (Word.clampInt32 x).toInt = x :=
      Word.toInt_clampInt32_of_fits ⟨by omega, by omega⟩
    have y_eq : (Word.clampInt32 y).toInt = y :=
      Word.toInt_clampInt32_of_fits ⟨by omega, by omega⟩
    rw [mem_points, Rect.mem_points, covers_iff, x_eq, y_eq]
    exact ⟨by omega, inside⟩
  · rintro ⟨covered, inside⟩
    obtain ⟨inColumns, inRows⟩ := covers_iff.mp covered
    have x_eq := Int.toNat_of_nonneg inColumns.1
    have y_eq := Int.toNat_of_nonneg inRows.1
    refine ⟨p.y.toInt.toNat, by omega, p.x.toInt.toNat, ⟨by omega, ?_⟩, ?_⟩
    · rw [x_eq, y_eq]
      exact inside
    · rw [x_eq, y_eq, Word.clampInt32_toInt, Word.clampInt32_toInt]

/-- A list holds the points of a rectangle on the canvas if it holds those that are listed
row after row. -/
theorem lists_iff_pointsIn {points : List Point} :
    c.Lists rect points ↔
      (∀ p ∈ points, p ∈ c.pointsIn rect) ∧ ∀ p ∈ c.pointsIn rect, p ∈ points := by
  have inRows := c.lists_pointsIn rect
  constructor
  · intro lists
    exact ⟨fun p listed => (inRows p).mpr ((lists p).mp listed),
      fun p listed => (lists p).mpr ((inRows p).mp listed)⟩
  · rintro ⟨sound, complete⟩ p
    exact ⟨fun listed => (inRows p).mp (sound p listed),
      fun inside => complete p ((inRows p).mpr inside)⟩

instance (c : Canvas) (rect : Rect) (points : List Point) : Decidable (c.Lists rect points) :=
  decidable_of_iff _ lists_iff_pointsIn.symm

/-- Take any canvas and any rectangle.  The spans that a fill writes lie in the storage.
The points of the rectangle on the canvas can be listed, and a fill results in the same
canvas as setting them one after the other, however they are listed.  Afterwards the pixels
in the rectangle have the new color, and whatever else is read is as it was before.  Edits
keep the extents of the canvas and the number of its pixels. -/
theorem fill_sets_each_pixel (c : Canvas) (rect : Rect) (color : Color) :
    (¬ (rect.intersect c.bounds).isEmpty = true → c.SpansFit (rect.intersect c.bounds)) ∧
    (∃ points, c.Lists rect points) ∧
    (∀ points, c.Lists rect points → c.fill rect color = c.setEach color points) ∧
    (∀ p ∈ c.points ∩ rect.points, (c.fill rect color).get? p.x.toInt p.y.toInt = some color) ∧
    (∀ p ∉ c.points ∩ rect.points,
      (c.fill rect color).get? p.x.toInt p.y.toInt = c.get? p.x.toInt p.y.toInt) ∧
    ∀ changes, (c.editAll changes).SameSize c := by
  refine ⟨spansFit_intersect_bounds, ⟨_, c.lists_pointsIn rect⟩, fun _ => fill_eq_setEach, ?_,
    ?_, c.sameSize_editAll⟩
  · rintro p ⟨covered, inside⟩
    obtain ⟨previous, isPrevious⟩ := exists_get? covered
    rw [get?_fill, if_pos (Rect.mem_points.mp inside), isPrevious, Option.map_some]
  · intro p outside
    rw [get?_fill]
    split
    · rename_i inside
      have unread : c.get? p.x.toInt p.y.toInt = none :=
        if_neg fun covered => outside ⟨covered, inside⟩
      rw [unread, Option.map_none]
    · rfl

/-- A rectangle that begins before the canvas and ends after it. -/
def wideRect : Rect := ⟨-5, 1, 100, 2147483647⟩

/-- The points of the wide rectangle on a canvas of two columns and three rows, one of them
twice. -/
def widePoints : List Point := [⟨1, 2⟩, ⟨0, 1⟩, ⟨0, 2⟩, ⟨1, 1⟩, ⟨0, 2⟩]

/-- The order in which the pixels are set does not matter, and the first row stays as it
is. -/
theorem fill_sets_each_pixel_wideRect :
    (blank 2 3).SpansFit (wideRect.intersect (blank 2 3).bounds) ∧
    (blank 2 3).Lists wideRect widePoints ∧
    (blank 2 3).fill wideRect Color.black = (blank 2 3).setEach Color.black widePoints ∧
    ((blank 2 3).fill wideRect Color.black).get? 1 2 = some Color.black ∧
    ((blank 2 3).fill wideRect Color.black).get? 1 0 = some Color.transparent := by
  obtain ⟨spans, _, pixels, inside, outside, _⟩ :=
    fill_sets_each_pixel (blank 2 3) wideRect Color.black
  have lists : (blank 2 3).Lists wideRect widePoints := by
    decide
  exact ⟨spans (by decide), lists, pixels widePoints lists,
    inside ⟨1, 2⟩ ⟨by decide, by decide⟩, outside ⟨1, 0⟩ fun both => absurd both.2 (by decide)⟩

end Canvas

end Inkwell
