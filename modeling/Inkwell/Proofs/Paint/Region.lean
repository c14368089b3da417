import Inkwell.Paint.Canvas

/-!
# Rectangles as sets of points

The edges of a rectangle stop at the limit of the coordinate space, and an
intersection stores an extent that is computed again from its edges.  It still
contains exactly the common points: the distance of its edges is at most the
extent of the rectangle whose corner lies further in, so nothing is cut off.
-/

namespace Inkwell

namespace Rect

theorem toInt_right (r : Rect) :
    r.right.toInt = max (-2147483648) (min 2147483647 (r.x.toInt + r.width.toInt)) :=
  Word.toInt_clampInt32 _

theorem toInt_bottom (r : Rect) :
    r.bottom.toInt = max (-2147483648) (min 2147483647 (r.y.toInt + r.height.toInt)) :=
  Word.toInt_clampInt32 _

theorem contains_iff {r : Rect} {px py : Int} :
    r.contains px py = true ↔
      (r.x.toInt ≤ px ∧ px < r.right.toInt) ∧
        (r.y.toInt ≤ py ∧ py < r.bottom.toInt) := by
  simp [contains, and_assoc]

/-- No rectangle reaches the last column or row of the coordinate space. -/
theorem lt_limit_of_contains {r : Rect} {px py : Int}
    (inside : r.contains px py = true) : px < 2147483647 ∧ py < 2147483647 := by
  rw [contains_iff, toInt_right, toInt_bottom] at inside
  omega

theorem isEmpty_iff {r : Rect} :
    r.isEmpty = true ↔ r.width.toInt ≤ 0 ∨ r.height.toInt ≤ 0 := by
  simp [isEmpty, Int32.le_iff_toInt_le]

/-- An empty rectangle contains no point. -/
theorem not_contains_of_isEmpty {r : Rect} (isEmpty : r.isEmpty = true)
    (px py : Int) : ¬ r.contains px py = true := by
  have x_fits := Word.fitsInt32_toInt r.x
  have y_fits := Word.fitsInt32_toInt r.y
  rw [isEmpty_iff] at isEmpty
  rw [contains_iff, toInt_right, toInt_bottom]
  unfold Word.FitsInt32 at x_fits y_fits
  omega

theorem fits_min {m n : Int} (m_fits : Word.FitsInt32 m)
    (n_fits : Word.FitsInt32 n) : Word.FitsInt32 (min m n) := by
  unfold Word.FitsInt32 at *
  omega

/-- Along one axis, from the inner corner of two spans to their inner edge: both
the corner and the distance are values of words. -/
theorem span_fits {x extent otherX edge otherEdge : Int}
    (x_fits : Word.FitsInt32 x) (extent_fits : Word.FitsInt32 extent)
    (other_fits : Word.FitsInt32 otherX)
    (edge_eq : edge = max (-2147483648) (min 2147483647 (x + extent)))
    (apart : max x otherX < min edge otherEdge) :
    Word.FitsInt32 (max x otherX) ∧
      Word.FitsInt32 (min edge otherEdge - max x otherX) := by
  unfold Word.FitsInt32 at *
  omega

/-- The edges of an intersection that is not empty, and its extents, which are
their distances. -/
theorem edges_intersect {r s : Rect} (nonempty : ¬ (r.intersect s).isEmpty = true) :
    (r.intersect s).x.toInt = max r.x.toInt s.x.toInt ∧
    (r.intersect s).y.toInt = max r.y.toInt s.y.toInt ∧
    (r.intersect s).x.toInt + (r.intersect s).width.toInt =
      min r.right.toInt s.right.toInt ∧
    (r.intersect s).y.toInt + (r.intersect s).height.toInt =
      min r.bottom.toInt s.bottom.toInt := by
  rw [isEmpty_iff] at nonempty
  revert nonempty
  unfold intersect
  dsimp only
  split
  · intro nonempty
    simp at nonempty
  · rename_i apart
    intro _
    simp only [not_or, Int.not_le] at apart
    obtain ⟨x_fits, width_fits⟩ := span_fits (Word.fitsInt32_toInt r.x)
      (Word.fitsInt32_toInt r.width) (Word.fitsInt32_toInt s.x) r.toInt_right
      apart.1
    obtain ⟨y_fits, height_fits⟩ := span_fits (Word.fitsInt32_toInt r.y)
      (Word.fitsInt32_toInt r.height) (Word.fitsInt32_toInt s.y) r.toInt_bottom
      apart.2
    rw [Word.toInt_clampInt32_of_fits x_fits, Word.toInt_clampInt32_of_fits y_fits,
      Word.toInt_clampInt32_of_fits width_fits,
      Word.toInt_clampInt32_of_fits height_fits]
    exact ⟨rfl, rfl, (Int.add_comm _ _).trans (Int.sub_add_cancel _ _),
      (Int.add_comm _ _).trans (Int.sub_add_cancel _ _)⟩

/-- The points of an intersection, counted from its corner by its extents. -/
theorem contains_intersect_iff {r s : Rect}
    (nonempty : ¬ (r.intersect s).isEmpty = true) {px py : Int} :
    (r.intersect s).contains px py = true ↔
      ((r.intersect s).x.toInt ≤ px ∧
        px < (r.intersect s).x.toInt + (r.intersect s).width.toInt) ∧
      ((r.intersect s).y.toInt ≤ py ∧
        py < (r.intersect s).y.toInt + (r.intersect s).height.toInt) := by
  obtain ⟨_, _, right_eq, bottom_eq⟩ := edges_intersect nonempty
  have right_fits := fits_min (Word.fitsInt32_toInt r.right)
    (Word.fitsInt32_toInt s.right)
  have bottom_fits := fits_min (Word.fitsInt32_toInt r.bottom)
    (Word.fitsInt32_toInt s.bottom)
  rw [contains_iff, right, bottom, right_eq, bottom_eq,
    Word.toInt_clampInt32_of_fits right_fits,
    Word.toInt_clampInt32_of_fits bottom_fits]

/-- The points of an intersection are the common points. -/
theorem contains_intersect (r s : Rect) (px py : Int) :
    (r.intersect s).contains px py = true ↔
      r.contains px py = true ∧ s.contains px py = true := by
  by_cases empty : (r.intersect s).isEmpty = true
  · have noPoint := not_contains_of_isEmpty empty px py
    constructor
    · intro inside
      exact absurd inside noPoint
    · rintro ⟨inR, inS⟩
      rw [contains_iff] at inR inS
      rw [isEmpty_iff] at empty
      revert empty
      unfold intersect
      dsimp only
      split
      · omega
      · simp only [Word.toInt_clampInt32]
        omega
  · obtain ⟨x_eq, y_eq, right_eq, bottom_eq⟩ := edges_intersect empty
    rw [contains_intersect_iff empty, right_eq, bottom_eq, x_eq, y_eq, Int.max_le,
      Int.max_le, Int.lt_min, Int.lt_min, contains_iff, contains_iff]
    omega

end Rect

end Inkwell
