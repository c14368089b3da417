import Mathlib.Data.Set.Basic
import Inkwell.Paint.Brush
import Inkwell.Proofs.Paint.Pixels

/-!
# Intersecting rectangles is intersecting sets

A rectangle stands for the set of points of the coordinate space that it contains.
Whatever the signs of the extents are and wherever the edges stop, the intersection of two
rectangles stands for the intersection of their sets, so that the laws of sets hold of it.
Its extents are the exact distances of its edges, and it is empty only if the rectangles
have no point in common.
-/

namespace Inkwell

namespace Rect

/-- The points of the coordinate space that a rectangle contains. -/
def points (r : Rect) : Set Point := {p | r.contains p.x.toInt p.y.toInt = true}

/-- Along some axis one rectangle ends where the other begins, or before. -/
def Apart (r s : Rect) : Prop :=
  min r.right.toInt s.right.toInt ≤ max r.x.toInt s.x.toInt ∨
    min r.bottom.toInt s.bottom.toInt ≤ max r.y.toInt s.y.toInt

instance (r : Rect) (p : Point) : Decidable (p ∈ r.points) :=
  inferInstanceAs (Decidable (_ = true))

instance (r s : Rect) : Decidable (r.Apart s) := inferInstanceAs (Decidable (_ ∨ _))

variable {r s : Rect}

theorem intersect_of_apart (apart : r.Apart s) :
    r.intersect s =
      ⟨Word.clampInt32 (max r.x.toInt s.x.toInt), Word.clampInt32 (max r.y.toInt s.y.toInt),
        0, 0⟩ :=
  if_pos apart

theorem intersect_of_meet (meet : ¬ r.Apart s) :
    r.intersect s =
      ⟨Word.clampInt32 (max r.x.toInt s.x.toInt), Word.clampInt32 (max r.y.toInt s.y.toInt),
        Word.clampInt32 (min r.right.toInt s.right.toInt - max r.x.toInt s.x.toInt),
        Word.clampInt32 (min r.bottom.toInt s.bottom.toInt - max r.y.toInt s.y.toInt)⟩ :=
  if_neg meet

/-- Only rectangles that are apart have an empty intersection. -/
theorem isEmpty_intersect_iff : (r.intersect s).isEmpty = true ↔ r.Apart s := by
  by_cases apart : r.Apart s
  · rw [intersect_of_apart apart]
    exact iff_of_true rfl apart
  · refine iff_of_false ?_ apart
    rw [isEmpty_iff, intersect_of_meet apart]
    simp only [Word.toInt_clampInt32]
    unfold Apart at apart
    omega

theorem mem_points {p : Point} : p ∈ r.points ↔ r.contains p.x.toInt p.y.toInt = true :=
  Iff.rfl

theorem mem_points_intersect {p : Point} :
    p ∈ (r.intersect s).points ↔ p ∈ r.points ∧ p ∈ s.points :=
  contains_intersect r s p.x.toInt p.y.toInt

theorem points_intersect (r s : Rect) : (r.intersect s).points = r.points ∩ s.points :=
  Set.ext fun _ => mem_points_intersect

/-- Rectangles that are not apart have the corner of their intersection in common. -/
theorem origin_mem_points_intersect (meet : ¬ r.Apart s) :
    (r.intersect s).origin ∈ (r.intersect s).points := by
  rw [← isEmpty_intersect_iff] at meet
  have extents := mt isEmpty_iff.mpr meet
  refine (contains_intersect_iff meet).mpr ?_
  simp only [origin]
  omega

theorem points_disjoint_iff : r.points ∩ s.points = ∅ ↔ r.Apart s := by
  constructor
  · intro disjoint
    by_contra meet
    have corner := origin_mem_points_intersect meet
    rw [points_intersect, disjoint] at corner
    exact corner
  · intro apart
    rw [← points_intersect]
    exact Set.eq_empty_of_forall_notMem fun p =>
      not_contains_of_isEmpty (isEmpty_intersect_iff.mpr apart) p.x.toInt p.y.toInt

/-- The extents of an intersection are the exact distances of its edges: the limit to the
range of words takes no effect. -/
theorem extents_intersect (r s : Rect) :
    (r.intersect s).width.toInt =
        (if r.Apart s then 0 else min r.right.toInt s.right.toInt - max r.x.toInt s.x.toInt) ∧
      (r.intersect s).height.toInt =
        (if r.Apart s then 0
          else min r.bottom.toInt s.bottom.toInt - max r.y.toInt s.y.toInt) := by
  by_cases apart : r.Apart s
  · rw [if_pos apart, if_pos apart, intersect_of_apart apart]
    exact ⟨rfl, rfl⟩
  · obtain ⟨x_eq, y_eq, right_eq, bottom_eq⟩ :=
      edges_intersect (mt isEmpty_intersect_iff.mp apart)
    rw [if_neg apart, if_neg apart]
    omega

theorem extents_intersect_nonneg (r s : Rect) :
    0 ≤ (r.intersect s).width.toInt ∧ 0 ≤ (r.intersect s).height.toInt := by
  obtain ⟨width_eq, height_eq⟩ := extents_intersect r s
  rw [width_eq, height_eq]
  split
  · exact ⟨Int.le_refl 0, Int.le_refl 0⟩
  · rename_i meet
    unfold Apart at meet
    omega

end Rect

namespace Canvas

/-- The points of the coordinate space that are pixels of a canvas. -/
def points (c : Canvas) : Set Point := {p | c.covers p.x.toInt p.y.toInt = true}

instance (c : Canvas) (p : Point) : Decidable (p ∈ c.points) :=
  inferInstanceAs (Decidable (_ = true))

theorem mem_points {c : Canvas} {p : Point} :
    p ∈ c.points ↔ c.covers p.x.toInt p.y.toInt = true :=
  Iff.rfl

theorem mem_points_of_bounds {c : Canvas} {p : Point} (inside : p ∈ c.bounds.points) :
    p ∈ c.points := by
  have edges := Rect.contains_iff.mp inside
  rw [Rect.toInt_right, Rect.toInt_bottom] at edges
  simp only [bounds, Word.toInt_clampInt32, Int32.toInt_zero] at edges
  exact covers_iff.mpr (by omega)

end Canvas

/-- A clip keeps the points of the rectangle that lie on the canvas. -/
theorem Brush.points_clip_setClip (b : Brush) (r : Rect) :
    (b.setClip r).clip.points = r.points ∩ b.canvas.points := by
  ext p
  rw [setClip, Rect.mem_points_intersect]
  exact and_congr_right fun inside =>
    ⟨Canvas.mem_points_of_bounds, fun covered => Canvas.bounds_contains covered inside⟩

/-- The intersection of two rectangles contains exactly the points that both contain.  Its
extents are never negative: without a common point they are zero, and otherwise they are
the exact distances of the edges.  It is empty precisely if there is no common point.
Up to the points that are contained, the order and the grouping of the rectangles do not
matter, and a rectangle is its own intersection with itself.  The clip of a brush contains
the points of its rectangle that lie on the canvas and no others. -/
theorem Rect.intersection_is_common_points (r s t : Rect) (b : Brush) :
    (r.intersect s).points = r.points ∩ s.points ∧
    (0 ≤ (r.intersect s).width.toInt ∧ 0 ≤ (r.intersect s).height.toInt) ∧
    ((r.intersect s).isEmpty = true ↔ r.points ∩ s.points = ∅) ∧
    ((r.intersect s).width.toInt =
        (if r.Apart s then 0 else min r.right.toInt s.right.toInt - max r.x.toInt s.x.toInt) ∧
      (r.intersect s).height.toInt =
        (if r.Apart s then 0
          else min r.bottom.toInt s.bottom.toInt - max r.y.toInt s.y.toInt)) ∧
    (r.intersect s).points = (s.intersect r).points ∧
    ((r.intersect s).intersect t).points = (r.intersect (s.intersect t)).points ∧
    (r.intersect r).points = r.points ∧
    (b.setClip r).clip.points = r.points ∩ b.canvas.points := by
  refine ⟨points_intersect r s, extents_intersect_nonneg r s,
    isEmpty_intersect_iff.trans points_disjoint_iff.symm, extents_intersect r s, ?_, ?_, ?_,
    b.points_clip_setClip r⟩
  · rw [points_intersect, points_intersect, Set.inter_comm]
  · simp only [points_intersect, Set.inter_assoc]
  · rw [points_intersect, Set.inter_self]

/-- Edges that stop at the limit of the coordinate space, and a negative extent. -/
example :
    (Rect.mk 2147483640 (-3) 100 8).intersect ⟨2147483645, 0, 100, 100⟩ =
      ⟨2147483645, 0, 2, 5⟩ ∧
    (Rect.mk 0 0 4 (-1)).intersect ⟨0, 0, 4, 4⟩ = ⟨0, 0, 0, 0⟩ := by
  decide

end Inkwell
