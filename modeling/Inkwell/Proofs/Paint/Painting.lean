import Inkwell.Paint.Brush
import Inkwell.Proofs.Paint.Pixels

/-!
# What the drawing operations paint

Each drawing operation paints a region that does not depend on the clip, in one
color, as far as the clip allows.  `Painted` says exactly that of two brushes.
The operations clip in different ways: plotting looks at each pixel, filling
intersects rectangles, and an outline is walked along the stretch of each side
that can lie in the clip.  None of this is seen in the region.
-/

namespace Inkwell

namespace Brush

/-- One brush is another after the points of a region that lie in the clip were
painted.  Nothing but these pixels has changed. -/
structure Painted (region : Int → Int → Prop) (color : Color)
    (before after : Brush) : Prop where
  width_eq : after.canvas.width = before.canvas.width
  height_eq : after.canvas.height = before.canvas.height
  color_eq : after.color = before.color
  clip_eq : after.clip = before.clip
  stroke_eq : after.stroke = before.stroke
  inside : ∀ {x y}, before.clip.contains x y = true → region x y →
    after.canvas.get? x y = (before.canvas.get? x y).map fun _ => color
  outside : ∀ {x y}, ¬ (before.clip.contains x y = true ∧ region x y) →
    after.canvas.get? x y = before.canvas.get? x y

variable {region other : Int → Int → Prop} {color : Color} {b before between after : Brush}

/-- Nothing is painted when no point of the region lies in the clip. -/
theorem painted_self (hidden : ∀ x y, b.clip.contains x y = true → ¬ region x y) :
    Painted region color b b where
  width_eq := rfl
  height_eq := rfl
  color_eq := rfl
  clip_eq := rfl
  stroke_eq := rfl
  inside inClip inRegion := absurd inRegion (hidden _ _ inClip)
  outside _ := rfl

/-- Only the points in the clip matter. -/
theorem Painted.congr (painted : Painted region color before after)
    (same : ∀ x y, before.clip.contains x y = true → (other x y ↔ region x y)) :
    Painted other color before after :=
  { painted with
    inside := fun inClip inOther =>
      painted.inside inClip ((same _ _ inClip).mp inOther)
    outside := fun apart => painted.outside fun ⟨inClip, inRegion⟩ =>
      apart ⟨inClip, (same _ _ inClip).mpr inRegion⟩ }

/-- Painting two regions one after the other paints both. -/
theorem Painted.trans (first : Painted region color before between)
    (second : Painted other color between after) :
    Painted (fun x y => region x y ∨ other x y) color before after where
  width_eq := second.width_eq.trans first.width_eq
  height_eq := second.height_eq.trans first.height_eq
  color_eq := second.color_eq.trans first.color_eq
  clip_eq := second.clip_eq.trans first.clip_eq
  stroke_eq := second.stroke_eq.trans first.stroke_eq
  inside := by
    intro x y inClip inRegions
    have stillInClip : between.clip.contains x y = true := first.clip_eq ▸ inClip
    by_cases inFirst : region x y
    · by_cases inSecond : other x y
      · rw [second.inside stillInClip inSecond, first.inside inClip inFirst,
          Option.map_map]
        rfl
      · rw [second.outside fun both => inSecond both.2, first.inside inClip inFirst]
    · rw [second.inside stillInClip (inRegions.resolve_left inFirst),
        first.outside fun both => inFirst both.2]
  outside := by
    intro x y apart
    have apartFirst : ¬ (before.clip.contains x y = true ∧ region x y) :=
      fun ⟨inClip, inFirst⟩ => apart ⟨inClip, .inl inFirst⟩
    have apartSecond : ¬ (between.clip.contains x y = true ∧ other x y) :=
      fun ⟨inClip, inSecond⟩ => apart ⟨first.clip_eq ▸ inClip, .inr inSecond⟩
    rw [second.outside apartSecond, first.outside apartFirst]

/-- Painting one region in one color has one result. -/
theorem Painted.unique {otherAfter : Brush} (painted : Painted region color before after)
    (otherPainted : Painted other color before otherAfter)
    (same : ∀ x y, before.clip.contains x y = true → (other x y ↔ region x y)) :
    after = otherAfter := by
  have asPainted := otherPainted.congr fun x y inClip => (same x y inClip).symm
  have canvas : after.canvas = otherAfter.canvas := by
    apply Canvas.eq_of_get?_eq
    · exact painted.width_eq.trans asPainted.width_eq.symm
    · exact painted.height_eq.trans asPainted.height_eq.symm
    · intro x y
      by_cases inside : before.clip.contains x y = true ∧ region x y
      · rw [painted.inside inside.1 inside.2, asPainted.inside inside.1 inside.2]
      · rw [painted.outside inside, asPainted.outside inside]
  have sameColor := painted.color_eq.trans asPainted.color_eq.symm
  have sameClip := painted.clip_eq.trans asPainted.clip_eq.symm
  have sameStroke := painted.stroke_eq.trans asPainted.stroke_eq.symm
  cases after
  cases otherAfter
  subst canvas sameColor sameClip sameStroke
  rfl

/-! ## Single pixels and filled rectangles -/

/-- Painting one pixel. -/
theorem painted_paint (b : Brush) (color : Color) (x y : Int) :
    Painted (fun px py => px = x ∧ py = y) color b (b.paint color x y) := by
  unfold paint
  by_cases inClip : b.clip.contains x y = true
  · rw [if_pos inClip]
    constructor
    case inside =>
      intro px py _ same
      rw [Canvas.get?_set, if_pos same]
    case outside =>
      intro px py apart
      rw [Canvas.get?_set, if_neg]
      rintro ⟨rfl, rfl⟩
      exact apart ⟨inClip, rfl, rfl⟩
    all_goals simp
  · rw [if_neg inClip]
    apply painted_self
    rintro px py pxInClip ⟨rfl, rfl⟩
    exact inClip pxInClip

theorem painted_plot (b : Brush) (x y : Int) :
    Painted (fun px py => px = x ∧ py = y) b.color.solid b (b.plot x y) :=
  b.painted_paint b.color.solid x y

/-- Filling a part of the clip. -/
theorem painted_fill (b : Brush) (color : Color) (area : Rect)
    (shape : ∀ x y, area.contains x y = true ↔
      region x y ∧ b.clip.contains x y = true) :
    Painted region color b { b with canvas := b.canvas.fill area color } := by
  constructor
  case inside =>
    intro x y inClip inRegion
    rw [Canvas.get?_fill, if_pos ((shape x y).mpr ⟨inRegion, inClip⟩)]
  case outside =>
    intro x y apart
    rw [Canvas.get?_fill, if_neg]
    intro inArea
    exact apart ((shape x y).mp inArea).symm
  all_goals simp

theorem painted_fillRect (b : Brush) (rect : Rect) :
    Painted (fun x y => rect.contains x y = true) b.color b (b.fillRect rect) :=
  b.painted_fill b.color _ fun x y => Rect.contains_intersect rect b.clip x y

theorem painted_clear (b : Brush) (color : Color) :
    Painted (fun _ _ => True) color b (b.clear color) :=
  b.painted_fill color _ fun _ _ => by simp

end Brush

/-! ## Outlines -/

namespace Side

/-- Every step of a side that lies in the clip is one of the window's. -/
theorem mem_window {side : Side} {clip : Rect} {step : Nat}
    (inSide : step < side.length)
    (inClip : clip.contains (side.point step).1 (side.point step).2 = true) :
    (side.window clip).1 ≤ step ∧ step < (side.window clip).2 := by
  rw [Rect.contains_iff] at inClip
  obtain ⟨x, y, heading, length⟩ := side
  cases heading <;>
    simp only [point, window, window.clamped] at * <;>
    omega

theorem window_le (side : Side) (clip : Rect) :
    (side.window clip).2 ≤ side.length := by
  unfold window
  split <;> exact Nat.min_le_left _ _

/-- The pixels of sides that a stroke paints when the first side begins some steps
into the outline. -/
def Strokes (stroke : Stroke) : List Side → Nat → Int → Int → Prop
  | [], _, _, _ => False
  | side :: rest, offset, x, y =>
      (∃ step < side.length, stroke.paints (offset + step) = true ∧
        side.point step = (x, y)) ∨
      Strokes stroke rest (offset + side.length) x y

end Side

namespace Brush

/-- Painting the pixel at a step of an outline if the stroke does. -/
theorem painted_step (b : Brush) (step : Nat) (x y : Int) :
    Painted (fun px py => b.stroke.paints step = true ∧ px = x ∧ py = y) b.color b
      (if b.stroke.paints step then b.paint b.color x y else b) := by
  by_cases paints : b.stroke.paints step = true
  · rw [if_pos paints]
    exact (b.painted_paint b.color x y).congr fun _ _ _ => and_iff_right paints
  · rw [if_neg paints]
    exact painted_self fun _ _ _ painted => paints painted.1

theorem painted_paintSide (side : Side) (offset first count : Nat) (b : Brush) :
    Painted
      (fun x y => ∃ step, first ≤ step ∧ step < first + count ∧
        b.stroke.paints (offset + step) = true ∧ side.point step = (x, y))
      b.color b (paintSide side offset first count b) := by
  induction count generalizing first b with
  | zero =>
      apply painted_self
      rintro x y _ ⟨step, fromFirst, toStop, _⟩
      omega
  | succ count inductionHypothesis =>
      rw [paintSide]
      have head := b.painted_step (offset + first) (side.point first).1 (side.point first).2
      have tail := inductionHypothesis (first + 1)
        (if b.stroke.paints (offset + first) then
          b.paint b.color (side.point first).1 (side.point first).2
        else
          b)
      rw [head.color_eq, head.stroke_eq] at tail
      apply (head.trans tail).congr
      intro x y _
      constructor
      · rintro ⟨step, fromFirst, toStop, stepPaints, isPoint⟩
        rcases Nat.eq_or_lt_of_le fromFirst with rfl | later
        · exact .inl ⟨stepPaints, by rw [isPoint], by rw [isPoint]⟩
        · exact .inr ⟨step, later, by omega, stepPaints, isPoint⟩
      · rintro (⟨paints, rfl, rfl⟩ | ⟨step, later, toStop, stepPaints, isPoint⟩)
        · exact ⟨first, Nat.le_refl first, by omega, paints, rfl⟩
        · exact ⟨step, by omega, by omega, stepPaints, isPoint⟩

/-- Visiting only the windows of the sides paints all that the stroke paints: the
steps that are left out lie outside the clip, and the phase of the stroke is counted
over whole sides. -/
theorem painted_paintSides (sides : List Side) (offset : Nat) (b : Brush) :
    Painted (Side.Strokes b.stroke sides offset) b.color b
      (paintSides sides offset b) := by
  induction sides generalizing offset b with
  | nil => exact painted_self fun _ _ _ => id
  | cons side rest inductionHypothesis =>
      rw [paintSides]
      have head := painted_paintSide side offset (side.window b.clip).1
        ((side.window b.clip).2 - (side.window b.clip).1) b
      have tail := inductionHypothesis (offset + side.length)
        (paintSide side offset (side.window b.clip).1
          ((side.window b.clip).2 - (side.window b.clip).1) b)
      rw [head.color_eq, head.stroke_eq] at tail
      apply (head.trans tail).congr
      intro x y inClip
      have windowEnd := side.window_le b.clip
      constructor
      · rintro (⟨step, inSide, paints, isPoint⟩ | inRest)
        · have pointInClip : b.clip.contains (side.point step).1
              (side.point step).2 = true := by
            rw [isPoint]
            exact inClip
          have inWindow := Side.mem_window inSide pointInClip
          exact .inl ⟨step, inWindow.1, by omega, paints, isPoint⟩
        · exact .inr inRest
      · rintro (⟨step, fromFirst, toStop, paints, isPoint⟩ | inRest)
        · exact .inl ⟨step, by omega, paints, isPoint⟩
        · exact .inr inRest

end Brush

namespace Rect

/-- The last column and row of a rectangle that is not empty are words, so every
rectangle has its sides. -/
theorem exists_sides (r : Rect) : ∃ sides, r.sides = .ok sides := by
  unfold sides
  by_cases empty : r.isEmpty = true
  · rw [if_pos empty]
    exact ⟨[], rfl⟩
  · rw [if_neg empty]
    have x_fits := Word.fitsInt32_toInt r.x
    have y_fits := Word.fitsInt32_toInt r.y
    have right_eq := r.toInt_right
    have bottom_eq := r.toInt_bottom
    rw [isEmpty_iff] at empty
    unfold Word.FitsInt32 at x_fits y_fits
    have column_fits : Word.FitsInt32 (r.right.toInt - 1) := by
      unfold Word.FitsInt32
      omega
    have row_fits : Word.FitsInt32 (r.bottom.toInt - 1) := by
      unfold Word.FitsInt32
      omega
    unfold lastColumn lastRow Word.exactInt32
    rw [if_pos column_fits, if_pos row_fits]
    exact ⟨_, rfl⟩

/-- The pixels of the border that a stroke paints. -/
def Outlines (r : Rect) (stroke : Stroke) (x y : Int) : Prop :=
  ∃ sides, r.sides = .ok sides ∧ Side.Strokes stroke sides 0 x y

end Rect

namespace Brush

/-- Drawing an outline always returns. -/
theorem painted_drawRect (b : Brush) (rect : Rect) :
    ∃ after, b.drawRect rect = .ok after ∧
      Painted (rect.Outlines b.stroke) b.color b after := by
  obtain ⟨sides, isSides⟩ := rect.exists_sides
  have returns : b.drawRect rect = .ok (paintSides sides 0 b) := by
    unfold drawRect
    rw [isSides]
    rfl
  have painted := painted_paintSides sides 0 b
  refine ⟨paintSides sides 0 b, returns, painted.congr fun x y _ => ?_⟩
  constructor
  · rintro ⟨others, isOthers, strokes⟩
    cases isSides.symm.trans isOthers
    exact strokes
  · intro strokes
    exact ⟨sides, isSides, strokes⟩

end Brush

end Inkwell
