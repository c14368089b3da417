import Inkwell.Layout.Line

/-!
# Lines in frames

Along each axis a line is aligned with a frame: with a side of the box, or with the
origin, which is a frame without extent.  The line begins at the start of its frame, or
further in by the slack between the two or by half of it.  Since all of these are values
of 32-bit words, no computation of them is ever refused.
-/

namespace Inkwell

/-- A computation whose result is far from the limits of its word is not refused. -/
theorem Word.exactInt64_eq_ok {operation : Arith} {n : Int}
    (small : n.natAbs ≤ 9223372036854775807) : exactInt64 operation n = .ok n :=
  exactInt64_eq_ok_iff.mpr ⟨⟨by omega, by omega⟩, rfl⟩

/-! ## Frames -/

/-- How far from the start of its frame a line begins, if the frame is longer than the
line by `slack`. -/
def Alignment.offset (slack : Int) : Alignment → Int
  | .left => 0
  | .center => slack.tdiv 2
  | .right => slack

/-- A line from `low` to `high` stands between `start` and `stop` as the alignment says. -/
def Alignment.Places (start stop low high : Int) : Alignment → Prop
  | .left => low = start
  | .center => ((low - start) - (stop - high)).natAbs ≤ 1
  | .right => high = stop

/-- The anchor that does along the vertical axis what the alignment does along the
horizontal one. -/
def Alignment.vertical : Alignment → VerticalAnchor
  | .left => .top
  | .center => .center
  | .right => .bottom

/-- Only a baseline says nothing about the line box. -/
theorem VerticalAnchor.eq_vertical_of_ne_baseline {vertical : VerticalAnchor}
    (other : vertical ≠ .baseline) : ∃ side : Alignment, vertical = side.vertical := by
  cases vertical with
  | top => exact ⟨.left, rfl⟩
  | baseline => exact absurd rfl other
  | bottom => exact ⟨.right, rfl⟩
  | center => exact ⟨.center, rfl⟩

namespace Alignment

/-- Half of a slack lies within one of the middle, whatever the sign of the slack. -/
theorem offset_center (slack : Int) : (2 * center.offset slack - slack).natAbs ≤ 1 := by
  rw [offset, Int.tdiv_eq_ediv, Int.sign_eq_one_of_pos (by decide)]
  split <;> omega

theorem offset_mem_of_nonneg (side : Alignment) {slack : Int} (nonneg : 0 ≤ slack) :
    0 ≤ side.offset slack ∧ side.offset slack ≤ slack := by
  have half := offset_center slack
  cases side <;> dsimp only [offset] at half ⊢ <;> omega

theorem natAbs_offset_le (side : Alignment) (slack : Int) :
    (side.offset slack).natAbs ≤ slack.natAbs := by
  have half := offset_center slack
  cases side <;> dsimp only [offset] at half ⊢ <;> omega

end Alignment

/-- What a line is aligned with along one axis. -/
structure Frame where
  start : Int32
  extent : Int32

namespace Frame

/-- The frame of the horizontal axis, with the origin at `x`. -/
def ofColumns (x : Int32) : Option Rect → Frame
  | none => ⟨x, 0⟩
  | some box => ⟨box.x, box.width⟩

/-- The frame of the vertical axis, with the origin at `y`. -/
def ofRows (y : Int32) : Option Rect → Frame
  | none => ⟨y, 0⟩
  | some box => ⟨box.y, box.height⟩

/-- The exact end of the frame. -/
def stop (f : Frame) : Int := f.start.toInt + f.extent.toInt

@[simp]
theorem stop_ofColumns_none (x : Int32) : (ofColumns x none).stop = x.toInt := by
  simp [stop, ofColumns]

@[simp]
theorem stop_ofRows_none (y : Int32) : (ofRows y none).stop = y.toInt := by
  simp [stop, ofRows]

/-- Where a line of the given length begins. -/
def lineStart (f : Frame) (side : Alignment) (length : Int32) : Int :=
  f.start.toInt + side.offset (f.extent.toInt - length.toInt)

variable (f : Frame) (side : Alignment) (length : Int32)

theorem natAbs_lineStart_le : (f.lineStart side length).natAbs ≤ 6442450943 := by
  have startFits := Word.fitsInt32_toInt f.start
  have extentFits := Word.fitsInt32_toInt f.extent
  have lengthFits := Word.fitsInt32_toInt length
  have offset_le := side.natAbs_offset_le (f.extent.toInt - length.toInt)
  unfold Word.FitsInt32 at startFits extentFits lengthFits
  unfold lineStart
  omega

theorem places_lineStart : side.Places f.start.toInt f.stop (f.lineStart side length)
    (f.lineStart side length + length.toInt) := by
  have half := Alignment.offset_center (f.extent.toInt - length.toInt)
  cases side <;>
    dsimp only [Alignment.Places, lineStart, stop, Alignment.offset] at half ⊢ <;> omega

/-- A line that is no longer than its frame stands inside. -/
theorem lineStart_inside (short : length.toInt ≤ f.extent.toInt) :
    f.start.toInt ≤ f.lineStart side length ∧
      f.lineStart side length + length.toInt ≤ f.stop := by
  have inside := side.offset_mem_of_nonneg (Int.sub_nonneg_of_le short)
  unfold lineStart stop
  omega

end Frame

namespace Line

variable {glyphs : List LooseGlyph} {origin : Point} {options : LineOptions}
  {metrics : LineMetrics} {run : Run}

/-! ## Edges -/

/-- The left edge of a line is where the line begins in its frame. -/
theorem startX_eq_ok (alignment : Alignment) (box : Option Rect) (x width : Int32) :
    startX alignment box x.toInt width.toInt =
      .ok ((Frame.ofColumns x box).lineStart alignment width) := by
  have bounded := (Frame.ofColumns x box).natAbs_lineStart_le alignment width
  cases box with
  | none =>
      cases alignment <;>
        simp only [startX, Frame.ofColumns, Frame.lineStart, Alignment.offset,
          Int32.toInt_zero, Int.zero_sub, Int.neg_tdiv, Int.add_zero] at bounded ⊢
      case left => rfl
      case center => exact Word.exactInt64_eq_ok (by omega)
      case right => exact Word.exactInt64_eq_ok (by omega)
  | some b =>
      have widthFits := Word.fitsInt32_toInt width
      have extentFits := Word.fitsInt32_toInt b.width
      unfold Word.FitsInt32 at widthFits extentFits
      cases alignment <;>
        simp only [startX, Frame.ofColumns, Frame.lineStart, Alignment.offset, Int.add_zero]
          at bounded ⊢
      case left => rfl
      case center =>
          exact Checked.bind_eq_ok_iff.mpr
            ⟨_, Word.exactInt64_eq_ok (by omega), Word.exactInt64_eq_ok (by omega)⟩
      case right =>
          rw [← Int.add_sub_assoc]
          exact Checked.bind_eq_ok_iff.mpr
            ⟨_, Word.exactInt64_eq_ok (by omega), Word.exactInt64_eq_ok (by omega)⟩

/-- Unless the baseline itself is anchored, the baseline of a line lies below its top, and
the top is where the line box begins in its frame. -/
theorem baselineY_eq_ok_of_side (side : Alignment) (box : Option Rect) (y : Int32)
    {height : Int32} (isHeight : metrics.height = .ok height) :
    baselineY side.vertical box y.toInt height.toInt metrics.ascent.toInt
        metrics.descent.toInt =
      .ok ((Frame.ofRows y box).lineStart side height + metrics.ascent.toInt) := by
  have bounded := (Frame.ofRows y box).natAbs_lineStart_le side height
  have height_eq := Word.exactInt32_eq_ok_iff.mp isHeight
  have ascentFits := Word.fitsInt32_toInt metrics.ascent
  unfold Word.FitsInt32 at ascentFits
  cases box with
  | none =>
      cases side <;>
        simp only [Alignment.vertical, baselineY, Frame.ofRows, Frame.lineStart,
          Alignment.offset, Int32.toInt_zero, Int.zero_sub, Int.neg_tdiv, Int.add_zero]
          at bounded ⊢
      case left => exact Word.exactInt64_eq_ok (by omega)
      case center =>
          exact Checked.bind_eq_ok_iff.mpr
            ⟨_, Word.exactInt64_eq_ok (by omega), Word.exactInt64_eq_ok (by omega)⟩
      case right =>
          rw [show y.toInt + -height.toInt + metrics.ascent.toInt =
            y.toInt - metrics.descent.toInt by omega]
          exact Word.exactInt64_eq_ok (by omega)
  | some b =>
      have heightFits := Word.fitsInt32_toInt height
      have extentFits := Word.fitsInt32_toInt b.height
      unfold Word.FitsInt32 at heightFits extentFits
      cases side <;>
        simp only [Alignment.vertical, baselineY, Frame.ofRows, Frame.lineStart,
          Alignment.offset, Int.add_zero] at bounded ⊢
      case left => exact Word.exactInt64_eq_ok (by omega)
      case center =>
          exact Checked.bind_eq_ok_iff.mpr ⟨_, Word.exactInt64_eq_ok (by omega),
            Checked.bind_eq_ok_iff.mpr
              ⟨_, Word.exactInt64_eq_ok (by omega), Word.exactInt64_eq_ok (by omega)⟩⟩
      case right =>
          rw [show b.y.toInt + (b.height.toInt - height.toInt) + metrics.ascent.toInt =
            b.y.toInt + b.height.toInt - metrics.descent.toInt by omega]
          exact Checked.bind_eq_ok_iff.mpr
            ⟨_, Word.exactInt64_eq_ok (by omega), Word.exactInt64_eq_ok (by omega)⟩

theorem baselineY_eq_ok_of_baseline (box : Option Rect) (y height ascent descent : Int) :
    baselineY .baseline box y height ascent descent = .ok y := by
  cases box <;> rfl

/-- The baseline of a line is always returned, and its top fits. -/
theorem exists_baselineY (vertical : VerticalAnchor) (box : Option Rect) (y : Int32)
    {height : Int32} (isHeight : metrics.height = .ok height) :
    ∃ baseline, baselineY vertical box y.toInt height.toInt metrics.ascent.toInt
        metrics.descent.toInt = .ok baseline ∧
      Word.FitsInt64 (baseline - metrics.ascent.toInt) := by
  by_cases isBaseline : vertical = .baseline
  · have yFits := Word.fitsInt32_toInt y
    have ascentFits := Word.fitsInt32_toInt metrics.ascent
    unfold Word.FitsInt32 at yFits ascentFits
    rw [isBaseline]
    exact ⟨_, baselineY_eq_ok_of_baseline _ _ _ _ _, ⟨by omega, by omega⟩⟩
  · obtain ⟨side, rfl⟩ := VerticalAnchor.eq_vertical_of_ne_baseline isBaseline
    have bounded := (Frame.ofRows y box).natAbs_lineStart_le side height
    exact ⟨_, baselineY_eq_ok_of_side side box y isHeight, ⟨by omega, by omega⟩⟩

/-! ## Runs -/

/-- What laying out a line comes to: `left` and `baseline` are the left edge and the
baseline before they are limited to the coordinate space. -/
structure Laid (glyphs : List LooseGlyph) (origin : Point) (options : LineOptions)
    (metrics : LineMetrics) (left baseline : Int) (run : Run) : Prop where
  isWidth : measure (glyphs.map (·.ref.advance)) options.letterSpacing = .ok run.width
  isHeight : metrics.height = .ok run.bounds.height
  isLeft : startX options.anchor.alignment options.box origin.x.toInt run.width.toInt =
    .ok left
  isBaseline : baselineY options.anchor.vertical options.box origin.y.toInt
    run.bounds.height.toInt metrics.ascent.toInt metrics.descent.toInt = .ok baseline
  isPlaced : place options.letterSpacing run.baseline left glyphs = .ok run.glyphs
  x_eq : run.bounds.x = Word.clampInt32 left
  y_eq : run.bounds.y = Word.clampInt32 (baseline - metrics.ascent.toInt)
  width_eq : run.bounds.width = run.width
  baseline_eq : run.baseline = Word.clampInt32 baseline

theorem laid_of_layout (isRun : layout glyphs origin options metrics = .ok run) :
    ∃ left baseline, Laid glyphs origin options metrics left baseline run := by
  obtain ⟨width, isWidth, isRun⟩ := Checked.bind_eq_ok_iff.mp isRun
  obtain ⟨height, isHeight, isRun⟩ := Checked.bind_eq_ok_iff.mp isRun
  obtain ⟨left, isLeft, isRun⟩ := Checked.bind_eq_ok_iff.mp isRun
  obtain ⟨baseline, isBaseline, isRun⟩ := Checked.bind_eq_ok_iff.mp isRun
  obtain ⟨placed, isPlaced, isRun⟩ := Checked.bind_eq_ok_iff.mp isRun
  obtain ⟨top, isTop, isRun⟩ := Checked.bind_eq_ok_iff.mp isRun
  obtain ⟨_, rfl⟩ := Word.exactInt64_eq_ok_iff.mp isTop
  cases isRun
  exact ⟨left, baseline, isWidth, isHeight, isLeft, isBaseline, isPlaced, rfl, rfl, rfl, rfl⟩

/-- A line is laid out when it has a width and a height and its glyphs can be placed. -/
theorem exists_layout {width height : Int32}
    (isWidth : measure (glyphs.map (·.ref.advance)) options.letterSpacing = .ok width)
    (isHeight : metrics.height = .ok height)
    (places : ∀ baseline, ∃ placed, place options.letterSpacing baseline
      ((Frame.ofColumns origin.x options.box).lineStart options.anchor.alignment width)
      glyphs = .ok placed) :
    ∃ run, layout glyphs origin options metrics = .ok run := by
  obtain ⟨baseline, isBaseline, topFits⟩ :=
    exists_baselineY options.anchor.vertical options.box origin.y isHeight
  obtain ⟨placed, isPlaced⟩ := places (Word.clampInt32 baseline)
  exact ⟨_, Checked.bind_eq_ok_iff.mpr ⟨_, isWidth,
    Checked.bind_eq_ok_iff.mpr ⟨_, isHeight,
    Checked.bind_eq_ok_iff.mpr ⟨_, startX_eq_ok _ _ _ _,
    Checked.bind_eq_ok_iff.mpr ⟨_, isBaseline,
    Checked.bind_eq_ok_iff.mpr ⟨_, isPlaced,
    Checked.bind_eq_ok_iff.mpr ⟨_, Word.exactInt64_eq_ok_iff.mpr ⟨topFits, rfl⟩,
      rfl⟩⟩⟩⟩⟩⟩⟩

end Line

end Inkwell
