import Inkwell.Proofs.Layout.Pen

/-!
# Lines stand where their flags say

Each axis counts as having one flag: the one that is set, or left and top if none or
several are.  The flag says which edge of the line box lies on the origin or on an edge of
the box, or that the line box is centered there.  All of this is about exact edges, so it
holds as long as none of them was limited to the coordinate space.
-/

namespace Inkwell

/-! ## Flags -/

namespace Anchor

/-- The flag of an axis: the one that is set if there is only one, and otherwise the
default. -/
def flagOf (a : Anchor) (axis : List UInt32) (default : UInt32) : UInt32 :=
  match axis.filter fun flag => a.bits &&& flag ≠ 0 with
  | [flag] => flag
  | _ => default

/-- The flag of the horizontal axis. -/
def horizontalFlag (a : Anchor) : UInt32 := a.flagOf [hcenter, left, right] left

/-- The flag of the vertical axis. -/
def verticalFlag (a : Anchor) : UInt32 := a.flagOf [vcenter, top, bottom, baseline] top

/-- A word has either all of a flag or nothing of it, since a flag is one bit. -/
theorem and_flag_eq (flag : UInt32) (place : Nat)
    (isFlag : flag.toBitVec = BitVec.twoPow 32 place) (bits : UInt32) :
    bits &&& flag = 0 ∨ bits &&& flag = flag := by
  simp only [← UInt32.toBitVec_inj, UInt32.toBitVec_and, isFlag, BitVec.and_twoPow]
  split
  · exact .inr rfl
  · exact .inl rfl

theorem and_or_eq (bits first second : UInt32) :
    bits &&& (first ||| second) = bits &&& first ||| bits &&& second := by
  simp only [← UInt32.toBitVec_inj, UInt32.toBitVec_and, UInt32.toBitVec_or,
    BitVec.and_or_distrib_left]

end Anchor

/-- The flag that names an alignment. -/
def Alignment.flag : Alignment → UInt32
  | .left => Anchor.left
  | .center => Anchor.hcenter
  | .right => Anchor.right

/-- The flag that names a vertical anchor. -/
def VerticalAnchor.flag : VerticalAnchor → UInt32
  | .top => Anchor.top
  | .baseline => Anchor.baseline
  | .bottom => Anchor.bottom
  | .center => Anchor.vcenter

namespace Anchor

-- Each flag is set or not, and with every choice both sides can be evaluated.
theorem flag_alignment (a : Anchor) : a.alignment.flag = a.horizontalFlag := by
  simp only [alignment, horizontalFlag, flagOf, horizontalMask, and_or_eq, List.filter_cons,
    List.filter_nil]
  rcases and_flag_eq hcenter 0 rfl a.bits with h | h <;>
  rcases and_flag_eq left 2 rfl a.bits with l | l <;>
  rcases and_flag_eq right 3 rfl a.bits with r | r <;>
  rw [h, l, r] <;> rfl

theorem flag_vertical (a : Anchor) : a.vertical.flag = a.verticalFlag := by
  simp only [vertical, verticalFlag, flagOf, verticalMask, and_or_eq, List.filter_cons,
    List.filter_nil]
  rcases and_flag_eq vcenter 1 rfl a.bits with v | v <;>
  rcases and_flag_eq top 4 rfl a.bits with t | t <;>
  rcases and_flag_eq bottom 5 rfl a.bits with b | b <;>
  rcases and_flag_eq baseline 6 rfl a.bits with l | l <;>
  rw [v, t, b, l] <;> rfl

theorem alignment_eq_of_flag {a : Anchor} {side : Alignment}
    (named : a.horizontalFlag = side.flag) : a.alignment = side := by
  rw [← flag_alignment] at named
  revert named
  cases a.alignment <;> cases side <;> decide

theorem vertical_eq_of_flag {a : Anchor} {vertical : VerticalAnchor}
    (named : a.verticalFlag = vertical.flag) : a.vertical = vertical := by
  rw [← flag_vertical] at named
  revert named
  cases a.vertical <;> cases vertical <;> decide

end Anchor

/-! ## Edges -/

namespace Line

/-- No edge of the line box was limited to the coordinate space, and neither was the
baseline.  The width of the line and the places of its glyphs may have been. -/
structure Unclamped (origin : Point) (options : LineOptions) (metrics : LineMetrics)
    (run : Run) : Prop where
  left : ∃ left, startX options.anchor.alignment options.box origin.x.toInt
    run.width.toInt = .ok left ∧ Word.FitsInt32 left
  baseline : ∃ baseline, baselineY options.anchor.vertical options.box origin.y.toInt
    run.bounds.height.toInt metrics.ascent.toInt metrics.descent.toInt = .ok baseline ∧
    Word.FitsInt32 baseline ∧ Word.FitsInt32 (baseline - metrics.ascent.toInt)
  right : Word.FitsInt32 (run.bounds.x.toInt + run.bounds.width.toInt)
  bottom : Word.FitsInt32 (run.bounds.y.toInt + run.bounds.height.toInt)

variable {glyphs : List LooseGlyph} {origin : Point} {options : LineOptions}
  {metrics : LineMetrics} {left baseline : Int} {run : Run}

/-- Along the horizontal axis, the line box goes from where the line begins in its frame to
where it ends. -/
theorem Laid.columns_eq (laid : Laid glyphs origin options metrics left baseline run)
    (unclamped : Unclamped origin options metrics run) :
    run.bounds.x.toInt = (Frame.ofColumns origin.x options.box).lineStart
        options.anchor.alignment run.width ∧
      run.bounds.right.toInt = run.bounds.x.toInt + run.width.toInt := by
  obtain ⟨value, isValue, fits⟩ := unclamped.left
  cases laid.isLeft.symm.trans isValue
  constructor
  · rw [laid.x_eq, Word.toInt_clampInt32_of_fits fits]
    rw [startX_eq_ok] at isValue
    exact (Except.ok.inj isValue).symm
  · rw [← laid.width_eq, Rect.right, Word.toInt_clampInt32_of_fits unclamped.right]

/-- Along the vertical axis, the line box goes from the ascent above the baseline to its
height below that. -/
theorem Laid.rows_eq (laid : Laid glyphs origin options metrics left baseline run)
    (unclamped : Unclamped origin options metrics run) :
    run.baseline.toInt = baseline ∧
      run.bounds.y.toInt = baseline - metrics.ascent.toInt ∧
      run.bounds.bottom.toInt = run.bounds.y.toInt + run.bounds.height.toInt := by
  obtain ⟨value, isValue, baselineFits, topFits⟩ := unclamped.baseline
  cases laid.isBaseline.symm.trans isValue
  refine ⟨?_, ?_, ?_⟩
  · rw [laid.baseline_eq, Word.toInt_clampInt32_of_fits baselineFits]
  · rw [laid.y_eq, Word.toInt_clampInt32_of_fits topFits]
  · rw [Rect.bottom, Word.toInt_clampInt32_of_fits unclamped.bottom]

theorem Laid.y_eq_lineStart (laid : Laid glyphs origin options metrics left baseline run)
    (unclamped : Unclamped origin options metrics run) {side : Alignment}
    (isSide : options.anchor.vertical = side.vertical) :
    run.bounds.y.toInt =
      (Frame.ofRows origin.y options.box).lineStart side run.bounds.height := by
  have isBaseline := laid.isBaseline
  rw [isSide, baselineY_eq_ok_of_side side _ _ laid.isHeight] at isBaseline
  rw [(laid.rows_eq unclamped).2.1, ← Except.ok.inj isBaseline, Int.add_sub_cancel]

theorem Laid.places_columns (laid : Laid glyphs origin options metrics left baseline run)
    (unclamped : Unclamped origin options metrics run) (side : Alignment)
    (named : options.anchor.horizontalFlag = side.flag) :
    side.Places (Frame.ofColumns origin.x options.box).start.toInt
      (Frame.ofColumns origin.x options.box).stop run.bounds.x.toInt
      run.bounds.right.toInt := by
  obtain ⟨x_eq, right_eq⟩ := laid.columns_eq unclamped
  rw [right_eq, x_eq, Anchor.alignment_eq_of_flag named]
  exact Frame.places_lineStart _ side run.width

theorem Laid.places_rows (laid : Laid glyphs origin options metrics left baseline run)
    (unclamped : Unclamped origin options metrics run) (side : Alignment)
    (named : options.anchor.verticalFlag = side.vertical.flag) :
    side.Places (Frame.ofRows origin.y options.box).start.toInt
      (Frame.ofRows origin.y options.box).stop run.bounds.y.toInt
      run.bounds.bottom.toInt := by
  have y_eq := laid.y_eq_lineStart unclamped (Anchor.vertical_eq_of_flag named)
  rw [(laid.rows_eq unclamped).2.2, y_eq]
  exact Frame.places_lineStart _ side run.bounds.height

/-! ## Lines at origins and in boxes -/

/-- The line stands at the origin as its flags say.  A centered line reaches as far on one
side of the origin as on the other, give or take a pixel. -/
structure AlignedAt (anchor : Anchor) (origin : Point) (run : Run) : Prop where
  left : anchor.horizontalFlag = Anchor.left → run.bounds.x = origin.x
  right : anchor.horizontalFlag = Anchor.right → run.bounds.right = origin.x
  hcenter : anchor.horizontalFlag = Anchor.hcenter →
    ((origin.x.toInt - run.bounds.x.toInt) -
      (run.bounds.right.toInt - origin.x.toInt)).natAbs ≤ 1
  top : anchor.verticalFlag = Anchor.top → run.bounds.y = origin.y
  bottom : anchor.verticalFlag = Anchor.bottom → run.bounds.bottom = origin.y
  vcenter : anchor.verticalFlag = Anchor.vcenter →
    ((origin.y.toInt - run.bounds.y.toInt) -
      (run.bounds.bottom.toInt - origin.y.toInt)).natAbs ≤ 1
  baseline : anchor.verticalFlag = Anchor.baseline → run.baseline = origin.y

/-- The line stands inside the box as its flags say.  A centered line has the same margin
on both sides, give or take a pixel; the margin is measured to the exact edge of the box,
which may lie beyond the coordinate space. -/
structure AlignedIn (anchor : Anchor) (box : Rect) (run : Run) : Prop where
  columns : box.x.toInt ≤ run.bounds.x.toInt ∧ run.bounds.right.toInt ≤ box.right.toInt
  rows : box.y.toInt ≤ run.bounds.y.toInt ∧ run.bounds.bottom.toInt ≤ box.bottom.toInt
  left : anchor.horizontalFlag = Anchor.left → run.bounds.x = box.x
  right : anchor.horizontalFlag = Anchor.right → run.bounds.right = box.right
  hcenter : anchor.horizontalFlag = Anchor.hcenter →
    ((run.bounds.x.toInt - box.x.toInt) -
      (box.x.toInt + box.width.toInt - run.bounds.right.toInt)).natAbs ≤ 1
  top : anchor.verticalFlag = Anchor.top → run.bounds.y = box.y
  bottom : anchor.verticalFlag = Anchor.bottom → run.bounds.bottom = box.bottom
  vcenter : anchor.verticalFlag = Anchor.vcenter →
    ((run.bounds.y.toInt - box.y.toInt) -
      (box.y.toInt + box.height.toInt - run.bounds.bottom.toInt)).natAbs ≤ 1

theorem Laid.alignedAt (laid : Laid glyphs origin options metrics left baseline run)
    (unclamped : Unclamped origin options metrics run) (unboxed : options.box = none) :
    AlignedAt options.anchor origin run := by
  have columns := laid.places_columns unclamped
  have rows := laid.places_rows unclamped
  rw [unboxed, Frame.stop_ofColumns_none] at columns
  rw [unboxed, Frame.stop_ofRows_none] at rows
  constructor
  case left => exact fun named => Int32.toInt_inj.mp (columns .left named)
  case right => exact fun named => Int32.toInt_inj.mp (columns .right named)
  case hcenter =>
      intro named
      have centered : ((run.bounds.x.toInt - origin.x.toInt) -
        (origin.x.toInt - run.bounds.right.toInt)).natAbs ≤ 1 := columns .center named
      omega
  case top => exact fun named => Int32.toInt_inj.mp (rows .left named)
  case bottom => exact fun named => Int32.toInt_inj.mp (rows .right named)
  case vcenter =>
      intro named
      have centered : ((run.bounds.y.toInt - origin.y.toInt) -
        (origin.y.toInt - run.bounds.bottom.toInt)).natAbs ≤ 1 := rows .center named
      omega
  case baseline =>
      intro named
      have isBaseline := laid.isBaseline
      have anchored : options.anchor.vertical = .baseline := Anchor.vertical_eq_of_flag named
      rw [anchored, baselineY_eq_ok_of_baseline] at isBaseline
      rw [laid.baseline_eq, ← Except.ok.inj isBaseline, Word.clampInt32_toInt]

theorem Laid.alignedIn (laid : Laid glyphs origin options metrics left baseline run)
    (unclamped : Unclamped origin options metrics run) {box : Rect}
    (boxed : options.box = some box) (narrow : run.width.toInt ≤ box.width.toInt)
    (low : run.bounds.height.toInt ≤ box.height.toInt)
    (noBaseline : options.anchor.verticalFlag ≠ Anchor.baseline) :
    AlignedIn options.anchor box run := by
  have columns := laid.places_columns unclamped
  have rows := laid.places_rows unclamped
  rw [boxed] at columns rows
  constructor
  case columns =>
      obtain ⟨x_eq, right_eq⟩ := laid.columns_eq unclamped
      rw [boxed] at x_eq
      have inside := (Frame.ofColumns origin.x (some box)).lineStart_inside
        options.anchor.alignment run.width narrow
      rw [← x_eq, ← right_eq] at inside
      exact ⟨inside.1, Word.toInt_le_toInt_clampInt32 inside.2⟩
  case rows =>
      have isBox : options.anchor.vertical ≠ .baseline := by
        intro isBaseline
        rw [← Anchor.flag_vertical, isBaseline] at noBaseline
        exact noBaseline rfl
      obtain ⟨side, isSide⟩ := VerticalAnchor.eq_vertical_of_ne_baseline isBox
      have y_eq := laid.y_eq_lineStart unclamped isSide
      rw [boxed] at y_eq
      have inside := (Frame.ofRows origin.y (some box)).lineStart_inside side
        run.bounds.height low
      rw [← y_eq, ← (laid.rows_eq unclamped).2.2] at inside
      exact ⟨inside.1, Word.toInt_le_toInt_clampInt32 inside.2⟩
  case left => exact fun named => Int32.toInt_inj.mp (columns .left named)
  case right =>
      intro named
      rw [← Word.clampInt32_toInt run.bounds.right, columns .right named]
      rfl
  case hcenter => exact fun named => columns .center named
  case top => exact fun named => Int32.toInt_inj.mp (rows .left named)
  case bottom =>
      intro named
      rw [← Word.clampInt32_toInt run.bounds.bottom, rows .right named]
      rfl
  case vcenter => exact fun named => rows .center named

/-- Lay out any glyphs, with a height of the line that fits a coordinate.  Fewer than 2^31
glyphs are always laid out.  Whenever a line is laid out and neither an edge of its box nor
its baseline is limited to the coordinate space, its box is as wide as the line and as high
as the metrics say, with the baseline the ascent below its top.  The line stands at the
origin as its flags say, or in the box if there is one, the line is not larger than it,
and the vertical flag is not the baseline. -/
theorem flags_place_line (glyphs : List LooseGlyph) (origin : Point) (options : LineOptions)
    (metrics : LineMetrics)
    (heightFits : Word.FitsInt32 (metrics.ascent.toInt + metrics.descent.toInt)) :
    (glyphs.length < 2147483648 → ∃ run, layout glyphs origin options metrics = .ok run) ∧
    ∀ run, layout glyphs origin options metrics = .ok run →
      Unclamped origin options metrics run →
      (run.baseline.toInt = run.bounds.y.toInt + metrics.ascent.toInt ∧
        run.bounds.width = run.width ∧
        run.bounds.height.toInt = metrics.ascent.toInt + metrics.descent.toInt) ∧
      (options.box = none → AlignedAt options.anchor origin run) ∧
      ∀ box, options.box = some box → run.width.toInt ≤ box.width.toInt →
        run.bounds.height.toInt ≤ box.height.toInt →
        options.anchor.verticalFlag ≠ Anchor.baseline → AlignedIn options.anchor box run := by
  refine ⟨fun few => exists_layout_of_few few origin options heightFits,
    fun run isRun unclamped => ?_⟩
  obtain ⟨left, baseline, laid⟩ := laid_of_layout isRun
  obtain ⟨baseline_eq, y_eq, _⟩ := laid.rows_eq unclamped
  refine ⟨⟨?_, laid.width_eq, Word.exactInt32_eq_ok_iff.mp laid.isHeight⟩,
    laid.alignedAt unclamped, fun box boxed narrow low noBaseline =>
      laid.alignedIn unclamped boxed narrow low noBaseline⟩
  rw [baseline_eq, y_eq, Int.sub_add_cancel]

/-- Three glyphs, of which each overlaps the next one by two pixels. -/
def tightGlyphs : List LooseGlyph :=
  [⟨⟨0, 1, 0, 7⟩, 0, 1, none⟩, ⟨⟨0, 1, 1, 4⟩, 1, 2, none⟩, ⟨⟨0, 1, 2, 6⟩, 2, 3, none⟩]

/-- Centered in a box, with a flag that means nothing. -/
def boxedOptions : LineOptions :=
  ⟨⟨Anchor.hcenter ||| Anchor.vcenter ||| 256⟩, some ⟨-5, 3, 20, 21⟩, -2⟩

/-- On the baseline, with two flags for the other axis. -/
def unboxedOptions : LineOptions :=
  ⟨⟨Anchor.hcenter ||| Anchor.right ||| Anchor.baseline⟩, none, -2⟩

def boxedRun : Run where
  glyphs := [⟨⟨0, 1, 0, 7⟩, 0, 1, -2, 17, none⟩, ⟨⟨0, 1, 1, 4⟩, 1, 2, 3, 17, none⟩,
    ⟨⟨0, 1, 2, 6⟩, 2, 3, 5, 17, none⟩]
  bounds := ⟨-2, 5, 13, 16⟩
  baseline := 17
  width := 13

def unboxedRun : Run where
  glyphs := [⟨⟨0, 1, 0, 7⟩, 0, 1, 2147483600, -7, none⟩,
    ⟨⟨0, 1, 1, 4⟩, 1, 2, 2147483605, -7, none⟩, ⟨⟨0, 1, 2, 6⟩, 2, 3, 2147483607, -7, none⟩]
  bounds := ⟨2147483600, -19, 13, 16⟩
  baseline := -7
  width := 13

/-- In the box the line has margins of three and four pixels at its sides.  Outside, the two
flags count as left. -/
theorem flags_place_line_tight :
    (layout tightGlyphs ⟨0, 0⟩ boxedOptions ⟨12, 4⟩ = .ok boxedRun ∧
      Unclamped ⟨0, 0⟩ boxedOptions ⟨12, 4⟩ boxedRun ∧
      AlignedIn boxedOptions.anchor ⟨-5, 3, 20, 21⟩ boxedRun) ∧
    (layout tightGlyphs ⟨2147483600, -7⟩ unboxedOptions ⟨12, 4⟩ = .ok unboxedRun ∧
      Unclamped ⟨2147483600, -7⟩ unboxedOptions ⟨12, 4⟩ unboxedRun ∧
      unboxedOptions.anchor.horizontalFlag = Anchor.left ∧
      AlignedAt unboxedOptions.anchor ⟨2147483600, -7⟩ unboxedRun) := by
  have boxedFits : Unclamped ⟨0, 0⟩ boxedOptions ⟨12, 4⟩ boxedRun :=
    ⟨⟨-2, by rfl, by decide⟩, ⟨17, by rfl, by decide⟩, by decide, by decide⟩
  have unboxedFits : Unclamped ⟨2147483600, -7⟩ unboxedOptions ⟨12, 4⟩ unboxedRun :=
    ⟨⟨2147483600, by rfl, by decide⟩, ⟨-7, by rfl, by decide⟩, by decide, by decide⟩
  have boxed := (flags_place_line tightGlyphs ⟨0, 0⟩ boxedOptions ⟨12, 4⟩ (by decide)).2
    boxedRun (by rfl) boxedFits
  have unboxed := (flags_place_line tightGlyphs ⟨2147483600, -7⟩ unboxedOptions ⟨12, 4⟩
    (by decide)).2 unboxedRun (by rfl) unboxedFits
  exact ⟨⟨by rfl, boxedFits,
      boxed.2.2 ⟨-5, 3, 20, 21⟩ rfl (by decide) (by decide) (by decide)⟩,
    by rfl, unboxedFits, rfl, unboxed.2.1 rfl⟩

end Line

end Inkwell
