import Inkwell.Proofs.Layout.Pen

/-!
# Headroom

On the way to a line, everything but its height is computed in 64-bit words, and a number
that does not fit its word abandons the line.  `Headroom` lists these numbers: a line is
laid out precisely when all of them fit and its height fits a coordinate.  The pen moves by
a bounded distance for each glyph, so that fewer than 2^31 glyphs never take it near the
limit, and only the height is left to be refused.
-/

namespace Inkwell

namespace Line

/-- Every number that is computed in a 64-bit word on the way to a line fits the word.  What
is computed for the left edge and for the baseline fits when they are returned. -/
structure Headroom (glyphs : List LooseGlyph) (origin : Point) (options : LineOptions)
    (metrics : LineMetrics) : Prop where
  /-- The sum of the first advances, as many as there are. -/
  sums : ∀ n ≤ glyphs.length,
    Word.FitsInt64 (advanceSum ((glyphs.take n).map (·.ref.advance)))
  gaps : Word.FitsInt64 (((glyphs.length - 1 : Nat) : Int) * options.letterSpacing.toInt)
  width : Word.FitsInt64 (extent (glyphs.map (·.ref.advance)) options.letterSpacing)
  /-- How far one glyph moves the pen. -/
  steps : ∀ g ∈ glyphs,
    Word.FitsInt64 (g.ref.advance.toNat + options.letterSpacing.toInt)
  /-- The pen after the first glyphs, as many as there are. -/
  pens : ∃ left, startX options.anchor.alignment options.box origin.x.toInt
      (Word.clampInt32 (extent (glyphs.map (·.ref.advance)) options.letterSpacing)).toInt =
        .ok left ∧
    ∀ n ≤ glyphs.length,
      Word.FitsInt64 (left + penMove options.letterSpacing (glyphs.take n))
  /-- The baseline and the top of the line box, once there is a height. -/
  rows : ∀ height, metrics.height = .ok height →
    ∃ baseline, baselineY options.anchor.vertical options.box origin.y.toInt height.toInt
        metrics.ascent.toInt metrics.descent.toInt = .ok baseline ∧
      Word.FitsInt64 (baseline - metrics.ascent.toInt)

variable {glyphs : List LooseGlyph} {origin : Point} {options : LineOptions}
  {metrics : LineMetrics}

/-! ## What is computed on the way -/

/-- Glyphs are placed precisely when every move of the pen and every place it gets to
fits. -/
theorem place_returns_iff {letterSpacing baseline : Int32} {x : Int}
    {glyphs : List LooseGlyph} :
    (∃ placed, place letterSpacing baseline x glyphs = .ok placed) ↔
      (∀ g ∈ glyphs, Word.FitsInt64 (g.ref.advance.toNat + letterSpacing.toInt)) ∧
      ∀ n < glyphs.length,
        Word.FitsInt64 (x + penMove letterSpacing (glyphs.take (n + 1))) := by
  induction glyphs generalizing x with
  | nil => simp [place, pure, Except.pure]
  | cons g rest inductionHypothesis =>
      have first : penMove letterSpacing ((g :: rest).take 1) =
          g.ref.advance.toNat + letterSpacing.toInt := by
        rw [List.take_succ_cons, penMove_cons, List.take_zero, penMove_nil, Int.add_zero]
      have later : ∀ n, x + penMove letterSpacing ((g :: rest).take (n + 1 + 1)) =
          x + (g.ref.advance.toNat + letterSpacing.toInt) +
            penMove letterSpacing (rest.take (n + 1)) := by
        intro n
        rw [List.take_succ_cons, penMove_cons, ← Int.add_assoc]
      constructor
      · rintro ⟨placed, isPlaced⟩
        obtain ⟨stepFits, nextFits, others, isRest, rfl⟩ := place_cons_eq_ok_iff.mp isPlaced
        obtain ⟨steps, pens⟩ := inductionHypothesis.mp ⟨others, isRest⟩
        refine ⟨List.forall_mem_cons.mpr ⟨stepFits, steps⟩, fun n inside => ?_⟩
        cases n with
        | zero => rwa [first]
        | succ n =>
            rw [later]
            exact pens n (Nat.lt_of_succ_lt_succ inside)
      · rintro ⟨steps, pens⟩
        obtain ⟨stepFits, restSteps⟩ := List.forall_mem_cons.mp steps
        have nextFits := pens 0 (Nat.succ_pos _)
        rw [first] at nextFits
        obtain ⟨others, isRest⟩ := inductionHypothesis.mpr ⟨restSteps, fun n inside => by
          rw [← later]
          exact pens (n + 1) (Nat.succ_lt_succ inside)⟩
        exact ⟨_, place_cons_eq_ok_iff.mpr ⟨stepFits, nextFits, others, isRest, rfl⟩⟩

/-- The sums of the first advances fit when the sum of all does. -/
theorem fits_advanceSum_take {advances : List UInt16}
    (fits : Word.FitsInt64 (advanceSum advances)) (n : Nat) :
    Word.FitsInt64 (advanceSum (advances.take n)) := by
  have first_nonneg := advanceSum_nonneg (advances.take n)
  have rest_nonneg := advanceSum_nonneg (advances.drop n)
  have split := advanceSum_append (advances.take n) (advances.drop n)
  rw [List.take_append_drop] at split
  unfold Word.FitsInt64 at fits ⊢
  omega

/-- A width and a place for every glyph are all that headroom takes. -/
theorem headroom_of_returns {width baseline : Int32} {placed : List PlacedGlyph}
    (isWidth : measure (glyphs.map (·.ref.advance)) options.letterSpacing = .ok width)
    (isPlaced : place options.letterSpacing baseline
      ((Frame.ofColumns origin.x options.box).lineStart options.anchor.alignment width)
      glyphs = .ok placed) :
    Headroom glyphs origin options metrics := by
  obtain ⟨sumFits, gapsFit, extentFits, rfl⟩ := measure_eq_ok_iff.mp isWidth
  obtain ⟨steps, pens⟩ := place_returns_iff.mp ⟨placed, isPlaced⟩
  rw [List.length_map] at gapsFit
  refine ⟨fun n _ => ?_, gapsFit, extentFits, steps, ⟨_, startX_eq_ok _ _ _ _, ?_⟩,
    fun height => exists_baselineY options.anchor.vertical options.box origin.y⟩
  · rw [List.map_take]
    exact fits_advanceSum_take sumFits n
  · intro n inside
    cases n with
    | zero =>
        have bounded := (Frame.ofColumns origin.x options.box).natAbs_lineStart_le
          options.anchor.alignment
          (Word.clampInt32 (extent (glyphs.map (·.ref.advance)) options.letterSpacing))
        rw [List.take_zero, penMove_nil, Int.add_zero]
        exact ⟨by omega, by omega⟩
    | succ n => exact pens n inside

theorem Headroom.measure_eq (headroom : Headroom glyphs origin options metrics) :
    measure (glyphs.map (·.ref.advance)) options.letterSpacing =
      .ok (Word.clampInt32 (extent (glyphs.map (·.ref.advance)) options.letterSpacing)) := by
  have sumFits := headroom.sums glyphs.length (Nat.le_refl _)
  rw [List.take_length] at sumFits
  have gapsFit := headroom.gaps
  rw [← List.length_map (·.ref.advance)] at gapsFit
  exact measure_eq_ok_iff.mpr ⟨sumFits, gapsFit, headroom.width, rfl⟩

/-- A line is laid out precisely when its height fits a coordinate and there is headroom
for it. -/
theorem layout_returns_iff_headroom :
    (∃ run, layout glyphs origin options metrics = .ok run) ↔
      Word.FitsInt32 (metrics.ascent.toInt + metrics.descent.toInt) ∧
      Headroom glyphs origin options metrics := by
  constructor
  · rintro ⟨run, isRun⟩
    obtain ⟨left, baseline, laid⟩ := laid_of_layout isRun
    have isPlaced := laid.isPlaced
    cases (startX_eq_ok _ _ _ _).symm.trans laid.isLeft
    rw [← Word.exactInt32_eq_ok_iff.mp laid.isHeight]
    exact ⟨Word.fitsInt32_toInt _, headroom_of_returns laid.isWidth isPlaced⟩
  · rintro ⟨heightFits, headroom⟩
    refine exists_layout headroom.measure_eq (if_pos heightFits) fun baseline => ?_
    obtain ⟨left, isLeft, pens⟩ := headroom.pens
    cases (startX_eq_ok _ _ _ _).symm.trans isLeft
    exact place_returns_iff.mpr ⟨headroom.steps, fun n inside => pens (n + 1) inside⟩

/-! ## Few glyphs -/

/-- Fewer than 2^31 glyphs leave headroom. -/
theorem headroom_of_few (few : glyphs.length < 2147483648) (origin : Point)
    (options : LineOptions) (metrics : LineMetrics) :
    Headroom glyphs origin options metrics := by
  have fewAdvances : (glyphs.map (·.ref.advance)).length < 2147483648 := by
    rwa [List.length_map]
  obtain ⟨width, isWidth⟩ := exists_measure fewAdvances options.letterSpacing
  have bounded := (Frame.ofColumns origin.x options.box).natAbs_lineStart_le
    options.anchor.alignment width
  obtain ⟨placed, isPlaced⟩ : ∃ placed, place options.letterSpacing 0
      ((Frame.ofColumns origin.x options.box).lineStart options.anchor.alignment width)
      glyphs = .ok placed := exists_place options.letterSpacing 0 (by omega)
  exact headroom_of_returns isWidth isPlaced

/-- A line is abandoned for a height that does not fit. -/
theorem layout_eq_error_of_height {width : Int32}
    (isWidth : measure (glyphs.map (·.ref.advance)) options.letterSpacing = .ok width)
    (tall : ¬ Word.FitsInt32 (metrics.ascent.toInt + metrics.descent.toInt)) :
    layout glyphs origin options metrics = .error (.overflow .add) := by
  have noHeight : metrics.height = .error (.overflow .add) := if_neg tall
  rw [layout, isWidth, noHeight]
  rfl

/-- Take fewer than 2^31 glyphs with any advances, and lay them out anywhere.  All that is
computed in 64-bit words on the way fits.  The line is laid out precisely when the sum of
ascent and descent fits a coordinate, and otherwise abandoned because that sum overflows.
Measuring such glyphs always returns, whatever the letter spacing. -/
theorem only_height_overflows (glyphs : List LooseGlyph) (few : glyphs.length < 2147483648)
    (origin : Point) (options : LineOptions) (metrics : LineMetrics) :
    Headroom glyphs origin options metrics ∧
    ((∃ run, layout glyphs origin options metrics = .ok run) ↔
      Word.FitsInt32 (metrics.ascent.toInt + metrics.descent.toInt)) ∧
    (layout glyphs origin options metrics = .error (.overflow .add) ↔
      ¬ Word.FitsInt32 (metrics.ascent.toInt + metrics.descent.toInt)) ∧
    ∀ letterSpacing, ∃ width,
      measure (glyphs.map (·.ref.advance)) letterSpacing = .ok width := by
  have headroom := headroom_of_few few origin options metrics
  have returns : (∃ run, layout glyphs origin options metrics = .ok run) ↔
      Word.FitsInt32 (metrics.ascent.toInt + metrics.descent.toInt) := by
    rw [layout_returns_iff_headroom]
    exact and_iff_left headroom
  refine ⟨headroom, returns, ⟨fun abandoned fits => ?_,
    layout_eq_error_of_height headroom.measure_eq⟩, fun letterSpacing =>
      exists_measure (by rwa [List.length_map]) letterSpacing⟩
  obtain ⟨run, isRun⟩ := returns.mpr fits
  cases abandoned.symm.trans isRun

/-- Two wide glyphs. -/
def wideGlyphs : List LooseGlyph :=
  [⟨⟨0, 1, 0, 65535⟩, 0, 1, none⟩, ⟨⟨0, 1, 1, 65535⟩, 1, 2, none⟩]

/-- At the right of a box that ends far beyond the coordinate space, as far apart as can
be. -/
def farOptions : LineOptions :=
  ⟨⟨Anchor.right ||| Anchor.bottom⟩, some ⟨2147483647, 2147483647, 2147483647, 2147483647⟩,
    2147483647⟩

/-- A height of 2147483647 pixels is laid out, and one pixel more is not. -/
theorem only_height_overflows_far :
    wideGlyphs.length < 2147483648 ∧
    (∃ run, layout wideGlyphs ⟨0, 0⟩ farOptions ⟨2147483647, 0⟩ = .ok run) ∧
    layout wideGlyphs ⟨0, 0⟩ farOptions ⟨2147483647, 1⟩ = .error (.overflow .add) :=
  ⟨by decide,
    (only_height_overflows wideGlyphs (by decide) ⟨0, 0⟩ farOptions
      ⟨2147483647, 0⟩).2.1.mpr (by decide),
    (only_height_overflows wideGlyphs (by decide) ⟨0, 0⟩ farOptions
      ⟨2147483647, 1⟩).2.2.1.mpr (by decide)⟩

end Line

end Inkwell
