import Inkwell.Proofs.Layout.Placement

/-!
# Where the pen goes

The pen moves by the advance of each glyph and the letter spacing after it.  Nothing
is lost on its way, since only the places of single glyphs are limited to the
coordinate space: glyphs that follow others are placed as if the line began with them
where the pen has got to.
-/

namespace Inkwell

/-- The glyph in a text with more units before it. -/
def LooseGlyph.shift (offset : Nat) (g : LooseGlyph) : LooseGlyph :=
  { g with start := g.start + offset, stop := g.stop + offset }

/-- The placed glyph in a text with more units before it. -/
def PlacedGlyph.shift (offset : Nat) (g : PlacedGlyph) : PlacedGlyph :=
  { g with start := g.start + offset, stop := g.stop + offset }

namespace Line

/-! ## Widths -/

/-- The sum of advances. -/
def advanceSum : List UInt16 → Int
  | [] => 0
  | advance :: rest => advance.toNat + advanceSum rest

@[simp]
theorem advanceSum_nil : advanceSum [] = 0 := rfl

@[simp]
theorem advanceSum_cons (advance : UInt16) (rest : List UInt16) :
    advanceSum (advance :: rest) = advance.toNat + advanceSum rest := rfl

theorem advanceSum_append (first second : List UInt16) :
    advanceSum (first ++ second) = advanceSum first + advanceSum second := by
  induction first with
  | nil => simp
  | cons advance rest inductionHypothesis => simp [inductionHypothesis, Int.add_assoc]

theorem advanceSum_nonneg (advances : List UInt16) : 0 ≤ advanceSum advances := by
  induction advances with
  | nil => exact Int.le_refl 0
  | cons advance rest inductionHypothesis =>
      rw [advanceSum_cons]
      omega

/-- The width of a line before it is limited to the coordinate space. -/
def extent (advances : List UInt16) (letterSpacing : Int32) : Int :=
  advanceSum advances + ((advances.length - 1 : Nat) : Int) * letterSpacing.toInt

/-- Adding up advances returns precisely when the sum fits, because the sums on the
way are smaller. -/
theorem totalAdvance_eq_ok_iff {start total : Int} {advances : List UInt16}
    (nonneg : 0 ≤ start) (fits : Word.FitsInt64 start) :
    totalAdvance start advances = .ok total ↔
      Word.FitsInt64 total ∧ total = start + advanceSum advances := by
  induction advances generalizing start with
  | nil =>
      simp only [totalAdvance, pure, Except.pure, Except.ok.injEq, advanceSum_nil,
        Int.add_zero]
      constructor
      · rintro rfl
        exact ⟨fits, rfl⟩
      · rintro ⟨_, rfl⟩
        rfl
  | cons advance rest inductionHypothesis =>
      rw [totalAdvance, Checked.bind_eq_ok_iff, advanceSum_cons]
      constructor
      · rintro ⟨sum, isSum, others⟩
        obtain ⟨sumFits, rfl⟩ := Word.exactInt64_eq_ok_iff.mp isSum
        obtain ⟨totalFits, rfl⟩ :=
          (inductionHypothesis (by omega) sumFits).mp others
        exact ⟨totalFits, by omega⟩
      · rintro ⟨totalFits, rfl⟩
        have rest_nonneg := advanceSum_nonneg rest
        have sumFits : Word.FitsInt64 (start + advance.toNat) := by
          unfold Word.FitsInt64 at totalFits ⊢
          omega
        refine ⟨_, Word.exactInt64_eq_ok_iff.mpr ⟨sumFits, rfl⟩,
          (inductionHypothesis (by omega) sumFits).mpr ⟨totalFits, by omega⟩⟩

/-- The width of a line is returned precisely when the sum of the advances, the gaps
and both together fit the words they are computed in; it is then the extent of the
line, limited to the coordinate space. -/
theorem measure_eq_ok_iff {advances : List UInt16} {letterSpacing width : Int32} :
    measure advances letterSpacing = .ok width ↔
      Word.FitsInt64 (advanceSum advances) ∧
      Word.FitsInt64 (((advances.length - 1 : Nat) : Int) * letterSpacing.toInt) ∧
      Word.FitsInt64 (extent advances letterSpacing) ∧
      width = Word.clampInt32 (extent advances letterSpacing) := by
  simp only [measure, Checked.bind_eq_ok_iff, Word.exactInt64_eq_ok_iff,
    totalAdvance_eq_ok_iff (Int.le_refl 0) (show Word.FitsInt64 0 by decide),
    Int.zero_add]
  constructor
  · rintro ⟨_, ⟨sumFits, rfl⟩, _, ⟨gapsFit, rfl⟩, _, ⟨extentFits, rfl⟩, measured⟩
    cases measured
    exact ⟨sumFits, gapsFit, extentFits, rfl⟩
  · rintro ⟨sumFits, gapsFit, extentFits, rfl⟩
    exact ⟨_, ⟨sumFits, rfl⟩, _, ⟨gapsFit, rfl⟩, _, ⟨extentFits, rfl⟩, rfl⟩

/-- Without letter spacing only the sum of the advances has to fit. -/
theorem measure_zero_eq_ok_iff {advances : List UInt16} {width : Int32} :
    measure advances 0 = .ok width ↔
      Word.FitsInt64 (advanceSum advances) ∧
        width = Word.clampInt32 (advanceSum advances) := by
  have noGaps : extent advances 0 = advanceSum advances := by
    simp [extent]
  rw [measure_eq_ok_iff, noGaps, Int32.toInt_zero, Int.mul_zero]
  constructor
  · rintro ⟨fits, _, _, isWidth⟩
    exact ⟨fits, isWidth⟩
  · rintro ⟨fits, isWidth⟩
    exact ⟨fits, by decide, fits, isWidth⟩

/-! ## Places -/

/-- How far the pen moves over glyphs, with letter spacing after each of them. -/
def penMove (letterSpacing : Int32) (glyphs : List LooseGlyph) : Int :=
  advanceSum (glyphs.map (·.ref.advance)) + glyphs.length * letterSpacing.toInt

@[simp]
theorem penMove_nil (letterSpacing : Int32) : penMove letterSpacing [] = 0 := by
  simp [penMove]

theorem penMove_cons (letterSpacing : Int32) (g : LooseGlyph)
    (rest : List LooseGlyph) :
    penMove letterSpacing (g :: rest) =
      g.ref.advance.toNat + letterSpacing.toInt + penMove letterSpacing rest := by
  simp only [penMove, List.map_cons, advanceSum_cons, List.length_cons,
    Int.natCast_add, Int.add_mul, Int.natCast_one, Int.one_mul]
  omega

theorem penMove_append (letterSpacing : Int32) (before after : List LooseGlyph) :
    penMove letterSpacing (before ++ after) =
      penMove letterSpacing before + penMove letterSpacing after := by
  simp only [penMove, List.map_append, advanceSum_append, List.length_append,
    Int.natCast_add, Int.add_mul]
  omega

/-- Over the glyphs of a line that is not empty, the pen moves by the extent of the
line and one more letter spacing. -/
theorem penMove_eq_extent (letterSpacing : Int32) {glyphs : List LooseGlyph}
    (nonempty : glyphs ≠ []) :
    penMove letterSpacing glyphs =
      extent (glyphs.map (·.ref.advance)) letterSpacing + letterSpacing.toInt := by
  obtain ⟨n, isSucc⟩ : ∃ n, glyphs.length = n + 1 :=
    Nat.exists_eq_succ_of_ne_zero (mt List.length_eq_zero_iff.mp nonempty)
  rw [penMove, extent, List.length_map, isSucc, Nat.add_sub_cancel,
    Int.natCast_add, Int.add_mul, Int.natCast_one, Int.one_mul]
  omega

/-- Placed glyphs in front of others are placed alone, and those after them as if the
line began where the pen has got to. -/
theorem place_append_eq_ok {letterSpacing baseline : Int32} {x : Int}
    {before after : List LooseGlyph} {placed : List PlacedGlyph}
    (isPlaced : place letterSpacing baseline x (before ++ after) = .ok placed) :
    ∃ left right, place letterSpacing baseline x before = .ok left ∧
      place letterSpacing baseline (x + penMove letterSpacing before) after =
        .ok right ∧
      placed = left ++ right := by
  induction before generalizing x placed with
  | nil =>
      refine ⟨[], placed, rfl, ?_, rfl⟩
      rwa [penMove_nil, Int.add_zero]
  | cons g rest inductionHypothesis =>
      obtain ⟨stepFits, nextFits, others, isRest, rfl⟩ := place_cons_eq_ok_iff.mp isPlaced
      obtain ⟨left, right, isLeft, isRight, rfl⟩ := inductionHypothesis isRest
      refine ⟨_, right, place_cons_eq_ok_iff.mpr ⟨stepFits, nextFits, left, isLeft, rfl⟩,
        ?_, rfl⟩
      rw [penMove_cons, ← Int.add_assoc]
      exact isRight

/-- Where glyphs are placed does not depend on their units. -/
theorem place_shift {letterSpacing baseline : Int32} {x : Int} (offset : Nat)
    {glyphs : List LooseGlyph} {placed : List PlacedGlyph}
    (isPlaced : place letterSpacing baseline x glyphs = .ok placed) :
    place letterSpacing baseline x (glyphs.map (LooseGlyph.shift offset)) =
      .ok (placed.map (PlacedGlyph.shift offset)) := by
  induction glyphs generalizing x placed with
  | nil =>
      cases isPlaced
      rfl
  | cons g rest inductionHypothesis =>
      obtain ⟨stepFits, nextFits, others, isRest, rfl⟩ := place_cons_eq_ok_iff.mp isPlaced
      exact place_cons_eq_ok_iff.mpr
        ⟨stepFits, nextFits, _, inductionHypothesis isRest, rfl⟩

/-! ## Lines at the left of their origin -/

/-- The baseline of a line, limited to the coordinate space, which depends on the
glyphs of the line in no way. -/
def lineBaseline (origin : Point) (options : LineOptions) (metrics : LineMetrics) :
    Checked Int32 := do
  let height ← metrics.height
  let baseline ← baselineY options.anchor.vertical options.box origin.y.toInt
    height.toInt metrics.ascent.toInt metrics.descent.toInt
  pure (Word.clampInt32 baseline)

/-- A line that begins at its origin has its glyphs placed from there on. -/
theorem place_of_layout_left {glyphs : List LooseGlyph} {origin : Point}
    {options : LineOptions} {metrics : LineMetrics} {run : Run}
    (isRun : layout glyphs origin options metrics = .ok run)
    (atLeft : options.anchor.alignment = .left) (unboxed : options.box = none) :
    ∃ baseline, lineBaseline origin options metrics = .ok baseline ∧
      place options.letterSpacing baseline origin.x.toInt glyphs = .ok run.glyphs := by
  obtain ⟨left, baseline, laid⟩ := laid_of_layout isRun
  have isLeft := laid.isLeft
  rw [atLeft, unboxed] at isLeft
  cases isLeft
  refine ⟨run.baseline, Checked.bind_eq_ok_iff.mpr ⟨_, laid.isHeight,
    Checked.bind_eq_ok_iff.mpr ⟨_, laid.isBaseline, ?_⟩⟩, laid.isPlaced⟩
  rw [laid.baseline_eq]
  rfl

/-! ## Room for a line -/

/-- Without letter spacing the pen never goes back, so that glyphs are placed
precisely when its last place fits. -/
theorem place_zero_returns_iff {baseline : Int32} {x : Int} (fits : Word.FitsInt64 x)
    {glyphs : List LooseGlyph} :
    (∃ placed, place 0 baseline x glyphs = .ok placed) ↔
      Word.FitsInt64 (x + advanceSum (glyphs.map (·.ref.advance))) := by
  induction glyphs generalizing x with
  | nil => simpa [place, pure, Except.pure] using fits
  | cons g rest inductionHypothesis =>
      have advance_lt := g.ref.advance.toNat_lt
      have rest_nonneg := advanceSum_nonneg (rest.map (·.ref.advance))
      have stepFits : Word.FitsInt64 (g.ref.advance.toNat + (0 : Int32).toInt) := by
        rw [Int32.toInt_zero, Word.FitsInt64]
        omega
      simp only [place, Checked.bind_eq_ok_iff, Word.exactInt64_eq_ok_iff,
        List.map_cons, advanceSum_cons]
      rw [Int32.toInt_zero, Int.add_zero] at stepFits ⊢
      constructor
      · rintro ⟨_, _, ⟨_, rfl⟩, _, ⟨nextFits, rfl⟩, placed, isPlaced, _⟩
        rw [← Int.add_assoc]
        exact (inductionHypothesis nextFits).mp ⟨placed, isPlaced⟩
      · intro lastFits
        have nextFits : Word.FitsInt64 (x + g.ref.advance.toNat) := by
          unfold Word.FitsInt64 at fits lastFits ⊢
          omega
        rw [← Int.add_assoc] at lastFits
        obtain ⟨placed, isPlaced⟩ := (inductionHypothesis nextFits).mpr lastFits
        exact ⟨_, _, ⟨stepFits, rfl⟩, _, ⟨nextFits, rfl⟩, placed, isPlaced, rfl⟩

/-- Where a line of the given width begins. -/
def lineStart (alignment : Alignment) (x width : Int32) : Int :=
  match alignment with
  | .left => x.toInt
  | .center => x.toInt - width.toInt.tdiv 2
  | .right => x.toInt - width.toInt

/-- A line outside of a box begins where it does in a frame without extent. -/
theorem lineStart_eq_frame (alignment : Alignment) (x width : Int32) :
    lineStart alignment x width = (Frame.ofColumns x none).lineStart alignment width := by
  cases alignment <;>
    simp [lineStart, Frame.lineStart, Frame.ofColumns, Alignment.offset, Int.sub_eq_add_neg]

theorem fits_lineStart (alignment : Alignment) (x width : Int32) :
    Word.FitsInt64 (lineStart alignment x width) := by
  have bounded := (Frame.ofColumns x none).natAbs_lineStart_le alignment width
  rw [lineStart_eq_frame, Word.FitsInt64]
  omega

theorem startX_none_eq_ok (alignment : Alignment) (x width : Int32) :
    startX alignment none x.toInt width.toInt = .ok (lineStart alignment x width) := by
  rw [startX_eq_ok, lineStart_eq_frame]

/-- Words have room for a line of the given advances: for its width, and for the pen
after its last glyph. -/
structure HasRoom (alignment : Alignment) (x : Int32) (advances : List UInt16) :
    Prop where
  width : Word.FitsInt64 (advanceSum advances)
  pen : Word.FitsInt64 (lineStart alignment x (Word.clampInt32 (advanceSum advances)) +
    advanceSum advances)

/-- A line outside of a box and without letter spacing is laid out precisely when the
height of the line fits a coordinate and words have room for its glyphs. -/
theorem layout_returns_iff {glyphs : List LooseGlyph} {origin : Point}
    {anchor : Anchor} {metrics : LineMetrics} :
    (∃ run, layout glyphs origin (LineOptions.ofAnchor anchor) metrics = .ok run) ↔
      Word.FitsInt32 (metrics.ascent.toInt + metrics.descent.toInt) ∧
      HasRoom anchor.alignment origin.x (glyphs.map (·.ref.advance)) := by
  have startFits := fits_lineStart anchor.alignment origin.x
    (Word.clampInt32 (advanceSum (glyphs.map (·.ref.advance))))
  constructor
  · rintro ⟨run, isRun⟩
    obtain ⟨left, baseline, laid⟩ := laid_of_layout isRun
    obtain ⟨widthFits, width_eq⟩ := measure_zero_eq_ok_iff.mp laid.isWidth
    have isPlaced := laid.isPlaced
    cases (startX_none_eq_ok _ _ _).symm.trans laid.isLeft
    rw [width_eq] at isPlaced
    rw [← Word.exactInt32_eq_ok_iff.mp laid.isHeight]
    exact ⟨Word.fitsInt32_toInt _, widthFits,
      (place_zero_returns_iff startFits).mp ⟨_, isPlaced⟩⟩
  · rintro ⟨heightFits, room⟩
    refine exists_layout (measure_zero_eq_ok_iff.mpr ⟨room.width, rfl⟩) (if_pos heightFits)
      fun baseline => (place_zero_returns_iff ?_).mpr ?_
    · exact lineStart_eq_frame .. ▸ startFits
    · exact lineStart_eq_frame .. ▸ room.pen

/-! ## Lines of few glyphs -/

theorem advanceSum_le (advances : List UInt16) :
    advanceSum advances ≤ advances.length * 65535 := by
  induction advances with
  | nil => exact Int.le_refl 0
  | cons advance rest inductionHypothesis =>
      have advance_lt := advance.toNat_lt
      rw [advanceSum_cons, List.length_cons]
      omega

/-- The gaps of a line with fewer than 2^31 glyphs, and its advances, are both far from
the limits of a 64-bit word. -/
theorem exists_measure {advances : List UInt16} (few : advances.length < 2147483648)
    (letterSpacing : Int32) : ∃ width, measure advances letterSpacing = .ok width := by
  have advances_nonneg := advanceSum_nonneg advances
  have advances_le := advanceSum_le advances
  have spacingFits := Word.fitsInt32_toInt letterSpacing
  have gaps_le : (((advances.length - 1 : Nat) : Int) * letterSpacing.toInt).natAbs ≤
      2147483648 * 2147483648 := by
    unfold Word.FitsInt32 at spacingFits
    rw [Int.natAbs_mul]
    exact Nat.mul_le_mul (by omega) (by omega)
  refine ⟨_, measure_eq_ok_iff.mpr ⟨?_, ?_, ?_, rfl⟩⟩
  · exact ⟨by omega, by omega⟩
  · exact ⟨by omega, by omega⟩
  · unfold extent
    exact ⟨by omega, by omega⟩

/-- One glyph moves the pen by at most one advance and one letter spacing, so that glyphs
are placed as long as there is room for that many moves. -/
theorem exists_place (letterSpacing baseline : Int32) {x : Int} {glyphs : List LooseGlyph}
    (room : x.natAbs + glyphs.length * 2147549183 ≤ 9223372036854775807) :
    ∃ placed, place letterSpacing baseline x glyphs = .ok placed := by
  induction glyphs generalizing x with
  | nil => exact ⟨[], rfl⟩
  | cons g rest inductionHypothesis =>
      have advance_lt := g.ref.advance.toNat_lt
      have spacingFits := Word.fitsInt32_toInt letterSpacing
      unfold Word.FitsInt32 at spacingFits
      rw [List.length_cons] at room
      obtain ⟨placed, isPlaced⟩ := inductionHypothesis
        (x := x + (g.ref.advance.toNat + letterSpacing.toInt)) (by omega)
      exact ⟨_, Checked.bind_eq_ok_iff.mpr ⟨_, Word.exactInt64_eq_ok (by omega),
        Checked.bind_eq_ok_iff.mpr ⟨_, Word.exactInt64_eq_ok (by omega),
        Checked.bind_eq_ok_iff.mpr ⟨_, isPlaced, rfl⟩⟩⟩⟩

/-- A line of fewer than 2^31 glyphs is laid out whenever its height fits a coordinate. -/
theorem exists_layout_of_few {glyphs : List LooseGlyph} (few : glyphs.length < 2147483648)
    (origin : Point) (options : LineOptions) {metrics : LineMetrics}
    (heightFits : Word.FitsInt32 (metrics.ascent.toInt + metrics.descent.toInt)) :
    ∃ run, layout glyphs origin options metrics = .ok run := by
  have fewAdvances : (glyphs.map (·.ref.advance)).length < 2147483648 := by
    rwa [List.length_map]
  obtain ⟨width, isWidth⟩ := exists_measure fewAdvances options.letterSpacing
  have bounded := (Frame.ofColumns origin.x options.box).natAbs_lineStart_le
    options.anchor.alignment width
  exact exists_layout isWidth (if_pos heightFits)
    fun baseline => exists_place options.letterSpacing baseline (by omega)

end Line

end Inkwell
