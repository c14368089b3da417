import Inkwell.Proofs.Layout.Alignment

/-!
# Spans of glyphs

A glyph takes up the columns from the pen to its advance further on.  Places and ends of
glyphs are limited to the coordinate space one by one, and a limited place is no longer
where the pen was.  Without negative letter spacing the spans lie one after the other all
the same, beyond the last column as well as before it, unless the line begins so far to
the left that the limit moves its glyphs to the right.

The pen goes one letter spacing further after the last glyph too, and the width of the line
leaves that out.  Where nothing was limited, the last span ends with the line.
-/

namespace Inkwell

/-- Limiting keeps the order of numbers. -/
theorem Word.toInt_clampInt32_le {m n : Int} (le : m ≤ n) :
    (clampInt32 m).toInt ≤ (clampInt32 n).toInt := by
  rw [toInt_clampInt32, toInt_clampInt32]
  omega

/-- A glyph that is not moved to the right ends before the exact place where the pen is
after it. -/
theorem PlacedGlyph.toInt_spanEnd_le {g : PlacedGlyph} {x next : Int}
    (place_le : g.x.toInt ≤ x) (next_ge : x + g.ref.advance.toNat ≤ next) :
    g.spanEnd.toInt ≤ (Word.clampInt32 next).toInt :=
  Word.toInt_clampInt32_le (Int.le_trans (Int.add_le_add_right place_le _) next_ge)

namespace Line

variable {letterSpacing baseline : Int32} {x : Int} {glyphs : List LooseGlyph}
  {placed : List PlacedGlyph}

/-! ## Neighbours -/

/-- Without negative letter spacing no glyph is placed before the pen. -/
theorem toInt_clampInt32_le_of_place (spaced : 0 ≤ letterSpacing.toInt)
    (isPlaced : place letterSpacing baseline x glyphs = .ok placed) :
    ∀ g ∈ placed, (Word.clampInt32 x).toInt ≤ g.x.toInt := by
  induction glyphs generalizing x placed with
  | nil =>
      cases isPlaced
      simp
  | cons g rest inductionHypothesis =>
      obtain ⟨_, _, others, isRest, rfl⟩ := place_cons_eq_ok_iff.mp isPlaced
      intro other member
      rcases List.mem_cons.mp member with rfl | member
      · exact Int.le_refl _
      · calc
          (Word.clampInt32 x).toInt
            ≤ (Word.clampInt32 (x + (g.ref.advance.toNat + letterSpacing.toInt))).toInt :=
              Word.toInt_clampInt32_le (by omega)
          _ ≤ other.x.toInt := inductionHypothesis isRest other member

/-- Glyphs placed from a column of the coordinate space on end before those after them
begin. -/
theorem pairwise_spans_of_place (spaced : 0 ≤ letterSpacing.toInt)
    (onGrid : -2147483648 ≤ x)
    (isPlaced : place letterSpacing baseline x glyphs = .ok placed) :
    placed.Pairwise fun g h => g.spanEnd.toInt ≤ h.x.toInt := by
  induction glyphs generalizing x placed with
  | nil =>
      cases isPlaced
      exact List.Pairwise.nil
  | cons g rest inductionHypothesis =>
      obtain ⟨_, _, others, isRest, rfl⟩ := place_cons_eq_ok_iff.mp isPlaced
      refine List.Pairwise.cons (fun other member => ?_)
        (inductionHypothesis (by omega) isRest)
      -- A pen on the grid is only ever limited from above.
      have place_le : (Word.clampInt32 x).toInt ≤ x := by
        rw [Word.toInt_clampInt32]
        omega
      exact Int.le_trans (PlacedGlyph.toInt_spanEnd_le place_le (by dsimp only; omega))
        (toInt_clampInt32_le_of_place spaced isRest other member)

/-- Before it is limited to the coordinate space, the left edge of the line does not lie
before the first column. -/
def StartsOnGrid (origin : Point) (options : LineOptions) (run : Run) : Prop :=
  ∃ left, startX options.anchor.alignment options.box origin.x.toInt run.width.toInt =
    .ok left ∧ -2147483648 ≤ left

/-- A line at the left of its frame begins with a column of its frame. -/
theorem startsOnGrid_of_left {origin : Point} {options : LineOptions} (run : Run)
    (atLeft : options.anchor.horizontalFlag = Anchor.left) :
    StartsOnGrid origin options run := by
  refine ⟨_, startX_eq_ok _ _ _ _, ?_⟩
  have isLeft : options.anchor.alignment = .left := Anchor.alignment_eq_of_flag atLeft
  rw [isLeft, Frame.lineStart, Alignment.offset, Int.add_zero]
  exact Int32.le_toInt _

/-- Lay out any glyphs without negative letter spacing, with a height of the line that
fits a coordinate.  Fewer than 2^31 glyphs are always laid out.  Whenever a line is laid
out and its exact left edge does not lie before the coordinate space, as is the case for
every line aligned at the left, each glyph ends no later than any glyph after it begins:
also where the line runs over the last column. -/
theorem spans_never_overlap (glyphs : List LooseGlyph) (origin : Point)
    (options : LineOptions) (metrics : LineMetrics) (spaced : 0 ≤ options.letterSpacing)
    (heightFits : Word.FitsInt32 (metrics.ascent.toInt + metrics.descent.toInt)) :
    (glyphs.length < 2147483648 → ∃ run, layout glyphs origin options metrics = .ok run) ∧
    ∀ run, layout glyphs origin options metrics = .ok run →
      (options.anchor.horizontalFlag = Anchor.left → StartsOnGrid origin options run) ∧
      (StartsOnGrid origin options run →
        run.glyphs.Pairwise fun g h => g.spanEnd ≤ h.x) := by
  refine ⟨fun few => exists_layout_of_few few origin options heightFits,
    fun run isRun => ⟨startsOnGrid_of_left run, ?_⟩⟩
  rintro ⟨start, isStart, onGrid⟩
  obtain ⟨left, baseline, laid⟩ := laid_of_layout isRun
  cases laid.isLeft.symm.trans isStart
  have apart := pairwise_spans_of_place (Int32.le_iff_toInt_le.mp spaced) onGrid laid.isPlaced
  exact apart.imp Int32.le_iff_toInt_le.mpr

/-- Three glyphs, of which the second has no advance. -/
def sparseGlyphs : List LooseGlyph :=
  [⟨⟨0, 1, 0, 7⟩, 0, 1, none⟩, ⟨⟨0, 1, 1, 0⟩, 1, 2, none⟩, ⟨⟨0, 1, 2, 6⟩, 2, 3, none⟩]

/-- A line that leaves the coordinate space with its second glyph. -/
def leavingRun : Run where
  glyphs := [⟨⟨0, 1, 0, 7⟩, 0, 1, 2147483640, 12, none⟩,
    ⟨⟨0, 1, 1, 0⟩, 1, 2, 2147483647, 12, none⟩, ⟨⟨0, 1, 2, 6⟩, 2, 3, 2147483647, 12, none⟩]
  bounds := ⟨2147483640, 0, 17, 16⟩
  baseline := 12
  width := 17

/-- The first glyph ends where the two others are moved to. -/
theorem spans_never_overlap_leaving :
    layout sparseGlyphs ⟨2147483640, 0⟩ ⟨Anchor.topLeft, none, 2⟩ ⟨12, 4⟩ =
      .ok leavingRun ∧
    leavingRun.glyphs.map PlacedGlyph.spanEnd = [2147483647, 2147483647, 2147483647] ∧
    leavingRun.glyphs.Pairwise fun g h => g.spanEnd ≤ h.x := by
  have isRun : layout sparseGlyphs ⟨2147483640, 0⟩ ⟨Anchor.topLeft, none, 2⟩ ⟨12, 4⟩ =
      .ok leavingRun := by
    rfl
  obtain ⟨starts, apart⟩ := (spans_never_overlap sparseGlyphs ⟨2147483640, 0⟩
    ⟨Anchor.topLeft, none, 2⟩ ⟨12, 4⟩ (by decide) (by decide)).2 leavingRun isRun
  exact ⟨isRun, by decide, apart (starts (by decide))⟩

/-! ## The end of a line -/

/-- A glyph is placed where the pen has got to over the glyphs before it. -/
theorem x_eq_of_place (isPlaced : place letterSpacing baseline x glyphs = .ok placed)
    {n : Nat} {g : PlacedGlyph} (found : placed[n]? = some g) :
    g.x = Word.clampInt32 (x + penMove letterSpacing (glyphs.take n)) := by
  induction glyphs generalizing x placed n with
  | nil =>
      cases isPlaced
      cases found
  | cons first rest inductionHypothesis =>
      obtain ⟨_, _, others, isRest, rfl⟩ := place_cons_eq_ok_iff.mp isPlaced
      cases n with
      | zero =>
          cases found
          rw [List.take_zero, penMove_nil, Int.add_zero]
      | succ n =>
          rw [inductionHypothesis isRest found, List.take_succ_cons, penMove_cons,
            Int.add_assoc]

/-- The extent of a line ends with the advance of its last glyph, where the pen has got to
over the others. -/
theorem extent_concat (letterSpacing : Int32) (before : List LooseGlyph) (last : LooseGlyph) :
    extent ((before ++ [last]).map (·.ref.advance)) letterSpacing =
      penMove letterSpacing before + last.ref.advance.toNat := by
  simp only [extent, penMove, List.map_append, List.map_cons, List.map_nil, advanceSum_append,
    advanceSum_cons, advanceSum_nil, List.length_append, List.length_map, List.length_cons,
    List.length_nil, Nat.add_sub_cancel]
  omega

variable {origin : Point} {options : LineOptions} {metrics : LineMetrics}
  {left lineBaseline : Int} {run : Run}

/-- The glyphs of a line keep their advances. -/
theorem Laid.map_advance (laid : Laid glyphs origin options metrics left lineBaseline run) :
    run.glyphs.map (·.ref.advance) = glyphs.map (·.ref.advance) := by
  rw [← map_loose_place laid.isPlaced, List.map_map]
  rfl

/-- The width of a line is the extent of its glyphs, limited to the coordinate space. -/
theorem Laid.width_eq_extent
    (laid : Laid glyphs origin options metrics left lineBaseline run) :
    run.width = Word.clampInt32
      (extent (run.glyphs.map (·.ref.advance)) options.letterSpacing) := by
  rw [laid.map_advance]
  exact (measure_eq_ok_iff.mp laid.isWidth).2.2.2

/-- Neither the width of the line nor the place or the end of any of its glyphs was limited
to the coordinate space. -/
structure Unlimited (origin : Point) (options : LineOptions) (run : Run) : Prop where
  width : Word.FitsInt32 (extent (run.glyphs.map (·.ref.advance)) options.letterSpacing)
  places : ∃ left, startX options.anchor.alignment options.box origin.x.toInt
      run.width.toInt = .ok left ∧
    ∀ n < run.glyphs.length, Word.FitsInt32
      (left + penMove options.letterSpacing ((run.glyphs.take n).map PlacedGlyph.loose))
  ends : ∀ g ∈ run.glyphs, Word.FitsInt32 (g.x.toInt + g.ref.advance.toNat)

/-- The last glyph of a line of which nothing was limited ends where the line does. -/
theorem Laid.toInt_spanEnd_last
    (laid : Laid glyphs origin options metrics left lineBaseline run)
    (unlimited : Unlimited origin options run) {last : PlacedGlyph}
    (isLast : run.glyphs.getLast? = some last) :
    last.spanEnd.toInt = run.bounds.x.toInt + run.width.toInt := by
  obtain ⟨before, isRun⟩ := List.getLast?_eq_some_iff.mp isLast
  obtain ⟨start, isStart, places⟩ := unlimited.places
  cases laid.isLeft.symm.trans isStart
  have firstPlace := places 0 (by simp [isRun])
  have lastPlace := places before.length (by simp [isRun])
  rw [List.take_zero, List.map_nil, penMove_nil, Int.add_zero] at firstPlace
  rw [isRun, List.take_left] at lastPlace
  have glyphs_eq : glyphs = before.map PlacedGlyph.loose ++ [last.loose] := by
    rw [← map_loose_place laid.isPlaced, isRun, List.map_append]
    rfl
  have x_eq : last.x.toInt =
      left + penMove options.letterSpacing (before.map PlacedGlyph.loose) := by
    have found : run.glyphs[before.length]? = some last := by
      simp [isRun]
    rw [x_eq_of_place laid.isPlaced found, glyphs_eq,
      List.take_left' (List.length_map PlacedGlyph.loose),
      Word.toInt_clampInt32_of_fits lastPlace]
  have width_eq : run.width.toInt =
      penMove options.letterSpacing (before.map PlacedGlyph.loose) +
        last.ref.advance.toNat := by
    rw [laid.width_eq_extent, Word.toInt_clampInt32_of_fits unlimited.width,
      laid.map_advance, glyphs_eq, extent_concat]
    rfl
  rw [PlacedGlyph.spanEnd,
    Word.toInt_clampInt32_of_fits (unlimited.ends last (List.mem_of_getLast? isLast)),
    laid.x_eq, Word.toInt_clampInt32_of_fits firstPlace, x_eq, width_eq, Int.add_assoc]

end Line

end Inkwell
