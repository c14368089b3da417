import Inkwell.Proofs.Glyph.HollowBox
import Inkwell.Proofs.Layout.Inking
import Inkwell.Proofs.Layout.Spans

/-!
# Missing glyphs on a line

A missing glyph covers columns between the pen and its advance further on, and rows
between the ascent and the baseline.  The pen never moves back where letter spacing is not
negative, so two boxes on one line have no column in common, unless the limit of the
coordinate space has moved one of them.

The limit also moves boxes down whose top lies before the first row.  There is no canvas
there, so that the rows of a canvas that a box covers are always those above the baseline.
-/

namespace Inkwell

/-! ## Where the pen is -/

namespace Line

variable {glyphs : List LooseGlyph} {origin : Point} {options : LineOptions}
  {metrics : LineMetrics} {run : Run} {m n : Nat} {g : PlacedGlyph}

/-- Where the pen is for the glyph at a place of a run, before it is limited to the
coordinate space. -/
def pen (origin : Point) (options : LineOptions) (run : Run) (n : Nat) : Int :=
  (Frame.ofColumns origin.x options.box).lineStart options.anchor.alignment run.width +
    penMove options.letterSpacing ((run.glyphs.take n).map PlacedGlyph.loose)

theorem x_eq_pen (isRun : layout glyphs origin options metrics = .ok run)
    (found : run.glyphs[n]? = some g) :
    g.x = Word.clampInt32 (pen origin options run n) := by
  obtain ⟨left, baseline, laid⟩ := laid_of_layout isRun
  cases (startX_eq_ok _ _ _ _).symm.trans laid.isLeft
  rw [x_eq_of_place laid.isPlaced found, ← map_loose_place laid.isPlaced, ← List.map_take]
  rfl

theorem pen_succ (found : run.glyphs[n]? = some g) :
    pen origin options run (n + 1) =
      pen origin options run n + (g.ref.advance.toNat + options.letterSpacing.toInt) := by
  rw [pen, List.take_add_one, found, List.map_append, penMove_append, ← Int.add_assoc]
  congr 1
  simp [penMove, PlacedGlyph.loose]

/-- Without negative letter spacing the pen does not move back. -/
theorem pen_le_pen (spaced : 0 ≤ options.letterSpacing.toInt) (le : m ≤ n) :
    pen origin options run m ≤ pen origin options run n := by
  induction n, le using Nat.le_induction with
  | base => exact Int.le_refl _
  | succ n _ inductionHypothesis =>
      refine Int.le_trans inductionHypothesis ?_
      cases found : run.glyphs[n]? with
      | none =>
          rw [pen, pen, List.take_add_one, found, Option.toList_none, List.append_nil]
      | some g =>
          rw [pen_succ found]
          omega

/-- Before the next glyphs are placed, the pen has moved over the advance of a glyph. -/
theorem pen_add_advance_le (spaced : 0 ≤ options.letterSpacing.toInt)
    (found : run.glyphs[m]? = some g) (lt : m < n) :
    pen origin options run m + g.ref.advance.toNat ≤ pen origin options run n := by
  calc
    pen origin options run m + g.ref.advance.toNat ≤ pen origin options run (m + 1) := by
      rw [pen_succ found]
      omega
    _ ≤ pen origin options run n := pen_le_pen spaced lt

end Line

/-! ## Columns and rows of a box -/

/-- A frame covers all of its rows. -/
theorem Mask.IsFrame.exists_covers_iff {mask : Mask} (isFrame : mask.IsFrame)
    {left top row : Int} :
    (∃ column, mask.Covers left top column row) ↔
      top ≤ row ∧ row < top + mask.height.toNat := by
  constructor
  · rintro ⟨column, _, inRows, _⟩
    omega
  · rintro ⟨top_le, row_lt⟩
    have width_ge := isFrame.width_ge
    -- The first column of a frame is painted in every row.
    have place : ((row - top) * mask.width.toNat + (left - left)).toNat =
        (row - top).toNat * mask.width.toNat + 0 := by
      obtain ⟨number, isNumber⟩ := Int.eq_ofNat_of_zero_le (show 0 ≤ row - top by omega)
      rw [isNumber, Int.sub_self]
      rfl
    refine ⟨left, by omega, by omega, 255, ?_, by decide⟩
    rw [place]
    exact isFrame.outermost 0 (by omega) (row - top).toNat (by omega) (Or.inl rfl)

/-- The glyph is missing: it moves the pen as far as the box of the given size does, and
the box is its mask. -/
structure PlacedGlyph.IsMissing (g : PlacedGlyph) (size : UInt16) (mask : Mask) : Prop where
  advance : MissingBox.advance size = .ok g.ref.advance
  mask : g.mask = some mask

namespace MissingBox

variable {size : UInt16} {metrics : LineMetrics} {g h : PlacedGlyph}
  {column row otherRow : Int}

/-- A missing glyph covers columns within its advance only, also where the limit of the
coordinate space moves its box to the left. -/
theorem columns_of_covers (missing : g.IsMissing size (box size metrics))
    (covers : g.Covers column row) :
    g.x.toInt ≤ column ∧ column < g.x.toInt + g.ref.advance.toNat := by
  obtain ⟨m, isMask, inColumns, _⟩ := covers
  cases missing.mask.symm.trans isMask
  obtain ⟨bearing_nonneg, fits⟩ := bearingX_add_width_le metrics missing.advance
  have xFits := Word.fitsInt32_toInt g.x
  rw [Mask.left, Word.toInt_clampInt32] at inColumns
  unfold Word.FitsInt32 at xFits
  omega

/-- Two boxes on a line have no column in common if neither was moved by the limit of the
coordinate space. -/
theorem columns_apart {glyphs : List LooseGlyph} {origin : Point} {options : LineOptions}
    {lineMetrics : LineMetrics} {run : Run} {m n : Nat}
    (spaced : 0 ≤ options.letterSpacing.toInt)
    (isRun : Line.layout glyphs origin options lineMetrics = .ok run) (lt : m < n)
    (first : run.glyphs[m]? = some g) (second : run.glyphs[n]? = some h)
    (missing : g.IsMissing size (box size metrics))
    (otherMissing : h.IsMissing size (box size metrics))
    (unmoved : Word.FitsInt32 (Line.pen origin options run m))
    (otherUnmoved : Word.FitsInt32 (Line.pen origin options run n)) :
    ¬ (g.Covers column row ∧ h.Covers column otherRow) := by
  rintro ⟨covers, otherCovers⟩
  have x_eq := congrArg Int32.toInt (Line.x_eq_pen isRun first)
  have otherX_eq := congrArg Int32.toInt (Line.x_eq_pen isRun second)
  rw [Word.toInt_clampInt32_of_fits unmoved] at x_eq
  rw [Word.toInt_clampInt32_of_fits otherUnmoved] at otherX_eq
  have before : column < h.x.toInt := by
    calc
      column < g.x.toInt + g.ref.advance.toNat := (columns_of_covers missing covers).2
      _ = Line.pen origin options run m + g.ref.advance.toNat := by rw [x_eq]
      _ ≤ Line.pen origin options run n := Line.pen_add_advance_le spaced first lt
      _ = h.x.toInt := otherX_eq.symm
  exact absurd (columns_of_covers otherMissing otherCovers).1 (Int.not_le.mpr before)

/-- The box covers the rows from the ascent down to the baseline. -/
theorem rows_box_iff (short : metrics.ascent.toInt ≤ 32767) {left baseline : Int} :
    (∃ column, (box size metrics).Covers left
        (baseline - (box size metrics).bearingY.toInt) column row) ↔
      baseline - max metrics.ascent.toInt 3 ≤ row ∧ row ≤ baseline - 1 := by
  have height_eq := height_box size metrics
  rw [(isFrame_box size metrics).exists_covers_iff, toInt_bearingY_box short]
  omega

/-- A box on a line covers these rows too.  Only rows outside of every canvas can be
others, when the limit of the coordinate space has moved the top of the box. -/
theorem rows_glyph_iff (short : metrics.ascent.toInt ≤ 32767)
    (isMask : g.mask = some (box size metrics))
    (seen : 0 ≤ row ∨ -2147483648 ≤ g.baseline.toInt - max metrics.ascent.toInt 3) :
    (∃ column, g.Covers column row) ↔
      g.baseline.toInt - max metrics.ascent.toInt 3 ≤ row ∧ row ≤ g.baseline.toInt - 1 := by
  have ofMask : (∃ column, g.Covers column row) ↔
      ∃ column, (box size metrics).Covers ((box size metrics).left g.x).toInt
        ((box size metrics).top g.baseline).toInt column row := by
    simp only [PlacedGlyph.Covers, isMask, Option.mem_def, Option.some.injEq,
      exists_eq_left']
  have height_eq := height_box size metrics
  have baselineFits := Word.fitsInt32_toInt g.baseline
  rw [ofMask, (isFrame_box size metrics).exists_covers_iff, Mask.top, Word.toInt_clampInt32,
    toInt_bearingY_box short]
  unfold Word.FitsInt32 at baselineFits
  omega

/-- Take any size and any metrics.  The box is returned precisely when a word can count its
bytes.  It is a frame then, and bearing and width keep to the advance of the box.  On every
line without negative letter spacing, two missing glyphs whose places were not limited to
the coordinate space cover no column in common.  If the ascent is at most 32767, the rows
that the box covers are those from the ascent, or from three rows above the baseline if it
is smaller, down to the baseline; so are the rows that a missing glyph covers on any
canvas, and outside of it as long as the top of the box was not limited either. -/
theorem box_is_hollow_frame (size : UInt16) (metrics : LineMetrics) :
    ((∃ mask, MissingBox.mask size metrics = .ok mask) ↔
      Showable size metrics.ascent.toInt) ∧
    ∀ mask, MissingBox.mask size metrics = .ok mask →
      mask.IsFrame ∧
      (∃ advance, MissingBox.advance size = .ok advance ∧
        0 ≤ mask.bearingX.toInt ∧
        mask.bearingX.toInt + mask.width.toNat ≤ advance.toNat) ∧
      (∀ glyphs origin options lineMetrics run, 0 ≤ options.letterSpacing →
        Line.layout glyphs origin options lineMetrics = .ok run →
        ∀ m n g h, m < n → run.glyphs[m]? = some g → run.glyphs[n]? = some h →
          g.IsMissing size mask → h.IsMissing size mask →
          Word.FitsInt32 (Line.pen origin options run m) →
          Word.FitsInt32 (Line.pen origin options run n) →
          ∀ column row otherRow, ¬ (g.Covers column row ∧ h.Covers column otherRow)) ∧
      (metrics.ascent.toInt ≤ 32767 →
        (∀ left baseline row,
          (∃ column, mask.Covers left (baseline - mask.bearingY.toInt) column row) ↔
            baseline - max metrics.ascent.toInt 3 ≤ row ∧ row ≤ baseline - 1) ∧
        (∀ (g : PlacedGlyph) (row : Int), g.mask = some mask →
          (0 ≤ row ∨ -2147483648 ≤ g.baseline.toInt - max metrics.ascent.toInt 3) →
          ((∃ column, g.Covers column row) ↔
            g.baseline.toInt - max metrics.ascent.toInt 3 ≤ row ∧
              row ≤ g.baseline.toInt - 1))) := by
  refine ⟨mask_returns_iff, fun mask returns => ?_⟩
  obtain ⟨_, rfl⟩ := mask_eq_ok_iff.mp returns
  refine ⟨isFrame_box size metrics, ⟨_, advance_eq_ok size,
    bearingX_add_width_le metrics (advance_eq_ok size)⟩, ?_, fun short => ⟨?_, ?_⟩⟩
  · intro glyphs origin options lineMetrics run spaced isRun m n g h lt first second missing
      otherMissing unmoved otherUnmoved column row otherRow
    exact columns_apart (Int32.le_iff_toInt_le.mp spaced) isRun lt first second missing
      otherMissing unmoved otherUnmoved
  · intro left baseline row
    exact rows_box_iff short
  · intro g row isMask seen
    exact rows_glyph_iff short isMask seen

/-- The box at size 16 on a line with hardly any ascent. -/
def lowBox : Mask :=
  ⟨8, 3, 1, 3, #[255, 255, 255, 255, 255, 255, 255, 255, 255, 0, 0, 0, 0, 0, 0, 255,
    255, 255, 255, 255, 255, 255, 255, 255]⟩

/-- Two missing glyphs, the first of which begins left of the canvas. -/
def missingPair : Run where
  glyphs := [⟨GlyphRef.missing 1 10, 0, 1, -4, 1, some lowBox⟩,
    ⟨GlyphRef.missing 1 10, 1, 2, 8, 1, some lowBox⟩]
  bounds := ⟨-4, 0, 22, 1⟩
  baseline := 1
  width := 22

/-- The second glyph covers the row above the baseline and not the one below. -/
theorem box_is_hollow_frame_pair :
    (MissingBox.mask 16 ⟨1, 0⟩ = .ok lowBox ∧ lowBox.IsFrame) ∧
    (∃ advance, MissingBox.advance 16 = .ok advance ∧
      lowBox.bearingX.toInt + 8 ≤ advance.toNat) ∧
    Line.layout (missingPair.glyphs.map PlacedGlyph.loose) ⟨-4, 0⟩
      ⟨Anchor.topLeft, none, 2⟩ ⟨1, 0⟩ = .ok missingPair ∧
    ∀ g h, missingPair.glyphs = [g, h] →
      (∀ column row otherRow, ¬ (g.Covers column row ∧ h.Covers column otherRow)) ∧
      (∃ column, h.Covers column 0) ∧ ¬ ∃ column, h.Covers column 1 := by
  have returns : MissingBox.mask 16 ⟨1, 0⟩ = .ok lowBox := by rfl
  have isRun : Line.layout (missingPair.glyphs.map PlacedGlyph.loose) ⟨-4, 0⟩
      ⟨Anchor.topLeft, none, 2⟩ ⟨1, 0⟩ = .ok missingPair := by rfl
  obtain ⟨isFrame, ⟨advance, isAdvance, _, fits⟩, apart, rows⟩ :=
    (box_is_hollow_frame 16 ⟨1, 0⟩).2 lowBox returns
  refine ⟨⟨returns, isFrame⟩, ⟨advance, isAdvance, fits⟩, isRun, fun g h isPair => ?_⟩
  cases isPair
  have onCanvas := (rows (by decide)).2
  refine ⟨?_, ?_, ?_⟩
  · exact apart _ _ _ _ missingPair (by decide) isRun 0 1 _ _ (by decide) rfl rfl
      ⟨rfl, rfl⟩ ⟨rfl, rfl⟩ (by decide) (by decide)
  · exact (onCanvas _ 0 rfl (Or.inl (by decide))).mpr (by decide)
  · rw [onCanvas _ 1 rfl (Or.inl (by decide))]
    decide

end MissingBox

end Inkwell
