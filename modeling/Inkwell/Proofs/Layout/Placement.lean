import Inkwell.Proofs.Layout.Frame

/-!
# Placement keeps the glyphs

Laying out a line decides where its glyphs go and nothing else: glyphs are
neither dropped nor reordered, and each keeps its reference, its units and its
mask.
-/

namespace Inkwell

/-- A placed glyph without its place. -/
def PlacedGlyph.loose (g : PlacedGlyph) : LooseGlyph :=
  ⟨g.ref, g.start, g.stop, g.mask⟩

namespace Line

/-- A glyph in front of others is placed where the pen is, and the others from where the
pen goes next. -/
theorem place_cons_eq_ok_iff {letterSpacing baseline : Int32} {x : Int} {g : LooseGlyph}
    {rest : List LooseGlyph} {placed : List PlacedGlyph} :
    place letterSpacing baseline x (g :: rest) = .ok placed ↔
      Word.FitsInt64 (g.ref.advance.toNat + letterSpacing.toInt) ∧
      Word.FitsInt64 (x + (g.ref.advance.toNat + letterSpacing.toInt)) ∧
      ∃ others, place letterSpacing baseline
          (x + (g.ref.advance.toNat + letterSpacing.toInt)) rest = .ok others ∧
        placed = ⟨g.ref, g.start, g.stop, Word.clampInt32 x, baseline, g.mask⟩ ::
          others := by
  simp only [place, Checked.bind_eq_ok_iff, Word.exactInt64_eq_ok_iff]
  constructor
  · rintro ⟨_, ⟨stepFits, rfl⟩, _, ⟨nextFits, rfl⟩, others, isRest, isPlaced⟩
    cases isPlaced
    exact ⟨stepFits, nextFits, others, isRest, rfl⟩
  · rintro ⟨stepFits, nextFits, others, isRest, rfl⟩
    exact ⟨_, ⟨stepFits, rfl⟩, _, ⟨nextFits, rfl⟩, others, isRest, rfl⟩

/-- Placing glyphs keeps each of them, in order. -/
theorem map_loose_place {letterSpacing baseline : Int32} {x : Int}
    {glyphs : List LooseGlyph} {placed : List PlacedGlyph}
    (isPlaced : place letterSpacing baseline x glyphs = .ok placed) :
    placed.map PlacedGlyph.loose = glyphs := by
  induction glyphs generalizing x placed with
  | nil =>
      cases isPlaced
      rfl
  | cons g rest inductionHypothesis =>
      obtain ⟨_, _, others, isRest, rfl⟩ := place_cons_eq_ok_iff.mp isPlaced
      rw [List.map_cons, inductionHypothesis isRest]
      rfl

/-- Laying out a line keeps each glyph, in order. -/
theorem map_loose_layout {glyphs : List LooseGlyph} {origin : Point}
    {options : LineOptions} {metrics : LineMetrics} {run : Run}
    (isRun : layout glyphs origin options metrics = .ok run) :
    run.glyphs.map PlacedGlyph.loose = glyphs := by
  obtain ⟨left, baseline, laid⟩ := laid_of_layout isRun
  exact map_loose_place laid.isPlaced

end Line

end Inkwell
