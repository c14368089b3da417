import Inkwell.Proofs.Layout.Spans
import Inkwell.Proofs.Renderer.Clusters
import Inkwell.Proofs.Renderer.Concatenation
import Inkwell.Studio
import Mathlib.Algebra.Ring.Int.Defs

/-!
# Measuring without laying out

The width of a text is found from the advances of its glyphs, and the masks that a line
carries besides are asked for only when it is laid out.  Both ways come to one width: the
sum of the advances, with the letter spacing once between each two neighbours.  The pen of a
line goes one letter spacing further, past the end of the last glyph.
-/

namespace Inkwell

/-- The sum of the advances of placed glyphs. -/
theorem Line.advanceSum_eq_sum (glyphs : List PlacedGlyph) :
    advanceSum (glyphs.map (·.ref.advance)) =
      (glyphs.map fun g => (g.ref.advance.toNat : Int)).sum := by
  induction glyphs with
  | nil => rfl
  | cons g rest inductionHypothesis =>
      rw [List.map_cons, advanceSum_cons, inductionHypothesis, List.map_cons, List.sum_cons]

namespace Renderer

variable {r : Renderer} {c : Cache} {units : List UInt16} {origin : Point}
  {options : LineOptions} {run : Run}

/-- A text is measured by the advances of the glyphs that it is laid out with. -/
theorem measure_eq_of_prepare (prepared : (r.prepare c units origin options).1 = .ok run) :
    r.measure units = Line.measure (run.glyphs.map (·.ref.advance)) 0 := by
  obtain ⟨resolved, found, same⟩ := map_prepare prepared
  have sameAdvances := congrArg (List.map fun part => part.1.advance) same
  rw [List.map_map, List.map_map] at sameAdvances
  rw [measure, found]
  exact congrArg (fun advances => Line.measure advances 0) sameAdvances.symm

/-- A text that can be laid out, whatever the letter spacing, can be measured. -/
theorem measure_eq_ok_of_prepare
    (prepared : (r.prepare c units origin options).1 = .ok run) :
    r.measure units =
      .ok (Word.clampInt32 (Line.advanceSum (run.glyphs.map (·.ref.advance)))) := by
  obtain ⟨_, glyphs, metrics, _, _, _, isRun⟩ := layout_of_prepare prepared
  obtain ⟨left, baseline, laid⟩ := Line.laid_of_layout isRun
  have sumFits := (Line.measure_eq_ok_iff.mp laid.isWidth).1
  rw [← laid.map_advance] at sumFits
  rw [measure_eq_of_prepare prepared]
  exact Line.measure_zero_eq_ok_iff.mpr ⟨sumFits, rfl⟩

end Renderer

namespace Studio

variable {s : Studio} {i : Nat} {desk : Desk} {cache : Cache}

theorem measure_eq_some (present : s.at? i = some (desk, cache)) (units : List UInt16) :
    s.measure i units = some (desk.renderer.measure units, s) := by
  rw [measure, present]
  rfl

/-- A renderer stays at its desk when its cache changes. -/
theorem at?_putCache (present : s.at? i = some (desk, cache)) (other : Cache) :
    (s.putCache desk other).at? i = some (desk, other) := by
  simp only [at?, Option.bind_eq_bind, Option.bind_eq_some_iff, Option.pure_def,
    Option.some.injEq, Prod.mk.injEq] at present ⊢
  obtain ⟨_, isDesk, _, isCache, rfl, rfl⟩ := present
  obtain ⟨inside, _⟩ := Array.getElem?_eq_some_iff.mp isCache
  refine ⟨_, isDesk, other, ?_, rfl, rfl⟩
  simp [putCache, inside]

theorem prepare_eq_some {units : List UInt16} {origin : Point} {options : LineOptions}
    {outcome : Checked Run} {after : Studio}
    (prepared : s.prepare i units origin options = some (outcome, after)) :
    ∃ desk cache, s.at? i = some (desk, cache) ∧
      (desk.renderer.prepare cache units origin options).1 = outcome ∧
      after = s.putCache desk (desk.renderer.prepare cache units origin options).2 := by
  obtain ⟨⟨desk, cache⟩, present, prepared⟩ := Option.bind_eq_some_iff.mp prepared
  cases prepared
  exact ⟨desk, cache, present, rfl, rfl⟩

/-- Take a text that some renderer has laid out in any way, through a cache in any state.
Measuring the text returns, before laying it out as well as after, and leaves every cache as
it was.  The width measured is the sum of the advances of the line, at most the last column,
and it is the width of the line if there was no letter spacing.  Otherwise the line is wider
by one letter spacing for each two neighbours, limited to the coordinate space.  If nothing
was limited, the last glyph ends where the line box does. -/
theorem measuring_agrees_with_layout (s : Studio) (i : Nat) (units : List UInt16)
    (origin : Point) (options : LineOptions) {run : Run} {after : Studio}
    (prepared : s.prepare i units origin options = some (.ok run, after)) :
    (∃ width, s.measure i units = some (.ok width, s) ∧
      after.measure i units = some (.ok width, after) ∧
      width.toInt =
        min 2147483647 (run.glyphs.map fun g => (g.ref.advance.toNat : Int)).sum ∧
      (options.letterSpacing = 0 → run.width = width)) ∧
    run.width = Word.clampInt32
      ((run.glyphs.map fun g => (g.ref.advance.toNat : Int)).sum +
        ((run.glyphs.length - 1 : Nat) : Int) * options.letterSpacing.toInt) ∧
    (Line.Unlimited origin options run → ∀ last, run.glyphs.getLast? = some last →
      last.spanEnd.toInt = run.bounds.x.toInt + run.width.toInt) := by
  obtain ⟨desk, cache, present, isRun, rfl⟩ := prepare_eq_some prepared
  obtain ⟨_, glyphs, metrics, _, _, _, laidOut⟩ := Renderer.layout_of_prepare isRun
  obtain ⟨left, baseline, laid⟩ := Line.laid_of_layout laidOut
  have measured := Renderer.measure_eq_ok_of_prepare isRun
  have width_eq := laid.width_eq_extent
  have sum_nonneg := Line.advanceSum_nonneg (run.glyphs.map (·.ref.advance))
  rw [Line.extent, List.length_map] at width_eq
  rw [← Line.advanceSum_eq_sum]
  refine ⟨⟨Word.clampInt32 (Line.advanceSum (run.glyphs.map (·.ref.advance))), ?_, ?_, ?_,
    fun unspaced => ?_⟩, width_eq,
    fun unlimited last isLast => laid.toInt_spanEnd_last unlimited isLast⟩
  · rw [measure_eq_some present, measured]
  · rw [measure_eq_some (at?_putCache present _), measured]
  · rw [Word.toInt_clampInt32]
    omega
  · rw [width_eq, unspaced, Int32.toInt_zero, Int.mul_zero, Int.add_zero]

/-- A studio with one renderer, which draws with strokes. -/
def strokeStudio : Studio := (create [1]).addDesk Renderer.strokeRenderer 1

/-- A letter, half a surrogate pair and a keycap. -/
def strokeUnits : List UInt16 := [0x69, 0xD83C, 0x31, 0x20E3]

/-- Left of the origin, with glyphs that overlap by a pixel. -/
def tightOptions : LineOptions := ⟨⟨Anchor.right ||| Anchor.top⟩, none, -1⟩

/-- Where the strokes go from the first column on. -/
def strokeRun : Run where
  glyphs := [Renderer.strokeGlyph true 0 1 0, Renderer.strokeGlyph false 1 2 1,
    Renderer.strokeGlyph false 2 4 5]
  bounds := ⟨0, 0, 10, 4⟩
  baseline := 3
  width := 10

/-- The advances of two, five and five pixels add up to twelve; the line is two pixels
narrower, and its last glyph ends in column ten. -/
theorem measuring_agrees_with_layout_strokes : ∃ after,
    strokeStudio.prepare 0 strokeUnits ⟨10, 0⟩ tightOptions = some (.ok strokeRun, after) ∧
    strokeStudio.measure 0 strokeUnits = some (.ok 12, strokeStudio) ∧
    Line.Unlimited ⟨10, 0⟩ tightOptions strokeRun ∧
    (Renderer.strokeGlyph false 2 4 5).spanEnd.toInt = 0 + 10 := by
  have clusters : Renderer.strokeRenderer.clusters strokeUnits =
      [.single 'i' 0, .single (Char.ofNat 0xFFFD) 1,
        .pair '1' (Char.ofNat 0x20E3) 2] := by
    decide
  have isRun : (Renderer.strokeRenderer.prepare (Cache.create 1) strokeUnits ⟨10, 0⟩
      tightOptions).1 = .ok strokeRun := by
    simp only [Renderer.prepare, Renderer.resolve, clusters, Renderer.resolveAll,
      Renderer.resolve_strokeRenderer]
    rfl
  have present : strokeStudio.at? 0 =
      some (⟨Renderer.strokeRenderer, 1⟩, Cache.create 1) := rfl
  have prepared : strokeStudio.prepare 0 strokeUnits ⟨10, 0⟩ tightOptions =
      some (.ok strokeRun, strokeStudio.putCache ⟨Renderer.strokeRenderer, 1⟩
        (Renderer.strokeRenderer.prepare (Cache.create 1) strokeUnits ⟨10, 0⟩
          tightOptions).2) := by
    rw [Studio.prepare, present, ← isRun]
    rfl
  have unlimited : Line.Unlimited ⟨10, 0⟩ tightOptions strokeRun :=
    ⟨by decide, ⟨0, by rfl, by decide⟩, by decide⟩
  obtain ⟨⟨width, measured, _, width_eq, _⟩, _, ends⟩ :=
    measuring_agrees_with_layout strokeStudio 0 strokeUnits ⟨10, 0⟩ tightOptions prepared
  obtain rfl : width = 12 := Int32.toInt_inj.mp (width_eq.trans (by decide))
  exact ⟨_, prepared, measured, unlimited, ends unlimited _ rfl⟩

end Studio

end Inkwell
