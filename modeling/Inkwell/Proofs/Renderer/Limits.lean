import Inkwell.Proofs.Chain.Sheets
import Inkwell.Proofs.Layout.Pen
import Inkwell.Proofs.Layout.Stamping
import Inkwell.Proofs.Renderer.Clusters
import Inkwell.Proofs.Studio.Service

/-!
# When a text can be drawn

A renderer over sheets draws a text precisely when words can hold the extents of the
line, what is computed for each glyph, and the places of the pen.  Painting adds no
condition of its own, and nothing is ever read out of range.
-/

namespace Inkwell

namespace Sheets

/-- Words can hold all that is computed for a text of the given clusters. -/
structure Drawable (sheets : List Sheet) (size : UInt16) (clusters : List Cluster)
    (alignment : Alignment) (x : Int32) : Prop where
  scalable : LineScalable sheets size
  height : Word.FitsInt32 (ascent sheets size + descent sheets size)
  glyphs : ∀ cluster ∈ clusters, GlyphFits sheets size cluster
  room : Line.HasRoom alignment x (clusters.map (advance sheets size))

end Sheets

namespace Renderer

variable {r : Renderer} {sheets : List Sheet}

/-! ## Laying out -/

/-- The glyph of one cluster with its mask, straight from the chain. -/
def glyphOne (r : Renderer) (cluster : Cluster) : Checked LooseGlyph :=
  r.resolveOne cluster >>= r.gatherOne

theorem glyphOne_eq_ok_iff {cluster : Cluster} {g : LooseGlyph} :
    r.glyphOne cluster = .ok g ↔
      ∃ ref mask, r.chain.Yields r.size cluster ref mask ∧
        g = ⟨ref, cluster.start, cluster.stop, some mask⟩ := by
  simp only [glyphOne, resolveOne, gatherOne, Checked.bind_eq_ok_iff, pure,
    Except.pure, Except.ok.injEq]
  constructor
  · rintro ⟨_, ⟨ref, resolves, rfl⟩, mask, renders, rfl⟩
    exact ⟨ref, mask, ⟨resolves, renders⟩, rfl⟩
  · rintro ⟨ref, mask, ⟨resolves, renders⟩, rfl⟩
    exact ⟨_, ⟨ref, resolves, rfl⟩, mask, renders, rfl⟩

/-- The direct pipeline can go cluster by cluster. -/
theorem prepareDirect_eq_ok_iff {units : List UInt16} {origin : Point}
    {options : LineOptions} {run : Run} :
    r.prepareDirect units origin options = .ok run ↔
      ∃ glyphs metrics, (r.clusters units).mapM r.glyphOne = .ok glyphs ∧
        r.chain.lineMetrics r.size = .ok metrics ∧
        Line.layout glyphs origin options metrics = .ok run := by
  have together (glyphs : List LooseGlyph) :
      (r.clusters units).mapM r.glyphOne = .ok glyphs ↔
        ∃ resolved, r.resolve units = .ok resolved ∧
          r.gatherDirect resolved = .ok glyphs := by
    simp only [resolve, resolveAll_eq_mapM, gatherDirect_eq_mapM]
    exact Checked.mapM_bind_eq_ok_iff.symm.trans Checked.bind_eq_ok_iff
  simp only [together, prepareDirect, Checked.bind_eq_ok_iff]
  constructor
  · rintro ⟨resolved, isResolved, glyphs, gathered, metrics, isMetrics, isRun⟩
    exact ⟨glyphs, metrics, ⟨resolved, isResolved, gathered⟩, isMetrics, isRun⟩
  · rintro ⟨glyphs, metrics, ⟨resolved, isResolved, gathered⟩, isMetrics, isRun⟩
    exact ⟨resolved, isResolved, glyphs, gathered, metrics, isMetrics, isRun⟩

section

variable (made : r.chain.OfSheets sheets) (sound : ∀ s ∈ sheets, s.Sound)
  (short : r.chain.size ≤ GlyphRef.missingSource.toNat)

include made sound short

/-- On a line whose extents can be scaled, a cluster has a glyph precisely when words
can hold what is computed for it. -/
theorem glyphOne_returns_iff (scalable : Sheets.LineScalable sheets r.size)
    {cluster : Cluster} :
    (∃ g, r.glyphOne cluster = .ok g) ↔ Sheets.GlyphFits sheets r.size cluster := by
  rw [← made.yields_iff sound short scalable]
  simp only [glyphOne_eq_ok_iff]
  constructor
  · rintro ⟨_, ref, mask, yields, rfl⟩
    exact ⟨ref, mask, yields⟩
  · rintro ⟨ref, mask, yields⟩
    exact ⟨_, ref, mask, yields, rfl⟩

/-- The glyphs of clusters move the pen as the sheets say. -/
theorem map_advance_glyphOne {clusters : List Cluster} {glyphs : List LooseGlyph}
    (isGlyphs : clusters.mapM r.glyphOne = .ok glyphs) :
    glyphs.map (·.ref.advance) = clusters.map (Sheets.advance sheets r.size) := by
  rw [Checked.mapM_eq_ok_iff] at isGlyphs
  induction isGlyphs with
  | nil => rfl
  | cons first _ inductionHypothesis =>
      obtain ⟨ref, mask, yields, rfl⟩ := glyphOne_eq_ok_iff.mp first
      rw [List.map_cons, List.map_cons, inductionHypothesis,
        (yields.countable_and_advance made sound short).2]

/-- The direct pipeline lays out a text precisely when words can hold all that is
computed for it. -/
theorem prepareDirect_returns_iff (units : List UInt16) (origin : Point)
    (anchor : Anchor) :
    (∃ run, r.prepareDirect units origin (LineOptions.ofAnchor anchor) = .ok run) ↔
      Sheets.Drawable sheets r.size (r.clusters units) anchor.alignment origin.x := by
  simp only [prepareDirect_eq_ok_iff]
  constructor
  · rintro ⟨run, glyphs, metrics, isGlyphs, isMetrics, isRun⟩
    obtain ⟨scalable, isAscent, isDescent⟩ := made.lineMetrics_eq_ok_iff.mp isMetrics
    obtain ⟨height, room⟩ := Line.layout_returns_iff.mp ⟨run, isRun⟩
    rw [isAscent, isDescent] at height
    rw [map_advance_glyphOne made sound short isGlyphs] at room
    refine ⟨scalable, height, ?_, room⟩
    intro cluster member
    exact (glyphOne_returns_iff made sound short scalable).mp
      (Checked.mapM_returns_iff.mp ⟨glyphs, isGlyphs⟩ cluster member)
  · intro drawable
    obtain ⟨metrics, isMetrics⟩ := made.exists_lineMetrics drawable.scalable
    obtain ⟨_, isAscent, isDescent⟩ := made.lineMetrics_eq_ok_iff.mp isMetrics
    obtain ⟨glyphs, isGlyphs⟩ := Checked.mapM_returns_iff.mpr fun cluster member =>
      (glyphOne_returns_iff made sound short drawable.scalable).mpr
        (drawable.glyphs cluster member)
    have advances := map_advance_glyphOne made sound short isGlyphs
    obtain ⟨run, isRun⟩ := Line.layout_returns_iff.mpr
      ⟨by rw [isAscent, isDescent]; exact drawable.height,
        by rw [advances]; exact drawable.room⟩
    exact ⟨run, glyphs, metrics, isGlyphs, isMetrics, isRun⟩

/-! ## Painting -/

/-- A run that was laid out can be painted. -/
theorem stamp_returns_of_prepareDirect {units : List UInt16} {origin : Point}
    {options : LineOptions} {run : Run} (b : Brush)
    (isRun : r.prepareDirect units origin options = .ok run) :
    (b.stamp run).1 = .ok () := by
  obtain ⟨glyphs, metrics, isGlyphs, _, isRun⟩ := prepareDirect_eq_ok_iff.mp isRun
  rw [Brush.stamp_returns_iff]
  intro g member mask isMask x y inSight
  have loose : g.loose ∈ glyphs := by
    rw [← Line.map_loose_layout isRun]
    exact List.mem_map_of_mem member
  obtain ⟨cluster, _, isGlyph⟩ := Checked.exists_of_mem_mapM isGlyphs loose
  obtain ⟨ref, mask', yields, loose_eq⟩ := glyphOne_eq_ok_iff.mp isGlyph
  have same : some mask = some mask' := isMask.symm.trans (congrArg LooseGlyph.mask loose_eq)
  cases same
  have countable := (yields.countable_and_advance made sound short).1
  exact Mask.readable_of_countable (Nat.le_of_lt countable) inSight.1

theorem drawDirect_eq_ok_iff {units : List UInt16} {origin : Point}
    {anchor : Anchor} {b : Brush} {run : Run} :
    (r.drawDirect units origin anchor b).1 = .ok run ↔
      r.prepareDirect units origin (LineOptions.ofAnchor anchor) = .ok run := by
  constructor
  · exact prepareDirect_of_drawDirect
  · intro isRun
    have stamped := stamp_returns_of_prepareDirect made sound short b isRun
    rcases painting : b.stamp run with ⟨outcome, painted⟩
    rw [painting] at stamped
    cases stamped
    simp [drawDirect, isRun, painting]

end

/-! ## Drawing -/

/-- Take a renderer over sheets that were accepted, with a cache that some history of
a workshop has left it with.  It draws a text, with one glyph for each cluster,
precisely when words can hold all that is computed for the text; where it paints does
not matter.  And no id that a sheet gives out and no byte that is read when a drawing
is redrawn is out of range. -/
theorem draw_returns_iff_drawable {c : Cache} (made : r.chain.OfSheets sheets)
    (accepted : ∀ s ∈ sheets, s.Accepted) (serves : Workshop.Serves c r) :
    (∀ (units : List UInt16) (origin : Point) (anchor : Anchor) (b : Brush),
      (∃ run, (r.draw c units origin anchor b).1 = .ok run ∧
        run.glyphs.map (fun g => (g.start, g.stop)) =
          (r.clusters units).map fun cluster => (cluster.start, cluster.stop)) ↔
      Sheets.Drawable sheets r.size (r.clusters units) anchor.alignment origin.x) ∧
    ∀ s ∈ sheets,
      (∀ cluster id, s.glyphFor? cluster = some id → id.toNat < s.drawings.size) ∧
      ∀ d ∈ s.drawings, 0 < d.width.toNat → 0 < d.height.toNat →
        ∀ width height x y, x < width → y < height →
          Sheet.nearest d.height.toNat height y * d.width.toNat +
            Sheet.nearest d.width.toNat width x < d.coverage.size := by
  have sound : ∀ s ∈ sheets, s.Sound := fun s member => (accepted s member).sound
  obtain ⟨catalog, _, _, recorded, _⟩ := serves.sound
  constructor
  · intro units origin anchor b
    rw [← prepareDirect_returns_iff made sound recorded.size_le units origin anchor]
    have draw_eq : (r.draw c units origin anchor b).1 =
        (r.drawDirect units origin anchor b).1 :=
      congrArg Prod.fst (serves.draw_eq units origin anchor b)
    simp only [draw_eq, drawDirect_eq_ok_iff made sound recorded.size_le]
    constructor
    · rintro ⟨run, isRun, _⟩
      exact ⟨run, isRun⟩
    · rintro ⟨run, isRun⟩
      rw [← serves.prepare_eq] at isRun
      exact ⟨run, serves.prepare_eq _ _ _ ▸ isRun, map_units_prepare isRun⟩
  · intro s member
    exact ⟨fun cluster id found => (sound s member).id_lt _ _ found,
      fun d stored width_pos height_pos width height x y inRow inColumn =>
        (((sound s member).drawings d stored).provides width_pos height_pos width height
          x inRow y inColumn).2⟩

/-- A single painted pixel on the baseline. -/
def dot : Drawing := ⟨1, 1, 0, 1, 3, #[255]⟩

/-- A sheet with a dot for one character. -/
def dotSheet : Sheet :=
  { Sheet.create "dots" 8 ⟨6, 2⟩ with
    drawings := #[dot]
    ids := (∅ : Std.HashMap String UInt16).insert "." 0 }

theorem accepted_dotSheet : dotSheet.Accepted := by
  have inserted : (Sheet.create "dots" 8 ⟨6, 2⟩).insert ['.'] dot = .ok (0, dotSheet) := by
    simp [Sheet.insert, Sheet.refusal?, Sheet.put, Sheet.create, maxSequence, dotSheet]
  have drawn : Drawing.ofRows ["#"] 3 = .ok (.ok dot) := rfl
  exact .insert (.create "dots" 8 ⟨6, 2⟩) (.ofRows drawn) inserted

theorem drawingFor?_dotSheet (cluster : Cluster) :
    Sheets.drawingFor? [dotSheet] cluster =
      if cluster.text = "." then some (dotSheet, dot) else none := by
  have found : dotSheet.glyphFor? cluster = if "." == cluster.text then some 0 else none := by
    simp only [dotSheet, Sheet.glyphFor?, Std.HashMap.getElem?_insert,
      Std.HashMap.getElem?_empty]
  by_cases isDot : cluster.text = "."
  · simp [Sheets.drawingFor?, found, isDot]
    rfl
  · simp [Sheets.drawingFor?, found, isDot, Ne.symm isDot]

/-- A renderer over the sheet, at one and a half times its design size. -/
def dotRenderer : Renderer :=
  ⟨⟨#[⟨.base, 1, dotSheet.toSource⟩]⟩, RuleTable.standard, 12⟩

/-- A dot and a letter that the sheet does not know, at the end of the coordinate
space. -/
theorem draw_returns_iff_drawable_dotAndLetter : ∃ run,
    (dotRenderer.draw (Cache.create 1) [0x2E, 0x41] ⟨2147483647, -2147483648⟩
      Anchor.topLeft (Brush.ofCanvas (Canvas.blank 2 2))).1 = .ok run ∧
    run.glyphs.map (fun g => (g.start, g.stop)) = [(0, 1), (1, 2)] := by
  have serves : Workshop.Serves (Cache.create 1) dotRenderer :=
    ⟨[1], [.beginChain, .push 0 .base dotSheet.toSource, .hire 0 RuleTable.standard 1,
      .setSize 0 12], 0, 1, by decide, rfl⟩
  have clusters : dotRenderer.clusters [0x2E, 0x41] =
      [.single '.' 0, .single 'A' 1] := by
    decide
  have known : Sheets.drawingFor? [dotSheet] (.single '.' 0) = some (dotSheet, dot) :=
    (drawingFor?_dotSheet _).trans (if_pos (by decide))
  have unknown : Sheets.drawingFor? [dotSheet] (.single 'A' 1) = none :=
    (drawingFor?_dotSheet _).trans (if_neg (by decide))
  have drawable : Sheets.Drawable [dotSheet] 12 [.single '.' 0, .single 'A' 1] .left
      2147483647 := by
    constructor
    · rintro _ ⟨⟩
      exact ⟨by decide, by decide⟩
    · decide
    · simp only [List.forall_mem_cons, Sheets.GlyphFits, known, unknown]
      exact ⟨⟨by decide, .inr (.inr (.inr
        ⟨by decide, by decide, by decide, by decide, by decide⟩))⟩,
        by decide, nofun⟩
    · simp only [Sheets.advance, known, unknown, List.map]
      exact ⟨by decide, by decide⟩
  have accepted : ∀ s ∈ [dotSheet], s.Accepted := by
    simpa using accepted_dotSheet
  have made : dotRenderer.chain.OfSheets [dotSheet] := rfl
  have draws := (draw_returns_iff_drawable made accepted serves).1
    [0x2E, 0x41] ⟨2147483647, -2147483648⟩ Anchor.topLeft
    (Brush.ofCanvas (Canvas.blank 2 2))
  rw [clusters] at draws
  exact draws.mpr drawable

/-- An empty sheet with lines that are very high at its design size. -/
def tallSheet : Sheet := Sheet.create "tall" 8 ⟨300000000, 0⟩

/-- A renderer over the sheet, at its design size. -/
def tallRenderer : Renderer :=
  ⟨⟨#[⟨.base, 1, tallSheet.toSource⟩]⟩, RuleTable.standard, 8⟩

/-- At its design size the ascent of the sheet is what it is and fits, but it is
multiplied by the size first.  So not even the empty text is drawn. -/
theorem draw_tallRenderer :
    (tallSheet.scaled tallSheet.metrics.ascent 8 = 300000000 ∧
      tallSheet.Accepted ∧ tallRenderer.chain.OfSheets [tallSheet] ∧
      Workshop.Serves (Cache.create 1) tallRenderer) ∧
    ∀ (origin : Point) (anchor : Anchor) (b : Brush),
      (tallRenderer.draw (Cache.create 1) [] origin anchor b).1 =
        .error (.overflow .mul) :=
  ⟨⟨by decide, .create _ _ _, rfl,
      [1], [.beginChain, .push 0 .base tallSheet.toSource,
        .hire 0 RuleTable.standard 1, .setSize 0 8], 0, 1, by decide, rfl⟩,
    fun _ _ _ => rfl⟩

end Renderer

end Inkwell
