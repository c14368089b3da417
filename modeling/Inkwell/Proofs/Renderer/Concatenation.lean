import Inkwell.Font.Face
import Inkwell.Proofs.Layout.Spans
import Inkwell.Proofs.Studio.Service
import Inkwell.Proofs.Text.Seam

/-!
# Drawing texts one after the other

Two texts that do not touch at their seam can be drawn together or one after the
other: the glyphs are the same and stand in the same places.  This needs sources that
know a cluster by its characters wherever it is in a text, as sheets and faces do: a
source is given the whole cluster, and one that looks at its place can set the start of
every text apart.
-/

namespace Inkwell

/-! ## Sources and chains -/

namespace Source

/-- Which glyph the source has for a cluster depends on its characters alone, and not
on its place in the text. -/
def ReadsCharacters (s : Source) : Prop :=
  ∀ cluster offset, s.glyphFor? (cluster.shift offset) = s.glyphFor? cluster

end Source

theorem Sheet.readsCharacters (s : Sheet) : s.toSource.ReadsCharacters :=
  fun _ _ => rfl

theorem Face.readsCharacters (f : Face) : f.toSource.ReadsCharacters :=
  fun _ _ => rfl

namespace Chain

/-- All sources of the chain know clusters by their characters. -/
def ReadsCharacters (c : Chain) : Prop :=
  ∀ link ∈ c.links, link.source.ReadsCharacters

variable {c : Chain}

/-- Every chain of sheets and faces knows clusters by their characters. -/
theorem readsCharacters_of_sheets_and_faces
    (sources : ∀ link ∈ c.links, (∃ s : Sheet, link.source = s.toSource) ∨
      ∃ f : Face, link.source = f.toSource) : c.ReadsCharacters := by
  intro link member
  rcases sources link member with ⟨s, isSheet⟩ | ⟨f, isFace⟩
  · rw [isSheet]
    exact s.readsCharacters
  · rw [isFace]
    exact f.readsCharacters

/-- The source that such a chain finds for a cluster, and the glyph, do not depend on
the place of the cluster. -/
theorem ReadsCharacters.find?_shift (reads : c.ReadsCharacters) (cluster : Cluster)
    (offset : Nat) : c.find? (cluster.shift offset) = c.find? cluster := by
  have sameGlyph : ∀ (i : Nat) (bound : i < c.links.size),
      c.links[i].source.glyphFor? (cluster.shift offset) =
        c.links[i].source.glyphFor? cluster :=
    fun i bound => reads _ (Array.getElem_mem bound) cluster offset
  have samePlace : c.placeOf? (cluster.shift offset) = c.placeOf? cluster := by
    apply Option.ext
    intro place
    simp only [placeOf?, Array.findIdx?_eq_some_iff_getElem, sameGlyph]
  rw [find?, find?, samePlace]
  apply Option.bind_congr
  intro place isPlace
  by_cases bound : place < c.links.size
  · rw [Array.getElem?_eq_getElem bound]
    simp only [Option.bind_eq_bind, Option.bind_some, sameGlyph place bound]
  · rw [Array.getElem?_eq_none (Nat.le_of_not_lt bound)]
    rfl

/-- What such a chain resolves a cluster to does not depend on its place. -/
theorem ReadsCharacters.resolve_shift (reads : c.ReadsCharacters)
    (cluster : Cluster) (offset : Nat) (size : UInt16) :
    c.resolve (cluster.shift offset) size = c.resolve cluster size := by
  rw [resolve, resolve, reads.find?_shift]

end Chain

/-! ## Glyphs of texts put together -/

namespace ResolvedCluster

/-- The glyph of a cluster in a text with more units before it. -/
def shift (offset : Nat) (resolved : ResolvedCluster) : ResolvedCluster :=
  { resolved with cluster := resolved.cluster.shift offset }

end ResolvedCluster

namespace Renderer

variable {r : Renderer}

/-- Nothing of two texts reaches over their seam: no surrogate pair, and no pair of
characters that the rules of the renderer join. -/
structure Apart (r : Renderer) (a b : List UInt16) : Prop where
  unpaired : Utf16.Unpaired a b
  parts : r.rules.Parts (Utf16.decode a) (Utf16.decode b)

variable {a b : List UInt16}

theorem Apart.clusters_append (apart : r.Apart a b) :
    r.clusters (a ++ b) =
      r.clusters a ++ (r.clusters b).map (Cluster.shift a.length) :=
  RuleTable.segment_decode_append apart.unpaired apart.parts

/-- The glyphs of texts put together are those of the first and those of the second
in their new place. -/
theorem Apart.resolve_append_eq_ok (apart : r.Apart a b)
    (reads : r.chain.ReadsCharacters) {first second : List ResolvedCluster}
    (isFirst : r.resolve a = .ok first) (isSecond : r.resolve b = .ok second) :
    r.resolve (a ++ b) =
      .ok (first ++ second.map (ResolvedCluster.shift a.length)) := by
  rw [resolve, resolveAll_eq_mapM] at isFirst isSecond ⊢
  rw [apart.clusters_append, Checked.mapM_append_eq_ok_iff]
  refine ⟨_, _, isFirst, ?_, rfl⟩
  refine Checked.mapM_map_eq_ok (fun cluster resolved found => ?_) isSecond
  obtain ⟨ref, isRef, isResolved⟩ := Checked.bind_eq_ok_iff.mp found
  cases isResolved
  refine Checked.bind_eq_ok_iff.mpr ⟨ref, ?_, rfl⟩
  rw [reads.resolve_shift]
  exact isRef

/-- Their masks are the masks of the first and those of the second. -/
theorem gatherDirect_append_eq_ok {first second : List ResolvedCluster}
    {left right : List LooseGlyph} (isLeft : r.gatherDirect first = .ok left)
    (isRight : r.gatherDirect second = .ok right) (offset : Nat) :
    r.gatherDirect (first ++ second.map (ResolvedCluster.shift offset)) =
      .ok (left ++ right.map (LooseGlyph.shift offset)) := by
  rw [gatherDirect_eq_mapM] at isLeft isRight ⊢
  rw [Checked.mapM_append_eq_ok_iff]
  refine ⟨_, _, isLeft, ?_, rfl⟩
  refine Checked.mapM_map_eq_ok (fun resolved glyph gathered => ?_) isRight
  obtain ⟨mask, isMask, isGlyph⟩ := Checked.bind_eq_ok_iff.mp gathered
  cases isGlyph
  refine Checked.bind_eq_ok_iff.mpr ⟨mask, isMask, ?_⟩
  simp only [ResolvedCluster.shift, LooseGlyph.shift, Cluster.stop_shift]
  rfl

/-- A text with units has glyphs. -/
theorem gatherDirect_ne_nil {units : List UInt16} (nonempty : units ≠ [])
    {resolved : List ResolvedCluster} {glyphs : List LooseGlyph}
    (isResolved : r.resolve units = .ok resolved)
    (gathered : r.gatherDirect resolved = .ok glyphs) : glyphs ≠ [] := by
  rw [resolve, resolveAll_eq_mapM] at isResolved
  rw [gatherDirect_eq_mapM] at gathered
  rintro rfl
  obtain rfl := List.forall₂_nil_right_iff.mp (Checked.mapM_eq_ok_iff.mp gathered)
  have noClusters := List.forall₂_nil_right_iff.mp
    (Checked.mapM_eq_ok_iff.mp isResolved)
  have tile := r.rules.tile_segment_decode units
  have noClusters : r.rules.segment (Utf16.decode units) = [] := noClusters
  rw [noClusters] at tile
  exact nonempty (List.length_eq_zero_iff.mp tile.symm)

/-! ## Runs -/

/-- The renderer lays out the text as the run, through its cache as some history of
a workshop has left it. -/
def LaysOut (r : Renderer) (units : List UInt16) (origin : Point)
    (options : LineOptions) (run : Run) : Prop :=
  ∃ c, Workshop.Serves c r ∧ (r.prepare c units origin options).1 = .ok run

/-- What a line at the left of its origin consists of. -/
theorem LaysOut.exists_place {units : List UInt16} {origin : Point}
    {options : LineOptions} {run : Run} (laid : r.LaysOut units origin options run)
    (atLeft : options.anchor.alignment = .left) (unboxed : options.box = none) :
    ∃ resolved glyphs metrics baseline, r.resolve units = .ok resolved ∧
      r.gatherDirect resolved = .ok glyphs ∧
      r.chain.lineMetrics r.size = .ok metrics ∧
      Line.lineBaseline origin options metrics = .ok baseline ∧
      Line.place options.letterSpacing baseline origin.x.toInt glyphs =
        .ok run.glyphs := by
  obtain ⟨c, serves, prepared⟩ := laid
  rw [serves.prepare_eq] at prepared
  obtain ⟨resolved, isResolved, prepared⟩ := Checked.bind_eq_ok_iff.mp prepared
  obtain ⟨glyphs, gathered, prepared⟩ := Checked.bind_eq_ok_iff.mp prepared
  obtain ⟨metrics, isMetrics, isRun⟩ := Checked.bind_eq_ok_iff.mp prepared
  obtain ⟨baseline, isBaseline, placed⟩ :=
    Line.place_of_layout_left isRun atLeft unboxed
  exact ⟨resolved, glyphs, metrics, baseline, isResolved, gathered, isMetrics,
    isBaseline, placed⟩

/-- The width of a line is the extent of its glyphs, limited to the coordinate space. -/
theorem LaysOut.width_eq_extent {units : List UInt16} {origin : Point}
    {options : LineOptions} {run : Run} (laid : r.LaysOut units origin options run) :
    run.width = Word.clampInt32
      (Line.extent (run.glyphs.map (·.ref.advance)) options.letterSpacing) := by
  obtain ⟨c, serves, prepared⟩ := laid
  rw [serves.prepare_eq] at prepared
  obtain ⟨resolved, _, prepared⟩ := Checked.bind_eq_ok_iff.mp prepared
  obtain ⟨glyphs, _, prepared⟩ := Checked.bind_eq_ok_iff.mp prepared
  obtain ⟨metrics, _, isRun⟩ := Checked.bind_eq_ok_iff.mp prepared
  obtain ⟨left, baseline, laid⟩ := Line.laid_of_layout isRun
  exact laid.width_eq_extent

/-- Of two lines that are laid out after each other or together, both at the left of
their origins, the glyphs are the same: the second line begins where the pen is after
the first. -/
theorem Apart.glyphs_append (apart : r.Apart a b) (reads : r.chain.ReadsCharacters)
    {options : LineOptions} (atLeft : options.anchor.alignment = .left)
    (unboxed : options.box = none) (nonempty : a ≠ []) {x y start : Int32}
    {first second both : Run} (isFirst : r.LaysOut a ⟨x, y⟩ options first)
    (fits : Word.FitsInt32
      (Line.extent (first.glyphs.map (·.ref.advance)) options.letterSpacing))
    (exact_start : start.toInt =
      x.toInt + first.width.toInt + options.letterSpacing.toInt)
    (isSecond : r.LaysOut b ⟨start, y⟩ options second)
    (isBoth : r.LaysOut (a ++ b) ⟨x, y⟩ options both) :
    both.glyphs = first.glyphs ++ second.glyphs.map (PlacedGlyph.shift a.length) := by
  obtain ⟨resolvedA, glyphsA, metrics, baseline, resolveA, gatherA, isMetrics,
    isBaseline, placeA⟩ := isFirst.exists_place atLeft unboxed
  obtain ⟨resolvedB, glyphsB, metricsB, baselineB, resolveB, gatherB, isMetricsB,
    isBaselineB, placeB⟩ := isSecond.exists_place atLeft unboxed
  obtain ⟨resolvedAB, glyphsAB, metricsAB, baselineAB, resolveAB, gatherAB,
    isMetricsAB, isBaselineAB, placeAB⟩ := isBoth.exists_place atLeft unboxed
  -- The metrics and the baseline are the same for all three lines.
  cases isMetrics.symm.trans isMetricsB
  cases isMetrics.symm.trans isMetricsAB
  cases isBaseline.symm.trans isBaselineB
  cases isBaseline.symm.trans isBaselineAB
  cases (apart.resolve_append_eq_ok reads resolveA resolveB).symm.trans resolveAB
  cases (gatherDirect_append_eq_ok gatherA gatherB a.length).symm.trans gatherAB
  obtain ⟨left, right, isLeft, isRight, isPlaced⟩ := Line.place_append_eq_ok placeAB
  cases placeA.symm.trans isLeft
  have sameAdvances : glyphsA.map (·.ref.advance) =
      first.glyphs.map (·.ref.advance) := by
    rw [← Line.map_loose_place placeA, List.map_map]
    rfl
  have exact_width : first.width.toInt =
      Line.extent (first.glyphs.map (·.ref.advance)) options.letterSpacing := by
    rw [isFirst.width_eq_extent, Word.toInt_clampInt32_of_fits fits]
  have penAtStart : x.toInt + Line.penMove options.letterSpacing glyphsA =
      start.toInt := by
    rw [Line.penMove_eq_extent _ (gatherDirect_ne_nil nonempty resolveA gatherA),
      sameAdvances, ← exact_width, exact_start, Int.add_assoc]
  rw [penAtStart] at isRight
  cases (Line.place_shift a.length placeB).symm.trans isRight
  exact isPlaced

/-- Widths that are returned for two texts add up to that of both together, if the sum
is a coordinate. -/
theorem Apart.measure_append (apart : r.Apart a b) (reads : r.chain.ReadsCharacters)
    {first second : Int32} (isFirst : r.measure a = .ok first)
    (isSecond : r.measure b = .ok second)
    (fits : Word.FitsInt32 (first.toInt + second.toInt)) :
    ∃ both, r.measure (a ++ b) = .ok both ∧
      both.toInt = first.toInt + second.toInt := by
  obtain ⟨resolvedA, resolveA, measureA⟩ := Checked.bind_eq_ok_iff.mp isFirst
  obtain ⟨resolvedB, resolveB, measureB⟩ := Checked.bind_eq_ok_iff.mp isSecond
  obtain ⟨fitsA, rfl⟩ := Line.measure_zero_eq_ok_iff.mp measureA
  obtain ⟨fitsB, rfl⟩ := Line.measure_zero_eq_ok_iff.mp measureB
  have nonnegA := Line.advanceSum_nonneg (resolvedA.map (·.ref.advance))
  have nonnegB := Line.advanceSum_nonneg (resolvedB.map (·.ref.advance))
  have sum_eq : Line.advanceSum
      ((resolvedA ++ resolvedB.map (ResolvedCluster.shift a.length)).map
        (·.ref.advance)) =
      Line.advanceSum (resolvedA.map (·.ref.advance)) +
        Line.advanceSum (resolvedB.map (·.ref.advance)) := by
    rw [List.map_append, Line.advanceSum_append, List.map_map]
    rfl
  simp only [Word.toInt_clampInt32, Word.FitsInt32, Word.FitsInt64] at fits fitsA fitsB
  refine ⟨_, Checked.bind_eq_ok_iff.mpr ⟨_,
    apart.resolve_append_eq_ok reads resolveA resolveB,
    Line.measure_zero_eq_ok_iff.mpr ⟨?_, rfl⟩⟩, ?_⟩
  · rw [sum_eq, Word.FitsInt64]
    omega
  · rw [sum_eq, Word.toInt_clampInt32, Word.toInt_clampInt32, Word.toInt_clampInt32]
    omega

/-- Take a renderer whose sources know clusters by their characters, as those of every
chain of sheets and faces do, and two texts of which nothing reaches over their seam.  Lay
out the first, which is not empty, at the left of an origin; the second from where the first
ends and one letter spacing more; and both together from the first origin.  As long as
neither the width of the first nor the place where the second begins is limited to the
coordinate space, the glyphs of both together are those of the first and then those of the
second, with their units moved: the same references, places, baselines and masks.  And
without letter spacing, the widths of both add up. -/
theorem texts_concatenate (r : Renderer) :
    ((∀ link ∈ r.chain.links, (∃ s : Sheet, link.source = s.toSource) ∨
        ∃ f : Face, link.source = f.toSource) → r.chain.ReadsCharacters) ∧
    (r.chain.ReadsCharacters → ∀ a b : List UInt16, r.Apart a b →
      (∀ (options : LineOptions) (x y start : Int32) (first second both : Run),
        options.anchor.alignment = .left → options.box = none → a ≠ [] →
        r.LaysOut a ⟨x, y⟩ options first →
        Word.FitsInt32
          (Line.extent (first.glyphs.map (·.ref.advance)) options.letterSpacing) →
        start.toInt = x.toInt + first.width.toInt + options.letterSpacing.toInt →
        r.LaysOut b ⟨start, y⟩ options second →
        r.LaysOut (a ++ b) ⟨x, y⟩ options both →
        both.glyphs =
          first.glyphs ++ second.glyphs.map (PlacedGlyph.shift a.length)) ∧
      ∀ first second : Int32, r.measure a = .ok first → r.measure b = .ok second →
        Word.FitsInt32 (first.toInt + second.toInt) →
        ∃ both, r.measure (a ++ b) = .ok both ∧
          both.toInt = first.toInt + second.toInt) := by
  refine ⟨Chain.readsCharacters_of_sheets_and_faces, fun reads a b apart => ⟨?_, ?_⟩⟩
  · intro options x y start first second both atLeft unboxed nonempty isFirst fits
      exact_start isSecond isBoth
    exact apart.glyphs_append reads atLeft unboxed nonempty isFirst fits exact_start
      isSecond isBoth
  · intro first second isFirst isSecond fits
    exact apart.measure_append reads isFirst isSecond fits

/-! ## Renderers with one source -/

/-- A renderer with a single source. -/
def ofSource (source : Source) : Renderer :=
  ⟨⟨#[⟨.base, 1, source⟩]⟩, RuleTable.standard, Renderer.defaultSize⟩

theorem serves_ofSource (source : Source) :
    Workshop.Serves (Cache.create 1) (ofSource source) :=
  ⟨[1], [.beginChain, .push 0 .base source, .hire 0 RuleTable.standard 1], 0, 1,
    (by decide : 1 < 4294967295), rfl⟩

/-- A cluster that the single source has a glyph for is resolved to it. -/
theorem resolve_ofSource {source : Source} {cluster : Cluster} {id : UInt16}
    (isGlyph : source.glyphFor? cluster = some id) (size : UInt16) :
    (ofSource source).chain.resolve cluster size = (do
      let advance ← source.advance id size
      pure ⟨0, 1, id, advance⟩) := by
  have place : (ofSource source).chain.placeOf? cluster = some 0 := by
    simp [Chain.placeOf?, ofSource, isGlyph]
  rw [Chain.resolve, Chain.find?, place]
  simp [ofSource, isGlyph]

/-- A source with a narrow glyph for one letter and a wide one for all else. -/
def strokeSource : Source where
  name := "strokes"
  glyphFor? cluster := some (if cluster.first = 'i' then 1 else 0)
  advance id _ := .ok (if id = 1 then 2 else 5)
  lineMetrics _ := .ok ⟨3, 1⟩
  rasterize id _ := .ok (.ok ⟨1, 1, id.toInt16, 1, #[255]⟩)

/-- A renderer that draws with strokes. -/
def strokeRenderer : Renderer := ofSource strokeSource

theorem serves_strokeRenderer : Workshop.Serves (Cache.create 1) strokeRenderer :=
  serves_ofSource strokeSource

theorem resolve_strokeRenderer (cluster : Cluster) (size : UInt16) :
    strokeRenderer.chain.resolve cluster size =
      if cluster.first = 'i' then .ok ⟨0, 1, 1, 2⟩ else .ok ⟨0, 1, 0, 5⟩ := by
  rw [strokeRenderer, resolve_ofSource rfl]
  by_cases narrow : cluster.first = 'i'
  · rw [if_pos narrow, if_pos narrow]
    rfl
  · rw [if_neg narrow, if_neg narrow]
    rfl

/-- The glyph of a letter at a place, and that of anything else. -/
def strokeGlyph (narrow : Bool) (start stop : Nat) (x : Int32) : PlacedGlyph :=
  if narrow then ⟨⟨0, 1, 1, 2⟩, start, stop, x, 3, some ⟨1, 1, 1, 1, #[255]⟩⟩
  else ⟨⟨0, 1, 0, 5⟩, start, stop, x, 3, some ⟨1, 1, 0, 1, #[255]⟩⟩

/-- A letter and half a surrogate pair, and then a keycap, laid out near the end of
the coordinate space with glyphs closer than usual. -/
theorem texts_concatenate_strokes : ∃ first second both : Run,
    strokeRenderer.Apart [0x69, 0xD83C] [0x31, 0x20E3] ∧
    strokeRenderer.LaysOut [0x69, 0xD83C] ⟨2147483640, 0⟩
      ⟨Anchor.topLeft, none, -1⟩ first ∧
    strokeRenderer.LaysOut [0x31, 0x20E3] ⟨2147483645, 0⟩
      ⟨Anchor.topLeft, none, -1⟩ second ∧
    strokeRenderer.LaysOut [0x69, 0xD83C, 0x31, 0x20E3] ⟨2147483640, 0⟩
      ⟨Anchor.topLeft, none, -1⟩ both ∧
    both.glyphs = first.glyphs ++ second.glyphs.map (PlacedGlyph.shift 2) := by
  have reads : strokeRenderer.chain.ReadsCharacters := by
    intro link member
    obtain rfl : link = ⟨.base, 1, strokeSource⟩ := by
      simpa [strokeRenderer, ofSource] using member
    exact fun _ _ => rfl
  have apart : strokeRenderer.Apart [0x69, 0xD83C] [0x31, 0x20E3] := by
    constructor
    · rintro _ ⟨⟩ _ ⟨⟩
      decide
    · rintro _ ⟨⟩ _ ⟨⟩
      decide
  have firstClusters : strokeRenderer.clusters [0x69, 0xD83C] =
      [.single 'i' 0, .single (Char.ofNat 0xFFFD) 1] := by
    decide
  have secondClusters : strokeRenderer.clusters [0x31, 0x20E3] =
      [.pair '1' (Char.ofNat 0x20E3) 0] := by
    decide
  have bothClusters : strokeRenderer.clusters [0x69, 0xD83C, 0x31, 0x20E3] =
      [.single 'i' 0, .single (Char.ofNat 0xFFFD) 1,
        .pair '1' (Char.ofNat 0x20E3) 2] := by
    decide
  have isFirst : strokeRenderer.LaysOut [0x69, 0xD83C] ⟨2147483640, 0⟩
      ⟨Anchor.topLeft, none, -1⟩
      ⟨[strokeGlyph true 0 1 2147483640, strokeGlyph false 1 2 2147483641],
        ⟨2147483640, 0, 6, 4⟩, 3, 6⟩ := by
    refine ⟨_, serves_strokeRenderer, ?_⟩
    simp only [prepare, resolve, firstClusters, resolveAll, resolve_strokeRenderer]
    rfl
  have isSecond : strokeRenderer.LaysOut [0x31, 0x20E3] ⟨2147483645, 0⟩
      ⟨Anchor.topLeft, none, -1⟩
      ⟨[strokeGlyph false 0 2 2147483645], ⟨2147483645, 0, 5, 4⟩, 3, 5⟩ := by
    refine ⟨_, serves_strokeRenderer, ?_⟩
    simp only [prepare, resolve, secondClusters, resolveAll, resolve_strokeRenderer]
    rfl
  have isBoth : strokeRenderer.LaysOut [0x69, 0xD83C, 0x31, 0x20E3] ⟨2147483640, 0⟩
      ⟨Anchor.topLeft, none, -1⟩
      ⟨[strokeGlyph true 0 1 2147483640, strokeGlyph false 1 2 2147483641,
          strokeGlyph false 2 4 2147483645], ⟨2147483640, 0, 10, 4⟩, 3, 10⟩ := by
    refine ⟨_, serves_strokeRenderer, ?_⟩
    simp only [prepare, resolve, bothClusters, resolveAll, resolve_strokeRenderer]
    rfl
  exact ⟨_, _, _, apart, isFirst, isSecond, isBoth,
    ((texts_concatenate strokeRenderer).2 reads _ _ apart).1 _ _ _ _ _ _ _ (by decide) rfl
      (by decide) isFirst (by decide) (by decide) isSecond isBoth⟩

/-! ## A source that looks at places -/

/-- A source with a wide glyph for the first cluster of every text and a narrow one for all
others. -/
def initialSource : Source where
  name := "initials"
  glyphFor? cluster := some (if cluster.start = 0 then 0 else 1)
  advance id _ := .ok (if id = 1 then 2 else 5)
  lineMetrics _ := .ok ⟨3, 1⟩
  rasterize id _ := .ok (.ok ⟨1, 1, id.toInt16, 1, #[255]⟩)

/-- A renderer that sets the start of every text apart. -/
def initialRenderer : Renderer := ofSource initialSource

theorem resolve_initialRenderer (cluster : Cluster) (size : UInt16) :
    initialRenderer.chain.resolve cluster size =
      if cluster.start = 0 then .ok ⟨0, 1, 0, 5⟩ else .ok ⟨0, 1, 1, 2⟩ := by
  rw [initialRenderer, resolve_ofSource rfl]
  by_cases first : cluster.start = 0
  · rw [if_pos first, if_pos first]
    rfl
  · rw [if_neg first, if_neg first]
    rfl

/-- That the sources know clusters by their characters cannot be left out.  Of two letters,
a source that has initials gives each a wide glyph, and the second a narrow one when both
are drawn together. -/
theorem texts_differ_with_initials : ∃ first second both : Run,
    initialRenderer.Apart [0x61] [0x62] ∧
    initialRenderer.LaysOut [0x61] ⟨0, 0⟩ ⟨Anchor.topLeft, none, 0⟩ first ∧
    first.width = 5 ∧
    Word.FitsInt32 (Line.extent (first.glyphs.map (·.ref.advance)) 0) ∧
    initialRenderer.LaysOut [0x62] ⟨5, 0⟩ ⟨Anchor.topLeft, none, 0⟩ second ∧
    initialRenderer.LaysOut [0x61, 0x62] ⟨0, 0⟩ ⟨Anchor.topLeft, none, 0⟩ both ∧
    both.glyphs ≠ first.glyphs ++ second.glyphs.map (PlacedGlyph.shift 1) ∧
    initialRenderer.measure [0x61] = .ok 5 ∧ initialRenderer.measure [0x62] = .ok 5 ∧
    initialRenderer.measure [0x61, 0x62] = .ok 7 := by
  have apart : initialRenderer.Apart [0x61] [0x62] := by
    constructor
    · rintro _ ⟨⟩ _ ⟨⟩
      decide
    · rintro _ ⟨⟩ _ ⟨⟩
      decide
  have firstClusters : initialRenderer.clusters [0x61] = [.single 'a' 0] := by
    decide
  have secondClusters : initialRenderer.clusters [0x62] = [.single 'b' 0] := by
    decide
  have bothClusters : initialRenderer.clusters [0x61, 0x62] =
      [.single 'a' 0, .single 'b' 1] := by
    decide
  have isFirst : initialRenderer.LaysOut [0x61] ⟨0, 0⟩ ⟨Anchor.topLeft, none, 0⟩
      ⟨[⟨⟨0, 1, 0, 5⟩, 0, 1, 0, 3, some ⟨1, 1, 0, 1, #[255]⟩⟩], ⟨0, 0, 5, 4⟩, 3, 5⟩ := by
    refine ⟨_, serves_ofSource initialSource, ?_⟩
    simp only [prepare, resolve, firstClusters, resolveAll, resolve_initialRenderer]
    rfl
  have isSecond : initialRenderer.LaysOut [0x62] ⟨5, 0⟩ ⟨Anchor.topLeft, none, 0⟩
      ⟨[⟨⟨0, 1, 0, 5⟩, 0, 1, 5, 3, some ⟨1, 1, 0, 1, #[255]⟩⟩], ⟨5, 0, 5, 4⟩, 3, 5⟩ := by
    refine ⟨_, serves_ofSource initialSource, ?_⟩
    simp only [prepare, resolve, secondClusters, resolveAll, resolve_initialRenderer]
    rfl
  have isBoth : initialRenderer.LaysOut [0x61, 0x62] ⟨0, 0⟩ ⟨Anchor.topLeft, none, 0⟩
      ⟨[⟨⟨0, 1, 0, 5⟩, 0, 1, 0, 3, some ⟨1, 1, 0, 1, #[255]⟩⟩,
        ⟨⟨0, 1, 1, 2⟩, 1, 2, 5, 3, some ⟨1, 1, 1, 1, #[255]⟩⟩], ⟨0, 0, 7, 4⟩, 3, 7⟩ := by
    refine ⟨_, serves_ofSource initialSource, ?_⟩
    simp only [prepare, resolve, bothClusters, resolveAll, resolve_initialRenderer]
    rfl
  refine ⟨_, _, _, apart, isFirst, rfl, by decide, isSecond, isBoth, by decide, ?_, ?_, ?_⟩
  · simp only [measure, resolve, firstClusters, resolveAll, resolve_initialRenderer]
    rfl
  · simp only [measure, resolve, secondClusters, resolveAll, resolve_initialRenderer]
    rfl
  · simp only [measure, resolve, bothClusters, resolveAll, resolve_initialRenderer]
    rfl

end Renderer

end Inkwell
