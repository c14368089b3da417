import Inkwell.Proofs.Layout.Placement
import Inkwell.Proofs.Text.Tiling
import Inkwell.Renderer

/-!
# One glyph for each cluster

A renderer finds a glyph for every cluster of a text and keeps the cluster's
units with it, so that the glyphs of a run tile the text as its clusters do.
-/

namespace Inkwell

namespace Renderer

variable {r : Renderer}

/-- The glyphs found are those of the clusters, in order. -/
theorem map_cluster_resolveAll {clusters : List Cluster}
    {resolved : List ResolvedCluster}
    (found : r.resolveAll clusters = .ok resolved) :
    resolved.map ResolvedCluster.cluster = clusters := by
  induction clusters generalizing resolved with
  | nil =>
      cases found
      rfl
  | cons cluster rest inductionHypothesis =>
      obtain ⟨ref, _, found⟩ := Checked.bind_eq_ok_iff.mp found
      obtain ⟨others, isRest, isResolved⟩ := Checked.bind_eq_ok_iff.mp found
      cases isResolved
      rw [List.map_cons, inductionHypothesis isRest]

/-- The first glyph is gathered with its mask, and the others through the cache that this
leaves. -/
theorem gather_cons_eq_ok {first : ResolvedCluster} {rest : List ResolvedCluster} {c : Cache}
    {glyphs : List LooseGlyph} (gathered : (r.gather (first :: rest) c).1 = .ok glyphs) :
    ∃ mask others, (r.fetch c first.ref).1 = .ok mask ∧
      (r.gather rest (r.fetch c first.ref).2).1 = .ok others ∧
      glyphs = ⟨first.ref, first.cluster.start, first.cluster.stop, some mask⟩ ::
        others := by
  rw [gather] at gathered
  rcases fetched : r.fetch c first.ref with ⟨outcome, after⟩
  rw [fetched] at gathered
  cases outcome with
  | error fault => cases gathered
  | ok mask =>
      rcases isRest : r.gather rest after with ⟨others, last⟩
      simp only [isRest] at gathered
      cases others with
      | error fault => cases gathered
      | ok tail =>
          cases gathered
          exact ⟨mask, tail, rfl, rfl, rfl⟩

/-- Each gathered glyph keeps the reference that was found and the units of its cluster. -/
theorem map_gather {resolved : List ResolvedCluster} {c : Cache}
    {glyphs : List LooseGlyph} (gathered : (r.gather resolved c).1 = .ok glyphs) :
    glyphs.map (fun g => (g.ref, g.start, g.stop)) =
      resolved.map fun found => (found.ref, found.cluster.start, found.cluster.stop) := by
  induction resolved generalizing c glyphs with
  | nil =>
      cases gathered
      rfl
  | cons first rest inductionHypothesis =>
      obtain ⟨mask, others, _, isRest, rfl⟩ := gather_cons_eq_ok gathered
      rw [List.map_cons, inductionHypothesis isRest]
      rfl

/-- A run that is returned was laid out from the glyphs found and gathered for the text. -/
theorem layout_of_prepare {c : Cache} {units : List UInt16} {origin : Point}
    {options : LineOptions} {run : Run}
    (prepared : (r.prepare c units origin options).1 = .ok run) :
    ∃ resolved glyphs metrics, r.resolve units = .ok resolved ∧
      (r.gather resolved c).1 = .ok glyphs ∧
      r.chain.lineMetrics r.size = .ok metrics ∧
      Line.layout glyphs origin options metrics = .ok run := by
  unfold prepare at prepared
  cases found : r.resolve units with
  | error fault =>
      rw [found] at prepared
      cases prepared
  | ok resolved =>
      rcases gathered : r.gather resolved c with ⟨outcome, after⟩
      simp only [found, gathered] at prepared
      cases outcome with
      | error fault => cases prepared
      | ok glyphs =>
          obtain ⟨metrics, isMetrics, isRun⟩ := Checked.bind_eq_ok_iff.mp prepared
          exact ⟨resolved, glyphs, metrics, rfl, by rw [gathered], isMetrics, isRun⟩

/-- The glyphs of a run that is returned are those found for the text, in order. -/
theorem map_prepare {c : Cache} {units : List UInt16} {origin : Point}
    {options : LineOptions} {run : Run}
    (prepared : (r.prepare c units origin options).1 = .ok run) :
    ∃ resolved, r.resolve units = .ok resolved ∧
      run.glyphs.map (fun g => (g.ref, g.start, g.stop)) =
        resolved.map fun found => (found.ref, found.cluster.start, found.cluster.stop) := by
  obtain ⟨resolved, glyphs, metrics, found, gathered, _, isRun⟩ := layout_of_prepare prepared
  refine ⟨resolved, found, ?_⟩
  rw [← map_gather gathered, ← Line.map_loose_layout isRun, List.map_map]
  rfl

/-- A run that is returned has one glyph for each cluster, in order, with the
cluster's units. -/
theorem map_units_prepare {c : Cache} {units : List UInt16} {origin : Point}
    {options : LineOptions} {run : Run}
    (prepared : (r.prepare c units origin options).1 = .ok run) :
    run.glyphs.map (fun g => (g.start, g.stop)) =
      (r.clusters units).map fun cluster => (cluster.start, cluster.stop) := by
  obtain ⟨resolved, found, same⟩ := map_prepare prepared
  have sameUnits := congrArg (List.map Prod.snd) same
  rw [List.map_map, List.map_map] at sameUnits
  rw [← map_cluster_resolveAll found, List.map_map]
  exact sameUnits

/-- No text is lost, repeated or split.  The clusters of any units under any rules
have one or two characters each, together they are the decoded text, they lie one
after the other on the units from the first to the last, and the units of each
decode to its characters.  A run that is returned has one glyph for each cluster,
in order, with the cluster's units. -/
theorem clusters_tile_text (table : RuleTable) (units : List UInt16) :
    (∀ cluster ∈ table.segment (Utf16.decode units),
      cluster.scalars.length = 1 ∨ cluster.scalars.length = 2) ∧
    (table.segment (Utf16.decode units)).flatMap Cluster.scalars =
      Utf16.decode units ∧
    Cluster.Tile 0 units.length (table.segment (Utf16.decode units)) ∧
    (∀ cluster ∈ table.segment (Utf16.decode units),
      Utf16.decode (units.extract cluster.start cluster.stop) =
        cluster.scalars) ∧
    ∀ (chain : Chain) (size : UInt16) (c : Cache) (origin : Point)
      (options : LineOptions) (run : Run),
      ((Renderer.mk chain table size).prepare c units origin options).1 = .ok run →
      run.glyphs.map (fun g => (g.start, g.stop)) =
        (table.segment (Utf16.decode units)).map
          fun cluster => (cluster.start, cluster.stop) :=
  ⟨fun cluster _ => cluster.length_scalars,
    table.flatMap_scalars_segment (Utf16.decode units),
    table.tile_segment_decode units,
    fun _ member => table.decode_extract units member,
    fun _ _ _ _ _ _ prepared => map_units_prepare prepared⟩

/-- A keycap among surrogates that have lost their partners. -/
def malformedUnits : List UInt16 := [0xD83C, 0x69, 0x20E3, 0xDC00, 0xD83C]

theorem clusters_tile_text_malformed : ∃ run,
    ((Renderer.mk Chain.empty RuleTable.standard 1).prepare (Cache.create 1)
      malformedUnits ⟨0, 0⟩ (LineOptions.ofAnchor Anchor.topLeft)).1 = .ok run ∧
    run.glyphs.map (fun g => (g.start, g.stop)) =
      [(0, 1), (1, 3), (3, 4), (4, 5)] := by
  have returns : ((Renderer.mk Chain.empty RuleTable.standard 1).prepare
      (Cache.create 1) malformedUnits ⟨0, 0⟩
      (LineOptions.ofAnchor Anchor.topLeft)).1.toOption.isSome = true := by
    decide +kernel
  cases outcome : ((Renderer.mk Chain.empty RuleTable.standard 1).prepare
      (Cache.create 1) malformedUnits ⟨0, 0⟩
      (LineOptions.ofAnchor Anchor.topLeft)).1 with
  | error fault =>
      rw [outcome] at returns
      cases returns
  | ok run =>
      have units := (clusters_tile_text RuleTable.standard malformedUnits).2.2.2.2
        Chain.empty 1 (Cache.create 1) _ _ run outcome
      exact ⟨run, rfl, units.trans (by decide)⟩

end Renderer

end Inkwell
