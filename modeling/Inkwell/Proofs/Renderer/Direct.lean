import Inkwell.Proofs.Cache.Soundness
import Inkwell.Proofs.Chain.Provenance
import Inkwell.Proofs.Layout.Placement
import Inkwell.Renderer
import Mathlib.Data.List.Forall2

/-!
# Rendering without a cache

The direct pipeline of a renderer asks its chain for every mask.  Through a cache
whose masks are those that chains show, the renderer gets the same masks, and so
the same runs and the same pixels.
-/

namespace Inkwell

namespace Checked

variable {α β γ : Type} {compute : α → Checked β}

/-- A computation for each member of a list returns precisely when each of them
does. -/
theorem mapM_eq_ok_iff {as : List α} {bs : List β} :
    as.mapM compute = .ok bs ↔ List.Forall₂ (fun a b => compute a = .ok b) as bs := by
  induction as generalizing bs with
  | nil => simp [pure, Except.pure, eq_comm]
  | cons a rest inductionHypothesis =>
      rw [List.mapM_cons, List.forall₂_cons_left_iff, bind_eq_ok_iff]
      simp only [bind_eq_ok_iff, inductionHypothesis, pure, Except.pure,
        Except.ok.injEq]
      grind

theorem mapM_append_eq_ok_iff {before after : List α} {bs : List β} :
    (before ++ after).mapM compute = .ok bs ↔
      ∃ left right, before.mapM compute = .ok left ∧ after.mapM compute = .ok right ∧
        bs = left ++ right := by
  simp only [List.mapM_append, bind_eq_ok_iff, pure, Except.pure, Except.ok.injEq]
  grind

/-- Computing for members that were changed beforehand changes the results as it
does for each single one. -/
theorem mapM_map_eq_ok {as : List α} {bs : List β} {changeBefore : α → α}
    {changeAfter : β → β}
    (commutes : ∀ a b, compute a = .ok b →
      compute (changeBefore a) = .ok (changeAfter b))
    (computed : as.mapM compute = .ok bs) :
    (as.map changeBefore).mapM compute = .ok (bs.map changeAfter) := by
  rw [mapM_eq_ok_iff, List.forall₂_map_left_iff, List.forall₂_map_right_iff]
  exact (mapM_eq_ok_iff.mp computed).imp commutes

/-- The results are there precisely when each single one is. -/
theorem mapM_returns_iff {as : List α} :
    (∃ bs, as.mapM compute = .ok bs) ↔ ∀ a ∈ as, ∃ b, compute a = .ok b := by
  induction as with
  | nil => simp [pure, Except.pure]
  | cons a rest inductionHypothesis =>
      rw [List.forall_mem_cons, ← inductionHypothesis]
      simp only [mapM_eq_ok_iff, List.forall₂_cons_left_iff]
      grind

/-- Each result was computed for some member. -/
theorem exists_of_mem_mapM {as : List α} {bs : List β}
    (computed : as.mapM compute = .ok bs) {b : β} (member : b ∈ bs) :
    ∃ a ∈ as, compute a = .ok b := by
  rw [mapM_eq_ok_iff] at computed
  induction computed with
  | nil => cases member
  | cons first _ inductionHypothesis =>
      rcases List.mem_cons.mp member with rfl | member
      · exact ⟨_, List.mem_cons_self, first⟩
      · obtain ⟨a, inRest, isResult⟩ := inductionHypothesis member
        exact ⟨a, List.mem_cons_of_mem _ inRest, isResult⟩

/-- Two computations for each member can be done one after the other for each. -/
theorem mapM_bind_eq_ok_iff {next : β → Checked γ} {as : List α} {cs : List γ} :
    (as.mapM compute >>= fun bs => bs.mapM next) = .ok cs ↔
      as.mapM (fun a => compute a >>= next) = .ok cs := by
  induction as generalizing cs with
  | nil => simp [pure, Except.pure, bind, Except.bind]
  | cons a rest inductionHypothesis =>
      simp only [mapM_eq_ok_iff, bind_eq_ok_iff, List.forall₂_cons_left_iff] at *
      constructor
      · rintro ⟨_, ⟨b, bs, isFirst, isRest, rfl⟩, both⟩
        obtain ⟨c, others, isSecond, isOthers, rfl⟩ :=
          List.forall₂_cons_left_iff.mp both
        exact ⟨c, others, ⟨b, isFirst, isSecond⟩,
          inductionHypothesis.mp ⟨bs, isRest, isOthers⟩, rfl⟩
      · rintro ⟨c, others, ⟨b, isFirst, isSecond⟩, isRest, rfl⟩
        obtain ⟨bs, isBs, isOthers⟩ := inductionHypothesis.mpr isRest
        exact ⟨_, ⟨b, bs, isFirst, isBs, rfl⟩, .cons isSecond isOthers⟩

end Checked

namespace Renderer

/-- The masks of glyphs in order, straight from the chain. -/
def gatherDirect (r : Renderer) :
    List ResolvedCluster → Checked (List LooseGlyph)
  | [] => pure []
  | resolved :: rest => do
      let mask ← r.chain.rasterize resolved.ref r.size
      let others ← r.gatherDirect rest
      pure (⟨resolved.ref, resolved.cluster.start, resolved.cluster.stop,
        some mask⟩ :: others)

/-- Lay out a text without a cache. -/
def prepareDirect (r : Renderer) (units : List UInt16) (origin : Point)
    (options : LineOptions) : Checked Run := do
  let resolved ← r.resolve units
  let glyphs ← r.gatherDirect resolved
  let metrics ← r.chain.lineMetrics r.size
  Line.layout glyphs origin options metrics

/-- Draw a text without a cache. -/
def drawDirect (r : Renderer) (units : List UInt16) (origin : Point)
    (anchor : Anchor) (b : Brush) : Checked Run × Brush :=
  match r.prepareDirect units origin (LineOptions.ofAnchor anchor) with
  | .error fault => (.error fault, b)
  | .ok run =>
      match b.stamp run with
      | (.error fault, b) => (.error fault, b)
      | (.ok (), b) => (.ok run, b)

/-- Every glyph of the run carries the mask that the renderer's chain renders
for it. -/
def Rendered (r : Renderer) (run : Run) : Prop :=
  ∀ g ∈ run.glyphs, ∃ mask, g.mask = some mask ∧
    r.chain.rasterize g.ref r.size = .ok mask

variable {catalog : Catalog} {keys : KeySupply} {r : Renderer} {c : Cache}

/-! ## Glyph by glyph -/

/-- Find a glyph for one cluster. -/
def resolveOne (r : Renderer) (cluster : Cluster) : Checked ResolvedCluster := do
  let ref ← r.chain.resolve cluster r.size
  pure ⟨ref, cluster⟩

theorem resolveAll_eq_mapM (clusters : List Cluster) :
    r.resolveAll clusters = clusters.mapM r.resolveOne := by
  induction clusters with
  | nil => rfl
  | cons cluster rest inductionHypothesis =>
      simp [resolveAll, resolveOne, inductionHypothesis]

/-- The mask of one glyph, straight from the chain. -/
def gatherOne (r : Renderer) (resolved : ResolvedCluster) : Checked LooseGlyph := do
  let mask ← r.chain.rasterize resolved.ref r.size
  pure ⟨resolved.ref, resolved.cluster.start, resolved.cluster.stop, some mask⟩

theorem gatherDirect_eq_mapM (resolved : List ResolvedCluster) :
    r.gatherDirect resolved = resolved.mapM r.gatherOne := by
  induction resolved with
  | nil => rfl
  | cons first rest inductionHypothesis =>
      simp [gatherDirect, gatherOne, inductionHypothesis]

/-! ## The direct pipeline -/

/-- The direct pipeline gathers what the chain renders. -/
theorem rasterize_of_gatherDirect {resolved : List ResolvedCluster}
    {glyphs : List LooseGlyph} (gathered : r.gatherDirect resolved = .ok glyphs) :
    ∀ g ∈ glyphs, ∃ mask, g.mask = some mask ∧
      r.chain.rasterize g.ref r.size = .ok mask := by
  induction resolved generalizing glyphs with
  | nil =>
      cases gathered
      simp
  | cons glyph rest inductionHypothesis =>
      obtain ⟨mask, isMask, gathered⟩ := Checked.bind_eq_ok_iff.mp gathered
      obtain ⟨others, isRest, gathered⟩ := Checked.bind_eq_ok_iff.mp gathered
      cases gathered
      intro g member
      rcases List.mem_cons.mp member with rfl | member
      · exact ⟨mask, rfl, isMask⟩
      · exact inductionHypothesis isRest g member

/-- Every run of the direct pipeline is rendered by the chain. -/
theorem rendered_of_prepareDirect {units : List UInt16} {origin : Point}
    {options : LineOptions} {run : Run}
    (isRun : r.prepareDirect units origin options = .ok run) :
    r.Rendered run := by
  obtain ⟨resolved, _, isRun⟩ := Checked.bind_eq_ok_iff.mp isRun
  obtain ⟨glyphs, gathered, isRun⟩ := Checked.bind_eq_ok_iff.mp isRun
  obtain ⟨metrics, _, isRun⟩ := Checked.bind_eq_ok_iff.mp isRun
  intro g member
  have loose : g.loose ∈ glyphs := by
    rw [← Line.map_loose_layout isRun]
    exact List.mem_map_of_mem member
  exact rasterize_of_gatherDirect gathered g.loose loose

/-- A run that the direct pipeline draws is one that it lays out. -/
theorem prepareDirect_of_drawDirect {units : List UInt16} {origin : Point}
    {anchor : Anchor} {b : Brush} {run : Run}
    (isRun : (r.drawDirect units origin anchor b).1 = .ok run) :
    r.prepareDirect units origin (LineOptions.ofAnchor anchor) = .ok run := by
  unfold drawDirect at isRun
  cases prepared : r.prepareDirect units origin (LineOptions.ofAnchor anchor) with
  | error fault =>
      rw [prepared] at isRun
      cases isRun
  | ok laid =>
      rw [prepared] at isRun
      rcases stamped : b.stamp laid with ⟨result, painted⟩
      cases result <;> simp only [stamped] at isRun
      · cases isRun
      · exact isRun

/-! ## Through a sound cache -/

/-- Fetching a mask through a sound cache gives what the chain renders, be it a
mask or a fault, and leaves the cache sound. -/
theorem fetch_eq_rasterize (isMatch : catalog.Matches keys)
    (recorded : r.chain.Recorded catalog) (sound : c.Sound catalog.Shows)
    {ref : GlyphRef} (offers : r.chain.Offers ref) :
    (r.fetch c ref).1 = r.chain.rasterize ref r.size ∧
      (r.fetch c ref).2.Sound catalog.Shows := by
  obtain ⟨known, rendered⟩ := recorded.rasterize_eq isMatch offers r.size
  obtain ⟨reserved, member, _, filled⟩ :=
    sound.reserve (CacheKey.ofRef ref r.size)
  unfold fetch
  cases ready : c.finished? (CacheKey.ofRef ref r.size) with
  | some mask =>
      have shown := reserved.right member (filled.trans ready)
      rw [sound.request_of_ready ready, rendered, shown.2]
      exact ⟨rfl, reserved.countHit⟩
  | none =>
      have inFlight := sound.reserve_mem_inFlight ready
      rw [sound.request_of_not_ready ready]
      cases outcome : r.chain.rasterize ref r.size with
      | error fault => exact ⟨rfl, reserved⟩
      | ok mask =>
          have shows : catalog.Shows (CacheKey.ofRef ref r.size) mask :=
            ⟨known, rendered.symm.trans outcome⟩
          exact ⟨rfl,
            (reserved.complete catalog.Shows inFlight shows fun _ _ _ => id).1⟩

/-- Gathering masks through a sound cache gives what the direct pipeline
gathers. -/
theorem gather_eq_gatherDirect (isMatch : catalog.Matches keys)
    (recorded : r.chain.Recorded catalog) (sound : c.Sound catalog.Shows)
    {resolved : List ResolvedCluster}
    (offers : ∀ glyph ∈ resolved, r.chain.Offers glyph.ref) :
    (r.gather resolved c).1 = r.gatherDirect resolved ∧
      (r.gather resolved c).2.Sound catalog.Shows := by
  induction resolved generalizing c with
  | nil => exact ⟨rfl, sound⟩
  | cons glyph rest inductionHypothesis =>
      obtain ⟨fetched, soundAfter⟩ := fetch_eq_rasterize isMatch recorded sound
        (offers glyph List.mem_cons_self)
      have others := inductionHypothesis soundAfter fun other member =>
        offers other (List.mem_cons_of_mem _ member)
      rw [gather, gatherDirect, ← fetched]
      rcases result : r.fetch c glyph.ref with ⟨outcome, after⟩
      rw [result] at others soundAfter
      cases outcome with
      | error fault => exact ⟨rfl, soundAfter⟩
      | ok mask =>
          obtain ⟨gathered, soundLast⟩ := others
          simp only [← gathered]
          rcases lastResult : r.gather rest after with ⟨lastOutcome, last⟩
          rw [lastResult] at soundLast
          cases lastOutcome with
          | error fault => exact ⟨rfl, soundLast⟩
          | ok glyphs => exact ⟨rfl, soundLast⟩

/-- Every glyph that a renderer finds is one that its chain offers. -/
theorem offers_of_resolveAll (short : r.chain.size ≤ GlyphRef.missingSource.toNat)
    {clusters : List Cluster} {resolved : List ResolvedCluster}
    (found : r.resolveAll clusters = .ok resolved) :
    ∀ glyph ∈ resolved, r.chain.Offers glyph.ref := by
  induction clusters generalizing resolved with
  | nil =>
      cases found
      simp
  | cons cluster rest inductionHypothesis =>
      obtain ⟨ref, first, found⟩ := Checked.bind_eq_ok_iff.mp found
      obtain ⟨tail, others, isResolved⟩ := Checked.bind_eq_ok_iff.mp found
      cases isResolved
      intro glyph member
      rcases List.mem_cons.mp member with rfl | member
      · exact Chain.offers_of_resolve short first
      · exact inductionHypothesis others glyph member

/-- Laying out a text through a sound cache gives what the direct pipeline
gives, and leaves the cache sound. -/
theorem prepare_eq_prepareDirect (isMatch : catalog.Matches keys)
    (recorded : r.chain.Recorded catalog) (sound : c.Sound catalog.Shows)
    (units : List UInt16) (origin : Point) (options : LineOptions) :
    (r.prepare c units origin options).1 = r.prepareDirect units origin options ∧
      (r.prepare c units origin options).2.Sound catalog.Shows := by
  unfold prepare prepareDirect
  cases found : r.resolve units with
  | error fault => exact ⟨rfl, sound⟩
  | ok resolved =>
      have offers := offers_of_resolveAll recorded.size_le found
      obtain ⟨gathered, soundAfter⟩ :=
        gather_eq_gatherDirect isMatch recorded sound offers
      simp only [bind, Except.bind, ← gathered]
      rcases result : r.gather resolved c with ⟨outcome, after⟩
      rw [result] at soundAfter
      cases outcome with
      | error fault => exact ⟨rfl, soundAfter⟩
      | ok glyphs => exact ⟨rfl, soundAfter⟩

/-- Drawing leaves the cache as laying out does. -/
theorem cache_draw (r : Renderer) (c : Cache) (units : List UInt16)
    (origin : Point) (anchor : Anchor) (b : Brush) :
    (r.draw c units origin anchor b).2.1 =
      (r.prepare c units origin (LineOptions.ofAnchor anchor)).2 := by
  unfold draw
  rcases r.prepare c units origin (LineOptions.ofAnchor anchor) with
    ⟨outcome, after⟩
  cases outcome with
  | error fault => rfl
  | ok run =>
      rcases stamped : b.stamp run with ⟨result, painted⟩
      cases result <;> simp [stamped]

/-- Drawing a text through a sound cache gives the run and the pixels that the
direct pipeline gives. -/
theorem draw_eq_drawDirect (isMatch : catalog.Matches keys)
    (recorded : r.chain.Recorded catalog) (sound : c.Sound catalog.Shows)
    (units : List UInt16) (origin : Point) (anchor : Anchor) (b : Brush) :
    ((r.draw c units origin anchor b).1, (r.draw c units origin anchor b).2.2) =
      r.drawDirect units origin anchor b := by
  obtain ⟨prepared, _⟩ := prepare_eq_prepareDirect isMatch recorded sound units
    origin (LineOptions.ofAnchor anchor)
  unfold draw drawDirect
  rw [← prepared]
  rcases r.prepare c units origin (LineOptions.ofAnchor anchor) with
    ⟨outcome, after⟩
  cases outcome with
  | error fault => rfl
  | ok run =>
      rcases stamped : b.stamp run with ⟨result, painted⟩
      cases result <;> simp [stamped]

end Renderer

end Inkwell
