import Inkwell.Cache
import Inkwell.Chain
import Inkwell.Layout.Stamp

/-!
# Renderers

A renderer takes text from units to pixels: it decodes and splits the units,
finds a glyph for each cluster in its chain, gets the masks through a cache,
lays the line out and stamps it.  All glyphs are found before the first mask is
asked for.
-/

namespace Inkwell

/-- How text is drawn. -/
structure Renderer where
  chain : Chain
  rules : RuleTable
  /-- The size in pixels. -/
  size : UInt16

/-- A glyph found for a cluster. -/
structure ResolvedCluster where
  ref : GlyphRef
  cluster : Cluster
  deriving DecidableEq

namespace Renderer

/-- The size of a renderer that was given none. -/
def defaultSize : UInt16 := 16

/-- A renderer over a chain with the standard rules and size. -/
def ofChain (chain : Chain) : Renderer := ⟨chain, RuleTable.standard, defaultSize⟩

/-- The renderer at another size, at least one pixel. -/
def withSize (r : Renderer) (size : UInt16) : Renderer :=
  { r with size := max size 1 }

/-- The clusters of a text. -/
def clusters (r : Renderer) (units : List UInt16) : List Cluster :=
  r.rules.segment (Utf16.decode units)

/-- Find a glyph for each cluster. -/
def resolveAll (r : Renderer) : List Cluster → Checked (List ResolvedCluster)
  | [] => pure []
  | cluster :: rest => do
      let ref ← r.chain.resolve cluster r.size
      let others ← resolveAll r rest
      pure (⟨ref, cluster⟩ :: others)

/-- The glyphs of a text. -/
def resolve (r : Renderer) (units : List UInt16) :
    Checked (List ResolvedCluster) :=
  r.resolveAll (r.clusters units)

/-- The mask of a glyph, through the cache. -/
def fetch (r : Renderer) (c : Cache) (ref : GlyphRef) : Checked Mask × Cache :=
  let result := c.request (CacheKey.ofRef ref r.size) fun c =>
    (do let mask ← r.chain.rasterize ref r.size; pure (mask, ()), c)
  (do let answer ← result.1; pure answer.1, result.2)

/-- The masks of glyphs in order, through the cache. -/
def gather (r : Renderer) :
    List ResolvedCluster → Cache → Checked (List LooseGlyph) × Cache
  | [], c => (.ok [], c)
  | resolved :: rest, c =>
      match r.fetch c resolved.ref with
      | (.error fault, c) => (.error fault, c)
      | (.ok mask, c) =>
          match r.gather rest c with
          | (.error fault, c) => (.error fault, c)
          | (.ok others, c) =>
              (.ok (⟨resolved.ref, resolved.cluster.start,
                resolved.cluster.stop, some mask⟩ :: others), c)

/-- Lay out a text without painting it. -/
def prepare (r : Renderer) (c : Cache) (units : List UInt16) (origin : Point)
    (options : LineOptions) : Checked Run × Cache :=
  match r.resolve units with
  | .error fault => (.error fault, c)
  | .ok resolved =>
      match r.gather resolved c with
      | (.error fault, c) => (.error fault, c)
      | (.ok glyphs, c) =>
          (do
            let metrics ← r.chain.lineMetrics r.size
            Line.layout glyphs origin options metrics, c)

/-- Draw a text: lay it out and stamp the run. -/
def draw (r : Renderer) (c : Cache) (units : List UInt16) (origin : Point)
    (anchor : Anchor) (b : Brush) : Checked Run × Cache × Brush :=
  match r.prepare c units origin (LineOptions.ofAnchor anchor) with
  | (.error fault, c) => (.error fault, c, b)
  | (.ok run, c) =>
      match b.stamp run with
      | (.error fault, b) => (.error fault, c, b)
      | (.ok (), b) => (.ok run, c, b)

/-- The width of a text, found without rasterizing. -/
def measure (r : Renderer) (units : List UInt16) : Checked Int32 := do
  let resolved ← r.resolve units
  Line.measure (resolved.map (·.ref.advance)) 0

end Renderer

end Inkwell
