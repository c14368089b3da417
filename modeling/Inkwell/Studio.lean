import Inkwell.Setup

/-!
# Studios

A studio holds renderers and the caches they use.  Several renderers may share
a cache; whichever of them draws, the others see the cache as it was left.
-/

namespace Inkwell

/-- A renderer with the place of the cache it uses. -/
structure Desk where
  renderer : Renderer
  cache : Nat

/-- Renderers over shared caches. -/
structure Studio where
  caches : Array Cache
  desks : Array Desk
  keys : KeySupply

namespace Studio

/-- A studio without renderers, whose first cache is the common one. -/
def create (capacities : List Nat) : Studio where
  caches := #[Cache.create Cache.defaultCapacity]
    ++ (capacities.map Cache.create).toArray
  desks := #[]
  keys := KeySupply.fresh

/-- Add a renderer that uses the cache at a place. -/
def addDesk (s : Studio) (renderer : Renderer) (cache : Nat) : Studio :=
  { s with desks := s.desks.push ⟨renderer, cache⟩ }

/-- Add a renderer with a cache of its own. -/
def addDeskWithCache (s : Studio) (renderer : Renderer) (capacity : Nat) :
    Studio :=
  { s with
    caches := s.caches.push (Cache.create capacity)
    desks := s.desks.push ⟨renderer, s.caches.size⟩ }

/-- A renderer and its cache. -/
def at? (s : Studio) (i : Nat) : Option (Desk × Cache) := do
  let desk ← s.desks[i]?
  let cache ← s.caches[desk.cache]?
  pure (desk, cache)

/-- The studio with the cache of a renderer replaced. -/
def putCache (s : Studio) (desk : Desk) (cache : Cache) : Studio :=
  { s with caches := s.caches.setIfInBounds desk.cache cache }

/-- Set the size of a renderer. -/
def setSize (s : Studio) (i : Nat) (size : UInt16) : Studio :=
  { s with
    desks := s.desks.modify i fun desk =>
      { desk with renderer := desk.renderer.withSize size } }

/-- Empty the cache of a renderer. -/
def clearCache (s : Studio) (i : Nat) : Studio :=
  match s.at? i with
  | none => s
  | some (desk, cache) => s.putCache desk cache.clear

/-- Lay out a text with a renderer. -/
def prepare (s : Studio) (i : Nat) (units : List UInt16) (origin : Point)
    (options : LineOptions) : Option (Checked Run × Studio) := do
  let (desk, cache) ← s.at? i
  let result := desk.renderer.prepare cache units origin options
  pure (result.1, s.putCache desk result.2)

/-- Measure a text with a renderer.  No mask is asked for, so that every cache stays as it
is. -/
def measure (s : Studio) (i : Nat) (units : List UInt16) :
    Option (Checked Int32 × Studio) := do
  let (desk, _) ← s.at? i
  pure (desk.renderer.measure units, s)

/-- Draw a text with a renderer. -/
def draw (s : Studio) (i : Nat) (units : List UInt16) (origin : Point)
    (anchor : Anchor) (b : Brush) :
    Option (Checked Run × Studio × Brush) := do
  let (desk, cache) ← s.at? i
  let result := desk.renderer.draw cache units origin anchor b
  pure (result.1, s.putCache desk result.2.1, result.2.2)

end Studio

end Inkwell
