import Inkwell.Proofs.Studio.Workshop

/-!
# Caches in service

A cache serves a renderer when it is the one that some history of a workshop has left
the renderer with.  Through such a cache, the renderer lays out and draws texts as it
does without one.
-/

namespace Inkwell

namespace Workshop

/-- After some history of a workshop in which fewer keys were given out than there
are, the renderer draws through the cache. -/
def Serves (c : Cache) (r : Renderer) : Prop :=
  ∃ (capacities : List Nat) (history : List WorkshopAction) (desk place : Nat),
    history.countP (·.isPush) < 4294967295 ∧
    ((create capacities).run history).studio.at? desk = some (⟨r, place⟩, c)

variable {c : Cache} {r : Renderer}

/-- A cache in service holds what the chain of its renderer shows. -/
theorem Serves.sound (serves : Serves c r) :
    ∃ (catalog : Catalog) (keys : KeySupply), catalog.Matches keys ∧
      r.chain.Recorded catalog ∧ c.Sound catalog.Shows := by
  obtain ⟨capacities, history, desk, place, few, present⟩ := serves
  obtain ⟨catalog, sound⟩ := (sound_create capacities).run (by
    simpa [Catalog.empty] using few)
  exact ⟨catalog, _, sound.isMatch, sound.at? present⟩

theorem Serves.prepare_eq (serves : Serves c r) (units : List UInt16)
    (origin : Point) (options : LineOptions) :
    (r.prepare c units origin options).1 = r.prepareDirect units origin options := by
  obtain ⟨catalog, keys, isMatch, recorded, sound⟩ := serves.sound
  exact (Renderer.prepare_eq_prepareDirect isMatch recorded sound units origin
    options).1

theorem Serves.draw_eq (serves : Serves c r) (units : List UInt16)
    (origin : Point) (anchor : Anchor) (b : Brush) :
    ((r.draw c units origin anchor b).1, (r.draw c units origin anchor b).2.2) =
      r.drawDirect units origin anchor b := by
  obtain ⟨catalog, keys, isMatch, recorded, sound⟩ := serves.sound
  exact Renderer.draw_eq_drawDirect isMatch recorded sound units origin anchor b

end Workshop

end Inkwell
