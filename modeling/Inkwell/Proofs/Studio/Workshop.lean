import Inkwell.Proofs.Layout.Placement
import Inkwell.Proofs.Renderer.Direct
import Inkwell.Studio

/-!
# Workshops

A workshop is a studio together with the chains that are put together for its
renderers.  Chains are begun, copied and extended, renderers are hired to draw
with them, and all this may go on while other renderers draw through the shared
caches.  Some of the calls fail part-way and leave the caches as they are then.

Whatever happened before, a renderer produces the run and the pixels that it
would produce without a cache.
-/

namespace Inkwell

/-- A studio and the chains at hand. -/
structure Workshop where
  chains : List Chain
  studio : Studio

/-- What may be done in a workshop.  Chains, renderers and caches are named by
their places, and an action on something that is not there does nothing. -/
inductive WorkshopAction where
  /-- Begin a chain without sources. -/
  | beginChain
  /-- Copy a chain. -/
  | copyChain (chain : Nat)
  /-- Add a source to a chain. -/
  | push (chain : Nat) (role : Role) (source : Source)
  /-- Add a renderer that draws with a chain through the cache at a place. -/
  | hire (chain : Nat) (rules : RuleTable) (cache : Nat)
  /-- Set the size of a renderer. -/
  | setSize (desk : Nat) (size : UInt16)
  /-- Empty the cache of a renderer. -/
  | clearCache (desk : Nat)
  /-- Lay out a text. -/
  | prepare (desk : Nat) (units : List UInt16) (origin : Point)
      (options : LineOptions)
  /-- Draw a text. -/
  | draw (desk : Nat) (units : List UInt16) (origin : Point) (anchor : Anchor)
      (b : Brush)

namespace WorkshopAction

/-- The action adds a source to a chain. -/
def isPush : WorkshopAction → Bool
  | .push _ _ _ => true
  | _ => false

end WorkshopAction

namespace Workshop

/-- A workshop with caches of the given capacities besides the common one. -/
def create (capacities : List Nat) : Workshop where
  chains := []
  studio := Studio.create capacities

/-- Perform an action.  What a call returns is not kept, but the caches stay as
the call leaves them, also when it fails. -/
def perform (w : Workshop) : WorkshopAction → Workshop
  | .beginChain => { w with chains := w.chains ++ [Chain.empty] }
  | .copyChain chain => { w with chains := w.chains ++ w.chains[chain]?.toList }
  | .push chain role source =>
      match w.chains[chain]? with
      | none => w
      | some c =>
          let pushed := c.push role source w.studio.keys
          { chains := w.chains.set chain pushed.1
            studio := { w.studio with keys := pushed.2 } }
  | .hire chain rules cache =>
      match w.chains[chain]? with
      | none => w
      | some c =>
          { w with
            studio := w.studio.addDesk ⟨c, rules, Renderer.defaultSize⟩ cache }
  | .setSize desk size => { w with studio := w.studio.setSize desk size }
  | .clearCache desk => { w with studio := w.studio.clearCache desk }
  | .prepare desk units origin options =>
      match w.studio.prepare desk units origin options with
      | none => w
      | some (_, studio) => { w with studio := studio }
  | .draw desk units origin anchor b =>
      match w.studio.draw desk units origin anchor b with
      | none => w
      | some (_, studio, _) => { w with studio := studio }

/-- Perform actions one after the other. -/
def run (w : Workshop) : List WorkshopAction → Workshop
  | [] => w
  | action :: rest => (w.perform action).run rest

/-! ## What every action preserves -/

/-- All chains are recorded in the catalog of the keys given out, and all caches
hold what these chains show. -/
structure Sound (catalog : Catalog) (w : Workshop) : Prop where
  isMatch : catalog.Matches w.studio.keys
  chains : ∀ c ∈ w.chains, c.Recorded catalog
  desks : ∀ {i : Nat} {desk}, w.studio.desks[i]? = some desk →
    desk.renderer.chain.Recorded catalog
  caches : ∀ {i : Nat} {cache}, w.studio.caches[i]? = some cache →
    cache.Sound catalog.Shows

/-- A new workshop is sound. -/
theorem sound_create (capacities : List Nat) :
    Sound Catalog.empty (create capacities) where
  isMatch := Catalog.matches_empty
  chains c member := absurd member List.not_mem_nil
  desks found := by simp [create, Studio.create] at found
  caches found := by
    have member := Array.mem_of_getElem? found
    simp only [create, Studio.create, Array.mem_append, List.mem_toArray,
      List.mem_map, List.mem_singleton] at member
    rcases member with rfl | ⟨capacity, _, rfl⟩ <;> exact Cache.sound_create _ _

variable {catalog : Catalog} {w : Workshop}

/-- The renderer at a desk and its cache, in a sound workshop. -/
theorem Sound.at? (sound : w.Sound catalog) {i : Nat} {desk : Desk}
    {cache : Cache} (found : w.studio.at? i = some (desk, cache)) :
    desk.renderer.chain.Recorded catalog ∧ cache.Sound catalog.Shows := by
  simp only [Studio.at?, Option.bind_eq_bind, Option.bind_eq_some_iff,
    Option.pure_def, Option.some.injEq, Prod.mk.injEq] at found
  obtain ⟨_, isDesk, _, isCache, rfl, rfl⟩ := found
  exact ⟨sound.desks isDesk, sound.caches isCache⟩

/-- Putting back a sound cache keeps a workshop sound. -/
theorem Sound.putCache (sound : w.Sound catalog) (desk : Desk) {cache : Cache}
    (soundCache : cache.Sound catalog.Shows) :
    Sound catalog { w with studio := w.studio.putCache desk cache } where
  isMatch := sound.isMatch
  chains := sound.chains
  desks := sound.desks
  caches found := by
    simp only [Studio.putCache, Array.getElem?_setIfInBounds] at found
    split at found
    · split at found
      · cases found
        exact soundCache
      · cases found
    · exact sound.caches found

/-- Adding a source to a chain keeps a workshop sound for a catalog with at most
one more record, as long as keys are left. -/
theorem Sound.push (sound : w.Sound catalog)
    (few : catalog.records.length + 2 < 4294967296) (chain : Nat) (role : Role)
    (source : Source) :
    ∃ after : Catalog, (w.perform (.push chain role source)).Sound after ∧
      after.records.length ≤ catalog.records.length + 1 := by
  simp only [perform]
  cases found : w.chains[chain]? with
  | none => exact ⟨catalog, sound, Nat.le_succ _⟩
  | some c =>
      have recorded := sound.chains c (List.mem_of_getElem? found)
      rcases recorded.push role source w.studio.keys with
        ⟨record, isNext, isSupply, isRecorded⟩ | unchanged
      · refine ⟨catalog.add record, ?_, Nat.le_refl _⟩
        constructor
        case isMatch =>
          simp only [isSupply]
          exact sound.isMatch.add isNext few
        case chains =>
          intro other member
          rcases List.mem_or_eq_of_mem_set member with old | rfl
          · exact (sound.chains other old).add record
          · exact isRecorded
        case desks =>
          intro i desk isDesk
          exact (sound.desks isDesk).add record
        case caches =>
          intro i cache isCache
          exact (sound.caches isCache).mono fun _ _ =>
            sound.isMatch.shows_add isNext
      · have chains : ∀ other ∈ w.chains.set chain c, other.Recorded catalog := by
          intro other member
          rcases List.mem_or_eq_of_mem_set member with old | rfl
          · exact sound.chains other old
          · exact recorded
        simp only [unchanged]
        exact ⟨catalog, { sound with chains := chains }, Nat.le_succ _⟩

/-- Hiring a renderer for a recorded chain keeps a workshop sound. -/
theorem Sound.addDesk (sound : w.Sound catalog) (renderer : Renderer)
    (recorded : renderer.chain.Recorded catalog) (cache : Nat) :
    Sound catalog { w with studio := w.studio.addDesk renderer cache } where
  isMatch := sound.isMatch
  chains := sound.chains
  desks found := by
    simp only [Studio.addDesk, Array.getElem?_push] at found
    split at found
    · cases found
      exact recorded
    · exact sound.desks found
  caches := sound.caches

/-- Setting a size keeps a workshop sound: the chain of the renderer stays. -/
theorem Sound.setSize (sound : w.Sound catalog) (desk : Nat) (size : UInt16) :
    Sound catalog { w with studio := w.studio.setSize desk size } where
  isMatch := sound.isMatch
  chains := sound.chains
  desks found := by
    simp only [Studio.setSize, Array.getElem?_modify] at found
    split at found
    · obtain ⟨old, isOld, rfl⟩ := Option.map_eq_some_iff.mp found
      have recorded := sound.desks isOld
      exact recorded
    · exact sound.desks found
  caches := sound.caches

/-- Every action but adding a source keeps a workshop sound. -/
theorem Sound.perform (sound : w.Sound catalog) {action : WorkshopAction}
    (notPush : action.isPush = false) : (w.perform action).Sound catalog := by
  cases action with
  | beginChain =>
      have chains : ∀ c ∈ w.chains ++ [Chain.empty], c.Recorded catalog := by
        intro c member
        rcases List.mem_append.mp member with old | new
        · exact sound.chains c old
        · rw [List.mem_singleton.mp new]
          exact Chain.recorded_empty catalog
      exact { sound with chains := chains }
  | copyChain chain =>
      have chains : ∀ c ∈ w.chains ++ w.chains[chain]?.toList,
          c.Recorded catalog := by
        intro c member
        rcases List.mem_append.mp member with old | new
        · exact sound.chains c old
        · exact sound.chains c (List.mem_of_getElem? (Option.mem_toList.mp new))
      exact { sound with chains := chains }
  | push chain role source => cases notPush
  | hire chain rules cache =>
      simp only [Workshop.perform]
      cases found : w.chains[chain]? with
      | none => exact sound
      | some c =>
          have recorded := sound.chains c (List.mem_of_getElem? found)
          exact sound.addDesk ⟨c, rules, Renderer.defaultSize⟩ recorded cache
  | setSize desk size => exact sound.setSize desk size
  | clearCache desk =>
      simp only [Workshop.perform, Studio.clearCache]
      cases found : w.studio.at? desk with
      | none => exact sound
      | some place => exact sound.putCache place.1 (sound.at? found).2.clear
  | prepare desk units origin options =>
      simp only [Workshop.perform, Studio.prepare]
      cases found : w.studio.at? desk with
      | none => exact sound
      | some place =>
          obtain ⟨recorded, soundCache⟩ := sound.at? found
          exact sound.putCache place.1 (Renderer.prepare_eq_prepareDirect
            sound.isMatch recorded soundCache units origin options).2
  | draw desk units origin anchor b =>
      simp only [Workshop.perform, Studio.draw]
      cases found : w.studio.at? desk with
      | none => exact sound
      | some place =>
          obtain ⟨recorded, soundCache⟩ := sound.at? found
          have soundAfter := (Renderer.prepare_eq_prepareDirect sound.isMatch
            recorded soundCache units origin (LineOptions.ofAnchor anchor)).2
          rw [← Renderer.cache_draw _ _ _ _ _ b] at soundAfter
          exact sound.putCache place.1 soundAfter

/-- A workshop stays sound through all actions that leave keys to give out. -/
theorem Sound.run (sound : w.Sound catalog) {actions : List WorkshopAction}
    (few : catalog.records.length + actions.countP (·.isPush) < 4294967295) :
    ∃ after : Catalog, (w.run actions).Sound after := by
  induction actions generalizing w catalog with
  | nil => exact ⟨catalog, sound⟩
  | cons action rest inductionHypothesis =>
      rw [List.countP_cons] at few
      cases isPush : action.isPush with
      | false =>
          exact inductionHypothesis (sound.perform isPush) (by omega)
      | true =>
          cases action with
          | push chain role source =>
              simp only [isPush, if_true] at few
              obtain ⟨after, soundAfter, length⟩ :=
                sound.push (by omega) chain role source
              exact inductionHypothesis soundAfter (by omega)
          | _ => cases isPush

/-! ## Transparency -/

/-- Take any history of a workshop in which fewer keys were given out than there
are.  Any renderer in it then lays out and draws texts as it would without a
cache: with the same runs, faults and pixels, and with the masks that its own
chain renders. -/
theorem caches_are_transparent (capacities : List Nat)
    (history : List WorkshopAction)
    (few : history.countP (·.isPush) < 4294967295)
    {i : Nat} {desk : Desk} {cache : Cache}
    (present : ((create capacities).run history).studio.at? i = some (desk, cache)) :
    (∀ units origin options, ∃ outcome after,
      ((create capacities).run history).studio.prepare i units origin options =
        some (outcome, after) ∧
      outcome = desk.renderer.prepareDirect units origin options ∧
      ∀ run, outcome = .ok run → desk.renderer.Rendered run) ∧
    (∀ units origin anchor b, ∃ outcome after painted,
      ((create capacities).run history).studio.draw i units origin anchor b =
        some (outcome, after, painted) ∧
      (outcome, painted) = desk.renderer.drawDirect units origin anchor b ∧
      ∀ run, outcome = .ok run → desk.renderer.Rendered run) := by
  obtain ⟨catalog, sound⟩ := (sound_create capacities).run (by
    simpa [Catalog.empty] using few)
  obtain ⟨recorded, soundCache⟩ := sound.at? present
  constructor
  · intro units origin options
    have equal := (Renderer.prepare_eq_prepareDirect sound.isMatch recorded
      soundCache units origin options).1
    refine ⟨_, _, by simp only [Studio.prepare, present]; rfl, equal, ?_⟩
    intro run isRun
    exact Renderer.rendered_of_prepareDirect (equal.symm.trans isRun)
  · intro units origin anchor b
    have equal := Renderer.draw_eq_drawDirect sound.isMatch recorded soundCache
      units origin anchor b
    refine ⟨_, _, _, by simp only [Studio.draw, present]; rfl, equal, ?_⟩
    intro run isRun
    have drawn := (congrArg Prod.fst equal).symm.trans isRun
    exact Renderer.rendered_of_prepareDirect
      (Renderer.prepareDirect_of_drawDirect drawn)

/-- A history with two renderers over one small cache: the chain of the second is
a copy that got a source more, and both drew a text before the cache was
emptied. -/
def sharedHistory : List WorkshopAction :=
  [.beginChain, .push 0 .base (Sheet.create "low" 8 ⟨4, 2⟩).toSource,
    .copyChain 0, .push 1 .overlay (Sheet.create "high" 8 ⟨12, 2⟩).toSource,
    .hire 0 RuleTable.standard 1, .hire 1 RuleTable.standard 1,
    .prepare 0 [0x3F] ⟨0, 0⟩ (LineOptions.ofAnchor Anchor.topLeft),
    .setSize 1 8, .prepare 1 [0x3F] ⟨0, 0⟩ (LineOptions.ofAnchor Anchor.topLeft),
    .clearCache 0]

theorem caches_are_transparent_shared : ∃ desk cache,
    ((create [1]).run sharedHistory).studio.at? 1 = some (desk, cache) ∧
    ∀ units origin anchor b, ∃ outcome after painted,
      ((create [1]).run sharedHistory).studio.draw 1 units origin anchor b =
        some (outcome, after, painted) ∧
      (outcome, painted) = desk.renderer.drawDirect units origin anchor b ∧
      ∀ run, outcome = .ok run → desk.renderer.Rendered run := by
  have seated : (((create [1]).run sharedHistory).studio.at? 1).isSome = true := by
    decide
  obtain ⟨⟨desk, cache⟩, present⟩ := Option.isSome_iff_exists.mp seated
  exact ⟨desk, cache, present,
    (caches_are_transparent [1] sharedHistory (by decide) present).2⟩

end Workshop

end Inkwell
