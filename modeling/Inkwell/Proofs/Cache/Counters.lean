import Inkwell.Proofs.Cache.Bookkeeping
import Mathlib.Algebra.GroupWithZero.Nat

/-!
# What the counters count

The counters of a cache are moved at three places around a render that may move them
too.  They add up with what has happened: hits and rasterizations with the requests
and renders that returned, and evictions with the keys that were cached.  A key is
only ever cached when it was not, so whatever was cached is still there, was dropped
to make room, or went when the cache was emptied.
-/

namespace Inkwell

namespace Cache

variable {c : Cache} {key : CacheKey} {slot : Slot} {mask : Mask}

/-! ## Hits and rasterizations -/

theorem stats_openSlot (c : Cache) (key : CacheKey) :
    (c.openSlot key).2.stats = c.stats := by
  unfold openSlot
  split <;> rfl

theorem hits_rasterizations_push (c : Cache) (key : CacheKey) (slot : Slot) :
    (c.push key slot).stats.hits = c.stats.hits ∧
      (c.push key slot).stats.rasterizations = c.stats.rasterizations := by
  unfold push
  split
  · exact ⟨rfl, rfl⟩
  · split <;> exact ⟨rfl, rfl⟩

/-- Reserving a slot counts neither a hit nor a rasterization. -/
theorem hits_rasterizations_reserve (c : Cache) (key : CacheKey) :
    (c.reserve key).2.stats.hits = c.stats.hits ∧
      (c.reserve key).2.stats.rasterizations = c.stats.rasterizations := by
  unfold reserve
  split
  · exact ⟨rfl, rfl⟩
  · rw [← c.stats_openSlot key]
    exact hits_rasterizations_push _ _ _

/-- Completing a render counts one rasterization and no hit. -/
theorem hits_rasterizations_complete (c : Cache) (key : CacheKey) (slot : Slot) (mask : Mask) :
    (c.complete key slot mask).stats.hits = c.stats.hits ∧
      (c.complete key slot mask).stats.rasterizations =
        c.stats.rasterizations + 1 := by
  rw [complete_eq_fill]
  split
  · exact ⟨rfl, rfl⟩
  · obtain ⟨sameHits, sameRasterizations⟩ := c.hits_rasterizations_push key slot
    exact ⟨sameHits, congrArg (· + 1) sameRasterizations⟩

/-! ## Keys cached and keys dropped -/

/-- The keys that the cache holds or dropped to make room. -/
def turnover (c : Cache) : Nat := c.stats.evictions + c.size

/-- A key that is not cached is one more key to hold. -/
theorem turnover_push_of_absent (room : 0 < c.capacity) (slot : Slot)
    (absent : c.contains key = false) :
    (c.push key slot).turnover = c.turnover + 1 := by
  unfold push
  rw [if_neg (by simp [absent])]
  split
  · simp only [turnover, size, List.length_cons]
    omega
  · simp only [turnover, size, List.length_cons, List.length_dropLast]
    omega

/-- The slot that is opened for an absent key is cached under a key that is still
absent. -/
theorem contains_openSlot (absent : c.contains key = false) :
    (c.openSlot key).2.contains key = false := by
  rw [contains_eq_false_iff, keys_openSlot, ← contains_eq_false_iff]
  exact absent

theorem turnover_promote (nodup : c.keys.Nodup) (cached : key ∈ c.keys) :
    turnover { c with recent := promote c.recent key slot } = c.turnover := by
  have kept : (c.keys.filter fun other => !other == key).length + 1 = c.keys.length := by
    have shorter := List.length_erase_of_mem cached
    have nonempty := List.length_pos_of_mem cached
    rw [nodup.erase_eq_filter key] at shorter
    change (c.keys.filter fun other => other != key).length + 1 = _
    omega
  rw [turnover, turnover, size_eq_length_keys, size_eq_length_keys, keys_promote,
    List.length_cons, kept]

/-- Reserving a slot caches one more key if the key was not cached. -/
theorem turnover_reserve (room : 0 < c.capacity) (nodup : c.keys.Nodup)
    (key : CacheKey) :
    (c.reserve key).2.turnover = c.turnover + if !c.contains key then 1 else 0 := by
  unfold reserve
  split
  · rename_i slot found
    have cached := mem_keys_of_lookup_eq_some found
    rw [(c.contains_eq_true_iff key).mpr cached]
    exact turnover_promote nodup cached
  · rename_i missing
    have absent : c.contains key = false :=
      (c.contains_eq_false_iff key).mpr (notMem_keys_of_lookup_eq_none missing)
    have sameTurnover : (c.openSlot key).2.turnover = c.turnover := by
      rw [turnover, stats_openSlot, size_eq_length_keys, keys_openSlot, turnover,
        size_eq_length_keys]
    rw [turnover_push_of_absent (c.capacity_openSlot key ▸ room) _
      (contains_openSlot absent), sameTurnover, absent]
    rfl

/-- Completing a render caches one more key if the key was dropped meanwhile. -/
theorem turnover_complete (room : 0 < c.capacity) (key : CacheKey) (slot : Slot)
    (mask : Mask) :
    (c.complete key slot mask).turnover =
      c.turnover + if !c.contains key then 1 else 0 := by
  rw [complete_eq_fill]
  cases absent : c.contains key with
  | true => rfl
  | false => exact turnover_push_of_absent room slot absent

/-! ## Keys that are cached no more -/

/-- The number of keys that were cached before and are not afterwards. -/
def lost (before after : Cache) : Nat :=
  before.keys.countP fun key => !after.contains key

theorem lost_eq_zero {after : Cache} (subset : c.keys ⊆ after.keys) :
    c.lost after = 0 := by
  apply List.countP_eq_zero.mpr
  intro other member
  simp [contains_eq_decide, subset member]

/-- Caching an absent key counts an eviction when a cached key is lost. -/
theorem evictions_push_of_absent (bounded : c.Bounded) (nodup : c.keys.Nodup)
    (slot : Slot) (absent : c.contains key = false) :
    (c.push key slot).stats.evictions = c.stats.evictions + c.lost (c.push key slot) := by
  have notCached := (c.contains_eq_false_iff key).mp absent
  unfold push
  rw [if_neg (by simp [absent])]
  split
  · rw [lost_eq_zero (List.subset_cons_self _ _)]
    rfl
  · rename_i full
    -- The last of the cached keys goes, and no other key has its place.
    have nonempty : c.recent ≠ [] := by
      intro empty
      simp only [empty, List.length_nil] at full
      exact full bounded.room
    have split : c.keys =
        c.recent.dropLast.map Prod.fst ++ [(c.recent.getLast nonempty).1] := by
      rw [keys, ← List.map_singleton, ← List.map_append, List.dropLast_concat_getLast]
    rw [split] at nodup notCached
    obtain ⟨_, _, apart⟩ := List.nodup_append.mp nodup
    rw [List.mem_append, List.mem_singleton, not_or] at notCached
    dsimp only
    rw [Nat.add_right_inj, lost, split, List.countP_append, List.countP_singleton]
    rw [List.countP_eq_zero.mpr, if_pos]
    · rw [Bool.not_eq_true', contains_eq_false_iff, keys, List.map_cons, List.mem_cons,
        not_or]
      refine ⟨Ne.symm notCached.2, fun member => ?_⟩
      exact apart _ member _ (List.mem_singleton_self _) rfl
    · intro other member
      rw [Bool.not_eq_true, Bool.not_eq_false', contains_eq_true_iff]
      exact List.mem_cons_of_mem _ member

/-- Reserving a slot counts an eviction when a cached key is lost. -/
theorem evictions_reserve (bounded : c.Bounded) (nodup : c.keys.Nodup) :
    (c.reserve key).2.stats.evictions =
      c.stats.evictions + c.lost (c.reserve key).2 := by
  unfold reserve
  split
  · rename_i slot found
    have subset : c.keys ⊆ keys { c with recent := promote c.recent key slot } := by
      intro other member
      rw [keys_promote, List.mem_cons, List.mem_filter]
      by_cases same : other = key
      · exact .inl same
      · exact .inr ⟨member, by simp [same]⟩
    rw [lost_eq_zero subset]
    rfl
  · rename_i missing
    have absent : c.contains key = false :=
      (c.contains_eq_false_iff key).mpr (notMem_keys_of_lookup_eq_none missing)
    have boundedOpen : (c.openSlot key).2.Bounded := by
      constructor
      · rw [capacity_openSlot]
        exact bounded.room
      · rw [capacity_openSlot, size_eq_length_keys, keys_openSlot, ← size_eq_length_keys]
        exact bounded.size_le
    have pushed := evictions_push_of_absent boundedOpen (c.keys_openSlot key ▸ nodup)
      (c.openSlot key).1 (contains_openSlot absent)
    rw [stats_openSlot, lost, keys_openSlot] at pushed
    exact pushed

/-- Completing a render counts an eviction when a cached key is lost. -/
theorem evictions_complete (bounded : c.Bounded) (nodup : c.keys.Nodup) :
    (c.complete key slot mask).stats.evictions =
      c.stats.evictions + c.lost (c.complete key slot mask) := by
  rw [complete_eq_fill]
  cases absent : c.contains key with
  | true => exact (congrArg (c.stats.evictions + ·) (lost_eq_zero fun _ => id)).symm
  | false => exact evictions_push_of_absent bounded nodup slot absent

end Cache

/-! ## What happened -/

namespace CacheEvent

/-- A request returned. -/
def isReturn : CacheEvent → Bool
  | .answered _ _ => true
  | .rendered _ _ => true
  | _ => false

/-- A render returned. -/
def isRender : CacheEvent → Bool
  | .rendered _ _ => true
  | _ => false

/-- A request was made for a key that was not cached. -/
def isMiss (event : CacheEvent) (before : Cache) : Bool :=
  match event with
  | .answered key _ => !before.contains key
  | .began key => !before.contains key
  | _ => false

/-- A render returned when its key was cached no more. -/
def isRevival (event : CacheEvent) (before : Cache) : Bool :=
  match event with
  | .rendered key _ => !before.contains key
  | _ => false

/-- The number of keys that went when the cache was emptied. -/
def emptied (event : CacheEvent) (before : Cache) : Nat :=
  match event with
  | .cleared => before.size
  | _ => 0

end CacheEvent

/-- The move empties the cache. -/
def CacheMove.isClear : CacheMove → Bool
  | .clear => true
  | _ => false

namespace Activity

variable {a b : Activity} {move : CacheMove} {moves : List CacheMove} {capacity : Nat}

/-- The number of requests that returned. -/
def returns (a : Activity) : Nat := a.log.countP (·.1.isReturn)

/-- The number of renders that returned. -/
def renders (a : Activity) : Nat := a.log.countP (·.1.isRender)

/-- The number of requests for keys that were not cached. -/
def misses (a : Activity) : Nat := a.log.countP fun entry => entry.1.isMiss entry.2

/-- The number of renders that returned when their keys were cached no more. -/
def revivals (a : Activity) : Nat := a.log.countP fun entry => entry.1.isRevival entry.2

/-- The number of keys that went when the cache was emptied. -/
def emptied (a : Activity) : Nat := (a.log.map fun entry => entry.1.emptied entry.2).sum

/-- The counters agree with the log. -/
structure Tallied (a : Activity) : Prop where
  hits_eq : a.cache.stats.hits + a.cache.stats.rasterizations = a.returns
  rasterizations_eq : a.cache.stats.rasterizations = a.renders
  turnover_eq : a.cache.turnover + a.emptied = a.misses + a.revivals

theorem tallied_start (capacity : Nat) : (start capacity).Tallied :=
  ⟨rfl, rfl, rfl⟩

section After

variable {event : CacheEvent} {cache : Cache} {stack : List (CacheKey × Slot)}

/-- The counters keep agreeing with the log when they move with the event. -/
theorem Tallied.after (tallied : a.Tallied)
    (hits : cache.stats.hits =
      a.cache.stats.hits + if event.isReturn && !event.isRender then 1 else 0)
    (rasterizations : cache.stats.rasterizations =
      a.cache.stats.rasterizations + if event.isRender then 1 else 0)
    (turnover : cache.turnover + event.emptied a.cache =
      a.cache.turnover + (if event.isMiss a.cache then 1 else 0) +
        if event.isRevival a.cache then 1 else 0) :
    (a.after event cache stack).Tallied := by
  obtain ⟨hits_eq, rasterizations_eq, turnover_eq⟩ := tallied
  have rendersReturn : event.isRender = true → event.isReturn = true := by
    cases event <;> simp [CacheEvent.isRender, CacheEvent.isReturn]
  constructor
  · rw [returns, Activity.after, List.countP_cons, ← returns]
    dsimp only
    rw [hits, rasterizations, ← hits_eq]
    grind
  · rw [renders, Activity.after, List.countP_cons, ← renders]
    dsimp only
    rw [rasterizations, rasterizations_eq]
  · rw [misses, revivals, emptied, Activity.after, List.countP_cons, List.countP_cons,
      List.map_cons, List.sum_cons, ← misses, ← revivals, ← emptied]
    dsimp only
    omega

end After

/-- Every move keeps the counters in agreement with the log. -/
theorem Tallied.takes (tallied : a.Tallied) (kept : a.Kept capacity) (sound : a.Sound)
    (taken : a.Takes move b) : b.Tallied := by
  have room := kept.bounded.room
  have nodup : a.cache.keys.Nodup := sound.cache.recent_nodup
  cases taken with
  | @answered key mask free ready =>
      obtain ⟨sameHits, sameRasterizations⟩ := a.cache.hits_rasterizations_reserve key
      apply tallied.after
      · exact congrArg (· + 1) sameHits
      · exact sameRasterizations
      · exact Cache.turnover_reserve room nodup key
  | @began key free notReady =>
      obtain ⟨sameHits, sameRasterizations⟩ := a.cache.hits_rasterizations_reserve key
      apply tallied.after
      · exact sameHits
      · exact sameRasterizations
      · exact Cache.turnover_reserve room nodup key
  | @rendered key slot rest mask top =>
      obtain ⟨sameHits, oneMore⟩ := a.cache.hits_rasterizations_complete key slot mask
      apply tallied.after
      · exact sameHits
      · exact oneMore
      · exact Cache.turnover_complete room key slot mask
  | failed top => exact tallied.after rfl rfl rfl
  | looked key => exact tallied.after rfl rfl rfl
  | cleared => exact tallied.after rfl rfl rfl

theorem tallied_of_run (reached : (start capacity).run moves = some a) : a.Tallied := by
  refine (holds_of_run (fun _ a => a.Kept capacity ∧ a.Tallied)
    ⟨kept_start capacity, tallied_start capacity⟩ ?_ reached).2
  intro moves a move b before sound taken
  exact ⟨before.1.takes sound taken, before.2.takes before.1 sound taken⟩

/-- Every move counts the keys that it drops, those of an emptied cache apart. -/
theorem evictions_takes (kept : a.Kept capacity) (sound : a.Sound)
    (taken : a.Takes move b) :
    b.cache.stats.evictions =
      a.cache.stats.evictions + if move.isClear then 0 else a.cache.lost b.cache := by
  have bounded := kept.bounded
  have nodup : a.cache.keys.Nodup := sound.cache.recent_nodup
  have none_lost : a.cache.lost a.cache = 0 := Cache.lost_eq_zero fun _ => id
  cases taken with
  | answered free ready => exact Cache.evictions_reserve bounded nodup
  | began free notReady => exact Cache.evictions_reserve bounded nodup
  | rendered mask top => exact Cache.evictions_complete bounded nodup
  | failed top => exact (congrArg (a.cache.stats.evictions + ·) none_lost).symm
  | looked key => exact (congrArg (a.cache.stats.evictions + ·) none_lost).symm
  | cleared => rfl

/-- Every move is logged. -/
theorem length_log_of_run (reached : (start capacity).run moves = some a) :
    a.log.length = moves.length := by
  refine holds_of_run (fun moves a => a.log.length = moves.length) rfl ?_ reached
  intro moves a move b before _ taken
  rw [List.length_append, List.length_singleton, ← before]
  cases taken <;> rfl

/-- No event is both a request for a key that was not cached and the return of a
render. -/
theorem misses_add_revivals_le (a : Activity) : a.misses + a.revivals ≤ a.log.length := by
  rw [misses, revivals, List.length_eq_countP_add_countP fun entry => entry.1.isMiss entry.2]
  apply Nat.add_le_add_left
  apply List.countP_mono_left
  rintro ⟨event, before⟩ _ revived
  cases event <;> simp_all [CacheEvent.isRevival, CacheEvent.isMiss]

/-- Take any well-nested use of a new cache.  Hits and rasterizations are together as
many as the requests that returned, and rasterizations as many as the renders that
did.  Evictions, the keys cached now and those that went when the cache was emptied
are together as many as the requests that found their key absent and the renders that
found it so when they returned.  A request that finds its key absent puts it among
keys that it is not one of, and each further move counts precisely the keys that it
drops.  No counter goes beyond the number of moves.  Whole requests are uses of the
cache too. -/
theorem counters_add_up (capacity : Nat) (moves : List CacheMove)
    (reached : (start capacity).run moves = some a) :
    a.cache.stats.hits + a.cache.stats.rasterizations = a.returns ∧
    a.cache.stats.rasterizations = a.renders ∧
    a.cache.stats.evictions + a.cache.size + a.emptied = a.misses + a.revivals ∧
    (∀ key, a.cache.recent.lookup key = none →
      (a.cache.openSlot key).2.contains key = false) ∧
    (∀ move next, a.step move = some next →
      next.cache.stats.evictions = a.cache.stats.evictions +
        if move.isClear then 0 else a.cache.lost next.cache) ∧
    (a.cache.stats.hits + a.cache.stats.rasterizations ≤ moves.length ∧
      a.cache.stats.evictions ≤ moves.length) ∧
    a.TakesRequests := by
  have sound := (sound_start capacity).run reached
  obtain ⟨hits_eq, rasterizations_eq, turnover_eq⟩ := tallied_of_run reached
  refine ⟨hits_eq, rasterizations_eq, turnover_eq, ?_, ?_, ⟨?_, ?_⟩, ?_⟩
  · intro key missing
    apply Cache.contains_openSlot
    exact (a.cache.contains_eq_false_iff key).mpr
      (Cache.notMem_keys_of_lookup_eq_none missing)
  · intro move next moved
    exact evictions_takes (kept_of_run reached) sound (sound.takes moved)
  · rw [hits_eq, ← length_log_of_run reached]
    exact List.countP_le_length
  · have inserted := a.misses_add_revivals_le
    rw [length_log_of_run reached, ← turnover_eq, Cache.turnover] at inserted
    omega
  · intro α key render free nests
    exact sound.run_request free nests

/-- In a cache for one key, a nested render drops the first key, which comes back when
its own render returns; it is requested again, the cache is emptied, and the last
render fails. -/
def dropAndRevive : List CacheMove :=
  [.request ⟨1, 7, 16⟩, .request ⟨1, 8, 16⟩, .finish Mask.empty, .finish Mask.empty,
    .request ⟨1, 7, 16⟩, .clear, .request ⟨1, 8, 16⟩, .fail]

theorem counters_add_up_dropAndRevive : ∃ a : Activity,
    (start 1).run dropAndRevive = some a ∧ a.returns = 3 ∧ a.revivals = 1 ∧
    a.cache.stats = ⟨1, 2, 2⟩ ∧
    a.cache.stats.hits + a.cache.stats.rasterizations = a.returns ∧
    a.cache.stats.evictions + a.cache.size + a.emptied = a.misses + a.revivals := by
  obtain ⟨hits_eq, _, turnover_eq, _⟩ := counters_add_up 1 dropAndRevive rfl
  exact ⟨_, rfl, rfl, rfl, rfl, hits_eq, turnover_eq⟩

end Activity

end Inkwell
