import Inkwell.Cache.Script
import Inkwell.Proofs.Cache.Soundness
import Mathlib.Data.List.Induction

/-!
# What a cache holds

While no render uses the cache itself, what the cache holds can be told from the
requests alone: the distinct keys that were requested last since the cache was
emptied, as many as it has room for.  It does not matter which of the renders
failed, or which keys were dropped and came back.
-/

namespace Inkwell

/-! ## Distinct members of a list, in the order of their first places -/

/-- Distinct members of a list that begins with `a`: those of the rest other than
`a`, after `a`. -/
theorem eraseDups_cons_eq_filter {α : Type} [BEq α] [LawfulBEq α] (a : α) (l : List α) :
    (a :: l).eraseDups = a :: l.eraseDups.filter (fun b => !b == a) := by
  suffices commute : ∀ (p : α → Bool) (n : Nat) (l : List α), l.length ≤ n →
      (l.filter p).eraseDups = l.eraseDups.filter p by
    rw [List.eraseDups_cons, commute _ _ l (Nat.le_refl _)]
  intro p n
  induction n with
  | zero =>
      intro l short
      rw [List.length_eq_zero_iff.mp (Nat.le_zero.mp short)]
      rfl
  | succ n inductionHypothesis =>
      intro l short
      cases l with
      | nil => rfl
      | cons b rest =>
          have others := inductionHypothesis (rest.filter fun c => !c == b) (by
            have shorter := List.length_filter_le (fun c => !c == b) rest
            rw [List.length_cons] at short
            omega)
          rw [List.eraseDups_cons, List.filter_cons, List.filter_cons, ← others]
          split
          · rw [List.eraseDups_cons, List.filter_filter, List.filter_filter]
            simp only [Bool.and_comm]
          · rename_i refused
            -- What is filtered out for being `b` would not pass `p` either.
            have same : (rest.filter fun c => !c == b).filter p = rest.filter p := by
              rw [List.filter_filter]
              apply List.filter_congr
              intro c _
              by_cases equal : c = b
              · simp [equal, refused]
              · simp [equal]
            rw [same]

/-- Distinct members are listed once. -/
theorem nodup_eraseDups {α : Type} [BEq α] [LawfulBEq α] (l : List α) :
    l.eraseDups.Nodup := by
  induction l with
  | nil => exact List.nodup_nil
  | cons a rest inductionHypothesis =>
      rw [eraseDups_cons_eq_filter]
      apply List.nodup_cons.mpr
      constructor
      · simp [List.mem_filter]
      · exact List.filter_sublist.nodup inductionHypothesis

/-- Leaving out one member moves at most one later one forward. -/
theorem take_filter_take_succ {α : Type} [DecidableEq α] (a : α) {l : List α}
    (nodup : l.Nodup) (n : Nat) :
    ((l.take (n + 1)).filter (fun b => !b == a)).take n =
      (l.filter fun b => !b == a).take n := by
  induction l generalizing n with
  | nil => rfl
  | cons b rest inductionHypothesis =>
      obtain ⟨absent, nodupRest⟩ := List.nodup_cons.mp nodup
      by_cases same : b = a
      · have kept : ∀ part : List α, part ⊆ rest →
            part.filter (fun c => !c == a) = part := by
          intro part subset
          apply List.filter_eq_self.mpr
          intro c member
          have different : c ≠ a := by
            rintro rfl
            exact absent (same ▸ subset member)
          simp [different]
        rw [List.take_succ_cons, List.filter_cons_of_neg (by simp [same]),
          List.filter_cons_of_neg (by simp [same]),
          kept _ (List.take_subset n rest), kept _ (List.Subset.refl rest),
          List.take_take, Nat.min_self]
      · rw [List.take_succ_cons, List.filter_cons_of_pos (by simp [same]),
          List.filter_cons_of_pos (by simp [same])]
        cases n with
        | zero => rfl
        | succ n =>
            rw [List.take_succ_cons, List.take_succ_cons,
              inductionHypothesis nodupRest n]

/-! ## One request -/

namespace Cache

/-- The cached keys, most recently used first. -/
def keys (c : Cache) : List CacheKey := c.recent.map Prod.fst

theorem contains_eq_decide (c : Cache) (key : CacheKey) :
    c.contains key = decide (key ∈ c.keys) := by
  rw [Bool.eq_iff_iff, contains_eq_true_iff, decide_eq_true_eq]
  rfl

@[simp]
theorem keys_clear (c : Cache) : c.clear.keys = [] := rfl

theorem keys_promote (c : Cache) (key : CacheKey) (slot : Slot) :
    keys { c with recent := promote c.recent key slot } =
      key :: c.keys.filter (fun other => !other == key) := by
  simp only [keys, promote, List.map_cons, List.filter_map]
  rfl

theorem keys_openSlot (c : Cache) (key : CacheKey) :
    (c.openSlot key).2.keys = c.keys := by
  unfold openSlot
  split <;> rfl

theorem capacity_openSlot (c : Cache) (key : CacheKey) :
    (c.openSlot key).2.capacity = c.capacity := by
  unfold openSlot
  split <;> rfl

theorem capacity_push (c : Cache) (key : CacheKey) (slot : Slot) :
    (c.push key slot).capacity = c.capacity := by
  unfold push
  split
  · rfl
  · split <;> rfl

/-- A key that is not cached is put in front, and of what is cached then there is
kept as much as there is room for. -/
theorem keys_push_of_absent {c : Cache} {key : CacheKey} (slot : Slot)
    (absent : key ∉ c.keys) (room : 0 < c.capacity)
    (bounded : c.keys.length ≤ c.capacity) :
    (c.push key slot).keys = (key :: c.keys).take c.capacity := by
  have notCached : ¬ c.contains key = true := by
    rw [contains_eq_decide, decide_eq_true_eq]
    exact absent
  unfold push
  rw [if_neg notCached]
  have length_eq : c.keys.length = c.recent.length := List.length_map _
  split
  · rename_i short
    rw [List.take_of_length_le (by rw [List.length_cons]; omega)]
    rfl
  · rename_i full
    obtain ⟨n, isSucc⟩ := Nat.exists_eq_succ_of_ne_zero (Nat.ne_of_gt room)
    have last : c.recent.length - 1 = n := by omega
    rw [isSucc, List.take_succ_cons]
    simp only [keys, List.map_cons, List.dropLast_eq_take, List.map_take, last]

/-- Reserving a slot for a key moves it to the front of the cached keys, of which
there is kept as much as there is room for. -/
theorem keys_reserve {c : Cache} (key : CacheKey) (room : 0 < c.capacity)
    (bounded : c.keys.length ≤ c.capacity) :
    (c.reserve key).2.keys =
      (key :: c.keys.filter (fun other => !other == key)).take c.capacity := by
  unfold reserve
  split
  · rename_i slot found
    have cached : key ∈ c.keys := mem_keys_of_lookup_eq_some found
    have fewer : (c.keys.filter fun other => !other == key).length < c.keys.length :=
      List.length_filter_lt_length_iff_exists.mpr ⟨key, cached, by simp⟩
    rw [keys_promote, List.take_of_length_le]
    rw [List.length_cons]
    omega
  · rename_i missing
    have absent : key ∉ c.keys := notMem_keys_of_lookup_eq_none missing
    have kept : c.keys.filter (fun other => !other == key) = c.keys := by
      apply List.filter_eq_self.mpr
      intro other member
      have different : other ≠ key := fun equal => absent (equal ▸ member)
      simp [different]
    rw [keys_push_of_absent, keys_openSlot, capacity_openSlot, kept]
    · rw [keys_openSlot]
      exact absent
    · rw [capacity_openSlot]
      exact room
    · rw [keys_openSlot, capacity_openSlot]
      exact bounded

theorem capacity_reserve (c : Cache) (key : CacheKey) :
    (c.reserve key).2.capacity = c.capacity := by
  unfold reserve
  split
  · rfl
  · rw [capacity_push, capacity_openSlot]

theorem mem_keys_push (c : Cache) (key : CacheKey) (slot : Slot) :
    key ∈ (c.push key slot).keys := by
  unfold push
  split
  · simp [keys, promote]
  · split <;> simp [keys]

/-- A key with a reserved slot is cached. -/
theorem mem_keys_reserve (c : Cache) (key : CacheKey) :
    key ∈ (c.reserve key).2.keys := by
  unfold reserve
  split
  · simp [keys, promote]
  · exact mem_keys_push _ _ _

/-- Completing the render of a cached key changes neither the cached keys nor the
room for them. -/
theorem complete_of_cached {c : Cache} {key : CacheKey} (cached : key ∈ c.keys)
    (slot : Slot) (mask : Mask) :
    (c.complete key slot mask).keys = c.keys ∧
      (c.complete key slot mask).capacity = c.capacity := by
  have isCached : c.contains key = true := by
    rw [contains_eq_decide, decide_eq_true_eq]
    exact cached
  rw [complete_eq_fill, if_pos isCached]
  exact ⟨rfl, rfl⟩

/-- A request whose render leaves the cache alone changes the cached keys as
reserving a slot does, whether the render is needed, returns or fails. -/
theorem request_of_quiet {α : Type} (c : Cache) (key : CacheKey)
    {render : Cache → Checked (Mask × α) × Cache}
    (quiet : ∀ d, (render d).2 = d) :
    (c.request key render).2.keys = (c.reserve key).2.keys ∧
      (c.request key render).2.capacity = c.capacity := by
  have cached := c.mem_keys_reserve key
  have sameCapacity := c.capacity_reserve key
  unfold request
  dsimp only
  split
  · exact ⟨rfl, sameCapacity⟩
  · have left := quiet (c.reserve key).2
    rcases outcome : render (c.reserve key).2 with ⟨result, after⟩
    rw [outcome] at left
    obtain rfl : after = (c.reserve key).2 := left
    cases result with
    | error fault => exact ⟨rfl, sameCapacity⟩
    | ok answer =>
        obtain ⟨sameKeys, keptCapacity⟩ :=
          complete_of_cached cached (c.reserve key).1 answer.1
        exact ⟨sameKeys, keptCapacity.trans sameCapacity⟩

end Cache

/-! ## Scripts without nesting -/

namespace CacheAction

/-- The render of the action, if it has one, leaves the cache alone. -/
def isFlat : CacheAction → Bool
  | .get _ _ nested => nested.isEmpty
  | _ => true

/-- The action empties the cache. -/
def isClear : CacheAction → Bool
  | .clear => true
  | _ => false

/-- The key that the action requests. -/
def requested? : CacheAction → Option CacheKey
  | .get key _ _ => some key
  | .getFailing key => some key
  | _ => none

/-- The keys requested since the cache was last emptied, latest first. -/
def requests (actions : List CacheAction) : List CacheKey :=
  (actions.reverse.takeWhile (!·.isClear)).filterMap requested?

/-- The cached keys are the first distinct ones of the requests, as many as there is
room for. -/
structure Mirrors (capacity : Nat) (asked : List CacheKey) (c : Cache) : Prop where
  capacity_eq : c.capacity = max capacity 1
  keys_eq : c.keys = asked.eraseDups.take (max capacity 1)

theorem mirrors_create (capacity : Nat) :
    Mirrors capacity [] (Cache.create capacity) := by
  refine ⟨rfl, ?_⟩
  rw [List.eraseDups_nil, List.take_nil]
  rfl

variable {capacity : Nat} {asked : List CacheKey} {c : Cache}

/-- One more request is mirrored by one more key in front. -/
theorem Mirrors.request {α : Type} (mirrors : Mirrors capacity asked c)
    (key : CacheKey) {render : Cache → Checked (Mask × α) × Cache}
    (quiet : ∀ d, (render d).2 = d) :
    Mirrors capacity (key :: asked) (c.request key render).2 := by
  obtain ⟨sameKeys, sameCapacity⟩ := c.request_of_quiet key quiet
  have bounded : c.keys.length ≤ c.capacity := by
    rw [mirrors.keys_eq, mirrors.capacity_eq]
    exact List.length_take_le _ _
  constructor
  · exact sameCapacity.trans mirrors.capacity_eq
  · have room : 0 < c.capacity := by
      rw [mirrors.capacity_eq]
      omega
    obtain ⟨n, isSucc⟩ : ∃ n, max capacity 1 = n + 1 := ⟨max capacity 1 - 1, by omega⟩
    rw [sameKeys, Cache.keys_reserve key room bounded, mirrors.keys_eq,
      mirrors.capacity_eq, eraseDups_cons_eq_filter, isSucc, List.take_succ_cons,
      List.take_succ_cons, take_filter_take_succ key (nodup_eraseDups asked)]

/-- One more action is mirrored by its request, if it makes one; emptying the cache
forgets all requests. -/
theorem Mirrors.run (mirrors : Mirrors capacity asked c) {action : CacheAction}
    (flat : action.isFlat = true) :
    Mirrors capacity
      (if action.isClear then [] else action.requested?.toList ++ asked)
      (run action c).2 := by
  cases action with
  | get key mask nested =>
      obtain rfl := List.isEmpty_iff.mp flat
      exact mirrors.request key fun d => rfl
  | getFailing key => exact mirrors.request key fun d => rfl
  | contains key => exact mirrors
  | clear =>
      refine ⟨mirrors.capacity_eq, ?_⟩
      rw [isClear, if_pos rfl, List.eraseDups_nil, List.take_nil]
      exact c.keys_clear
  | keyFor ref size => exact mirrors

theorem runAll_concat (actions : List CacheAction) (action : CacheAction) (c : Cache) :
    (runAll (actions ++ [action]) c).2 = (run action (runAll actions c).2).2 := by
  induction actions generalizing c with
  | nil => rfl
  | cons first rest inductionHypothesis =>
      rw [List.cons_append, runAll, runAll]
      exact inductionHypothesis _

theorem requests_concat (actions : List CacheAction) (action : CacheAction) :
    requests (actions ++ [action]) =
      if action.isClear then []
      else action.requested?.toList ++ requests actions := by
  unfold requests
  rw [List.reverse_append, List.reverse_singleton, List.singleton_append,
    List.takeWhile_cons]
  cases cleared : action.isClear with
  | true => rfl
  | false =>
      rw [Bool.not_false, if_pos rfl, if_neg Bool.false_ne_true, List.filterMap_cons]
      cases action.requested? <;> rfl

/-- Every script whose renders leave the cache alone is mirrored by its requests. -/
theorem mirrors_runAll (capacity : Nat) {actions : List CacheAction}
    (flat : ∀ action ∈ actions, action.isFlat = true) :
    Mirrors capacity (requests actions)
      (runAll actions (Cache.create capacity)).2 := by
  induction actions using List.reverseRecOn with
  | nil => exact mirrors_create capacity
  | append_singleton actions action inductionHypothesis =>
      have before := inductionHypothesis fun other member =>
        flat other (List.mem_append_left _ member)
      rw [runAll_concat, requests_concat]
      exact before.run (flat action (by simp))

/-- Take a new cache of any capacity and any script on it whose renders leave the
cache alone.  The cached keys, from the most to the least recently used one, are then
the first distinct keys of the requests since the cache was last emptied, read from
the latest one backwards, as many as the cache has room for; and the cache contains
precisely these keys. -/
theorem keys_are_latest_requests (capacity : Nat) (actions : List CacheAction)
    (flat : ∀ action ∈ actions, action.isFlat = true) :
    (runAll actions (Cache.create capacity)).2.keys =
      (requests actions).eraseDups.take (max capacity 1) ∧
    ∀ key, (runAll actions (Cache.create capacity)).2.contains key =
      decide (key ∈ (requests actions).eraseDups.take (max capacity 1)) := by
  have mirrors := mirrors_runAll capacity flat
  refine ⟨mirrors.keys_eq, fun key => ?_⟩
  rw [Cache.contains_eq_decide, mirrors.keys_eq]

/-- In a cache for two keys, the render of the second of three keys fails; its key is
dropped while still in flight, comes back, and drops another. -/
def droppedAndBack : List CacheAction :=
  [.get ⟨1, 9, 16⟩ Mask.empty [], .clear, .get ⟨1, 1, 16⟩ Mask.empty [],
    .getFailing ⟨1, 2, 16⟩, .get ⟨1, 1, 16⟩ Mask.empty [],
    .get ⟨1, 3, 16⟩ Mask.empty [], .contains ⟨1, 1, 16⟩,
    .get ⟨1, 2, 16⟩ Mask.empty []]

theorem keys_are_latest_requests_droppedAndBack :
    (∀ action ∈ droppedAndBack, action.isFlat = true) ∧
    (runAll droppedAndBack (Cache.create 2)).2.keys = [⟨1, 2, 16⟩, ⟨1, 3, 16⟩] ∧
    (runAll droppedAndBack (Cache.create 2)).2.contains ⟨1, 1, 16⟩ = false := by
  have flat : ∀ action ∈ droppedAndBack, action.isFlat = true := by
    simp [droppedAndBack, isFlat]
  obtain ⟨keys, contains⟩ := keys_are_latest_requests 2 droppedAndBack flat
  exact ⟨flat, keys.trans (by decide), (contains _).trans (by decide)⟩

end CacheAction

end Inkwell
