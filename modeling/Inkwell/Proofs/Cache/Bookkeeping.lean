import Inkwell.Proofs.Cache.Activity
import Inkwell.Proofs.Cache.Recency

/-!
# The books of a cache in use

A request touches the table of cached keys and the table of renders in flight at
different moments, and between them its render may change both.  Still, at every
moment the cache holds no more keys than it has room for, and the keys in flight are
those that somebody still has to render: their render is under way, or the latest one
failed.

What a move can do is said once, by `Takes`; the invariants go through its cases.
-/

namespace Inkwell

/-! ## Room and keys in flight -/

namespace Cache

variable {c : Cache} {key : CacheKey} {slot : Slot} {mask : Mask}

theorem size_eq_length_keys (c : Cache) : c.size = c.keys.length :=
  (List.length_map _).symm

theorem contains_eq_false_iff (c : Cache) (key : CacheKey) :
    c.contains key = false ↔ key ∉ c.keys := by
  rw [contains_eq_decide, decide_eq_false_iff_not]

/-- The cache has room, and holds no more keys than it has room for. -/
structure Bounded (c : Cache) : Prop where
  room : 0 < c.capacity
  size_le : c.size ≤ c.capacity

theorem bounded_create (capacity : Nat) : (create capacity).Bounded where
  room := Nat.lt_of_lt_of_le Nat.zero_lt_one (Nat.le_max_right _ _)
  size_le := Nat.zero_le _

/-- The keys after a render is complete: a key that was dropped meanwhile is put in
front again. -/
theorem keys_complete (bounded : c.Bounded) (key : CacheKey) (slot : Slot)
    (mask : Mask) :
    (c.complete key slot mask).keys =
      if c.contains key then c.keys else (key :: c.keys).take c.capacity := by
  rw [complete_eq_fill]
  by_cases cached : c.contains key = true
  · rw [if_pos cached, if_pos cached]
    rfl
  · rw [if_neg cached, if_neg cached]
    apply keys_push_of_absent slot _ bounded.room
    · rw [← size_eq_length_keys]
      exact bounded.size_le
    · rw [← contains_eq_false_iff]
      exact Bool.eq_false_iff.mpr cached

theorem capacity_complete (c : Cache) (key : CacheKey) (slot : Slot) (mask : Mask) :
    (c.complete key slot mask).capacity = c.capacity := by
  rw [complete_eq_fill]
  split
  · rfl
  · exact c.capacity_push key slot

theorem Bounded.reserve (bounded : c.Bounded) (key : CacheKey) :
    (c.reserve key).2.Bounded := by
  have sameCapacity := c.capacity_reserve key
  constructor
  · rw [sameCapacity]
    exact bounded.room
  · rw [sameCapacity, size_eq_length_keys,
      keys_reserve key bounded.room (c.size_eq_length_keys ▸ bounded.size_le)]
    exact List.length_take_le _ _

theorem Bounded.complete (bounded : c.Bounded) (key : CacheKey) (slot : Slot)
    (mask : Mask) : (c.complete key slot mask).Bounded := by
  have sameCapacity := c.capacity_complete key slot mask
  constructor
  · rw [sameCapacity]
    exact bounded.room
  · rw [sameCapacity, size_eq_length_keys, keys_complete bounded]
    split
    · rw [← size_eq_length_keys]
      exact bounded.size_le
    · exact List.length_take_le _ _

/-- The keys whose render has not finished. -/
def flying (c : Cache) : List CacheKey := c.inFlight.map Prod.fst

theorem inFlight_push (c : Cache) (key : CacheKey) (slot : Slot) :
    (c.push key slot).inFlight = c.inFlight := by
  unfold push
  split
  · rfl
  · split <;> rfl

/-- Reserving a slot puts its key in flight unless it has a slot already. -/
theorem mem_flying_reserve {other : CacheKey} :
    other ∈ (c.reserve key).2.flying ↔
      other ∈ c.flying ∨ (other = key ∧ c.contains key = false) := by
  unfold reserve
  split
  · rename_i slot found
    have cached : c.contains key = true :=
      (c.contains_eq_true_iff key).mpr (mem_keys_of_lookup_eq_some found)
    simp [flying, cached]
  · rename_i missing
    have absent : c.contains key = false :=
      (c.contains_eq_false_iff key).mpr (notMem_keys_of_lookup_eq_none missing)
    simp only [flying, inFlight_push, absent, and_true]
    unfold openSlot
    split
    · rename_i slot found
      have member := mem_keys_of_lookup_eq_some found
      constructor
      · exact Or.inl
      · rintro (inFlight | rfl)
        · exact inFlight
        · exact member
    · rw [List.map_cons, List.mem_cons]
      exact Or.comm

/-- Completing a render takes its key out of flight. -/
theorem mem_flying_complete {other : CacheKey} :
    other ∈ (c.complete key slot mask).flying ↔ other ∈ c.flying ∧ other ≠ key := by
  have sameFlight : (if c.contains key then c else c.push key slot).inFlight =
      c.inFlight := by
    split
    · rfl
    · exact c.inFlight_push key slot
  rw [complete_eq_fill, flying, fill, sameFlight, flying, List.mem_map, List.mem_map]
  constructor
  · rintro ⟨entry, member, rfl⟩
    rw [List.mem_filter, bne_iff_ne] at member
    exact ⟨⟨entry, member.1, rfl⟩, member.2⟩
  · rintro ⟨⟨entry, member, rfl⟩, different⟩
    exact ⟨entry, List.mem_filter.mpr ⟨member, bne_iff_ne.mpr different⟩, rfl⟩

end Cache

/-! ## Abandoned keys and runs -/

/-- Whether the event is a failure, if it is the end of a render of the key. -/
def CacheEvent.failureOf? (event : CacheEvent) (key : CacheKey) : Option Bool :=
  match event with
  | .rendered other _ => if other = key then some false else none
  | .failed other => if other = key then some true else none
  | _ => none

namespace Activity

/-- The latest render of the key to end failed. -/
def isAbandoned (a : Activity) (key : CacheKey) : Bool :=
  a.log.findSome? (·.1.failureOf? key) == some true

variable {a b : Activity} {move : CacheMove} {moves : List CacheMove} {capacity : Nat}

/-- Whatever holds of a new cache and is kept by every move holds of every use of the
cache. -/
theorem holds_of_run (Holds : List CacheMove → Activity → Prop)
    (atStart : Holds [] (start capacity))
    (kept : ∀ {moves a move b}, Holds moves a → a.Sound → a.Takes move b →
      Holds (moves ++ [move]) b)
    (reached : (start capacity).run moves = some a) : Holds moves a := by
  induction moves using List.reverseRecOn generalizing a with
  | nil =>
      cases reached
      exact atStart
  | append_singleton moves move inductionHypothesis =>
      rw [run_append] at reached
      obtain ⟨before, ran, moved⟩ := Option.bind_eq_some_iff.mp reached
      obtain ⟨after, stepped, stopped⟩ := Option.bind_eq_some_iff.mp moved
      cases stopped
      have sound := (sound_start capacity).run ran
      exact kept (inductionHypothesis ran) sound (sound.takes stepped)

/-! ## The books -/

theorem isRendering_eq_true_iff {key : CacheKey} :
    a.isRendering key = true ↔ key ∈ a.stack.map Prod.fst := by
  rw [isRendering, List.contains_iff_mem]

theorem isAbandoned_after {event : CacheEvent} {cache : Cache}
    {stack : List (CacheKey × Slot)} {key : CacheKey} :
    (a.after event cache stack).isAbandoned key =
      (event.failureOf? key).getD (a.isAbandoned key) := by
  simp only [isAbandoned, after, List.findSome?_cons]
  cases event.failureOf? key with
  | none => rfl
  | some failed => cases failed <;> rfl

/-- The books agree with what has happened: the cached keys are within bounds, and a
key is in flight when its render is under way or was abandoned, and only then. -/
structure Kept (capacity : Nat) (a : Activity) : Prop where
  capacity_eq : a.cache.capacity = max capacity 1
  bounded : a.cache.Bounded
  flying_iff : ∀ key, key ∈ a.cache.flying ↔
    a.isRendering key = true ∨ a.isAbandoned key = true

theorem kept_start (capacity : Nat) : (start capacity).Kept capacity where
  capacity_eq := rfl
  bounded := Cache.bounded_create capacity
  flying_iff key := by
    constructor
    · intro inFlight
      cases inFlight
    · rintro (rendering | abandoned)
      · cases rendering
      · cases abandoned

theorem Kept.mem_flying_iff (kept : a.Kept capacity) {key : CacheKey} :
    key ∈ a.cache.flying ↔ key ∈ a.stack.map Prod.fst ∨ a.isAbandoned key = true := by
  rw [kept.flying_iff, isRendering_eq_true_iff]

/-- The books stay in order when the keys in flight change with the stack and the
event. -/
theorem Kept.after (kept : a.Kept capacity) {event : CacheEvent} {cache : Cache}
    {stack : List (CacheKey × Slot)} (sameCapacity : cache.capacity = a.cache.capacity)
    (bounded : cache.Bounded)
    (flying : ∀ key, key ∈ cache.flying ↔ key ∈ stack.map Prod.fst ∨
      (event.failureOf? key).getD (a.isAbandoned key) = true) :
    (a.after event cache stack).Kept capacity where
  capacity_eq := sameCapacity.trans kept.capacity_eq
  bounded := bounded
  flying_iff key := by
    rw [isRendering_eq_true_iff, isAbandoned_after]
    exact flying key

/-- Every move keeps the books. -/
theorem Kept.takes (kept : a.Kept capacity) (sound : a.Sound) (taken : a.Takes move b) :
    b.Kept capacity := by
  cases taken with
  | @answered key mask free ready =>
      obtain ⟨room, size_le⟩ := kept.bounded.reserve key
      refine kept.after (Cache.capacity_reserve _ key) ⟨room, size_le⟩ fun other => ?_
      -- A key with a mask ready is cached, so it is not put in flight again.
      have cached := Cache.contains_of_finished?_eq_some ready
      have sameFlight : other ∈ (a.cache.reserve key).2.flying ↔ other ∈ a.cache.flying :=
        Cache.mem_flying_reserve.trans (by simp [cached])
      exact sameFlight.trans kept.mem_flying_iff
  | @began key free notReady =>
      apply kept.after (Cache.capacity_reserve _ _) (kept.bounded.reserve key)
      intro other
      have inFlight : key ∈ (a.cache.reserve key).2.flying :=
        List.mem_map_of_mem (sound.cache.reserve_mem_inFlight notReady)
      rw [List.map_cons, List.mem_cons, or_assoc]
      change _ ↔ other = key ∨ (_ ∨ a.isAbandoned other = true)
      rw [← kept.mem_flying_iff]
      by_cases same : other = key
      · subst other
        simp [inFlight]
      · rw [Cache.mem_flying_reserve]
        simp [same]
  | @rendered key slot rest mask top =>
      apply kept.after (Cache.capacity_complete _ _ _ _)
        (kept.bounded.complete key slot mask)
      intro other
      have nodup := sound.stack_nodup
      rw [top, List.map_cons, List.nodup_cons] at nodup
      rw [Cache.mem_flying_complete, kept.mem_flying_iff, top, List.map_cons,
        List.mem_cons, CacheEvent.failureOf?]
      by_cases same : key = other
      · subst other
        simp [nodup.1]
      · simp [same, Ne.symm same]
  | @failed key slot rest top =>
      apply kept.after rfl kept.bounded
      intro other
      rw [kept.mem_flying_iff, top, List.map_cons, List.mem_cons, CacheEvent.failureOf?]
      by_cases same : key = other
      · subst other
        simp
      · simp [same, Ne.symm same]
  | looked key => exact kept.after rfl kept.bounded fun _ => kept.mem_flying_iff
  | cleared =>
      exact kept.after rfl ⟨kept.bounded.room, Nat.zero_le _⟩ fun _ => kept.mem_flying_iff

theorem kept_of_run (reached : (start capacity).run moves = some a) : a.Kept capacity :=
  holds_of_run (fun _ => Kept capacity) (kept_start capacity)
    (fun kept sound taken => kept.takes sound taken) reached

/-- Where no render fails, no key is abandoned. -/
theorem isAbandoned_eq_false_of_run (reached : (start capacity).run moves = some a)
    (noFailure : .fail ∉ moves) (key : CacheKey) : a.isAbandoned key = false := by
  refine holds_of_run (fun moves a => .fail ∉ moves → a.isAbandoned key = false)
    (fun _ => rfl) ?_ reached noFailure
  intro moves a move b before _ taken noFailure
  rw [List.mem_append, List.mem_singleton, not_or] at noFailure
  have earlier := before noFailure.1
  cases taken with
  | rendered mask top =>
      rw [isAbandoned_after, CacheEvent.failureOf?]
      split
      · rfl
      · exact earlier
  | failed top => exact absurd rfl noFailure.2
  | began free notReady =>
      rw [enter, isAbandoned_after]
      exact earlier
  | _ =>
      rw [isAbandoned_after]
      exact earlier

/-- A whole request, with all that its render does, is a use of the cache that ends
with the same renders under way. -/
def TakesRequests (a : Activity) : Prop :=
  ∀ {α : Type} (key : CacheKey) (render : Cache → Checked (Mask × α) × Cache),
    a.isRendering key = false →
    (a.cache.finished? key = none → a.Nests key render) →
    ∃ moves last, a.run moves = some last ∧ last.stack = a.stack ∧
      last.cache = (a.cache.request key render).2

/-- Take any well-nested use of a new cache.  At its end, which is any moment of a
longer use, the cache holds no more keys than it has room for, each once; the keys in
flight, each once, are those whose render is under way and those whose latest render
failed, and their slots are not filled; and every cached key whose slot is not filled
is in flight with that slot.  So after a use without failures, when no render is under
way any more, nothing is in flight.  Whole requests are uses of the cache too. -/
theorem books_are_kept (capacity : Nat) (moves : List CacheMove)
    (reached : (start capacity).run moves = some a) :
    (a.cache.capacity = max capacity 1 ∧ a.cache.size ≤ a.cache.capacity) ∧
    a.cache.keys.Nodup ∧
    (a.cache.flying.Nodup ∧ ∀ key, key ∈ a.cache.flying ↔
      a.isRendering key = true ∨ a.isAbandoned key = true) ∧
    (∀ key slot, (key, slot) ∈ a.cache.inFlight → a.cache.slots[slot]? = some none) ∧
    (∀ key slot, (key, slot) ∈ a.cache.recent → a.cache.filled? slot = none →
      (key, slot) ∈ a.cache.inFlight) ∧
    (.fail ∉ moves → a.stack = [] → a.cache.inFlight = []) ∧
    a.TakesRequests := by
  have sound := (sound_start capacity).run reached
  have kept := kept_of_run reached
  refine ⟨⟨kept.capacity_eq, kept.bounded.size_le⟩, sound.cache.recent_nodup,
    ⟨sound.cache.inFlight_nodup, kept.flying_iff⟩, ?_, ?_, ?_, ?_⟩
  · intro key slot member
    have slotExists := sound.cache.slot_lt (List.mem_append_right _ member)
    have unfilled := sound.cache.open_of_inFlight member
    rw [Cache.filled?, Array.getElem?_eq_getElem slotExists, Option.getD_some] at unfilled
    rw [Array.getElem?_eq_getElem slotExists, unfilled]
  · intro key slot cached unfilled
    exact sound.cache.inFlight_of_open cached unfilled
  · intro noFailure idle
    apply List.map_eq_nil_iff.mp
    apply List.eq_nil_iff_forall_not_mem.mpr
    intro key inFlight
    rcases (kept.flying_iff key).mp inFlight with rendering | abandoned
    · rw [isRendering_eq_true_iff, idle] at rendering
      cases rendering
    · rw [isAbandoned_eq_false_of_run reached noFailure] at abandoned
      cases abandoned
  · intro α key render free nests
    exact sound.run_request free nests

/-- In the render of a first key, that of a second one fails, a third one drops them
both, and the cache is emptied. -/
def abandonInside : List CacheMove :=
  [.request ⟨1, 7, 16⟩, .request ⟨1, 8, 16⟩, .fail, .request ⟨1, 9, 16⟩,
    .finish Mask.empty, .clear]

/-- In the render of a first key, that of a second one empties the cache; the first is
cached again after it was dropped. -/
def clearInside : List CacheMove :=
  [.request ⟨1, 7, 16⟩, .request ⟨1, 8, 16⟩, .clear, .finish Mask.empty,
    .finish Mask.empty]

theorem books_are_kept_nested :
    (∃ a : Activity, (start 1).run abandonInside = some a ∧
      a.isRendering ⟨1, 8, 16⟩ = false ∧ a.cache.contains ⟨1, 8, 16⟩ = false ∧
      ⟨1, 8, 16⟩ ∈ a.cache.flying) ∧
    ∃ a : Activity, (start 1).run clearInside = some a ∧ .fail ∉ clearInside ∧
      a.stack = [] ∧ a.cache.size ≤ 1 ∧ a.cache.inFlight = [] := by
  constructor
  · refine ⟨_, rfl, rfl, rfl, ?_⟩
    exact ((books_are_kept 1 abandonInside rfl).2.2.1.2 _).mpr (.inr rfl)
  · have noFailure : .fail ∉ clearInside := by simp [clearInside]
    obtain ⟨⟨_, size_le⟩, _, _, _, _, landed, _⟩ := books_are_kept 1 clearInside rfl
    exact ⟨_, rfl, noFailure, rfl, size_le, landed noFailure rfl⟩

end Activity

end Inkwell
