import Inkwell.Cache

/-!
# Sound caches

A cache is sound when its two tables agree on their slots: a key has at most one
slot, a slot belongs to one key, the slots in flight are the unfilled ones, and
whatever fills the slot of a cached key is right for that key.  What counts as
right is a parameter, so that the same lemmas serve a cache that is used by
renderers and one whose renders may produce anything.

The lemmas here say what each part of a request does to a sound cache: opening
a slot, bringing a key to the front, and filling the slot once its glyph has
been rendered.
-/

namespace Inkwell

namespace Cache

/-! ## Looking up keys -/

/-- In a table without repeated keys, looking up a key finds its only entry. -/
theorem lookup_eq_some_iff_mem {table : List (CacheKey × Slot)}
    (nodup : (table.map Prod.fst).Nodup) {key : CacheKey} {slot : Slot} :
    table.lookup key = some slot ↔ (key, slot) ∈ table := by
  induction table with
  | nil => simp
  | cons entry rest inductionHypothesis =>
      rcases entry with ⟨headKey, headSlot⟩
      simp only [List.map_cons, List.nodup_cons] at nodup
      by_cases same : key = headKey
      · subst headKey
        have absent : (key, slot) ∉ rest := fun member =>
          nodup.1 (List.mem_map_of_mem member)
        simp [absent, eq_comm]
      · rw [List.lookup_cons, beq_false_of_ne same]
        simp [inductionHypothesis nodup.2, same]

/-- A key that is not found has no entry. -/
theorem notMem_keys_of_lookup_eq_none {table : List (CacheKey × Slot)}
    {key : CacheKey} (missing : table.lookup key = none) :
    key ∉ table.map Prod.fst := by
  intro member
  obtain ⟨entry, entryMem, rfl⟩ := List.mem_map.mp member
  exact absurd (List.lookup_eq_none_iff.mp missing entry entryMem) (by simp)

/-- A key that is found has an entry. -/
theorem mem_keys_of_lookup_eq_some {table : List (CacheKey × Slot)}
    {key : CacheKey} {slot : Slot} (found : table.lookup key = some slot) :
    key ∈ table.map Prod.fst := by
  obtain ⟨before, after, split, _⟩ := List.lookup_eq_some_iff.mp found
  simp [split]

/-- Two entries of one key in a table without repeated keys are the same. -/
theorem slot_unique {table : List (CacheKey × Slot)}
    (nodup : (table.map Prod.fst).Nodup) {key : CacheKey} {first second : Slot}
    (firstMem : (key, first) ∈ table) (secondMem : (key, second) ∈ table) :
    first = second := by
  rw [← lookup_eq_some_iff_mem nodup] at firstMem secondMem
  exact Option.some.inj (firstMem.symm.trans secondMem)

theorem contains_eq_true_iff (c : Cache) (key : CacheKey) :
    c.contains key = true ↔ key ∈ c.recent.map Prod.fst := by
  simp only [contains, List.any_eq_true, beq_iff_eq, List.mem_map]

/-- The mask that a cached key has ready: the one in its slot. -/
def finished? (c : Cache) (key : CacheKey) : Option Mask :=
  (c.recent.lookup key).bind c.filled?

/-- A key with a mask ready is cached. -/
theorem contains_of_finished?_eq_some {c : Cache} {key : CacheKey} {mask : Mask}
    (ready : c.finished? key = some mask) : c.contains key = true := by
  obtain ⟨slot, found, _⟩ := Option.bind_eq_some_iff.mp ready
  exact (c.contains_eq_true_iff key).mpr (mem_keys_of_lookup_eq_some found)

/-! ## The invariant -/

/-- The entries of both tables. -/
def entries (c : Cache) : List (CacheKey × Slot) := c.recent ++ c.inFlight

/-- The two tables agree, and every mask that a cached key has ready is right
for it. -/
structure Sound (Right : CacheKey → Mask → Prop) (c : Cache) : Prop where
  recent_nodup : (c.recent.map Prod.fst).Nodup
  inFlight_nodup : (c.inFlight.map Prod.fst).Nodup
  /-- Every slot in use exists. -/
  slot_lt : ∀ {key slot}, (key, slot) ∈ c.entries → slot < c.slots.size
  /-- A slot belongs to one key. -/
  owner : ∀ {first second slot}, (first, slot) ∈ c.entries →
    (second, slot) ∈ c.entries → first = second
  /-- A cached key that is in flight has one slot for both. -/
  slot_eq : ∀ {key cached flying}, (key, cached) ∈ c.recent →
    (key, flying) ∈ c.inFlight → cached = flying
  /-- No slot in flight is filled. -/
  open_of_inFlight : ∀ {key slot}, (key, slot) ∈ c.inFlight →
    c.filled? slot = none
  /-- A cached key whose slot is not filled is in flight. -/
  inFlight_of_open : ∀ {key slot}, (key, slot) ∈ c.recent →
    c.filled? slot = none → (key, slot) ∈ c.inFlight
  /-- What a cached key has ready is right. -/
  right : ∀ {key slot mask}, (key, slot) ∈ c.recent →
    c.filled? slot = some mask → Right key mask

/-- A new cache is sound. -/
theorem sound_create (Right : CacheKey → Mask → Prop) (capacity : Nat) :
    Sound Right (create capacity) := by
  constructor <;> simp [create, entries]

section Steps

variable {Right : CacheKey → Mask → Prop} {c : Cache} {key : CacheKey} {slot : Slot}

/-- In a sound cache, a key has a mask ready precisely when its slot is
filled. -/
theorem Sound.finished?_eq (sound : Sound Right c)
    (member : (key, slot) ∈ c.recent) : c.finished? key = c.filled? slot := by
  rw [finished?, (lookup_eq_some_iff_mem sound.recent_nodup).mpr member]
  rfl

/-- Being right may be weakened. -/
theorem Sound.mono {Weaker : CacheKey → Mask → Prop} (sound : Sound Right c)
    (weaken : ∀ key mask, Right key mask → Weaker key mask) :
    Sound Weaker c :=
  { sound with right := fun member filled => weaken _ _ (sound.right member filled) }

/-- Counting a hit keeps a cache sound. -/
theorem Sound.countHit (sound : Sound Right c) : Sound Right c.countHit :=
  { sound with }

/-- Clearing keeps a cache sound: what is in flight stays. -/
theorem Sound.clear (sound : Sound Right c) : Sound Right c.clear where
  recent_nodup := List.nodup_nil
  inFlight_nodup := sound.inFlight_nodup
  slot_lt member := sound.slot_lt (List.mem_append_right _ member)
  owner first second :=
    sound.owner (List.mem_append_right _ first) (List.mem_append_right _ second)
  slot_eq member := absurd member List.not_mem_nil
  open_of_inFlight := sound.open_of_inFlight
  inFlight_of_open member := absurd member List.not_mem_nil
  right member := absurd member List.not_mem_nil

/-! ## Bringing a key to the front -/

/-- Putting a key with its slot in front of some of the cached keys keeps a
cache sound, when the key has that slot already. -/
theorem Sound.front (sound : Sound Right c) {kept : List (CacheKey × Slot)}
    {stats : CacheStats} (sublist : kept.Sublist c.recent)
    (absent : key ∉ kept.map Prod.fst) (member : (key, slot) ∈ c.entries) :
    Sound Right { c with recent := (key, slot) :: kept, stats := stats } := by
  have known : ∀ {entry}, entry ∈ ((key, slot) :: kept) ++ c.inFlight →
      entry ∈ c.entries := by
    intro entry found
    rcases List.mem_append.mp found with inFront | inFlight
    · rcases List.mem_cons.mp inFront with rfl | old
      · exact member
      · exact List.mem_append_left _ (sublist.subset old)
    · exact List.mem_append_right _ inFlight
  constructor
  case recent_nodup =>
    exact List.nodup_cons.mpr
      ⟨absent, (sublist.map Prod.fst).nodup sound.recent_nodup⟩
  case inFlight_nodup => exact sound.inFlight_nodup
  case slot_lt =>
    intro other used found
    exact sound.slot_lt (known found)
  case owner =>
    intro first second used firstMem secondMem
    exact sound.owner (known firstMem) (known secondMem)
  case slot_eq =>
    intro other cached flying found inFlight
    rcases List.mem_cons.mp found with equal | old
    · cases equal
      rcases List.mem_append.mp member with wasRecent | wasInFlight
      · exact sound.slot_eq wasRecent inFlight
      · exact slot_unique sound.inFlight_nodup wasInFlight inFlight
    · exact sound.slot_eq (sublist.subset old) inFlight
  case open_of_inFlight => exact sound.open_of_inFlight
  case inFlight_of_open =>
    intro other cached found notFilled
    rcases List.mem_cons.mp found with equal | old
    · cases equal
      rcases List.mem_append.mp member with wasRecent | wasInFlight
      · exact sound.inFlight_of_open wasRecent notFilled
      · exact wasInFlight
    · exact sound.inFlight_of_open (sublist.subset old) notFilled
  case right =>
    intro other cached mask found filled
    rcases List.mem_cons.mp found with equal | old
    · cases equal
      rcases List.mem_append.mp member with wasRecent | wasInFlight
      · exact sound.right wasRecent filled
      · cases (sound.open_of_inFlight wasInFlight).symm.trans filled
    · exact sound.right (sublist.subset old) filled

/-- Promoting a cached key keeps a cache sound. -/
theorem Sound.promote (sound : Sound Right c) (member : (key, slot) ∈ c.recent) :
    Sound Right { c with recent := promote c.recent key slot } := by
  have absent : key ∉ (c.recent.filter (·.1 != key)).map Prod.fst := by
    intro found
    obtain ⟨entry, entryMem, rfl⟩ := List.mem_map.mp found
    simp [List.mem_filter] at entryMem
  exact sound.front List.filter_sublist absent (List.mem_append_left _ member)

/-- Pushing a key that is not cached puts it in front of some of the cached
keys and changes nothing else but the counters. -/
theorem push_eq_of_absent (slot : Slot) (absent : c.contains key = false) :
    ∃ kept stats, kept.Sublist c.recent ∧
      c.push key slot =
        { c with recent := (key, slot) :: kept, stats := stats } := by
  unfold push
  rw [if_neg (by simp [absent])]
  split
  · exact ⟨c.recent, c.stats, List.Sublist.refl _, rfl⟩
  · exact ⟨c.recent.dropLast, _, List.dropLast_sublist _, rfl⟩

/-- Caching a key in flight keeps a cache sound. -/
theorem Sound.push (sound : Sound Right c) (absent : c.contains key = false)
    (member : (key, slot) ∈ c.inFlight) : Sound Right (c.push key slot) := by
  obtain ⟨kept, stats, sublist, equal⟩ := push_eq_of_absent slot absent
  have notKept : key ∉ kept.map Prod.fst := fun found => by
    have cached := (c.contains_eq_true_iff key).mpr
      ((sublist.map Prod.fst).subset found)
    simp [absent] at cached
  rw [equal]
  exact sound.front sublist notKept (List.mem_append_right _ member)

/-! ## Opening a slot -/

/-- A slot that exists holds the same when one more slot is opened. -/
theorem filled?_push_none (slots : Array (Option Mask)) (slot : Slot) :
    ((slots.push none)[slot]?.getD none) = slots[slot]?.getD none := by
  rw [Array.getElem?_push]
  split
  · rename_i last
    simp [last]
  · rfl

/-- A new slot for a key that has none keeps a cache sound. -/
theorem Sound.addSlot (sound : Sound Right c)
    (notRecent : key ∉ c.recent.map Prod.fst)
    (notInFlight : key ∉ c.inFlight.map Prod.fst) :
    Sound Right
      { c with
        inFlight := (key, c.slots.size) :: c.inFlight
        slots := c.slots.push none } := by
  -- Every other entry is an old one, whose slot comes before the new one.
  have cases : ∀ {entry}, entry ∈ c.recent ++ (key, c.slots.size) :: c.inFlight →
      entry = (key, c.slots.size) ∨ entry ∈ c.entries := by
    intro entry found
    simp only [List.mem_append, List.mem_cons] at found
    rcases found with recent | equal | inFlight
    · exact .inr (List.mem_append_left _ recent)
    · exact .inl equal
    · exact .inr (List.mem_append_right _ inFlight)
  constructor
  case recent_nodup => exact sound.recent_nodup
  case inFlight_nodup => exact List.nodup_cons.mpr ⟨notInFlight, sound.inFlight_nodup⟩
  case slot_lt =>
    intro other slot found
    simp only [Array.size_push]
    rcases cases found with equal | old
    · cases equal
      exact Nat.lt_succ_self _
    · exact Nat.lt_succ_of_lt (sound.slot_lt old)
  case owner =>
    intro first second slot firstMem secondMem
    rcases cases firstMem with equal | old <;>
      rcases cases secondMem with equal' | old'
    · rw [(Prod.mk.inj equal).1, (Prod.mk.inj equal').1]
    · exact absurd (sound.slot_lt old') (by simp [(Prod.mk.inj equal).2])
    · exact absurd (sound.slot_lt old) (by simp [(Prod.mk.inj equal').2])
    · exact sound.owner old old'
  case slot_eq =>
    intro other cached flying recent inFlight
    rcases List.mem_cons.mp inFlight with equal | old
    · cases equal
      exact absurd (List.mem_map_of_mem recent) notRecent
    · exact sound.slot_eq recent old
  case open_of_inFlight =>
    intro other slot inFlight
    simp only [filled?, filled?_push_none]
    rcases List.mem_cons.mp inFlight with equal | old
    · cases equal
      simp
    · exact sound.open_of_inFlight old
  case inFlight_of_open =>
    intro other slot recent notFilled
    simp only [filled?, filled?_push_none] at notFilled
    exact List.mem_cons_of_mem _ (sound.inFlight_of_open recent notFilled)
  case right =>
    intro other slot mask recent filled
    simp only [filled?, filled?_push_none] at filled
    exact sound.right recent filled

/-- The slot opened for a key that is not cached is in flight, and opening it
keeps what was in flight. -/
theorem Sound.openSlot (sound : Sound Right c) (absent : c.contains key = false) :
    Sound Right (c.openSlot key).2 ∧
      (key, (c.openSlot key).1) ∈ (c.openSlot key).2.inFlight ∧
      c.inFlight ⊆ (c.openSlot key).2.inFlight ∧
      (c.openSlot key).2.recent = c.recent := by
  unfold Cache.openSlot
  split
  · rename_i slot found
    have member := (lookup_eq_some_iff_mem sound.inFlight_nodup).mp found
    exact ⟨sound, member, fun _ => id, rfl⟩
  · rename_i missing
    have notInFlight := notMem_keys_of_lookup_eq_none missing
    have notRecent : key ∉ c.recent.map Prod.fst := fun found => by
      have cached := (c.contains_eq_true_iff key).mpr found
      simp [absent] at cached
    exact ⟨sound.addSlot notRecent notInFlight, List.mem_cons_self,
      fun _ => List.mem_cons_of_mem _, rfl⟩

/-- Reserving a slot for a key caches the key with that slot, keeps what was in
flight, and the slot is filled precisely when the key had a mask ready. -/
theorem Sound.reserve (sound : Sound Right c) (key : CacheKey) :
    Sound Right (c.reserve key).2 ∧
      (key, (c.reserve key).1) ∈ (c.reserve key).2.recent ∧
      c.inFlight ⊆ (c.reserve key).2.inFlight ∧
      (c.reserve key).2.filled? (c.reserve key).1 = c.finished? key := by
  unfold Cache.reserve
  split
  · rename_i slot found
    have member := (lookup_eq_some_iff_mem sound.recent_nodup).mp found
    exact ⟨sound.promote member, List.mem_cons_self, fun _ => id,
      (sound.finished?_eq member).symm⟩
  · rename_i missing
    have absent : c.contains key = false := by
      rw [Bool.eq_false_iff, Ne, contains_eq_true_iff]
      exact notMem_keys_of_lookup_eq_none missing
    obtain ⟨openSound, inFlight, subset, sameRecent⟩ := sound.openSlot absent
    have stillAbsent : (c.openSlot key).2.contains key = false := by
      rw [contains, sameRecent]
      exact absent
    have pushed := openSound.push stillAbsent inFlight
    obtain ⟨kept, stats, _, equal⟩ :=
      push_eq_of_absent (c.openSlot key).1 stillAbsent
    refine ⟨pushed, ?_, ?_, ?_⟩
    · simp only [equal]
      exact List.mem_cons_self
    · simp only [equal]
      exact subset
    · have stillInFlight : (key, (c.openSlot key).1) ∈
          ((c.openSlot key).2.push key (c.openSlot key).1).inFlight := by
        rw [equal]
        exact inFlight
      rw [pushed.open_of_inFlight stillInFlight, finished?, missing]
      rfl

/-- A slot that was reserved and is not filled is in flight. -/
theorem Sound.reserve_mem_inFlight (sound : Sound Right c)
    (notReady : c.finished? key = none) :
    (key, (c.reserve key).1) ∈ (c.reserve key).2.inFlight := by
  obtain ⟨reserved, member, _, filled⟩ := sound.reserve key
  exact reserved.inFlight_of_open member (filled.trans notReady)

/-! ## Filling a slot -/

/-- The cache with the slot of a key filled. -/
def fill (c : Cache) (key : CacheKey) (slot : Slot) (mask : Mask) : Cache :=
  { c with
    inFlight := c.inFlight.filter (·.1 != key)
    slots := c.slots.setIfInBounds slot (some mask)
    stats := { c.stats with rasterizations := c.stats.rasterizations + 1 } }

/-- Completing a render caches the key if it was dropped meanwhile and fills its
slot; the two do not get in each other's way. -/
theorem complete_eq_fill (c : Cache) (key : CacheKey) (slot : Slot) (mask : Mask) :
    c.complete key slot mask =
      (if c.contains key then c else c.push key slot).fill key slot mask := by
  have sameKeys : ∀ done : Cache, done.recent = c.recent →
      done.contains key = c.contains key := by
    intro done equal
    rw [contains, equal, contains]
  unfold complete push
  simp only [sameKeys]
  by_cases cached : c.contains key = true
  · simp only [cached, if_true]
    rfl
  · simp only [Bool.not_eq_true] at cached
    simp only [cached, Bool.false_eq_true, if_false]
    split <;> rfl

theorem mem_inFlight_fill {mask : Mask} {entry : CacheKey × Slot} :
    entry ∈ (c.fill key slot mask).inFlight ↔
      entry ∈ c.inFlight ∧ entry.1 ≠ key := by
  simp only [fill, List.mem_filter, bne_iff_ne]

theorem filled?_fill {mask : Mask} (slotExists : slot < c.slots.size) (other : Slot) :
    (c.fill key slot mask).filled? other =
      if other = slot then some mask else c.filled? other := by
  simp only [filled?, fill, Array.getElem?_setIfInBounds]
  by_cases same : slot = other
  · subst other
    simp [slotExists]
  · simp [same, Ne.symm same]

/-- Filling a slot in flight with a mask that is right for its key keeps a cache
sound. -/
theorem Sound.fill {Right' : CacheKey → Mask → Prop} {mask : Mask}
    (sound : Sound Right c) (member : (key, slot) ∈ c.inFlight)
    (isRight : Right' key mask)
    (others : ∀ other mask, other ≠ key → Right other mask → Right' other mask) :
    Sound Right' (c.fill key slot mask) := by
  have slotExists := sound.slot_lt (List.mem_append_right _ member)
  have known : ∀ {entry}, entry ∈ (c.fill key slot mask).entries →
      entry ∈ c.entries := by
    intro entry found
    rcases List.mem_append.mp found with recent | inFlight
    · exact List.mem_append_left _ recent
    · exact List.mem_append_right _ (mem_inFlight_fill.mp inFlight).1
  -- The slot belongs to the key, so no other entry sees the change.
  have owner : ∀ {other}, (other, slot) ∈ c.entries → other = key := fun found =>
    sound.owner found (List.mem_append_right _ member)
  constructor
  case recent_nodup => exact sound.recent_nodup
  case inFlight_nodup =>
    exact (List.filter_sublist.map Prod.fst).nodup sound.inFlight_nodup
  case slot_lt =>
    intro other used found
    simpa [Cache.fill] using sound.slot_lt (known found)
  case owner =>
    intro first second used firstMem secondMem
    exact sound.owner (known firstMem) (known secondMem)
  case slot_eq =>
    intro other cached flying recent inFlight
    exact sound.slot_eq recent (mem_inFlight_fill.mp inFlight).1
  case open_of_inFlight =>
    intro other used inFlight
    obtain ⟨old, different⟩ := mem_inFlight_fill.mp inFlight
    have notSlot : used ≠ slot := fun equal =>
      different (owner (equal ▸ List.mem_append_right _ old))
    rw [filled?_fill slotExists, if_neg notSlot]
    exact sound.open_of_inFlight old
  case inFlight_of_open =>
    intro other used recent notFilled
    rw [filled?_fill slotExists] at notFilled
    split at notFilled
    · cases notFilled
    · rename_i notSlot
      have old := sound.inFlight_of_open recent notFilled
      apply mem_inFlight_fill.mpr
      constructor
      · exact old
      · rintro rfl
        exact notSlot (slot_unique sound.inFlight_nodup old member)
  case right =>
    intro other used found recent filled
    rw [filled?_fill slotExists] at filled
    split at filled
    · rename_i equal
      subst used
      cases filled
      rw [owner (List.mem_append_left _ recent)]
      exact isRight
    · rename_i notSlot
      have different : other ≠ key := by
        rintro rfl
        exact notSlot (sound.slot_eq recent member)
      exact others _ _ different (sound.right recent filled)

/-- Completing the render of a key in flight keeps a cache sound, makes the mask
ready under the key, and leaves the other keys in flight. -/
theorem Sound.complete {mask : Mask} (sound : Sound Right c)
    (Right' : CacheKey → Mask → Prop) (member : (key, slot) ∈ c.inFlight)
    (isRight : Right' key mask)
    (others : ∀ other mask, other ≠ key → Right other mask → Right' other mask) :
    Sound Right' (c.complete key slot mask) ∧
      (c.complete key slot mask).finished? key = some mask ∧
      ∀ entry ∈ c.inFlight, entry.1 ≠ key →
        entry ∈ (c.complete key slot mask).inFlight := by
  -- The cache that the slot is filled in has the key cached with that slot.
  obtain ⟨d, equal, soundD, recent, sameFlight⟩ : ∃ d : Cache,
      c.complete key slot mask = d.fill key slot mask ∧ Sound Right d ∧
        (key, slot) ∈ d.recent ∧ d.inFlight = c.inFlight := by
    refine ⟨_, complete_eq_fill c key slot mask, ?_⟩
    by_cases cached : c.contains key = true
    · rw [if_pos cached]
      obtain ⟨⟨_, used⟩, found, rfl⟩ :=
        List.mem_map.mp ((c.contains_eq_true_iff key).mp cached)
      have same : used = slot := sound.slot_eq found member
      exact ⟨sound, same ▸ found, rfl⟩
    · rw [if_neg cached]
      have absent := Bool.eq_false_iff.mpr cached
      obtain ⟨kept, stats, _, pushed⟩ := push_eq_of_absent slot absent
      refine ⟨sound.push absent member, ?_, ?_⟩
      · rw [pushed]
        exact List.mem_cons_self
      · rw [pushed]
  have memberD : (key, slot) ∈ d.inFlight := sameFlight ▸ member
  have filled := soundD.fill memberD isRight others
  rw [equal]
  refine ⟨filled, ?_, ?_⟩
  · rw [filled.finished?_eq recent,
      filled?_fill (soundD.slot_lt (List.mem_append_left _ recent)), if_pos rfl]
  · intro entry found different
    exact mem_inFlight_fill.mpr ⟨sameFlight ▸ found, different⟩

/-! ## Requests -/

/-- A request for a key that has a mask ready is answered with it and renders
nothing. -/
theorem Sound.request_of_ready {α : Type} (sound : Sound Right c) {mask : Mask}
    (ready : c.finished? key = some mask)
    (render : Cache → Checked (Mask × α) × Cache) :
    c.request key render = (.ok (mask, none), (c.reserve key).2.countHit) := by
  obtain ⟨_, _, _, filled⟩ := sound.reserve key
  simp only [request, filled, ready]

/-- Any other request renders, and what the render returns fills the slot that
was reserved before. -/
theorem Sound.request_of_not_ready {α : Type} (sound : Sound Right c)
    (notReady : c.finished? key = none)
    (render : Cache → Checked (Mask × α) × Cache) :
    c.request key render =
      match render (c.reserve key).2 with
      | (.error fault, after) => (.error fault, after)
      | (.ok (mask, report), after) =>
          (.ok (mask, some report), after.complete key (c.reserve key).1 mask) := by
  obtain ⟨_, _, _, filled⟩ := sound.reserve key
  rcases outcome : render (c.reserve key).2 with ⟨_ | ⟨mask, report⟩, after⟩ <;>
    simp only [request, filled, notReady, outcome]

end Steps

end Cache

end Inkwell
