import Inkwell.Glyph.Mask
import Inkwell.Glyph.Ref

/-!
# The glyph cache

The cache keeps the masks of the glyphs that were asked for last.  A key is
given a slot when it is first asked for, and the slot is filled when the glyph
has been rendered.  Rendering may itself use the cache, so the slot of a glyph
that is being rendered is also kept *in flight*: even when its key is pushed
out meanwhile, the finished mask finds its way back.

`recent` lists the cached keys from the most to the least recently used one.
-/

namespace Inkwell

/-- What a mask is cached under. -/
structure CacheKey where
  /-- The key of the source. -/
  source : UInt32
  glyph : UInt32
  size : UInt16
  deriving DecidableEq

namespace CacheKey

/-- The glyph id of the missing box, which no glyph of a source has. -/
def missingGlyph : UInt32 := 4294967295

/-- The key of a reference at a size. -/
def ofRef (ref : GlyphRef) (size : UInt16) : CacheKey where
  source := ref.key
  glyph := if ref.isMissing then missingGlyph else ref.glyph.toUInt32
  size := size

end CacheKey

/-- The number of a slot. -/
abbrev Slot := Nat

/-- How often the cache did what. -/
structure CacheStats where
  /-- Requests answered without rendering. -/
  hits : Nat
  /-- Renders that finished. -/
  rasterizations : Nat
  /-- Entries dropped to make room. -/
  evictions : Nat
  deriving DecidableEq

/-- A bounded store of masks. -/
structure Cache where
  capacity : Nat
  /-- The cached keys, most recently used first. -/
  recent : List (CacheKey × Slot)
  /-- The keys whose first render has not finished. -/
  inFlight : List (CacheKey × Slot)
  /-- What each slot holds: a mask once its glyph has been rendered. -/
  slots : Array (Option Mask)
  stats : CacheStats

namespace Cache

/-- The number of entries of a cache that nobody gave a capacity. -/
def defaultCapacity : Nat := 2048

/-- An empty cache; a capacity of zero counts as one. -/
def create (capacity : Nat) : Cache where
  capacity := max capacity 1
  recent := []
  inFlight := []
  slots := #[]
  stats := ⟨0, 0, 0⟩

/-- The number of cached keys. -/
def size (c : Cache) : Nat := c.recent.length

/-- The key is cached. -/
def contains (c : Cache) (key : CacheKey) : Bool :=
  c.recent.any (·.1 == key)

/-- Drop every cached key.  Renders in flight and the counters stay. -/
def clear (c : Cache) : Cache := { c with recent := [] }

/-- Bring a key and its slot to the front. -/
def promote (recent : List (CacheKey × Slot)) (key : CacheKey) (slot : Slot) :
    List (CacheKey × Slot) :=
  (key, slot) :: recent.filter (·.1 != key)

/-- Cache a key in front.  A full cache drops the key that was used least
recently, and counts that. -/
def push (c : Cache) (key : CacheKey) (slot : Slot) : Cache :=
  if c.contains key then
    { c with recent := promote c.recent key slot }
  else if c.recent.length < c.capacity then
    { c with recent := (key, slot) :: c.recent }
  else
    { c with
      recent := (key, slot) :: c.recent.dropLast
      stats := { c.stats with evictions := c.stats.evictions + 1 } }

/-- The slot of a key that is not cached: the one in flight, or a new one. -/
def openSlot (c : Cache) (key : CacheKey) : Slot × Cache :=
  match c.inFlight.lookup key with
  | some slot => (slot, c)
  | none =>
      (c.slots.size,
        { c with
          inFlight := (key, c.slots.size) :: c.inFlight
          slots := c.slots.push none })

/-- The slot for a request: that of a cached key, which becomes the most recent
one, or that of a key that is cached now. -/
def reserve (c : Cache) (key : CacheKey) : Slot × Cache :=
  match c.recent.lookup key with
  | some slot => (slot, { c with recent := promote c.recent key slot })
  | none =>
      let opened := c.openSlot key
      (opened.1, opened.2.push key opened.1)

/-- The mask in a slot. -/
def filled? (c : Cache) (slot : Slot) : Option Mask :=
  c.slots[slot]?.getD none

/-- Count a request that was answered without rendering. -/
def countHit (c : Cache) : Cache :=
  { c with stats := { c.stats with hits := c.stats.hits + 1 } }

/-- Fill the slot of a key that has been rendered.  A key that was dropped
meanwhile is cached again. -/
def complete (c : Cache) (key : CacheKey) (slot : Slot) (mask : Mask) : Cache :=
  let done : Cache :=
    { c with
      inFlight := c.inFlight.filter (·.1 != key)
      slots := c.slots.setIfInBounds slot (some mask)
      stats :=
        { c.stats with rasterizations := c.stats.rasterizations + 1 } }
  if done.contains key then done else done.push key slot

/-- The mask of a key, rendered unless it is there already.  Rendering may use
the cache and may report something besides the mask; the report is missing when
nothing was rendered.  A render that fails leaves its slot open and in
flight. -/
def request {α : Type} (c : Cache) (key : CacheKey)
    (render : Cache → Checked (Mask × α) × Cache) :
    Checked (Mask × Option α) × Cache :=
  let reserved := c.reserve key
  match reserved.2.filled? reserved.1 with
  | some mask => (.ok (mask, none), reserved.2.countHit)
  | none =>
      match render reserved.2 with
      | (.error fault, after) => (.error fault, after)
      | (.ok (mask, report), after) =>
          (.ok (mask, some report), after.complete key reserved.1 mask)

end Cache

end Inkwell
