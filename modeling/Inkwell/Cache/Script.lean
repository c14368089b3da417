import Inkwell.Cache

/-!
# Scripts of cache operations

A script is a tree of cache operations: a request carries the operations that
its render performs on the same cache before it returns its mask.  Running a
script reports, for each operation, its outcome and the state of the counters
when it ended.
-/

namespace Inkwell

/-- One operation on a cache. -/
inductive CacheAction where
  /-- Ask for a key.  Rendering first performs `nested` and then gives
  `mask`. -/
  | get (key : CacheKey) (mask : Mask) (nested : List CacheAction)
  /-- Ask for a key whose render fails. -/
  | getFailing (key : CacheKey)
  /-- Ask whether a key is cached. -/
  | contains (key : CacheKey)
  /-- Drop every cached key. -/
  | clear
  /-- Name the key of a reference at a size. -/
  | keyFor (ref : GlyphRef) (size : UInt16)

/-- What happened in an operation, and the counters after it. -/
inductive CacheReport where
  /-- A mask; with the reports of the nested operations if it was rendered. -/
  | got (mask : Mask) (nested : Option (List CacheReport))
      (stats : CacheStats) (size : Nat)
  /-- The request was abandoned. -/
  | failed (fault : Fault) (stats : CacheStats) (size : Nat)
  /-- Whether the key is cached. -/
  | contains (answer : Bool) (stats : CacheStats) (size : Nat)
  /-- The cache was emptied. -/
  | cleared (stats : CacheStats) (size : Nat)
  /-- The key of a reference. -/
  | keyFor (key : CacheKey) (stats : CacheStats) (size : Nat)

namespace CacheReport

/-- The report of a finished request. -/
def ofRequest (outcome : Checked (Mask × Option (List CacheReport)))
    (after : Cache) : CacheReport :=
  match outcome with
  | .ok (mask, nested) => .got mask nested after.stats after.size
  | .error fault => .failed fault after.stats after.size

end CacheReport

namespace CacheAction

mutual

/-- Perform an operation. -/
def run : CacheAction → Cache → CacheReport × Cache
  | .get key mask nested, c =>
      let result := c.request key fun c =>
        let inner := runAll nested c
        (.ok (mask, inner.1), inner.2)
      (CacheReport.ofRequest result.1 result.2, result.2)
  | .getFailing key, c =>
      let result := c.request key fun c => (.error .renderFailed, c)
      (CacheReport.ofRequest result.1 result.2, result.2)
  | .contains key, c => (.contains (c.contains key) c.stats c.size, c)
  | .clear, c => (.cleared c.clear.stats c.clear.size, c.clear)
  | .keyFor ref size, c =>
      (.keyFor (CacheKey.ofRef ref size) c.stats c.size, c)

/-- Perform operations one after the other. -/
def runAll : List CacheAction → Cache → List CacheReport × Cache
  | [], c => ([], c)
  | action :: rest, c =>
      let first := run action c
      let others := runAll rest first.2
      (first.1 :: others.1, others.2)

end

end CacheAction

end Inkwell
