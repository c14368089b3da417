/-!
# Searching in order

The items of a font's tables are found by halving.  In a table that is in order
both ways of halving find an item if there is one, and they differ only in
which of several equal items they find.  In a table that is out of order they
may pass by an item that is there, and what they find instead is part of what
a font means.

A table is given by the order of each of its items relative to the one that is
looked for.
-/

namespace Inkwell.Font

/-- Among the `size` items from `base` on, the last one that is not above the
one looked for, by halving without ever stopping early. -/
def lastNotAbove? (order : Nat → Option Ordering) (base size : Nat) :
    Option Nat :=
  if size ≤ 1 then some base
  else
    match order (base + size / 2) with
    | none => none
    | some .gt => lastNotAbove? order base (size - size / 2)
    | some _ => lastNotAbove? order (base + size / 2) (size - size / 2)
termination_by size

/-- The last of `count` items that is equal to the one looked for. -/
def search? (order : Nat → Option Ordering) (count : Nat) : Option Nat :=
  if count = 0 then none
  else
    match lastNotAbove? order 0 count with
    | none => none
    | some index => if order index = some .eq then some index else none

/-- The first item equal to the one looked for that halving comes upon among
those from `low` on and before `high`. -/
def bisect? (order : Nat → Option Ordering) (low high : Nat) : Option Nat :=
  if high ≤ low then none
  else
    match order ((low + high) / 2) with
    | none => none
    | some .lt => bisect? order ((low + high) / 2 + 1) high
    | some .gt => bisect? order low ((low + high) / 2)
    | some .eq => some ((low + high) / 2)
termination_by high - low

end Inkwell.Font
