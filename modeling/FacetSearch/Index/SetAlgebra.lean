import Std.Data.ExtTreeSet

/-!
# Sets of many operands

Intersections and unions of any number of sets, and differences of two.  No sets
at all have an empty union, but no intersection: what "all ids" means is left to
the caller.

Where an operand is the answer already, it is handed on as it is.  An
intersection goes through its smallest operand, and a union starts from its
largest one.
-/

namespace FacetSearch

open Std (ExtTreeSet TransOrd)

variable {α : Type} [Ord α] [TransOrd α]

/-- Whether a member is in all of `sets`.  Up to three sets are asked without a
loop. -/
def isInEvery (member : α) : List (ExtTreeSet α) → Bool
  | [a] => a.contains member
  | [a, b] => a.contains member && b.contains member
  | [a, b, c] => a.contains member && b.contains member && c.contains member
  | sets => sets.all (·.contains member)

/-- The members that all of `sets` have in common, if there is a set at all.
The smallest set is gone through and the others are asked for its members. -/
def intersectAll (sets : List (ExtTreeSet α)) : Option (ExtTreeSet α) :=
  match sets.mergeSort fun a b => a.size ≤ b.size with
  | [] => none
  | [only] => some only
  | smallest :: rest =>
      if smallest.isEmpty then some smallest
      else some (smallest.filter fun member => isInEvery member rest)

/-- The members of any of `sets`.  Empty sets are passed over, and the others are
added to the largest. -/
def unionAll (sets : List (ExtTreeSet α)) : ExtTreeSet α :=
  match (sets.filter fun set => !set.isEmpty).mergeSort fun a b => b.size ≤ a.size with
  | [] => ∅
  | largest :: rest => rest.foldl (· ∪ ·) largest

/-- The members of `set` that are not in `excluded`. -/
def without (set excluded : ExtTreeSet α) : ExtTreeSet α :=
  if set.isEmpty || excluded.isEmpty then set
  else set.filter fun member => !excluded.contains member

end FacetSearch
