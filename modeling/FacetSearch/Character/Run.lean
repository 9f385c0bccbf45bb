/-!
# Sets of characters as runs of code points

A `CharTable` lists code points in runs, in ascending order of their first
members, and a `Shift` moves every member of a run by one distance.  The tables
of the character properties are in the modules beside this one.  They are those
of Unicode 17, where nothing else is said.
-/

namespace FacetSearch

/-- Every `step`-th code point from `first` to `last`. -/
structure Run where
  first : Nat
  last : Nat
  step : Nat
deriving DecidableEq, Repr

/-- Whether a code point is in the run. -/
def Run.contains (run : Run) (code : Nat) : Bool :=
  run.first ≤ code && code ≤ run.last && (code - run.first) % run.step == 0

/-- A set of characters, as runs in ascending order of their first members. -/
abbrev CharTable := List Run

namespace CharTable

/-- Whether a code point is in one of the runs.  A run that starts beyond it
ends the search, since all later runs start further up. -/
def containsCode : CharTable → Nat → Bool
  | [], _ => false
  | run :: rest, code =>
      if code < run.first then false else run.contains code || containsCode rest code

/-- Whether a character is in the table. -/
def contains (table : CharTable) (c : Char) : Bool :=
  table.containsCode c.toNat

end CharTable

/-- A run of code points that are all mapped to others at the same distance. -/
structure Shift extends Run where
  distance : Int
deriving DecidableEq, Repr

namespace Shift

/-- The distance by which a list of shifts, in ascending order, moves a code
point: zero if it is in none of the runs. -/
def distanceAt : List Shift → Nat → Int
  | [], _ => 0
  | shift :: rest, code =>
      if code < shift.first then 0
      else if shift.toRun.contains code then shift.distance
      else distanceAt rest code

/-- The character to which a list of shifts moves a character. -/
def apply (shifts : List Shift) (c : Char) : Char :=
  Char.ofNat (c.toNat + distanceAt shifts c.toNat).toNat

end Shift

end FacetSearch
