import FacetSearch.Index.Selection
import FacetSearch.Ranking

/-!
# Searching an index

A search selects entries by a formula over their tags and scores each of them
for the tokens of a query.  The hits are the selected entries that score above
zero.
-/

namespace FacetSearch.Index

open Std (TransOrd)

variable {Id Tag R : Type} [Ord Id] [TransOrd Id] [Ord Tag] [TransOrd Tag] [Scalar R]

/-- The hit that the entry with an id makes, if it scores above zero. -/
def hit? (index : Index Id Tag R) (options : ScoringOptions R) (tokens : List String)
    (id : Id) : Option (Hit Id R) :=
  (index.entry? id).bind fun entry =>
    let score := entry.score options tokens
    if 0 < score then some ⟨id, score⟩ else none

/-- The hits among the entries that satisfy a formula, in the order of their
ids. -/
def retrieve (index : Index Id Tag R) (form : NormalForm Tag) (tokens : List String)
    (options : ScoringOptions R) : List (Hit Id R) :=
  (index.select form).toList.filterMap (index.hit? options tokens)

end FacetSearch.Index
