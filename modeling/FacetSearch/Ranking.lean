import FacetSearch.Relevance.Scalar

/-!
# Ranking of hits

A `Hit` is an id that a search has found, with its score.  Hits are ranked by
their scores, the greatest first.  Where neither score is greater, which is so
for equal scores and for undefined ones, the smaller id comes first.
-/

namespace FacetSearch

/-- An id that a search has found. -/
structure Hit (Id R : Type) where
  id : Id
  score : R
deriving DecidableEq, Repr

namespace Hit

variable {Id R : Type} [Ord Id] [Scalar R]

/-- The order of two hits in a ranking. -/
def compare (a b : Hit Id R) : Ordering :=
  if b.score < a.score then .lt
  else if a.score < b.score then .gt
  else Ord.compare a.id b.id

/-- The hits from best to worst.  Hits that compare equal stay in order. -/
def rank (hits : List (Hit Id R)) : List (Hit Id R) :=
  hits.mergeSort fun a b => (a.compare b).isLE

end Hit

end FacetSearch
