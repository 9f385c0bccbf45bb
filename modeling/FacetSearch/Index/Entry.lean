import FacetSearch.Relevance.Score
import FacetSearch.Text.Lowering
import Std.Data.ExtTreeSet

/-!
# Entries of a corpus

An `Entry` is what can be found: an id, a set of tags to filter by, and texts to
search in, each with a weight.  Texts are kept in lowercase, as tokens are, so
that finding a token is finding a substring.
-/

namespace FacetSearch

open Std (ExtTreeSet TransOrd)

/-- A text to search in, with its importance. -/
structure WeightedText (R : Type) where
  text : String
  weight : R
deriving BEq, DecidableEq, Repr

namespace WeightedText

variable {R : Type}

/-- A text put into lowercase. -/
def ofText (text : String) (weight : R) : WeightedText R :=
  ⟨Text.lower text, weight⟩

/-- A text put into lowercase, unless its weight is not above zero.  In that case
the weight is handed back. -/
def ofText? [Scalar R] (text : String) (weight : R) : Except R (WeightedText R) :=
  if 0 < weight then .ok (ofText text weight) else .error weight

/-- Whether a weight may be used in an index: it is finite and above zero. -/
def HasValidWeight [Scalar R] (text : WeightedText R) : Prop :=
  Scalar.isFinite text.weight = true ∧ 0 < text.weight

instance [Scalar R] (text : WeightedText R) : Decidable text.HasValidWeight :=
  inferInstanceAs (Decidable (_ ∧ _))

end WeightedText

/-- An entry of a corpus. -/
structure Entry (Id Tag R : Type) [Ord Tag] where
  id : Id
  tags : ExtTreeSet Tag
  texts : List (WeightedText R)

namespace Entry

variable {Id Tag R : Type} [Ord Tag] [TransOrd Tag]

/-- Two entries are the same if their ids, their sets of tags and their texts
are. -/
instance [BEq Id] [BEq R] : BEq (Entry Id Tag R) where
  beq a b := a.id == b.id && a.tags == b.tags && a.texts == b.texts

/-- The score of an entry: the scores of its texts, times their weights, added
up in order. -/
def score [Scalar R] (entry : Entry Id Tag R) (options : ScoringOptions R)
    (tokens : List String) : R :=
  (entry.texts.map fun text => options.score tokens text.text * text.weight).foldl (· + ·) 0

end Entry

end FacetSearch
