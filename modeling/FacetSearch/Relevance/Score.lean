import FacetSearch.Relevance.Options
import FacetSearch.Text.Occurrence

/-!
# The score of a text

A text is scored token by token.  The score of the text is the combined score of
all tokens, times the number of tokens that earned something: a text that
matches more of the query is worth more.  A query without tokens asks for
nothing, and every text scores one.
-/

namespace FacetSearch.ScoringOptions

variable {R : Type} [Scalar R]

/-- What an occurrence earns when the base score of its token is `base`. -/
def occurrenceScore (options : ScoringOptions R) (base : R) (place : Text.Cut) : R :=
  if place.startsWord then base + options.boundaryBonus else base

/-- What a token earns in a text, given as characters. -/
def tokenScore (options : ScoringOptions R) (text : List Char) (token : String) : R :=
  options.combineMatches.apply
    ((Text.occurrences token.toList text).map
      (options.occurrenceScore (options.baseScore.ofToken token)))

/-- The number of scores above zero. -/
def countMatched (scores : List R) : Nat :=
  scores.countP fun score => decide (0 < score)

/-- The score of a text for a list of tokens. -/
def score (options : ScoringOptions R) (tokens : List String) (text : String) : R :=
  if tokens = [] then 1
  else
    let scores := tokens.map (options.tokenScore text.toList)
    options.combineTokens.apply scores * (countMatched scores : R)

end FacetSearch.ScoringOptions
