import FacetSearch.Relevance.Scalar

/-!
# Scoring options

Every occurrence of a token in a text earns the base score of the token, and a
bonus if a word starts there.  The scores of one token's occurrences are
combined, and so are the scores of all tokens.  `ScoringOptions` holds the four
choices, and `ScoringOptions.standard` the usual ones.
-/

namespace FacetSearch

/-- The score that every occurrence of a token earns. -/
inductive BaseScore (R : Type) where
  /-- The square root of the number of characters: longer tokens say more, but
  not in proportion. -/
  | sqrtLength
  /-- The same score for every token. -/
  | fixed (score : R)
  /-- A curve of the caller's own.  Curves are told apart by their names. -/
  | curve (name : String) (score : String → R)

namespace BaseScore

variable {R : Type}

/-- The base score of a token. -/
def ofToken [Scalar R] : BaseScore R → String → R
  | sqrtLength, token => Scalar.sqrt (token.length : R)
  | fixed score, _ => score
  | curve _ score, token => score token

instance [BEq R] : BEq (BaseScore R) where
  beq
    | sqrtLength, sqrtLength => true
    | fixed a, fixed b => a == b
    | curve a _, curve b _ => a == b
    | _, _ => false

end BaseScore

/-- How several scores become one. -/
inductive Combiner where
  | sum
  | max
deriving DecidableEq, Repr

/-- The combined score.  Sums are taken from left to right.  The maximum starts
at zero and changes only for a greater score, so an undefined one never counts.
No scores at all combine to zero either way. -/
def Combiner.apply {R : Type} [Scalar R] : Combiner → List R → R
  | sum, scores => scores.foldl (· + ·) 0
  | max, scores => scores.foldl (fun best score => if best < score then score else best) 0

/-- The choices that scoring leaves open. -/
structure ScoringOptions (R : Type) where
  /-- What every occurrence of a token earns. -/
  baseScore : BaseScore R
  /-- What an occurrence earns besides if a word starts there. -/
  boundaryBonus : R
  /-- How the occurrences of one token are combined. -/
  combineMatches : Combiner
  /-- How the tokens are combined. -/
  combineTokens : Combiner
deriving BEq

/-- The usual options: the square root of the length, a bonus of four, sums. -/
def ScoringOptions.standard {R : Type} [Scalar R] : ScoringOptions R :=
  ⟨.sqrtLength, (4 : Nat), .sum, .sum⟩

end FacetSearch
