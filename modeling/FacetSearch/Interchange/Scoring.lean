import FacetSearch.Interchange.Json
import FacetSearch.Relevance.Options

/-!
# Interchange of scoring options

All four options have default values and may be left out.  A base score is named
`sqrt_length`, or it is an object with the field `fixed`.  A curve cannot be
written, and it is read only where the reader has curves to offer.
-/

namespace FacetSearch

/-- Reads a base score.  With `curves`, the object with the field `curve` names one
of them. -/
def BaseScore.ofJson? (curves : String → Option (String → Float)) :
    Json → Option (BaseScore Float)
  | .obj [("fixed", score)] => score.float?.map .fixed
  | .obj [("curve", .str name)] => (curves name).map (.curve name)
  | value => value.choice? [("sqrt_length", .sqrtLength)]

/-- Writes a base score, unless it is a curve. -/
def BaseScore.toJson? : BaseScore Float → Option Json
  | sqrtLength => some (.str "sqrt_length")
  | fixed score => some (.obj [("fixed", .real score)])
  | curve _ _ => none

namespace Combiner

/-- The name of a combiner. -/
def name : Combiner → String
  | sum => "sum"
  | max => "max"

/-- Reads a combiner. -/
def ofJson? : Json → Option Combiner :=
  Json.choice? ([sum, max].map fun combiner => (combiner.name, combiner))

/-- Writes a combiner. -/
def toJson (combiner : Combiner) : Json :=
  .str combiner.name

end Combiner

namespace ScoringOptions

/-- The names of the options. -/
def fieldNames : List String :=
  ["base_score", "boundary_bonus", "combine_match_scores", "combine_token_scores"]

/-- Reads scoring options. -/
def ofJson? (curves : String → Option (String → Float)) (value : Json) :
    Option (ScoringOptions Float) := do
  let fields ← value.fields? fieldNames
  let default : ScoringOptions Float := standard
  let baseScore ← Json.optional? fields "base_score" default.baseScore (BaseScore.ofJson? curves)
  let boundaryBonus ← Json.optional? fields "boundary_bonus" default.boundaryBonus Json.float?
  let combineMatches ←
    Json.optional? fields "combine_match_scores" default.combineMatches Combiner.ofJson?
  let combineTokens ←
    Json.optional? fields "combine_token_scores" default.combineTokens Combiner.ofJson?
  return { baseScore, boundaryBonus, combineMatches, combineTokens }

/-- Writes scoring options, unless their base score is a curve. -/
def toJson? (options : ScoringOptions Float) : Option Json :=
  options.baseScore.toJson?.map fun baseScore =>
    .obj [("base_score", baseScore), ("boundary_bonus", .real options.boundaryBonus),
      ("combine_match_scores", options.combineMatches.toJson),
      ("combine_token_scores", options.combineTokens.toJson)]

end ScoringOptions

end FacetSearch
