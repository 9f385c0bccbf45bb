import FacetSearch.Decimal
import FacetSearch.Index.Consistency
import FacetSearch.Text.Quoted

/-!
# Messages about refused data

The wording of every reason for which an entry, a text or a set of postings is
refused.  Ids are described by the caller: `Text.quoted` is meant for ids that
are strings.
-/

namespace FacetSearch

/-- What is wrong with an entry that cannot be indexed. -/
def IndexError.message {Id : Type} (describe : Id → String) : IndexError Id Float → String
  | duplicateId id => "Duplicate id " ++ describe id
  | invalidWeight id weight =>
      "Invalid weight " ++ floatText weight ++ " on entry " ++ describe id

/-- What is wrong with a text whose weight is not above zero. -/
def WeightedText.weightMessage (weight : Float) : String :=
  "WeightedText weight must be positive, got " ++ floatText weight

/-- What is wrong with postings that disagree with their entries. -/
def PostingFault.message : PostingFault → String
  | strayId => "Contract violation: posting set references an id outside allIds"
  | missingEntry => "Contract violation: entry tag missing from the inverted index"

end FacetSearch
