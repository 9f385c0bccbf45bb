import FacetSearch.Query.FormatWord
import FacetSearch.Query.Fusion
import FacetSearch.Query.Piece
import FacetSearch.Text.Lowering

/-!
# The tokens of a query

A query is cut into pieces, each piece is put into lowercase, format words are
cut out of it, and version and scale notation is put together again.  Every
query has tokens, if only the empty list of them.
-/

namespace FacetSearch.Query

/-- The tokens of a query before version and scale notation is put together:
the parts of its nonempty pieces in lowercase. -/
def parts (query : List Char) : List (List Char) :=
  ((pieces query).filter (· ≠ [])).flatMap fun piece => splitFormats (Text.lowerChars piece)

/-- The tokens of a query, as characters. -/
def tokenChars (query : List Char) : List (List Char) :=
  fuse (parts query)

/-- The tokens of a query. -/
def tokens (query : String) : List String :=
  (tokenChars query.toList).map String.ofList

end FacetSearch.Query
