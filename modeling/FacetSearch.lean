import FacetSearch.Catalogue.Sample
import FacetSearch.Formula.Contract
import FacetSearch.Formula.Normalize
import FacetSearch.Formula.Written
import FacetSearch.Index.Message
import FacetSearch.Index.Retrieval
import FacetSearch.Interchange.Catalogue
import FacetSearch.Interchange.Corpus
import FacetSearch.Interchange.Picker
import FacetSearch.Interchange.Scoring
import FacetSearch.Query.Checked
import FacetSearch.Query.Token
import FacetSearch.Text.Checked
import FacetSearch.Proofs.Character.Ascii
import FacetSearch.Proofs.Formula.Contract
import FacetSearch.Proofs.Formula.Meaning
import FacetSearch.Proofs.Formula.Renormalization
import FacetSearch.Proofs.Index.Complement
import FacetSearch.Proofs.Index.Composition
import FacetSearch.Proofs.Index.Consistency
import FacetSearch.Proofs.Index.Construction
import FacetSearch.Proofs.Index.Exactness
import FacetSearch.Proofs.Index.Filtering
import FacetSearch.Proofs.Index.Finding
import FacetSearch.Proofs.Index.Selection
import FacetSearch.Proofs.Picker
import FacetSearch.Proofs.Query.Conservation
import FacetSearch.Proofs.Query.RoundTrip
import FacetSearch.Proofs.Ranking
import FacetSearch.Proofs.Relevance.Exact
import FacetSearch.Proofs.Index.Determinism
import FacetSearch.Proofs.Interchange.RoundTrip
import FacetSearch.Proofs.Character.Lowercase
import FacetSearch.Proofs.Query.TokenForm
import FacetSearch.Proofs.Text.Lowering
import FacetSearch.Proofs.Relevance.Standard
import FacetSearch.Proofs.Relevance.Rounding
import FacetSearch.Proofs.Catalogue.Search
import FacetSearch.Proofs.Index.OwnWords
import FacetSearch.Proofs.Formula.NegationNormal
import FacetSearch.Proofs.Query.Grammar
import FacetSearch.Proofs.Query.Notation
import FacetSearch.Proofs.Query.Division
import FacetSearch.Proofs.Formula.Gathering
import FacetSearch.Proofs.Formula.JoinLaws
import FacetSearch.Proofs.Formula.Reordering
import FacetSearch.Proofs.Formula.Completeness
import FacetSearch.Proofs.Formula.Extent
import FacetSearch.Proofs.Relevance.Locality
import FacetSearch.Proofs.Relevance.Breadth
import FacetSearch.Proofs.Index.SetAlgebra
import FacetSearch.Proofs.Index.Absence
import FacetSearch.Proofs.Relevance.Combiners
import FacetSearch.Proofs.Catalogue.Tags
import FacetSearch.Proofs.Formula.Readability
import FacetSearch.Proofs.Text.Greedy
import FacetSearch.Proofs.Query.Position
import FacetSearch.Proofs.Query.Checked
import FacetSearch.Proofs.Text.WordStart
