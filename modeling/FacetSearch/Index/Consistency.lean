import FacetSearch.Index.Basic

/-!
# Consistency of postings

Postings agree with the entries they were made from if they mention no other
ids, and if every entry is in the posting of each of its tags.
`checkPostings` tests both, the first one first.  `Index.ofEntriesChecked?` is the
construction of an index with this test at its end.
-/

namespace FacetSearch

open Std (ExtTreeMap ExtTreeSet TransOrd)

/-- How postings can disagree with entries. -/
inductive PostingFault where
  /-- A posting has an id that no entry has. -/
  | strayId
  /-- An entry is missing from the posting of one of its tags. -/
  | missingEntry
deriving DecidableEq, Repr

variable {Id Tag R : Type} [Ord Id] [TransOrd Id] [Ord Tag] [TransOrd Tag]

/-- Looks for a fault in the postings of the given ids and entries. -/
def checkPostings (ids : ExtTreeSet Id) (postings : ExtTreeMap Tag (ExtTreeSet Id))
    (entries : List (Id × ExtTreeSet Tag)) : Except PostingFault Unit :=
  if postings.any fun _ posting => posting.any fun id => !ids.contains id then
    .error .strayId
  else if entries.any fun (id, tags) => tags.any fun tag => !(postings.getD tag ∅).contains id then
    .error .missingEntry
  else
    .ok ()

/-- Looks for a fault in the postings of an index. -/
def Index.checkPostings (index : Index Id Tag R) : Except PostingFault Unit :=
  FacetSearch.checkPostings index.ids index.postings
    (index.entryList.map fun entry => (entry.id, entry.tags))

/-- Why a list of entries has no index, if the postings are tested as well. -/
inductive BuildFault (Id R : Type) where
  /-- An entry cannot be indexed. -/
  | refused (reason : IndexError Id R)
  /-- The postings disagree with the entries. -/
  | inconsistent (fault : PostingFault)
deriving DecidableEq, Repr

/-- The index of a list of entries, if no entry is refused and its postings agree with
the entries. -/
def Index.ofEntriesChecked? [Scalar R] (entries : List (Entry Id Tag R)) :
    Except (BuildFault Id R) (Index Id Tag R) :=
  match ofEntries? entries with
  | .error reason => .error (.refused reason)
  | .ok index =>
      match index.checkPostings with
      | .error fault => .error (.inconsistent fault)
      | .ok () => .ok index

end FacetSearch
