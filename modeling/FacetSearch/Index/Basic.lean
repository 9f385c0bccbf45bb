import FacetSearch.Index.Entry
import Std.Data.ExtTreeMap

/-!
# The index of a corpus

An `Index` keeps the entries of a corpus by id and, for every tag, its posting:
the set of ids whose entries carry the tag.  `Index.ofEntries?` builds it from a
list of entries and stops at the first that cannot be indexed, because a weight
is not finite and above zero or because the id has been used before.
-/

namespace FacetSearch

open Std (ExtTreeMap ExtTreeSet TransOrd)

/-- The entries of a corpus by id and by tag. -/
structure Index (Id Tag R : Type) [Ord Id] [Ord Tag] where
  /-- The entries by id. -/
  entries : ExtTreeMap Id (Entry Id Tag R)
  /-- The ids of all entries. -/
  ids : ExtTreeSet Id
  /-- The ids of the entries that carry a tag, for every tag that occurs. -/
  postings : ExtTreeMap Tag (ExtTreeSet Id)

/-- Why an entry cannot be indexed. -/
inductive IndexError (Id R : Type) where
  /-- An earlier entry has the same id. -/
  | duplicateId (id : Id)
  /-- The weight of a text is not finite or not above zero. -/
  | invalidWeight (id : Id) (weight : R)
deriving DecidableEq, Repr

namespace Index

variable {Id Tag R : Type} [Ord Id] [TransOrd Id] [Ord Tag] [TransOrd Tag]

/-- The index of no entries. -/
def empty : Index Id Tag R :=
  ⟨∅, ∅, ∅⟩

/-- The postings with `id` added to that of each of `tags`. -/
def addPostings (postings : ExtTreeMap Tag (ExtTreeSet Id)) (id : Id)
    (tags : List Tag) : ExtTreeMap Tag (ExtTreeSet Id) :=
  tags.foldl
    (fun postings tag => postings.alter tag fun posting => some ((posting.getD ∅).insert id))
    postings

/-- The index with one more entry, whose id is new to it. -/
def add (index : Index Id Tag R) (entry : Entry Id Tag R) : Index Id Tag R where
  entries := index.entries.insert entry.id entry
  ids := index.ids.insert entry.id
  postings := addPostings index.postings entry.id entry.tags.toList

/-- The index with one more entry, if it can be indexed.  Its weights are looked
at before its id. -/
def add? [Scalar R] (index : Index Id Tag R) (entry : Entry Id Tag R) :
    Except (IndexError Id R) (Index Id Tag R) :=
  match entry.texts.find? fun text => decide ¬text.HasValidWeight with
  | some text => .error (.invalidWeight entry.id text.weight)
  | none =>
      if entry.id ∈ index.entries then .error (.duplicateId entry.id)
      else .ok (index.add entry)

/-- The index of a list of entries, or the reason why the first entry that
cannot be indexed is refused. -/
def ofEntries? [Scalar R] (entries : List (Entry Id Tag R)) :
    Except (IndexError Id R) (Index Id Tag R) :=
  entries.foldlM add? empty

/-- The number of entries. -/
def size (index : Index Id Tag R) : Nat :=
  index.entries.size

/-- Whether there are no entries. -/
def isEmpty (index : Index Id Tag R) : Bool :=
  index.entries.isEmpty

/-- The entry with an id. -/
def entry? (index : Index Id Tag R) (id : Id) : Option (Entry Id Tag R) :=
  index.entries[id]?

/-- All entries, in the order of their ids. -/
def entryList (index : Index Id Tag R) : List (Entry Id Tag R) :=
  index.entries.toList.map (·.2)

/-- The ids of the entries that carry a tag, if any entry does. -/
def posting? (index : Index Id Tag R) (tag : Tag) : Option (ExtTreeSet Id) :=
  index.postings[tag]?

/-- The ids of the entries that carry a tag. -/
def posting (index : Index Id Tag R) (tag : Tag) : ExtTreeSet Id :=
  (index.posting? tag).getD ∅

end Index

end FacetSearch
