import FacetSearch.Index.Entry
import FacetSearch.Interchange.Json
import FacetSearch.Ranking

/-!
# Interchange of entries and hits

Texts are read as they are, without putting them into lowercase and without
looking at their weights: that is left to the index.  The tags of an entry are
written in ascending order.
-/

namespace FacetSearch

open Std (ExtTreeSet)

namespace WeightedText

/-- Reads a text with its weight. -/
def ofJson? (value : Json) : Option (WeightedText Float) := do
  let fields ← value.fields? ["text", "weight"]
  let text ← Json.required? fields "text" Json.string?
  let weight ← Json.required? fields "weight" Json.float?
  return { text, weight }

/-- Writes a text with its weight. -/
def toJson (text : WeightedText Float) : Json :=
  .obj [("text", .str text.text), ("weight", .real text.weight)]

end WeightedText

namespace Entry

/-- Reads an entry. -/
def ofJson? (value : Json) : Option (Entry String String Float) := do
  let fields ← value.fields? ["id", "tags", "texts"]
  let id ← Json.required? fields "id" Json.string?
  let tags ← Json.required? fields "tags" (Json.list? Json.string?)
  let texts ← Json.required? fields "texts" (Json.list? WeightedText.ofJson?)
  return { id, tags := .ofList tags, texts }

/-- Writes an entry. -/
def toJson (entry : Entry String String Float) : Json :=
  .obj [("id", .str entry.id), ("tags", .strings entry.tags.toList),
    ("texts", .arr (entry.texts.map WeightedText.toJson))]

end Entry

namespace Hit

/-- Reads a hit. -/
def ofJson? (value : Json) : Option (Hit String Float) := do
  let fields ← value.fields? ["id", "score"]
  let id ← Json.required? fields "id" Json.string?
  let score ← Json.required? fields "score" Json.float?
  return { id, score }

/-- Writes a hit. -/
def toJson (hit : Hit String Float) : Json :=
  .obj [("id", .str hit.id), ("score", .real hit.score)]

end Hit

end FacetSearch
