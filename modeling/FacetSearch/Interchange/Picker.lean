import FacetSearch.Interchange.Json
import FacetSearch.Picker

/-!
# Interchange of the tag picker

Picks are an object with the picked tags as its fields.
-/

namespace FacetSearch

open Std (ExtTreeMap)

namespace Pick

/-- The name of what is asked about a tag. -/
def name : Pick → String
  | required => "required"
  | forbidden => "forbidden"

/-- Reads what is asked about a tag. -/
def ofJson? : Json → Option Pick :=
  Json.choice? ([required, forbidden].map fun pick => (pick.name, pick))

/-- Writes what is asked about a tag. -/
def toJson (pick : Pick) : Json :=
  .str pick.name

end Pick

namespace Picks

/-- Reads picks. -/
def ofJson? : Json → Option (Picks String)
  | .obj fields => do
      let picks ← fields.mapM fun (tag, value) => (Pick.ofJson? value).map (tag, ·)
      return .ofList picks
  | _ => none

/-- Writes picks. -/
def toJson (picks : Picks String) : Json :=
  .obj ((ExtTreeMap.toList picks).map fun (tag, pick) => (tag, pick.toJson))

end Picks

namespace Category

/-- Reads a category. -/
def ofJson? (value : Json) : Option (Category String) := do
  let fields ← value.fields? ["id", "tags"]
  let id ← Json.required? fields "id" Json.string?
  let tags ← Json.required? fields "tags" (Json.list? Json.string?)
  return { id, tags }

/-- Writes a category. -/
def toJson (category : Category String) : Json :=
  .obj [("id", .str category.id), ("tags", .strings category.tags)]

end Category

end FacetSearch
