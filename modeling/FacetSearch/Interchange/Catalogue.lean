import FacetSearch.Catalogue.Model
import FacetSearch.Interchange.Json

/-!
# Interchange of models

A model is written with all its fields but the data set, which is left out if
there is none.  In reading, the fields that have a natural default may be
missing: no authors, no tags, no description, no data set, no license and no
resources.
-/

namespace FacetSearch.Catalogue

namespace Platform

/-- Reads a platform. -/
def ofJson? : Json → Option Platform :=
  Json.choice? (all.map fun platform => (platform.name, platform))

/-- Writes a platform. -/
def toJson (platform : Platform) : Json :=
  .str platform.name

end Platform

namespace FileFormat

/-- The name of a file format. -/
def name : FileFormat → String
  | pth => "pth"
  | onnx => "onnx"

/-- Reads a file format. -/
def ofJson? : Json → Option FileFormat :=
  Json.choice? ([pth, onnx].map fun format => (format.name, format))

/-- Writes a file format. -/
def toJson (format : FileFormat) : Json :=
  .str format.name

end FileFormat

namespace Resource

/-- Reads a resource. -/
def ofJson? (value : Json) : Option Resource := do
  let fields ← value.fields? ["type"]
  let format ← Json.required? fields "type" FileFormat.ofJson?
  return { format }

/-- Writes a resource. -/
def toJson (resource : Resource) : Json :=
  .obj [("type", resource.format.toJson)]

end Resource

namespace OneOrMany

/-- Reads a string or a list of strings. -/
def ofJson? : Json → Option (OneOrMany String)
  | .str value => some (one value)
  | value => (value.list? Json.string?).map many

/-- Writes a string or a list of strings. -/
def toJson : OneOrMany String → Json
  | one value => .str value
  | many values => .strings values

end OneOrMany

namespace Model

/-- The names of the fields of a model. -/
def fieldNames : List String :=
  ["name", "author", "tags", "description", "architecture", "scale", "inputChannels",
    "outputChannels", "dataset", "license", "resources"]

/-- Reads a model from its fields. -/
def ofFields? (fields : List (String × Json)) : Option Model := do
  let name ← Json.required? fields "name" Json.string?
  let author ← Json.optional? fields "author" (.many []) OneOrMany.ofJson?
  let tags ← Json.optional? fields "tags" [] (Json.list? Json.string?)
  let description ← Json.optional? fields "description" "" Json.string?
  let architecture ← Json.required? fields "architecture" Json.string?
  let scale ← Json.required? fields "scale" Json.uint32?
  let inputChannels ← Json.required? fields "inputChannels" Json.uint32?
  let outputChannels ← Json.required? fields "outputChannels" Json.uint32?
  let dataset ← Json.optional? fields "dataset" none (Json.nullable? Json.string?)
  let license ← Json.optional? fields "license" none (Json.nullable? Json.string?)
  let resources ← Json.optional? fields "resources" [] (Json.list? Resource.ofJson?)
  return {
    name, author, tags, description, architecture, scale, inputChannels, outputChannels,
    dataset, license, resources }

/-- Reads a model. -/
def ofJson? (value : Json) : Option Model :=
  (value.fields? fieldNames).bind ofFields?

/-- A string, or null if there is none. -/
def nullableJson : Option String → Json
  | none => .null
  | some value => .str value

/-- The fields of a written model. -/
def toFields (model : Model) : List (String × Json) :=
  [("name", .str model.name), ("author", model.author.toJson), ("tags", .strings model.tags),
    ("description", .str model.description), ("architecture", .str model.architecture),
    ("scale", .int model.scale.toNat), ("inputChannels", .int model.inputChannels.toNat),
    ("outputChannels", .int model.outputChannels.toNat)]
    ++ (model.dataset.toList.map fun dataset => ("dataset", .str dataset))
    ++ [("license", nullableJson model.license),
      ("resources", .arr (model.resources.map Resource.toJson))]

/-- Writes a model. -/
def toJson (model : Model) : Json :=
  .obj model.toFields

end Model

end FacetSearch.Catalogue
