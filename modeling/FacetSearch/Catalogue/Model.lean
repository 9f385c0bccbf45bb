import FacetSearch.Catalogue.License
import FacetSearch.Catalogue.Platform
import FacetSearch.Index.Basic

/-!
# Models of a catalogue

A `Model` describes an image upscaling model of a catalogue.  `Model.entry` makes
an entry of it: the tags that it can be filtered by are derived from its fields,
and it can be searched by four texts.

| Text                              | Weight |
|-----------------------------------|--------|
| id, name                          | 8      |
| authors                           | 4      |
| architecture, scale and data set  | 1      |
| description                       | 1      |
-/

namespace FacetSearch.Catalogue

open Std (ExtTreeSet)

/-- One value or a list of them.  The two ways of giving a single value are told
apart. -/
inductive OneOrMany (α : Type) where
  | one (value : α)
  | many (values : List α)
deriving DecidableEq, Repr

/-- The values, as a list. -/
def OneOrMany.toList {α : Type} : OneOrMany α → List α
  | one value => [value]
  | many values => values

/-- A model of the catalogue. -/
structure Model where
  name : String
  author : OneOrMany String
  tags : List String
  description : String
  architecture : String
  scale : UInt32
  inputChannels : UInt32
  outputChannels : UInt32
  dataset : Option String
  /-- A license expression. -/
  license : Option String
  resources : List Resource
deriving DecidableEq, Repr

namespace Model

/-- The authors of a model. -/
def authors (model : Model) : List String :=
  model.author.toList

/-- The tag for the channels of a model, which names both numbers only if they
differ. -/
def colorTag (model : Model) : String :=
  if model.inputChannels = model.outputChannels then
    "color:" ++ toString model.inputChannels.toNat
  else
    "color:" ++ toString model.inputChannels.toNat ++ "-" ++ toString model.outputChannels.toNat

/-- The tags that a model can be filtered by: its own ones, and those derived
from its authors, its scale, its channels, its license and its platforms. -/
def derivedTags (model : Model) : ExtTreeSet String :=
  .ofList (model.tags
    ++ model.authors.map ("by:" ++ ·)
    ++ ["scale:" ++ toString model.scale.toNat, model.colorTag]
    ++ licenseTags model.license
    ++ platformTags model.architecture model.resources)

/-- The nonempty fields of a text, one a line.  No token contains a line end, so
none is found across two fields. -/
def joinFields (fields : List String) : String :=
  "\n".intercalate (fields.filter (· ≠ ""))

/-- The entry of a model with a given id. -/
def entry {R : Type} [Scalar R] (id : String) (model : Model) : Entry String String R where
  id := id
  tags := model.derivedTags
  texts :=
    [.ofText (joinFields [id, model.name]) (8 : Nat),
     .ofText (joinFields model.authors) (4 : Nat),
     .ofText
       (joinFields [model.architecture, toString model.scale.toNat ++ "x",
         model.dataset.getD ""])
       (1 : Nat),
     .ofText model.description (1 : Nat)]

end Model

/-- The index of a list of models with their ids. -/
def indexModels? {R : Type} [Scalar R] (models : List (String × Model)) :
    Except (IndexError String R) (Index String String R) :=
  Index.ofEntries? (models.map fun (id, model) => model.entry id)

end FacetSearch.Catalogue
