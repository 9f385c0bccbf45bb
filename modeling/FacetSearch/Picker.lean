import FacetSearch.Formula.Basic
import Std.Data.ExtTreeMap

/-!
# The tag picker

Tags are offered in categories, such as scale, color or author, and a tag can be
picked as required or as forbidden.  Within a category the required tags are
alternatives: an entry needs one of them.  A forbidden tag rules an entry out,
whatever else is picked.  `Picks.formula` says so as a formula.  Picked tags
that no category offers have no effect.
-/

namespace FacetSearch

open Std (ExtTreeMap TransOrd)

/-- What is asked about a picked tag. -/
inductive Pick where
  | required
  | forbidden
deriving DecidableEq, Repr

/-- The picked tags, each with what is asked about it. -/
abbrev Picks (Tag : Type) [Ord Tag] := ExtTreeMap Tag Pick

/-- A named group of tags. -/
structure Category (Tag : Type) where
  id : String
  tags : List Tag
deriving DecidableEq, Repr

namespace Picks

variable {Tag : Type} [Ord Tag] [TransOrd Tag]

/-- The tags of a category that are picked in a given way, in the order of the
category and as often as they are listed there. -/
def among (picks : Picks Tag) (pick : Pick) (category : Category Tag) : List Tag :=
  category.tags.filter fun tag => picks[tag]? == some pick

/-- What the picks ask of one category: one of its required tags, if there are
any, and none of its forbidden ones.  A category without picked tags asks for
nothing. -/
def categoryFormula? (picks : Picks Tag) (category : Category Tag) : Option (Formula Tag) :=
  match picks.among .required category, picks.among .forbidden category with
  | [], [] => none
  | required, forbidden =>
      let anyRequired := match required with
        | [] => .const true
        | tags => .any (tags.map .var)
      some (.all [anyRequired, .not (.any (forbidden.map .var))])

/-- What the picks ask of all categories together. -/
def formula (picks : Picks Tag) (categories : List (Category Tag)) : Formula Tag :=
  match categories.filterMap picks.categoryFormula? with
  | [] => .const true
  | parts => .all parts

end Picks

end FacetSearch
