import FacetSearch.Formula.NormalForm
import FacetSearch.Index.Basic
import FacetSearch.Index.SetAlgebra

/-!
# Selecting entries by a formula

`Index.select` finds the ids of the entries whose tags satisfy a formula in
normal form.  Most of the work is done with whole postings:

* the literals of a conjunction narrow all ids down to the common members of the
  positive postings, less the members of the negative ones;
* those of a disjunction add up the positive postings, and all ids but the
  common members of the negative ones.

A conjunction inside a disjunction is selected in the same way and added.  A
disjunction inside a conjunction is tested on every entry that the literals
leave.  `Index.selectByEval` finds the same ids by testing every entry.
-/

namespace FacetSearch.Index

open Std (ExtTreeSet TransOrd)

variable {Id Tag R : Type} [Ord Id] [TransOrd Id] [Ord Tag] [TransOrd Tag]

/-- The postings of the literals with a given sign. -/
def postingsOf (index : Index Id Tag R) (positive : Bool) (literals : List (Literal Tag)) :
    List (ExtTreeSet Id) :=
  (literals.filter (·.positive == positive)).map fun literal => index.posting literal.name

/-- The ids of the entries that satisfy a literal. -/
def selectLiteral (index : Index Id Tag R) (literal : Literal Tag) : ExtTreeSet Id :=
  if literal.positive then index.posting literal.name
  else without index.ids (index.posting literal.name)

/-- Whether the entry with an id satisfies all of several disjunctions. -/
def satisfiesAll (index : Index Id Tag R) (disjunctions : List (List (Operand Tag)))
    (id : Id) : Bool :=
  (index.entry? id).any fun entry =>
    disjunctions.all fun operands => Operand.evalJoin entry.tags.contains .any operands

/-- The ids of the entries that satisfy all of `operands`. -/
def selectAll (index : Index Id Tag R) (operands : List (Operand Tag)) : ExtTreeSet Id :=
  let literals := Operand.literals operands
  let required := (intersectAll (index.postingsOf true literals)).getD index.ids
  let candidates := without required (unionAll (index.postingsOf false literals))
  let disjunctions := Operand.groups operands
  if disjunctions.isEmpty || candidates.isEmpty then candidates
  else candidates.filter (index.satisfiesAll disjunctions)

/-- The ids of the entries that satisfy any of `operands`.  If no entry has all
the tags that are negated here, every entry lacks one of them. -/
def selectAny (index : Index Id Tag R) (operands : List (Operand Tag)) : ExtTreeSet Id :=
  let literals := Operand.literals operands
  let found := index.postingsOf true literals
  let conjunctions := (Operand.groups operands).map index.selectAll
  match intersectAll (index.postingsOf false literals) with
  | none => unionAll (found ++ conjunctions)
  | some common =>
      if common.isEmpty then index.ids
      else unionAll (found ++ without index.ids common :: conjunctions)

/-- The ids of the entries whose tags satisfy a formula. -/
def select (index : Index Id Tag R) : NormalForm Tag → ExtTreeSet Id
  | .const true => index.ids
  | .const false => ∅
  | .literal literal => index.selectLiteral literal
  | .join .all operands => index.selectAll operands
  | .join .any operands => index.selectAny operands

/-- The ids of the entries whose tags satisfy a formula, found by testing every
entry. -/
def selectByEval (index : Index Id Tag R) (form : NormalForm Tag) : ExtTreeSet Id :=
  .ofList ((index.entryList.filter fun entry => form.eval entry.tags.contains).map Entry.id)

end FacetSearch.Index
