import FacetSearch.Formula.Normalize

/-!
# The contract of normal forms

What a normal form promises to its users, as a check that can be run.
`NormalForm.check` goes through the joins of a normal form, from left to right and
a group before what follows it.  It reports the first join with fewer than two
operands, and the first literal that has come before in its join, be it with the
same sign or with the opposite one.

`Formula.normalizeChecked` is normalization with the checks in place: the operands
are counted wherever a join is made, and the whole result is checked at the end.
-/

namespace FacetSearch

/-- How a normal form can break its contract. -/
inductive FormFault where
  /-- A join is about to be made of fewer than two operands. -/
  | shortJoin (count : Nat)
  /-- There is a join with fewer than two operands. -/
  | fewOperands (count : Nat)
  /-- A variable occurs with both signs among the literals of one join. -/
  | bothSigns
  /-- A literal occurs twice in one join. -/
  | repeatedLiteral
deriving DecidableEq, Repr

/-- What is wrong with a normal form that breaks its contract. -/
def FormFault.message : FormFault → String
  | shortJoin count => "Contract violation: junction with " ++ toString count ++ " operands"
  | fewOperands count =>
      "Contract violation: AT_LEAST_TWO - junction has " ++ toString count ++ " operands"
  | bothSigns => "Contract violation: NO_COMPLEMENTS - variable appears with both polarities"
  | repeatedLiteral =>
      "Contract violation: NO_DUPLICATES - literal appears twice in one junction"

/-! ## Checking a normal form -/

namespace Operand

variable {α : Type} [DecidableEq α]

mutual

/-- Checks one operand of a join, when the literals in `seen` come before it in that
join.  The result is what has been seen then. -/
def check (seen : List (Literal α)) : Operand α → Except FormFault (List (Literal α))
  | literal l =>
      if seen.contains l.negate then .error .bothSigns
      else if seen.contains l then .error .repeatedLiteral
      else .ok (l :: seen)
  | group operands =>
      if operands.length < 2 then .error (.fewOperands operands.length)
      else (checkEach [] operands).map fun _ => seen

/-- Checks several operands of a join, in order. -/
def checkEach (seen : List (Literal α)) :
    List (Operand α) → Except FormFault (List (Literal α))
  | [] => .ok seen
  | operand :: rest => (check seen operand).bind fun seen => checkEach seen rest

end

end Operand

namespace NormalForm

variable {α : Type} [DecidableEq α]

/-- Checks a normal form. -/
def check : NormalForm α → Except FormFault Unit
  | const _ => .ok ()
  | literal _ => .ok ()
  | join _ operands => ((Operand.group operands).check []).map fun _ => ()

/-! ## Checking while normalizing -/

/-- The join of some operands, which have to be two or more. -/
def joinChecked (connective : Connective) (operands : List (Operand α)) :
    Except FormFault (NormalForm α) :=
  if operands.length < 2 then .error (.shortJoin operands.length)
  else .ok (join connective operands)

/-- The normal form of a join whose operands are settled, with the operands counted
if a join is made of them. -/
def ofOperandsChecked (connective : Connective) :
    List (Operand α) → Except FormFault (NormalForm α)
  | [] => .ok (const connective.neutral)
  | [.literal l] => .ok (literal l)
  | [.group operands] => .ok (join connective.dual operands)
  | operands => joinChecked connective operands

/-- The normal form of a join of normal forms, with the operands counted if a join
is made. -/
def joinAllChecked (connective : Connective) :
    List (NormalForm α) → Except FormFault (NormalForm α)
  | [] => .ok (const connective.neutral)
  | [item] => .ok item
  | items =>
      if items.contains (const !connective.neutral) then .ok (const !connective.neutral)
      else
        match Operand.settle? (items.flatMap (operandsIn connective)) with
        | none => .ok (const !connective.neutral)
        | some operands => ofOperandsChecked connective operands

end NormalForm

namespace Formula

variable {α : Type} [DecidableEq α]

mutual

/-- The normal form of a formula, with the operands counted wherever a join is
made. -/
def normalizeCounted : Formula α → Except FormFault (NormalForm α)
  | const value => .ok (.const value)
  | var name => .ok (.literal ⟨name, true⟩)
  | not body => (normalizeCounted body).map NormalForm.negate
  | join connective items =>
      (normalizeCountedEach items).bind (NormalForm.joinAllChecked connective)

/-- The normal forms of several formulas, in order, with the operands counted. -/
def normalizeCountedEach : List (Formula α) → Except FormFault (List (NormalForm α))
  | [] => .ok []
  | item :: rest =>
      (normalizeCounted item).bind fun form => (normalizeCountedEach rest).map (form :: ·)

end

/-- The normal form of a formula, checked on the way and at the end. -/
def normalizeChecked (formula : Formula α) : Except FormFault (NormalForm α) :=
  (normalizeCounted formula).bind fun form => form.check.map fun _ => form

end Formula

end FacetSearch
