import FacetSearch.Formula.NormalForm

/-!
# The written form of formulas

Constants are written `T` and `F`, a variable as its name is, and a negation as
`¬` before its body.  A join is `∀(…)` for a conjunction and `∃(…)` for a
disjunction with its items set apart by single spaces.  A join of no items is
`∀()` or `∃()`.  A normal form is written in the same way, a group with the
connective that stands for it.
-/

namespace FacetSearch

/-- The signs that open a written join. -/
def Connective.opening : Connective → List Char
  | all => ['∀', '(']
  | any => ['∃', '(']

/-- The letter that stands for a constant. -/
def writtenBool (value : Bool) : List Char :=
  [if value then 'T' else 'F']

/-- The items of a join, each after a space but the first. -/
def spaced : List (List Char) → List Char
  | [] => []
  | [item] => item
  | item :: rest => item ++ ' ' :: spaced rest

/-- The characters of a written name. -/
def writtenName {α : Type} [ToString α] (name : α) : List Char :=
  (toString name).toList

namespace Formula

variable {α : Type} [ToString α]

mutual

/-- The characters of a written formula. -/
def writtenChars : Formula α → List Char
  | const value => writtenBool value
  | var name => writtenName name
  | not body => '¬' :: writtenChars body
  | join connective items => connective.opening ++ spaced (writtenEach items) ++ [')']

/-- The characters of several written formulas, in order. -/
def writtenEach : List (Formula α) → List (List Char)
  | [] => []
  | item :: rest => writtenChars item :: writtenEach rest

end

@[simp] theorem writtenEach_eq_map (items : List (Formula α)) :
    writtenEach items = items.map writtenChars := by
  induction items with
  | nil => rfl
  | cons item rest ih => simp [writtenEach, ih]

/-- The written form of a formula. -/
def written (formula : Formula α) : String :=
  String.ofList formula.writtenChars

end Formula

variable {α : Type} [ToString α]

/-- The characters of a written literal. -/
def Literal.writtenChars (literal : Literal α) : List Char :=
  if literal.positive then writtenName literal.name else '¬' :: writtenName literal.name

namespace Operand

mutual

/-- The characters of an operand of a join with the given connective. -/
def writtenChars (connective : Connective) : Operand α → List Char
  | literal l => l.writtenChars
  | group operands =>
      connective.dual.opening ++ spaced (writtenEach connective.dual operands) ++ [')']

/-- The characters of several operands of one join, in order. -/
def writtenEach (connective : Connective) : List (Operand α) → List (List Char)
  | [] => []
  | operand :: rest => writtenChars connective operand :: writtenEach connective rest

end

@[simp] theorem writtenEach_eq_map (connective : Connective) (operands : List (Operand α)) :
    writtenEach connective operands = operands.map (writtenChars connective) := by
  induction operands with
  | nil => rfl
  | cons operand rest ih => simp [writtenEach, ih]

end Operand

namespace NormalForm

/-- The characters of a written normal form. -/
def writtenChars : NormalForm α → List Char
  | const value => writtenBool value
  | literal l => l.writtenChars
  | join connective operands =>
      connective.opening ++ spaced (operands.map (Operand.writtenChars connective)) ++ [')']

/-- The written form of a normal form. -/
def written (form : NormalForm α) : String :=
  String.ofList form.writtenChars

end NormalForm

end FacetSearch
