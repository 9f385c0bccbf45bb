/-!
# Boolean formulas over tags

A `Formula` is what a caller builds: constants, variables, negations, and
conjunctions or disjunctions of any number of items, nested at will.  Nothing is
simplified here.  `Formula.eval` gives a formula its meaning under an assignment
of truth values to the variables, and every later module is measured against it.

Conjunction and disjunction are one constructor, `join`, with the connective as
an argument, so that a rule and its dual are stated once.
-/

namespace FacetSearch

/-- The two ways of joining items: `all` of them hold, or `any` of them does. -/
inductive Connective where
  | all
  | any
deriving DecidableEq, Repr

namespace Connective

/-- The value of a join of no items.  Its negation is the value that absorbs
every other item. -/
def neutral : Connective → Bool
  | all => true
  | any => false

/-- The other connective, which takes its place under a negation. -/
def dual : Connective → Connective
  | all => any
  | any => all

/-- The value of a join whose items have the values `bs`. -/
def combine : Connective → List Bool → Bool
  | all, bs => bs.all id
  | any, bs => bs.any id

@[simp] theorem dual_dual (c : Connective) : c.dual.dual = c := by
  cases c <;> rfl

@[simp] theorem neutral_dual (c : Connective) : c.dual.neutral = !c.neutral := by
  cases c <;> rfl

@[simp] theorem combine_nil (c : Connective) : c.combine [] = c.neutral := by
  cases c <;> rfl

/-- There are only two connectives. -/
theorem eq_dual_of_ne {c d : Connective} (hne : c ≠ d) : c = d.dual := by
  cases c <;> cases d <;> simp_all [dual]

/-- De Morgan's law for a list of values. -/
theorem not_combine (c : Connective) (bs : List Bool) :
    (!c.combine bs) = c.dual.combine (bs.map (!·)) := by
  induction bs with
  | nil => cases c <;> rfl
  | cons b rest ih => cases c <;> simp_all [combine, dual]

end Connective

/-- A boolean formula over variables drawn from `α`. -/
inductive Formula (α : Type) where
  | const (value : Bool)
  | var (name : α)
  | not (body : Formula α)
  | join (connective : Connective) (items : List (Formula α))

namespace Formula

variable {α : Type}

/-- The conjunction of `items`; with no items it is true. -/
abbrev all (items : List (Formula α)) : Formula α := join .all items

/-- The disjunction of `items`; with no items it is false. -/
abbrev any (items : List (Formula α)) : Formula α := join .any items

mutual

/-- The truth value of a formula when `holds` says which variables are true. -/
def eval (holds : α → Bool) : Formula α → Bool
  | const value => value
  | var name => holds name
  | not body => !eval holds body
  | join connective items => connective.combine (evalEach holds items)

/-- The truth values of several formulas, in order. -/
def evalEach (holds : α → Bool) : List (Formula α) → List Bool
  | [] => []
  | item :: rest => eval holds item :: evalEach holds rest

end

@[simp] theorem evalEach_eq_map (holds : α → Bool) (items : List (Formula α)) :
    evalEach holds items = items.map (eval holds) := by
  induction items with
  | nil => rfl
  | cons item rest ih => simp [evalEach, ih]

@[simp] theorem eval_const (holds : α → Bool) (value : Bool) :
    (const value : Formula α).eval holds = value := by
  simp [eval]

@[simp] theorem eval_var (holds : α → Bool) (name : α) :
    (var name).eval holds = holds name := by
  simp [eval]

@[simp] theorem eval_not (holds : α → Bool) (body : Formula α) :
    (not body).eval holds = !body.eval holds := by
  simp [eval]

@[simp] theorem eval_join (holds : α → Bool) (connective : Connective)
    (items : List (Formula α)) :
    (join connective items).eval holds = connective.combine (items.map (eval holds)) := by
  simp [eval]

/-- Induction over formulas in which the items of a join are reached through
membership, so that one property serves formulas and lists of them alike. -/
@[elab_as_elim]
theorem induction {motive : Formula α → Prop}
    (const : ∀ value, motive (.const value)) (var : ∀ name, motive (.var name))
    (not : ∀ body, motive body → motive (.not body))
    (join : ∀ connective items, (∀ item ∈ items, motive item) →
      motive (.join connective items)) :
    ∀ formula, motive formula
  | .const value => const value
  | .var name => var name
  | .not body => not body (induction const var not join body)
  | .join connective items =>
      join connective items fun item _ => induction const var not join item

end Formula

end FacetSearch
