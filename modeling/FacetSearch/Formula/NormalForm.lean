import FacetSearch.Formula.Basic

/-!
# Normal forms of formulas

In a `NormalForm` negation stands on variables only, and a join never directly
contains a join of its own connective: an `Operand` that is a group is joined by
the dual of the connective around it, so it carries none itself.  That much
holds by construction.  `NormalForm.IsNormal` adds what the types do not say:
every join has at least two operands, and no variable occurs twice among the
literals of one join, with the same sign or with opposite ones.

Negation exchanges the connectives and flips every literal
(`NormalForm.negate`), and `NormalForm.toFormula` reads a normal form back as an
ordinary formula.
-/

namespace FacetSearch

/-! ## Literals -/

/-- A variable with a sign. -/
structure Literal (α : Type) where
  name : α
  positive : Bool
deriving DecidableEq, Repr

namespace Literal

variable {α : Type}

/-- The truth value of a literal. -/
def eval (holds : α → Bool) (literal : Literal α) : Bool :=
  holds literal.name == literal.positive

/-- The literal with the opposite sign. -/
def negate (literal : Literal α) : Literal α :=
  { literal with positive := !literal.positive }

/-- A literal as a formula: the variable, under a negation if the sign asks for
one. -/
def toFormula (literal : Literal α) : Formula α :=
  if literal.positive then .var literal.name else .not (.var literal.name)

@[simp] theorem negate_negate (literal : Literal α) : literal.negate.negate = literal := by
  cases literal; simp [negate]

@[simp] theorem eval_negate (holds : α → Bool) (literal : Literal α) :
    literal.negate.eval holds = !literal.eval holds := by
  cases hvalue : holds literal.name <;> cases hsign : literal.positive <;>
    simp [eval, negate, hvalue, hsign]

@[simp] theorem eval_toFormula (holds : α → Bool) (literal : Literal α) :
    literal.toFormula.eval holds = literal.eval holds := by
  cases hvalue : holds literal.name <;> cases hsign : literal.positive <;>
    simp [eval, toFormula, hvalue, hsign]

end Literal

/-! ## Operands -/

/-- One operand of a join: a literal, or a group of operands joined by the dual
of the surrounding connective. -/
inductive Operand (α : Type) where
  | literal (literal : Literal α)
  | group (operands : List (Operand α))

namespace Operand

variable {α : Type}

mutual

/-- Whether two operands are the same. -/
protected def decEq [DecidableEq α] : (a b : Operand α) → Decidable (a = b)
  | literal l, literal m =>
      if h : l = m then isTrue (by rw [h]) else isFalse fun heq => h (Operand.literal.inj heq)
  | literal _, group _ => isFalse nofun
  | group _, literal _ => isFalse nofun
  | group os, group ps =>
      match Operand.decEqList os ps with
      | isTrue h => isTrue (by rw [h])
      | isFalse h => isFalse fun heq => h (Operand.group.inj heq)

/-- Whether two lists of operands are the same. -/
protected def decEqList [DecidableEq α] : (os ps : List (Operand α)) → Decidable (os = ps)
  | [], [] => isTrue rfl
  | [], _ :: _ => isFalse nofun
  | _ :: _, [] => isFalse nofun
  | o :: os, p :: ps =>
      match Operand.decEq o p, Operand.decEqList os ps with
      | isTrue hhead, isTrue htail => isTrue (by rw [hhead, htail])
      | isFalse hhead, _ => isFalse fun heq => hhead (List.cons.inj heq).1
      | _, isFalse htail => isFalse fun heq => htail (List.cons.inj heq).2

end

instance [DecidableEq α] : DecidableEq (Operand α) := Operand.decEq

/-- The literals among `operands`, in order. -/
def literals (operands : List (Operand α)) : List (Literal α) :=
  operands.filterMap fun
    | literal l => some l
    | group _ => none

/-- The groups among `operands`, in order. -/
def groups (operands : List (Operand α)) : List (List (Operand α)) :=
  operands.filterMap fun
    | literal _ => none
    | group os => some os

mutual

/-- The truth value of an operand of a join with the given connective. -/
def eval (holds : α → Bool) (connective : Connective) : Operand α → Bool
  | literal l => l.eval holds
  | group operands => connective.dual.combine (evalEach holds connective.dual operands)

/-- The truth values of several operands of one join, in order. -/
def evalEach (holds : α → Bool) (connective : Connective) : List (Operand α) → List Bool
  | [] => []
  | operand :: rest => eval holds connective operand :: evalEach holds connective rest

end

/-- The truth value of a join of `operands`. -/
def evalJoin (holds : α → Bool) (connective : Connective) (operands : List (Operand α)) : Bool :=
  connective.combine (operands.map (eval holds connective))

mutual

/-- Every literal of an operand with its sign flipped, at every depth. -/
def negate : Operand α → Operand α
  | literal l => literal l.negate
  | group operands => group (negateEach operands)

/-- Several operands with the sign of every literal flipped. -/
def negateEach : List (Operand α) → List (Operand α)
  | [] => []
  | operand :: rest => negate operand :: negateEach rest

end

mutual

/-- An operand of a join with the given connective, as a formula. -/
def toFormula (connective : Connective) : Operand α → Formula α
  | literal l => l.toFormula
  | group operands => .join connective.dual (toFormulas connective.dual operands)

/-- Several operands of one join as formulas, in order. -/
def toFormulas (connective : Connective) : List (Operand α) → List (Formula α)
  | [] => []
  | operand :: rest => toFormula connective operand :: toFormulas connective rest

end

@[simp] theorem evalEach_eq_map (holds : α → Bool) (connective : Connective)
    (operands : List (Operand α)) :
    evalEach holds connective operands = operands.map (eval holds connective) := by
  induction operands with
  | nil => rfl
  | cons operand rest ih => simp [evalEach, ih]

@[simp] theorem negateEach_eq_map (operands : List (Operand α)) :
    negateEach operands = operands.map negate := by
  induction operands with
  | nil => rfl
  | cons operand rest ih => simp [negateEach, ih]

@[simp] theorem toFormulas_eq_map (connective : Connective) (operands : List (Operand α)) :
    toFormulas connective operands = operands.map (toFormula connective) := by
  induction operands with
  | nil => rfl
  | cons operand rest ih => simp [toFormulas, ih]

@[simp] theorem eval_literal (holds : α → Bool) (connective : Connective) (l : Literal α) :
    (literal l).eval holds connective = l.eval holds := by
  simp [eval]

@[simp] theorem negate_literal (l : Literal α) : (literal l).negate = literal l.negate := by
  simp [negate]

@[simp] theorem negate_group (operands : List (Operand α)) :
    (group operands).negate = group (operands.map negate) := by
  simp [negate]

@[simp] theorem toFormula_literal (connective : Connective) (l : Literal α) :
    (literal l).toFormula connective = l.toFormula := by
  simp [toFormula]

@[simp] theorem toFormula_group (connective : Connective) (operands : List (Operand α)) :
    (group operands).toFormula connective =
      .join connective.dual (operands.map (toFormula connective.dual)) := by
  simp [toFormula]

@[simp] theorem literals_nil : literals ([] : List (Operand α)) = [] := rfl

@[simp] theorem literals_literal_cons (l : Literal α) (rest : List (Operand α)) :
    literals (literal l :: rest) = l :: literals rest := rfl

@[simp] theorem literals_group_cons (operands rest : List (Operand α)) :
    literals (group operands :: rest) = literals rest := rfl

@[simp] theorem groups_nil : groups ([] : List (Operand α)) = [] := rfl

@[simp] theorem groups_literal_cons (l : Literal α) (rest : List (Operand α)) :
    groups (literal l :: rest) = groups rest := rfl

@[simp] theorem groups_group_cons (operands rest : List (Operand α)) :
    groups (group operands :: rest) = operands :: groups rest := rfl

@[simp] theorem mem_literals {l : Literal α} {operands : List (Operand α)} :
    l ∈ literals operands ↔ literal l ∈ operands := by
  induction operands with
  | nil => simp
  | cons operand rest ih => cases operand <;> simp [ih]

@[simp] theorem mem_groups {members operands : List (Operand α)} :
    members ∈ groups operands ↔ group members ∈ operands := by
  induction operands with
  | nil => simp
  | cons operand rest ih => cases operand <;> simp [ih]

/-- Induction over operands in which the operands of a group are reached through
membership. -/
@[elab_as_elim]
theorem induction {motive : Operand α → Prop}
    (literal : ∀ l, motive (.literal l))
    (group : ∀ operands, (∀ operand ∈ operands, motive operand) → motive (.group operands)) :
    ∀ operand, motive operand
  | .literal l => literal l
  | .group operands => group operands fun operand _ => induction literal group operand

@[simp] theorem negate_negate (operand : Operand α) : operand.negate.negate = operand := by
  induction operand using Operand.induction with
  | literal l => simp
  | group operands ih =>
      rw [negate_group, negate_group, List.map_map]
      have hsame : operands.map (negate ∘ negate) = operands.map id := List.map_congr_left ih
      rw [hsame, List.map_id]

/-- A group inside a join has the value of a join with the dual connective. -/
theorem eval_group (holds : α → Bool) (connective : Connective) (operands : List (Operand α)) :
    (group operands).eval holds connective = evalJoin holds connective.dual operands := by
  simp [eval, evalJoin]

mutual

/-- An operand is well formed if all groups in it, at every depth, are. -/
def IsNormal : Operand α → Prop
  | literal _ => True
  | group operands =>
      2 ≤ operands.length ∧ ((literals operands).map Literal.name).Nodup ∧ AreNormal operands

/-- All of several operands are well formed. -/
def AreNormal : List (Operand α) → Prop
  | [] => True
  | operand :: rest => IsNormal operand ∧ AreNormal rest

end

theorem areNormal_iff (operands : List (Operand α)) :
    AreNormal operands ↔ ∀ operand ∈ operands, operand.IsNormal := by
  induction operands with
  | nil => simp [AreNormal]
  | cons operand rest ih => simp [AreNormal, ih]

end Operand

/-! ## Normal forms -/

/-- A constant, a literal, or a join of operands. -/
inductive NormalForm (α : Type) where
  | const (value : Bool)
  | literal (literal : Literal α)
  | join (connective : Connective) (operands : List (Operand α))
deriving DecidableEq

namespace NormalForm

variable {α : Type}

/-- The truth value of a normal form when `holds` says which variables are
true. -/
def eval (holds : α → Bool) : NormalForm α → Bool
  | const value => value
  | literal l => l.eval holds
  | join connective operands => Operand.evalJoin holds connective operands

/-- The negation, by De Morgan: the connectives change places and every literal
changes its sign. -/
def negate : NormalForm α → NormalForm α
  | const value => const !value
  | literal l => literal l.negate
  | join connective operands => join connective.dual (operands.map Operand.negate)

/-- The normal form as an ordinary formula. -/
def toFormula : NormalForm α → Formula α
  | const value => .const value
  | literal l => l.toFormula
  | join connective operands => .join connective (operands.map (Operand.toFormula connective))

/-- Every join, at every depth, has at least two operands, and its literals are
about different variables. -/
def IsNormal : NormalForm α → Prop
  | const _ => True
  | literal _ => True
  | join _ operands => (Operand.group operands).IsNormal

/-- Every level gets its connective and its signs back. -/
@[simp] theorem negate_negate (form : NormalForm α) : form.negate.negate = form := by
  cases form with
  | const value => simp [negate]
  | literal l => simp [negate]
  | join connective operands =>
      have hsame : (operands.map Operand.negate).map Operand.negate = operands := by
        rw [List.map_map]
        exact List.map_id'' Operand.negate_negate operands
      rw [negate, negate, hsame, Connective.dual_dual]

end NormalForm

end FacetSearch
