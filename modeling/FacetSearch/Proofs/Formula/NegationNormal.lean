import FacetSearch.Formula.Normalize
import Mathlib.Data.List.Basic

/-!
# Normalization and De Morgan's laws

A formula may be normalized as it is, or after its negations have been pushed down to
the variables (`Formula.negationNormal`).  The normal form is the same, with all operands
in the same order.

In the first case a join is put together with its own connective and negated as a whole
afterwards.  In the second its items are negated first and put together with the dual
connective.  The rules of a join do not tell the two apart
(`NormalForm.negate_joinAll`):

* the absorbing constant of a connective is the negation of that of its dual;
* an item brings the same operands into a join, but for their signs
  (`operandsIn_negate`);
* two literals are the same, or clash, if and only if their negations do, so the same
  operands are kept (`Operand.settle?_map_negate`).
-/

namespace FacetSearch

/-! ## Negated operands -/

theorem Literal.negate_injective {α : Type} : Function.Injective (negate (α := α)) :=
  Function.Involutive.injective negate_negate

namespace Operand

variable {α : Type} [DecidableEq α]

/-- The operands that are kept do not depend on which sign is the positive one. -/
theorem settleAfter?_map_negate (seen : List (Literal α)) (operands : List (Operand α)) :
    settleAfter? (seen.map Literal.negate) (operands.map negate) =
      (settleAfter? seen operands).map (List.map negate) := by
  induction operands generalizing seen with
  | nil => rfl
  | cons operand rest ih =>
      cases operand with
      | group members =>
          rw [List.map_cons, negate_group, settleAfter?, settleAfter?, ih, Option.map_map,
            Option.map_map]
          refine congrArg (Option.map · _) (funext fun kept => ?_)
          simp
      | literal l =>
          have hmem : ∀ m : Literal α, m.negate ∈ seen.map Literal.negate ↔ m ∈ seen :=
            fun m => List.mem_map_of_injective Literal.negate_injective
          have hlater := ih (l :: seen)
          rw [List.map_cons] at hlater
          simp only [List.map_cons, negate_literal, settleAfter?, hmem, ih, hlater]
          split
          case isTrue => rfl
          case isFalse =>
            split
            case isTrue => rfl
            case isFalse =>
              rw [Option.map_map, Option.map_map]
              refine congrArg (Option.map · _) (funext fun kept => ?_)
              simp

theorem settle?_map_negate (operands : List (Operand α)) :
    settle? (operands.map negate) = (settle? operands).map (List.map negate) :=
  settleAfter?_map_negate [] operands

end Operand

/-! ## Negated joins -/

namespace NormalForm

variable {α : Type}

theorem negate_injective : Function.Injective (negate (α := α)) :=
  Function.Involutive.injective negate_negate

/-- A negated item brings the operands of the item, negated, into a join with the dual
connective. -/
theorem operandsIn_negate (c : Connective) (form : NormalForm α) :
    operandsIn c.dual form.negate = (operandsIn c form).map Operand.negate := by
  cases form with
  | const value => rfl
  | literal l => simp [negate, operandsIn]
  | join inner operands =>
      have hdual : inner.dual = c.dual ↔ inner = c := by cases inner <;> cases c <;> decide
      simp only [negate, operandsIn, hdual]
      split
      case isTrue => rfl
      case isFalse => simp

theorem negate_ofOperands (c : Connective) (operands : List (Operand α)) :
    (ofOperands c operands).negate = ofOperands c.dual (operands.map Operand.negate) := by
  match operands with
  | [] => simp [ofOperands, negate]
  | [.literal l] => simp [ofOperands, negate]
  | [.group members] => simp [ofOperands, negate]
  | _ :: _ :: _ => simp [ofOperands, negate]

/-- **De Morgan's law for joins of normal forms.**  A join is negated by negating its items
and exchanging the connective. -/
theorem negate_joinAll [DecidableEq α] (c : Connective) (items : List (NormalForm α)) :
    (joinAll c items).negate = joinAll c.dual (items.map negate) := by
  match items with
  | [] => simp [joinAll, negate]
  | [item] => rfl
  | first :: second :: rest =>
      have habsorbing : const (!c.dual.neutral) ∈ (first :: second :: rest).map negate ↔
          const (!c.neutral) ∈ first :: second :: rest := by
        rw [Connective.neutral_dual]
        exact List.mem_map_of_injective (a := const (!c.neutral)) negate_injective
      have hoperands : ((first :: second :: rest).map negate).flatMap (operandsIn c.dual) =
          ((first :: second :: rest).flatMap (operandsIn c)).map Operand.negate := by
        rw [List.flatMap_map, List.map_flatMap]
        simp only [operandsIn_negate]
      rw [List.map_cons, List.map_cons] at habsorbing hoperands ⊢
      simp only [joinAll, habsorbing, hoperands, Operand.settle?_map_negate]
      split
      case isTrue => simp [negate]
      case isFalse =>
        cases Operand.settle? ((first :: second :: rest).flatMap (operandsIn c)) with
        | none => simp [negate]
        | some kept => exact negate_ofOperands c kept

end NormalForm

/-! ## Negations on variables only -/

namespace Formula

variable {α : Type}

mutual

/-- A formula, or its negation if `positive` is false, with every negation pushed down to a
variable. -/
def pushed (positive : Bool) : Formula α → Formula α
  | const value => const (value == positive)
  | var name => if positive then var name else not (var name)
  | not body => pushed (!positive) body
  | join connective items =>
      join (if positive then connective else connective.dual) (pushedEach positive items)

/-- Several formulas, in order, with every negation pushed down to a variable. -/
def pushedEach (positive : Bool) : List (Formula α) → List (Formula α)
  | [] => []
  | item :: rest => pushed positive item :: pushedEach positive rest

end

/-- The formula with every negation pushed down to a variable: two of them cancel out, a
constant is flipped, and a join gets the dual connective and keeps the order of its items. -/
def negationNormal (formula : Formula α) : Formula α :=
  formula.pushed true

/-- Whether negations stand on variables only. -/
inductive IsNegationNormal : Formula α → Prop
  | const (value : Bool) : IsNegationNormal (.const value)
  | var (name : α) : IsNegationNormal (.var name)
  | negated (name : α) : IsNegationNormal (.not (.var name))
  | join (connective : Connective) {items : List (Formula α)} :
      (∀ item ∈ items, IsNegationNormal item) → IsNegationNormal (.join connective items)

@[simp] theorem pushedEach_eq_map (positive : Bool) (items : List (Formula α)) :
    pushedEach positive items = items.map (pushed positive) := by
  induction items with
  | nil => rfl
  | cons item rest ih => rw [pushedEach, ih, List.map_cons]

@[simp] theorem pushed_not (positive : Bool) (body : Formula α) :
    (not body).pushed positive = body.pushed (!positive) := by
  rw [pushed]

@[simp] theorem pushed_join (positive : Bool) (c : Connective) (items : List (Formula α)) :
    (join c items).pushed positive =
      join (if positive then c else c.dual) (items.map (pushed positive)) := by
  rw [pushed, pushedEach_eq_map]

theorem isNegationNormal_pushed (formula : Formula α) :
    ∀ positive, (formula.pushed positive).IsNegationNormal := by
  induction formula using Formula.induction with
  | const value =>
      intro positive
      rw [pushed]
      exact .const _
  | var name =>
      intro positive
      rw [pushed]
      split
      case isTrue => exact .var name
      case isFalse => exact .negated name
  | not body ih =>
      intro positive
      rw [pushed_not]
      exact ih _
  | join c items ih =>
      intro positive
      rw [pushed_join]
      refine .join _ fun pushedItem hpushed => ?_
      obtain ⟨item, hitem, rfl⟩ := List.mem_map.mp hpushed
      exact ih item hitem positive

variable [DecidableEq α]

/-- Pushing negations down leaves the normal form of a formula, and that of its negation,
as they are. -/
theorem normalize_pushed (formula : Formula α) :
    (formula.pushed true).normalize = formula.normalize ∧
      (formula.pushed false).normalize = formula.normalize.negate := by
  induction formula using Formula.induction with
  | const value => cases value <;> simp [pushed, NormalForm.negate]
  | var name => simp [pushed]
  | not body ih =>
      obtain ⟨hpositive, hnegative⟩ := ih
      constructor
      · rw [pushed_not, Bool.not_true, hnegative, normalize_not]
      · rw [pushed_not, Bool.not_false, hpositive, normalize_not, NormalForm.negate_negate]
  | join c items ih =>
      have hpositive : items.map (normalize ∘ pushed true) = items.map normalize :=
        List.map_congr_left fun item hitem => (ih item hitem).1
      have hnegative : items.map (normalize ∘ pushed false) =
          items.map (NormalForm.negate ∘ normalize) :=
        List.map_congr_left fun item hitem => (ih item hitem).2
      constructor
      · rw [pushed_join, if_pos rfl, normalize_join, normalize_join, List.map_map, hpositive]
      · rw [pushed_join, if_neg Bool.false_ne_true, normalize_join, normalize_join, List.map_map,
          hnegative, NormalForm.negate_joinAll, List.map_map]

/-- **Normalization respects De Morgan's laws.**  Once all negations are pushed down to the
variables, a formula has the same normal form as before.  In particular, so have the
negation of a join and the join of the negated items with the dual connective. -/
theorem normalize_negationNormal :
    (∀ formula : Formula α, formula.negationNormal.IsNegationNormal ∧
      formula.negationNormal.normalize = formula.normalize) ∧
    ∀ (c : Connective) (items : List (Formula α)),
      (not (join c items)).normalize = (join c.dual (items.map not)).normalize := by
  constructor
  · intro formula
    exact ⟨formula.isNegationNormal_pushed true, formula.normalize_pushed.1⟩
  · intro c items
    have hitems : items.map (normalize ∘ not) = items.map (NormalForm.negate ∘ normalize) :=
      List.map_congr_left fun item _ => normalize_not item
    rw [normalize_not, normalize_join, normalize_join, NormalForm.negate_joinAll, List.map_map,
      List.map_map, hitems]

end Formula

end FacetSearch
