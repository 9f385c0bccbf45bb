import FacetSearch.Formula.NormalForm

/-!
# Normalization of formulas

`Formula.normalize` brings a formula into normal form, from the inside out:

* a negation is pushed to the literals by De Morgan (`NormalForm.negate`);
* the items of a join are put together by `NormalForm.joinAll`.  No items are the
  neutral constant, and a single item stands for itself.  Of several items, those
  with the same connective are spliced in, neutral constants contribute nothing,
  and a literal that occurs again is dropped.  An absorbing constant, or a variable
  with both signs among the literals, makes the whole join that constant.  What is
  left collapses if it has fewer than two operands.

Groups of the dual connective are never looked into: two equal groups both stay.
-/

namespace FacetSearch

namespace Operand

variable {α : Type} [DecidableEq α]

/-- The operands with every literal kept only where it occurs first, when the
literals in `seen` came before them.  Groups are kept as they are.  If a variable
turns up with both signs, there is no result. -/
def settleAfter? (seen : List (Literal α)) : List (Operand α) → Option (List (Operand α))
  | [] => some []
  | literal l :: rest =>
      if l.negate ∈ seen then none
      else if l ∈ seen then settleAfter? seen rest
      else (settleAfter? (l :: seen) rest).map (literal l :: ·)
  | group operands :: rest => (settleAfter? seen rest).map (group operands :: ·)

/-- The operands with every literal kept only where it occurs first, unless a
variable occurs with both signs. -/
def settle? (operands : List (Operand α)) : Option (List (Operand α)) :=
  settleAfter? [] operands

end Operand

namespace NormalForm

variable {α : Type}

/-- What an item brings into a join with the given connective, unless it is the
absorbing constant. -/
def operandsIn (connective : Connective) : NormalForm α → List (Operand α)
  | const _ => []
  | literal l => [.literal l]
  | join inner operands => if inner = connective then operands else [.group operands]

/-- The normal form of a join whose operands are settled: without operands it
is the neutral constant, and a single operand stands for itself. -/
def ofOperands (connective : Connective) : List (Operand α) → NormalForm α
  | [] => const connective.neutral
  | [.literal l] => literal l
  | [.group operands] => join connective.dual operands
  | operands => join connective operands

/-- The normal form of a join of normal forms. -/
def joinAll [DecidableEq α] (connective : Connective) :
    List (NormalForm α) → NormalForm α
  | [] => const connective.neutral
  | [item] => item
  | items =>
      if const (!connective.neutral) ∈ items then const !connective.neutral
      else
        match Operand.settle? (items.flatMap (operandsIn connective)) with
        | none => const !connective.neutral
        | some operands => ofOperands connective operands

end NormalForm

namespace Formula

variable {α : Type} [DecidableEq α]

mutual

/-- The normal form of a formula. -/
def normalize : Formula α → NormalForm α
  | const value => .const value
  | var name => .literal ⟨name, true⟩
  | not body => (normalize body).negate
  | join connective items => .joinAll connective (normalizeEach items)

/-- The normal forms of several formulas, in order. -/
def normalizeEach : List (Formula α) → List (NormalForm α)
  | [] => []
  | item :: rest => normalize item :: normalizeEach rest

end

@[simp] theorem normalizeEach_eq_map (items : List (Formula α)) :
    normalizeEach items = items.map normalize := by
  induction items with
  | nil => rfl
  | cons item rest ih => simp [normalizeEach, ih]

@[simp] theorem normalize_const (value : Bool) :
    (const value : Formula α).normalize = .const value := by
  simp [normalize]

@[simp] theorem normalize_var (name : α) :
    (var name).normalize = .literal ⟨name, true⟩ := by
  simp [normalize]

@[simp] theorem normalize_not (body : Formula α) :
    (not body).normalize = body.normalize.negate := by
  simp [normalize]

@[simp] theorem normalize_join (connective : Connective) (items : List (Formula α)) :
    (join connective items).normalize = .joinAll connective (items.map normalize) := by
  simp [normalize]

end Formula

end FacetSearch
