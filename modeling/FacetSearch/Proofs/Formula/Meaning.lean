import FacetSearch.Formula.Normalize
import Mathlib.Tactic.Tauto

/-!
# Normal forms mean what their formulas mean

A normal form *expresses* a formula if the two have the same truth value under
every assignment (`NormalForm.Expresses`).  Each rule of normalization keeps this
relation, so `Formula.normalize` yields a normal form that expresses its formula.

For negation the argument is De Morgan's law, one level of connectives at a time
(`Operand.eval_negate`).  For a join it rests on one fact: whether a join has its
absorbing value depends only on *which* values its items have, not on how often
or in which order (`Connective.combine_congr`).

* Splicing an item in replaces its value by the values that it is a join of
  (`evalJoin_operandsIn`).
* Dropping a literal that was seen before leaves the same operands, as a set.
  The invariant of the pass over the operands is that what is kept, together with
  what has been seen, is what there was (`mem_settleAfter?`).
* The pass gives up only on a variable with both signs
  (`exists_clash_of_settleAfter?`), and that makes one of the values absorbing,
  whatever the assignment (`evalJoin_of_clash`).
-/

namespace FacetSearch

/-! ## The value of a join -/

namespace Connective

/-- A join has its absorbing value exactly if one of its items has it. -/
theorem combine_eq_absorbing_iff (c : Connective) (bs : List Bool) :
    c.combine bs = (!c.neutral) ↔ (!c.neutral) ∈ bs := by
  cases c with
  | all => simp [combine, neutral]
  | any => simp [combine, neutral]

/-- Joins whose items have the same values, in any order and number, are equal. -/
theorem combine_congr {c : Connective} {as bs : List Bool} (hsame : ∀ b, b ∈ as ↔ b ∈ bs) :
    c.combine as = c.combine bs := by
  have habsorbing : c.combine as = (!c.neutral) ↔ c.combine bs = (!c.neutral) := by
    rw [combine_eq_absorbing_iff, combine_eq_absorbing_iff, hsame]
  cases hneutral : c.neutral <;> simp only [hneutral] at habsorbing <;>
    cases has : c.combine as <;> cases hbs : c.combine bs <;> simp_all

@[simp] theorem combine_singleton (c : Connective) (b : Bool) : c.combine [b] = b := by
  cases c <;> simp [combine]

theorem combine_map_combine (c : Connective) (lists : List (List Bool)) :
    c.combine (lists.map c.combine) = c.combine lists.flatten := by
  induction lists with
  | nil => rfl
  | cons bs rest ih => cases c <;> simp_all [combine]

end Connective

/-! ## Negation -/

namespace Operand

variable {α : Type}

/-- Flipping every literal negates an operand, if the connective around it is
exchanged as well. -/
theorem eval_negate (holds : α → Bool) (operand : Operand α) :
    ∀ c : Connective, operand.negate.eval holds c.dual = !operand.eval holds c := by
  induction operand using Operand.induction with
  | literal l => intro c; simp
  | group operands ih =>
      intro c
      rw [negate_group, eval_group, eval_group, evalJoin, evalJoin, Connective.not_combine,
        List.map_map, List.map_map]
      refine congrArg _ (List.map_congr_left fun operand hoperand => ?_)
      exact ih operand hoperand c.dual

/-- De Morgan's law for a join of operands. -/
theorem evalJoin_map_negate (holds : α → Bool) (c : Connective) (operands : List (Operand α)) :
    evalJoin holds c.dual (operands.map negate) = !evalJoin holds c operands := by
  rw [evalJoin, evalJoin, Connective.not_combine, List.map_map, List.map_map]
  exact congrArg _ (List.map_congr_left fun operand _ => eval_negate holds operand c)

/-! ## Operands of a join -/

theorem evalJoin_congr (holds : α → Bool) (c : Connective) {os ps : List (Operand α)}
    (hsame : ∀ operand, operand ∈ os ↔ operand ∈ ps) :
    evalJoin holds c os = evalJoin holds c ps := by
  apply Connective.combine_congr
  intro b
  simp only [List.mem_map, hsame]

theorem evalJoin_flatMap {β : Type} (holds : α → Bool) (c : Connective)
    (operandsOf : β → List (Operand α)) (items : List β) :
    evalJoin holds c (items.flatMap operandsOf) =
      c.combine (items.map fun item => evalJoin holds c (operandsOf item)) := by
  have hjoins := c.combine_map_combine
    (items.map fun item => (operandsOf item).map (eval holds c))
  rw [List.map_map] at hjoins
  rw [evalJoin, List.map_flatMap, List.flatMap_def]
  exact hjoins.symm

/-- A variable with both signs makes a join absorbing: one of the two literals
has the absorbing value. -/
theorem evalJoin_of_clash (holds : α → Bool) (c : Connective) {operands : List (Operand α)}
    {l : Literal α} (hl : literal l ∈ operands) (hnegated : literal l.negate ∈ operands) :
    evalJoin holds c operands = !c.neutral := by
  rw [evalJoin, Connective.combine_eq_absorbing_iff, List.mem_map]
  by_cases hvalue : l.eval holds = !c.neutral
  · exact ⟨_, hl, by simpa using hvalue⟩
  · refine ⟨_, hnegated, ?_⟩
    cases hneutral : c.neutral <;> simp_all

variable [DecidableEq α]

/-- What is kept of the operands, together with the literals in `seen`, is what
there was, together with them. -/
theorem mem_settleAfter? {operand : Operand α} {seen : List (Literal α)}
    {operands kept : List (Operand α)} (hsettled : settleAfter? seen operands = some kept) :
    operand ∈ kept ++ seen.map literal ↔ operand ∈ operands ++ seen.map literal := by
  induction operands generalizing seen kept with
  | nil => simp_all [settleAfter?]
  | cons head rest ih =>
      cases head with
      | group members =>
          rw [settleAfter?, Option.map_eq_some_iff] at hsettled
          obtain ⟨kept, hrest, rfl⟩ := hsettled
          simp only [List.cons_append, List.mem_cons, ih hrest]
      | literal l =>
          rw [settleAfter?] at hsettled
          split at hsettled
          · cases hsettled
          split at hsettled
          case isTrue hl =>
            -- the literal is dropped, but it is one of those seen
            have hseen : literal l ∈ rest ++ seen.map literal :=
              List.mem_append_right _ (List.mem_map_of_mem hl)
            rw [ih hsettled, List.cons_append, List.mem_cons]
            exact ⟨Or.inr, fun hmem => hmem.elim (fun heq => heq ▸ hseen) id⟩
          case isFalse =>
            -- the literal is kept, and from here on it is one of those seen
            rw [Option.map_eq_some_iff] at hsettled
            obtain ⟨kept, hrest, rfl⟩ := hsettled
            have hmem := ih hrest
            simp only [List.map_cons, List.mem_append, List.mem_cons] at hmem ⊢
            tauto

/-- There is no result only if a literal meets its negation among the operands or
among those in `seen`. -/
theorem exists_clash_of_settleAfter? {seen : List (Literal α)} {operands : List (Operand α)}
    (hclash : settleAfter? seen operands = none) :
    ∃ l, literal l ∈ operands ∧ (l.negate ∈ seen ∨ literal l.negate ∈ operands) := by
  induction operands generalizing seen with
  | nil => simp [settleAfter?] at hclash
  | cons head rest ih =>
      cases head with
      | group members =>
          rw [settleAfter?, Option.map_eq_none_iff] at hclash
          obtain ⟨l, hl, hnegated⟩ := ih hclash
          exact ⟨l, List.mem_cons_of_mem _ hl, hnegated.imp_right (List.mem_cons_of_mem _)⟩
      | literal l =>
          rw [settleAfter?] at hclash
          split at hclash
          case isTrue hl => exact ⟨l, List.mem_cons_self, Or.inl hl⟩
          split at hclash
          case isTrue =>
            obtain ⟨m, hm, hnegated⟩ := ih hclash
            exact ⟨m, List.mem_cons_of_mem _ hm, hnegated.imp_right (List.mem_cons_of_mem _)⟩
          case isFalse =>
            rw [Option.map_eq_none_iff] at hclash
            obtain ⟨m, hm, hnegated⟩ := ih hclash
            refine ⟨m, List.mem_cons_of_mem _ hm, ?_⟩
            simp only [List.mem_cons] at hnegated ⊢
            rcases hnegated with (hhead | hseen) | hrest
            · exact Or.inr (Or.inl (congrArg literal hhead))
            · exact Or.inl hseen
            · exact Or.inr (Or.inr hrest)

theorem mem_settle? {operand : Operand α} {operands kept : List (Operand α)}
    (hsettled : settle? operands = some kept) : operand ∈ kept ↔ operand ∈ operands := by
  have hmem : operand ∈ kept ++ _ ↔ operand ∈ operands ++ _ := mem_settleAfter? hsettled
  simpa using hmem

theorem exists_clash_of_settle? {operands : List (Operand α)} (hclash : settle? operands = none) :
    ∃ l, literal l ∈ operands ∧ literal l.negate ∈ operands := by
  simpa using exists_clash_of_settleAfter? hclash

end Operand

/-! ## Expressing a formula -/

namespace NormalForm

open Operand (evalJoin)

variable {α : Type}

/-- A normal form expresses a formula if both have the same value under every
assignment. -/
def Expresses (form : NormalForm α) (formula : Formula α) : Prop :=
  ∀ holds, form.eval holds = formula.eval holds

/-- Negating a normal form negates its value. -/
@[simp] theorem eval_negate (holds : α → Bool) (form : NormalForm α) :
    form.negate.eval holds = !form.eval holds := by
  cases form with
  | const value => rfl
  | literal l => simp [negate, eval]
  | join c operands => exact Operand.evalJoin_map_negate holds c operands

/-- The operands that an item brings into a join have the value of the item. -/
theorem evalJoin_operandsIn (holds : α → Bool) (c : Connective) {form : NormalForm α}
    (hform : form ≠ const !c.neutral) :
    evalJoin holds c (operandsIn c form) = form.eval holds := by
  cases form with
  | const value =>
      have hvalue : value = c.neutral := by
        cases value <;> cases hneutral : c.neutral <;> simp_all
      simp [operandsIn, evalJoin, eval, hvalue]
  | literal l => simp [operandsIn, evalJoin, eval]
  | join inner operands =>
      by_cases hinner : inner = c
      · simp [operandsIn, hinner, eval]
      · -- a join with the dual connective comes in as one group
        rw [operandsIn, if_neg hinner, eval, Connective.eq_dual_of_ne hinner,
          ← Operand.eval_group]
        simp [evalJoin]

theorem eval_ofOperands (holds : α → Bool) (c : Connective) (operands : List (Operand α)) :
    (ofOperands c operands).eval holds = evalJoin holds c operands := by
  unfold ofOperands
  split
  case h_1 => simp [eval, evalJoin]
  case h_2 l => simp [eval, evalJoin]
  case h_3 members => simp [eval, evalJoin, Operand.eval_group]
  case h_4 => rfl

theorem combine_map_eval (holds : α → Bool) (c : Connective) {items : List (NormalForm α)}
    (hitems : const (!c.neutral) ∉ items) :
    c.combine (items.map (eval holds)) = evalJoin holds c (items.flatMap (operandsIn c)) := by
  rw [Operand.evalJoin_flatMap]
  refine congrArg _ (List.map_congr_left fun item hitem => ?_)
  exact (evalJoin_operandsIn holds c fun heq => hitems (heq ▸ hitem)).symm

/-- The normal form of a join has the combined value of its items. -/
theorem eval_joinAll [DecidableEq α] (holds : α → Bool) (c : Connective)
    (items : List (NormalForm α)) :
    (joinAll c items).eval holds = c.combine (items.map (eval holds)) := by
  unfold joinAll
  split
  case h_1 => simp [eval]
  case h_2 item => simp
  case h_3 =>
    split
    case isTrue habsorbing =>
      have hvalue : (!c.neutral) ∈ items.map (eval holds) :=
        List.mem_map.mpr ⟨_, habsorbing, rfl⟩
      rw [(c.combine_eq_absorbing_iff _).mpr hvalue, eval]
    case isFalse hitems =>
      rw [combine_map_eval holds c hitems]
      split
      case h_1 hclash =>
        obtain ⟨l, hl, hnegated⟩ := Operand.exists_clash_of_settle? hclash
        rw [Operand.evalJoin_of_clash holds c hl hnegated, eval]
      case h_2 operands hsettled =>
        rw [eval_ofOperands]
        exact Operand.evalJoin_congr holds c fun _ => Operand.mem_settle? hsettled

theorem Expresses.negate {form : NormalForm α} {formula : Formula α}
    (hexpresses : form.Expresses formula) : form.negate.Expresses (.not formula) := by
  intro holds
  rw [eval_negate, Formula.eval_not, hexpresses holds]

theorem expresses_joinAll [DecidableEq α] (c : Connective) {items : List (Formula α)}
    {formOf : Formula α → NormalForm α} (hitems : ∀ item ∈ items, (formOf item).Expresses item) :
    (joinAll c (items.map formOf)).Expresses (.join c items) := by
  intro holds
  rw [eval_joinAll, Formula.eval_join, List.map_map]
  exact congrArg _ (List.map_congr_left fun item hitem => hitems item hitem holds)

end NormalForm

namespace Formula

variable {α : Type} [DecidableEq α]

theorem expresses_normalize (formula : Formula α) : formula.normalize.Expresses formula := by
  induction formula using Formula.induction with
  | const value => intro holds; simp [NormalForm.eval]
  | var name => intro holds; simp [NormalForm.eval, Literal.eval]
  | not body ih =>
      rw [normalize_not]
      exact ih.negate
  | join c items ih =>
      rw [normalize_join]
      exact NormalForm.expresses_joinAll c ih

/-- **Normalization keeps the meaning.**  Under every assignment, the normal form
of a formula has the truth value of the formula. -/
theorem eval_normalize (formula : Formula α) (holds : α → Bool) :
    formula.normalize.eval holds = formula.eval holds :=
  expresses_normalize formula holds

end Formula

end FacetSearch
