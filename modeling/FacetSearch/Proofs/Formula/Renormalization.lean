import FacetSearch.Proofs.Formula.Contract

/-!
# Normalizing a normal form changes nothing

A normal form that is read back as a formula normalizes to itself, with its operands
in their order (`NormalForm.normalize_toFormula`).

The induction is on operands.  As an item of a join, an operand normalizes to what it
says itself, `Operand.toForm`: a literal to that literal, by the way of a negation if
it is negative, and a group to a join with the dual connective.  The rules of
normalization find nothing to do with such items.

* None of them is a constant or a join with the connective around it, so none is
  dropped or spliced (`operandsIn_toForm`).
* Their literals are about different variables, so none is dropped or clashes
  (`Operand.settleAfter?_eq_some`).
* There are at least two of them, so the join does not collapse.
-/

namespace FacetSearch

/-! ## Operands as normal forms -/

namespace Literal

variable {α : Type} [DecidableEq α]

/-- A literal normalizes to itself. -/
theorem normalize_toFormula (l : Literal α) : l.toFormula.normalize = .literal l := by
  obtain ⟨name, positive⟩ := l
  cases positive <;> simp [toFormula, NormalForm.negate, negate]

end Literal

namespace Operand

variable {α : Type}

/-- An operand of a join with the given connective, as a normal form of its own. -/
def toForm (c : Connective) : Operand α → NormalForm α
  | literal l => .literal l
  | group operands => .join c.dual operands

/-- The value of an operand is that of the formula it is read back as. -/
theorem eval_toFormula (holds : α → Bool) (operand : Operand α) :
    ∀ c : Connective, (operand.toFormula c).eval holds = operand.eval holds c := by
  induction operand using Operand.induction with
  | literal l => intro c; simp
  | group operands ih =>
      intro c
      rw [toFormula_group, Formula.eval_join, eval_group, evalJoin, List.map_map]
      refine congrArg _ (List.map_congr_left fun operand hoperand => ?_)
      exact ih operand hoperand c.dual

theorem toForm_ne_const (c : Connective) (operand : Operand α) (value : Bool) :
    operand.toForm c ≠ .const value := by
  cases operand <;> simp [toForm]

/-- An operand brings only itself into a join, since a group is of the dual connective. -/
theorem operandsIn_toForm (c : Connective) (operand : Operand α) :
    NormalForm.operandsIn c (operand.toForm c) = [operand] := by
  cases operand with
  | literal l => rfl
  | group operands =>
      have hdual : c.dual ≠ c := by cases c <;> simp [Connective.dual]
      rw [toForm, NormalForm.operandsIn, if_neg hdual]

variable [DecidableEq α]

/-- Literals about different variables, none of them seen before, are all kept. -/
theorem settleAfter?_eq_some {seen : List (Literal α)} {operands : List (Operand α)}
    (hnodup : ((literals operands).map Literal.name).Nodup)
    (hnew : ∀ l ∈ literals operands, l.name ∉ seen.map Literal.name) :
    settleAfter? seen operands = some operands := by
  induction operands generalizing seen with
  | nil => rfl
  | cons head rest ih =>
      cases head with
      | group members =>
          rw [settleAfter?, ih hnodup hnew]
          rfl
      | literal l =>
          rw [literals_literal_cons, List.forall_mem_cons] at hnew
          rw [literals_literal_cons, List.map_cons, List.nodup_cons] at hnodup
          obtain ⟨hnegated, hsame⟩ := Literal.name_notMem_iff.mp hnew.1
          have hrest : settleAfter? (l :: seen) rest = some rest := by
            refine ih hnodup.2 fun m hm => ?_
            rw [List.map_cons, List.mem_cons, not_or]
            refine ⟨fun hname => hnodup.1 ?_, hnew.2 m hm⟩
            exact hname ▸ List.mem_map_of_mem hm
          rw [settleAfter?, if_neg hnegated, if_neg hsame, hrest]
          rfl

end Operand

/-! ## Joins of operands -/

namespace NormalForm

variable {α : Type} [DecidableEq α]

omit [DecidableEq α] in
theorem ofOperands_of_two_le (c : Connective) {operands : List (Operand α)}
    (htwo : 2 ≤ operands.length) : ofOperands c operands = join c operands := by
  match operands with
  | [] | [_] => simp at htwo
  | _ :: _ :: _ => simp [ofOperands]

/-- The operands of a normal join, put together once more, are that join. -/
theorem joinAll_map_toForm (c : Connective) {operands : List (Operand α)}
    (hnormal : (Operand.group operands).IsNormal) :
    joinAll c (operands.map (Operand.toForm c)) = join c operands := by
  obtain ⟨htwo, hnodup, -⟩ := Operand.isNormal_group_iff.mp hnormal
  have habsorbing : const (!c.neutral) ∉ operands.map (Operand.toForm c) := by
    intro hmem
    obtain ⟨operand, -, heq⟩ := List.mem_map.mp hmem
    exact Operand.toForm_ne_const c operand _ heq
  have hspliced : (operands.map (Operand.toForm c)).flatMap (operandsIn c) = operands := by
    rw [List.flatMap_map]
    simp only [Operand.operandsIn_toForm, List.flatMap_singleton']
  have hsettled : Operand.settle? operands = some operands :=
    Operand.settleAfter?_eq_some hnodup (by simp)
  match operands with
  | [] | [_] => simp at htwo
  | first :: second :: rest =>
      rw [List.map_cons, List.map_cons] at habsorbing hspliced ⊢
      simp only [joinAll]
      rw [if_neg habsorbing, hspliced, hsettled]
      exact ofOperands_of_two_le c htwo

end NormalForm

/-! ## Normal forms -/

theorem Operand.normalize_toFormula {α : Type} [DecidableEq α] {operand : Operand α}
    (hnormal : operand.IsNormal) :
    ∀ c : Connective, (operand.toFormula c).normalize = operand.toForm c := by
  induction operand using Operand.induction with
  | literal l =>
      intro c
      rw [toFormula_literal, Literal.normalize_toFormula, toForm]
  | group operands ih =>
      intro c
      obtain ⟨-, -, hoperands⟩ := isNormal_group_iff.mp hnormal
      have hitems : (operands.map (toFormula c.dual)).map Formula.normalize =
          operands.map (toForm c.dual) := by
        rw [List.map_map]
        exact List.map_congr_left fun operand hoperand =>
          ih operand hoperand (hoperands operand hoperand) c.dual
      rw [toFormula_group, Formula.normalize_join, hitems,
        NormalForm.joinAll_map_toForm c.dual hnormal, toForm]

namespace NormalForm

variable {α : Type}

/-- A join is read back as a group in a join of the dual connective is. -/
theorem toFormula_join (c : Connective) (operands : List (Operand α)) :
    (join c operands).toFormula = (Operand.group operands).toFormula c.dual := by
  rw [Operand.toFormula_group, Connective.dual_dual, toFormula]

theorem eval_toFormula (form : NormalForm α) (holds : α → Bool) :
    form.toFormula.eval holds = form.eval holds := by
  cases form with
  | const value => simp [toFormula, eval]
  | literal l => exact l.eval_toFormula holds
  | join c operands =>
      rw [toFormula_join, Operand.eval_toFormula, Operand.eval_group, Connective.dual_dual, eval]

variable [DecidableEq α]

theorem normalize_toFormula {form : NormalForm α} (hnormal : form.IsNormal) :
    form.toFormula.normalize = form := by
  cases form with
  | const value => simp [toFormula]
  | literal l => exact l.normalize_toFormula
  | join c operands =>
      rw [toFormula_join, Operand.normalize_toFormula hnormal, Operand.toForm,
        Connective.dual_dual]

/-- **Normalizing a normal form changes nothing.**  A normal form that is normal
normalizes to itself when it is read back as a formula, and the formula has its value
under every assignment.  The normal forms of formulas and their negations are normal,
so a formula that has been normalized and read back stays what it is. -/
theorem normalize_toFormula_eq_self :
    (∀ form : NormalForm α, form.IsNormal →
      form.toFormula.normalize = form ∧ ∀ holds, form.toFormula.eval holds = form.eval holds) ∧
      ∀ formula : Formula α, formula.normalize.IsNormal ∧ formula.normalize.negate.IsNormal ∧
        formula.normalize.toFormula.normalize.toFormula = formula.normalize.toFormula := by
  refine ⟨fun form hnormal => ⟨normalize_toFormula hnormal, form.eval_toFormula⟩, fun formula => ?_⟩
  have hnormal := formula.isNormal_normalize
  exact ⟨hnormal, hnormal.negate, congrArg toFormula (normalize_toFormula hnormal)⟩

/-- With a negative literal, two equal groups and a group inside a group. -/
theorem normalize_toFormula_eq_self_sample :
    ∃ form : NormalForm String,
      form = .join .any [.literal ⟨"a", false⟩,
        .group [.literal ⟨"b", true⟩, .literal ⟨"a", true⟩],
        .group [.literal ⟨"b", true⟩, .literal ⟨"a", true⟩],
        .group [.literal ⟨"c", true⟩, .group [.literal ⟨"c", false⟩, .literal ⟨"a", false⟩]]] ∧
      form.IsNormal ∧ form.toFormula.normalize = form ∧
      ∀ holds, form.toFormula.eval holds = form.eval holds := by
  refine ⟨_, rfl, ?_⟩
  have hnormal : IsNormal (.join .any [.literal ⟨"a", false⟩,
      .group [.literal ⟨"b", true⟩, .literal ⟨"a", true⟩],
      .group [.literal ⟨"b", true⟩, .literal ⟨"a", true⟩],
      .group [.literal ⟨"c", true⟩, .group [.literal ⟨"c", false⟩, .literal ⟨"a", false⟩]]]) := by
    decide
  exact ⟨hnormal, normalize_toFormula_eq_self.1 _ hnormal⟩

end NormalForm

end FacetSearch
