import FacetSearch.Proofs.Formula.Gathering
import FacetSearch.Proofs.Formula.NegationNormal

/-!
# Formulas with one connective are normalized completely

Normalization keeps the meaning of every formula, but formulas with the same meaning may
have different normal forms.  Not so if a formula joins by one connective only, once its
negations are pushed down to the variables (`Formula.JoinsBy`).  Such a conjunction, or
such a disjunction, normalizes to a constant exactly if it has that value under every
assignment, and otherwise to the literals that it depends on.

All its operands are literals, at one level (`NormalForm.IsFlat`), and no two of them
clash.  So there is an assignment that gives all of them the same value, whichever one
likes (`Literal.exists_eval_eq`).

* Hence the formula has both values, unless it is a constant
  (`NormalForm.IsFlat.exists_eval_eq`).
* A literal that one of two formulas has and the other has not tells them apart.  Added
  to the other one with the opposite sign, it makes no clash, and under an assignment
  that makes all of these neutral the first formula has its absorbing value
  (`NormalForm.IsFlat.mem_literals_of_eval_eq`).
-/

namespace FacetSearch

/-! ## Assignments for literals without a clash -/

namespace Literal

variable {α : Type} [DecidableEq α]

/-- Literals without a clash can all be given the same value. -/
theorem exists_eval_eq {literals : List (Literal α)} (hfree : AreClashFree literals)
    (value : Bool) : ∃ holds, ∀ l ∈ literals, l.eval holds = value := by
  -- a variable is as its literal says, or the other way round if that is to be false
  refine ⟨fun name => decide (⟨name, true⟩ ∈ literals) == value, fun l hl => ?_⟩
  obtain ⟨name, positive⟩ := l
  cases positive with
  | true => simp [eval, hl]
  | false =>
      have hnegated : (⟨name, true⟩ : Literal α) ∉ literals := hfree _ hl
      simp [eval, hnegated]

end Literal

/-! ## Joins of literals -/

/-- Items that all have one value give it to their join, if there are any. -/
theorem Connective.combine_eq_of_forall (c : Connective) {bs : List Bool} {value : Bool}
    (hne : bs ≠ []) (hbs : ∀ b ∈ bs, b = value) : c.combine bs = value := by
  rw [← c.combine_singleton value]
  refine combine_congr fun b => ?_
  rw [List.mem_singleton]
  refine ⟨hbs b, ?_⟩
  rintro rfl
  obtain ⟨b', hb'⟩ := List.exists_mem_of_ne_nil bs hne
  exact hbs b' hb' ▸ hb'

namespace Operand

variable {α : Type}

theorem eq_map_literals {operands : List (Operand α)}
    (hflat : ∀ operand ∈ operands, ∃ l, operand = literal l) :
    operands = (literals operands).map literal := by
  induction operands with
  | nil => rfl
  | cons head rest ih =>
      obtain ⟨⟨l, rfl⟩, hrest⟩ := List.forall_mem_cons.mp hflat
      rw [literals_literal_cons, List.map_cons, ← ih hrest]

end Operand

namespace NormalForm

variable {α : Type}

/-- The literals of a normal form that are in no group. -/
def literals : NormalForm α → List (Literal α)
  | const _ => []
  | literal l => [l]
  | join _ operands => Operand.literals operands

theorem IsNormal.areClashFree_literals {form : NormalForm α} (hnormal : form.IsNormal) :
    Literal.AreClashFree form.literals := by
  apply Literal.areClashFree_of_nodup
  cases form with
  | const value => simp [literals]
  | literal l => simp [literals]
  | join c operands => exact (Operand.isNormal_group_iff.mp hnormal).2.1

/-- A normal form is flat for a connective if it brings only literals into a join. -/
def IsFlat (c : Connective) (form : NormalForm α) : Prop :=
  ∀ operand ∈ operandsIn c form, ∃ l, operand = .literal l

theorem isFlat_join_iff {c inner : Connective} {operands : List (Operand α)} :
    (join inner operands).IsFlat c ↔
      inner = c ∧ ∀ operand ∈ operands, ∃ l, operand = .literal l := by
  rw [IsFlat, operandsIn]
  split
  case isTrue hinner => simp [hinner]
  case isFalse hinner => simp [hinner]

namespace IsFlat

variable {c : Connective} {form form' : NormalForm α}

theorem negate (hflat : form.IsFlat c.dual) : form.negate.IsFlat c := by
  intro operand hoperand
  rw [← c.dual_dual, operandsIn_negate] at hoperand
  obtain ⟨positive, hpositive, rfl⟩ := List.mem_map.mp hoperand
  obtain ⟨l, rfl⟩ := hflat positive hpositive
  exact ⟨l.negate, Operand.negate_literal l⟩

theorem operandsIn_eq (hflat : form.IsFlat c) : operandsIn c form = form.literals.map .literal := by
  cases form with
  | const value => rfl
  | literal l => rfl
  | join inner operands =>
      obtain ⟨hinner, hliterals⟩ := isFlat_join_iff.mp hflat
      rw [operandsIn, if_pos hinner, literals, ← Operand.eq_map_literals hliterals]

/-- A flat normal form is a constant, a literal, or a join of literals. -/
theorem cases (hflat : form.IsFlat c) :
    (∃ value, form = .const value) ∨ (∃ l, form = .literal l) ∨
      form = .join c (form.literals.map .literal) := by
  cases form with
  | const value => exact Or.inl ⟨value, rfl⟩
  | literal l => exact Or.inr (Or.inl ⟨l, rfl⟩)
  | join inner operands =>
      obtain ⟨rfl, hliterals⟩ := isFlat_join_iff.mp hflat
      exact Or.inr (Or.inr (by rw [literals, ← Operand.eq_map_literals hliterals]))

/-- A flat normal form has the combined value of its literals. -/
theorem eval_eq (hflat : form.IsFlat c) (hform : form ≠ .const !c.neutral) (holds : α → Bool) :
    form.eval holds = c.combine (form.literals.map (Literal.eval holds)) := by
  rw [← evalJoin_operandsIn holds c hform, hflat.operandsIn_eq, Operand.evalJoin, List.map_map]
  simp [Function.comp_def]

theorem literals_ne_nil (hflat : form.IsFlat c) (hnormal : form.IsNormal)
    (hform : ∀ value, form ≠ .const value) : form.literals ≠ [] := by
  rcases hflat.cases with ⟨value, rfl⟩ | ⟨l, rfl⟩ | hjoin
  · exact absurd rfl (hform value)
  · simp [literals]
  · intro hnil
    rw [hjoin, hnil] at hnormal
    simpa using (Operand.isNormal_group_iff.mp hnormal).1

variable [DecidableEq α]

/-- A flat normal form has both values, unless it is a constant. -/
theorem exists_eval_eq (hflat : form.IsFlat c) (hnormal : form.IsNormal)
    (hform : ∀ value, form ≠ .const value) (value : Bool) : ∃ holds, form.eval holds = value := by
  obtain ⟨holds, hliterals⟩ := Literal.exists_eval_eq hnormal.areClashFree_literals value
  refine ⟨holds, ?_⟩
  rw [hflat.eval_eq (hform _)]
  apply c.combine_eq_of_forall
  · simpa using hflat.literals_ne_nil hnormal hform
  · simpa using hliterals

/-- Flat normal forms with the same value under every assignment have the same literals. -/
theorem mem_literals_of_eval_eq (hflat : form.IsFlat c) (hflat' : form'.IsFlat c)
    (hnormal' : form'.IsNormal) (hform : form ≠ .const !c.neutral)
    (hform' : form' ≠ .const !c.neutral)
    (hsame : ∀ holds, form.eval holds = form'.eval holds) {l : Literal α}
    (hl : l ∈ form.literals) : l ∈ form'.literals := by
  by_contra hmissing
  have hfree : Literal.AreClashFree (l.negate :: form'.literals) :=
    hnormal'.areClashFree_literals.cons (by rwa [Literal.negate_negate])
  obtain ⟨holds, hliterals⟩ := Literal.exists_eval_eq hfree c.neutral
  rw [List.forall_mem_cons, Literal.eval_negate] at hliterals
  obtain ⟨hnegated, hneutral⟩ := hliterals
  -- what makes the negation of `l` neutral makes `l` absorbing
  have habsorbing : form.eval holds = !c.neutral := by
    rw [hflat.eval_eq hform, c.combine_eq_absorbing_iff, List.mem_map]
    exact ⟨l, hl, by rw [← hnegated, Bool.not_not]⟩
  have hvalue : form'.eval holds ≠ !c.neutral := by
    rw [hflat'.eval_eq hform', ne_eq, c.combine_eq_absorbing_iff, List.mem_map]
    rintro ⟨m, hm, hmvalue⟩
    rw [hneutral m hm] at hmvalue
    simp at hmvalue
  exact hvalue (hsame holds ▸ habsorbing)

/-- Two flat normal forms that are no constants have the same literals exactly if they have
the same value under every assignment. -/
theorem literals_iff_eval (hflat : form.IsFlat c) (hflat' : form'.IsFlat c)
    (hnormal : form.IsNormal) (hnormal' : form'.IsNormal) (hform : form ≠ .const !c.neutral)
    (hform' : form' ≠ .const !c.neutral) :
    (∀ l, l ∈ form.literals ↔ l ∈ form'.literals) ↔
      ∀ holds, form.eval holds = form'.eval holds := by
  constructor
  · intro hliterals holds
    rw [hflat.eval_eq hform, hflat'.eval_eq hform']
    refine Connective.combine_congr fun b => ?_
    simp only [List.mem_map, hliterals]
  · intro hsame l
    exact ⟨hflat.mem_literals_of_eval_eq hflat' hnormal' hform hform' hsame,
      hflat'.mem_literals_of_eval_eq hflat hnormal hform' hform fun holds => (hsame holds).symm⟩

end IsFlat

end NormalForm

/-! ## Formulas with one connective -/

namespace Formula

variable {α : Type}

/-- Formulas that join by the given connective only, once their negations are pushed down to
the variables: under a negation they join by the other one. -/
inductive JoinsBy : Connective → Formula α → Prop
  | const (c : Connective) (value : Bool) : JoinsBy c (.const value)
  | var (c : Connective) (name : α) : JoinsBy c (.var name)
  | not {c : Connective} {body : Formula α} : JoinsBy c.dual body → JoinsBy c (.not body)
  | join {c : Connective} {items : List (Formula α)} :
      (∀ item ∈ items, JoinsBy c item) → JoinsBy c (.join c items)

@[simp] theorem joinsBy_not_iff {c : Connective} {body : Formula α} :
    (not body).JoinsBy c ↔ body.JoinsBy c.dual :=
  ⟨fun hjoins => by cases hjoins; assumption, .not⟩

@[simp] theorem joinsBy_join_iff {c inner : Connective} {items : List (Formula α)} :
    (join inner items).JoinsBy c ↔ inner = c ∧ ∀ item ∈ items, item.JoinsBy c := by
  constructor
  · intro hjoins
    cases hjoins with
    | join hitems => exact ⟨rfl, hitems⟩
  · rintro ⟨rfl, hitems⟩
    exact .join hitems

variable [DecidableEq α]

/-- What a formula with one connective normalizes to has no groups. -/
theorem JoinsBy.isFlat_normalize {c : Connective} {formula : Formula α}
    (hjoins : formula.JoinsBy c) : formula.normalize.IsFlat c := by
  induction hjoins with
  | const c value =>
      rw [normalize_const]
      exact nofun
  | var c name =>
      rw [normalize_var]
      exact List.forall_mem_singleton.mpr ⟨_, rfl⟩
  | not _ ih =>
      rw [normalize_not]
      exact ih.negate
  | @join c items _ ih =>
      rcases normalize_join_cases c items with habsorbing | ⟨kept, hsettled, hkept⟩
      · rw [habsorbing]
        exact nofun
      · rw [hkept, NormalForm.IsFlat, NormalForm.operandsIn_ofOperands]
        intro operand hoperand
        obtain ⟨form, hform, hin⟩ :=
          List.mem_flatMap.mp ((Operand.mem_settle? hsettled).mp hoperand)
        obtain ⟨item, hitem, rfl⟩ := List.mem_map.mp hform
        exact ih item hitem operand hin

/-- A formula with one connective normalizes to a constant exactly if it has that value under
every assignment. -/
theorem JoinsBy.normalize_eq_const_iff {c : Connective} {formula : Formula α}
    (hjoins : formula.JoinsBy c) (value : Bool) :
    formula.normalize = .const value ↔ ∀ holds, formula.eval holds = value := by
  constructor
  · intro hconst holds
    rw [← eval_normalize, hconst, NormalForm.eval]
  · intro hvalue
    by_contra hne
    have hform : ∀ other, formula.normalize ≠ .const other := by
      intro other hother
      have heq : other = value := by
        rw [← hvalue fun _ => true, ← eval_normalize, hother, NormalForm.eval]
      exact hne (heq ▸ hother)
    obtain ⟨holds, hholds⟩ :=
      hjoins.isFlat_normalize.exists_eval_eq formula.isNormal_normalize hform (!value)
    rw [eval_normalize, hvalue holds] at hholds
    simp at hholds

/-- **Formulas with one connective are normalized completely.**  Let formulas be built, but for
their negations, with one connective only.  Such a formula normalizes to a constant exactly if
it has that value under every assignment, and otherwise to a literal or a join of literals.
Two of them that do not normalize to constants have the same literals in their normal forms
exactly if they have the same value under every assignment. -/
theorem normalize_complete_of_joinsBy (c : Connective) :
    (∀ formula : Formula α, formula.JoinsBy c →
      (∀ value, formula.normalize = .const value ↔ ∀ holds, formula.eval holds = value) ∧
      ((∀ value, formula.normalize ≠ .const value) →
        (∃ l, formula.normalize = .literal l) ∨
          ∃ ls : List (Literal α), formula.normalize = .join c (ls.map .literal))) ∧
    ∀ f g : Formula α, f.JoinsBy c → g.JoinsBy c → (∀ value, f.normalize ≠ .const value) →
      (∀ value, g.normalize ≠ .const value) →
        ((∀ l, l ∈ f.normalize.literals ↔ l ∈ g.normalize.literals) ↔
          ∀ holds, f.eval holds = g.eval holds) := by
  constructor
  · intro formula hjoins
    refine ⟨hjoins.normalize_eq_const_iff, fun hform => ?_⟩
    rcases hjoins.isFlat_normalize.cases with ⟨value, hvalue⟩ | hliteral | hjoin
    · exact absurd hvalue (hform value)
    · exact Or.inl hliteral
    · exact Or.inr ⟨_, hjoin⟩
  · intro f g hf hg hfConst hgConst
    have hiff := hf.isFlat_normalize.literals_iff_eval hg.isFlat_normalize f.isNormal_normalize
      g.isNormal_normalize (hfConst _) (hgConst _)
    simpa only [eval_normalize] using hiff

/-- Two conjunctions, one with a double negation, a literal that is repeated and a neutral
constant. -/
theorem normalize_complete_of_joinsBy_sample :
    ∃ f g : Formula String,
      f = all [var "a", not (any [not (var "b"), not (all [not (var "c"), var "a"])])] ∧
      g = not (any [var "c", const false, not (all [var "b", var "a"])]) ∧
      f.JoinsBy .all ∧ g.JoinsBy .all ∧ (∀ value, f.normalize ≠ .const value) ∧
      (∀ value, g.normalize ≠ .const value) ∧
      (∀ value, f.normalize = .const value ↔ ∀ holds, f.eval holds = value) ∧
      ((∃ l, f.normalize = .literal l) ∨
        ∃ ls : List (Literal String), f.normalize = .join .all (ls.map .literal)) ∧
      ((∀ l, l ∈ f.normalize.literals ↔ l ∈ g.normalize.literals) ↔
        ∀ holds, f.eval holds = g.eval holds) := by
  refine ⟨_, _, rfl, rfl, ?_⟩
  have hf : JoinsBy .all (all [var "a",
      not (any [not (var "b"), not (all [not (var "c"), var "a"])])]) := by
    simp [JoinsBy.var, Connective.dual]
  have hg : JoinsBy .all (not (any [var "c", const false, not (all [var "b", var "a"])])) := by
    simp [JoinsBy.const, JoinsBy.var, Connective.dual]
  have hfConst : ∀ value, (all [var "a",
      not (any [not (var "b"), not (all [not (var "c"), var "a"])])]).normalize ≠
        .const value := by
    decide
  have hgConst : ∀ value,
      (not (any [var "c", const false, not (all [var "b", var "a"])])).normalize ≠
        .const value := by
    decide
  obtain ⟨hone, htwo⟩ := normalize_complete_of_joinsBy (α := String) .all
  exact ⟨hf, hg, hfConst, hgConst, (hone _ hf).1, (hone _ hf).2 hfConst,
    htwo _ _ hf hg hfConst hgConst⟩

end Formula

end FacetSearch
