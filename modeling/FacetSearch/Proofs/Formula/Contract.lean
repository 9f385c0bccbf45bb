import FacetSearch.Formula.Contract
import FacetSearch.Proofs.Formula.Normality
import Mathlib.Data.List.Nodup

/-!
# The contract of normal forms is never broken

The check of a normal form passes exactly if the normal form is normal
(`NormalForm.check_eq_ok_iff`).  The invariant of the walk through the operands of a
join is that what has been seen is the literals passed so far, so an operand passes
if it is normal itself and is about a variable that is new to these
(`Operand.check_eq_ok_iff`).

Normalization counts operands only where two or more are left, so counting them
changes nothing (`Formula.normalizeCounted_eq`).  Together with the normality of the
results, no check fails on anything that comes from a formula by normalizing,
negating and normalizing again, as often as one likes.
-/

namespace FacetSearch

/-! ## Results in sequence -/

section Except

variable {ε β γ : Type}

theorem bind_eq_ok_iff {result : Except ε β} {next : β → Except ε γ} {final : γ} :
    result.bind next = .ok final ↔ ∃ value, result = .ok value ∧ next value = .ok final := by
  cases result <;> simp [Except.bind]

theorem map_eq_ok_iff {result : Except ε β} {f : β → γ} {final : γ} :
    result.map f = .ok final ↔ ∃ value, result = .ok value ∧ f value = final := by
  cases result <;> simp [Except.map]

end Except

/-! ## What the check finds -/

namespace Operand

variable {α : Type} [DecidableEq α]

/-- What `check` answers for an operand when no two of the literals in `seen` are about
one variable: it passes if it is normal and no two of them are after it. -/
def ChecksNormality (operand : Operand α) : Prop :=
  ∀ {seen after : List (Literal α)}, (seen.map Literal.name).Nodup →
    (check seen operand = .ok after ↔
      operand.IsNormal ∧ after = literals [operand] ++ seen ∧ (after.map Literal.name).Nodup)

theorem checkEach_eq_ok_iff {operands : List (Operand α)} {seen after : List (Literal α)}
    (hoperands : ∀ operand ∈ operands, operand.ChecksNormality)
    (hseen : (seen.map Literal.name).Nodup) :
    checkEach seen operands = .ok after ↔
      (∀ operand ∈ operands, operand.IsNormal) ∧
        after = (literals operands).reverse ++ seen ∧ (after.map Literal.name).Nodup := by
  induction operands generalizing seen with
  | nil =>
      rw [checkEach, Except.ok.injEq]
      constructor
      · rintro rfl
        exact ⟨nofun, rfl, hseen⟩
      · rintro ⟨-, rfl, -⟩
        rfl
  | cons head rest ih =>
      obtain ⟨hhead, hrest⟩ := List.forall_mem_cons.mp hoperands
      have hliterals : (literals (head :: rest)).reverse ++ seen =
          (literals rest).reverse ++ (literals [head] ++ seen) := by
        cases head <;> simp
      rw [checkEach, bind_eq_ok_iff, List.forall_mem_cons, hliterals]
      constructor
      · rintro ⟨middle, hmiddle, hafter⟩
        obtain ⟨hnormal, rfl, hnames⟩ := (hhead hseen).mp hmiddle
        obtain ⟨hnormals, heq, hnames⟩ := (ih hrest hnames).mp hafter
        exact ⟨⟨hnormal, hnormals⟩, heq, hnames⟩
      · rintro ⟨⟨hnormal, hnormals⟩, rfl, hnames⟩
        -- what has been seen after the first operand is part of what is seen at the end
        have hmiddle : ((literals [head] ++ seen).map Literal.name).Nodup := by
          rw [List.map_append] at hnames
          exact (List.nodup_append.mp hnames).2.1
        exact ⟨_, (hhead hseen).mpr ⟨hnormal, rfl, hmiddle⟩,
          (ih hrest hmiddle).mpr ⟨hnormals, rfl, hnames⟩⟩

theorem checksNormality_literal (l : Literal α) : (literal l).ChecksNormality := by
  intro seen after hseen
  -- the two tests of a literal ask whether its variable is new
  have hnames : ((l :: seen).map Literal.name).Nodup ↔ l.negate ∉ seen ∧ l ∉ seen := by
    rw [List.map_cons, List.nodup_cons, Literal.name_notMem_iff]
    exact and_iff_left hseen
  simp only [check, List.contains_iff_mem]
  split
  case isTrue hnegated =>
    simp only [reduceCtorEq, false_iff]
    rintro ⟨-, rfl, hafter⟩
    exact (hnames.mp hafter).1 hnegated
  case isFalse hnegated =>
    split
    case isTrue hsame =>
      simp only [reduceCtorEq, false_iff]
      rintro ⟨-, rfl, hafter⟩
      exact (hnames.mp hafter).2 hsame
    case isFalse hsame =>
      rw [Except.ok.injEq]
      constructor
      · rintro rfl
        exact ⟨isNormal_literal l, rfl, hnames.mpr ⟨hnegated, hsame⟩⟩
      · rintro ⟨-, rfl, -⟩
        rfl

theorem checksNormality_group {operands : List (Operand α)}
    (hoperands : ∀ operand ∈ operands, operand.ChecksNormality) :
    (group operands).ChecksNormality := by
  intro seen after hseen
  rw [check]
  split
  case isTrue hfew =>
    simp only [reduceCtorEq, false_iff]
    rintro ⟨hnormal, -⟩
    have htwo := (isNormal_group_iff.mp hnormal).1
    omega
  case isFalse hfew =>
    have htwo : 2 ≤ operands.length := by omega
    rw [map_eq_ok_iff, isNormal_group_iff]
    -- the members are checked by themselves, and what has been seen outside stays as it is
    have hinner : ∀ inner, checkEach [] operands = .ok inner ↔ _ :=
      fun inner => checkEach_eq_ok_iff hoperands (by simp)
    simp only [hinner]
    constructor
    · rintro ⟨inner, ⟨hnormals, rfl, hnames⟩, rfl⟩
      rw [List.append_nil, List.map_reverse, List.nodup_reverse] at hnames
      exact ⟨⟨htwo, hnames, hnormals⟩, rfl, hseen⟩
    · rintro ⟨⟨-, hnames, hnormals⟩, rfl, -⟩
      refine ⟨_, ⟨hnormals, rfl, ?_⟩, rfl⟩
      rwa [List.append_nil, List.map_reverse, List.nodup_reverse]

theorem checksNormality (operand : Operand α) : operand.ChecksNormality := by
  induction operand using Operand.induction with
  | literal l => exact checksNormality_literal l
  | group operands ih => exact checksNormality_group ih

end Operand

namespace NormalForm

variable {α : Type} [DecidableEq α]

/-- A normal form passes its check exactly if it is normal. -/
theorem check_eq_ok_iff {form : NormalForm α} : form.check = .ok () ↔ form.IsNormal := by
  cases form with
  | const value => simp [check, IsNormal]
  | literal l => simp [check, IsNormal]
  | join c operands =>
      rw [check, map_eq_ok_iff, IsNormal]
      constructor
      · rintro ⟨after, hcheck, -⟩
        exact ((Operand.checksNormality _ (by simp)).mp hcheck).1
      · intro hnormal
        exact ⟨_, (Operand.checksNormality _ (by simp)).mpr ⟨hnormal, rfl, by simp⟩, rfl⟩

instance (form : NormalForm α) : Decidable form.IsNormal :=
  match hcheck : form.check with
  | .ok () => isTrue (check_eq_ok_iff.mp hcheck)
  | .error fault =>
      isFalse fun hnormal => by
        rw [check_eq_ok_iff.mpr hnormal] at hcheck
        cases hcheck

/-! ## Counting operands -/

omit [DecidableEq α] in
theorem ofOperandsChecked_eq (c : Connective) (operands : List (Operand α)) :
    ofOperandsChecked c operands = .ok (ofOperands c operands) := by
  match operands with
  | [] => rfl
  | [.literal l] => rfl
  | [.group members] => rfl
  | _ :: _ :: rest => simp [ofOperandsChecked, ofOperands, joinChecked]

/-- Counting the operands finds nothing wrong where a join is made of two or more. -/
theorem joinAllChecked_eq (c : Connective) (items : List (NormalForm α)) :
    joinAllChecked c items = .ok (joinAll c items) := by
  match items with
  | [] => rfl
  | [item] => rfl
  | item :: other :: rest =>
      simp only [joinAllChecked, joinAll, List.contains_iff_mem]
      split
      case isTrue => rfl
      case isFalse =>
        cases Operand.settle? ((item :: other :: rest).flatMap (operandsIn c)) with
        | none => rfl
        | some operands => exact ofOperandsChecked_eq c operands

end NormalForm

namespace Formula

variable {α : Type} [DecidableEq α]

theorem normalizeCountedEach_eq {items : List (Formula α)}
    (hitems : ∀ item ∈ items, item.normalizeCounted = .ok item.normalize) :
    normalizeCountedEach items = .ok (items.map normalize) := by
  induction items with
  | nil => rfl
  | cons item rest ih =>
      obtain ⟨hitem, hrest⟩ := List.forall_mem_cons.mp hitems
      rw [normalizeCountedEach, hitem, ih hrest]
      rfl

theorem normalizeCounted_eq (formula : Formula α) :
    formula.normalizeCounted = .ok formula.normalize := by
  induction formula using Formula.induction with
  | const value => simp [normalizeCounted]
  | var name => simp [normalizeCounted]
  | not body ih =>
      rw [normalizeCounted, ih, normalize_not]
      rfl
  | join c items ih =>
      rw [normalizeCounted, normalizeCountedEach_eq ih, normalize_join]
      exact NormalForm.joinAllChecked_eq c _

theorem normalizeChecked_eq (formula : Formula α) :
    formula.normalizeChecked = .ok formula.normalize := by
  have hcheck := NormalForm.check_eq_ok_iff.mpr formula.isNormal_normalize
  rw [normalizeChecked, normalizeCounted_eq, Except.bind, hcheck]
  rfl

/-! ## All that comes from a formula -/

/-- The normal forms that come from a formula by normalizing it, by negating, and by
normalizing what a normal form says once more. -/
inductive Yields (formula : Formula α) : NormalForm α → Prop
  | normalize : Yields formula formula.normalize
  | negate {form : NormalForm α} : Yields formula form → Yields formula form.negate
  | renormalize {form : NormalForm α} :
      Yields formula form → Yields formula form.toFormula.normalize

theorem Yields.isNormal {formula : Formula α} {form : NormalForm α}
    (hyields : formula.Yields form) : form.IsNormal := by
  induction hyields with
  | normalize => exact formula.isNormal_normalize
  | negate _ ih => exact ih.negate
  | renormalize _ _ => exact isNormal_normalize _

/-- **The contract of normal forms is never broken.**  Whatever comes from a formula by
normalizing it, by any number of negations and by normalizing again what has come of it
is normal at every depth and passes the check, and normalizing with the checks in place
gives what it gives without them. -/
theorem isNormal_and_check_of_yields {formula : Formula α} {form : NormalForm α}
    (hyields : formula.Yields form) :
    form.IsNormal ∧ form.check = .ok () ∧
      formula.normalizeChecked = .ok formula.normalize ∧
      form.toFormula.normalizeChecked = .ok form.toFormula.normalize := by
  have hnormal := hyields.isNormal
  exact ⟨hnormal, NormalForm.check_eq_ok_iff.mpr hnormal, normalizeChecked_eq formula,
    normalizeChecked_eq form.toFormula⟩

/-- A conjunction with a negated disjunction to splice in, negated and normalized again:
the literal that comes twice is dropped, and the nested conjunction stays a group. -/
theorem isNormal_and_check_of_yields_sample :
    ∃ formula : Formula String,
      formula = .join .all [.var "a", .not (.join .any [.not (.var "a"), .var "b"]),
        .join .any [.var "c", .join .all [.var "a", .var "c"]]] ∧
      ∃ form : NormalForm String,
        form = .join .any [.literal ⟨"a", false⟩, .literal ⟨"b", true⟩,
          .group [.literal ⟨"c", false⟩,
            .group [.literal ⟨"a", false⟩, .literal ⟨"c", false⟩]]] ∧
        formula.Yields form ∧ form.IsNormal ∧ form.check = .ok () ∧
        formula.normalizeChecked = .ok formula.normalize ∧
        form.toFormula.normalizeChecked = .ok form.toFormula.normalize := by
  refine ⟨_, rfl, _, rfl, ?_⟩
  have hyields : Yields (.join .all [.var "a", .not (.join .any [.not (.var "a"), .var "b"]),
      .join .any [.var "c", .join .all [.var "a", .var "c"]]]) _ :=
    Yields.renormalize (Yields.negate Yields.normalize)
  exact ⟨hyields, isNormal_and_check_of_yields hyields⟩

end Formula

end FacetSearch
