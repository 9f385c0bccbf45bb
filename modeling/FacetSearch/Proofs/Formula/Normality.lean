import FacetSearch.Proofs.Formula.Meaning

/-!
# Normalization yields normal forms

Every normal form that normalization or negation hands on satisfies
`NormalForm.IsNormal`: at every depth, a join has at least two operands, and its
literals are about different variables.

Each rule of normalization keeps this.  Negation flips signs and leaves names and
numbers of operands alone (`Operand.IsNormal.negate`).  Splicing can bring together
operands that clash, but they pass `Operand.settle?` afterwards.  Its invariant is
that the names of the literals that are kept are new: they differ from one another
and from the names of all literals seen before (`new_of_settleAfter?`).  A join that
is left with a single group becomes that group, which is normal already
(`isNormal_ofOperands`).
-/

namespace FacetSearch

/-! ## Literals by name -/

namespace Literal

variable {α : Type}

@[simp] theorem name_negate (l : Literal α) : l.negate.name = l.name := rfl

/-- Literals about the same variable differ at most in the sign. -/
theorem eq_or_eq_negate {l m : Literal α} (hname : l.name = m.name) : l = m ∨ l.negate = m := by
  obtain ⟨name, positive⟩ := l
  obtain ⟨name', positive'⟩ := m
  cases hname
  cases positive <;> cases positive' <;> simp [negate]

/-- A variable is new to some literals if none of them is about it, with either
sign. -/
theorem name_notMem_iff {l : Literal α} {seen : List (Literal α)} :
    l.name ∉ seen.map name ↔ l.negate ∉ seen ∧ l ∉ seen := by
  constructor
  · intro hnew
    exact ⟨fun hseen => hnew (List.mem_map.mpr ⟨_, hseen, rfl⟩),
      fun hseen => hnew (List.mem_map_of_mem hseen)⟩
  · rintro ⟨hnegated, hsame⟩ hname
    obtain ⟨m, hm, hnames⟩ := List.mem_map.mp hname
    rcases eq_or_eq_negate hnames.symm with rfl | rfl
    · exact hsame hm
    · exact hnegated hm

end Literal

/-! ## Operands -/

namespace Operand

variable {α : Type}

@[simp] theorem isNormal_literal (l : Literal α) : (literal l).IsNormal := by
  simp [IsNormal]

theorem isNormal_group_iff {operands : List (Operand α)} :
    (group operands).IsNormal ↔
      2 ≤ operands.length ∧ ((literals operands).map Literal.name).Nodup ∧
        ∀ operand ∈ operands, operand.IsNormal := by
  rw [IsNormal, areNormal_iff]

theorem literals_map_negate (operands : List (Operand α)) :
    literals (operands.map negate) = (literals operands).map Literal.negate := by
  induction operands with
  | nil => rfl
  | cons operand rest ih => cases operand <;> simp [ih]

/-- Flipping every literal keeps names and numbers of operands. -/
theorem IsNormal.negate {operand : Operand α} (hnormal : operand.IsNormal) :
    operand.negate.IsNormal := by
  induction operand using Operand.induction with
  | literal l => simp
  | group operands ih =>
      obtain ⟨htwo, hnames, hoperands⟩ := isNormal_group_iff.mp hnormal
      rw [negate_group, isNormal_group_iff]
      refine ⟨by simpa using htwo, ?_, ?_⟩
      · rw [literals_map_negate, List.map_map]
        exact hnames
      · intro negated hnegated
        obtain ⟨operand, hoperand, rfl⟩ := List.mem_map.mp hnegated
        exact ih operand hoperand (hoperands operand hoperand)

variable [DecidableEq α]

/-- The literals that are kept are about different variables, and about none of
those seen before. -/
theorem new_of_settleAfter? {seen : List (Literal α)} {operands kept : List (Operand α)}
    (hsettled : settleAfter? seen operands = some kept) :
    ((literals kept).map Literal.name).Nodup ∧
      ∀ l ∈ literals kept, l.name ∉ seen.map Literal.name := by
  induction operands generalizing seen kept with
  | nil =>
      cases hsettled
      simp
  | cons head rest ih =>
      cases head with
      | group members =>
          rw [settleAfter?, Option.map_eq_some_iff] at hsettled
          obtain ⟨kept, hrest, rfl⟩ := hsettled
          simpa using ih hrest
      | literal l =>
          rw [settleAfter?] at hsettled
          split at hsettled
          case isTrue => cases hsettled
          case isFalse hnegated =>
            split at hsettled
            case isTrue => exact ih hsettled
            case isFalse hnew =>
              rw [Option.map_eq_some_iff] at hsettled
              obtain ⟨kept, hrest, rfl⟩ := hsettled
              obtain ⟨hnodup, hlater⟩ := ih hrest
              rw [literals_literal_cons, List.map_cons, List.nodup_cons, List.forall_mem_cons]
              refine ⟨⟨?_, hnodup⟩, Literal.name_notMem_iff.mpr ⟨hnegated, hnew⟩, ?_⟩
              · -- the literals kept later are about none of those seen, and `l` is one of these
                intro hname
                obtain ⟨m, hm, hnames⟩ := List.mem_map.mp hname
                exact hlater m hm (by simp [hnames])
              · intro m hm hname
                exact hlater m hm (List.mem_cons_of_mem _ hname)

theorem nodup_of_settle? {operands kept : List (Operand α)}
    (hsettled : settle? operands = some kept) : ((literals kept).map Literal.name).Nodup :=
  (new_of_settleAfter? hsettled).1

end Operand

/-! ## Normal forms -/

namespace NormalForm

variable {α : Type}

/-- Negation keeps normal forms normal. -/
theorem IsNormal.negate {form : NormalForm α} (hnormal : form.IsNormal) : form.negate.IsNormal := by
  cases form with
  | const value => trivial
  | literal l => trivial
  | join c operands =>
      have hgroup : (Operand.group operands).negate.IsNormal := Operand.IsNormal.negate hnormal
      rwa [Operand.negate_group] at hgroup

theorem isNormal_of_mem_operandsIn {c : Connective} {form : NormalForm α}
    (hnormal : form.IsNormal) : ∀ operand ∈ operandsIn c form, operand.IsNormal := by
  cases form with
  | const value => simp [operandsIn]
  | literal l => simp [operandsIn]
  | join inner operands =>
      rw [operandsIn]
      split
      case isTrue => exact (Operand.isNormal_group_iff.mp hnormal).2.2
      case isFalse => exact List.forall_mem_singleton.mpr hnormal

theorem isNormal_ofOperands (c : Connective) {operands : List (Operand α)}
    (hnames : ((Operand.literals operands).map Literal.name).Nodup)
    (hoperands : ∀ operand ∈ operands, operand.IsNormal) :
    (ofOperands c operands).IsNormal := by
  unfold ofOperands
  split
  case h_1 => trivial
  case h_2 l => trivial
  case h_3 members => exact hoperands (.group members) (List.mem_singleton.mpr rfl)
  case h_4 hempty hliteral hgroup =>
    have htwo : 2 ≤ operands.length := by
      match operands with
      | [] => exact absurd rfl hempty
      | [.literal l] => exact absurd rfl (hliteral l)
      | [.group members] => exact absurd rfl (hgroup members)
      | _ :: _ :: _ => simp
    exact Operand.isNormal_group_iff.mpr ⟨htwo, hnames, hoperands⟩

/-- A join of normal forms is brought into normal form. -/
theorem isNormal_joinAll [DecidableEq α] (c : Connective) {items : List (NormalForm α)}
    (hitems : ∀ item ∈ items, item.IsNormal) : (joinAll c items).IsNormal := by
  unfold joinAll
  split
  case h_1 => trivial
  case h_2 item => exact hitems item (List.mem_singleton.mpr rfl)
  case h_3 =>
    split
    case isTrue => trivial
    case isFalse =>
      split
      case h_1 => trivial
      case h_2 kept hsettled =>
        refine isNormal_ofOperands c (Operand.nodup_of_settle? hsettled) fun operand hkept => ?_
        have hoperand := (Operand.mem_settle? hsettled).mp hkept
        obtain ⟨item, hitem, hin⟩ := List.mem_flatMap.mp hoperand
        exact isNormal_of_mem_operandsIn (hitems item hitem) operand hin

end NormalForm

namespace Formula

variable {α : Type} [DecidableEq α]

/-- The normal form of a formula is normal. -/
theorem isNormal_normalize (formula : Formula α) : formula.normalize.IsNormal := by
  induction formula using Formula.induction with
  | const value => simp [NormalForm.IsNormal]
  | var name => simp [NormalForm.IsNormal]
  | not body ih =>
      rw [normalize_not]
      exact ih.negate
  | join c items ih =>
      rw [normalize_join]
      refine NormalForm.isNormal_joinAll c fun form hform => ?_
      obtain ⟨item, hitem, rfl⟩ := List.mem_map.mp hform
      exact ih item hitem

end Formula

end FacetSearch
