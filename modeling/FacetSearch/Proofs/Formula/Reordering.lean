import FacetSearch.Proofs.Formula.Gathering
import Mathlib.Data.Multiset.Bind
import Mathlib.Data.Multiset.Filter

/-!
# The order of items does not matter to normalization

Formulas that differ only in the order of the items of their joins, at any depth, have
normal forms that differ only in the order of operands, again at any depth
(`Formula.reordered_normalize`).

Two lists are matched if, as multisets, their members can be paired off so that each is
a reordering of its partner.  Every rule of normalization keeps this.

* Splicing replaces matched items by matched lists of operands
  (`NormalForm.Reordered.rel_operandsIn`).
* Settling goes from left to right and keeps what comes first, but what is left at the
  end does not depend on that.  The groups are those that there were, and the literals are
  different from one another and are, as a set, those that there were.  Whether there is a
  clash depends on the literals as a set as well (`Operand.rel_settle?`).
* How a join collapses depends on the number of operands that are left, and matched lists
  have equal lengths (`NormalForm.reordered_ofOperands`).
-/

namespace FacetSearch

/-! ## Matched lists -/

section Rel

variable {β : Type} {r : β → β → Prop} {s t : Multiset β}

/-- A member that is related only to itself is in both of two matched multisets or in
neither. -/
theorem mem_iff_mem_of_rel (hrel : s.Rel r t) {a : β} (hright : ∀ b, r a b → b = a)
    (hleft : ∀ b, r b a → b = a) : a ∈ s ↔ a ∈ t := by
  constructor
  · intro ha
    obtain ⟨b, hb, hab⟩ := Multiset.exists_mem_of_rel_of_mem hrel ha
    exact hright b hab ▸ hb
  · intro ha
    obtain ⟨b, hb, hba⟩ := Multiset.exists_mem_of_rel_of_mem (Multiset.rel_flip.mpr hrel) ha
    exact hleft b hba ▸ hb

theorem rel_filter {p : β → Prop} [DecidablePred p] (hrel : s.Rel r t)
    (hp : ∀ a b, r a b → (p a ↔ p b)) : (s.filter p).Rel r (t.filter p) := by
  induction hrel with
  | zero => exact .zero
  | @cons a b s t hab hrel ih =>
      by_cases ha : p a
      · rw [Multiset.filter_cons_of_pos _ ha, Multiset.filter_cons_of_pos _ ((hp a b hab).mp ha)]
        exact .cons hab ih
      · have hb : ¬ p b := mt (hp a b hab).mpr ha
        rwa [Multiset.filter_cons_of_neg _ ha, Multiset.filter_cons_of_neg _ hb]

end Rel

/-! ## Reordered operands -/

namespace Operand

variable {α : Type}

/-- Operands that differ only in the order of operands within groups, at any depth. -/
inductive Reordered : Operand α → Operand α → Prop
  | literal (l : Literal α) : Reordered (.literal l) (.literal l)
  | group {members members' : List (Operand α)} :
      Multiset.Rel Reordered (members : Multiset (Operand α)) members' →
        Reordered (.group members) (.group members')

/-- Induction over reordered operands, in which the members of groups are matched by the
property that is shown. -/
@[elab_as_elim]
theorem Reordered.induction {motive : Operand α → Operand α → Prop}
    (literal : ∀ l, motive (.literal l) (.literal l))
    (group : ∀ {members members' : List (Operand α)},
      Multiset.Rel motive (members : Multiset (Operand α)) members' →
        motive (.group members) (.group members'))
    {o p : Operand α} (hreordered : o.Reordered p) : motive o p :=
  @Reordered.rec α (fun o p _ => motive o p) (fun os ps _ => Multiset.Rel motive os ps)
    literal (fun _ => group) .zero (fun _ _ => .cons) o p hreordered

/-- Lists of operands that are matched by reordered operands. -/
abbrev AreReordered (os ps : List (Operand α)) : Prop :=
  Multiset.Rel Reordered (os : Multiset (Operand α)) ps

theorem Reordered.negate {o p : Operand α} (hreordered : o.Reordered p) :
    o.negate.Reordered p.negate := by
  refine Reordered.induction (fun l => ?_) (fun hmembers => ?_) hreordered
  · rw [negate_literal]
    exact .literal _
  · rw [negate_group, negate_group]
    refine .group ?_
    rwa [← Multiset.map_coe, ← Multiset.map_coe, Multiset.rel_map]

/-- Whether an operand is a group. -/
def isGroup : Operand α → Bool
  | literal _ => false
  | group _ => true

theorem Reordered.isGroup_iff {o p : Operand α} (hreordered : o.Reordered p) :
    o.isGroup = true ↔ p.isGroup = true := by
  cases hreordered <;> rfl

theorem AreReordered.literal_mem_iff {os ps : List (Operand α)} (hrel : AreReordered os ps)
    (l : Literal α) : literal l ∈ os ↔ literal l ∈ ps := by
  have hmem := mem_iff_mem_of_rel hrel (a := literal l)
    (fun o hreordered => by cases hreordered; rfl) (fun o hreordered => by cases hreordered; rfl)
  simpa only [Multiset.mem_coe] using hmem

theorem filter_not_isGroup (operands : List (Operand α)) :
    operands.filter (!·.isGroup) = (literals operands).map literal := by
  induction operands with
  | nil => rfl
  | cons head rest ih => cases head <;> simp_all [isGroup]

theorem AreReordered.filter_isGroup {os ps : List (Operand α)} (hrel : AreReordered os ps) :
    AreReordered (os.filter isGroup) (ps.filter isGroup) := by
  have hfiltered := rel_filter hrel fun _ _ hreordered => hreordered.isGroup_iff
  simpa only [Multiset.filter_coe, Bool.decide_eq_true] using hfiltered

/-- Lists of operands are matched if their groups are and their literals are the same, each
as often. -/
theorem areReordered_of_parts {os ps : List (Operand α)}
    (hgroups : AreReordered (os.filter isGroup) (ps.filter isGroup))
    (hliterals : (literals os).Perm (literals ps)) : AreReordered os ps := by
  have hparts : ∀ operands : List (Operand α), (operands : Multiset (Operand α)) =
      ↑(operands.filter isGroup) + ↑((literals operands).map literal) := by
    intro operands
    rw [Multiset.coe_add, Multiset.coe_eq_coe, ← filter_not_isGroup]
    exact (List.filter_append_perm isGroup operands).symm
  rw [AreReordered, hparts os, hparts ps, Multiset.coe_eq_coe.mpr (hliterals.map literal)]
  refine hgroups.add (Multiset.rel_refl_of_refl_on fun operand hoperand => ?_)
  obtain ⟨l, -, rfl⟩ := List.mem_map.mp (Multiset.mem_coe.mp hoperand)
  exact .literal l

/-- All groups are kept. -/
theorem Settles.filter_isGroup {seen : List (Literal α)} {operands kept : List (Operand α)}
    (hsettles : Settles seen operands kept) : kept.filter isGroup = operands.filter isGroup := by
  induction hsettles with
  | nil => rfl
  | group _ ih => rw [List.filter_cons_of_pos rfl, List.filter_cons_of_pos rfl, ih]
  | repeated _ _ _ ih => rw [List.filter_cons_of_neg (by simp [isGroup]), ih]
  | new _ _ _ ih =>
      rw [List.filter_cons_of_neg (by simp [isGroup]), List.filter_cons_of_neg (by simp [isGroup]),
        ih]

variable [DecidableEq α]

/-- The literals that are kept depend only on which literals there are, up to their order. -/
theorem literals_perm_of_settle? {os ps kept kept' : List (Operand α)}
    (hliterals : ∀ l, literal l ∈ os ↔ literal l ∈ ps) (hos : settle? os = some kept)
    (hps : settle? ps = some kept') : (literals kept).Perm (literals kept') := by
  rw [List.perm_ext_iff_of_nodup (nodup_of_settle? hos).of_map (nodup_of_settle? hps).of_map]
  intro l
  rw [mem_literals, mem_literals, mem_settle? hos, mem_settle? hps, hliterals]

/-- Of matched operands, matched operands are kept. -/
theorem rel_settle? {os ps : List (Operand α)} (hrel : AreReordered os ps) :
    Option.Rel AreReordered (settle? os) (settle? ps) := by
  have hliterals := hrel.literal_mem_iff
  have hnone : settle? os = none ↔ settle? ps = none := by
    simp only [settle?_eq_none_iff, hliterals]
  cases hos : settle? os with
  | none =>
      rw [hnone.mp hos]
      exact .none
  | some kept =>
      cases hps : settle? ps with
      | none => rw [hnone.mpr hps] at hos; cases hos
      | some kept' =>
          refine .some (areReordered_of_parts ?_ (literals_perm_of_settle? hliterals hos hps))
          rw [(settles_of_settleAfter? hos).filter_isGroup,
            (settles_of_settleAfter? hps).filter_isGroup]
          exact hrel.filter_isGroup

end Operand

/-! ## Reordered normal forms -/

namespace NormalForm

open Operand (AreReordered)

variable {α : Type}

/-- Normal forms that differ only in the order of operands, at any depth. -/
inductive Reordered : NormalForm α → NormalForm α → Prop
  | const (value : Bool) : Reordered (.const value) (.const value)
  | literal (l : Literal α) : Reordered (.literal l) (.literal l)
  | join (c : Connective) {operands operands' : List (Operand α)} :
      AreReordered operands operands' → Reordered (.join c operands) (.join c operands')

theorem Reordered.const_iff {form form' : NormalForm α} (hreordered : form.Reordered form')
    (value : Bool) : form = .const value ↔ form' = .const value := by
  cases hreordered <;> simp

theorem Reordered.literal_iff {form form' : NormalForm α} (hreordered : form.Reordered form')
    (l : Literal α) : form = .literal l ↔ form' = .literal l := by
  cases hreordered <;> simp

theorem Reordered.negate {form form' : NormalForm α} (hreordered : form.Reordered form') :
    form.negate.Reordered form'.negate := by
  cases hreordered with
  | const value => exact .const _
  | literal l => exact .literal _
  | join c hoperands =>
      refine .join _ ?_
      rw [AreReordered, ← Multiset.map_coe, ← Multiset.map_coe, Multiset.rel_map]
      exact hoperands.mono fun o _ p _ hreordered => hreordered.negate

theorem Reordered.rel_operandsIn (c : Connective) {form form' : NormalForm α}
    (hreordered : form.Reordered form') :
    AreReordered (operandsIn c form) (operandsIn c form') := by
  cases hreordered with
  | const value => exact .zero
  | literal l => exact .cons (.literal l) .zero
  | join inner hoperands =>
      rw [operandsIn, operandsIn]
      split
      · exact hoperands
      · exact .cons (.group hoperands) .zero

theorem reordered_ofOperands (c : Connective) {os ps : List (Operand α)}
    (hrel : AreReordered os ps) : (ofOperands c os).Reordered (ofOperands c ps) := by
  have hlength : os.length = ps.length := Multiset.card_eq_card_of_rel hrel
  match os, ps with
  | [], [] => exact .const _
  | [o], [p] =>
      obtain ⟨q, hq, hoq⟩ :=
        Multiset.exists_mem_of_rel_of_mem hrel (Multiset.mem_coe.mpr (List.mem_singleton_self o))
      obtain rfl : q = p := List.mem_singleton.mp (Multiset.mem_coe.mp hq)
      cases hoq with
      | literal l => exact .literal l
      | group hmembers => exact .join _ hmembers
  | _ :: _ :: _, _ :: _ :: _ =>
      rw [ofOperands_of_two_le c (by simp), ofOperands_of_two_le c (by simp)]
      exact .join c hrel
  | [], _ :: _ | _ :: _, [] | [_], _ :: _ :: _ | _ :: _ :: _, [_] => simp at hlength

theorem reordered_ofGathered (c : Connective) {gathered gathered' : Option (List (Operand α))}
    (hrel : Option.Rel AreReordered gathered gathered') :
    (ofGathered c gathered).Reordered (ofGathered c gathered') := by
  cases hrel with
  | none => exact .const _
  | some hoperands => exact reordered_ofOperands c hoperands

variable [DecidableEq α]

theorem rel_gather? (c : Connective) {items items' : List (NormalForm α)}
    (hitems : Multiset.Rel Reordered (items : Multiset (NormalForm α)) items') :
    Option.Rel AreReordered (gather? c items) (gather? c items') := by
  have habsorbing : const (!c.neutral) ∈ items ↔ const (!c.neutral) ∈ items' := by
    have hmem := mem_iff_mem_of_rel hitems (a := const (!c.neutral))
      (fun form hreordered => (hreordered.const_iff _).mp rfl)
      (fun form hreordered => (hreordered.const_iff _).mpr rfl)
    simpa only [Multiset.mem_coe] using hmem
  by_cases hmem : const (!c.neutral) ∈ items
  · rw [gather?_of_mem hmem, gather?_of_mem (habsorbing.mp hmem)]
    exact .none
  · rw [gather?_of_not_mem hmem, gather?_of_not_mem (mt habsorbing.mpr hmem)]
    apply Operand.rel_settle?
    rw [AreReordered, ← Multiset.coe_bind, ← Multiset.coe_bind]
    exact Multiset.rel_bind (fun form form' hreordered => hreordered.rel_operandsIn c) hitems

end NormalForm

/-! ## Reordered formulas -/

namespace Formula

variable {α : Type}

/-- Formulas that differ only in the order of the items of their joins, at any depth. -/
inductive Reordered : Formula α → Formula α → Prop
  | const (value : Bool) : Reordered (.const value) (.const value)
  | var (name : α) : Reordered (.var name) (.var name)
  | not {body body' : Formula α} : Reordered body body' → Reordered (.not body) (.not body')
  | join (c : Connective) {items items' : List (Formula α)} :
      Multiset.Rel Reordered (items : Multiset (Formula α)) items' →
        Reordered (.join c items) (.join c items')

/-- Induction over reordered formulas, in which the items of joins are matched by the
property that is shown. -/
@[elab_as_elim]
theorem Reordered.induction {motive : Formula α → Formula α → Prop}
    (const : ∀ value, motive (.const value) (.const value))
    (var : ∀ name, motive (.var name) (.var name))
    (not : ∀ {body body'}, motive body body' → motive (.not body) (.not body'))
    (join : ∀ c {items items' : List (Formula α)},
      Multiset.Rel motive (items : Multiset (Formula α)) items' →
        motive (.join c items) (.join c items'))
    {f g : Formula α} (hreordered : f.Reordered g) : motive f g :=
  @Reordered.rec α (fun f g _ => motive f g) (fun fs gs _ => Multiset.Rel motive fs gs)
    const var (fun _ => not) (fun c _ _ _ => join c) .zero (fun _ _ => .cons) f g hreordered

theorem Reordered.refl (formula : Formula α) : formula.Reordered formula := by
  induction formula using Formula.induction with
  | const value => exact .const value
  | var name => exact .var name
  | not body ih => exact .not ih
  | join c items ih => exact .join c (Multiset.rel_refl_of_refl_on ih)

/-- The items of a join may be permuted, and then reordered one by one. -/
theorem reordered_join (c : Connective) {items permuted items' : List (Formula α)}
    (hperm : items.Perm permuted) (hitems : List.Forall₂ Reordered permuted items') :
    (join c items).Reordered (join c items') := by
  refine .join c ?_
  rw [Multiset.coe_eq_coe.mpr hperm]
  clear hperm
  induction hitems with
  | nil => exact .zero
  | cons hhead _ ih => exact .cons hhead ih

variable [DecidableEq α]

/-- **The order of items does not matter.**  Formulas that differ only in the order of the
items of their joins, at any depth, have normal forms that differ only in the order of the
operands of joins, at any depth.  If one of these is a constant or a literal, so is the other,
and it is the same. -/
theorem reordered_normalize {f g : Formula α} (hreordered : f.Reordered g) :
    f.normalize.Reordered g.normalize ∧
      (∀ value, f.normalize = .const value ↔ g.normalize = .const value) ∧
      ∀ l, f.normalize = .literal l ↔ g.normalize = .literal l := by
  have hforms : f.normalize.Reordered g.normalize := by
    refine Reordered.induction (fun value => ?_) (fun name => ?_) (fun hbody => ?_)
      (fun c items items' hitems => ?_) hreordered
    · rw [normalize_const]
      exact .const value
    · rw [normalize_var]
      exact .literal _
    · rw [normalize_not, normalize_not]
      exact hbody.negate
    · -- the normal forms of the items are matched, as the items are
      rw [normalize_join_eq_ofGathered, normalize_join_eq_ofGathered]
      refine NormalForm.reordered_ofGathered c (NormalForm.rel_gather? c ?_)
      rwa [← Multiset.map_coe, ← Multiset.map_coe, Multiset.rel_map]
  exact ⟨hforms, hforms.const_iff, hforms.literal_iff⟩

/-- With a literal that is repeated, a conjunction to be spliced and a negated disjunction whose
items change places too. -/
theorem reordered_normalize_sample :
    ∃ f g : Formula String,
      f = all [var "a", not (any [var "b", all [var "c", var "d"]]), all [var "e", var "a"]] ∧
      g = all [all [var "e", var "a"], var "a", not (any [all [var "d", var "c"], var "b"])] ∧
      f.Reordered g ∧ f.normalize.Reordered g.normalize ∧
      (∀ value, f.normalize = .const value ↔ g.normalize = .const value) ∧
      ∀ l, f.normalize = .literal l ↔ g.normalize = .literal l := by
  refine ⟨_, _, rfl, rfl, ?_⟩
  have hnegated : (not (any [var "b", all [var "c", var "d"]])).Reordered
      (not (any [all [var "d", var "c"], var "b"])) :=
    .not (reordered_join .any (.swap _ _ _)
      (.cons (reordered_join .all (.swap _ _ _) (.cons (.refl _) (.cons (.refl _) .nil)))
        (.cons (.refl _) .nil)))
  have hreordered := reordered_join .all
    (((List.Perm.swap (all [var "e", var "a"]) (not (any [var "b", all [var "c", var "d"]]))
      []).cons (var "a")).trans (.swap _ _ _))
    (.cons (.refl _) (.cons (.refl _) (.cons hnegated .nil)))
  exact ⟨hreordered, reordered_normalize hreordered⟩

end Formula

end FacetSearch
