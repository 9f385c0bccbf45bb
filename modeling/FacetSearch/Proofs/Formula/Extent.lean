import FacetSearch.Proofs.Formula.Gathering
import Mathlib.Data.Multiset.OrderedMonoid

/-!
# Normalization does not make formulas larger

The `Extent` of a formula tells how deep its joins are nested, how many there are, and
which variables occur how often.  What a formula normalizes to, read back as a formula,
is no larger in any of these respects (`Formula.extent_normalize_le`).

Extents add up as formulas are put side by side, and a join adds a level.  So the
argument is the same for all three.

* Negation changes signs and connectives only.
* A join that is spliced gives up its own level, and all other items come in as they are
  (`NormalForm.total_operandsIn_le`).
* Settling leaves operands out (`Operand.Settles.sublist`).
* One level is added for what is left, and the join of the formula has it already
  (`NormalForm.extent_ofOperands_le`).
-/

namespace FacetSearch

/-! ## Extents -/

/-- How large a formula is. -/
structure Extent (α : Type) where
  /-- How deep the joins are nested: one level for each around the innermost place. -/
  depth : Nat
  /-- How many joins there are. -/
  joins : Nat
  /-- The variables, each as often as it occurs. -/
  names : Multiset α

namespace Extent

variable {α : Type}

/-- The extent of a constant. -/
def none : Extent α := ⟨0, 0, 0⟩

/-- The extent of two parts side by side. -/
def beside (e f : Extent α) : Extent α :=
  ⟨max e.depth f.depth, e.joins + f.joins, e.names + f.names⟩

/-- The extent of several parts side by side. -/
def total (extents : List (Extent α)) : Extent α :=
  extents.foldr beside none

/-- The extent of a join of parts with the given extent. -/
def joined (e : Extent α) : Extent α :=
  ⟨e.depth + 1, e.joins + 1, e.names⟩

instance : Preorder (Extent α) :=
  Preorder.lift fun e => (e.depth, e.joins, e.names)

theorem le_iff {e f : Extent α} :
    e ≤ f ↔ e.depth ≤ f.depth ∧ e.joins ≤ f.joins ∧ e.names ≤ f.names :=
  Iff.rfl

theorem none_le (e : Extent α) : none ≤ e :=
  le_iff.mpr ⟨Nat.zero_le _, Nat.zero_le _, Multiset.zero_le _⟩

theorem le_joined (e : Extent α) : e ≤ e.joined :=
  le_iff.mpr ⟨Nat.le_succ _, Nat.le_succ _, le_rfl⟩

theorem joined_le_joined {e f : Extent α} (hle : e ≤ f) : e.joined ≤ f.joined := by
  obtain ⟨hdepth, hjoins, hnames⟩ := le_iff.mp hle
  exact le_iff.mpr ⟨Nat.succ_le_succ hdepth, Nat.succ_le_succ hjoins, hnames⟩

theorem beside_le_beside {e e' f f' : Extent α} (he : e ≤ e') (hf : f ≤ f') :
    e.beside f ≤ e'.beside f' := by
  obtain ⟨heDepth, heJoins, heNames⟩ := le_iff.mp he
  obtain ⟨hfDepth, hfJoins, hfNames⟩ := le_iff.mp hf
  exact le_iff.mpr ⟨max_le_max heDepth hfDepth, Nat.add_le_add heJoins hfJoins,
    add_le_add heNames hfNames⟩

theorem none_beside (e : Extent α) : none.beside e = e := by
  simp [none, beside]

theorem beside_none (e : Extent α) : e.beside none = e := by
  simp [none, beside]

theorem beside_assoc (e f g : Extent α) : (e.beside f).beside g = e.beside (f.beside g) := by
  simp [beside, max_assoc, add_assoc]

theorem total_append (es fs : List (Extent α)) :
    total (es ++ fs) = (total es).beside (total fs) := by
  induction es with
  | nil => exact (none_beside _).symm
  | cons e rest ih =>
      rw [List.cons_append, total, List.foldr_cons, ← total, ih, ← beside_assoc]
      rfl

theorem total_le_of_sublist {es fs : List (Extent α)} (hsub : es.Sublist fs) :
    total es ≤ total fs := by
  induction hsub with
  | slnil => exact le_rfl
  | cons f _ ih => exact (none_beside (total _)).ge.trans (beside_le_beside (none_le f) ih)
  | cons_cons e _ ih => exact beside_le_beside le_rfl ih

/-- Parts may be looked at item by item. -/
theorem total_flatMap_le {β : Type} {items : List β} {parts : β → List (Extent α)}
    {whole : β → Extent α} (hparts : ∀ item ∈ items, total (parts item) ≤ whole item) :
    total (items.flatMap parts) ≤ total (items.map whole) := by
  induction items with
  | nil => exact le_rfl
  | cons item rest ih =>
      obtain ⟨hitem, hrest⟩ := List.forall_mem_cons.mp hparts
      rw [List.flatMap_cons, total_append]
      exact beside_le_beside hitem (ih hrest)

end Extent

/-! ## The extent of a formula -/

namespace Formula

variable {α : Type}

mutual

/-- The extent of a formula.  A negation has that of its body, and a join is one level above
its items. -/
def extent : Formula α → Extent α
  | const _ => .none
  | var name => ⟨0, 0, {name}⟩
  | not body => extent body
  | join _ items => (extentEach items).joined

/-- The extent of several formulas side by side. -/
def extentEach : List (Formula α) → Extent α
  | [] => .none
  | item :: rest => (extent item).beside (extentEach rest)

end

@[simp] theorem extentEach_eq_total (items : List (Formula α)) :
    extentEach items = Extent.total (items.map extent) := by
  induction items with
  | nil => rfl
  | cons item rest ih => rw [extentEach, ih]; rfl

@[simp] theorem extent_const (value : Bool) : (const value : Formula α).extent = .none := by
  rw [extent]

@[simp] theorem extent_not (body : Formula α) : (not body).extent = body.extent := by
  rw [extent]

@[simp] theorem extent_join (c : Connective) (items : List (Formula α)) :
    (join c items).extent = (Extent.total (items.map extent)).joined := by
  rw [extent, extentEach_eq_total]

end Formula

/-! ## The extent of normal forms -/

namespace Operand

variable {α : Type}

/-- The extent of an operand as a formula. -/
def extent (operand : Operand α) : Extent α :=
  (operand.toFormula .all).extent

/-- It makes no difference in what join an operand stands. -/
theorem extent_toFormula (operand : Operand α) :
    ∀ c : Connective, (operand.toFormula c).extent = operand.extent := by
  induction operand using Operand.induction with
  | literal l =>
      intro c
      rw [extent, toFormula_literal, toFormula_literal]
  | group operands ih =>
      have hitems : ∀ c, (operands.map (toFormula c)).map Formula.extent = operands.map extent := by
        intro c
        rw [List.map_map]
        exact List.map_congr_left fun operand hoperand => ih operand hoperand c
      intro c
      rw [extent, toFormula_group, toFormula_group, Formula.extent_join, Formula.extent_join,
        hitems, hitems]

theorem extent_group (operands : List (Operand α)) :
    (group operands).extent = (Extent.total (operands.map extent)).joined := by
  rw [extent, toFormula_group, Formula.extent_join, List.map_map]
  exact congrArg _ (congrArg _ (List.map_congr_left fun operand _ => operand.extent_toFormula _))

theorem extent_negate (operand : Operand α) : operand.negate.extent = operand.extent := by
  induction operand using Operand.induction with
  | literal l =>
      rw [negate_literal, extent, extent, toFormula_literal, toFormula_literal]
      cases hsign : l.positive <;> simp [Literal.toFormula, Literal.negate, hsign]
  | group operands ih =>
      rw [negate_group, extent_group, extent_group, List.map_map]
      exact congrArg _ (congrArg _ (List.map_congr_left ih))

end Operand

namespace NormalForm

variable {α : Type}

theorem extent_toFormula_join (c : Connective) (operands : List (Operand α)) :
    (join c operands).toFormula.extent = (Extent.total (operands.map Operand.extent)).joined := by
  rw [toFormula_join, Operand.extent_toFormula, Operand.extent_group]

theorem extent_toFormula_negate (form : NormalForm α) :
    form.negate.toFormula.extent = form.toFormula.extent := by
  cases form with
  | const value => simp [negate, toFormula]
  | literal l => exact (Operand.literal l).extent_negate
  | join c operands =>
      rw [negate, extent_toFormula_join, extent_toFormula_join, List.map_map]
      exact congrArg _ (congrArg _ (List.map_congr_left fun operand _ => operand.extent_negate))

/-- What an item brings into a join is no larger than the item. -/
theorem total_operandsIn_le (c : Connective) (form : NormalForm α) :
    Extent.total ((operandsIn c form).map Operand.extent) ≤ form.toFormula.extent := by
  cases form with
  | const value => exact Extent.none_le _
  | literal l => exact (Extent.beside_none _).le
  | join inner operands =>
      rw [operandsIn, extent_toFormula_join]
      split
      case isTrue => exact Extent.le_joined _
      case isFalse =>
        rw [List.map_singleton, Operand.extent_group]
        exact (Extent.beside_none _).le

/-- What becomes of operands is no larger than a join of them. -/
theorem extent_ofOperands_le (c : Connective) (operands : List (Operand α)) :
    (ofOperands c operands).toFormula.extent ≤
      (Extent.total (operands.map Operand.extent)).joined := by
  unfold ofOperands
  split
  case h_1 => simpa [toFormula] using Extent.none_le _
  case h_2 l =>
    refine le_trans ?_ (Extent.le_joined _)
    exact (Extent.beside_none _).ge
  case h_3 members =>
    refine le_trans ?_ (Extent.le_joined _)
    rw [extent_toFormula_join, ← Operand.extent_group]
    exact (Extent.beside_none _).ge
  case h_4 => rw [extent_toFormula_join]

end NormalForm

namespace Formula

variable {α : Type} [DecidableEq α]

theorem extent_normalize_le (formula : Formula α) :
    formula.normalize.toFormula.extent ≤ formula.extent := by
  induction formula using Formula.induction with
  | const value => simp [NormalForm.toFormula]
  | var name => simp [NormalForm.toFormula, Literal.toFormula]
  | not body ih => rwa [normalize_not, NormalForm.extent_toFormula_negate, extent_not]
  | join c items ih =>
      rcases normalize_join_cases c items with habsorbing | ⟨kept, hsettled, hkept⟩
      · rw [habsorbing, NormalForm.toFormula, extent_const]
        exact Extent.none_le _
      rw [hkept, extent_join]
      calc (NormalForm.ofOperands c kept).toFormula.extent
          ≤ (Extent.total (kept.map Operand.extent)).joined := NormalForm.extent_ofOperands_le c kept
        _ ≤ (Extent.total (items.map extent)).joined := Extent.joined_le_joined ?_
      calc Extent.total (kept.map Operand.extent)
          ≤ Extent.total
              (((items.map normalize).flatMap (NormalForm.operandsIn c)).map Operand.extent) :=
            Extent.total_le_of_sublist ((Operand.settles_of_settleAfter? hsettled).sublist.map _)
        _ ≤ Extent.total (items.map extent) := by
            rw [List.flatMap_map, List.map_flatMap]
            exact Extent.total_flatMap_le fun item hitem =>
              (NormalForm.total_operandsIn_le c _).trans (ih item hitem)

/-- **Normalization does not make formulas larger.**  What a formula normalizes to, read back
as a formula, has its joins nested no deeper, no more occurrences of variables and no more joins
than the formula, and only variables that occur in it. -/
theorem normalize_toFormula_no_larger (formula : Formula α) :
    formula.normalize.toFormula.extent.depth ≤ formula.extent.depth ∧
      formula.normalize.toFormula.extent.names.card ≤ formula.extent.names.card ∧
      formula.normalize.toFormula.extent.joins ≤ formula.extent.joins ∧
      ∀ name ∈ formula.normalize.toFormula.extent.names, name ∈ formula.extent.names := by
  obtain ⟨hdepth, hjoins, hnames⟩ := Extent.le_iff.mp formula.extent_normalize_le
  exact ⟨hdepth, Multiset.card_le_card hnames, hjoins, fun _ hname => Multiset.mem_of_le hnames hname⟩

end Formula

end FacetSearch
