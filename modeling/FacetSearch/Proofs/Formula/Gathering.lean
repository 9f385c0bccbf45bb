import FacetSearch.Proofs.Formula.Renormalization

/-!
# What a join gathers from its items

`NormalForm.joinAll` goes three ways: no items, one item, or several.  For items that
are normal this makes no difference.  A join of them is always what becomes of the
operands that it gathers (`NormalForm.joinAll_eq_ofGathered`): all operands that the
items bring in, settled, or nothing if the join has its absorbing value
(`NormalForm.gather?`).

So laws of joins are laws of gathering, and there one law does most of the work.  What
a stretch of items adds to a longer list depends only on what the stretch gathers by
itself (`gather?_append_congr`).

* A stretch that gathers nothing has an absorbing constant or a variable with both
  signs, and a longer list has it too (`gather?_eq_none_iff`).
* Otherwise its operands may be settled before the rest of the list is looked at, since
  the literals dropped then are dropped later as well
  (`Operand.Settles.settleAfter?_append`).
-/

namespace FacetSearch

/-! ## Literals without a clash -/

namespace Literal

variable {α : Type}

theorem negate_ne_self (l : Literal α) : l.negate ≠ l := by
  intro heq
  have hsign : (!l.positive) = l.positive := congrArg positive heq
  simp at hsign

/-- No variable occurs with both signs among some literals. -/
def AreClashFree (literals : List (Literal α)) : Prop :=
  ∀ l ∈ literals, l.negate ∉ literals

theorem areClashFree_nil : AreClashFree ([] : List (Literal α)) := by
  simp [AreClashFree]

theorem AreClashFree.cons {l : Literal α} {literals : List (Literal α)}
    (hfree : AreClashFree literals) (hnegated : l.negate ∉ literals) :
    AreClashFree (l :: literals) := by
  intro m hm hclash
  rcases List.mem_cons.mp hm with rfl | hm <;> rcases List.mem_cons.mp hclash with heq | hclash
  · exact negate_ne_self _ heq
  · exact hnegated hclash
  · exact hnegated (by rwa [← heq, negate_negate])
  · exact hfree m hm hclash

theorem areClashFree_of_nodup {literals : List (Literal α)} (hnames : (literals.map name).Nodup) :
    AreClashFree literals := by
  intro l hl hnegated
  exact negate_ne_self l (List.inj_on_of_nodup_map hnames hnegated hl l.name_negate)

end Literal

/-! ## Settling operands -/

namespace Operand

open Literal (AreClashFree)

variable {α : Type}

/-- What becomes of operands that are settled after some literals, operand by operand. -/
inductive Settles : List (Literal α) → List (Operand α) → List (Operand α) → Prop
  | nil (seen : List (Literal α)) : Settles seen [] []
  | group {seen : List (Literal α)} {members rest kept : List (Operand α)} :
      Settles seen rest kept → Settles seen (.group members :: rest) (.group members :: kept)
  | repeated {seen : List (Literal α)} {l : Literal α} {rest kept : List (Operand α)} :
      l.negate ∉ seen → l ∈ seen → Settles seen rest kept → Settles seen (.literal l :: rest) kept
  | new {seen : List (Literal α)} {l : Literal α} {rest kept : List (Operand α)} :
      l.negate ∉ seen → l ∉ seen → Settles (l :: seen) rest kept →
        Settles seen (.literal l :: rest) (.literal l :: kept)

/-- Settling leaves operands out, and changes nothing else. -/
theorem Settles.sublist {seen : List (Literal α)} {operands kept : List (Operand α)}
    (hsettles : Settles seen operands kept) : kept.Sublist operands := by
  induction hsettles with
  | nil => exact .slnil
  | group _ ih => exact ih.cons_cons _
  | repeated _ _ _ ih => exact ih.cons _
  | new _ _ _ ih => exact ih.cons_cons _

variable [DecidableEq α]

theorem settles_of_settleAfter? {seen : List (Literal α)} {operands kept : List (Operand α)}
    (hsettled : settleAfter? seen operands = some kept) : Settles seen operands kept := by
  induction operands generalizing seen kept with
  | nil =>
      cases hsettled
      exact .nil seen
  | cons head rest ih =>
      cases head with
      | group members =>
          rw [settleAfter?, Option.map_eq_some_iff] at hsettled
          obtain ⟨kept, hrest, rfl⟩ := hsettled
          exact .group (ih hrest)
      | literal l =>
          rw [settleAfter?] at hsettled
          split at hsettled
          case isTrue => cases hsettled
          case isFalse hnegated =>
            split at hsettled
            case isTrue hseen => exact .repeated hnegated hseen (ih hsettled)
            case isFalse hnew =>
              rw [Option.map_eq_some_iff] at hsettled
              obtain ⟨kept, hrest, rfl⟩ := hsettled
              exact .new hnegated hnew (ih hrest)

/-- Operands may be settled before those that come after them are looked at, and with
fewer literals in mind. -/
theorem Settles.settleAfter?_append {fewer seen : List (Literal α)}
    {operands kept : List (Operand α)} (hsettles : Settles fewer operands kept)
    (hfewer : fewer ⊆ seen) (hfree : AreClashFree seen) (later : List (Operand α)) :
    settleAfter? seen (kept ++ later) = settleAfter? seen (operands ++ later) := by
  induction hsettles generalizing seen with
  | nil => rfl
  | group _ ih => simp only [List.cons_append, settleAfter?, ih hfewer hfree]
  | repeated _ hl _ ih =>
      -- dropped early, and it would be dropped later
      rw [ih hfewer hfree, List.cons_append, settleAfter?, if_neg (hfree _ (hfewer hl)),
        if_pos (hfewer hl)]
  | @new fewer l _ _ _ _ _ ih =>
      simp only [List.cons_append, settleAfter?]
      split
      case isTrue => rfl
      case isFalse hnegated =>
        split
        case isTrue hl => exact ih (List.cons_subset.mpr ⟨hl, hfewer⟩) hfree
        case isFalse => rw [ih (List.cons_subset_cons l hfewer) (hfree.cons hnegated)]

/-- Operands in front make no difference to operands that are settled alike after any
literals without a clash. -/
theorem settleAfter?_append_congr {os ps : List (Operand α)}
    (hsame : ∀ seen, AreClashFree seen → settleAfter? seen os = settleAfter? seen ps)
    (earlier : List (Operand α)) {seen : List (Literal α)} (hfree : AreClashFree seen) :
    settleAfter? seen (earlier ++ os) = settleAfter? seen (earlier ++ ps) := by
  induction earlier generalizing seen with
  | nil => exact hsame seen hfree
  | cons head rest ih =>
      cases head with
      | group members => simp only [List.cons_append, settleAfter?, ih hfree]
      | literal l =>
          simp only [List.cons_append, settleAfter?]
          split
          case isTrue => rfl
          case isFalse hnegated =>
            split
            case isTrue => exact ih hfree
            case isFalse => rw [ih (hfree.cons hnegated)]

/-- A literal that was seen before may as well be left out. -/
theorem settleAfter?_append_seen {l : Literal α} {seen : List (Literal α)} (hl : l ∈ seen)
    (hfree : AreClashFree seen) (operands : List (Operand α)) :
    settleAfter? seen (operands ++ [literal l]) = settleAfter? seen operands := by
  induction operands generalizing seen with
  | nil => simp only [List.nil_append, settleAfter?, if_neg (hfree l hl), if_pos hl]
  | cons head rest ih =>
      cases head with
      | group members => simp only [List.cons_append, settleAfter?, ih hl hfree]
      | literal m =>
          simp only [List.cons_append, settleAfter?]
          split
          case isTrue => rfl
          case isFalse hnegated =>
            split
            case isTrue => exact ih hl hfree
            case isFalse => rw [ih (List.mem_cons_of_mem m hl) (hfree.cons hnegated)]

/-- Of operands that are settled, nothing more is dropped. -/
theorem settle?_settled {operands kept : List (Operand α)}
    (hsettled : settle? operands = some kept) : settle? kept = some kept :=
  settleAfter?_eq_some (nodup_of_settle? hsettled) (by simp)

/-- There is no result exactly if a variable occurs with both signs. -/
theorem settle?_eq_none_iff {operands : List (Operand α)} :
    settle? operands = none ↔ ∃ l, literal l ∈ operands ∧ literal l.negate ∈ operands := by
  constructor
  · exact exists_clash_of_settle?
  · rintro ⟨l, hl, hnegated⟩
    cases hsettled : settle? operands with
    | none => rfl
    | some kept =>
        -- both literals would be kept, but what is kept has no clash
        have hfree : AreClashFree (literals kept) :=
          Literal.areClashFree_of_nodup (nodup_of_settle? hsettled)
        rw [← mem_settle? hsettled, ← mem_literals] at hl hnegated
        exact absurd hnegated (hfree l hl)

/-- Operands between others may be replaced by any that are settled alike. -/
theorem settle?_append_congr {os ps : List (Operand α)} (hsame : settle? os = settle? ps)
    (earlier later : List (Operand α)) :
    settle? (earlier ++ os ++ later) = settle? (earlier ++ ps ++ later) := by
  cases hps : settle? ps with
  | none =>
      have hclash : ∀ operands : List (Operand α), settle? operands = none →
          settle? (earlier ++ operands ++ later) = none := by
        intro operands hnone
        rw [settle?_eq_none_iff] at hnone ⊢
        obtain ⟨l, hl, hnegated⟩ := hnone
        exact ⟨l, by simp [hl], by simp [hnegated]⟩
      rw [hclash ps hps, hclash os (hsame.trans hps)]
  | some kept =>
      have hkept : ∀ operands : List (Operand α), settle? operands = some kept →
          settle? (earlier ++ (operands ++ later)) = settle? (earlier ++ (kept ++ later)) :=
        fun operands hsettled => settleAfter?_append_congr
          (fun seen hfree => ((settles_of_settleAfter? hsettled).settleAfter?_append
            (by simp) hfree later).symm)
          earlier Literal.areClashFree_nil
      rw [List.append_assoc, List.append_assoc, hkept ps hps, hkept os (hsame.trans hps)]

end Operand

/-! ## Gathering operands -/

namespace NormalForm

open Operand (settle?)

variable {α : Type}

/-- A join stands for the operands that it is made of, as far as a join with the same
connective is concerned. -/
theorem operandsIn_ofOperands (c : Connective) (operands : List (Operand α)) :
    operandsIn c (ofOperands c operands) = operands := by
  unfold ofOperands
  split
  case h_1 => rfl
  case h_2 l => rfl
  case h_3 members =>
    have hdual : c.dual ≠ c := by cases c <;> simp [Connective.dual]
    rw [operandsIn, if_neg hdual]
  case h_4 => rw [operandsIn, if_pos rfl]

theorem ofOperands_ne_absorbing (c : Connective) (operands : List (Operand α)) :
    ofOperands c operands ≠ const (!c.neutral) := by
  unfold ofOperands
  split <;> simp

variable [DecidableEq α]

/-- The operands that items bring into a join with the given connective, settled.  There
is no result if the join has its absorbing value, be it for the sake of a constant or of
a variable with both signs. -/
def gather? (c : Connective) (items : List (NormalForm α)) : Option (List (Operand α)) :=
  if items.contains (const !c.neutral) then none else settle? (items.flatMap (operandsIn c))

/-- The normal form of a join that gathers the given operands, if any. -/
def ofGathered (c : Connective) : Option (List (Operand α)) → NormalForm α
  | none => const !c.neutral
  | some operands => ofOperands c operands

theorem gather?_of_mem {c : Connective} {items : List (NormalForm α)}
    (hitems : const (!c.neutral) ∈ items) : gather? c items = none :=
  if_pos (List.contains_iff_mem.mpr hitems)

theorem gather?_of_not_mem {c : Connective} {items : List (NormalForm α)}
    (hitems : const (!c.neutral) ∉ items) :
    gather? c items = settle? (items.flatMap (operandsIn c)) :=
  if_neg (mt List.contains_iff_mem.mp hitems)

theorem gather?_eq_none_iff {c : Connective} {items : List (NormalForm α)} :
    gather? c items = none ↔ const (!c.neutral) ∈ items ∨
      ∃ l, .literal l ∈ items.flatMap (operandsIn c) ∧
        .literal l.negate ∈ items.flatMap (operandsIn c) := by
  by_cases hitems : const (!c.neutral) ∈ items
  · simp only [gather?_of_mem hitems, hitems, true_or]
  · rw [gather?_of_not_mem hitems, Operand.settle?_eq_none_iff, or_iff_right hitems]

theorem gather?_eq_some_iff {c : Connective} {items : List (NormalForm α)}
    {operands : List (Operand α)} :
    gather? c items = some operands ↔ const (!c.neutral) ∉ items ∧
      settle? (items.flatMap (operandsIn c)) = some operands := by
  by_cases hitems : const (!c.neutral) ∈ items
  · simp [gather?_of_mem hitems, hitems]
  · rw [gather?_of_not_mem hitems, and_iff_right hitems]

/-- A normal form gathers itself. -/
theorem ofGathered_gather?_singleton (c : Connective) {form : NormalForm α}
    (hnormal : form.IsNormal) : ofGathered c (gather? c [form]) = form := by
  by_cases habsorbing : form = const !c.neutral
  · rw [gather?_of_mem (by simp [habsorbing]), ofGathered, habsorbing]
  · rw [gather?_of_not_mem (by simpa using Ne.symm habsorbing), List.flatMap_singleton]
    cases form with
    | const value =>
        have hvalue : value = c.neutral := by
          cases value <;> cases hneutral : c.neutral <;> simp_all
        rw [hvalue]
        rfl
    | literal l => rfl
    | join inner operands =>
        rw [operandsIn]
        split
        case isTrue hinner =>
          obtain ⟨htwo, hnames, -⟩ := Operand.isNormal_group_iff.mp hnormal
          have hsettled : settle? operands = some operands :=
            Operand.settleAfter?_eq_some hnames (by simp)
          rw [hsettled, ofGathered, ofOperands_of_two_le c htwo, hinner]
        case isFalse hinner =>
          rw [Connective.eq_dual_of_ne hinner]
          rfl

/-- A join of items in normal form is what becomes of the operands that it gathers, however
many items there are. -/
theorem joinAll_eq_ofGathered (c : Connective) {items : List (NormalForm α)}
    (hitems : ∀ item ∈ items, item.IsNormal) :
    joinAll c items = ofGathered c (gather? c items) := by
  match items with
  | [] => rfl
  | [item] => exact (ofGathered_gather?_singleton c (hitems item (by simp))).symm
  | first :: second :: rest =>
      simp only [joinAll, gather?, List.contains_iff_mem]
      split
      case isTrue => rfl
      case isFalse =>
        cases settle? ((first :: second :: rest).flatMap (operandsIn c)) <;> rfl

/-- A join as an item of a join with the same connective gathers what its own items
gather. -/
theorem gather?_ofGathered (c : Connective) (items : List (NormalForm α)) :
    gather? c [ofGathered c (gather? c items)] = gather? c items := by
  cases hgathered : gather? c items with
  | none => exact gather?_of_mem (by simp [ofGathered])
  | some operands =>
      obtain ⟨-, hsettled⟩ := gather?_eq_some_iff.mp hgathered
      rw [gather?_eq_some_iff, ofGathered, List.flatMap_singleton, operandsIn_ofOperands]
      exact ⟨by simpa using (ofOperands_ne_absorbing c operands).symm,
        Operand.settle?_settled hsettled⟩

/-- Items between others may be replaced by any that gather the same. -/
theorem gather?_append_congr {c : Connective} {ys zs : List (NormalForm α)}
    (hsame : gather? c ys = gather? c zs) (before after : List (NormalForm α)) :
    gather? c (before ++ ys ++ after) = gather? c (before ++ zs ++ after) := by
  cases hzs : gather? c zs with
  | none =>
      have hnone : ∀ items : List (NormalForm α), gather? c items = none →
          gather? c (before ++ items ++ after) = none := by
        intro items hitems
        rw [gather?_eq_none_iff] at hitems ⊢
        rcases hitems with habsorbing | ⟨l, hl, hnegated⟩
        · exact Or.inl (by simp [habsorbing])
        · refine Or.inr ⟨l, ?_, ?_⟩ <;> simp only [List.flatMap_append, List.mem_append]
          · exact Or.inl (Or.inr hl)
          · exact Or.inl (Or.inr hnegated)
      rw [hnone zs hzs, hnone ys (hsame.trans hzs)]
  | some operands =>
      obtain ⟨hzsAbsorbing, hzsSettled⟩ := gather?_eq_some_iff.mp hzs
      obtain ⟨hysAbsorbing, hysSettled⟩ := gather?_eq_some_iff.mp (hsame.trans hzs)
      have hsettled := Operand.settle?_append_congr (hysSettled.trans hzsSettled.symm)
        (before.flatMap (operandsIn c)) (after.flatMap (operandsIn c))
      simp only [gather?, List.contains_iff_mem, List.mem_append, hysAbsorbing, hzsAbsorbing,
        List.flatMap_append, hsettled]

end NormalForm

/-! ## Joins of formulas -/

namespace Formula

open NormalForm (gather? ofGathered ofOperands operandsIn)

variable {α : Type} [DecidableEq α]

/-- The normal form of a join depends on its items only through what they gather. -/
theorem normalize_join_eq_ofGathered (c : Connective) (items : List (Formula α)) :
    (join c items).normalize = ofGathered c (gather? c (items.map normalize)) := by
  rw [normalize_join]
  refine NormalForm.joinAll_eq_ofGathered c fun form hform => ?_
  obtain ⟨item, -, rfl⟩ := List.mem_map.mp hform
  exact item.isNormal_normalize

/-- A join normalizes to its absorbing value, or to what becomes of the operands that are
kept of those its items bring in. -/
theorem normalize_join_cases (c : Connective) (items : List (Formula α)) :
    (join c items).normalize = .const (!c.neutral) ∨
      ∃ kept, Operand.settle? ((items.map normalize).flatMap (operandsIn c)) = some kept ∧
        (join c items).normalize = ofOperands c kept := by
  rw [normalize_join_eq_ofGathered]
  cases hgathered : gather? c (items.map normalize) with
  | none => exact Or.inl rfl
  | some kept => exact Or.inr ⟨kept, (NormalForm.gather?_eq_some_iff.mp hgathered).2, rfl⟩

end Formula

end FacetSearch
