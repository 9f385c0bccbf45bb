import FacetSearch.Index.Selection
import FacetSearch.Proofs.Index.Construction
import FacetSearch.Proofs.Index.SetAlgebra

/-!
# Selecting by sets and selecting by evaluation

`Index.select` works with whole postings, and its cases are those of a formula:
a literal, a conjunction, a disjunction.  For each of them two facts are shown
about an index that holds some entries.

* An entry is selected if and only if its tags satisfy the formula.  Intersections
  of postings stand for positive literals that all hold, differences for negative
  ones, and unions for any that hold.  A group inside a conjunction is evaluated as
  it is; a group inside a disjunction is a conjunction once more.
* Nothing but ids of entries is selected.

Together they say what the selected ids are (`Holds.mem_select_iff`).  Testing
every entry finds the same ids (`Holds.mem_selectByEval_iff`).
-/

namespace FacetSearch

open Std (ExtTreeMap ExtTreeSet LawfulEqOrd TransOrd)

/-! ## Literals and groups of a join -/

namespace Literal

variable {α : Type} {holds : α → Bool}

theorem eval_iff_of_positive {l : Literal α} (hsign : l.positive = true) :
    l.eval holds ↔ holds l.name := by
  simp [eval, hsign]

theorem eval_iff_of_negative {l : Literal α} (hsign : l.positive = false) :
    l.eval holds ↔ ¬holds l.name := by
  simp [eval, hsign]

/-- All of several literals hold if the positive ones and the negative ones do. -/
theorem forall_eval_iff {literals : List (Literal α)} :
    (∀ l ∈ literals, l.eval holds) ↔
      (∀ l ∈ literals, l.positive = true → holds l.name) ∧
        ∀ l ∈ literals, l.positive = false → ¬holds l.name := by
  constructor
  · intro hall
    exact ⟨fun l hl hsign => (eval_iff_of_positive hsign).mp (hall l hl),
      fun l hl hsign => (eval_iff_of_negative hsign).mp (hall l hl)⟩
  · rintro ⟨hpositive, hnegative⟩ l hl
    cases hsign : l.positive with
    | true => exact (eval_iff_of_positive hsign).mpr (hpositive l hl hsign)
    | false => exact (eval_iff_of_negative hsign).mpr (hnegative l hl hsign)

theorem exists_eval_iff {literals : List (Literal α)} :
    (∃ l ∈ literals, l.eval holds) ↔
      (∃ l ∈ literals, l.positive = true ∧ holds l.name) ∨
        ∃ l ∈ literals, l.positive = false ∧ ¬holds l.name := by
  constructor
  · rintro ⟨l, hl, hvalue⟩
    cases hsign : l.positive with
    | true => exact Or.inl ⟨l, hl, hsign, (eval_iff_of_positive hsign).mp hvalue⟩
    | false => exact Or.inr ⟨l, hl, hsign, (eval_iff_of_negative hsign).mp hvalue⟩
  · rintro (⟨l, hl, hsign, hvalue⟩ | ⟨l, hl, hsign, hvalue⟩)
    · exact ⟨l, hl, (eval_iff_of_positive hsign).mpr hvalue⟩
    · exact ⟨l, hl, (eval_iff_of_negative hsign).mpr hvalue⟩

end Literal

namespace Operand

variable {α : Type} {holds : α → Bool}

theorem evalJoin_all_iff {operands : List (Operand α)} :
    evalJoin holds .all operands ↔
      (∀ l ∈ literals operands, l.eval holds) ∧
        ∀ members ∈ groups operands, evalJoin holds .any members := by
  simp only [evalJoin, Connective.combine, List.all_map, List.all_eq_true, Function.comp_apply,
    id, mem_literals, mem_groups]
  constructor
  · intro hall
    refine ⟨fun l hl => by simpa using hall _ hl, fun members hmembers => ?_⟩
    simpa [eval, Connective.combine, Connective.dual] using hall _ hmembers
  · rintro ⟨hliterals, hgroups⟩ operand hoperand
    cases operand with
    | literal l => simpa using hliterals l hoperand
    | group members =>
        simpa [eval, Connective.combine, Connective.dual] using hgroups members hoperand

theorem evalJoin_any_iff {operands : List (Operand α)} :
    evalJoin holds .any operands ↔
      (∃ l ∈ literals operands, l.eval holds) ∨
        ∃ members ∈ groups operands, evalJoin holds .all members := by
  simp only [evalJoin, Connective.combine, List.any_map, List.any_eq_true, Function.comp_apply,
    id, mem_literals, mem_groups]
  constructor
  · rintro ⟨operand, hoperand, hvalue⟩
    cases operand with
    | literal l => exact Or.inl ⟨l, hoperand, by simpa using hvalue⟩
    | group members =>
        refine Or.inr ⟨members, hoperand, ?_⟩
        simpa [eval, Connective.combine, Connective.dual] using hvalue
  · rintro (⟨l, hl, hvalue⟩ | ⟨members, hmembers, hvalue⟩)
    · exact ⟨_, hl, by simpa using hvalue⟩
    · refine ⟨_, hmembers, ?_⟩
      simpa [eval, Connective.combine, Connective.dual] using hvalue

end Operand

namespace Index.Holds

variable {Id Tag R : Type} [Ord Id] [TransOrd Id] [Ord Tag] [TransOrd Tag]
  {index : Index Id Tag R} {entries : List (Entry Id Tag R)}

/-! ## Postings of literals -/

theorem forall_mem_postingsOf_iff (hholds : index.Holds entries) {entry : Entry Id Tag R}
    (hentry : entry ∈ entries) {positive : Bool} {literals : List (Literal Tag)} :
    (∀ posting ∈ index.postingsOf positive literals, entry.id ∈ posting) ↔
      ∀ l ∈ literals, l.positive = positive → entry.tags.contains l.name := by
  simp only [postingsOf, List.forall_mem_map, List.mem_filter, beq_iff_eq, and_imp,
    hholds.id_mem_posting_iff hentry, ExtTreeSet.contains_iff_mem]

theorem exists_mem_postingsOf_iff (hholds : index.Holds entries) {entry : Entry Id Tag R}
    (hentry : entry ∈ entries) {positive : Bool} {literals : List (Literal Tag)} :
    (∃ posting ∈ index.postingsOf positive literals, entry.id ∈ posting) ↔
      ∃ l ∈ literals, l.positive = positive ∧ entry.tags.contains l.name := by
  simp [postingsOf, hholds.id_mem_posting_iff hentry, and_assoc]

/-- No literal is negative if there are no postings to intersect. -/
theorem not_exists_negative {literals : List (Literal Tag)}
    (hcommon : intersectAll (index.postingsOf false literals) = none) {tags : ExtTreeSet Tag} :
    ¬∃ l ∈ literals, l.positive = false ∧ ¬tags.contains l.name := by
  rw [intersectAll_eq_none_iff, postingsOf, List.map_eq_nil_iff,
    List.filter_eq_nil_iff] at hcommon
  rintro ⟨l, hl, hsign, -⟩
  exact hcommon l hl (by simp [hsign])

theorem mem_ids_of_mem_postingsOf (hholds : index.Holds entries) {positive : Bool}
    {literals : List (Literal Tag)} {id : Id} :
    ∀ posting ∈ index.postingsOf positive literals, id ∈ posting → id ∈ index.ids := by
  intro posting hposting hid
  rw [postingsOf, List.mem_map] at hposting
  obtain ⟨l, -, rfl⟩ := hposting
  exact hholds.mem_ids_of_mem_posting hid

theorem satisfiesAll_iff (hholds : index.Holds entries) {entry : Entry Id Tag R}
    (hentry : entry ∈ entries) {disjunctions : List (List (Operand Tag))} :
    index.satisfiesAll disjunctions entry.id ↔
      ∀ members ∈ disjunctions, Operand.evalJoin entry.tags.contains .any members := by
  simp [satisfiesAll, hholds.entry?_id hentry]

variable [LawfulEqOrd Id]

theorem mem_selectLiteral_iff (hholds : index.Holds entries) {entry : Entry Id Tag R}
    (hentry : entry ∈ entries) {l : Literal Tag} :
    entry.id ∈ index.selectLiteral l ↔ l.eval entry.tags.contains := by
  have hid : entry.id ∈ index.ids := hholds.id_mem_ids hentry
  cases hsign : l.positive with
  | true =>
      rw [Literal.eval_iff_of_positive hsign, ExtTreeSet.contains_iff_mem, selectLiteral,
        if_pos hsign, hholds.id_mem_posting_iff hentry]
  | false =>
      rw [Literal.eval_iff_of_negative hsign, ExtTreeSet.contains_iff_mem, selectLiteral,
        if_neg (by simp [hsign]), mem_without, hholds.id_mem_posting_iff hentry]
      exact and_iff_right hid

/-! ## Conjunctions -/

/-- The literals of a conjunction leave the entries that satisfy all of them. -/
theorem mem_candidates_iff (hholds : index.Holds entries) {entry : Entry Id Tag R}
    (hentry : entry ∈ entries) {literals : List (Literal Tag)} :
    entry.id ∈ without ((intersectAll (index.postingsOf true literals)).getD index.ids)
        (unionAll (index.postingsOf false literals)) ↔
      ∀ l ∈ literals, l.eval entry.tags.contains := by
  have hid : entry.id ∈ index.ids := hholds.id_mem_ids hentry
  rw [mem_without, mem_intersectAll_getD hid, mem_unionAll,
    hholds.forall_mem_postingsOf_iff hentry, hholds.exists_mem_postingsOf_iff hentry,
    Literal.forall_eval_iff]
  simp only [not_exists, not_and]

theorem mem_selectAll_iff (hholds : index.Holds entries) {entry : Entry Id Tag R}
    (hentry : entry ∈ entries) {operands : List (Operand Tag)} :
    entry.id ∈ index.selectAll operands ↔
      Operand.evalJoin entry.tags.contains .all operands := by
  rw [Operand.evalJoin_all_iff, ← hholds.mem_candidates_iff hentry, selectAll]
  split
  case isTrue hdone =>
    -- without groups, or without candidates, there is nothing to be tested
    rw [Bool.or_eq_true] at hdone
    rcases hdone with hnone | hempty
    · simp [List.isEmpty_iff.mp hnone]
    · simp [not_mem_of_isEmpty hempty]
  case isFalse => rw [mem_filter_iff, hholds.satisfiesAll_iff hentry]

theorem mem_ids_of_mem_selectAll (hholds : index.Holds entries) {operands : List (Operand Tag)}
    {id : Id} (hid : id ∈ index.selectAll operands) : id ∈ index.ids := by
  have hcandidate : id ∈ without
      ((intersectAll (index.postingsOf true (Operand.literals operands))).getD index.ids)
      (unionAll (index.postingsOf false (Operand.literals operands))) := by
    rw [selectAll] at hid
    split at hid
    · exact hid
    · exact (mem_filter_iff.mp hid).1
  have hrequired := (mem_without.mp hcandidate).1
  cases hcommon : intersectAll (index.postingsOf true (Operand.literals operands)) with
  | none => simpa [hcommon] using hrequired
  | some common =>
      rw [hcommon, Option.getD_some, mem_of_intersectAll hcommon] at hrequired
      have hsome : index.postingsOf true (Operand.literals operands) ≠ [] := by
        rw [ne_eq, ← intersectAll_eq_none_iff, hcommon]
        exact Option.some_ne_none common
      obtain ⟨posting, hposting⟩ := List.exists_mem_of_ne_nil _ hsome
      exact hholds.mem_ids_of_mem_postingsOf posting hposting (hrequired posting hposting)

/-! ## Disjunctions -/

/-- An entry lacks one of the tags that are negated if their postings have it not
in common. -/
theorem exists_negative_iff (hholds : index.Holds entries) {entry : Entry Id Tag R}
    (hentry : entry ∈ entries) {literals : List (Literal Tag)} {common : ExtTreeSet Id}
    (hcommon : intersectAll (index.postingsOf false literals) = some common) :
    (∃ l ∈ literals, l.positive = false ∧ ¬entry.tags.contains l.name) ↔
      entry.id ∉ common := by
  rw [mem_of_intersectAll hcommon, hholds.forall_mem_postingsOf_iff hentry]
  push Not
  rfl

/-- Among the selected conjunctions, an entry is in those that it satisfies. -/
theorem exists_mem_selectAll_iff (hholds : index.Holds entries) {entry : Entry Id Tag R}
    (hentry : entry ∈ entries) {groups : List (List (Operand Tag))} :
    (∃ found ∈ groups.map index.selectAll, entry.id ∈ found) ↔
      ∃ members ∈ groups, Operand.evalJoin entry.tags.contains .all members := by
  simp only [List.mem_map, ← hholds.mem_selectAll_iff hentry]
  constructor
  · rintro ⟨_, ⟨members, hmembers, rfl⟩, hmember⟩
    exact ⟨members, hmembers, hmember⟩
  · rintro ⟨members, hmembers, hmember⟩
    exact ⟨_, ⟨members, hmembers, rfl⟩, hmember⟩

theorem mem_selectAny_iff (hholds : index.Holds entries) {entry : Entry Id Tag R}
    (hentry : entry ∈ entries) {operands : List (Operand Tag)} :
    entry.id ∈ index.selectAny operands ↔
      Operand.evalJoin entry.tags.contains .any operands := by
  have hid : entry.id ∈ index.ids := hholds.id_mem_ids hentry
  rw [Operand.evalJoin_any_iff, Literal.exists_eval_iff,
    ← hholds.exists_mem_postingsOf_iff hentry, ← hholds.exists_mem_selectAll_iff hentry,
    selectAny]
  split
  case h_1 hcommon =>
    rw [mem_unionAll]
    simp only [not_exists_negative hcommon, or_false, List.mem_append, or_and_right, exists_or]
  case h_2 common hcommon =>
    rw [hholds.exists_negative_iff hentry hcommon]
    split
    case isTrue hempty =>
      exact iff_of_true hid (Or.inl (Or.inr (not_mem_of_isEmpty hempty _)))
    case isFalse =>
      rw [mem_unionAll]
      simp only [List.mem_append, List.mem_cons, or_and_right, exists_or, exists_eq_left,
        mem_without, hid, true_and, or_assoc]

theorem mem_ids_of_mem_selectAny (hholds : index.Holds entries) {operands : List (Operand Tag)}
    {id : Id} (hid : id ∈ index.selectAny operands) : id ∈ index.ids := by
  have hpart : ∀ part ∈ index.postingsOf true (Operand.literals operands) ++
      (Operand.groups operands).map index.selectAll, id ∈ part → id ∈ index.ids := by
    intro part hpart hmember
    rw [List.mem_append, List.mem_map] at hpart
    rcases hpart with hposting | ⟨members, -, rfl⟩
    · exact hholds.mem_ids_of_mem_postingsOf part hposting hmember
    · exact hholds.mem_ids_of_mem_selectAll hmember
  rw [selectAny] at hid
  split at hid
  case h_1 =>
    obtain ⟨part, hmem, hmember⟩ := mem_unionAll.mp hid
    exact hpart part hmem hmember
  case h_2 common _ =>
    split at hid
    case isTrue => exact hid
    case isFalse =>
      obtain ⟨part, hmem, hmember⟩ := mem_unionAll.mp hid
      rw [List.mem_append, List.mem_cons] at hmem
      rcases hmem with hfound | rfl | hconjunction
      · exact hpart part (List.mem_append_left _ hfound) hmember
      · exact (mem_without.mp hmember).1
      · exact hpart part (List.mem_append_right _ hconjunction) hmember

/-! ## Formulas -/

theorem id_mem_select_iff (hholds : index.Holds entries) {entry : Entry Id Tag R}
    (hentry : entry ∈ entries) {form : NormalForm Tag} :
    entry.id ∈ index.select form ↔ form.eval entry.tags.contains := by
  have hid : entry.id ∈ index.ids := hholds.id_mem_ids hentry
  cases form with
  | const value => cases value <;> simp [select, NormalForm.eval, hid, ExtTreeSet.not_mem_empty]
  | literal l => exact hholds.mem_selectLiteral_iff hentry
  | join c operands =>
      cases c with
      | all => exact hholds.mem_selectAll_iff hentry
      | any => exact hholds.mem_selectAny_iff hentry

theorem mem_ids_of_mem_select (hholds : index.Holds entries) {form : NormalForm Tag} {id : Id}
    (hid : id ∈ index.select form) : id ∈ index.ids := by
  cases form with
  | const value =>
      cases value with
      | true => exact hid
      | false => exact absurd hid ExtTreeSet.not_mem_empty
  | literal l =>
      change id ∈ index.selectLiteral l at hid
      rw [selectLiteral] at hid
      split at hid
      · exact hholds.mem_ids_of_mem_posting hid
      · exact (mem_without.mp hid).1
  | join c operands =>
      cases c with
      | all => exact hholds.mem_ids_of_mem_selectAll hid
      | any => exact hholds.mem_ids_of_mem_selectAny hid

/-- The selected ids are those of the entries whose tags satisfy the formula. -/
theorem mem_select_iff (hholds : index.Holds entries) {form : NormalForm Tag} {id : Id} :
    id ∈ index.select form ↔
      ∃ entry ∈ entries, entry.id = id ∧ form.eval entry.tags.contains := by
  constructor
  · intro hid
    obtain ⟨entry, hentry, rfl⟩ := hholds.mem_ids_iff.mp (hholds.mem_ids_of_mem_select hid)
    exact ⟨entry, hentry, rfl, (hholds.id_mem_select_iff hentry).mp hid⟩
  · rintro ⟨entry, hentry, rfl, hvalue⟩
    exact (hholds.id_mem_select_iff hentry).mpr hvalue

theorem mem_selectByEval_iff (hholds : index.Holds entries) {form : NormalForm Tag} {id : Id} :
    id ∈ index.selectByEval form ↔
      ∃ entry ∈ entries, entry.id = id ∧ form.eval entry.tags.contains := by
  classical
  rw [selectByEval, ExtTreeSet.mem_ofList, List.contains_iff_mem]
  simp only [List.mem_map, List.mem_filter, hholds.mem_entryList_iff]
  constructor
  · rintro ⟨entry, ⟨hentry, hvalue⟩, rfl⟩
    exact ⟨entry, hentry, rfl, hvalue⟩
  · rintro ⟨entry, hentry, rfl, hvalue⟩
    exact ⟨entry, ⟨hentry, hvalue⟩, rfl⟩

end Index.Holds

namespace Index

variable {Id Tag R : Type} [Ord Id] [TransOrd Id] [LawfulEqOrd Id] [Ord Tag] [TransOrd Tag]
  [LawfulEqOrd Tag] [Scalar R]

/-- **Selecting by sets agrees with selecting by evaluation.**  In the index of any
entries, every formula selects what testing all entries one by one finds: the ids
of those whose tags satisfy the formula. -/
theorem select_eq_selectByEval {entries : List (Entry Id Tag R)} {index : Index Id Tag R}
    (hbuilt : ofEntries? entries = .ok index) (form : NormalForm Tag) :
    index.select form = index.selectByEval form ∧
      ∀ id, id ∈ index.select form ↔
        ∃ entry ∈ entries, entry.id = id ∧ form.eval entry.tags.contains = true := by
  have hholds := holds_of_ofEntries? hbuilt
  refine ⟨ExtTreeSet.ext_mem fun id => ?_, fun id => hholds.mem_select_iff⟩
  rw [hholds.mem_select_iff, hholds.mem_selectByEval_iff]

/-- In the sample corpus, with a conjunction inside a disjunction inside a
conjunction, unknown tags among them. -/
theorem select_eq_selectByEval_sample :
    ∃ index : Index String String Float, ofEntries? Catalogue.sample = .ok index ∧
      ∃ form : NormalForm String,
        form = .join .all [.literal ⟨"color:3", true⟩, .literal ⟨"scale:8", false⟩,
          .group [.literal ⟨"photo", true⟩, .literal ⟨"by:kim2091", false⟩,
            .group [.literal ⟨"anime", true⟩, .literal ⟨"scale:2", true⟩]]] ∧
        index.select form = index.selectByEval form ∧
        ∀ id, id ∈ index.select form ↔
          ∃ entry ∈ Catalogue.sample (R := Float),
            entry.id = id ∧ form.eval entry.tags.contains = true := by
  obtain ⟨index, hbuilt⟩ := exists_ofEntries?_sample
  exact ⟨index, hbuilt, _, rfl, select_eq_selectByEval hbuilt _⟩

end Index

end FacetSearch
