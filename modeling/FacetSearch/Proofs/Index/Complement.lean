import FacetSearch.Proofs.Formula.Normality
import FacetSearch.Proofs.Index.Selection

/-!
# Selecting by a formula and by its negation

Negation exchanges the connectives at every level and flips every literal.  Two
negations therefore cancel, and a single one keeps a normal form normal.

An index works on the two formulas in different ways: what is an intersection of
postings for the one is a complement of postings for the other.  The selections fit
together all the same, because each of them has the entries that satisfy its formula,
and every entry satisfies exactly one of the two (`Holds.mem_select_negate_iff`).
-/

namespace FacetSearch.Index

open Std (ExtTreeSet LawfulEqOrd TransOrd)

variable {Id Tag R : Type} [Ord Id] [TransOrd Id] [LawfulEqOrd Id] [Ord Tag] [TransOrd Tag]

/-- The negation selects all ids but those that the formula selects. -/
theorem Holds.mem_select_negate_iff {index : Index Id Tag R} {entries : List (Entry Id Tag R)}
    (hholds : index.Holds entries) {form : NormalForm Tag} {id : Id} :
    id ∈ index.select form.negate ↔ id ∈ index.ids ∧ id ∉ index.select form := by
  have hopposite : ∀ entry ∈ entries,
      (entry.id ∈ index.select form.negate ↔ entry.id ∉ index.select form) := by
    intro entry hentry
    rw [hholds.id_mem_select_iff hentry, hholds.id_mem_select_iff hentry, NormalForm.eval_negate,
      Bool.not_eq_true', Bool.not_eq_true]
  constructor
  · intro hid
    have hids : id ∈ index.ids := hholds.mem_ids_of_mem_select hid
    obtain ⟨entry, hentry, rfl⟩ := hholds.mem_ids_iff.mp hids
    exact ⟨hids, (hopposite entry hentry).mp hid⟩
  · intro hid
    obtain ⟨entry, hentry, rfl⟩ := hholds.mem_ids_iff.mp hid.1
    exact (hopposite entry hentry).mpr hid.2

/-- **A formula and its negation divide every index.**  Negating a normal form twice gives
it back.  Its negation is normal as well and has the opposite value under every
assignment, and in the index of any entries the ids that the one selects and those that
the other selects are, without overlap, all ids. -/
theorem select_union_select_negate [LawfulEqOrd Tag] [Scalar R] {form : NormalForm Tag}
    (hnormal : form.IsNormal) :
    form.negate.negate = form ∧ form.negate.IsNormal ∧
      (∀ holds, form.negate.eval holds = !form.eval holds) ∧
      ∀ (entries : List (Entry Id Tag R)) (index : Index Id Tag R),
        ofEntries? entries = .ok index →
          (∀ id, ¬(id ∈ index.select form ∧ id ∈ index.select form.negate)) ∧
            index.select form ∪ index.select form.negate = index.ids := by
  refine ⟨form.negate_negate, hnormal.negate, fun holds => form.eval_negate holds, ?_⟩
  intro entries index hbuilt
  have hholds := holds_of_ofEntries? hbuilt
  constructor
  · intro id hboth
    exact (hholds.mem_select_negate_iff.mp hboth.2).2 hboth.1
  · refine ExtTreeSet.ext_mem fun id => ?_
    rw [ExtTreeSet.mem_union_iff, hholds.mem_select_negate_iff]
    constructor
    · intro hid
      rcases hid with hselected | hnegated
      · exact hholds.mem_ids_of_mem_select hselected
      · exact hnegated.1
    · intro hids
      by_cases hselected : id ∈ index.select form
      · exact Or.inl hselected
      · exact Or.inr ⟨hids, hselected⟩

/-- In the sample corpus, with two levels of groups and an unknown tag.  All negative
literals of the formula become positive ones of a conjunction, and the other way round. -/
theorem select_union_select_negate_sample :
    ∃ form negation : NormalForm String,
      form = .join .any [.literal ⟨"color:3", false⟩, .literal ⟨"scale:8", true⟩,
        .group [.literal ⟨"anime", true⟩,
          .group [.literal ⟨"scale:4", true⟩, .literal ⟨"by:joey", false⟩]]] ∧
      negation = .join .all [.literal ⟨"color:3", true⟩, .literal ⟨"scale:8", false⟩,
        .group [.literal ⟨"anime", false⟩,
          .group [.literal ⟨"scale:4", false⟩, .literal ⟨"by:joey", true⟩]]] ∧
      form.IsNormal ∧ form.negate = negation ∧ negation.negate = form ∧ negation.IsNormal ∧
      (∀ holds, negation.eval holds = !form.eval holds) ∧
      ∃ index : Index String String Float, ofEntries? Catalogue.sample = .ok index ∧
        (∀ id, ¬(id ∈ index.select form ∧ id ∈ index.select negation)) ∧
        index.select form ∪ index.select negation = index.ids := by
  obtain ⟨index, hbuilt⟩ := exists_ofEntries?_sample
  refine ⟨_, _, rfl, rfl, ?_⟩
  have hnormal : NormalForm.IsNormal (.join .any [.literal ⟨"color:3", false⟩,
      .literal ⟨"scale:8", true⟩, .group [.literal ⟨"anime", true⟩,
        .group [.literal ⟨"scale:4", true⟩, .literal ⟨"by:joey", false⟩]]]) := by
    simp [NormalForm.IsNormal, Operand.isNormal_group_iff]
  obtain ⟨htwice, hnegated, hvalue, hdivides⟩ :=
    @select_union_select_negate String String Float _ _ _ _ _ _ _ _ hnormal
  exact ⟨hnormal, by simp [NormalForm.negate, Literal.negate, Connective.dual], htwice, hnegated,
    hvalue, index, hbuilt, hdivides _ index hbuilt⟩

end FacetSearch.Index
