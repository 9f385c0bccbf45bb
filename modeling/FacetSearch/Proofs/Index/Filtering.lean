import FacetSearch.Index.Retrieval
import FacetSearch.Proofs.Formula.Meaning
import FacetSearch.Proofs.Index.Selection
import FacetSearch.Proofs.Ranking

/-!
# Filtering and ranking commute

What hit an id makes does not depend on the formula that has selected the id
(`mem_retrieve_iff`).  A search with a formula therefore finds what a search
without one finds and the formula does not exclude.

All hits score above zero and have different ids, so their ranking is determined
by the hits alone.  Leaving out the excluded ones before ranking or after it comes
to the same.
-/

namespace FacetSearch.Index

open Std (ExtTreeSet LawfulEqOrd TransOrd)

variable {Id Tag R : Type} [Ord Id] [TransOrd Id] [Ord Tag] [TransOrd Tag] [Scalar R]
  {index : Index Id Tag R} {options : ScoringOptions R} {tokens : List String}

/-! ## Hits -/

omit [TransOrd Tag] in
theorem hit?_eq_some_iff {id : Id} {hit : Hit Id R} :
    index.hit? options tokens id = some hit ↔
      ∃ entry, index.entry? id = some entry ∧ 0 < entry.score options tokens ∧
        ⟨id, entry.score options tokens⟩ = hit := by
  simp only [hit?, Option.bind_eq_some_iff, Option.ite_none_right_eq_some, Option.some.injEq]

variable [LawfulEqOrd Id]

/-- The hits of a search are those that the selected ids make. -/
theorem mem_retrieve_iff {form : NormalForm Tag} {hit : Hit Id R} :
    hit ∈ index.retrieve form tokens options ↔
      hit.id ∈ index.select form ∧ index.hit? options tokens hit.id = some hit := by
  simp only [retrieve, List.mem_filterMap, ExtTreeSet.mem_toList]
  constructor
  · rintro ⟨id, hid, hhit⟩
    obtain ⟨entry, -, -, rfl⟩ := hit?_eq_some_iff.mp hhit
    exact ⟨hid, hhit⟩
  · rintro ⟨hid, hhit⟩
    exact ⟨hit.id, hid, hhit⟩

/-- Each hit is made by an entry that satisfies the formula and scores above zero, and by
that entry alone. -/
theorem Holds.mem_retrieve_iff_exists {entries : List (Entry Id Tag R)}
    (hholds : index.Holds entries) {form : NormalForm Tag} {hit : Hit Id R} :
    hit ∈ index.retrieve form tokens options ↔
      ∃ entry ∈ entries, form.eval entry.tags.contains ∧ 0 < entry.score options tokens ∧
        ⟨entry.id, entry.score options tokens⟩ = hit := by
  rw [mem_retrieve_iff, hit?_eq_some_iff]
  constructor
  · intro hretrieved
    obtain ⟨hselected, entry, hfound, hpositive, hmade⟩ := hretrieved
    obtain ⟨hentry, hid⟩ := hholds.entry?_eq_some_iff.mp hfound
    rw [← hid] at hselected hmade
    exact ⟨entry, hentry, (hholds.id_mem_select_iff hentry).mp hselected, hpositive, hmade⟩
  · intro hmade
    obtain ⟨entry, hentry, hvalue, hpositive, rfl⟩ := hmade
    exact ⟨(hholds.id_mem_select_iff hentry).mpr hvalue, entry, hholds.entry?_id hentry,
      hpositive, rfl⟩

theorem score_pos_of_mem_retrieve {form : NormalForm Tag} {hit : Hit Id R}
    (hhit : hit ∈ index.retrieve form tokens options) : 0 < hit.score := by
  obtain ⟨entry, -, hpositive, heq⟩ := hit?_eq_some_iff.mp (mem_retrieve_iff.mp hhit).2
  rwa [← heq]

theorem eq_of_mem_retrieve {form : NormalForm Tag} {a b : Hit Id R}
    (ha : a ∈ index.retrieve form tokens options) (hb : b ∈ index.retrieve form tokens options)
    (hids : a.id = b.id) : a = b := by
  have hfound := (mem_retrieve_iff.mp ha).2
  rw [hids, (mem_retrieve_iff.mp hb).2] at hfound
  exact (Option.some.inj hfound).symm

theorem nodup_retrieve {form : NormalForm Tag} :
    (index.retrieve form tokens options).Nodup := by
  refine List.Pairwise.filterMap _ ?_ (index.select form).distinct_toList
  intro id id' hdifferent a ha b hb heq
  obtain ⟨_, -, -, rfl⟩ := hit?_eq_some_iff.mp ha
  obtain ⟨_, -, -, rfl⟩ := hit?_eq_some_iff.mp hb
  have hids : id = id' := congrArg Hit.id heq
  exact hdifferent (hids ▸ Std.ReflCmp.compare_self)

/-! ## Filtering -/

/-- A formula leaves the hits whose entries satisfy it. -/
theorem Holds.mem_retrieve_normalize_iff [DecidableEq Tag]
    {entries : List (Entry Id Tag R)} (hholds : index.Holds entries) {formula : Formula Tag}
    {hit : Hit Id R} :
    hit ∈ index.retrieve formula.normalize tokens options ↔
      hit ∈ index.retrieve (.const true) tokens options ∧
        ∃ entry ∈ entries, entry.id = hit.id ∧ formula.eval entry.tags.contains := by
  have hsatisfied : hit.id ∈ index.select formula.normalize ↔
      ∃ entry ∈ entries, entry.id = hit.id ∧ formula.eval entry.tags.contains := by
    rw [hholds.mem_select_iff]
    simp only [formula.expresses_normalize _]
  rw [mem_retrieve_iff, mem_retrieve_iff, hsatisfied]
  constructor
  · rintro ⟨⟨entry, hentry, hid, hvalue⟩, hhit⟩
    have hall : hit.id ∈ index.select (.const true) :=
      hholds.mem_ids_iff.mpr ⟨entry, hentry, hid⟩
    exact ⟨⟨hall, hhit⟩, entry, hentry, hid, hvalue⟩
  · rintro ⟨⟨-, hhit⟩, hentry⟩
    exact ⟨hentry, hhit⟩

/-- **Filtering commutes with ranking.**  In the index of any entries, a search with
a formula finds the hits of the search without one whose entries satisfy the
formula.  In whichever order the hits of the two searches come, the ranking of the
first ones is a sublist of the ranking of the others. -/
theorem retrieve_normalize_sublist_rank [LawfulEqOrd Tag] [DecidableEq Tag]
    {entries : List (Entry Id Tag Float)} {index : Index Id Tag Float}
    (hbuilt : ofEntries? entries = .ok index) (formula : Formula Tag)
    (tokens : List String) (options : ScoringOptions Float) :
    (∀ hit, hit ∈ index.retrieve formula.normalize tokens options ↔
      hit ∈ index.retrieve (.const true) tokens options ∧
        ∃ entry ∈ entries, entry.id = hit.id ∧ formula.eval entry.tags.contains = true) ∧
      ∀ found all, found.Perm (index.retrieve formula.normalize tokens options) →
        all.Perm (index.retrieve (.const true) tokens options) →
        (Hit.rank found).Sublist (Hit.rank all) := by
  have hholds := holds_of_ofEntries? hbuilt
  refine ⟨fun hit => hholds.mem_retrieve_normalize_iff, fun found all hfound hall => ?_⟩
  apply Hit.rank_sublist_rank
  case hcomparable =>
    intro hit hhit
    have hpositive := score_pos_of_mem_retrieve (hall.mem_iff.mp hhit)
    exact LawfulScalar.isComparable_of_pos hpositive
  case hunique =>
    intro a ha b hb hids
    exact eq_of_mem_retrieve (hall.mem_iff.mp ha) (hall.mem_iff.mp hb) hids
  case hsome =>
    intro hit hhit
    have hretrieved := hfound.mem_iff.mp hhit
    exact hall.mem_iff.mpr (hholds.mem_retrieve_normalize_iff.mp hretrieved).1
  case hfound => exact hfound.nodup_iff.mpr nodup_retrieve
  case hall => exact hall.nodup_iff.mpr nodup_retrieve

/-- In the sample corpus, with a negated disjunction inside a disjunction, and with
the hits of the search without a formula handed on backwards. -/
theorem retrieve_normalize_sublist_rank_sample :
    ∃ index : Index String String Float, ofEntries? Catalogue.sample = .ok index ∧
      ∃ formula : Formula String,
        formula = .join .any [.var "anime",
          .not (.join .any [.var "by:kim2091", .var "color:1", .var "anime"])] ∧
        (∀ hit, hit ∈ index.retrieve formula.normalize ["4", "x"] .standard ↔
          hit ∈ index.retrieve (.const true) ["4", "x"] .standard ∧
            ∃ entry ∈ Catalogue.sample (R := Float),
              entry.id = hit.id ∧ formula.eval entry.tags.contains = true) ∧
        (Hit.rank (index.retrieve formula.normalize ["4", "x"] .standard)).Sublist
          (Hit.rank (index.retrieve (.const true) ["4", "x"] .standard).reverse) := by
  obtain ⟨index, hbuilt⟩ := exists_ofEntries?_sample
  obtain ⟨hfiltered, hranked⟩ := retrieve_normalize_sublist_rank hbuilt
    (.join .any [.var "anime",
      .not (.join .any [.var "by:kim2091", .var "color:1", .var "anime"])])
    ["4", "x"] .standard
  exact ⟨index, hbuilt, _, rfl, hfiltered,
    hranked _ _ (List.Perm.refl _) (List.reverse_perm _)⟩

end FacetSearch.Index
