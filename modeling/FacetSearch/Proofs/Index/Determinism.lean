import FacetSearch.Proofs.Index.Filtering

/-!
# Rankings are determined by what is found

A search hands on its hits in no particular order.  Their ranking does not depend on that
order, whatever the options of the search are.

* Hits with defined scores are linearly ordered, up to equal scores and ids
  (`Hit.isLE_both_iff`).  An undefined score, which ties with all others, would break this.
* The hits of a search have scores above zero, and no undefined number is.  So options that
  give undefined scores lose hits and leave the order of the others alone.
* No two hits have the same id, so no two tie, and there is one way only to put them into
  order (`Hit.eq_rank_of_pairwise`).
-/

namespace FacetSearch

open Std (LawfulEqOrd TransOrd)

variable {Id Tag : Type} [Ord Id] [TransOrd Id] [LawfulEqOrd Id] [Ord Tag] [TransOrd Tag]

namespace Hit

/-- Two hits are each ranked before the other if they agree in score and id. -/
theorem isLE_both_iff {a b : Hit Id Float} (ha : a.score.isNaN = false)
    (hb : b.score.isNaN = false) :
    (a.compare b).isLE ∧ (b.compare a).isLE ↔ (a.score == b.score) = true ∧ a.id = b.id := by
  constructor
  · rintro ⟨hab, hba⟩
    obtain ⟨⟨hsmaller, hgreater⟩, hids⟩ := not_lt_of_isLE_both hab hba
    exact ⟨FloatOrder.beq_of_not_lt ha hb hsmaller hgreater, LawfulEqOrd.eq_of_compare hids⟩
  · rintro ⟨hscores, hids⟩
    obtain ⟨hsmaller, hgreater⟩ := FloatOrder.not_lt_of_beq hscores
    have hself : (Ord.compare b.id b.id).isLE := Std.ReflOrd.isLE_rfl
    rw [isLE_compare_iff, isLE_compare_iff, hids]
    exact ⟨Or.inr ⟨hsmaller, hself⟩, Or.inr ⟨hgreater, hself⟩⟩

end Hit

namespace Index

/-- **Rankings are determined by what is found.**  Hits with defined scores are linearly
ordered, up to equal scores and ids.  In whichever order the hits of a search come, all
their scores are defined and all their ids different, and their ranking is the same: the
only list of them in which every hit comes before the others that have a smaller score, or
an equal score and a greater id. -/
theorem rank_eq_rank_retrieve (index : Index Id Tag Float) (form : NormalForm Tag)
    (tokens : List String) (options : ScoringOptions Float) :
    (∀ a b c : Hit Id Float, a.score.isNaN = false → b.score.isNaN = false →
        c.score.isNaN = false →
      b.compare a = (a.compare b).swap ∧
      ((a.compare b).isLE ∨ (b.compare a).isLE) ∧
      ((a.compare b).isLE ∧ (b.compare a).isLE ↔ (a.score == b.score) = true ∧ a.id = b.id) ∧
      ((a.compare b).isLE → (b.compare c).isLE → (a.compare c).isLE)) ∧
    ∀ found : List (Hit Id Float), found.Perm (index.retrieve form tokens options) →
      (∀ hit ∈ found, hit.score.isNaN = false) ∧
      (found.map Hit.id).Nodup ∧
      Hit.rank found = Hit.rank (index.retrieve form tokens options) ∧
      (Hit.rank found).Perm found ∧
      (Hit.rank found).Pairwise (fun a b =>
        b.score < a.score ∨ (a.score == b.score) = true ∧ Ord.compare a.id b.id = .lt) ∧
      ∀ ranked : List (Hit Id Float), ranked.Perm found →
        ranked.Pairwise (fun a b => (a.compare b).isLE) → ranked = Hit.rank found := by
  constructor
  · intro a b c ha hb hc
    refine ⟨Hit.compare_swap a b, ?_, Hit.isLE_both_iff ha hb, fun hab hbc => ?_⟩
    · rw [← Bool.or_eq_true]
      exact Hit.isLE_total a b
    · exact Hit.isLE_trans (FloatOrder.isComparable_of_isNaN ha)
        (FloatOrder.isComparable_of_isNaN hb) (FloatOrder.isComparable_of_isNaN hc) hab hbc
  · intro found hfound
    have hdefined : ∀ hit ∈ found, hit.score.isNaN = false := fun hit hhit =>
      FloatOrder.isNaN_of_pos (score_pos_of_mem_retrieve (hfound.mem_iff.mp hhit))
    have hcomparable : ∀ hit ∈ found, Scalar.IsComparable hit.score := fun hit hhit =>
      FloatOrder.isComparable_of_isNaN (hdefined hit hhit)
    have hunique : ∀ a ∈ found, ∀ b ∈ found, a.id = b.id → a = b := fun a ha b hb hids =>
      eq_of_mem_retrieve (hfound.mem_iff.mp ha) (hfound.mem_iff.mp hb) hids
    have hids : (found.map Hit.id).Nodup :=
      List.Nodup.map_on hunique (hfound.nodup_iff.mpr nodup_retrieve)
    have honly : ∀ ranked : List (Hit Id Float), ranked.Perm found →
        ranked.Pairwise (fun a b => (a.compare b).isLE) → ranked = Hit.rank found :=
      fun ranked hperm hsorted => Hit.eq_rank_of_pairwise hcomparable hunique hperm hsorted
    have hsame : Hit.rank (index.retrieve form tokens options) = Hit.rank found := by
      refine honly _ ((Hit.rank_perm _).trans hfound.symm) (Hit.pairwise_rank fun hit hhit => ?_)
      exact hcomparable hit (hfound.mem_iff.mpr hhit)
    -- no two hits tie, so those of equal scores come with their ids ascending
    have hdifferent : (Hit.rank found).Pairwise fun a b => a.id ≠ b.id :=
      List.pairwise_map.mp (((Hit.rank_perm found).map Hit.id).nodup_iff.mpr hids)
    have hstrict : (Hit.rank found).Pairwise fun a b =>
        b.score < a.score ∨ (a.score == b.score) = true ∧ Ord.compare a.id b.id = .lt := by
      refine ((Hit.pairwise_rank hcomparable).and hdifferent).imp_of_mem ?_
      rintro a b ha hb ⟨hle, hne⟩
      have ha' := hdefined a ((Hit.rank_perm found).mem_iff.mp ha)
      have hb' := hdefined b ((Hit.rank_perm found).mem_iff.mp hb)
      rcases Hit.lt_or_id_lt_of_isLE hle hne with hgreater | ⟨⟨hsmaller, hgreater⟩, hbefore⟩
      · exact Or.inl hgreater
      · exact Or.inr ⟨FloatOrder.beq_of_not_lt ha' hb' hsmaller hgreater, hbefore⟩
    exact ⟨hdefined, hids, hsame.symm, Hit.rank_perm found, hstrict, honly⟩

/-- Two hits whose scores are the two zeros, and a search of the sample corpus in which one
of the tokens has an undefined base score, with its hits handed on backwards. -/
theorem rank_eq_rank_retrieve_sample :
    ∃ index : Index String String Float, ofEntries? Catalogue.sample = .ok index ∧
      ∃ options : ScoringOptions Float, (options.baseScore.ofToken "4x").isNaN = true ∧
        ((⟨"4x-sharp", 0⟩ : Hit String Float).compare ⟨"4x-sharp", -0⟩).isLE ∧
        (∀ hit ∈ (index.retrieve (.const true) ["4x", "anime"] options).reverse,
          hit.score.isNaN = false) ∧
        Hit.rank (index.retrieve (.const true) ["4x", "anime"] options).reverse =
          Hit.rank (index.retrieve (.const true) ["4x", "anime"] options) := by
  obtain ⟨index, hbuilt⟩ := exists_ofEntries?_sample
  let options : ScoringOptions Float :=
    ⟨.curve "numbers" fun token => if token = "4x" then 0 / 0 else 1, 4, .sum, .max⟩
  obtain ⟨horder, hranked⟩ :=
    rank_eq_rank_retrieve index (.const true) ["4x", "anime"] options
  obtain ⟨-, -, hzeros, -⟩ := horder ⟨"4x-sharp", 0⟩ ⟨"4x-sharp", -0⟩ ⟨"2x-film", 1 / 0⟩
    (by decide) (by decide) (by decide)
  obtain ⟨hdefined, -, hsame, -⟩ := hranked _ (List.reverse_perm _)
  exact ⟨index, hbuilt, options, by decide, (hzeros.mpr (by decide)).1, hdefined, hsame⟩

end Index

end FacetSearch
