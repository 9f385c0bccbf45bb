import FacetSearch.Proofs.Relevance.Order
import FacetSearch.Ranking
import Mathlib.Data.List.Nodup

/-!
# How hits are ranked

Among hits with comparable scores, `Hit.compare` is a linear preorder: it compares
any two of them (`isLE_total`), it is transitive (`isLE_trans`), and hits that are
each ranked before the other have the same id (`id_eq_of_isLE`).  Only
transitivity depends on the scores, since an undefined one ties with all others.

Sorting such hits therefore puts every one of them before all that it is ranked
before (`pairwise_rank`), and there is only one list of given hits with this
property.  So leaving out some hits changes nothing in the order of the others
(`rank_sublist_rank`).
-/

namespace FacetSearch.Hit

open Std (LawfulEqOrd OrientedCmp TransOrd)
open Scalar (IsComparable)

variable {Id R : Type} [Ord Id] [Scalar R]

theorem rank_perm (hits : List (Hit Id R)) : (rank hits).Perm hits :=
  List.mergeSort_perm hits _

/-! ## Comparing two hits -/

theorem isLE_compare_iff {a b : Hit Id R} :
    (a.compare b).isLE ↔
      b.score < a.score ∨ ¬a.score < b.score ∧ (Ord.compare a.id b.id).isLE := by
  unfold compare
  by_cases hgreater : b.score < a.score
  · simp [hgreater]
  · by_cases hsmaller : a.score < b.score
    · simp [hgreater, hsmaller]
    · simp [hgreater, hsmaller]

/-- Of two hits with different ids, the one ranked before the other has the greater score,
or the smaller id and a score that is no smaller. -/
theorem lt_or_id_lt_of_isLE [LawfulEqOrd Id] {a b : Hit Id R} (hle : (a.compare b).isLE)
    (hids : a.id ≠ b.id) :
    b.score < a.score ∨
      (¬a.score < b.score ∧ ¬b.score < a.score) ∧ Ord.compare a.id b.id = .lt := by
  by_cases hgreater : b.score < a.score
  · exact Or.inl hgreater
  · obtain ⟨hsmaller, hbefore⟩ := (isLE_compare_iff.mp hle).resolve_left hgreater
    have hne : Ord.compare a.id b.id ≠ .eq := mt LawfulEqOrd.eq_of_compare hids
    refine Or.inr ⟨⟨hsmaller, hgreater⟩, ?_⟩
    cases hcompare : Ord.compare a.id b.id with
    | lt => rfl
    | eq => exact absurd hcompare hne
    | gt => rw [hcompare] at hbefore; cases hbefore

variable [TransOrd Id]

theorem isLE_total (a b : Hit Id R) : (a.compare b).isLE || (b.compare a).isLE := by
  rw [Bool.or_eq_true, isLE_compare_iff, isLE_compare_iff]
  by_cases hgreater : b.score < a.score
  · exact Or.inl (Or.inl hgreater)
  by_cases hsmaller : a.score < b.score
  · exact Or.inr (Or.inl hsmaller)
  by_cases hids : (Ord.compare a.id b.id).isLE
  · exact Or.inl (Or.inr ⟨hsmaller, hids⟩)
  · have hids' : Ord.compare b.id a.id = .lt := OrientedCmp.lt_of_not_isLE hids
    exact Or.inr (Or.inr ⟨hgreater, by rw [hids']; rfl⟩)

variable [LawfulScalar R]

theorem isLE_trans {a b c : Hit Id R} (ha : IsComparable a.score) (hb : IsComparable b.score)
    (hc : IsComparable c.score) (hab : (a.compare b).isLE) (hbc : (b.compare c).isLE) :
    (a.compare c).isLE := by
  rw [isLE_compare_iff] at hab hbc ⊢
  rcases hab with hba | ⟨hab, hids⟩
  · -- the score of `c` is not above that of `b`, so it is below that of `a`
    refine Or.inl ((hc _ _ hba).resolve_left ?_)
    rcases hbc with hcb | ⟨hbc, -⟩
    · exact LawfulScalar.lt_asymm hcb
    · exact hbc
  rcases hbc with hcb | ⟨hbc, hids'⟩
  · exact Or.inl ((ha _ _ hcb).resolve_right hab)
  · have hac : ¬a.score < c.score := fun hac => (hb _ _ hac).elim hab hbc
    exact Or.inr ⟨hac, TransOrd.isLE_trans hids hids'⟩

/-- Of two hits that are each ranked before the other, neither has a smaller score or a
smaller id. -/
theorem not_lt_of_isLE_both {a b : Hit Id R} (hab : (a.compare b).isLE)
    (hba : (b.compare a).isLE) :
    (¬a.score < b.score ∧ ¬b.score < a.score) ∧ Ord.compare a.id b.id = .eq := by
  rw [isLE_compare_iff] at hab hba
  rcases hab with hgreater | ⟨hsmaller, hids⟩
  · rcases hba with hsmaller | ⟨hgreater', -⟩
    · exact absurd hsmaller (LawfulScalar.lt_asymm hgreater)
    · exact absurd hgreater hgreater'
  · rcases hba with hsmaller' | ⟨hgreater, hids'⟩
    · exact absurd hsmaller' hsmaller
    · exact ⟨⟨hsmaller, hgreater⟩, OrientedCmp.isLE_antisymm hids hids'⟩

/-- Only hits with the same id are each ranked before the other. -/
theorem id_eq_of_isLE [LawfulEqOrd Id] {a b : Hit Id R} (hab : (a.compare b).isLE)
    (hba : (b.compare a).isLE) : a.id = b.id :=
  LawfulEqOrd.eq_of_compare (not_lt_of_isLE_both hab hba).2

theorem compare_swap (a b : Hit Id R) : b.compare a = (a.compare b).swap := by
  unfold compare
  by_cases hgreater : b.score < a.score
  · rw [if_neg (LawfulScalar.lt_asymm hgreater), if_pos hgreater, if_pos hgreater,
      Ordering.swap_lt]
  · by_cases hsmaller : a.score < b.score
    · rw [if_pos hsmaller, if_neg hgreater, if_pos hsmaller, Ordering.swap_gt]
    · rw [if_neg hsmaller, if_neg hgreater, if_neg hgreater, if_neg hsmaller]
      exact OrientedCmp.eq_swap

/-! ## Rankings -/

/-- Every hit of a ranking is before all that it is ranked before. -/
theorem pairwise_rank {hits : List (Hit Id R)}
    (hcomparable : ∀ hit ∈ hits, IsComparable hit.score) :
    (rank hits).Pairwise fun a b => (a.compare b).isLE := by
  have hsorted : ((hits.attachWith (IsComparable ·.score) hcomparable).mergeSort
      fun a b => (a.1.compare b.1).isLE).Pairwise fun a b => (a.1.compare b.1).isLE := by
    refine List.pairwise_mergeSort ?_ ?_ _
    · intro a b c hab hbc
      exact isLE_trans a.2 b.2 c.2 hab hbc
    · intro a b
      exact isLE_total a.1 b.1
  -- sorting the hits is sorting them together with the proofs that they are comparable
  have hrank : rank hits = ((hits.attachWith (IsComparable ·.score) hcomparable).mergeSort
      fun a b => (a.1.compare b.1).isLE).map Subtype.val := by
    calc rank hits
        = ((hits.attachWith (IsComparable ·.score) hcomparable).map Subtype.val).mergeSort
            fun a b => (a.compare b).isLE := by rw [List.attachWith_map_subtype_val, rank]
      _ = _ := by
          symm
          apply List.map_mergeSort
          intro a _ b _
          rfl
  rw [hrank, List.pairwise_map]
  exact hsorted

/-- There is one way only to put hits into order. -/
theorem eq_rank_of_pairwise [LawfulEqOrd Id] {hits ranked : List (Hit Id R)}
    (hcomparable : ∀ hit ∈ hits, IsComparable hit.score)
    (hunique : ∀ a ∈ hits, ∀ b ∈ hits, a.id = b.id → a = b) (hperm : ranked.Perm hits)
    (hsorted : ranked.Pairwise fun a b => (a.compare b).isLE) : ranked = rank hits := by
  refine List.Perm.eq_of_pairwise ?_ hsorted (pairwise_rank hcomparable)
    (hperm.trans (rank_perm hits).symm)
  intro a b ha hb hab hba
  have ha' : a ∈ hits := hperm.mem_iff.mp ha
  have hb' : b ∈ hits := (rank_perm hits).mem_iff.mp hb
  exact hunique a ha' b hb' (id_eq_of_isLE hab hba)

/-- The ranking of some of the hits is what the ranking of all leaves of them. -/
theorem rank_sublist_rank [LawfulEqOrd Id] {found all : List (Hit Id R)}
    (hcomparable : ∀ hit ∈ all, IsComparable hit.score)
    (hunique : ∀ a ∈ all, ∀ b ∈ all, a.id = b.id → a = b)
    (hsome : ∀ hit ∈ found, hit ∈ all) (hfound : found.Nodup) (hall : all.Nodup) :
    (rank found).Sublist (rank all) := by
  classical
  have hkept : (rank found).Perm ((rank all).filter (· ∈ found)) := by
    have hnodup := ((rank_perm all).nodup_iff.mpr hall).filter (· ∈ found)
    refine (rank_perm found).trans ((List.perm_ext_iff_of_nodup hfound hnodup).mpr fun hit => ?_)
    rw [List.mem_filter, (rank_perm all).mem_iff, decide_eq_true_eq]
    exact ⟨fun hhit => ⟨hsome hit hhit, hhit⟩, And.right⟩
  have hsorted : (rank found).Pairwise fun a b => (a.compare b).isLE :=
    pairwise_rank fun hit hhit => hcomparable hit (hsome hit hhit)
  -- both lists are in order, and the order is antisymmetric among these hits
  have heq : rank found = (rank all).filter (· ∈ found) := by
    refine List.Perm.eq_of_pairwise ?_ hsorted ((pairwise_rank hcomparable).filter _) hkept
    intro a b ha hb hab hba
    have ha' : a ∈ all := hsome a ((rank_perm found).mem_iff.mp ha)
    have hb' : b ∈ all := (rank_perm all).mem_iff.mp (List.mem_of_mem_filter hb)
    exact hunique a ha' b hb' (id_eq_of_isLE hab hba)
  rw [heq]
  exact List.filter_sublist

end FacetSearch.Hit
