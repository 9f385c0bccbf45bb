import FacetSearch.Proofs.Relevance.Standard
import Mathlib.Algebra.Order.BigOperators.Group.List
import Mathlib.Analysis.SpecialFunctions.Pow.Real
import Mathlib.Analysis.SpecialFunctions.Sqrt

/-!
# Scores in exact arithmetic

What a score says about a text is a statement about exact numbers: the real numbers,
with the arithmetic and the square root that they have.

A combination of scores none of which is below zero is above zero if and only if one of
the scores is (`Combiner.apply_map_pos_iff`).  This holds of every level that scores are
combined at, so it goes from the occurrences of a token to the token, from the tokens to
the text and from the texts to the entry, if every occurrence earns something
(`ScoringOptions.RewardsOccurrences`) and every weight is above zero.
-/

namespace FacetSearch

noncomputable instance : Scalar ℝ where
  sqrt := Real.sqrt
  isFinite _ := true
  decLt := Real.decidableLT

theorem Scalar.atLeastOne_iff_one_le {x : ℝ} : Scalar.AtLeastOne x ↔ 1 ≤ x := by
  rw [AtLeastOne, not_lt, and_iff_right_iff_imp]
  exact one_pos.trans_le

instance : SteadyScalar ℝ where
  zero_add_zero := add_zero 0
  zero_mul_zero := zero_mul _
  zero_mul _ _ := zero_mul _
  pos := {
    not_zero := lt_irrefl 0
    zero_add := fun hx => by rwa [zero_add]
    add_zero := fun hx => by rwa [add_zero]
    add := add_pos }
  atLeastOne := {
    not_zero := fun hzero => lt_irrefl 0 hzero.1
    zero_add := fun hx => by rwa [zero_add]
    add_zero := fun hx => by rwa [add_zero]
    add := by
      intro x y hx hy
      rw [Scalar.atLeastOne_iff_one_le] at hx hy ⊢
      linarith }
  mul_pos hx hy := mul_pos hx.1 hy
  mul_atLeastOne := by
    intro x y hx hy
    rw [Scalar.atLeastOne_iff_one_le] at hx hy ⊢
    exact one_le_mul_of_one_le_of_one_le hx hy
  sqrt_atLeastOne := by
    intro x hx
    rw [Scalar.atLeastOne_iff_one_le] at hx ⊢
    exact Real.one_le_sqrt.mpr hx
  natCast_atLeastOne := by
    intro n hn
    rw [Scalar.atLeastOne_iff_one_le]
    exact Nat.one_le_cast.mpr hn
  isFinite_natCast _ := rfl

/-! ## Combined scores -/

namespace Combiner

variable {scores : List ℝ}

/-- The combination of the best score so far, or of the sum so far, with one more. -/
noncomputable def combine : Combiner → ℝ → ℝ → ℝ
  | sum, total, score => total + score
  | max, best, score => Max.max best score

theorem apply_eq_foldl (c : Combiner) (scores : List ℝ) :
    c.apply scores = scores.foldl c.combine 0 := by
  cases c with
  | sum => rfl
  | max =>
      have hmax : (fun best score : ℝ => if best < score then score else best) = Max.max := by
        funext best score
        exact (max_def_lt best score).symm
      exact congrArg (fun step => scores.foldl step 0) hmax

theorem combine_nonneg (c : Combiner) {total score : ℝ} (htotal : 0 ≤ total) (hscore : 0 ≤ score) :
    0 ≤ c.combine total score := by
  cases c with
  | sum => exact add_nonneg htotal hscore
  | max => exact htotal.trans (le_max_left total score)

/-- Of two scores that are not below zero, the combination is above zero if one of them
is. -/
theorem combine_pos_iff (c : Combiner) {total score : ℝ} (htotal : 0 ≤ total) (hscore : 0 ≤ score) :
    0 < c.combine total score ↔ 0 < total ∨ 0 < score := by
  cases c with
  | max => exact lt_max_iff
  | sum =>
      constructor
      · intro hpositive
        rcases htotal.lt_or_eq with habove | hzero
        · exact Or.inl habove
        · refine Or.inr ?_
          rwa [combine, ← hzero, zero_add] at hpositive
      · rintro (habove | habove)
        · exact add_pos_of_pos_of_nonneg habove hscore
        · exact add_pos_of_nonneg_of_pos htotal habove

theorem foldl_combine_nonneg (c : Combiner) {total : ℝ} (htotal : 0 ≤ total)
    (hscores : ∀ score ∈ scores, 0 ≤ score) : 0 ≤ scores.foldl c.combine total := by
  induction scores generalizing total with
  | nil => exact htotal
  | cons score rest ih =>
      obtain ⟨hscore, hrest⟩ := List.forall_mem_cons.mp hscores
      exact ih (c.combine_nonneg htotal hscore) hrest

theorem foldl_combine_pos_iff (c : Combiner) {total : ℝ} (htotal : 0 ≤ total)
    (hscores : ∀ score ∈ scores, 0 ≤ score) :
    0 < scores.foldl c.combine total ↔ 0 < total ∨ ∃ score ∈ scores, 0 < score := by
  induction scores generalizing total with
  | nil => simp
  | cons score rest ih =>
      obtain ⟨hscore, hrest⟩ := List.forall_mem_cons.mp hscores
      rw [List.foldl_cons, ih (c.combine_nonneg htotal hscore) hrest,
        c.combine_pos_iff htotal hscore, List.exists_mem_cons_iff, or_assoc]

variable {α : Type} {items : List α} {earned : α → ℝ}

theorem apply_map_nonneg (c : Combiner) (hearned : ∀ item ∈ items, 0 ≤ earned item) :
    0 ≤ c.apply (items.map earned) := by
  rw [apply_eq_foldl]
  exact c.foldl_combine_nonneg le_rfl (List.forall_mem_map.mpr hearned)

/-- What some items have earned together is above zero if one of them has earned
something and none has earned less than nothing. -/
theorem apply_map_pos_iff (c : Combiner) (hearned : ∀ item ∈ items, 0 ≤ earned item) :
    0 < c.apply (items.map earned) ↔ ∃ item ∈ items, 0 < earned item := by
  rw [apply_eq_foldl, c.foldl_combine_pos_iff le_rfl (List.forall_mem_map.mpr hearned),
    or_iff_right (lt_irrefl 0)]
  simp only [List.mem_map, exists_exists_and_eq_and]

end Combiner

/-! ## Scores of texts -/

namespace ScoringOptions

/-- Whether every occurrence of a token that is not empty earns something. -/
def RewardsOccurrences (options : ScoringOptions ℝ) : Prop :=
  ∀ token : String, token ≠ "" → ∀ place,
    0 < options.occurrenceScore (options.baseScore.ofToken token) place

theorem baseScore_standard_pos {token : String} (hnonempty : token ≠ "") :
    0 < (standard : ScoringOptions ℝ).baseScore.ofToken token := by
  have hlength : 0 < token.length := by
    rw [← String.length_toList]
    exact List.length_pos_iff.mpr (mt String.toList_eq_nil_iff.mp hnonempty)
  exact Real.sqrt_pos.mpr (Nat.cast_pos.mpr hlength)

/-- The usual options reward every occurrence: longer tokens earn more, but every token
earns something. -/
theorem standard_rewardsOccurrences : (standard : ScoringOptions ℝ).RewardsOccurrences := by
  intro token hnonempty place
  have hbase := baseScore_standard_pos hnonempty
  have hbonus : 0 ≤ (standard : ScoringOptions ℝ).boundaryBonus := Nat.cast_nonneg 4
  rw [occurrenceScore]
  split
  · exact add_pos_of_pos_of_nonneg hbase hbonus
  · exact hbase

variable {options : ScoringOptions ℝ} {token : String} {tokens : List String}

/-- The empty token occurs nowhere, so all occurrences there are earn something. -/
theorem occurrenceScore_pos (hrewards : options.RewardsOccurrences) {text : List Char} :
    ∀ place ∈ Text.occurrences token.toList text,
      0 < options.occurrenceScore (options.baseScore.ofToken token) place := by
  intro place hplace
  have hnonempty : token.toList ≠ [] :=
    (Text.occurrences_ne_nil_iff.mp (List.ne_nil_of_mem hplace)).1
  exact hrewards token (mt String.toList_eq_nil_iff.mpr hnonempty) place

theorem tokenScore_nonneg (hrewards : options.RewardsOccurrences) (text : List Char)
    (token : String) : 0 ≤ options.tokenScore text token :=
  Combiner.apply_map_nonneg _ fun place hplace => (occurrenceScore_pos hrewards place hplace).le

/-- A token all of whose occurrences earn something earns something in the texts that
contain it. -/
theorem tokenScore_pos_iff_of_forall {text : List Char}
    (hearned : ∀ place ∈ Text.occurrences token.toList text,
      0 < options.occurrenceScore (options.baseScore.ofToken token) place) :
    0 < options.tokenScore text token ↔ token ≠ "" ∧ token.toList <:+: text := by
  rw [tokenScore, Combiner.apply_map_pos_iff _ fun place hplace => (hearned place hplace).le,
    Text.exists_mem_occurrences_iff hearned]

theorem tokenScore_pos_iff (hrewards : options.RewardsOccurrences) {text : List Char} :
    0 < options.tokenScore text token ↔ token ≠ "" ∧ token.toList <:+: text :=
  tokenScore_pos_iff_of_forall (occurrenceScore_pos hrewards)

theorem countMatched_pos_iff {text : List Char} :
    0 < countMatched (tokens.map (options.tokenScore text)) ↔
      ∃ token ∈ tokens, 0 < options.tokenScore text token := by
  simp [countMatched, List.countP_pos_iff]

/-- With tokens to look for, the combined score is multiplied by the number of those that
earned something. -/
theorem score_of_ne_nil (htokens : tokens ≠ []) (text : String) :
    options.score tokens text =
      options.combineTokens.apply (tokens.map (options.tokenScore text.toList)) *
        (countMatched (tokens.map (options.tokenScore text.toList)) : ℝ) := by
  rw [score, if_neg htokens]

theorem score_nonneg (hrewards : options.RewardsOccurrences) (text : String) :
    0 ≤ options.score tokens text := by
  by_cases htokens : tokens = []
  · rw [score, if_pos htokens]
    exact zero_le_one
  · have hcombined :
        0 ≤ options.combineTokens.apply (tokens.map (options.tokenScore text.toList)) :=
      Combiner.apply_map_nonneg _ fun token _ => tokenScore_nonneg hrewards text.toList token
    rw [score_of_ne_nil htokens]
    exact mul_nonneg hcombined (Nat.cast_nonneg _)

/-- With tokens to look for, a text scores above zero if one of them has earned something and
none has earned less than nothing. -/
theorem score_pos_iff_countMatched_pos (htokens : tokens ≠ []) {text : String}
    (hearned : ∀ token ∈ tokens, 0 ≤ options.tokenScore text.toList token) :
    0 < options.score tokens text ↔
      0 < countMatched (tokens.map (options.tokenScore text.toList)) := by
  have hcombined : 0 < options.combineTokens.apply (tokens.map (options.tokenScore text.toList)) ↔
      ∃ token ∈ tokens, 0 < options.tokenScore text.toList token :=
    Combiner.apply_map_pos_iff _ hearned
  rw [score_of_ne_nil htokens]
  constructor
  · intro hpositive
    apply countMatched_pos_iff.mpr
    exact hcombined.mp (pos_of_mul_pos_left hpositive (Nat.cast_nonneg _))
  · intro hmatched
    have hfactor := hcombined.mpr (countMatched_pos_iff.mp hmatched)
    exact mul_pos hfactor (Nat.cast_pos.mpr hmatched)

/-- A text scores above zero if the query has no tokens or the text contains one of
them. -/
theorem score_pos_iff (hrewards : options.RewardsOccurrences) {text : String} :
    0 < options.score tokens text ↔
      tokens = [] ∨ ∃ token ∈ tokens, token ≠ "" ∧ token.toList <:+: text.toList := by
  by_cases htokens : tokens = []
  · rw [score, if_pos htokens]
    exact iff_of_true zero_lt_one (Or.inl htokens)
  · have hearned : ∀ token ∈ tokens, 0 ≤ options.tokenScore text.toList token :=
      fun token _ => tokenScore_nonneg hrewards text.toList token
    rw [score_pos_iff_countMatched_pos htokens hearned, countMatched_pos_iff]
    simp only [or_iff_right htokens, ← tokenScore_pos_iff hrewards]

end ScoringOptions

/-! ## Scores of entries -/

/-- An entry whose weights are above zero scores above zero if one of its texts does. -/
theorem Entry.score_pos_iff {Id Tag : Type} [Ord Tag] {entry : Entry Id Tag ℝ}
    {options : ScoringOptions ℝ} {tokens : List String}
    (hrewards : options.RewardsOccurrences)
    (hweights : ∀ text ∈ entry.texts, 0 < text.weight) :
    0 < entry.score options tokens ↔
      ∃ text ∈ entry.texts, 0 < options.score tokens text.text := by
  have hearned : ∀ text ∈ entry.texts, 0 ≤ options.score tokens text.text * text.weight :=
    fun text htext =>
      mul_nonneg (ScoringOptions.score_nonneg hrewards text.text) (hweights text htext).le
  have hsum : 0 < entry.score options tokens ↔
      ∃ text ∈ entry.texts, 0 < options.score tokens text.text * text.weight :=
    Combiner.sum.apply_map_pos_iff hearned
  rw [hsum]
  refine exists_congr fun text => and_congr_right fun htext => ?_
  exact mul_pos_iff_of_pos_right (hweights text htext)

end FacetSearch
