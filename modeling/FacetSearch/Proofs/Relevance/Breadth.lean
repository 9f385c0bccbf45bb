import FacetSearch.Proofs.Relevance.Exact

/-!
# Breadth is rewarded

With sums at both levels, a text is worth the sum of what its tokens earn, times the number
of tokens that earn something (`score_eq_worth`).  Both factors grow with what the tokens
earn, as long as none of them earns less than nothing, and so does the product
(`worth_mono`).  It grows strictly if one of the scores does (`worth_lt_worth`).

The number of tokens is what rewards breadth.  On its own, a token is worth what it earns
(`worth_singleton`).  Together, tokens are worth that much each, times their number
(`sum_le_worth`, `sum_lt_worth`).
-/

namespace FacetSearch

theorem Combiner.sum_apply (scores : List ℝ) : Combiner.sum.apply scores = scores.sum :=
  List.sum_eq_foldl.symm

namespace ScoringOptions

/-! ## Sums times numbers -/

/-- What scores are worth together: their sum, times the number of those above zero. -/
noncomputable def worth (scores : List ℝ) : ℝ :=
  scores.sum * countMatched scores

theorem worth_singleton {score : ℝ} (hscore : 0 ≤ score) : worth [score] = score := by
  unfold worth countMatched
  rw [List.sum_singleton, List.countP_singleton]
  rcases hscore.lt_or_eq with hpositive | rfl
  · simp [hpositive]
  · simp

variable {α : Type} {items : List α} {f g : α → ℝ}

/-- Where no score falls, no fewer scores are above zero. -/
theorem countMatched_map_le (hle : ∀ item ∈ items, f item ≤ g item) :
    countMatched (items.map f) ≤ countMatched (items.map g) := by
  unfold countMatched
  rw [List.countP_map, List.countP_map]
  apply List.countP_mono_left
  intro item hitem hmatched
  have hpositive : 0 < f item := of_decide_eq_true hmatched
  exact decide_eq_true (hpositive.trans_le (hle item hitem))

/-- Multiplied by the number of greater scores, a sum is no less than it is worth. -/
theorem worth_le_sum_mul (hnonneg : ∀ item ∈ items, 0 ≤ f item)
    (hle : ∀ item ∈ items, f item ≤ g item) :
    worth (items.map f) ≤ (items.map f).sum * countMatched (items.map g) := by
  have hsum : 0 ≤ (items.map f).sum := List.sum_nonneg (List.forall_mem_map.mpr hnonneg)
  exact mul_le_mul_of_nonneg_left (Nat.cast_le.mpr (countMatched_map_le hle)) hsum

/-- Scores are worth no less if none of them falls. -/
theorem worth_mono (hnonneg : ∀ item ∈ items, 0 ≤ f item)
    (hle : ∀ item ∈ items, f item ≤ g item) :
    worth (items.map f) ≤ worth (items.map g) :=
  calc worth (items.map f)
      ≤ (items.map f).sum * countMatched (items.map g) := worth_le_sum_mul hnonneg hle
    _ ≤ worth (items.map g) :=
        mul_le_mul_of_nonneg_right (List.sum_le_sum hle) (Nat.cast_nonneg _)

/-- They are worth more if one of them rises and none falls. -/
theorem worth_lt_worth (hnonneg : ∀ item ∈ items, 0 ≤ f item)
    (hle : ∀ item ∈ items, f item ≤ g item) (hlt : ∃ item ∈ items, f item < g item) :
    worth (items.map f) < worth (items.map g) := by
  have hmatched : 0 < countMatched (items.map g) := by
    obtain ⟨item, hitem, hrises⟩ := hlt
    apply List.countP_pos_iff.mpr
    exact ⟨g item, List.mem_map_of_mem hitem,
      decide_eq_true ((hnonneg item hitem).trans_lt hrises)⟩
  calc worth (items.map f)
      ≤ (items.map f).sum * countMatched (items.map g) := worth_le_sum_mul hnonneg hle
    _ < worth (items.map g) :=
        mul_lt_mul_of_pos_right (List.sum_lt_sum f g hle hlt) (Nat.cast_pos.mpr hmatched)

/-- What is earned in two places is worth at least as much together as in each of them for
itself. -/
theorem worth_add_le (hf : ∀ item ∈ items, 0 ≤ f item) (hg : ∀ item ∈ items, 0 ≤ g item) :
    worth (items.map f) + worth (items.map g) ≤
      worth (items.map fun item => f item + g item) := by
  have hsum : (items.map fun item => f item + g item).sum =
      (items.map f).sum + (items.map g).sum := List.sum_map_add
  have hfirst := worth_le_sum_mul hf fun item hitem => le_add_of_nonneg_right (hg item hitem)
  have hsecond := worth_le_sum_mul hg fun item hitem => le_add_of_nonneg_left (hf item hitem)
  calc worth (items.map f) + worth (items.map g)
      ≤ (items.map f).sum * countMatched (items.map fun item => f item + g item) +
          (items.map g).sum * countMatched (items.map fun item => f item + g item) :=
        add_le_add hfirst hsecond
    _ = worth (items.map fun item => f item + g item) := by
        unfold worth
        rw [hsum, add_mul]

variable {scores : List ℝ}

theorem sum_pos_iff (hnonneg : ∀ score ∈ scores, 0 ≤ score) :
    0 < scores.sum ↔ 0 < countMatched scores := by
  have hsum := Combiner.sum.apply_map_pos_iff hnonneg
  rw [List.map_id', Combiner.sum_apply] at hsum
  rw [hsum, countMatched, List.countP_pos_iff]
  simp only [decide_eq_true_eq]

/-- Scores are worth at least what they add up to. -/
theorem sum_le_worth (hnonneg : ∀ score ∈ scores, 0 ≤ score) : scores.sum ≤ worth scores := by
  rcases (List.sum_nonneg hnonneg).lt_or_eq with hpositive | hzero
  · have hsome : (1 : ℝ) ≤ countMatched scores :=
      Nat.one_le_cast.mpr ((sum_pos_iff hnonneg).mp hpositive)
    exact le_mul_of_one_le_right hpositive.le hsome
  · unfold worth
    rw [← hzero, zero_mul]

/-- If there are two above zero, they are worth more than they add up to. -/
theorem sum_lt_worth (hnonneg : ∀ score ∈ scores, 0 ≤ score) (htwo : 2 ≤ countMatched scores) :
    scores.sum < worth scores := by
  have hpositive : 0 < scores.sum := (sum_pos_iff hnonneg).mpr (by omega)
  have hmany : (1 : ℝ) < countMatched scores := Nat.one_lt_cast.mpr htwo
  exact lt_mul_of_one_lt_right hpositive hmany

/-! ## Scores of texts -/

/-- Whether options add scores up at both levels, reward every occurrence of some tokens and
take nothing away where words start. -/
structure RewardsBreadth (options : ScoringOptions ℝ) (tokens : List String) : Prop where
  combineMatches_eq : options.combineMatches = .sum
  combineTokens_eq : options.combineTokens = .sum
  baseScore_pos : ∀ token ∈ tokens, 0 < options.baseScore.ofToken token
  boundaryBonus_nonneg : 0 ≤ options.boundaryBonus

variable {options : ScoringOptions ℝ} {tokens : List String}

/-- The usual options do so, if no token is empty. -/
theorem standard_rewardsBreadth (hnonempty : ∀ token ∈ tokens, token ≠ "") :
    (standard : ScoringOptions ℝ).RewardsBreadth tokens where
  combineMatches_eq := rfl
  combineTokens_eq := rfl
  baseScore_pos := fun token htoken => baseScore_standard_pos (hnonempty token htoken)
  boundaryBonus_nonneg := Nat.cast_nonneg 4

theorem score_eq_worth (hsum : options.combineTokens = .sum) (htokens : tokens ≠ [])
    (text : String) :
    options.score tokens text = worth (tokens.map (options.tokenScore text.toList)) := by
  rw [score_of_ne_nil htokens, hsum, Combiner.sum_apply]
  rfl

theorem occurrenceScore_nonneg {base : ℝ} (hbase : 0 ≤ base)
    (hbonus : 0 ≤ base + options.boundaryBonus) (place : Text.Cut) :
    0 ≤ options.occurrenceScore base place := by
  unfold occurrenceScore
  split
  · exact hbonus
  · exact hbase

theorem tokenScore_nonneg_of_base {token : String} (hbase : 0 ≤ options.baseScore.ofToken token)
    (hbonus : 0 ≤ options.baseScore.ofToken token + options.boundaryBonus) (text : List Char) :
    0 ≤ options.tokenScore text token :=
  Combiner.apply_map_nonneg _ fun place _ => occurrenceScore_nonneg hbase hbonus place

namespace RewardsBreadth

theorem tokenScore_pos_iff (hbreadth : options.RewardsBreadth tokens) {token : String}
    (htoken : token ∈ tokens) (hnonempty : token ≠ "") {text : List Char} :
    0 < options.tokenScore text token ↔ token.toList <:+: text := by
  have hbase := hbreadth.baseScore_pos token htoken
  have hearned : ∀ place ∈ Text.occurrences token.toList text,
      0 < options.occurrenceScore (options.baseScore.ofToken token) place := by
    intro place _
    unfold occurrenceScore
    split
    · exact add_pos_of_pos_of_nonneg hbase hbreadth.boundaryBonus_nonneg
    · exact hbase
  rw [tokenScore_pos_iff_of_forall hearned, and_iff_right hnonempty]

theorem tokenScore_nonneg (hbreadth : options.RewardsBreadth tokens) (text : List Char) :
    ∀ token ∈ tokens, 0 ≤ options.tokenScore text token := by
  intro token htoken
  have hbase := (hbreadth.baseScore_pos token htoken).le
  exact tokenScore_nonneg_of_base hbase (add_nonneg hbase hbreadth.boundaryBonus_nonneg) text

theorem countMatched_eq (hbreadth : options.RewardsBreadth tokens)
    (hnonempty : ∀ token ∈ tokens, token ≠ "") (text : List Char) :
    countMatched (tokens.map (options.tokenScore text)) =
      tokens.countP fun token => token.toList <:+: text := by
  unfold countMatched
  rw [List.countP_map]
  apply List.countP_congr
  intro token htoken
  simp only [Function.comp_apply, decide_eq_true_eq]
  exact hbreadth.tokenScore_pos_iff htoken (hnonempty token htoken)

/-- The scores that tokens would give a text on their own are what they earn in it. -/
theorem map_score_singleton (hbreadth : options.RewardsBreadth tokens) (text : String) :
    tokens.map (fun token => options.score [token] text) =
      tokens.map (options.tokenScore text.toList) := by
  apply List.map_congr_left
  intro token htoken
  have hearned := hbreadth.tokenScore_nonneg text.toList token htoken
  rw [score_eq_worth hbreadth.combineTokens_eq (List.cons_ne_nil _ _), List.map_singleton,
    worth_singleton hearned]

/-- A text scores no lower than another one if no token earns less in it. -/
theorem score_le_score (hbreadth : options.RewardsBreadth tokens) {first second : String}
    (hle : ∀ token ∈ tokens,
      options.tokenScore second.toList token ≤ options.tokenScore first.toList token) :
    options.score tokens second ≤ options.score tokens first := by
  by_cases htokens : tokens = []
  · rw [score, score, if_pos htokens, if_pos htokens]
  · rw [score_eq_worth hbreadth.combineTokens_eq htokens,
      score_eq_worth hbreadth.combineTokens_eq htokens]
    exact worth_mono (hbreadth.tokenScore_nonneg second.toList) hle

/-- It scores higher if besides some token stands in it alone. -/
theorem score_lt_score (hbreadth : options.RewardsBreadth tokens)
    (hnonempty : ∀ token ∈ tokens, token ≠ "") {first second : String}
    (hle : ∀ token ∈ tokens,
      options.tokenScore second.toList token ≤ options.tokenScore first.toList token)
    (hmore : ∃ token ∈ tokens,
      token.toList <:+: first.toList ∧ ¬token.toList <:+: second.toList) :
    options.score tokens second < options.score tokens first := by
  obtain ⟨token, htoken, hfirst, hsecond⟩ := hmore
  have htokens : tokens ≠ [] := List.ne_nil_of_mem htoken
  have hearned {text : List Char} :
      0 < options.tokenScore text token ↔ token.toList <:+: text :=
    hbreadth.tokenScore_pos_iff htoken (hnonempty token htoken)
  have hlt : options.tokenScore second.toList token < options.tokenScore first.toList token :=
    (not_lt.mp (mt hearned.mp hsecond)).trans_lt (hearned.mpr hfirst)
  rw [score_eq_worth hbreadth.combineTokens_eq htokens,
    score_eq_worth hbreadth.combineTokens_eq htokens]
  exact worth_lt_worth (hbreadth.tokenScore_nonneg second.toList) hle ⟨token, htoken, hlt⟩

/-- A text scores at least what its tokens would score on their own, and more if two of them
stand in it. -/
theorem sum_score_le_score (hbreadth : options.RewardsBreadth tokens)
    (hnonempty : ∀ token ∈ tokens, token ≠ "") (text : String) :
    (tokens.map fun token => options.score [token] text).sum ≤ options.score tokens text ∧
      (2 ≤ tokens.countP (fun token => token.toList <:+: text.toList) →
        (tokens.map fun token => options.score [token] text).sum <
          options.score tokens text) := by
  have hearned := List.forall_mem_map.mpr (hbreadth.tokenScore_nonneg text.toList)
  rw [hbreadth.map_score_singleton, ← hbreadth.countMatched_eq hnonempty]
  by_cases htokens : tokens = []
  · subst htokens
    refine ⟨zero_le_one, fun htwo => ?_⟩
    exact absurd htwo (Nat.not_succ_le_zero 1)
  · rw [score_eq_worth hbreadth.combineTokens_eq htokens]
    exact ⟨sum_le_worth hearned, sum_lt_worth hearned⟩

end RewardsBreadth

/-- **Breadth is rewarded.**  Take options that add scores up, with a positive base score for
each token and a bonus that is not negative, such as the usual ones.  A text in which no token
earns less than in another one, and in which a token stands that the other one lacks, scores
higher.  And a text scores at least what its tokens would score on their own together, and
more if two of them stand in it. -/
theorem score_rewards_breadth :
    (∀ tokens : List String, (∀ token ∈ tokens, token ≠ "") →
      (standard : ScoringOptions ℝ).RewardsBreadth tokens) ∧
    ∀ (options : ScoringOptions ℝ) (tokens : List String), (∀ token ∈ tokens, token ≠ "") →
      options.RewardsBreadth tokens →
      (∀ first second : String,
        (∀ token ∈ tokens,
          options.tokenScore second.toList token ≤ options.tokenScore first.toList token) →
        (∃ token ∈ tokens,
          token.toList <:+: first.toList ∧ ¬token.toList <:+: second.toList) →
        options.score tokens second < options.score tokens first) ∧
      ∀ text : String,
        (tokens.map fun token => options.score [token] text).sum ≤ options.score tokens text ∧
        (2 ≤ tokens.countP (fun token => token.toList <:+: text.toList) →
          (tokens.map fun token => options.score [token] text).sum <
            options.score tokens text) := by
  refine ⟨fun tokens => standard_rewardsBreadth, fun options tokens hnonempty hbreadth => ?_⟩
  constructor
  · intro first second hle hmore
    exact hbreadth.score_lt_score hnonempty hle hmore
  · intro text
    exact hbreadth.sum_score_le_score hnonempty text

/-- Three tokens, one of which is there twice, and two texts that begin alike, the second one
with a token more. -/
theorem score_rewards_breadth_sample :
    (standard : ScoringOptions ℝ).score ["4x", "anime", "4x"] "4x sharp" <
        (standard : ScoringOptions ℝ).score ["4x", "anime", "4x"] "4x anime" ∧
      (["4x", "anime", "4x"].map fun token =>
          (standard : ScoringOptions ℝ).score [token] "4x sharp").sum <
        (standard : ScoringOptions ℝ).score ["4x", "anime", "4x"] "4x sharp" := by
  obtain ⟨hstandard, hrewards⟩ := score_rewards_breadth
  have hnonempty : ∀ token ∈ ["4x", "anime", "4x"], token ≠ "" := by decide
  have hbreadth := hstandard _ hnonempty
  obtain ⟨hmore, hsum⟩ := hrewards _ _ hnonempty hbreadth
  refine ⟨hmore "4x anime" "4x sharp" ?_ ⟨"anime", by decide⟩, (hsum "4x sharp").2 (by decide)⟩
  have hsharp : Text.occurrences "4x".toList "4x sharp".toList = [⟨[], "4x sharp".toList⟩] := by
    decide
  have hanime : Text.occurrences "4x".toList "4x anime".toList = [⟨[], "4x anime".toList⟩] := by
    decide
  have hscale : (standard : ScoringOptions ℝ).tokenScore "4x sharp".toList "4x" ≤
      (standard : ScoringOptions ℝ).tokenScore "4x anime".toList "4x" := by
    simp only [tokenScore, hsharp, hanime, List.map_cons, List.map_nil, occurrenceScore,
      Text.Cut.startsWord, le_refl]
  have hword : (standard : ScoringOptions ℝ).tokenScore "4x sharp".toList "anime" ≤
      (standard : ScoringOptions ℝ).tokenScore "4x anime".toList "anime" := by
    have habsent : ¬0 < (standard : ScoringOptions ℝ).tokenScore "4x sharp".toList "anime" := by
      rw [hbreadth.tokenScore_pos_iff (by decide) (by decide)]
      decide
    exact (not_lt.mp habsent).trans (hbreadth.tokenScore_nonneg _ _ (by decide))
  intro token htoken
  fin_cases htoken
  · exact hscale
  · exact hword
  · exact hscale

end ScoringOptions

end FacetSearch
