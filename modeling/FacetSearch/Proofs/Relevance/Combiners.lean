import FacetSearch.Proofs.Relevance.Breadth

/-!
# The choice of a combiner

Of scores that are not below zero, the maximum is no more than the sum.  More than that: a
maximum of lesser scores is no more than a sum of greater ones (`Combiner.apply_map_le_apply_map`),
so the comparison goes from the occurrences of a token to the token and from the tokens to the
text.

The combiner of the occurrences has a say twice, since the tokens that earn something are
counted.  Yet it never changes which ones these are: whether a combination is above zero is
decided by the scores alone (`ScoringOptions.tokenScore_withCombiners_pos_iff`).  So the number of
matched tokens stays as it is, and so do the texts that score at all.
-/

namespace FacetSearch

namespace Combiner

/-- Whether one combiner never makes more of scores than another one. -/
inductive AtMost : Combiner → Combiner → Prop
  | refl (c : Combiner) : AtMost c c
  | max_sum : AtMost max sum

variable {c d : Combiner}

theorem combine_le_combine (hle : c.AtMost d) {total total' score score' : ℝ}
    (htotal : 0 ≤ total) (hscore : 0 ≤ score) (htotals : total ≤ total')
    (hscores : score ≤ score') : c.combine total score ≤ d.combine total' score' := by
  cases hle with
  | refl c =>
      cases c with
      | sum => exact add_le_add htotals hscores
      | max => exact max_le_max htotals hscores
  | max_sum =>
      apply max_le
      · exact htotals.trans (le_add_of_nonneg_right (hscore.trans hscores))
      · exact hscores.trans (le_add_of_nonneg_left (htotal.trans htotals))

variable {α : Type} {items : List α} {f g : α → ℝ}

theorem foldl_combine_le_foldl_combine (hle : c.AtMost d) {total total' : ℝ} (htotal : 0 ≤ total)
    (htotals : total ≤ total') (hnonneg : ∀ item ∈ items, 0 ≤ f item)
    (hscores : ∀ item ∈ items, f item ≤ g item) :
    (items.map f).foldl c.combine total ≤ (items.map g).foldl d.combine total' := by
  induction items generalizing total total' with
  | nil => exact htotals
  | cons item rest ih =>
      obtain ⟨hitem, hrest⟩ := List.forall_mem_cons.mp hnonneg
      obtain ⟨hscore, hlater⟩ := List.forall_mem_cons.mp hscores
      have hcombined : c.combine total (f item) ≤ d.combine total' (g item) :=
        combine_le_combine hle htotal hitem htotals hscore
      exact ih (c.combine_nonneg htotal hitem) hcombined hrest hlater

/-- The lesser combiner makes no more of lesser scores, as long as none is below zero. -/
theorem apply_map_le_apply_map (hle : c.AtMost d) (hnonneg : ∀ item ∈ items, 0 ≤ f item)
    (hscores : ∀ item ∈ items, f item ≤ g item) :
    c.apply (items.map f) ≤ d.apply (items.map g) := by
  rw [apply_eq_foldl, apply_eq_foldl]
  exact foldl_combine_le_foldl_combine hle le_rfl le_rfl hnonneg hscores

end Combiner

namespace ScoringOptions

/-- The options with other combiners, for the occurrences of a token and for the tokens. -/
def withCombiners {R : Type} (options : ScoringOptions R)
    (combineMatches combineTokens : Combiner) : ScoringOptions R :=
  { options with combineMatches, combineTokens }

variable {options : ScoringOptions ℝ} {c c' d d' : Combiner} {token : String}

theorem tokenScore_withCombiners (text : List Char) (token : String) :
    (options.withCombiners c d).tokenScore text token =
      c.apply ((Text.occurrences token.toList text).map
        (options.occurrenceScore (options.baseScore.ofToken token))) :=
  rfl

/-- Whether a token earns something does not hang on the combiners: it does if one of its
occurrences does. -/
theorem tokenScore_withCombiners_pos_iff (hbase : 0 ≤ options.baseScore.ofToken token)
    (hbonus : 0 ≤ options.baseScore.ofToken token + options.boundaryBonus) (text : List Char) :
    0 < (options.withCombiners c d).tokenScore text token ↔ 0 < options.tokenScore text token := by
  have hearned : ∀ place ∈ Text.occurrences token.toList text,
      0 ≤ options.occurrenceScore (options.baseScore.ofToken token) place :=
    fun place _ => occurrenceScore_nonneg hbase hbonus place
  rw [tokenScore_withCombiners, tokenScore, Combiner.apply_map_pos_iff _ hearned,
    Combiner.apply_map_pos_iff _ hearned]

/-- With a lesser combiner of its occurrences, a token earns no more. -/
theorem tokenScore_withCombiners_le (hle : c.AtMost c')
    (hbase : 0 ≤ options.baseScore.ofToken token)
    (hbonus : 0 ≤ options.baseScore.ofToken token + options.boundaryBonus) (text : List Char) :
    (options.withCombiners c d).tokenScore text token ≤
      (options.withCombiners c' d').tokenScore text token := by
  rw [tokenScore_withCombiners, tokenScore_withCombiners]
  exact Combiner.apply_map_le_apply_map hle
    (fun place _ => occurrenceScore_nonneg hbase hbonus place) fun _ _ => le_rfl

variable {tokens : List String}

/-- The combiners do not change how many tokens earn something. -/
theorem countMatched_withCombiners (hbase : ∀ token ∈ tokens, 0 ≤ options.baseScore.ofToken token)
    (hbonus : ∀ token ∈ tokens, 0 ≤ options.baseScore.ofToken token + options.boundaryBonus)
    (text : List Char) :
    countMatched (tokens.map ((options.withCombiners c d).tokenScore text)) =
      countMatched (tokens.map (options.tokenScore text)) := by
  unfold countMatched
  rw [List.countP_map, List.countP_map]
  apply List.countP_congr
  intro token htoken
  rw [Function.comp_apply, Function.comp_apply, decide_eq_true_iff, decide_eq_true_iff,
    tokenScore_withCombiners_pos_iff (hbase token htoken) (hbonus token htoken)]

/-- **A maximum is no more than a sum, and matches the same.**  Take options under which no
occurrence of a token earns less than nothing.  With other combiners, a text never scores more
where a maximum stands in the place of a sum, for the occurrences of a token, for the tokens or
for both.  The same number of tokens earn something under all four choices, and a text that
scores above zero under one of them does so under all of them. -/
theorem score_withCombiners (options : ScoringOptions ℝ) {tokens : List String}
    (htokens : tokens ≠ []) (hbase : ∀ token ∈ tokens, 0 ≤ options.baseScore.ofToken token)
    (hbonus : ∀ token ∈ tokens, 0 ≤ options.baseScore.ofToken token + options.boundaryBonus)
    (text : String) :
    (∀ c d c' d' : Combiner, c.AtMost c' → d.AtMost d' →
      (options.withCombiners c d).score tokens text ≤
        (options.withCombiners c' d').score tokens text) ∧
    (∀ c d : Combiner,
      countMatched (tokens.map ((options.withCombiners c d).tokenScore text.toList)) =
        countMatched (tokens.map (options.tokenScore text.toList))) ∧
    (0 < options.score tokens text ↔
      ∀ c d : Combiner, 0 < (options.withCombiners c d).score tokens text) := by
  have hcount (c d : Combiner) :
      countMatched (tokens.map ((options.withCombiners c d).tokenScore text.toList)) =
        countMatched (tokens.map (options.tokenScore text.toList)) :=
    countMatched_withCombiners hbase hbonus text.toList
  have hnonneg (c d : Combiner) : ∀ token ∈ tokens,
      0 ≤ (options.withCombiners c d).tokenScore text.toList token := by
    intro token htoken
    apply tokenScore_nonneg_of_base
    · exact hbase token htoken
    · exact hbonus token htoken
  refine ⟨?_, hcount, ?_⟩
  · intro c d c' d' hmatches hcombined
    rw [score_of_ne_nil htokens, score_of_ne_nil htokens, hcount, hcount]
    apply mul_le_mul_of_nonneg_right _ (Nat.cast_nonneg _)
    apply Combiner.apply_map_le_apply_map hcombined (hnonneg c d)
    intro token htoken
    exact tokenScore_withCombiners_le hmatches (hbase token htoken) (hbonus token htoken) _
  · have hpositive (c d : Combiner) : 0 < (options.withCombiners c d).score tokens text ↔
        0 < countMatched (tokens.map (options.tokenScore text.toList)) := by
      rw [score_pos_iff_countMatched_pos htokens (hnonneg c d), hcount]
    constructor
    · intro habove c d
      -- the options are those with the combiners that they have
      have hmatched := (hpositive options.combineMatches options.combineTokens).mp habove
      exact (hpositive c d).mpr hmatched
    · intro habove
      exact habove options.combineMatches options.combineTokens

/-- A bonus that takes away what an occurrence earns where words start: `ban` earns nothing, and
`an` earns something twice. -/
theorem score_withCombiners_sample :
    (⟨.fixed 1, -1, .max, .max⟩ : ScoringOptions ℝ).score ["an", "ban"] "banana an" ≤
        (⟨.fixed 1, -1, .sum, .max⟩ : ScoringOptions ℝ).score ["an", "ban"] "banana an" ∧
      countMatched (["an", "ban"].map
          ((⟨.fixed 1, -1, .max, .max⟩ : ScoringOptions ℝ).tokenScore "banana an".toList)) =
        countMatched (["an", "ban"].map
          ((⟨.fixed 1, -1, .sum, .sum⟩ : ScoringOptions ℝ).tokenScore "banana an".toList)) ∧
      (0 < (⟨.fixed 1, -1, .sum, .sum⟩ : ScoringOptions ℝ).score ["an", "ban"] "banana an" ↔
        ∀ c d : Combiner,
          0 < (⟨.fixed 1, -1, c, d⟩ : ScoringOptions ℝ).score ["an", "ban"] "banana an") := by
  have hbase : (0 : ℝ) ≤ 1 := zero_le_one
  have hbonus : (0 : ℝ) ≤ 1 + -1 := by norm_num
  obtain ⟨hscore, hcount, hpositive⟩ := score_withCombiners ⟨.fixed 1, -1, .sum, .sum⟩
    (List.cons_ne_nil "an" ["ban"]) (fun _ _ => hbase) (fun _ _ => hbonus) "banana an"
  exact ⟨hscore .max .max .sum .max .max_sum (.refl .max), hcount .max .max, hpositive⟩

end ScoringOptions

end FacetSearch
