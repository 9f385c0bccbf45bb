import FacetSearch.Proofs.Relevance.Breadth
import FacetSearch.Proofs.Text.Separation

/-!
# Scores are local to the parts of a text

What a token earns is decided by the offsets at which it occurs and by which of them are word
starts (`tokenScore_eq_apply`).  Both are those of the parts of a text, if a separator that is
not in the token divides it.  So with sums a token earns in the text what it earns in its
parts (`tokenScore_separated`).

The number of tokens that earn something is at least the number of those that do so in one
part.  The score of the whole text is therefore no less than the scores of the parts together
(`score_add_le_score_separated`), and more where the parts have different tokens.
-/

namespace FacetSearch.ScoringOptions

/-! ## Scores by offsets -/

/-- What an occurrence at a byte offset earns when the base score of its token is `base`. -/
def offsetScore {R : Type} [Scalar R] (options : ScoringOptions R) (base : R) (text : String)
    (offset : Nat) : R :=
  if Text.startsWordAt text offset then base + options.boundaryBonus else base

/-- A token earns what it does by the offsets of its occurrences. -/
theorem tokenScore_eq_apply {R : Type} [Scalar R] (options : ScoringOptions R)
    (text token : String) :
    options.tokenScore text.toList token =
      options.combineMatches.apply ((Text.offsets token text).map
        (options.offsetScore (options.baseScore.ofToken token) text)) := by
  unfold tokenScore Text.offsets
  rw [List.map_map]
  congr 1
  apply List.map_congr_left
  intro place hplace
  have hstarts := Text.startsWordAt_offset (Text.text_of_mem_occurrences hplace)
  unfold occurrenceScore
  rw [Function.comp_apply, offsetScore, hstarts]

/-! ## Scores of the parts -/

variable {options : ScoringOptions ℝ} {first second : String} {s : Char}

/-- With sums, a token earns in a text what it earns in its parts. -/
theorem tokenScore_separated (hs : isSeparator s) (hsum : options.combineMatches = .sum)
    {token : String} (hword : s ∉ token.toList) :
    options.tokenScore (Text.separated first s second).toList token =
      options.tokenScore first.toList token + options.tokenScore second.toList token := by
  have hfirst : (Text.offsets token first).map
        (options.offsetScore (options.baseScore.ofToken token) (Text.separated first s second)) =
      (Text.offsets token first).map
        (options.offsetScore (options.baseScore.ofToken token) first) := by
    apply List.map_congr_left
    intro offset hoffset
    unfold offsetScore
    rw [Text.startsWordAt_separated_left hs hoffset]
  have hsecond : (Text.offsets token second).map
        (options.offsetScore (options.baseScore.ofToken token) (Text.separated first s second) ∘
          ((first ++ String.singleton s).utf8ByteSize + ·)) =
      (Text.offsets token second).map
        (options.offsetScore (options.baseScore.ofToken token) second) := by
    apply List.map_congr_left
    intro offset hoffset
    rw [Function.comp_apply]
    unfold offsetScore
    rw [Text.startsWordAt_separated_right hs hoffset]
  rw [tokenScore_eq_apply, tokenScore_eq_apply, tokenScore_eq_apply, hsum, Combiner.sum_apply,
    Combiner.sum_apply, Combiner.sum_apply, Text.offsets_separated hword, List.map_append,
    List.map_map, hfirst, hsecond, List.sum_append]

/-- A token that earns something in the text does so in one of the parts. -/
theorem tokenScore_separated_pos_iff (hs : isSeparator s) (hsum : options.combineMatches = .sum)
    {token : String} (hword : s ∉ token.toList) (hbase : 0 ≤ options.baseScore.ofToken token)
    (hbonus : 0 ≤ options.baseScore.ofToken token + options.boundaryBonus) :
    0 < options.tokenScore (Text.separated first s second).toList token ↔
      0 < options.tokenScore first.toList token ∨ 0 < options.tokenScore second.toList token := by
  rw [tokenScore_separated hs hsum hword]
  exact Combiner.sum.combine_pos_iff (tokenScore_nonneg_of_base hbase hbonus first.toList)
    (tokenScore_nonneg_of_base hbase hbonus second.toList)

/-- The parts together score no more than the text. -/
theorem score_add_le_score_separated (hs : isSeparator s)
    (hmatches : options.combineMatches = .sum) (hsum : options.combineTokens = .sum)
    {tokens : List String} (htokens : tokens ≠ [])
    (hwords : ∀ token ∈ tokens, s ∉ token.toList)
    (hbase : ∀ token ∈ tokens, 0 ≤ options.baseScore.ofToken token)
    (hbonus : ∀ token ∈ tokens,
      0 ≤ options.baseScore.ofToken token + options.boundaryBonus) :
    options.score tokens first + options.score tokens second ≤
      options.score tokens (Text.separated first s second) := by
  have hnonneg (text : List Char) : ∀ token ∈ tokens, 0 ≤ options.tokenScore text token :=
    fun token htoken => tokenScore_nonneg_of_base (hbase token htoken) (hbonus token htoken) text
  have hwhole : tokens.map (options.tokenScore (Text.separated first s second).toList) =
      tokens.map fun token =>
        options.tokenScore first.toList token + options.tokenScore second.toList token :=
    List.map_congr_left fun token htoken =>
      tokenScore_separated hs hmatches (hwords token htoken)
  rw [score_eq_worth hsum htokens, score_eq_worth hsum htokens, score_eq_worth hsum htokens,
    hwhole]
  exact worth_add_le (hnonneg first.toList) (hnonneg second.toList)

/-- **Scores are local to the parts of a text.**  Let a separator divide a text.  A token
without it occurs at the offsets of the first part and at those of the second part, further
on by the length of what is before that, and words start there just when they do in the part.
With sums, a token earns what it earns in both parts.  It stands in the text if it stands in
one of the parts, and it earns something if it does so in one of them, as long as no
occurrence earns less than nothing.  Then the text scores at least as much as its parts
together. -/
theorem score_separated (first second : String) {s : Char} (hs : isSeparator s) :
    (∀ token : String, s ∉ token.toList →
      Text.offsets token (Text.separated first s second) = Text.offsets token first ++
        (Text.offsets token second).map ((first ++ String.singleton s).utf8ByteSize + ·) ∧
      (∀ offset ∈ Text.offsets token first,
        Text.startsWordAt (Text.separated first s second) offset =
          Text.startsWordAt first offset) ∧
      (∀ offset ∈ Text.offsets token second,
        Text.startsWordAt (Text.separated first s second)
          ((first ++ String.singleton s).utf8ByteSize + offset) =
            Text.startsWordAt second offset) ∧
      (token.toList <:+: (Text.separated first s second).toList ↔
        token.toList <:+: first.toList ∨ token.toList <:+: second.toList)) ∧
    ∀ options : ScoringOptions ℝ, options.combineMatches = .sum →
      (∀ token : String, s ∉ token.toList →
        options.tokenScore (Text.separated first s second).toList token =
          options.tokenScore first.toList token + options.tokenScore second.toList token) ∧
      ∀ tokens : List String, tokens ≠ [] →
        (∀ token ∈ tokens, s ∉ token.toList) →
        (∀ token ∈ tokens, 0 ≤ options.baseScore.ofToken token) →
        (∀ token ∈ tokens, 0 ≤ options.baseScore.ofToken token + options.boundaryBonus) →
        (∀ token ∈ tokens,
          0 < options.tokenScore (Text.separated first s second).toList token ↔
            0 < options.tokenScore first.toList token ∨
              0 < options.tokenScore second.toList token) ∧
        (options.combineTokens = .sum →
          options.score tokens first + options.score tokens second ≤
            options.score tokens (Text.separated first s second)) := by
  constructor
  · intro token hword
    refine ⟨Text.offsets_separated hword, fun offset => Text.startsWordAt_separated_left hs,
      fun offset => Text.startsWordAt_separated_right hs, ?_⟩
    rw [Text.toList_separated]
    exact Text.infix_append_cons_iff hword
  · intro options hmatches
    refine ⟨fun token => tokenScore_separated hs hmatches, ?_⟩
    intro tokens htokens hwords hbase hbonus
    constructor
    · intro token htoken
      exact tokenScore_separated_pos_iff hs hmatches (hwords token htoken) (hbase token htoken)
        (hbonus token htoken)
    · intro hsum
      exact score_add_le_score_separated hs hmatches hsum htokens hwords hbase hbonus

/-- Two texts with characters of several bytes and a comma of the full width of a letter
between them. -/
theorem score_separated_sample :
    isSeparator '，' = true ∧
      Text.separated "2x漫画" '，' "漫画Σ 2x" = "2x漫画，漫画Σ 2x" ∧
      Text.offsets "漫画" "2x漫画" = [2] ∧ Text.offsets "漫画" "漫画Σ 2x" = [0] ∧
      Text.offsets "漫画" "2x漫画，漫画Σ 2x" = [2, 11] ∧
      (standard : ScoringOptions ℝ).score ["漫画", "2x"] "2x漫画" +
          (standard : ScoringOptions ℝ).score ["漫画", "2x"] "漫画Σ 2x" ≤
        (standard : ScoringOptions ℝ).score ["漫画", "2x"] "2x漫画，漫画Σ 2x" := by
  have hs : isSeparator '，' = true := by decide
  have hjoined : Text.separated "2x漫画" '，' "漫画Σ 2x" = "2x漫画，漫画Σ 2x" := by decide
  have hbreadth : (standard : ScoringOptions ℝ).RewardsBreadth ["漫画", "2x"] :=
    standard_rewardsBreadth (by decide)
  obtain ⟨hplaces, hscores⟩ := score_separated "2x漫画" "漫画Σ 2x" hs
  obtain ⟨hoffsets, -⟩ := hplaces "漫画" (by decide)
  obtain ⟨-, htokens⟩ := hscores standard rfl
  obtain ⟨-, hscore⟩ := htokens ["漫画", "2x"] (List.cons_ne_nil _ _) (by decide)
    (fun token htoken => (hbreadth.baseScore_pos token htoken).le)
    (fun token htoken =>
      add_nonneg (hbreadth.baseScore_pos token htoken).le hbreadth.boundaryBonus_nonneg)
  rw [hjoined] at hoffsets hscore
  refine ⟨hs, hjoined, by decide, by decide, ?_, hscore rfl⟩
  rw [hoffsets]
  decide

end FacetSearch.ScoringOptions
