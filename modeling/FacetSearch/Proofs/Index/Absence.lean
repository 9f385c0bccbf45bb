import FacetSearch.Proofs.Index.Filtering
import FacetSearch.Proofs.Relevance.Absence

/-!
# No match, no hit

With tokens to look for, a search finds no entry without any of them in its texts, whatever
its options are: the scores of such an entry are zeros, and zeros times finite weights add up
to zero (`Entry.score_eq_zero`).  The arithmetic may round, and scores may be negative,
infinite or undefined.

The converse needs options that reward occurrences (`exists_mem_retrieve_standard_iff`).
-/

namespace FacetSearch.Index

open Std (LawfulEqOrd TransOrd)

variable {Id Tag R : Type} [Ord Id] [TransOrd Id] [LawfulEqOrd Id] [Ord Tag] [TransOrd Tag]
  [LawfulEqOrd Tag] [Scalar R] [InertZero R]

variable (Id Tag)

/-- **No match, no hit.**  Whatever the options are, a text without any of the tokens scores
zero, and a text that scores above zero has one of them in it which earns something.  So each
hit of a search, whatever the formula is, is made by an entry with one of the tokens in one of
its texts, as long as the query has tokens. -/
theorem exists_infix_of_mem_retrieve (options : ScoringOptions R) {tokens : List String}
    (htokens : tokens ≠ []) :
    (∀ text : String, (∀ token ∈ tokens, token ≠ "" → ¬token.toList <:+: text.toList) →
      options.score tokens text = 0) ∧
    (∀ text : String, 0 < options.score tokens text →
      ∃ token ∈ tokens, token ≠ "" ∧ token.toList <:+: text.toList ∧
        0 < options.tokenScore text.toList token) ∧
    ∀ (entries : List (Entry Id Tag R)) (index : Index Id Tag R),
      ofEntries? entries = .ok index → ∀ form, ∀ hit ∈ index.retrieve form tokens options,
        ∃ entry ∈ entries, index.entry? hit.id = some entry ∧
          ∃ text ∈ entry.texts, ∃ token ∈ tokens,
            token ≠ "" ∧ token.toList <:+: text.text.toList := by
  refine ⟨fun text => ScoringOptions.score_eq_zero htokens, ?_, ?_⟩
  · intro text hpositive
    obtain ⟨token, htoken, hearned⟩ := ScoringOptions.exists_tokenScore_pos htokens hpositive
    obtain ⟨hnonempty, hstands⟩ := ScoringOptions.infix_of_tokenScore_pos hearned
    exact ⟨token, htoken, hnonempty, hstands, hearned⟩
  · intro entries index hbuilt form hit hhit
    obtain ⟨entry, hfound, hpositive, -⟩ := hit?_eq_some_iff.mp (mem_retrieve_iff.mp hhit).2
    have hentry := ((holds_of_ofEntries? hbuilt).entry?_eq_some_iff.mp hfound).1
    have hvalid := (ofEntries?_eq_ok_iff.mp hbuilt).1 entry hentry
    refine ⟨entry, hentry, hfound, ?_⟩
    by_contra habsent
    have hzero : entry.score options tokens = 0 :=
      Entry.score_eq_zero htokens hvalid fun text htext token htoken hnonempty hstands =>
        habsent ⟨text, htext, token, htoken, hnonempty, hstands⟩
    rw [hzero] at hpositive
    exact InertZero.not_zero_pos hpositive

/-- In the sample corpus, with an infinite bonus and with a base score that is undefined for
one of the tokens and negative for another one. -/
theorem exists_infix_of_mem_retrieve_sample :
    ∃ index : Index String String Float, ofEntries? Catalogue.sample = .ok index ∧
      ∃ options : ScoringOptions Float,
        (options.baseScore.ofToken "4x").isNaN = true ∧ options.boundaryBonus = 1 / 0 ∧
        options.score ["4x", "", "anime"] "2x-denoise" = 0 ∧
        (∃ token ∈ ["4x", "", "anime"], token ≠ "" ∧ token.toList <:+: "anime film".toList ∧
          0 < options.tokenScore "anime film".toList token) ∧
        ∃ hit ∈ index.retrieve (.const true) ["4x", "", "anime"] options,
          ∃ entry ∈ Catalogue.sample (R := Float), index.entry? hit.id = some entry ∧
            ∃ text ∈ entry.texts, ∃ token ∈ ["4x", "", "anime"],
              token ≠ "" ∧ token.toList <:+: text.text.toList := by
  obtain ⟨index, hbuilt⟩ := exists_ofEntries?_sample
  let options : ScoringOptions Float :=
    ⟨.curve "signs" fun token => if token = "4x" then 0 / 0 else -1, 1 / 0, .sum, .max⟩
  let entry : Entry String String Float := Catalogue.sampleEntry "2x-anifilm-compact"
    ["scale:2", "by:kim2091", "color:3", "anime", "compression-removal"]
    "2x-AniFilm-Compact" "Kim2091" "Restores old anime film scans"
  have hfound : ⟨entry.id, entry.score options ["4x", "", "anime"]⟩ ∈
      index.retrieve (.const true) ["4x", "", "anime"] options := by
    have hentry : entry ∈ Catalogue.sample :=
      List.mem_of_getElem? (show Catalogue.sample[2]? = some entry from rfl)
    have hpositive : 0 < entry.score options ["4x", "", "anime"] := by decide +kernel
    exact (holds_of_ofEntries? hbuilt).mem_retrieve_iff_exists.mpr
      ⟨entry, hentry, rfl, hpositive, rfl⟩
  obtain ⟨habsent, hpresent, hhits⟩ := exists_infix_of_mem_retrieve String String options
    (List.cons_ne_nil "4x" ["", "anime"])
  exact ⟨index, hbuilt, options, by decide, rfl, habsent "2x-denoise" (by decide),
    hpresent "anime film" (by decide +kernel), _, hfound, hhits _ index hbuilt _ _ hfound⟩

end FacetSearch.Index
