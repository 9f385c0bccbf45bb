import FacetSearch.Proofs.Index.Filtering
import FacetSearch.Proofs.Relevance.Exact

/-!
# What a search finds

A search finds an entry if the formula selects it and it scores above zero.  If every
occurrence of a token earns something, this says no more than that one of its texts
contains one of the tokens, as long as the query has tokens: scores decide about the
ranking, and not about what is found.

Scores are taken in exact arithmetic.  With tokens to look for, rounding changes nothing
about what is found (`exists_mem_retrieve_all_iff`).
-/

namespace FacetSearch.Index

open Std (LawfulEqOrd TransOrd)

variable {Id Tag R : Type} [Ord Id] [TransOrd Id] [LawfulEqOrd Id] [Ord Tag] [TransOrd Tag]

/-- A search finds the selected entries that score above zero. -/
theorem Holds.exists_mem_retrieve_iff [Scalar R] {index : Index Id Tag R}
    {entries : List (Entry Id Tag R)} (hholds : index.Holds entries) {form : NormalForm Tag}
    {tokens : List String} {options : ScoringOptions R} {id : Id} :
    (∃ hit ∈ index.retrieve form tokens options, hit.id = id) ↔
      id ∈ index.select form ∧
        ∃ entry ∈ entries, entry.id = id ∧ 0 < entry.score options tokens := by
  constructor
  · rintro ⟨hit, hhit, rfl⟩
    obtain ⟨hselected, hmade⟩ := mem_retrieve_iff.mp hhit
    obtain ⟨entry, hfound, hpositive, -⟩ := hit?_eq_some_iff.mp hmade
    obtain ⟨hentry, hid⟩ := hholds.entry?_eq_some_iff.mp hfound
    exact ⟨hselected, entry, hentry, hid, hpositive⟩
  · rintro ⟨hselected, entry, hentry, rfl, hpositive⟩
    have hmade : index.hit? options tokens entry.id =
        some ⟨entry.id, entry.score options tokens⟩ :=
      hit?_eq_some_iff.mpr ⟨entry, hholds.entry?_id hentry, hpositive, rfl⟩
    exact ⟨⟨entry.id, entry.score options tokens⟩, mem_retrieve_iff.mpr ⟨hselected, hmade⟩, rfl⟩

/-- Without a formula, and with tokens to look for, a search finds the entries that have a
text with one of them in it, even if scores are rounded. -/
theorem exists_mem_retrieve_all_iff [LawfulEqOrd Tag] [Scalar R] [SteadyScalar R]
    {entries : List (Entry Id Tag R)} {index : Index Id Tag R}
    (hbuilt : ofEntries? entries = .ok index) {tokens : List String} (htokens : tokens ≠ [])
    {id : Id} :
    (∃ hit ∈ index.retrieve (.const true) tokens .standard, hit.id = id) ↔
      ∃ entry ∈ entries, entry.id = id ∧ ∃ text ∈ entry.texts,
        ∃ token ∈ tokens, token ≠ "" ∧ token.toList <:+: text.text.toList := by
  have hvalid := (ofEntries?_eq_ok_iff.mp hbuilt).1
  have hholds := holds_of_ofEntries? hbuilt
  rw [hholds.exists_mem_retrieve_iff]
  constructor
  · rintro ⟨-, entry, hentry, hid, hpositive⟩
    have hscore := Entry.score_standard_pos_iff htokens (hvalid entry hentry)
    exact ⟨entry, hentry, hid, hscore.mp hpositive⟩
  · rintro ⟨entry, hentry, rfl, hcontains⟩
    refine ⟨hholds.mem_select_iff.mpr ⟨entry, hentry, rfl, rfl⟩, entry, hentry, rfl, ?_⟩
    exact (Entry.score_standard_pos_iff htokens (hvalid entry hentry)).mpr hcontains

/-- **A search finds the texts that contain a token.**  In the index of any entries, a
search with the usual options finds the selected entries that have a text with one of
the tokens in it as a substring, the empty token apart.  If the query has no tokens, it
finds those that have a text at all. -/
theorem exists_mem_retrieve_standard_iff [LawfulEqOrd Tag] {entries : List (Entry Id Tag ℝ)}
    {index : Index Id Tag ℝ} (hbuilt : ofEntries? entries = .ok index) (form : NormalForm Tag)
    (tokens : List String) (id : Id) :
    (∃ hit ∈ index.retrieve form tokens .standard, hit.id = id) ↔
      id ∈ index.select form ∧ ∃ entry ∈ entries, entry.id = id ∧ ∃ text ∈ entry.texts,
        tokens = [] ∨ ∃ token ∈ tokens, token ≠ "" ∧ token.toList <:+: text.text.toList := by
  have hvalid := (ofEntries?_eq_ok_iff.mp hbuilt).1
  have hscore : ∀ entry ∈ entries, 0 < entry.score .standard tokens ↔
      ∃ text ∈ entry.texts,
        tokens = [] ∨ ∃ token ∈ tokens, token ≠ "" ∧ token.toList <:+: text.text.toList := by
    intro entry hentry
    have hweights : ∀ text ∈ entry.texts, 0 < text.weight :=
      fun text htext => (hvalid entry hentry text htext).2
    rw [Entry.score_pos_iff ScoringOptions.standard_rewardsOccurrences hweights]
    simp only [ScoringOptions.score_pos_iff ScoringOptions.standard_rewardsOccurrences]
  rw [(holds_of_ofEntries? hbuilt).exists_mem_retrieve_iff]
  refine and_congr_right fun _ => exists_congr fun entry => and_congr_right fun hentry => ?_
  rw [hscore entry hentry]

/-- The sample corpus can be indexed with exact weights as well. -/
theorem exists_ofEntries?_exact_sample :
    ∃ index, ofEntries? (Catalogue.sample : List (Entry String String ℝ)) = .ok index := by
  refine ⟨_, ofEntries?_eq_ok_iff.mpr ⟨?_, by decide, rfl⟩⟩
  simp [Catalogue.sample, Catalogue.sampleEntry, WeightedText.ofText, WeightedText.HasValidWeight,
    Scalar.isFinite]

/-- In the sample corpus, with the empty token among the tokens and with one that stands
inside a word. -/
theorem exists_mem_retrieve_standard_iff_sample :
    ∃ index : Index String String ℝ, ofEntries? Catalogue.sample = .ok index ∧
      (∃ hit ∈ index.retrieve (.literal ⟨"anime", true⟩) ["", "film"] .standard,
        hit.id = "2x-anifilm-compact") ∧
      ¬∃ hit ∈ index.retrieve (.literal ⟨"anime", true⟩) ["", "film"] .standard,
        hit.id = "4x-animesharp" := by
  obtain ⟨index, hbuilt⟩ := exists_ofEntries?_exact_sample
  have hfound := exists_mem_retrieve_standard_iff hbuilt (.literal ⟨"anime", true⟩) ["", "film"]
  refine ⟨index, hbuilt, ?_, ?_⟩
  · rw [hfound, (holds_of_ofEntries? hbuilt).mem_select_iff]
    decide
  · rw [hfound, (holds_of_ofEntries? hbuilt).mem_select_iff]
    decide

end FacetSearch.Index
