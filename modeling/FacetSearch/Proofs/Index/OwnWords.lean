import FacetSearch.Proofs.Index.Finding
import FacetSearch.Proofs.Query.Standing
import FacetSearch.Proofs.Query.TokenForm
import FacetSearch.Proofs.Relevance.Rounding

/-!
# Searching a text for its own words

A text that is used as a query is found again, since its words stand in it.  There is one
kind of token of which this is not so: `v 2` asks for the version `v2`, and a text in which
the two parts of the notation are divided is no match for it (`IsParted`).  If all tokens of
a text are of this kind, the text is not found.

The query is put into lowercase piece by piece, and the text as a whole.  So a text with a
capital sigma may have a token with other small sigmas only, as `ΑΣ.Σ^` has both of its
tokens (`IsRecased`).  Nothing is said about such tokens.
-/

namespace FacetSearch.Index

open Std (LawfulEqOrd TransOrd)

/-! ## Tokens that a text does not have as a whole -/

/-- Whether a token is a version or a scale that a text has in lowercase in two parts only,
with separators between them. -/
def IsParted (text token : String) : Prop :=
  ¬token.toList <:+: (Text.lower text).toList ∧
    ∃ a gap b, token.toList = a ++ b ∧ Query.areNotation a b ∧ (∀ c ∈ gap, isSeparator c) ∧
      a ++ (gap ++ b) <:+: (Text.lower text).toList

theorem isParted_version : IsParted "v 2" "v2" :=
  ⟨by decide +kernel, ['v'], [' '], ['2'], rfl, by decide,
    List.forall_mem_singleton.mpr (by decide), by decide +kernel⟩

/-- Whether a text with a capital sigma has a token in lowercase with other small sigmas
only. -/
def IsRecased (text token : String) : Prop :=
  ¬token.toList <:+: (Text.lower text).toList ∧ 'Σ' ∈ text.toList ∧
    ∃ other, other.map Text.mergeSigma = token.toList.map Text.mergeSigma ∧
      other <:+: (Text.lower text).toList

variable {text token : String}

/-- Every other token of a text stands in its lowercase form. -/
theorem isInfix_lower_of_mem_tokens (htoken : token ∈ Query.tokens text)
    (hparted : ¬IsParted text token) (hrecased : ¬IsRecased text token) :
    token.toList <:+: (Text.lower text).toList := by
  by_contra hmissing
  obtain ⟨chars, hchars, rfl⟩ := List.mem_map.mp htoken
  have hstands := Query.stands_of_mem_tokenChars hchars
  rw [← String.toList_ofList (l := Text.lowerChars text.toList),
    ← String.toList_ofList (l := chars)] at hstands
  rcases hstands with hwhole | hother | hparts
  · exact hmissing hwhole
  · exact hrecased ⟨hmissing, hother⟩
  · exact hparted ⟨hmissing, hparts⟩

/-! ## Texts alone in an index -/

/-- An entry with nothing but a text. -/
def textEntry (text : String) : Entry String String Float :=
  ⟨"a", ∅, [.ofText text 1]⟩

theorem exists_ofEntries?_textEntry (text : String) :
    ∃ index, ofEntries? [textEntry text] = .ok index := by
  refine ⟨_, ofEntries?_eq_ok_iff.mpr ⟨?_, List.nodup_singleton _, rfl⟩⟩
  simp only [textEntry, List.mem_singleton, forall_eq, WeightedText.HasValidWeight,
    WeightedText.ofText]
  decide

/-! ## Finding a text -/

section

variable {R : Type} [Scalar R] [SteadyScalar R]

theorem score_lower_pos_iff (htokens : Query.tokens text ≠ []) :
    0 < (ScoringOptions.standard : ScoringOptions R).score (Query.tokens text)
        (Text.lower text) ↔
      ∃ token ∈ Query.tokens text, token.toList <:+: (Text.lower text).toList := by
  rw [ScoringOptions.score_standard_pos_iff htokens]
  refine exists_congr fun token => and_congr_right fun htoken => ?_
  exact and_iff_right (Query.ne_empty_of_mem_tokens htoken)

variable {Id Tag : Type} [Ord Id] [TransOrd Id] [LawfulEqOrd Id] [Ord Tag] [TransOrd Tag]
  [LawfulEqOrd Tag]

/-- An entry that has no other text is found if one of the tokens stands in it. -/
theorem exists_mem_retrieve_tokens_iff {entries : List (Entry Id Tag R)} {index : Index Id Tag R}
    (hbuilt : ofEntries? entries = .ok index) {entry : Entry Id Tag R} (hentry : entry ∈ entries)
    {weight : R} (htexts : entry.texts = [.ofText text weight])
    (htokens : Query.tokens text ≠ []) :
    (∃ hit ∈ index.retrieve (.const true) (Query.tokens text) .standard, hit.id = entry.id) ↔
      ∃ token ∈ Query.tokens text, token.toList <:+: (Text.lower text).toList := by
  rw [exists_mem_retrieve_all_iff hbuilt htokens]
  constructor
  · rintro ⟨other, hother, hid, found, hfound, token, htoken, -, hstands⟩
    obtain rfl := (holds_of_ofEntries? hbuilt).eq_of_id_eq hother hentry hid
    rw [htexts, List.mem_singleton] at hfound
    rw [hfound] at hstands
    exact ⟨token, htoken, hstands⟩
  · rintro ⟨token, htoken, hstands⟩
    exact ⟨entry, hentry, rfl, .ofText text weight, htexts ▸ List.mem_singleton_self _, token,
      htoken, Query.ne_empty_of_mem_tokens htoken, hstands⟩

/-- **A text is found by its own words.**  A text scores above zero as a query for itself, and
the entries that have it are found, unless each of its tokens is a notation that it has in
two parts or a word that it has with other sigmas.  If they all are notations in two parts,
the text scores nothing, and an entry that has no other is not found. -/
theorem retrieve_tokens_of_text (text : String) :
    ((∃ token ∈ Query.tokens text, ¬IsParted text token ∧ ¬IsRecased text token) →
      (∀ weight : R, 0 < (ScoringOptions.standard : ScoringOptions R).score (Query.tokens text)
        (WeightedText.ofText text weight).text) ∧
      ∀ (entries : List (Entry Id Tag R)) (index : Index Id Tag R),
        ofEntries? entries = .ok index → ∀ entry ∈ entries, ∀ weight,
          WeightedText.ofText text weight ∈ entry.texts →
            ∃ hit ∈ index.retrieve (.const true) (Query.tokens text) .standard,
              hit.id = entry.id) ∧
    (Query.tokens text ≠ [] → (∀ token ∈ Query.tokens text, IsParted text token) →
      (∀ weight : R, ¬0 < (ScoringOptions.standard : ScoringOptions R).score (Query.tokens text)
        (WeightedText.ofText text weight).text) ∧
      ∀ (entries : List (Entry Id Tag R)) (index : Index Id Tag R),
        ofEntries? entries = .ok index → ∀ entry ∈ entries, ∀ weight,
          entry.texts = [.ofText text weight] →
            ¬∃ hit ∈ index.retrieve (.const true) (Query.tokens text) .standard,
              hit.id = entry.id) := by
  constructor
  · rintro ⟨token, htoken, hparted, hrecased⟩
    have htokens := List.ne_nil_of_mem htoken
    have hstands := isInfix_lower_of_mem_tokens htoken hparted hrecased
    refine ⟨fun _ => (score_lower_pos_iff htokens).mpr ⟨token, htoken, hstands⟩, ?_⟩
    intro entries index hbuilt entry hentry weight htext
    exact (exists_mem_retrieve_all_iff hbuilt htokens).mpr
      ⟨entry, hentry, rfl, _, htext, token, htoken, Query.ne_empty_of_mem_tokens htoken, hstands⟩
  · intro htokens hparted
    have hnone : ¬∃ token ∈ Query.tokens text, token.toList <:+: (Text.lower text).toList :=
      fun ⟨token, htoken, hstands⟩ => (hparted token htoken).1 hstands
    refine ⟨fun _ => mt (score_lower_pos_iff htokens).mp hnone, ?_⟩
    intro entries index hbuilt entry hentry weight htexts
    exact mt (exists_mem_retrieve_tokens_iff hbuilt hentry htexts htokens).mp hnone

end

/-- A text with a word next to its version, and one that is nothing but a version. -/
theorem retrieve_tokens_of_text_sample :
    (∃ index : Index String String Float, ofEntries? [textEntry "Film v 2"] = .ok index ∧
      (¬IsParted "Film v 2" "film" ∧ ¬IsRecased "Film v 2" "film") ∧
      ∃ hit ∈ index.retrieve (.const true) (Query.tokens "Film v 2") .standard, hit.id = "a") ∧
    ∃ index : Index String String Float, ofEntries? [textEntry "v 2"] = .ok index ∧
      Query.tokens "v 2" = ["v2"] ∧ IsParted "v 2" "v2" ∧
      ¬∃ hit ∈ index.retrieve (.const true) (Query.tokens "v 2") .standard, hit.id = "a" := by
  have hstands : "film".toList <:+: (Text.lower "Film v 2").toList := by decide +kernel
  have hword : ¬IsParted "Film v 2" "film" ∧ ¬IsRecased "Film v 2" "film" :=
    ⟨fun hparted => hparted.1 hstands, fun hrecased => hrecased.1 hstands⟩
  have htokens : Query.tokens "Film v 2" = ["film", "v2"] := by decide +kernel
  have hversion : Query.tokens "v 2" = ["v2"] := by decide +kernel
  obtain ⟨film, hfilm⟩ := exists_ofEntries?_textEntry "Film v 2"
  obtain ⟨version, hbuilt⟩ := exists_ofEntries?_textEntry "v 2"
  refine ⟨⟨film, hfilm, hword, ?_⟩, version, hbuilt, hversion, isParted_version, ?_⟩
  · exact ((retrieve_tokens_of_text "Film v 2").1 ⟨"film", by simp [htokens], hword⟩).2
      _ film hfilm _ (List.mem_singleton_self _) 1 (List.mem_singleton_self _)
  · exact ((retrieve_tokens_of_text "v 2").2 (by simp [hversion])
      (by simpa [hversion] using isParted_version)).2
        _ version hbuilt _ (List.mem_singleton_self _) 1 rfl

/-- Whether a text has tokens, scores nothing as a query for itself, and is not found in an
index of its own. -/
def IsMissed (text : String) : Prop :=
  Query.tokens text ≠ [] ∧
    ¬0 < (ScoringOptions.standard : ScoringOptions Float).score (Query.tokens text)
      (WeightedText.ofText text (1 : Float)).text ∧
    ∃ index : Index String String Float, ofEntries? [textEntry text] = .ok index ∧
      ¬∃ hit ∈ index.retrieve (.const true) (Query.tokens text) .standard, hit.id = "a"

theorem isMissed_of_forall_not_isInfix (htokens : Query.tokens text ≠ [])
    (hnone : ∀ token ∈ Query.tokens text, ¬token.toList <:+: (Text.lower text).toList) :
    IsMissed text := by
  have hmissing : ¬∃ token ∈ Query.tokens text, token.toList <:+: (Text.lower text).toList :=
    fun ⟨token, htoken, hstands⟩ => hnone token htoken hstands
  obtain ⟨index, hbuilt⟩ := exists_ofEntries?_textEntry text
  have hentry : textEntry text ∈ [textEntry text] := List.mem_singleton_self _
  exact ⟨htokens, mt (score_lower_pos_iff htokens).mp hmissing, index, hbuilt,
    mt (exists_mem_retrieve_tokens_iff hbuilt hentry rfl htokens).mp hmissing⟩

/-- A version in two parts is missed, and so are two words with a stop between them that
casing looks through. -/
theorem isMissed_version_and_sigmas : IsMissed "v 2" ∧ IsMissed "ΑΣ.Σ^" := by
  have hversion : Query.tokens "v 2" = ["v2"] := by decide +kernel
  have hsigmas : Query.tokens "ΑΣ.Σ^" = ["ας", "σ^"] := by decide +kernel
  constructor
  · refine isMissed_of_forall_not_isInfix (by simp [hversion]) ?_
    rw [hversion, List.forall_mem_singleton]
    exact isParted_version.1
  · refine isMissed_of_forall_not_isInfix (by simp [hsigmas]) ?_
    rw [hsigmas, List.forall_mem_cons, List.forall_mem_singleton]
    exact ⟨by decide +kernel, by decide +kernel⟩

end FacetSearch.Index
