import FacetSearch.Catalogue.Model
import FacetSearch.Proofs.Index.Exactness
import FacetSearch.Proofs.Index.Finding
import FacetSearch.Proofs.Query.TokenForm
import FacetSearch.Proofs.Relevance.Rounding
import FacetSearch.Proofs.Text.Lowering

/-!
# Searching a catalogue

The entry of a model has four texts, and most of them are several fields of the model, one a
line.  A search for tokens does not see that the fields are joined: no token has a line end
in it, and the line end keeps the lowercase forms of the fields apart.  So a model is found
if one of its fields, taken alone, contains one of the tokens.

The models of a catalogue can be indexed if their ids are different.  Nothing else can be
wrong with them, since the weights of their texts are fixed numbers above zero.
-/

namespace FacetSearch.Catalogue

namespace Model

/-! ## Fields -/

/-- The fields of a model that a search looks at, and its id. -/
def searchFields (id : String) (model : Model) : List String :=
  [id, model.name] ++ model.authors
    ++ [model.architecture, toString model.scale.toNat ++ "x"] ++ model.dataset.toList
    ++ [model.description]

theorem endsCasing_newline : Text.EndsCasing '\n' :=
  ⟨by decide, by decide⟩

theorem lower_joinFields (fields : List String) :
    (Text.lower (joinFields fields)).toList =
      ['\n'].intercalate ((fields.filter (· ≠ "")).map fun field => (Text.lower field).toList) := by
  have hsame : lowerChar '\n' = ['\n'] := by decide
  have hjoined : (joinFields fields).toList =
      ['\n'].intercalate ((fields.filter (· ≠ "")).map String.toList) := by
    rw [joinFields, String.toList_intercalate]
    rfl
  rw [Text.lower, String.toList_ofList, hjoined,
    Text.lowerChars_intercalate endsCasing_newline hsame, List.map_map]
  simp only [Text.lower, String.toList_ofList, Function.comp_def]

/-- A word without a line end is found in some fields together if it is found in one of
them.  The empty fields, which are left out, contain no word. -/
theorem infix_lower_joinFields_iff {word : List Char} (hnonempty : word ≠ []) (hline : '\n' ∉ word)
    {fields : List String} :
    word <:+: (Text.lower (joinFields fields)).toList ↔
      ∃ field ∈ fields, word <:+: (Text.lower field).toList := by
  rw [lower_joinFields, Text.infix_intercalate_iff hnonempty hline]
  simp only [List.mem_map, List.mem_filter, exists_exists_and_eq_and, decide_eq_true_eq]
  refine exists_congr fun field => ?_
  constructor
  · rintro ⟨⟨hfield, -⟩, hinfix⟩
    exact ⟨hfield, hinfix⟩
  · rintro ⟨hfield, hinfix⟩
    refine ⟨⟨hfield, ?_⟩, hinfix⟩
    rintro rfl
    exact hnonempty (List.infix_nil.mp hinfix)

/-- A word without a line end is found in the texts of a model if it is found in one of the
fields. -/
theorem exists_text_infix_iff {R : Type} [Scalar R] {word : List Char} (hnonempty : word ≠ [])
    (hline : '\n' ∉ word) {id : String} {model : Model} :
    (∃ text ∈ (model.entry (R := R) id).texts, word <:+: text.text.toList) ↔
      ∃ field ∈ model.searchFields id, word <:+: (Text.lower field).toList := by
  have hdataset : word <:+: (Text.lower (model.dataset.getD "")).toList ↔
      ∃ field ∈ model.dataset.toList, word <:+: (Text.lower field).toList := by
    cases model.dataset with
    | none =>
        have hempty : (Text.lower "").toList = [] := rfl
        simp [hempty, hnonempty]
    | some dataset => simp
  have htexts : (∃ text ∈ (model.entry (R := R) id).texts, word <:+: text.text.toList) ↔
      (∃ field ∈ [id, model.name], word <:+: (Text.lower field).toList) ∨
      (∃ field ∈ model.authors, word <:+: (Text.lower field).toList) ∨
      (∃ field ∈ [model.architecture, toString model.scale.toNat ++ "x", model.dataset.getD ""],
        word <:+: (Text.lower field).toList) ∨
      word <:+: (Text.lower model.description).toList := by
    simp only [← infix_lower_joinFields_iff hnonempty hline]
    simp [entry, WeightedText.ofText]
  rw [htexts]
  simp only [searchFields, List.mem_append, List.mem_cons, List.not_mem_nil, or_false, or_and_right,
    exists_or, exists_eq_left, hdataset, or_assoc]

/-- A token of a query is found in the texts of a model if it is found in one of the fields. -/
theorem exists_text_token_iff {R : Type} [Scalar R] {query id : String} {model : Model} :
    (∃ text ∈ (model.entry (R := R) id).texts,
        ∃ token ∈ Query.tokens query, token ≠ "" ∧ token.toList <:+: text.text.toList) ↔
      ∃ token ∈ Query.tokens query,
        ∃ field ∈ model.searchFields id, token.toList <:+: (Text.lower field).toList := by
  have htoken : ∀ token ∈ Query.tokens query,
      (∃ text ∈ (model.entry (R := R) id).texts,
          token ≠ "" ∧ token.toList <:+: text.text.toList) ↔
        ∃ field ∈ model.searchFields id, token.toList <:+: (Text.lower field).toList := by
    intro token htoken
    have hempty := Query.ne_empty_of_mem_tokens htoken
    have hnonempty : token.toList ≠ [] := mt String.toList_eq_nil_iff.mp hempty
    have hline := Query.newline_not_mem_of_mem_tokens htoken
    simp only [hempty, ne_eq, not_false_eq_true, true_and]
    exact exists_text_infix_iff hnonempty hline
  constructor
  · rintro ⟨text, htext, token, hmem, hinfix⟩
    exact ⟨token, hmem, (htoken token hmem).mp ⟨text, htext, hinfix⟩⟩
  · rintro ⟨token, hmem, hfield⟩
    obtain ⟨text, htext, hinfix⟩ := (htoken token hmem).mpr hfield
    exact ⟨text, htext, token, hmem, hinfix⟩

theorem hasValidWeight_entry {R : Type} [Scalar R] [SteadyScalar R] (id : String) (model : Model) :
    ∀ text ∈ (model.entry (R := R) id).texts, text.HasValidWeight := by
  have hvalid : ∀ text : String, ∀ n : Nat, 0 < n → n < 10 →
      (WeightedText.ofText text (n : R)).HasValidWeight :=
    fun _ _ hpositive hdigit =>
      ⟨SteadyScalar.isFinite_natCast hdigit, (SteadyScalar.natCast_atLeastOne hpositive).1⟩
  simp only [entry, List.forall_mem_cons]
  exact ⟨hvalid _ 8 (by decide) (by decide), hvalid _ 4 (by decide) (by decide),
    hvalid _ 1 (by decide) (by decide), hvalid _ 1 (by decide) (by decide), List.forall_mem_nil _⟩

end Model

/-! ## Models -/

variable {R : Type} [Scalar R]

/-- The entries of some models. -/
def entries (models : List (String × Model)) : List (Entry String String R) :=
  models.map fun (id, model) => model.entry id

theorem mem_entries_iff {models : List (String × Model)} {entry : Entry String String R} :
    entry ∈ entries models ↔ ∃ id model, (id, model) ∈ models ∧ model.entry id = entry := by
  simp only [entries, List.mem_map, Prod.exists]

theorem map_id_entries (models : List (String × Model)) :
    (entries (R := R) models).map Entry.id = models.map Prod.fst := by
  rw [entries, List.map_map]
  rfl

theorem indexModels?_eq (models : List (String × Model)) :
    indexModels? (R := R) models = Index.ofEntries? (entries models) :=
  rfl

variable [SteadyScalar R]

/-- Models can be indexed together if their ids are different. -/
theorem indexable_entries_iff (models : List (String × Model)) :
    Index.Indexable (entries (R := R) models) ↔ (models.map Prod.fst).Nodup := by
  rw [Index.Indexable, map_id_entries]
  refine and_iff_right fun entry hentry => ?_
  obtain ⟨id, model, -, rfl⟩ := mem_entries_iff.mp hentry
  exact model.hasValidWeight_entry id

/-- A model is refused if its id is that of an earlier one. -/
theorem refuses_entry_iff {earlier : List (String × Model)} {id : String} {model : Model}
    {reason : IndexError String R} :
    Index.Refuses (entries earlier) (model.entry id) reason ↔
      id ∈ earlier.map Prod.fst ∧ reason = .duplicateId id := by
  rw [← map_id_entries (R := R), List.mem_map]
  constructor
  · intro hrefuses
    cases hrefuses with
    | invalidWeight before after text htexts _ hinvalid =>
        exact absurd (model.hasValidWeight_entry id text (by simp [htexts])) hinvalid
    | duplicateId _ hrepeated => exact ⟨hrepeated, rfl⟩
  · rintro ⟨hrepeated, rfl⟩
    exact .duplicateId (model.hasValidWeight_entry id) hrepeated

/-- A list of models is refused for the first one whose id has been used before. -/
theorem indexModels?_eq_error_iff {models : List (String × Model)}
    {reason : IndexError String R} :
    indexModels? models = .error reason ↔
      ∃ earlier id model later, models = earlier ++ (id, model) :: later ∧
        (earlier.map Prod.fst).Nodup ∧ id ∈ earlier.map Prod.fst ∧ reason = .duplicateId id := by
  rw [indexModels?_eq, Index.ofEntries?_eq_error_iff]
  constructor
  · rintro ⟨before, entry, after, hsplit, hindexable, hrefuses⟩
    obtain ⟨earlier, rest, rfl, rfl, hrest⟩ := List.map_eq_append_iff.mp hsplit
    obtain ⟨⟨id, model⟩, later, rfl, rfl, rfl⟩ := List.map_eq_cons_iff.mp hrest
    exact ⟨earlier, id, model, later, rfl, (indexable_entries_iff earlier).mp hindexable,
      refuses_entry_iff.mp hrefuses⟩
  · rintro ⟨earlier, id, model, later, rfl, hnodup, hrefused⟩
    refine ⟨entries earlier, model.entry id, entries later, ?_,
      (indexable_entries_iff earlier).mpr hnodup, refuses_entry_iff.mpr hrefused⟩
    rw [entries, List.map_append, List.map_cons]
    rfl

/-- **A search of models finds their fields.**  A list of models has an index if their ids are
different, and is refused for the first repeated id otherwise.  If a query has tokens, a
search of the index finds the models one of whose fields contains one of them: the id, the
name, a single author, the architecture, the scale, the data set or the description, each of
them taken alone. -/
theorem indexModels?_finds_fields (models : List (String × Model)) :
    ((∃ index : Index String String R, indexModels? models = .ok index) ↔
      (models.map Prod.fst).Nodup) ∧
    (∀ reason : IndexError String R, indexModels? models = .error reason ↔
      ∃ earlier id model later, models = earlier ++ (id, model) :: later ∧
        (earlier.map Prod.fst).Nodup ∧ id ∈ earlier.map Prod.fst ∧ reason = .duplicateId id) ∧
    ∀ index : Index String String R, indexModels? models = .ok index →
      ∀ query, Query.tokens query ≠ [] → ∀ id,
        (∃ hit ∈ index.retrieve (.const true) (Query.tokens query) .standard, hit.id = id) ↔
          ∃ model, (id, model) ∈ models ∧ ∃ token ∈ Query.tokens query,
            ∃ field ∈ model.searchFields id, token.toList <:+: (Text.lower field).toList := by
  refine ⟨?_, fun reason => indexModels?_eq_error_iff, ?_⟩
  · rw [← indexable_entries_iff (R := R)]
    exact Index.exists_ofEntries?_iff
  · intro index hbuilt query htokens id
    rw [Index.exists_mem_retrieve_all_iff hbuilt htokens]
    constructor
    · rintro ⟨entry, hentry, rfl, hcontains⟩
      obtain ⟨id, model, hmodel, rfl⟩ := mem_entries_iff.mp hentry
      exact ⟨model, hmodel, Model.exists_text_token_iff.mp hcontains⟩
    · rintro ⟨model, hmodel, hcontains⟩
      exact ⟨model.entry id, mem_entries_iff.mpr ⟨id, model, hmodel, rfl⟩, rfl,
        Model.exists_text_token_iff.mpr hcontains⟩

/-- A model whose id ends as its name goes on. -/
def splitModel : Model where
  name := "Mesharp"
  author := .many ["ΚΑΛΟΣ", "Ani"]
  tags := ["anime"]
  description := ""
  architecture := "ESRGAN"
  scale := 4
  inputChannels := 3
  outputChannels := 3
  dataset := none
  license := none
  resources := []

/-- A model that has been trained with a set of the name that is looked for. -/
def trainedModel : Model :=
  { splitModel with name := "Film", author := .one "me", dataset := some "AnimeHQ" }

/-- The word is found in the data set of one model, but not where the id of the other one ends
and its name starts. -/
theorem indexModels?_finds_fields_sample :
    ∃ index : Index String String Float,
      indexModels? [("4x-ani", splitModel), ("2x-film", trainedModel)] = .ok index ∧
      Query.tokens "ANIME" ≠ [] ∧
      (∃ hit ∈ index.retrieve (.const true) (Query.tokens "ANIME") .standard,
        hit.id = "2x-film") ∧
      ¬∃ hit ∈ index.retrieve (.const true) (Query.tokens "ANIME") .standard,
        hit.id = "4x-ani" := by
  obtain ⟨hbuilds, -, hfinds⟩ := indexModels?_finds_fields (R := Float)
    [("4x-ani", splitModel), ("2x-film", trainedModel)]
  obtain ⟨index, hbuilt⟩ := hbuilds.mpr (by decide)
  have htokens : Query.tokens "ANIME" = ["anime"] := by decide +kernel
  have hsome : Query.tokens "ANIME" ≠ [] := by rw [htokens]; exact List.cons_ne_nil _ _
  refine ⟨index, hbuilt, hsome, ?_, ?_⟩
  · rw [hfinds index hbuilt "ANIME" hsome, htokens]
    exact ⟨trainedModel, by simp, "anime", by simp, "AnimeHQ", by decide, by decide +kernel⟩
  · rw [hfinds index hbuilt "ANIME" hsome, htokens]
    have hnone : ∀ field ∈ splitModel.searchFields "4x-ani",
        ¬"anime".toList <:+: (Text.lower field).toList := by
      decide +kernel
    rintro ⟨model, hmodel, token, htoken, field, hfield, hinfix⟩
    obtain rfl := List.mem_singleton.mp htoken
    obtain rfl : model = splitModel := by simpa using hmodel
    exact hnone field hfield hinfix

end FacetSearch.Catalogue
