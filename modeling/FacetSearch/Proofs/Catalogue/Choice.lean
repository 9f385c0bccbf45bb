import FacetSearch.Proofs.Catalogue.Expression
import Mathlib.Tactic.FinCases

/-!
# Choices between licenses

Which tags a license expression has is a statement about its alternatives (`Applies`,
`mem_licenseTags_iff`).  Each tag asks whether some alternative, or every alternative, is of a
kind, so neither their order nor their number matters, nor how the choice is written.

When two choices are put together, what either of them permits is permitted.  What is asked for
has to be asked for by both, but an id that is not known asks for nothing and waives nothing: a
choice without any known id does not take part (`requires_append_left`,
`requires_append_right`).  Of no licenses at all it would hold that every one asks for everything,
so a choice is said to require something only if it has a known id.
-/

namespace FacetSearch.Catalogue

/-! ## What a choice permits and requires -/

/-- Whether one of some ids is the id of a known license. -/
def HasKnown (ids : List String) : Prop :=
  ∃ id ∈ ids, (knownLicense? id).isSome = true

instance (ids : List String) : Decidable (HasKnown ids) :=
  inferInstanceAs (Decidable (∃ id ∈ ids, (knownLicense? id).isSome = true))

/-- Whether one of some ids is that of a known license which permits something. -/
def Permits (ids : List String) (permission : Permission) : Prop :=
  ∃ id ∈ ids, ∃ license, knownLicense? id = some license ∧ permission ∈ license.permissions

/-- Whether all known licenses of some ids ask for something. -/
def AllAsk (ids : List String) (requirement : Requirement) : Prop :=
  ∀ id ∈ ids, ∀ license, knownLicense? id = some license → requirement ∈ license.requirements

/-- Whether some ids stand for known licenses all of which ask for something. -/
def Requires (ids : List String) (requirement : Requirement) : Prop :=
  HasKnown ids ∧ AllAsk ids requirement

/-- Whether a tag applies to a choice between some ids. -/
def Applies (tag : String) (ids : List String) : Prop :=
  ids = [] ∧ tag = "license:no-license" ∨
  (∃ id ∈ ids, knownLicense? id = none) ∧ tag = "license:unknown" ∨
  Permits ids .commercialUse ∧ tag = "license:commercial" ∨
  Permits ids .modifications ∧ tag = "license:modifications" ∨
  Requires ids .includeCopyright ∧ tag = "license:by" ∨
  Requires ids .sameLicense ∧ tag = "license:sa"

section

variable {ids : List String} {tag : String}

theorem filterMap_knownLicense?_eq_nil_iff : ids.filterMap knownLicense? = [] ↔ ¬HasKnown ids := by
  simp [HasKnown, List.filterMap_eq_nil_iff]

theorem any_filterMap_knownLicense?_iff {permission : Permission} :
    (ids.filterMap knownLicense?).any (permission ∈ ·.permissions) = true ↔
      Permits ids permission := by
  simp only [List.any_eq_true, List.mem_filterMap, decide_eq_true_eq, Permits]
  constructor
  · rintro ⟨license, ⟨id, hid, hknown⟩, hpermits⟩
    exact ⟨id, hid, license, hknown, hpermits⟩
  · rintro ⟨id, hid, license, hknown, hpermits⟩
    exact ⟨license, ⟨id, hid, hknown⟩, hpermits⟩

theorem all_filterMap_knownLicense?_iff {requirement : Requirement} :
    (ids.filterMap knownLicense?).all (requirement ∈ ·.requirements) = true ↔
      AllAsk ids requirement := by
  simp only [List.all_eq_true, List.mem_filterMap, decide_eq_true_eq, AllAsk]
  constructor
  · intro hall id hid license hknown
    exact hall license ⟨id, hid, hknown⟩
  · rintro hall license ⟨id, hid, hknown⟩
    exact hall id hid license hknown

theorem Permits.hasKnown {permission : Permission} (hpermits : Permits ids permission) :
    HasKnown ids := by
  obtain ⟨id, hid, license, hknown, -⟩ := hpermits
  exact ⟨id, hid, Option.isSome_iff_exists.mpr ⟨license, hknown⟩⟩

/-- The tags that come from the known ids. -/
theorem mem_choiceTags_iff :
    tag ∈ choiceTags (ids.filterMap knownLicense?) ↔
      Permits ids .commercialUse ∧ tag = "license:commercial" ∨
      Permits ids .modifications ∧ tag = "license:modifications" ∨
      Requires ids .includeCopyright ∧ tag = "license:by" ∨
      Requires ids .sameLicense ∧ tag = "license:sa" := by
  unfold choiceTags
  by_cases hknown : HasKnown ids
  · rw [if_neg (mt filterMap_knownLicense?_eq_nil_iff.mp (not_not_intro hknown))]
    simp only [List.mem_append, List.mem_ite_nil_right, List.mem_singleton,
      any_filterMap_knownLicense?_iff, all_filterMap_knownLicense?_iff, Requires, hknown, true_and,
      or_assoc]
  · have hpermits (permission : Permission) : ¬Permits ids permission := mt Permits.hasKnown hknown
    rw [if_pos (filterMap_knownLicense?_eq_nil_iff.mpr hknown)]
    simp only [List.not_mem_nil, hpermits, Requires, hknown, false_and, or_false]

theorem all_isSome_iff :
    (ids.all fun id => (knownLicense? id).isSome) = true ↔
      ¬∃ id ∈ ids, knownLicense? id = none := by
  simp [Option.isSome_iff_ne_none]

/-- The tags of an expression are those that apply to its alternatives. -/
theorem mem_licenseTags_iff {license : Option String} :
    tag ∈ licenseTags license ↔ Applies tag (alternatives (license.getD "")) := by
  unfold licenseTags Applies
  generalize alternatives (license.getD "") = ids
  cases ids with
  | nil => simp [Permits, Requires, HasKnown]
  | cons id more =>
      simp only [List.mem_append, List.mem_ite_nil_left, List.mem_singleton, all_isSome_iff,
        not_not, mem_choiceTags_iff, List.cons_ne_nil, false_and, false_or]

theorem applies_noLicense_iff : Applies "license:no-license" ids ↔ ids = [] := by
  simp [Applies]

theorem applies_unknown_iff :
    Applies "license:unknown" ids ↔ ∃ id ∈ ids, knownLicense? id = none := by
  simp [Applies]

theorem exists_applies_iff_permits (htag : tag ∈ ["license:commercial", "license:modifications"]) :
    ∃ permission, ∀ ids, Applies tag ids ↔ Permits ids permission := by
  fin_cases htag
  · exact ⟨.commercialUse, fun ids => by simp [Applies]⟩
  · exact ⟨.modifications, fun ids => by simp [Applies]⟩

theorem exists_applies_iff_requires (htag : tag ∈ ["license:by", "license:sa"]) :
    ∃ requirement, ∀ ids, Applies tag ids ↔ Requires ids requirement := by
  fin_cases htag
  · exact ⟨.includeCopyright, fun ids => by simp [Applies]⟩
  · exact ⟨.sameLicense, fun ids => by simp [Applies]⟩

/-- Which tags apply depends on the set of the ids. -/
theorem applies_congr {ids' : List String} (hsame : ∀ id, id ∈ ids ↔ id ∈ ids') :
    Applies tag ids ↔ Applies tag ids' := by
  simp only [Applies, Permits, Requires, HasKnown, AllAsk, List.eq_nil_iff_forall_not_mem, hsame]

end

/-! ## Two choices together -/

section

variable {first second : List String} {requirement : Requirement}

theorem hasKnown_append : HasKnown (first ++ second) ↔ HasKnown first ∨ HasKnown second := by
  simp only [HasKnown, List.mem_append, or_and_right, exists_or]

theorem permits_append {permission : Permission} :
    Permits (first ++ second) permission ↔
      Permits first permission ∨ Permits second permission := by
  simp only [Permits, List.mem_append, or_and_right, exists_or]

theorem allAsk_append :
    AllAsk (first ++ second) requirement ↔
      AllAsk first requirement ∧ AllAsk second requirement := by
  simp only [AllAsk, List.forall_mem_append]

theorem allAsk_of_not_hasKnown (hunknown : ¬HasKnown first) (requirement : Requirement) :
    AllAsk first requirement := by
  intro id hid license hknown
  exact absurd ⟨id, hid, Option.isSome_iff_exists.mpr ⟨license, hknown⟩⟩ hunknown

/-- Two choices with known ids require together what both of them require. -/
theorem requires_append (hfirst : HasKnown first) (hsecond : HasKnown second) :
    Requires (first ++ second) requirement ↔
      Requires first requirement ∧ Requires second requirement := by
  simp only [Requires, hasKnown_append, allAsk_append, hfirst, hsecond, or_self, true_and]

/-- A choice without known ids does not change what another one requires. -/
theorem requires_append_left (hfirst : HasKnown first) (hsecond : ¬HasKnown second) :
    Requires (first ++ second) requirement ↔ Requires first requirement := by
  simp only [Requires, hasKnown_append, allAsk_append, hfirst, true_or, true_and,
    allAsk_of_not_hasKnown hsecond requirement, and_true]

theorem requires_append_right (hfirst : ¬HasKnown first) (hsecond : HasKnown second) :
    Requires (first ++ second) requirement ↔ Requires second requirement := by
  simp only [Requires, hasKnown_append, allAsk_append, hsecond, or_true, true_and,
    allAsk_of_not_hasKnown hfirst requirement]

end

/-! ## Tags of choices -/

/-- The tags of a choice between some ids. -/
def tagsOf (ids : List String) : List String :=
  licenseTags (some (" OR ".intercalate ids))

theorem mem_tagsOf_iff {ids : List String} (hids : ∀ id ∈ ids, IsId id) {tag : String} :
    tag ∈ tagsOf ids ↔ Applies tag ids := by
  rw [tagsOf, mem_licenseTags_iff, Option.getD_some, alternatives_intercalate_of_isId hids]

theorem mem_licenseTags_congr {expression expression' : String}
    (hsame : ∀ id, id ∈ alternatives expression ↔ id ∈ alternatives expression') {tag : String} :
    tag ∈ licenseTags (some expression) ↔ tag ∈ licenseTags (some expression') := by
  rw [mem_licenseTags_iff, mem_licenseTags_iff]
  exact applies_congr hsame

/-- **Choices between licenses compose.**  Two choices put together have an unknown id if one of
them has, and permit what one of them permits.  They require what both of them require, if both
have known ids, and otherwise what the one with known ids requires.  The tags depend on the set
of the alternatives only, so neither on their order nor on how often they are offered nor on how
the choice is written, and the tag for no license is there just when the expression is blank. -/
theorem licenseTags_compose :
    (∀ first second : List String, first ≠ [] → second ≠ [] → (∀ id ∈ first, IsId id) →
      (∀ id ∈ second, IsId id) →
      ("license:unknown" ∈ tagsOf (first ++ second) ↔
        "license:unknown" ∈ tagsOf first ∨ "license:unknown" ∈ tagsOf second) ∧
      (∀ tag ∈ ["license:commercial", "license:modifications"],
        tag ∈ tagsOf (first ++ second) ↔ tag ∈ tagsOf first ∨ tag ∈ tagsOf second) ∧
      ∀ tag ∈ ["license:by", "license:sa"],
        (HasKnown first → HasKnown second →
          (tag ∈ tagsOf (first ++ second) ↔ tag ∈ tagsOf first ∧ tag ∈ tagsOf second)) ∧
        (HasKnown first → ¬HasKnown second →
          (tag ∈ tagsOf (first ++ second) ↔ tag ∈ tagsOf first)) ∧
        (¬HasKnown first → HasKnown second →
          (tag ∈ tagsOf (first ++ second) ↔ tag ∈ tagsOf second))) ∧
    (∀ expression expression' : String,
      (∀ id, id ∈ alternatives expression ↔ id ∈ alternatives expression') →
      ∀ tag, tag ∈ licenseTags (some expression) ↔ tag ∈ licenseTags (some expression')) ∧
    (∀ choice choice' : WrittenChoice, (∀ id, id ∈ choice.ids ↔ id ∈ choice'.ids) →
      ∀ tag, tag ∈ licenseTags (some choice.text) ↔ tag ∈ licenseTags (some choice'.text)) ∧
    ∀ license : Option String, "license:no-license" ∈ licenseTags license ↔
      ∀ c ∈ (license.getD "").toList, isBlank c = true := by
  refine ⟨?_, fun _ _ hsame _ => mem_licenseTags_congr hsame, ?_, ?_⟩
  · intro first second _ _ hfirst hsecond
    have htogether : ∀ id ∈ first ++ second, IsId id :=
      List.forall_mem_append.mpr ⟨hfirst, hsecond⟩
    simp only [mem_tagsOf_iff hfirst, mem_tagsOf_iff hsecond, mem_tagsOf_iff htogether]
    refine ⟨?_, ?_, ?_⟩
    · simp only [applies_unknown_iff, List.mem_append, or_and_right, exists_or]
    · intro tag htag
      obtain ⟨permission, happlies⟩ := exists_applies_iff_permits htag
      rw [happlies, happlies, happlies, permits_append]
    · intro tag htag
      obtain ⟨requirement, happlies⟩ := exists_applies_iff_requires htag
      simp only [happlies]
      exact ⟨requires_append, requires_append_left, requires_append_right⟩
  · intro choice choice' hsame tag
    apply mem_licenseTags_congr
    rwa [choice.alternatives_text, choice'.alternatives_text]
  · intro license
    rw [mem_licenseTags_iff, applies_noLicense_iff, alternatives_eq_nil_iff]

/-- Attribution is asked for by both choices, in spite of the unknown id.  An id that is spelled
like a connector is not known, and does not lift what the other choice asks for. -/
theorem licenseTags_compose_sample :
    ("license:by" ∈ tagsOf (["MIT", "Custom-1.0"] ++ ["CC-BY-SA-4.0"]) ↔
        "license:by" ∈ tagsOf ["MIT", "Custom-1.0"] ∧ "license:by" ∈ tagsOf ["CC-BY-SA-4.0"]) ∧
      ("license:sa" ∈ tagsOf (["CC-BY-SA-4.0"] ++ ["or"]) ↔
        "license:sa" ∈ tagsOf ["CC-BY-SA-4.0"]) := by
  have hmit : ∀ id ∈ ["MIT", "Custom-1.0"], IsId id := by decide
  have hcc : ∀ id ∈ ["CC-BY-SA-4.0"], IsId id := by decide
  have hor : ∀ id ∈ ["or"], IsId id := by decide
  have hknown : HasKnown ["MIT", "Custom-1.0"] := by decide
  have hknown' : HasKnown ["CC-BY-SA-4.0"] := by decide
  have hunknown : ¬HasKnown ["or"] := by decide
  obtain ⟨-, -, hboth⟩ := licenseTags_compose.1 _ _ (List.cons_ne_nil _ _) (List.cons_ne_nil _ _)
    hmit hcc
  obtain ⟨-, -, hleft⟩ := licenseTags_compose.1 _ _ (List.cons_ne_nil _ _) (List.cons_ne_nil _ _)
    hcc hor
  exact ⟨(hboth "license:by" (by decide)).1 hknown hknown',
    (hleft "license:sa" (by decide)).2.1 hknown' hunknown⟩

end FacetSearch.Catalogue
