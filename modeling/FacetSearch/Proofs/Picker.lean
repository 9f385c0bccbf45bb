import FacetSearch.Picker
import FacetSearch.Proofs.Formula.Meaning
import FacetSearch.Proofs.Index.Selection

/-!
# What picked tags select

The picks ask something of every category: none of its forbidden tags, and one of its
required tags if it has any (`Picks.Meets`).  Their formula says this of all categories
(`Picks.eval_formula_iff`), whatever odd parts it has where a category has no tags of one
kind, the same tag more than once, or a tag that other categories have as well.
Normalizing keeps the meaning of a formula and an index selects by the meaning, so what is
selected follows from the rule alone: the order of the categories does not matter, and
one more forbidden tag takes away the entries that carry it.

The required tags alone meet every category, and a listed tag that is picked can be missed
(`Picks.meets_required`, `Picks.exists_not_meets`).  So the formula is never a contradiction,
and always true only if nothing listed is picked.
-/

namespace FacetSearch.Picks

open Std (ExtTreeMap ExtTreeSet LawfulEqOrd TransOrd)

variable {Tag : Type} [Ord Tag] [TransOrd Tag] {picks : Picks Tag} {category : Category Tag}
  {categories : List (Category Tag)} {holds : Tag → Bool}

/-! ## What is asked of a category -/

/-- Whether the tags that hold meet what the picks ask of a category. -/
structure Meets (picks : Picks Tag) (category : Category Tag) (holds : Tag → Bool) : Prop where
  /-- None of its forbidden tags holds. -/
  no_forbidden : ∀ tag ∈ category.tags, picks[tag]? = some .forbidden → ¬holds tag
  /-- One of its required tags holds, if there are any. -/
  some_required : (∃ tag ∈ category.tags, picks[tag]? = some .required) →
    ∃ tag ∈ category.tags, picks[tag]? = some .required ∧ holds tag

theorem mem_among {pick : Pick} {tag : Tag} :
    tag ∈ picks.among pick category ↔ tag ∈ category.tags ∧ picks[tag]? = some pick := by
  simp [among]

theorem meets_iff :
    picks.Meets category holds ↔
      (picks.among .required category ≠ [] → ∃ tag ∈ picks.among .required category, holds tag) ∧
        ¬∃ tag ∈ picks.among .forbidden category, holds tag := by
  have hrequired : picks.among .required category ≠ [] ↔
      ∃ tag ∈ category.tags, picks[tag]? = some .required := by
    constructor
    · intro hsome
      obtain ⟨tag, htag⟩ := List.exists_mem_of_ne_nil _ hsome
      exact ⟨tag, mem_among.mp htag⟩
    · intro hsome
      obtain ⟨tag, htag⟩ := hsome
      exact List.ne_nil_of_mem (mem_among.mpr htag)
  simp only [hrequired, mem_among, and_assoc, not_exists, not_and]
  constructor
  · intro hmeets
    exact ⟨hmeets.some_required, hmeets.no_forbidden⟩
  · intro hboth
    exact ⟨hboth.2, hboth.1⟩

/-- The tags of an entry hold if the entry carries them. -/
theorem meets_contains_iff {carried : ExtTreeSet Tag} :
    picks.Meets category carried.contains ↔
      (∀ tag ∈ category.tags, picks[tag]? = some .forbidden → tag ∉ carried) ∧
        ((∃ tag ∈ category.tags, picks[tag]? = some .required) →
          ∃ tag ∈ category.tags, picks[tag]? = some .required ∧ tag ∈ carried) := by
  simp only [← ExtTreeSet.contains_iff_mem]
  constructor
  · intro hmeets
    exact ⟨hmeets.no_forbidden, hmeets.some_required⟩
  · intro hboth
    exact ⟨hboth.1, hboth.2⟩

/-! ## The formula of the picks -/

omit [Ord Tag] [TransOrd Tag] in
theorem eval_any_map_var {tags : List Tag} :
    (Formula.any (tags.map .var)).eval holds ↔ ∃ tag ∈ tags, holds tag := by
  simp [Connective.combine]

omit [Ord Tag] [TransOrd Tag] in
theorem eval_all_pair {a b : Formula Tag} :
    (Formula.all [a, b]).eval holds ↔ a.eval holds ∧ b.eval holds := by
  simp [Connective.combine]

/-- A category is met if the formula that is made for it, if there is one, is true. -/
theorem forall_eval_categoryFormula?_iff :
    (∀ formula ∈ picks.categoryFormula? category, formula.eval holds) ↔
      picks.Meets category holds := by
  rw [meets_iff, categoryFormula?]
  split
  case h_1 hrequired hforbidden => simp [hrequired, hforbidden]
  case h_2 hsome =>
    simp only [Option.mem_some_iff, forall_eq', eval_all_pair, Formula.eval_not,
      Bool.not_eq_eq_eq_not, Bool.not_true, ← Bool.not_eq_true, eval_any_map_var]
    refine and_congr_left fun _ => ?_
    split
    case h_1 hnone => simp [hnone]
    case h_2 hsome =>
      rw [eval_any_map_var]
      exact ⟨fun hexists _ => hexists, fun hexists => hexists hsome⟩

/-- The formula of the picks says that all categories are met. -/
theorem eval_formula_iff :
    (picks.formula categories).eval holds ↔
      ∀ category ∈ categories, picks.Meets category holds := by
  have hparts : (∀ part ∈ categories.filterMap picks.categoryFormula?, part.eval holds) ↔
      ∀ category ∈ categories, picks.Meets category holds := by
    simp only [List.mem_filterMap, ← forall_eval_categoryFormula?_iff, Option.mem_def]
    constructor
    · intro hall category hcategory formula hformula
      exact hall formula ⟨category, hcategory, hformula⟩
    · intro hall formula hformula
      obtain ⟨category, hcategory, hmade⟩ := hformula
      exact hall category hcategory formula hmade
  rw [← hparts, formula]
  split
  case h_1 hnone => simp [hnone]
  case h_2 =>
    simp only [Formula.eval_join, Connective.combine, List.all_map, List.all_eq_true,
      Function.comp_apply, id]

/-! ## One more forbidden tag -/

/-- Forbidding one more tag asks of its categories that it does not hold, and nothing else. -/
theorem meets_insert_forbidden_iff [LawfulEqOrd Tag] {tag : Tag} (hunpicked : picks[tag]? = none) :
    Meets (picks.insert tag .forbidden) category holds ↔
      picks.Meets category holds ∧ (tag ∈ category.tags → ¬holds tag) := by
  have hinsert : ∀ (other : Tag) (pick : Pick),
      (picks.insert tag Pick.forbidden)[other]? = some pick ↔
        (tag = other ∧ Pick.forbidden = pick) ∨ picks[other]? = some pick := by
    intro other pick
    simp only [ExtTreeMap.getElem?_insert, Std.compare_eq_iff_eq]
    by_cases hother : tag = other
    · simp [← hother, hunpicked]
    · simp [hother]
  have hrequired : ∀ other : Tag, (picks.insert tag Pick.forbidden)[other]? = some Pick.required ↔
      picks[other]? = some Pick.required := by
    intro other
    simp [hinsert]
  constructor
  · intro hmeets
    refine ⟨⟨?_, ?_⟩, ?_⟩
    · intro other hlisted hpicked
      exact hmeets.no_forbidden other hlisted ((hinsert other _).mpr (Or.inr hpicked))
    · simpa only [hrequired] using hmeets.some_required
    · intro hlisted
      exact hmeets.no_forbidden tag hlisted ((hinsert tag _).mpr (Or.inl ⟨rfl, rfl⟩))
  · intro hboth
    obtain ⟨hmeets, htag⟩ := hboth
    refine ⟨?_, ?_⟩
    · intro other hlisted hpicked
      rcases (hinsert other _).mp hpicked with ⟨rfl, -⟩ | hbefore
      · exact htag hlisted
      · exact hmeets.no_forbidden other hlisted hbefore
    · simpa only [hrequired] using hmeets.some_required

/-! ## Picks and constants -/

/-- The required tags on their own are what the picks ask of any category. -/
theorem meets_required : picks.Meets category fun tag => picks[tag]? == some .required where
  no_forbidden := by
    intro tag _ hforbidden
    simp [hforbidden]
  some_required := by
    intro hsome
    obtain ⟨tag, hlisted, hrequired⟩ := hsome
    exact ⟨tag, hlisted, hrequired, by simp [hrequired]⟩

/-- A picked tag of a category can be missed: a required one where no tag holds, a forbidden
one where all tags do. -/
theorem exists_not_meets {tag : Tag} (hlisted : tag ∈ category.tags) (hpicked : picks[tag]? ≠ none) :
    ∃ holds, ¬picks.Meets category holds := by
  obtain ⟨pick, hpick⟩ := Option.ne_none_iff_exists'.mp hpicked
  cases pick with
  | required =>
      refine ⟨fun _ => false, fun hmeets => ?_⟩
      obtain ⟨_, _, _, hholds⟩ := hmeets.some_required ⟨tag, hlisted, hpick⟩
      exact Bool.false_ne_true hholds
  | forbidden =>
      refine ⟨fun _ => true, fun hmeets => ?_⟩
      exact hmeets.no_forbidden tag hlisted hpick rfl

/-- Where no listed tag is picked, nothing is asked. -/
theorem formula_eq_const_true
    (hunpicked : ∀ category ∈ categories, ∀ tag ∈ category.tags, picks[tag]? = none) :
    picks.formula categories = .const true := by
  have hamong : ∀ category ∈ categories, ∀ pick, picks.among pick category = [] := by
    intro category hcategory pick
    refine List.eq_nil_iff_forall_not_mem.mpr fun tag htag => ?_
    obtain ⟨hlisted, hpick⟩ := mem_among.mp htag
    simp [hunpicked category hcategory tag hlisted] at hpick
  have hnone : categories.filterMap picks.categoryFormula? = [] := by
    refine List.filterMap_eq_nil_iff.mpr fun category hcategory => ?_
    simp only [categoryFormula?, hamong category hcategory]
  rw [formula, hnone]

/-- **Picks do not contradict each other.**  Whatever is picked and however the categories
share and repeat tags, the formula of the picks does not normalize to the constant false: it
is true where the required tags hold and no others.  It normalizes to the constant true if
and only if no tag that a category lists is picked. -/
theorem normalize_formula_ne_false_and_eq_true_iff [DecidableEq Tag] (picks : Picks Tag)
    (categories : List (Category Tag)) :
    (picks.formula categories).normalize ≠ .const false ∧
      ((picks.formula categories).normalize = .const true ↔
        ∀ category ∈ categories, ∀ tag ∈ category.tags, picks[tag]? = none) := by
  have hmeaning : ∀ holds, (picks.formula categories).normalize.eval holds = true ↔
      ∀ category ∈ categories, picks.Meets category holds := by
    intro holds
    rw [Formula.expresses_normalize _ holds, eval_formula_iff]
  refine ⟨?noContradiction, ?nothingAsked, ?unpicked⟩
  case noContradiction =>
    intro hfalse
    have heval := (hmeaning _).mpr fun category _ => meets_required
    rw [hfalse] at heval
    exact Bool.false_ne_true heval
  case nothingAsked =>
    intro htrue category hcategory tag hlisted
    by_contra hpicked
    obtain ⟨holds, hmissed⟩ := exists_not_meets hlisted hpicked
    refine hmissed ((hmeaning holds).mp ?_ category hcategory)
    rw [htrue]
    rfl
  case unpicked =>
    intro hunpicked
    rw [formula_eq_const_true hunpicked, Formula.normalize_const]

/-- One category lists a tag twice and another shares its forbidden tag.  Two tags are listed
and picked, so something is asked of an entry; a third picked tag is in none of the
categories, and by itself it asks for nothing. -/
theorem normalize_formula_ne_false_and_eq_true_iff_sample :
    ∃ (picks : Picks String) (categories unpicked : List (Category String)),
      picks = .ofList [("scale:2", Pick.required), ("color:1", Pick.forbidden),
        ("by:nobody", Pick.required)] ∧
      categories = [⟨"scale", ["scale:2", "color:1", "scale:2"]⟩, ⟨"empty", []⟩,
        ⟨"color", ["color:1", "color:3"]⟩] ∧
      unpicked = [⟨"empty", []⟩, ⟨"use", ["anime", "jpeg"]⟩] ∧
      (picks.formula categories).normalize ≠ .const false ∧
      (picks.formula categories).normalize ≠ .const true ∧
      (picks.formula unpicked).normalize = .const true := by
  refine ⟨_, _, _, rfl, rfl, rfl, ?_, ?_, ?_⟩
  · exact (normalize_formula_ne_false_and_eq_true_iff _ _).1
  · rw [ne_eq, (normalize_formula_ne_false_and_eq_true_iff _ _).2]
    decide
  · rw [(normalize_formula_ne_false_and_eq_true_iff _ _).2]
    decide

/-! ## Selecting by picks -/

section Select

open Index

variable [LawfulEqOrd Tag] [DecidableEq Tag] {Id R : Type} [Ord Id] [TransOrd Id] [LawfulEqOrd Id]
  {entries : List (Entry Id Tag R)} {index : Index Id Tag R}

omit [LawfulEqOrd Tag] in
theorem mem_select_formula_iff (hholds : index.Holds entries) {id : Id} :
    id ∈ index.select (picks.formula categories).normalize ↔
      ∃ entry ∈ entries, entry.id = id ∧
        ∀ category ∈ categories, picks.Meets category entry.tags.contains := by
  rw [hholds.mem_select_iff]
  simp only [Formula.expresses_normalize _ _, eval_formula_iff]

/-- **Picked tags select what they say.**  In the index of any entries, the formula of the
picks selects the entries that, in every category, carry no forbidden tag and, if there
are required ones, one of these.  The order of the categories has no influence, and one
more forbidden tag takes away those of the selected ids that are in its posting. -/
theorem select_formula [Scalar R] (hbuilt : ofEntries? entries = .ok index) (picks : Picks Tag)
    (categories : List (Category Tag)) :
    (∀ id, id ∈ index.select (picks.formula categories).normalize ↔
      ∃ entry ∈ entries, entry.id = id ∧ ∀ category ∈ categories,
        (∀ tag ∈ category.tags, picks[tag]? = some .forbidden → tag ∉ entry.tags) ∧
        ((∃ tag ∈ category.tags, picks[tag]? = some .required) →
          ∃ tag ∈ category.tags, picks[tag]? = some .required ∧ tag ∈ entry.tags)) ∧
    (∀ reordered : List (Category Tag), reordered.Perm categories →
      index.select (picks.formula reordered).normalize =
        index.select (picks.formula categories).normalize) ∧
    ∀ tag, picks[tag]? = none → (∃ category ∈ categories, tag ∈ category.tags) →
      ∀ id, id ∈ index.select (formula (picks.insert tag .forbidden) categories).normalize ↔
        id ∈ index.select (picks.formula categories).normalize ∧ id ∉ index.posting tag := by
  have hholds := holds_of_ofEntries? hbuilt
  refine ⟨?rule, ?order, ?forbid⟩
  case rule =>
    intro id
    simp only [mem_select_formula_iff hholds, meets_contains_iff]
  case order =>
    intro reordered hperm
    refine ExtTreeSet.ext_mem fun id => ?_
    simp only [mem_select_formula_iff hholds, hperm.mem_iff]
  case forbid =>
    intro tag hunpicked hlisted id
    obtain ⟨category, hcategory, htag⟩ := hlisted
    rw [mem_select_formula_iff hholds, mem_select_formula_iff hholds]
    simp only [meets_insert_forbidden_iff hunpicked]
    constructor
    · intro hselected
      obtain ⟨entry, hentry, rfl, hmeets⟩ := hselected
      refine ⟨⟨entry, hentry, rfl, fun other hother => (hmeets other hother).1⟩, ?_⟩
      rw [hholds.id_mem_posting_iff hentry]
      exact (hmeets category hcategory).2 htag
    · intro hselected
      obtain ⟨⟨entry, hentry, rfl, hmeets⟩, hposting⟩ := hselected
      rw [hholds.id_mem_posting_iff hentry] at hposting
      exact ⟨entry, hentry, rfl, fun other hother => ⟨hmeets other hother, fun _ => hposting⟩⟩

/-- In the sample corpus.  One category lists a tag twice, one has no tags, one shares a
tag with another, and a picked tag is in none of them; forbidding a further tag takes away
the one selected entry that carries it. -/
theorem select_formula_sample :
    ∃ index : Index String String Float, ofEntries? Catalogue.sample = .ok index ∧
      ∃ (picks : Picks String) (categories : List (Category String)),
        picks = .ofList [("scale:2", Pick.required), ("scale:4", Pick.required),
          ("color:1", Pick.forbidden), ("by:nobody", Pick.required)] ∧
        categories = [⟨"scale", ["scale:1", "scale:2", "scale:4", "scale:2"]⟩, ⟨"empty", []⟩,
          ⟨"color", ["color:1", "color:3"]⟩, ⟨"use", ["anime", "jpeg", "color:1"]⟩] ∧
        "2x-dejpg-colorize" ∈ index.select (picks.formula categories).normalize ∧
        "1x-mangajpeglq" ∉ index.select (picks.formula categories).normalize ∧
        index.select (picks.formula categories.reverse).normalize =
          index.select (picks.formula categories).normalize ∧
        ∀ id, id ∈ index.select (formula (picks.insert "jpeg" .forbidden) categories).normalize ↔
          id ∈ index.select (picks.formula categories).normalize ∧ id ∉ index.posting "jpeg" := by
  obtain ⟨index, hbuilt⟩ := exists_ofEntries?_sample
  obtain ⟨hrule, horder, hforbid⟩ := select_formula hbuilt
    (.ofList [("scale:2", Pick.required), ("scale:4", Pick.required),
      ("color:1", Pick.forbidden), ("by:nobody", Pick.required)])
    [⟨"scale", ["scale:1", "scale:2", "scale:4", "scale:2"]⟩, ⟨"empty", []⟩,
      ⟨"color", ["color:1", "color:3"]⟩, ⟨"use", ["anime", "jpeg", "color:1"]⟩]
  refine ⟨index, hbuilt, _, _, rfl, rfl, ?_, ?_, horder _ (List.reverse_perm _),
    hforbid "jpeg" (by decide) (by decide)⟩
  · rw [hrule]
    decide
  · rw [hrule]
    decide

end Select

end FacetSearch.Picks
