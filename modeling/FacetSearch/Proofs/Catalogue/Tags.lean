import FacetSearch.Catalogue.Model
import FacetSearch.Proofs.Catalogue.Choice
import Mathlib.Data.List.Basic
import Mathlib.Tactic.Tauto

/-!
# What derived tags tell about a model

The derived tags of a model come from five sources, and each source has a heading that all its
tags start with.  The headings have different first letters, so no tag has two of them
(`Heading.eq_of_isPrefix`).  A model whose own tags have none of them keeps its sources apart:
the tags of a source are those with its heading (`Model.mem_tagsUnder_iff`), and its own tags are
those without any.

Within a source nothing is lost either.  What an author is called follows the heading, a number
is read off its digits, and the two forms of a color tag are told apart by the dash, which is no
digit (`Model.colorTag_eq_iff`).
-/

namespace FacetSearch.Catalogue

/-! ## Headings -/

/-- The sources of derived tags. -/
inductive Heading where
  | author
  | scale
  | color
  | license
  | platform

namespace Heading

theorem forall_iff {p : Heading → Prop} : (∀ heading, p heading) ↔
    p author ∧ p scale ∧ p color ∧ p license ∧ p platform := by
  constructor
  · intro hall
    exact ⟨hall author, hall scale, hall color, hall license, hall platform⟩
  · rintro ⟨hauthor, hscale, hcolor, hlicense, hplatform⟩ heading
    cases heading <;> assumption

theorem exists_iff {p : Heading → Prop} : (∃ heading, p heading) ↔
    p author ∨ p scale ∨ p color ∨ p license ∨ p platform := by
  rw [← not_iff_not, not_exists, forall_iff]
  simp only [not_or]

/-- What the tags of a source start with. -/
def text : Heading → String
  | author => "by:"
  | scale => "scale:"
  | color => "color:"
  | license => "license:"
  | platform => "platform:"

/-- The first letter of a heading. -/
def letter : Heading → Char
  | author => 'b'
  | scale => 's'
  | color => 'c'
  | license => 'l'
  | platform => 'p'

theorem head?_text (heading : Heading) : heading.text.toList.head? = some heading.letter := by
  cases heading <;> decide

theorem letter_injective {heading heading' : Heading} (hletter : heading.letter = heading'.letter) :
    heading = heading' := by
  cases heading <;> cases heading' <;> first | rfl | exact absurd hletter (by decide)

/-- No text has two headings. -/
theorem eq_of_isPrefix {heading heading' : Heading} {text : List Char}
    (hfirst : heading.text.toList <+: text) (hsecond : heading'.text.toList <+: text) :
    heading = heading' := by
  have hletter {heading : Heading} (hstarts : heading.text.toList <+: text) :
      text.head? = some heading.letter := by
    obtain ⟨rest, rfl⟩ := hstarts
    rw [List.head?_append, head?_text, Option.some_or]
  apply letter_injective
  apply Option.some.inj
  rw [← hletter hfirst, hletter hsecond]

end Heading

theorem isPrefix_toList_append (first second : String) :
    first.toList <+: (first ++ second).toList := by
  rw [String.toList_append]
  exact List.prefix_append _ _

/-! ## Numbers in tags -/

theorem toDigits_inj {m n : Nat} : Nat.toDigits 10 m = Nat.toDigits 10 n ↔ m = n := by
  refine ⟨fun hdigits => ?_, fun hsame => by rw [hsame]⟩
  calc m = Nat.ofDigitChars 10 (Nat.toDigits 10 m) 0 := Nat.ofDigitChars_ten_toDigits.symm
    _ = Nat.ofDigitChars 10 (Nat.toDigits 10 n) 0 := by rw [hdigits]
    _ = n := Nat.ofDigitChars_ten_toDigits

theorem toDigits_toNat_inj {m n : UInt32} :
    Nat.toDigits 10 m.toNat = Nat.toDigits 10 n.toNat ↔ m = n :=
  toDigits_inj.trans UInt32.toNat_inj

theorem dash_notMem_toDigits (n : Nat) : '-' ∉ Nat.toDigits 10 n := by
  intro hdash
  have hdigit : '-'.isDigit = true := Nat.isDigit_of_mem_toDigits (by decide) (by decide) hdash
  exact absurd hdigit (by decide)

namespace Model

variable {model model' : Model}

/-- The tag for the scale of a model. -/
def scaleTag (model : Model) : String :=
  "scale:" ++ toString model.scale.toNat

theorem scaleTag_eq_iff : model.scaleTag = model'.scaleTag ↔ model.scale = model'.scale := by
  rw [scaleTag, scaleTag, String.append_right_inj, ← String.toList_inj, Nat.toString_eq_repr,
    Nat.toString_eq_repr, Nat.toList_repr, Nat.toList_repr, toDigits_toNat_inj]

/-- What the color tag says behind its heading. -/
def channels (model : Model) : List Char :=
  if model.inputChannels = model.outputChannels then Nat.toDigits 10 model.inputChannels.toNat
  else Nat.toDigits 10 model.inputChannels.toNat ++
    '-' :: Nat.toDigits 10 model.outputChannels.toNat

theorem toList_colorTag (model : Model) :
    model.colorTag.toList = Heading.color.text.toList ++ model.channels := by
  unfold colorTag channels
  split
  case isTrue =>
    rw [String.toList_append, Nat.toString_eq_repr, Nat.toList_repr]
    rfl
  case isFalse =>
    rw [String.toList_append, String.toList_append, String.toList_append, Nat.toString_eq_repr,
      Nat.toString_eq_repr, Nat.toList_repr, Nat.toList_repr, List.append_assoc, List.append_assoc]
    rfl

theorem channels_eq_iff : model.channels = model'.channels ↔
    model.inputChannels = model'.inputChannels ∧ model.outputChannels = model'.outputChannels := by
  have hnot {m n k : Nat} : Nat.toDigits 10 m ≠ Nat.toDigits 10 n ++ '-' :: Nat.toDigits 10 k := by
    intro hdigits
    apply dash_notMem_toDigits m
    rw [hdigits]
    exact List.mem_append_right _ List.mem_cons_self
  unfold channels
  split
  case isTrue hsame =>
    split
    case isTrue hsame' => rw [toDigits_toNat_inj, ← hsame, ← hsame', and_self]
    case isFalse hdiffer' =>
      refine iff_of_false hnot ?_
      rintro ⟨hinput, houtput⟩
      exact hdiffer' (by rw [← hinput, ← houtput, hsame])
  case isFalse hdiffer =>
    split
    case isTrue hsame' =>
      refine iff_of_false hnot.symm ?_
      rintro ⟨hinput, houtput⟩
      exact hdiffer (by rw [hinput, houtput, hsame'])
    case isFalse hdiffer' =>
      rw [List.append_cons_inj_of_notMem (dash_notMem_toDigits _) (dash_notMem_toDigits _),
        toDigits_toNat_inj, toDigits_toNat_inj]
      simp only [true_and]

/-- A color tag tells both numbers of channels. -/
theorem colorTag_eq_iff : model.colorTag = model'.colorTag ↔
    model.inputChannels = model'.inputChannels ∧ model.outputChannels = model'.outputChannels := by
  rw [← String.toList_inj, toList_colorTag, toList_colorTag, List.append_right_inj,
    channels_eq_iff]

/-! ## Sources of tags -/

/-- The derived tags of a source. -/
def tagsUnder (model : Model) : Heading → List String
  | .author => model.authors.map ("by:" ++ ·)
  | .scale => [model.scaleTag]
  | .color => [model.colorTag]
  | .license => licenseTags model.license
  | .platform => platformTags model.architecture model.resources

theorem mem_derivedTags_iff {tag : String} :
    tag ∈ model.derivedTags ↔ tag ∈ model.tags ∨ ∃ heading, tag ∈ model.tagsUnder heading := by
  rw [derivedTags, Std.ExtTreeSet.mem_ofList, List.contains_iff_mem, Heading.exists_iff]
  simp only [tagsUnder, scaleTag, List.mem_append, List.mem_cons, List.not_mem_nil, or_false,
    or_assoc]

theorem isPrefix_of_mem_platformTags {architecture : String} {resources : List Resource}
    {tag : String} (htag : tag ∈ platformTags architecture resources) :
    Heading.platform.text.toList <+: tag.toList := by
  simp only [platformTags, List.mem_append, List.mem_map] at htag
  rcases htag with ⟨platform, -, rfl⟩ | ⟨platform, -, rfl⟩
  · exact isPrefix_toList_append _ _
  · rw [String.append_assoc]
    exact isPrefix_toList_append _ _

theorem isPrefix_of_mem_licenseTags {license : Option String} {tag : String}
    (htag : tag ∈ licenseTags license) : Heading.license.text.toList <+: tag.toList := by
  rcases mem_licenseTags_iff.mp htag with
    ⟨-, rfl⟩ | ⟨-, rfl⟩ | ⟨-, rfl⟩ | ⟨-, rfl⟩ | ⟨-, rfl⟩ | ⟨-, rfl⟩ <;> decide

/-- The tags of a source start with its heading. -/
theorem isPrefix_of_mem_tagsUnder {heading : Heading} {tag : String}
    (htag : tag ∈ model.tagsUnder heading) : heading.text.toList <+: tag.toList := by
  cases heading with
  | author =>
      obtain ⟨author, -, rfl⟩ := List.mem_map.mp htag
      exact isPrefix_toList_append _ _
  | scale =>
      rw [List.mem_singleton.mp htag]
      exact isPrefix_toList_append _ _
  | color =>
      rw [List.mem_singleton.mp htag, toList_colorTag]
      exact List.prefix_append _ _
  | license => exact isPrefix_of_mem_licenseTags htag
  | platform => exact isPrefix_of_mem_platformTags htag

/-- Whether none of a model's own tags starts with one of the headings. -/
def OwnTagsApart (model : Model) : Prop :=
  ∀ tag ∈ model.tags, ∀ heading : Heading, ¬heading.text.toList <+: tag.toList

/-- The tags of a source are those with its heading. -/
theorem mem_tagsUnder_iff (hapart : model.OwnTagsApart) {heading : Heading} {tag : String} :
    tag ∈ model.tagsUnder heading ↔
      tag ∈ model.derivedTags ∧ heading.text.toList <+: tag.toList := by
  constructor
  · intro htag
    exact ⟨mem_derivedTags_iff.mpr (Or.inr ⟨heading, htag⟩), isPrefix_of_mem_tagsUnder htag⟩
  · rintro ⟨htag, hstarts⟩
    rcases mem_derivedTags_iff.mp htag with hown | ⟨other, hother⟩
    · exact absurd hstarts (hapart tag hown heading)
    · rwa [Heading.eq_of_isPrefix hstarts (isPrefix_of_mem_tagsUnder hother)]

/-- The own tags are those without any heading. -/
theorem mem_tags_iff (hapart : model.OwnTagsApart) {tag : String} :
    tag ∈ model.tags ↔
      tag ∈ model.derivedTags ∧ ∀ heading : Heading, ¬heading.text.toList <+: tag.toList := by
  constructor
  · intro htag
    exact ⟨mem_derivedTags_iff.mpr (Or.inl htag), hapart tag htag⟩
  · rintro ⟨htag, hnone⟩
    rcases mem_derivedTags_iff.mp htag with hown | ⟨heading, hsource⟩
    · exact hown
    · exact absurd (isPrefix_of_mem_tagsUnder hsource) (hnone heading)

/-- Models have the same derived tags if they have the same ones from every source. -/
theorem derivedTags_eq_iff_tagsUnder (hapart : model.OwnTagsApart)
    (hapart' : model'.OwnTagsApart) :
    model.derivedTags = model'.derivedTags ↔
      (∀ tag, tag ∈ model.tags ↔ tag ∈ model'.tags) ∧
        ∀ heading tag, tag ∈ model.tagsUnder heading ↔ tag ∈ model'.tagsUnder heading := by
  constructor
  · intro hsame
    constructor
    · intro tag
      rw [mem_tags_iff hapart, mem_tags_iff hapart', hsame]
    · intro heading tag
      rw [mem_tagsUnder_iff hapart, mem_tagsUnder_iff hapart', hsame]
  · rintro ⟨hown, hsources⟩
    apply Std.ExtTreeSet.ext_mem
    intro tag
    simp only [mem_derivedTags_iff, hown, hsources]

theorem forall_mem_singleton_iff_iff {first second : String} :
    (∀ tag, tag ∈ [first] ↔ tag ∈ [second]) ↔ first = second := by
  constructor
  · intro hsame
    exact List.mem_singleton.mp ((hsame first).mp (List.mem_singleton_self first))
  · rintro rfl
    exact fun _ => Iff.rfl

theorem forall_mem_tagsUnder_author_iff :
    (∀ tag, tag ∈ model.tagsUnder .author ↔ tag ∈ model'.tagsUnder .author) ↔
      ∀ author, author ∈ model.authors ↔ author ∈ model'.authors := by
  have hinjective : Function.Injective ("by:" ++ · : String → String) :=
    fun _ _ hsame => (String.append_right_inj "by:").mp hsame
  constructor
  · intro hsame author
    have htag := hsame ("by:" ++ author)
    rwa [tagsUnder, tagsUnder, List.mem_map_of_injective hinjective,
      List.mem_map_of_injective hinjective] at htag
  · intro hsame tag
    simp only [tagsUnder, List.mem_map, hsame]

/-- **Derived tags tell what they were derived from.**  Of two models whose own tags start with
none of the headings, the derived tags are the same just when the models have the same own tags
and authors, as sets, the same scale, the same numbers of channels, and the same tags for their
licenses and for their platforms. -/
theorem derivedTags_eq_iff (hapart : model.OwnTagsApart) (hapart' : model'.OwnTagsApart) :
    model.derivedTags = model'.derivedTags ↔
      (∀ tag, tag ∈ model.tags ↔ tag ∈ model'.tags) ∧
      (∀ author, author ∈ model.authors ↔ author ∈ model'.authors) ∧
      model.scale = model'.scale ∧
      model.inputChannels = model'.inputChannels ∧
      model.outputChannels = model'.outputChannels ∧
      (∀ tag, tag ∈ licenseTags model.license ↔ tag ∈ licenseTags model'.license) ∧
      ∀ tag, tag ∈ platformTags model.architecture model.resources ↔
        tag ∈ platformTags model'.architecture model'.resources := by
  rw [derivedTags_eq_iff_tagsUnder hapart hapart', Heading.forall_iff,
    forall_mem_tagsUnder_author_iff]
  simp only [tagsUnder, forall_mem_singleton_iff_iff, scaleTag_eq_iff, colorTag_eq_iff, and_assoc]

/-- A model for gray images, with an author whose name looks like a tag and a license that is
blank. -/
def colorizer : Model where
  name := "Colorizer"
  author := .many ["joey", "scale:4", "joey"]
  tags := ["jpeg", "scale", "colorize"]
  description := ""
  architecture := "SwinIR"
  scale := 2
  inputChannels := 1
  outputChannels := 3
  dataset := none
  license := some " "
  resources := [⟨.pth⟩]

/-- The same model with its lists in another order, with repetitions and without a license. -/
def reorderedColorizer : Model :=
  { colorizer with
    author := .many ["scale:4", "joey"]
    tags := ["colorize", "jpeg", "jpeg", "scale"]
    license := none
    resources := [⟨.pth⟩, ⟨.pth⟩] }

/-- The same model with a number of channels that has both of its digits. -/
def wideColorizer : Model :=
  { colorizer with inputChannels := 13, outputChannels := 13 }

/-- The order of lists, repetitions and a blank license do not show in the derived tags, but
thirteen channels are not one and three. -/
theorem derivedTags_eq_iff_sample :
    colorizer.OwnTagsApart ∧ reorderedColorizer.OwnTagsApart ∧ wideColorizer.OwnTagsApart ∧
      colorizer.derivedTags = reorderedColorizer.derivedTags ∧
      colorizer.derivedTags ≠ wideColorizer.derivedTags := by
  have hcolorizer : colorizer.OwnTagsApart := by
    intro tag htag heading
    revert tag
    cases heading <;> decide
  have hreordered : reorderedColorizer.OwnTagsApart := by
    intro tag htag heading
    revert tag
    cases heading <;> decide
  have hwide : wideColorizer.OwnTagsApart := hcolorizer
  refine ⟨hcolorizer, hreordered, hwide, ?_, ?_⟩
  · refine (derivedTags_eq_iff hcolorizer hreordered).mpr ⟨?_, ?_, rfl, rfl, rfl, ?_, ?_⟩
    · intro tag
      simp only [colorizer, reorderedColorizer, List.mem_cons, List.not_mem_nil, or_false]
      tauto
    · intro author
      simp only [colorizer, reorderedColorizer, authors, OneOrMany.toList, List.mem_cons,
        List.not_mem_nil, or_false]
      tauto
    · have hblank : licenseTags colorizer.license = licenseTags reorderedColorizer.license := by
        cbv
      exact fun tag => by rw [hblank]
    · intro tag
      simp only [colorizer, reorderedColorizer, platformTags, List.mem_append, List.mem_map,
        List.mem_cons, List.not_mem_nil, or_false, or_self]
  · intro hsame
    obtain ⟨-, -, -, hinput, -⟩ := (derivedTags_eq_iff hcolorizer hwide).mp hsame
    exact absurd hinput (by decide)

end Model

end FacetSearch.Catalogue
