import FacetSearch.Text.Occurrence
import Mathlib.Data.List.Infix

/-!
# Occurrences and substrings

A word that is not empty has an occurrence in a text if and only if it is a substring of
the text.  Passing over the characters that an earlier occurrence takes up never loses
the first occurrence, since nothing is passed over before it.
-/

namespace FacetSearch.Text

variable {word : List Char}

theorem occurrencesAfter_ne_nil_iff (hword : word ≠ []) {before after : List Char} :
    occurrencesAfter word 0 before after ≠ [] ↔ word <:+: after := by
  induction after generalizing before with
  | nil => simpa [occurrencesAfter] using hword
  | cons c rest ih =>
      rw [occurrencesAfter, List.infix_cons_iff, ← List.isPrefixOf_iff_prefix]
      cases hhere : word.isPrefixOf (c :: rest) with
      | true => simp
      | false => simpa using ih

/-- A word has an occurrence in a text if it is a substring that is not empty. -/
theorem occurrences_ne_nil_iff {text : List Char} :
    occurrences word text ≠ [] ↔ word ≠ [] ∧ word <:+: text := by
  rw [occurrences]
  split
  case isTrue hempty => simp [hempty]
  case isFalse hword => rw [occurrencesAfter_ne_nil_iff hword, and_iff_right hword]

/-- If all occurrences of a token have a property, there is one that has it just when the
token stands in the text. -/
theorem exists_mem_occurrences_iff {token : String} {text : List Char} {P : Cut → Prop}
    (hall : ∀ place ∈ occurrences token.toList text, P place) :
    (∃ place ∈ occurrences token.toList text, P place) ↔
      token ≠ "" ∧ token.toList <:+: text := by
  rw [ne_eq, ← String.toList_eq_nil_iff, ← ne_eq, ← occurrences_ne_nil_iff]
  constructor
  · intro hsome
    obtain ⟨place, hplace, -⟩ := hsome
    exact List.ne_nil_of_mem hplace
  · intro hsome
    obtain ⟨place, hplace⟩ := List.exists_mem_of_ne_nil _ hsome
    exact ⟨place, hplace, hall place hplace⟩

end FacetSearch.Text
