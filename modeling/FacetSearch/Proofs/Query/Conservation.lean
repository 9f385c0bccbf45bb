import FacetSearch.Proofs.Query.Walk
import FacetSearch.Query.Token

/-!
# Tokens lose and invent nothing

The tokens of a query, one after the other, are the lowercase forms of its
characters without the separators.  Each stage of the way hands on what it gets:

* cutting leaves out the separators and nothing else (`flatten_pieces`);
* lowercase works on single characters, but for the sigma at the end of a word
  (`map_mergeSigma_lowerChars`);
* parts are cut out of a word and never overlap (`flatten_splitFormats`);
* the pass that puts notation together moves a `v` or joins two neighbours, and
  every step of it keeps the text of all tokens (`Fusion.step?_text`).

What a lone `Σ` becomes depends on the piece that it is in, so the statement
identifies the two lowercase forms of sigma.
-/

namespace FacetSearch

/-! ## Lowercase -/

namespace Text

/-- A character, with the sigma at the end of a word taken for any other. -/
def mergeSigma (c : Char) : Char :=
  if c = 'ς' then 'σ' else c

/-- Only sigmas are taken for each other. -/
theorem eq_of_mergeSigma_eq {c d : Char} (hc : c ≠ 'σ' ∧ c ≠ 'ς')
    (hsame : mergeSigma d = mergeSigma c) : d = c := by
  rw [mergeSigma, mergeSigma, if_neg hc.2] at hsame
  split at hsame
  case isTrue => exact absurd hsame.symm hc.1
  case isFalse => exact hsame

/-- The text around a character decides at most between the two sigmas. -/
theorem map_mergeSigma_lowerBetween (before : List Char) (c : Char) (after : List Char) :
    (lowerBetween before c after).map mergeSigma = (lowerChar c).map mergeSigma := by
  unfold lowerBetween
  split
  case isTrue hc =>
    have hsigma : lowerChar 'Σ' = ['σ'] := by decide
    rw [hc, hsigma]
    split <;> decide
  case isFalse => rfl

theorem map_mergeSigma_lowerAfter (before cs : List Char) :
    (lowerAfter before cs).map mergeSigma = (cs.flatMap lowerChar).map mergeSigma := by
  induction cs generalizing before with
  | nil => rfl
  | cons c after ih =>
      rw [lowerAfter, List.map_append, map_mergeSigma_lowerBetween, ih, List.flatMap_cons,
        List.map_append]

theorem map_mergeSigma_lowerChars (cs : List Char) :
    (lowerChars cs).map mergeSigma = (cs.flatMap lowerChar).map mergeSigma :=
  map_mergeSigma_lowerAfter [] cs

end Text

namespace Query

/-! ## Format words -/

/-- A format word that is found is the text up to its end. -/
theorem append_drop_of_formatWordAt? {c : Char} {rest word : List Char}
    (hword : formatWordAt? (c :: rest) = some word) :
    word ++ rest.drop (word.length - 1) = c :: rest := by
  have hformat : word ∈ formatWords := List.mem_of_find?_eq_some hword
  have hprefix : word <+: c :: rest := by
    simpa using List.find?_some hword
  have hnonempty : word ≠ [] := by
    rintro rfl
    revert hformat
    decide
  obtain ⟨after, hafter⟩ := hprefix
  cases word with
  | nil => exact absurd rfl hnonempty
  | cons head tail =>
      obtain ⟨-, hrest⟩ := List.cons.inj hafter
      rw [← hafter, ← hrest]
      simp

theorem flatten_splitFormatsAfter (part cs : List Char) :
    (splitFormatsAfter part cs).flatten = part.reverse ++ cs := by
  fun_induction splitFormatsAfter part cs with
  | case1 part => simp
  | case2 part c rest _ ih => simp [ih]
  | case3 part c rest word hword ih =>
      rw [List.flatten_cons, List.flatten_cons, ih, List.reverse_nil, List.nil_append,
        append_drop_of_formatWordAt? hword]

theorem flatten_splitFormats (word : List Char) : (splitFormats word).flatten = word := by
  rw [splitFormats, List.flatten_filter_ne_nil, flatten_splitFormatsAfter, List.reverse_nil,
    List.nil_append]

/-! ## Notation -/

theorem areNotation_iff {a b : List Char} :
    areNotation a b ↔ (a = ['v'] ∧ isNumber b) ∨ (isNumber a ∧ b = ['x']) := by
  simp [areNotation]

theorem eq_append_of_beforeFinalV? {token before : List Char}
    (hbefore : beforeFinalV? token = some before) : token = before ++ ['v'] := by
  unfold beforeFinalV? at hbefore
  split at hbefore
  case h_1 c rest hreverse =>
    cases hbefore
    rw [← List.reverse_reverse token, hreverse, List.reverse_cons]
  case h_2 => cases hbefore

namespace Fusion

/-- The text of all tokens, the settled ones and those pending. -/
def text (pass : Fusion) : List Char :=
  (pass.settled.reverse ++ pass.pending).flatten

/-- A step takes a final `v` off the first token if a number follows.  Otherwise it settles
the first token, together with the second if the two are a notation. -/
theorem step?_cases {pass next : Fusion} (hstep : pass.step? = some next) :
    ∃ a b rest, pass.pending = a :: b :: rest ∧
      ((∃ before, beforeFinalV? a = some before ∧ isNumber b ∧
          next = ⟨before :: pass.settled, ['v'] :: b :: rest⟩) ∨
        ((beforeFinalV? a = none ∨ isNumber b = false) ∧ areNotation a b ∧
          next = ⟨(a ++ b) :: pass.settled, rest⟩) ∨
        ((beforeFinalV? a = none ∨ isNumber b = false) ∧ areNotation a b = false ∧
          next = ⟨a :: pass.settled, b :: rest⟩)) := by
  unfold step? at hstep
  split at hstep
  case h_2 => cases hstep
  case h_1 a b rest hpending =>
    refine ⟨a, b, rest, hpending, ?_⟩
    split at hstep
    case h_1 before hbefore hnumber =>
      cases hstep
      exact Or.inl ⟨before, hbefore, hnumber, rfl⟩
    case h_2 hnone =>
      have hfirst : beforeFinalV? a = none ∨ isNumber b = false := by
        cases hbefore : beforeFinalV? a with
        | none => exact Or.inl rfl
        | some before => exact Or.inr (Bool.eq_false_iff.mpr (hnone before hbefore))
      split at hstep <;> cases hstep
      case isTrue hnotation => exact Or.inr (Or.inl ⟨hfirst, hnotation, rfl⟩)
      case isFalse hnotation =>
        exact Or.inr (Or.inr ⟨hfirst, Bool.eq_false_iff.mpr hnotation, rfl⟩)

/-- A step of the pass moves text from one token to another and keeps it. -/
theorem step?_text {pass next : Fusion} (hstep : pass.step? = some next) :
    next.text = pass.text := by
  obtain ⟨a, b, rest, hpending, ⟨before, hbefore, -, rfl⟩ | ⟨-, -, rfl⟩ | ⟨-, -, rfl⟩⟩ :=
    step?_cases hstep
  · simp [text, hpending, eq_append_of_beforeFinalV? hbefore]
  · simp [text, hpending]
  · simp [text, hpending]

theorem flatten_run (pass : Fusion) : pass.run.flatten = pass.text := by
  fun_induction run pass with
  | case1 pass hend => rfl
  | case2 pass next hstep _ ih => rw [ih, step?_text hstep]

end Fusion

theorem flatten_fuse (tokens : List (List Char)) : (fuse tokens).flatten = tokens.flatten := by
  rw [fuse, Fusion.flatten_run, Fusion.text, List.reverse_nil, List.nil_append]

/-! ## Tokens -/

theorem map_mergeSigma_flatten_flatMap (pieces : List (List Char)) :
    (pieces.flatMap fun piece => splitFormats (Text.lowerChars piece)).flatten.map
        Text.mergeSigma =
      (pieces.flatten.flatMap lowerChar).map Text.mergeSigma := by
  induction pieces with
  | nil => rfl
  | cons piece rest ih =>
      rw [List.flatMap_cons, List.flatten_append, List.map_append, ih, flatten_splitFormats,
        Text.map_mergeSigma_lowerChars, List.flatten_cons, List.flatMap_append, List.map_append]

/-- The parts of a query hold the lowercase forms of all that separates nothing. -/
theorem map_mergeSigma_flatten_parts (query : List Char) :
    (parts query).flatten.map Text.mergeSigma =
      ((query.filter (!isSeparator ·)).flatMap lowerChar).map Text.mergeSigma := by
  have hpieces : ((pieces query).filter (· ≠ [])).flatten = query.filter (!isSeparator ·) := by
    rw [List.flatten_filter_ne_nil, flatten_pieces]
  rw [parts, map_mergeSigma_flatten_flatMap, hpieces]

/-- **Tokens lose and invent nothing.**  One after the other, the tokens of a query
are the lowercase forms of those of its characters that separate nothing, if no
difference is made between the two lowercase forms of sigma. -/
theorem toList_join_tokens (query : String) :
    (String.join (tokens query)).toList.map Text.mergeSigma =
      ((query.toList.filter (!isSeparator ·)).flatMap lowerChar).map Text.mergeSigma := by
  have hjoin : (String.join (tokens query)).toList = (tokenChars query.toList).flatten := by
    rw [String.toList_join, tokens, List.flatMap_map]
    simp [List.flatMap_def]
  rw [hjoin, tokenChars, flatten_fuse, map_mergeSigma_flatten_parts]

end Query

end FacetSearch
