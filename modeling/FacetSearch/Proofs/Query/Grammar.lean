import FacetSearch.Proofs.Query.TokenForm
import FacetSearch.Proofs.Query.Written

/-!
# The grammar of tokens

What the tokens of any query look like (`IsToken`): they are texts in lowercase, without
separators, and each of them is a number, a version, a scale or a text without digits.  A
format word is a token of its own or not in a token at all.

* Their characters are lowercase forms of characters that separate nothing, and lowercase
  makes no separators and nothing that it changes once more
  (`lowerChar_and_isSeparator_of_mem_tokenChars`).
* Digits and other characters never get into one piece: there is a break at every digit, and
  it takes up digits only (`Cursor.isUnmixed_of_mem_pieces`).  Lowercase makes no digits, so
  the parts are numbers or have none, and putting notation together yields the other two
  shapes.
* A part between format words has none inside.  The invariant of the walk that looks for them
  is that no format word starts in what has been read since the last one
  (`forall_mem_splitFormatsAfter`).
-/

namespace FacetSearch

/-! ## Lowercase texts -/

namespace Text

/-- A character of a text in lowercase is a lowercase form of one of the text, if no
difference is made between the two lowercase forms of sigma. -/
theorem exists_of_mem_lowerChars {c : Char} {cs : List Char} (hc : c ∈ lowerChars cs) :
    ∃ origin ∈ cs, ∃ d ∈ lowerChar origin, mergeSigma d = mergeSigma c := by
  have hmerged := List.mem_map_of_mem (f := mergeSigma) hc
  rw [map_mergeSigma_lowerChars] at hmerged
  obtain ⟨d, hd, hsame⟩ := List.mem_map.mp hmerged
  obtain ⟨origin, horigin, hlower⟩ := List.mem_flatMap.mp hd
  exact ⟨origin, horigin, d, hlower, hsame⟩

/-- Lowercase makes no digits. -/
theorem isDigit_mem_of_mem_lowerChars {c : Char} {cs : List Char} (hc : c ∈ lowerChars cs)
    (hdigit : isDigit c) : c ∈ cs := by
  obtain ⟨origin, horigin, d, hd, hsame⟩ := exists_of_mem_lowerChars hc
  have hplain : c ≠ 'σ' ∧ c ≠ 'ς' := by
    constructor <;> rintro rfl <;> revert hdigit <;> decide
  have hcode : c.toNat < 0x61 :=
    forall_between (P := fun c => c.toNat < 0x61) (by decide) hdigit
  rw [eq_of_mergeSigma_eq hplain hsame] at hd
  rwa [eq_of_mem_lowerChar hd hcode]

end Text

namespace Query

/-! ## Characters of tokens -/

/-- The characters of tokens are in lowercase and separate nothing. -/
theorem lowerChar_and_isSeparator_of_mem_tokenChars {query token : List Char}
    (htoken : token ∈ tokenChars query) {c : Char} (hc : c ∈ token) :
    lowerChar c = [c] ∧ isSeparator c = false := by
  obtain ⟨origin, -, hword, d, hd, hsame⟩ := exists_of_mem_tokenChars htoken hc
  by_cases hsigma : c = 'σ' ∨ c = 'ς'
  · rcases hsigma with rfl | rfl <;> decide
  · rw [not_or] at hsigma
    rw [Text.eq_of_mergeSigma_eq hsigma hsame] at hd
    exact ⟨lowerChar_of_mem_lowerChar hd, isSeparator_of_mem_lowerChar hword hd⟩

/-! ## Digits -/

/-- Whether a text has no ASCII digits. -/
def IsDigitFree (text : List Char) : Prop :=
  ∀ c ∈ text, isDigit c = false

/-- Whether a text does not mix digits with other characters. -/
def IsUnmixed (text : List Char) : Prop :=
  isNumber text ∨ IsDigitFree text

/-- The shape of a token. -/
inductive HasTokenShape : List Char → Prop
  | number {digits : List Char} : isNumber digits → HasTokenShape digits
  | version {digits : List Char} : isNumber digits → HasTokenShape ('v' :: digits)
  | scale {digits : List Char} : isNumber digits → HasTokenShape (digits ++ ['x'])
  | word {text : List Char} : IsDigitFree text → HasTokenShape text

/-- A piece that is cut out of a query as a whole does not mix digits with others. -/
theorem Break.isUnmixed_run {previous : Option Char} {c : Char} {rest : List Char}
    {found : Break} (hfound : breakAt? previous c rest = some found) (hkept : found.kept) :
    IsUnmixed found.run := by
  by_cases hdigit : isDigit c
  · rw [breakAt?_of_isDigit hdigit] at hfound
    cases hfound
    refine Or.inl (isNumber_iff.mpr ⟨List.cons_ne_nil _ _, List.forall_mem_cons.mpr ⟨hdigit, ?_⟩⟩)
    exact fun d hd => List.mem_takeWhile_imp hd
  · rw [Bool.not_eq_true] at hdigit
    refine Or.inr ?_
    unfold breakAt? at hfound
    split at hfound
    case isTrue => cases hfound; cases hkept
    split at hfound
    case isTrue => cases hfound; cases hkept
    split at hfound
    case isTrue => cases hfound; exact List.forall_mem_singleton.mpr hdigit
    split at hfound
    case isTrue hc => rw [hdigit] at hc; cases hc
    split at hfound
    case isTrue =>
      cases hfound
      refine List.forall_mem_cons.mpr ⟨hdigit, fun d hd => ?_⟩
      obtain ⟨-, -, -, hdigit', -⟩ := classes_of_isCapital (isCapital_of_mem_capitalRun hd)
      exact hdigit'
    split at hfound
    case isTrue => cases hfound; cases hkept
    case isFalse => cases hfound

namespace Cursor

/-- A digit is never taken into the open piece. -/
theorem isDigit_eq_false_of_extend {cursor : Cursor} {c : Char} {rest : List Char}
    (hbreak : ∀ found ∈ breakAt? cursor.previous c rest, found.run = [] ∧ cursor.piece = []) :
    isDigit c = false := by
  by_contra hdigit
  rw [Bool.not_eq_false] at hdigit
  exact List.cons_ne_nil _ _ (hbreak _ (breakAt?_of_isDigit hdigit)).1

/-- A step completes pieces that do not mix digits with others, and leaves no digits in the
open piece. -/
theorem isUnmixed_of_step? {cursor next : Cursor} {completed : List (List Char)}
    (hstep : cursor.step? = some (completed, next)) (hpiece : IsDigitFree cursor.piece) :
    (∀ piece ∈ completed, IsUnmixed piece) ∧ IsDigitFree next.piece := by
  obtain ⟨c, rest, -, ⟨rfl, rfl, hbreak⟩ | ⟨found, hfound, -, rfl, rfl⟩⟩ := step?_cases hstep
  · exact ⟨List.forall_mem_nil _,
      List.forall_mem_cons.mpr ⟨isDigit_eq_false_of_extend hbreak, hpiece⟩⟩
  · have hopen : IsUnmixed cursor.piece.reverse :=
      Or.inr fun d hd => hpiece d (List.mem_reverse.mp hd)
    refine ⟨List.forall_mem_cons.mpr ⟨hopen, ?_⟩, List.forall_mem_nil _⟩
    split
    case isTrue hkept => exact List.forall_mem_singleton.mpr (Break.isUnmixed_run hfound hkept)
    case isFalse => exact List.forall_mem_nil _

theorem isUnmixed_of_mem_pieces {cursor : Cursor} (hpiece : IsDigitFree cursor.piece) :
    ∀ piece ∈ cursor.pieces, IsUnmixed piece := by
  fun_induction pieces cursor with
  | case1 cursor hend =>
      exact List.forall_mem_singleton.mpr
        (Or.inr fun d hd => hpiece d (List.mem_reverse.mp hd))
  | case2 cursor completed next hstep _ ih =>
      obtain ⟨hcompleted, hnext⟩ := isUnmixed_of_step? hstep hpiece
      exact List.forall_mem_append.mpr ⟨hcompleted, ih hnext⟩

end Cursor

/-- The parts of a query are numbers or have no digits. -/
theorem isUnmixed_of_mem_parts {query part : List Char} (hpart : part ∈ parts query) :
    IsUnmixed part := by
  obtain ⟨piece, hpiece, hsplit⟩ := List.mem_flatMap.mp hpart
  have hstart : IsDigitFree (Cursor.start query).piece := List.forall_mem_nil _
  have hunmixed : IsUnmixed piece :=
    Cursor.isUnmixed_of_mem_pieces hstart piece (List.mem_filter.mp hpiece).1
  rcases hunmixed with hnumber | hfree
  · rw [lowerChars_of_isNumber hnumber, splitFormats_of_isNumber hnumber,
      List.mem_singleton] at hsplit
    rw [hsplit]
    exact Or.inl hnumber
  · refine Or.inr fun c hc => Bool.eq_false_iff.mpr fun hdigit => ?_
    have hlower : c ∈ Text.lowerChars piece := by
      rw [← flatten_splitFormats (Text.lowerChars piece)]
      exact List.mem_flatten.mpr ⟨part, hsplit, hc⟩
    have horigin := hfree c (Text.isDigit_mem_of_mem_lowerChars hlower hdigit)
    rw [hdigit] at horigin
    cases horigin

theorem getLast?_ne_of_isNumber {digits : List Char} (hdigits : isNumber digits) :
    digits.getLast? ≠ some 'v' := by
  intro hlast
  have hdigit := (isNumber_iff.mp hdigits).2 'v' (List.mem_of_getLast? hlast)
  revert hdigit
  decide

/-- What a final `v` is taken off has no digits. -/
theorem HasTokenShape.isDigitFree_of_final {before : List Char}
    (hshape : HasTokenShape (before ++ ['v'])) : IsDigitFree (before ++ ['v']) := by
  have hlast : (before ++ ['v']).getLast? = some 'v' := by simp
  generalize before ++ ['v'] = token at hshape hlast
  cases hshape with
  | number hdigits => exact absurd hlast (getLast?_ne_of_isNumber hdigits)
  | version hdigits =>
      rw [List.getLast?_cons_of_ne_nil (isNumber_iff.mp hdigits).1] at hlast
      exact absurd hlast (getLast?_ne_of_isNumber hdigits)
  | scale hdigits => simp at hlast
  | word hfree => exact hfree

theorem HasTokenShape.of_areNotation {a b : List Char} (hjoins : areNotation a b) :
    HasTokenShape (a ++ b) := by
  rcases areNotation_iff.mp hjoins with ⟨rfl, hb⟩ | ⟨ha, rfl⟩
  · exact .version hb
  · exact .scale ha

/-- A token is a number, a version, a scale, or has no digits. -/
theorem hasTokenShape_of_mem_tokenChars {query token : List Char}
    (htoken : token ∈ tokenChars query) : HasTokenShape token := by
  refine Fusion.forall_mem_run (P := HasTokenShape) ?_ ?_ ?_ token htoken
  · intro token before hbefore hshape
    rw [eq_append_of_beforeFinalV? hbefore] at hshape
    obtain ⟨hfree, hv⟩ := List.forall_mem_append.mp hshape.isDigitFree_of_final
    exact ⟨.word hfree, .word hv⟩
  · intro a b hjoins _ _
    exact .of_areNotation hjoins
  · intro part hpart
    rcases isUnmixed_of_mem_parts hpart with hnumber | hfree
    · exact .number hnumber
    · exact .word hfree

/-! ## Format words -/

/-- Whether a text is a format word or has none inside. -/
def IsUncut (text : List Char) : Prop :=
  text ∈ formatWords ∨ ∀ format ∈ formatWords, ¬format <:+: text

/-- No format word is in a text in which none starts, whatever comes after the text. -/
theorem not_isInfix_of_formatWordAt? {text after : List Char}
    (htext : ∀ suffix ≠ [], suffix <:+ text → formatWordAt? (suffix ++ after) = none) :
    ∀ format ∈ formatWords, ¬format <:+: text := by
  rintro format hformat ⟨first, last, rfl⟩
  have hnonempty : format ≠ [] := by
    rintro rfl
    revert hformat
    decide
  have hsuffix : format ++ last <:+ first ++ format ++ last := by
    rw [List.append_assoc]
    exact List.suffix_append _ _
  have hnone := htext (format ++ last) (by simp [hnonempty]) hsuffix
  rw [formatWordAt?, List.find?_eq_none] at hnone
  refine hnone format hformat (List.isPrefixOf_iff_prefix.mpr ?_)
  rw [List.append_assoc]
  exact List.prefix_append _ _

/-- The parts of a text around its format words have none inside, if none starts in what has
been read of the first part. -/
theorem forall_mem_splitFormatsAfter {part cs : List Char}
    (hpart : ∀ suffix ≠ [], suffix <:+ part.reverse → formatWordAt? (suffix ++ cs) = none) :
    ∀ word ∈ splitFormatsAfter part cs, IsUncut word := by
  fun_induction splitFormatsAfter part cs with
  | case1 part => exact List.forall_mem_singleton.mpr (Or.inr (not_isInfix_of_formatWordAt? hpart))
  | case2 part c rest hnone ih =>
      refine ih fun suffix hnonempty hsuffix => ?_
      rw [List.reverse_cons] at hsuffix
      obtain ⟨shorter, rfl, hshorter⟩ := (List.suffix_concat_iff.mp hsuffix).resolve_left hnonempty
      rw [List.append_assoc, List.singleton_append]
      by_cases hempty : shorter = []
      · rw [hempty]
        exact hnone
      · exact hpart shorter hempty hshorter
  | case3 part c rest word hword ih =>
      have hrest : ∀ suffix ≠ [], suffix <:+ ([] : List Char).reverse →
          formatWordAt? (suffix ++ rest.drop (word.length - 1)) = none :=
        fun suffix hnonempty hsuffix => absurd (List.suffix_nil.mp hsuffix) hnonempty
      exact List.forall_mem_cons.mpr ⟨Or.inr (not_isInfix_of_formatWordAt? hpart),
        List.forall_mem_cons.mpr ⟨Or.inl (List.mem_of_find?_eq_some hword), ih hrest⟩⟩

theorem isUncut_of_mem_parts {query part : List Char} (hpart : part ∈ parts query) :
    IsUncut part := by
  obtain ⟨piece, -, hsplit⟩ := List.mem_flatMap.mp hpart
  have hnothing : ∀ suffix ≠ [], suffix <:+ ([] : List Char).reverse →
      formatWordAt? (suffix ++ Text.lowerChars piece) = none :=
    fun suffix hnonempty hsuffix => absurd (List.suffix_nil.mp hsuffix) hnonempty
  exact forall_mem_splitFormatsAfter hnothing part (List.mem_filter.mp hsplit).1

/-- A format word has a letter that no notation has. -/
theorem isUncut_of_areNotation {a b : List Char} (hjoins : areNotation a b) :
    IsUncut (a ++ b) := by
  have hletters : ∀ format ∈ formatWords, format.head?.any fun c =>
      isDigit c = false ∧ c ≠ 'v' ∧ c ≠ 'x' := by
    decide
  have hchars : ∀ c ∈ a ++ b, isDigit c ∨ c = 'v' ∨ c = 'x' := by
    rw [List.forall_mem_append]
    rcases areNotation_iff.mp hjoins with ⟨rfl, hb⟩ | ⟨ha, rfl⟩
    · exact ⟨by simp, fun c hc => Or.inl ((isNumber_iff.mp hb).2 c hc)⟩
    · exact ⟨fun c hc => Or.inl ((isNumber_iff.mp ha).2 c hc), by simp⟩
  refine Or.inr fun format hformat hoccurs => ?_
  obtain ⟨c, hc, hclasses⟩ := (Option.any_eq_true _ _).mp (hletters format hformat)
  obtain ⟨hdigit, hv, hx⟩ := of_decide_eq_true hclasses
  rcases hchars c (hoccurs.subset (List.mem_of_head? hc)) with hd | hcv | hcx
  · rw [hdigit] at hd
    cases hd
  · exact hv hcv
  · exact hx hcx

/-- A token is a format word or has none inside. -/
theorem isUncut_of_mem_tokenChars {query token : List Char} (htoken : token ∈ tokenChars query) :
    IsUncut token := by
  refine Fusion.forall_mem_run (P := IsUncut) ?_ ?_ ?_ token htoken
  · intro token before hbefore huncut
    rw [eq_append_of_beforeFinalV? hbefore] at huncut
    -- no format word ends in a `v`
    have hlast : ∀ format ∈ formatWords, format.getLast? ≠ some 'v' := by decide
    have hnone : ∀ format ∈ formatWords, ¬format <:+: before ++ ['v'] :=
      huncut.resolve_left fun hformat => hlast _ hformat (by simp)
    refine ⟨Or.inr fun format hformat hoccurs => ?_, Or.inr (by decide)⟩
    exact hnone format hformat (hoccurs.trans (List.prefix_append _ _).isInfix)
  · intro a b hjoins _ _
    exact isUncut_of_areNotation hjoins
  · intro part hpart
    exact isUncut_of_mem_parts hpart

theorem IsUncut.eq_of_isInfix {text : List Char} (huncut : IsUncut text) :
    ∀ format ∈ formatWords, format <:+: text → format = text := by
  have hapart : ∀ text ∈ formatWords, ∀ format ∈ formatWords, format <:+: text → format = text := by
    decide
  rcases huncut with hformat | hnone
  · exact hapart text hformat
  · exact fun format hformat hoccurs => absurd hoccurs (hnone format hformat)

/-! ## Tokens -/

/-- What every token of a query is like. -/
structure IsToken (token : String) : Prop where
  nonempty : token ≠ ""
  lowercase : Text.lower token = token
  separates_nothing : ∀ c ∈ token.toList, isSeparator c = false
  shape : HasTokenShape token.toList
  formats : ∀ format ∈ formatWords, format <:+: token.toList → format = token.toList

/-- **The grammar of tokens.**  The tokens of any query are nonempty texts in lowercase without
separators.  Each of them is a number, a version, a scale, or has no digits, and has a format
word in it only if it is that word. -/
theorem isToken_of_mem_tokens (query : String) : ∀ token ∈ tokens query, IsToken token := by
  intro token htoken
  obtain ⟨chars, hchars, rfl⟩ := List.mem_map.mp htoken
  have hcharacters : ∀ c ∈ chars, lowerChar c = [c] ∧ isSeparator c = false :=
    fun c hc => lowerChar_and_isSeparator_of_mem_tokenChars hchars hc
  refine ⟨ne_empty_of_mem_tokens htoken, ?_, ?_, ?_, ?_⟩
  · rw [Text.lower, String.toList_ofList, lowerChars_eq_self fun c hc => (hcharacters c hc).1]
  · rw [String.toList_ofList]
    exact fun c hc => (hcharacters c hc).2
  · rw [String.toList_ofList]
    exact hasTokenShape_of_mem_tokenChars hchars
  · rw [String.toList_ofList]
    exact (isUncut_of_mem_tokenChars hchars).eq_of_isInfix

/-- Tokens of every shape, with a format word, a dotted capital and a final sigma. -/
theorem isToken_of_mem_tokens_sample :
    tokens "4X-MangaJPEG_dev 2 İΣ 650" = ["4x", "manga", "jpeg", "de", "v2", "i̇ς", "650"] ∧
      IsToken "4x" ∧ IsToken "jpeg" ∧ IsToken "v2" ∧ IsToken "i̇ς" ∧ IsToken "650" := by
  have htokens : tokens "4X-MangaJPEG_dev 2 İΣ 650" =
      ["4x", "manga", "jpeg", "de", "v2", "i̇ς", "650"] := by
    decide +kernel
  have hall := isToken_of_mem_tokens "4X-MangaJPEG_dev 2 İΣ 650"
  rw [htokens] at hall
  exact ⟨htokens, hall _ (by simp), hall _ (by simp), hall _ (by simp), hall _ (by simp),
    hall _ (by simp)⟩

end Query

end FacetSearch
