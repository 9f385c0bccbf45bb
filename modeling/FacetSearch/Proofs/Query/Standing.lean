import FacetSearch.Proofs.Character.Ascii
import FacetSearch.Proofs.Character.Lowercase
import FacetSearch.Proofs.Query.Conservation

/-!
# Tokens stand in their query

Words stand in a text (`StandIn`) if they follow each other there with nothing but separators
before, between and after them.  The pieces of a query stand in it (`standIn_pieces`), and
so, in lowercase, do the parts that are cut out of them (`standIn_parts`).

The pass that puts notation together keeps this of all that is pending: it takes a `v` off a
word that it stays next to, and it puts two words together that may have separators between
them.  So a token stands in the lowercase form of the query as a whole, or is a notation
that stands there in two parts (`Cites`, `cites_of_mem_tokenChars`).

The lowercase form of a sigma may be another one in a piece than in the query, so all this
is said up to a map of characters that makes no difference where there is one.
-/

namespace FacetSearch.Query

/-! ## Words in a text -/

/-- Whether words follow each other in a text, with only separators around them. -/
inductive StandIn : List (List Char) → List Char → Prop
  | nil {gap : List Char} : (∀ c ∈ gap, isSeparator c) → StandIn [] gap
  | cons {gap word rest : List Char} {words : List (List Char)} :
      (∀ c ∈ gap, isSeparator c) → StandIn words rest →
        StandIn (word :: words) (gap ++ (word ++ rest))

namespace StandIn

variable {words : List (List Char)} {word text : List Char}

theorem of_cons (hstand : StandIn (word :: words) text) :
    ∃ gap rest, (∀ c ∈ gap, isSeparator c) ∧ StandIn words rest ∧ text = gap ++ (word ++ rest) := by
  cases hstand with
  | cons hgap hrest => exact ⟨_, _, hgap, hrest, rfl⟩

/-- A word in front. -/
theorem append_word (hstand : StandIn words text) (word : List Char) :
    StandIn (word :: words) (word ++ text) :=
  .cons (List.forall_mem_nil _) hstand

/-- Separators in front. -/
theorem append_gap (hstand : StandIn words text) {gap : List Char}
    (hgap : ∀ c ∈ gap, isSeparator c) : StandIn words (gap ++ text) := by
  cases hstand with
  | nil hend => exact .nil (List.forall_mem_append.mpr ⟨hgap, hend⟩)
  | cons hinner hrest =>
      rw [← List.append_assoc]
      exact .cons (List.forall_mem_append.mpr ⟨hgap, hinner⟩) hrest

/-- Words in front that follow each other directly. -/
theorem append_words (hstand : StandIn words text) (first : List (List Char)) :
    StandIn (first ++ words) (first.flatten ++ text) := by
  induction first with
  | nil => exact hstand
  | cons word rest ih =>
      rw [List.flatten_cons, List.append_assoc]
      exact ih.append_word word

/-- Empty words do not matter. -/
theorem filter_ne_nil (hstand : StandIn words text) : StandIn (words.filter (· ≠ [])) text := by
  induction hstand with
  | nil hend => exact .nil hend
  | @cons gap word rest words hgap hrest ih =>
      by_cases hword : word = []
      · simpa [hword] using ih.append_gap hgap
      · simpa [hword] using StandIn.cons hgap ih

/-- Every word of a text is a part of it. -/
theorem isInfix_of_mem (hstand : StandIn words text) : ∀ word ∈ words, word <:+: text := by
  induction hstand with
  | nil => exact List.forall_mem_nil _
  | @cons gap word rest words _ _ ih =>
      have hsuffix : word ++ rest <:+ gap ++ (word ++ rest) := List.suffix_append _ _
      refine List.forall_mem_cons.mpr ⟨?_, fun other hother => ?_⟩
      · exact (List.prefix_append _ _).isInfix.trans hsuffix.isInfix
      · exact (ih other hother).trans ((List.suffix_append _ _).trans hsuffix).isInfix

end StandIn

/-! ## Pieces -/

namespace Cursor

/-- A step leaves the text ahead of the cursor as it is, and completes words at its start. -/
theorem standIn_of_step? {cursor next : Cursor} {completed words : List (List Char)}
    (hstep : cursor.step? = some (completed, next))
    (hnext : StandIn words (next.piece.reverse ++ next.ahead)) :
    StandIn (completed ++ words) (cursor.piece.reverse ++ cursor.ahead) := by
  obtain ⟨c, rest, hahead, ⟨rfl, rfl, -⟩ | ⟨found, hfound, -, rfl, rfl⟩⟩ := step?_cases hstep
  · simpa [extend, hahead] using hnext
  · have hafter : StandIn words found.after := hnext
    rw [hahead, ← Break.run_append_after hfound, completed]
    rcases Break.run_cases hfound with ⟨hkept, -⟩ | ⟨hkept, hseparators⟩
    · rw [if_pos hkept]
      exact (hafter.append_word found.run).append_word cursor.piece.reverse
    · rw [if_neg (by simp [hkept])]
      exact (hafter.append_gap hseparators).append_word cursor.piece.reverse

/-- The pieces from a cursor on stand in the open piece and what is ahead. -/
theorem standIn_pieces (cursor : Cursor) :
    StandIn cursor.pieces (cursor.piece.reverse ++ cursor.ahead) := by
  fun_induction pieces cursor with
  | case1 cursor hend =>
      rw [ahead_of_step?_eq_none hend]
      exact (StandIn.nil (List.forall_mem_nil _)).append_word _
  | case2 cursor completed next hstep _ ih => exact standIn_of_step? hstep ih

end Cursor

theorem standIn_pieces (query : List Char) : StandIn (pieces query) query :=
  (Cursor.start query).standIn_pieces

/-! ## Parts -/

/-- Whether a map of characters keeps the separators and makes no difference between the
lowercase forms that a character of a query may have. -/
structure Levels (query : List Char) (level : Char → Char) : Prop where
  separator : ∀ c, isSeparator c → level c = c
  lowerChars : ∀ word, word ⊆ query →
    (Text.lowerChars word).map level = (word.flatMap lowerChar).map level

theorem flatMap_lowerChar_of_separators {gap : List Char} (hgap : ∀ c ∈ gap, isSeparator c) :
    gap.flatMap lowerChar = gap := by
  induction gap with
  | nil => rfl
  | cons c rest ih =>
      obtain ⟨hc, hrest⟩ := List.forall_mem_cons.mp hgap
      rw [List.flatMap_cons, lowerChar_of_isSeparator hc, ih hrest, List.singleton_append]

variable {query : List Char} {level : Char → Char}

theorem Levels.map_separators (hlevel : Levels query level) {gap : List Char}
    (hgap : ∀ c ∈ gap, isSeparator c) : gap.map level = gap := by
  have hsame : gap.map level = gap.map id :=
    List.map_congr_left fun c hc => hlevel.separator c (hgap c hc)
  rw [hsame, List.map_id]

/-- What pieces are cut into stands in their lowercase form. -/
theorem StandIn.flatMap_splitFormats (hlevel : Levels query level) {words : List (List Char)}
    {text : List Char} (hstand : StandIn words text) (hwithin : ∀ word ∈ words, word ⊆ query) :
    StandIn ((words.flatMap fun word => splitFormats (Text.lowerChars word)).map (List.map level))
      ((text.flatMap lowerChar).map level) := by
  induction hstand with
  | nil hgap =>
      rw [flatMap_lowerChar_of_separators hgap, hlevel.map_separators hgap]
      exact .nil hgap
  | @cons gap word rest words hgap hrest ih =>
      obtain ⟨hword, hwords⟩ := List.forall_mem_cons.mp hwithin
      have hparts : ((splitFormats (Text.lowerChars word)).map (List.map level)).flatten =
          (word.flatMap lowerChar).map level := by
        rw [← List.map_flatten, flatten_splitFormats, hlevel.lowerChars word hword]
      have hfirst := (ih hwords).append_words
        ((splitFormats (Text.lowerChars word)).map (List.map level))
      rw [hparts] at hfirst
      simp only [List.flatMap_append, List.map_append, List.flatMap_cons,
        flatMap_lowerChar_of_separators hgap, hlevel.map_separators hgap]
      exact hfirst.append_gap hgap

/-- The parts of a query stand in its lowercase form. -/
theorem standIn_parts (hlevel : Levels query level) :
    StandIn ((parts query).map (List.map level)) ((Text.lowerChars query).map level) := by
  have hpieces := (standIn_pieces query).filter_ne_nil
  rw [hlevel.lowerChars query (List.Subset.refl query)]
  refine hpieces.flatMap_splitFormats hlevel fun word hword => ?_
  exact (hpieces.isInfix_of_mem word hword).subset

/-! ## Tokens -/

/-- Whether a text has a token in it, as a whole or as a notation in two parts. -/
def Cites (level : Char → Char) (text token : List Char) : Prop :=
  token.map level <:+: text ∨
    ∃ a gap b, token = a ++ b ∧ areNotation a b ∧ (∀ c ∈ gap, isSeparator c) ∧
      a.map level ++ (gap ++ b.map level) <:+: text

namespace Fusion

/-- Whether a text has all settled tokens in it and the pending ones stand at its end. -/
def StandsIn (level : Char → Char) (text : List Char) (pass : Fusion) : Prop :=
  (∀ token ∈ pass.settled, Cites level text token) ∧
    ∃ rest, rest <:+ text ∧ StandIn (pass.pending.map (List.map level)) rest

variable {text : List Char} {pass next : Fusion}

theorem standsIn_of_step? (hstep : pass.step? = some next) (hstands : pass.StandsIn level text) :
    next.StandsIn level text := by
  obtain ⟨hsettled, rest, hrest, hpending⟩ := hstands
  obtain ⟨a, b, more, htokens, hcases⟩ := step?_cases hstep
  rw [htokens] at hpending
  obtain ⟨gap, after, hgap, hafter, rfl⟩ := hpending.of_cons
  have ha : a.map level ++ after <:+ text := (List.suffix_append gap _).trans hrest
  rcases hcases with ⟨before, hbefore, -, rfl⟩ | ⟨-, hnotation, rfl⟩ | ⟨-, -, rfl⟩
  · -- the `v` stays next to the number
    rw [eq_append_of_beforeFinalV? hbefore, List.map_append, List.append_assoc] at ha
    have hshort : before.map level <:+: text :=
      (List.prefix_append _ _).isInfix.trans ha.isInfix
    refine ⟨List.forall_mem_cons.mpr ⟨Or.inl hshort, hsettled⟩, _,
      (List.suffix_append _ _).trans ha, ?_⟩
    exact hafter.append_word _
  · -- separators may stand between the two parts
    obtain ⟨gap', after', hgap', hafter', rfl⟩ := hafter.of_cons
    have hjoined : a.map level ++ (gap' ++ b.map level) <:+: text := by
      refine List.IsInfix.trans ?_ ha.isInfix
      rw [← List.append_assoc, ← List.append_assoc, ← List.append_assoc]
      exact (List.prefix_append _ _).isInfix
    refine ⟨List.forall_mem_cons.mpr
      ⟨Or.inr ⟨a, gap', b, rfl, hnotation, hgap', hjoined⟩, hsettled⟩, after', ?_, hafter'⟩
    rw [← List.append_assoc, ← List.append_assoc] at ha
    exact (List.suffix_append _ _).trans ha
  · have hwhole : a.map level <:+: text := (List.prefix_append _ _).isInfix.trans ha.isInfix
    exact ⟨List.forall_mem_cons.mpr ⟨Or.inl hwhole, hsettled⟩, after,
      (List.suffix_append _ _).trans ha, hafter⟩

theorem cites_of_mem_run (hstands : pass.StandsIn level text) :
    ∀ token ∈ pass.run, Cites level text token := by
  fun_induction run pass with
  | case1 pass hend =>
      obtain ⟨hsettled, rest, hrest, hpending⟩ := hstands
      refine List.forall_mem_append.mpr ⟨?_, fun token htoken => Or.inl ?_⟩
      · simpa using hsettled
      · have hmapped := List.mem_map_of_mem (f := List.map level) htoken
        exact (hpending.isInfix_of_mem _ hmapped).trans hrest.isInfix
  | case2 pass next hstep _ ih => exact ih (standsIn_of_step? hstep hstands)

end Fusion

/-- The lowercase form of a query has its tokens in it, each as a whole or as a notation in
two parts. -/
theorem cites_of_mem_tokenChars (hlevel : Levels query level) {token : List Char}
    (htoken : token ∈ tokenChars query) :
    Cites level ((Text.lowerChars query).map level) token := by
  have hstart : Fusion.StandsIn level ((Text.lowerChars query).map level) ⟨[], parts query⟩ :=
    ⟨List.forall_mem_nil _, _, List.suffix_rfl, standIn_parts hlevel⟩
  exact Fusion.cites_of_mem_run hstart token htoken

/-! ## Sigmas -/

/-- Without a capital sigma in it, a query has one lowercase form. -/
theorem levels_id (hsigma : 'Σ' ∉ query) : Levels query id where
  separator _ _ := rfl
  lowerChars word hword := by
    rw [Text.lowerChars_eq_flatMap fun hmem => hsigma (hword hmem)]

theorem levels_mergeSigma (query : List Char) : Levels query Text.mergeSigma where
  separator c hc := by
    have hfinal : c ≠ 'ς' := by
      rintro rfl
      revert hc
      decide
    rw [Text.mergeSigma, if_neg hfinal]
  lowerChars word _ := Text.map_mergeSigma_lowerChars word

/-- What stands in a mapped text is the image of something in the text. -/
theorem exists_of_isInfix_map {f : Char → Char} {word text : List Char}
    (hcontained : word <:+: text.map f) : ∃ other, other.map f = word ∧ other <:+: text := by
  obtain ⟨first, last, hsplit⟩ := hcontained
  obtain ⟨front, back, rfl, hfront, -⟩ := List.map_eq_append_iff.mp hsplit.symm
  obtain ⟨before, other, rfl, -, hother⟩ := List.map_eq_append_iff.mp hfront
  exact ⟨other, hother, before, back, rfl⟩

/-- A word without sigmas has one form. -/
theorem eq_of_map_mergeSigma_eq {word other : List Char} (hplain : ∀ c ∈ word, c ≠ 'σ' ∧ c ≠ 'ς')
    (hsame : other.map Text.mergeSigma = word.map Text.mergeSigma) : other = word := by
  induction word generalizing other with
  | nil => exact List.map_eq_nil_iff.mp hsame
  | cons c rest ih =>
      obtain ⟨hc, hrest⟩ := List.forall_mem_cons.mp hplain
      rw [List.map_cons] at hsame
      obtain ⟨d, more, rfl, hd, hmore⟩ := List.map_eq_cons_iff.mp hsame
      rw [Text.eq_of_mergeSigma_eq hc hd, ih hrest hmore]

/-- Digits, `v` and `x` make up a notation. -/
theorem plain_of_areNotation {a b : List Char} (hjoined : areNotation a b) :
    ∀ c ∈ a ++ b, c ≠ 'σ' ∧ c ≠ 'ς' := by
  have hdigit : ∀ {c : Char}, isDigit c → c ≠ 'σ' ∧ c ≠ 'ς' := by
    intro c hc
    constructor <;> rintro rfl <;> revert hc <;> decide
  have hnumber : ∀ {token}, isNumber token → ∀ c ∈ token, c ≠ 'σ' ∧ c ≠ 'ς' := by
    intro token htoken c hc
    rw [isNumber, Bool.and_eq_true, List.all_eq_true] at htoken
    exact hdigit (htoken.2 c hc)
  rw [List.forall_mem_append]
  rcases areNotation_iff.mp hjoined with ⟨rfl, hb⟩ | ⟨ha, rfl⟩
  · exact ⟨List.forall_mem_singleton.mpr (by decide), hnumber hb⟩
  · exact ⟨hnumber ha, List.forall_mem_singleton.mpr (by decide)⟩

theorem plain_of_isSeparator {c : Char} (hc : isSeparator c) : c ≠ 'σ' ∧ c ≠ 'ς' := by
  constructor <;> rintro rfl <;> revert hc <;> decide

/-- A token stands in the lowercase form of its query as a whole, up to the form of sigmas if
the query has a capital one, or it is a notation that stands there in two parts. -/
theorem stands_of_mem_tokenChars {token : List Char} (htoken : token ∈ tokenChars query) :
    token <:+: Text.lowerChars query ∨
      ('Σ' ∈ query ∧ ∃ other, other.map Text.mergeSigma = token.map Text.mergeSigma ∧
        other <:+: Text.lowerChars query) ∨
      ∃ a gap b, token = a ++ b ∧ areNotation a b ∧ (∀ c ∈ gap, isSeparator c) ∧
        a ++ (gap ++ b) <:+: Text.lowerChars query := by
  by_cases hcapital : 'Σ' ∈ query
  · rcases cites_of_mem_tokenChars (levels_mergeSigma query) htoken with
      hwhole | ⟨a, gap, b, rfl, hnotation, hgap, hparts⟩
    · exact Or.inr (Or.inl ⟨hcapital, exists_of_isInfix_map hwhole⟩)
    · rw [← (levels_mergeSigma query).map_separators hgap, ← List.map_append, ← List.map_append]
        at hparts
      obtain ⟨other, hsame, hother⟩ := exists_of_isInfix_map hparts
      obtain ⟨ha, hb⟩ := List.forall_mem_append.mp (plain_of_areNotation hnotation)
      have hplain : ∀ c ∈ a ++ (gap ++ b), c ≠ 'σ' ∧ c ≠ 'ς' :=
        List.forall_mem_append.mpr
          ⟨ha, List.forall_mem_append.mpr ⟨fun c hc => plain_of_isSeparator (hgap c hc), hb⟩⟩
      rw [eq_of_map_mergeSigma_eq hplain hsame] at hother
      exact Or.inr (Or.inr ⟨a, gap, b, rfl, hnotation, hgap, hother⟩)
  · rcases cites_of_mem_tokenChars (levels_id hcapital) htoken with
      hwhole | ⟨a, gap, b, rfl, hnotation, hgap, hparts⟩
    · exact Or.inl (by simpa using hwhole)
    · exact Or.inr (Or.inr ⟨a, gap, b, rfl, hnotation, hgap, by simpa using hparts⟩)

end FacetSearch.Query
