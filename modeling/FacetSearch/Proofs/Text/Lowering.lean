import FacetSearch.Text.Lowering
import Mathlib.Data.List.Infix

/-!
# Lowercase of joined texts

The lowercase form of a capital sigma depends on the characters around it, up to the
first to either side that casing does not look through.  A character that ends this search
and is not cased itself cuts a text in two: what stands on one side of it has no influence
on the other (`lowerChars_append_cons`).  So texts that are joined by such a character are
put into lowercase one by one (`lowerChars_intercalate`), and a word without it stands in
the joined text if and only if it stands in one of them (`infix_intercalate_iff`).
-/

namespace FacetSearch.Text

/-! ## Characters that end the search for a cased one -/

/-- Whether a character says that no cased one stands there: casing does not look through
it, and it is not cased. -/
def EndsCasing (c : Char) : Prop :=
  isCaseIgnorable c = false ∧ isCased c = false

variable {c : Char}

theorem startsCased_append_cons (hends : EndsCasing c) (cs rest : List Char) :
    startsCased (cs ++ c :: rest) = startsCased cs := by
  obtain ⟨hseen, huncased⟩ := hends
  induction cs with
  | nil => simp [startsCased, hseen, huncased]
  | cons d more ih =>
      rw [startsCased, startsCased, List.cons_append, List.dropWhile_cons, List.dropWhile_cons]
      split
      case isTrue => exact ih
      case isFalse => rfl

theorem isFinalSigma_append_cons_left (hends : EndsCasing c) (before far after : List Char) :
    isFinalSigma (before ++ c :: far) after = isFinalSigma before after := by
  rw [isFinalSigma, isFinalSigma, startsCased_append_cons hends]

theorem isFinalSigma_append_cons_right (hends : EndsCasing c) (before after far : List Char) :
    isFinalSigma before (after ++ c :: far) = isFinalSigma before after := by
  rw [isFinalSigma, isFinalSigma, startsCased_append_cons hends]

/-- The capital sigma is cased, so it is not what ends the search. -/
theorem ne_sigma_of_endsCasing (hends : EndsCasing c) : c ≠ 'Σ' := by
  rintro rfl
  obtain ⟨-, huncased⟩ := hends
  revert huncased
  decide

/-- What comes before the cut has no influence on the text after it. -/
theorem lowerAfter_append_cons_left (hends : EndsCasing c) (before far cs : List Char) :
    lowerAfter (before ++ c :: far) cs = lowerAfter before cs := by
  induction cs generalizing before with
  | nil => rfl
  | cons d rest ih =>
      have hrest := ih (d :: before)
      rw [List.cons_append] at hrest
      simp only [lowerAfter, lowerBetween, isFinalSigma_append_cons_left hends, hrest]

/-- What comes after the cut has no influence on the text before it. -/
theorem lowerAfter_append_cons_right (hends : EndsCasing c) (before cs rest : List Char) :
    lowerAfter before (cs ++ c :: rest) =
      lowerAfter before cs ++ (lowerChar c ++ lowerAfter (c :: (cs.reverse ++ before)) rest) := by
  induction cs generalizing before with
  | nil =>
      simp only [List.nil_append, lowerAfter, lowerBetween, if_neg (ne_sigma_of_endsCasing hends),
        List.reverse_nil]
  | cons d more ih =>
      simp only [List.cons_append, lowerAfter, lowerBetween,
        isFinalSigma_append_cons_right hends, ih, List.append_assoc, List.reverse_cons,
        List.nil_append]

/-- A text is put into lowercase on either side of the cut for itself. -/
theorem lowerChars_append_cons (hends : EndsCasing c) (cs rest : List Char) :
    lowerChars (cs ++ c :: rest) = lowerChars cs ++ (lowerChar c ++ lowerChars rest) := by
  have hrest : lowerAfter (c :: (cs.reverse ++ [])) rest = lowerAfter [] rest :=
    lowerAfter_append_cons_left hends [] (cs.reverse ++ []) rest
  rw [lowerChars, lowerAfter_append_cons_right hends, hrest]
  rfl

/-! ## Joined texts -/

/-- Texts joined by a character that stays as it is are put into lowercase one by one. -/
theorem lowerChars_intercalate (hends : EndsCasing c) (hsame : lowerChar c = [c])
    (texts : List (List Char)) :
    lowerChars ([c].intercalate texts) = [c].intercalate (texts.map lowerChars) := by
  match texts with
  | [] => rfl
  | [_] => simp
  | text :: next :: rest =>
      have ih := lowerChars_intercalate hends hsame (next :: rest)
      rw [List.intercalate_cons_cons, List.append_assoc, List.singleton_append,
        lowerChars_append_cons hends, ih, hsame]
      simp only [List.map_cons, List.intercalate_cons_cons, List.append_assoc]

variable {word : List Char}

theorem eq_nil_of_prefix_cons (hword : c ∉ word) {ys : List Char} (hstarts : word <+: c :: ys) :
    word = [] := by
  rcases List.prefix_cons_iff.mp hstarts with hempty | ⟨rest, rfl, -⟩
  · exact hempty
  · exact absurd List.mem_cons_self hword

/-- A word without the character between two texts does not stand across it. -/
theorem infix_append_cons_iff (hword : c ∉ word) {xs ys : List Char} :
    word <:+: xs ++ c :: ys ↔ word <:+: xs ∨ word <:+: ys := by
  constructor
  · intro hinfix
    rcases List.infix_append_iff.mp hinfix with hleft | hright | ⟨first, last, rfl, hends, hstarts⟩
    · exact Or.inl hleft
    · rcases List.infix_cons_iff.mp hright with hstarts | hright
      · rw [eq_nil_of_prefix_cons hword hstarts]
        exact Or.inl List.nil_infix
      · exact Or.inr hright
    · -- the part that stands after the first text would start with the character
      have hlast : c ∉ last := fun hc => hword (List.mem_append_right first hc)
      rw [eq_nil_of_prefix_cons hlast hstarts, List.append_nil]
      exact Or.inl hends.isInfix
  · rintro (hleft | hright)
    · exact hleft.trans (List.prefix_append xs (c :: ys)).isInfix
    · have hcons : word <:+: c :: ys := hright.trans (List.suffix_cons c ys).isInfix
      exact hcons.trans (List.suffix_append xs (c :: ys)).isInfix

/-- A word that is not empty stands in joined texts, if the joining character is not in it,
just when it stands in one of them. -/
theorem infix_intercalate_iff (hnonempty : word ≠ []) (hword : c ∉ word)
    {texts : List (List Char)} :
    word <:+: [c].intercalate texts ↔ ∃ text ∈ texts, word <:+: text := by
  match texts with
  | [] => simpa using hnonempty
  | [_] => simp
  | text :: next :: rest =>
      rw [List.intercalate_cons_cons, List.append_assoc, List.singleton_append,
        infix_append_cons_iff hword, infix_intercalate_iff hnonempty hword]
      exact (List.exists_mem_cons_iff _ _ _).symm

end FacetSearch.Text
