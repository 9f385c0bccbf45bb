import FacetSearch.Text.WordStart

/-!
# Occurrences of a word in a text

`occurrences` lists the places at which a word occurs in a text as a literal
substring, from left to right.  An occurrence that overlaps the one reported
before it is passed over, and the empty word occurs nowhere.
-/

namespace FacetSearch.Text

/-- The occurrences of `word` in `after`, not counting those that start among
its first `covered` characters, which an earlier occurrence takes up. -/
def occurrencesAfter (word : List Char) (covered : Nat) (before : List Char) :
    (after : List Char) → List Cut
  | [] => []
  | c :: rest =>
      if covered = 0 && word.isPrefixOf (c :: rest) then
        ⟨before, c :: rest⟩ :: occurrencesAfter word (word.length - 1) (c :: before) rest
      else
        occurrencesAfter word (covered - 1) (c :: before) rest

/-- The places at which a word occurs in a text, without overlaps, from left to
right. -/
def occurrences (word text : List Char) : List Cut :=
  if word = [] then [] else occurrencesAfter word 0 [] text

end FacetSearch.Text
