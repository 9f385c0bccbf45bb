import FacetSearch.Character.LetterCase
import FacetSearch.Character.CaseIgnorable
import FacetSearch.Character.LowerMapping

/-!
# Lowercase text

Every character of a text is replaced by its lowercase form.  The form depends
on the surroundings for one character only: a capital sigma `Σ` becomes `ς` at
the end of a cased word and `σ` elsewhere.

A walk through the text keeps the characters already passed in reverse order, so
that both neighbours of the current character are at the head of a list.
-/

namespace FacetSearch.Text

/-- Whether the first character that casing does not look through is cased. -/
def startsCased (cs : List Char) : Bool :=
  (cs.dropWhile isCaseIgnorable).head?.any isCased

/-- Whether a capital sigma between two stretches of text ends a word: a cased
character is before it, and none is after it.  The text before is in reverse. -/
def isFinalSigma (before after : List Char) : Bool :=
  startsCased before && !startsCased after

/-- The lowercase form of a character with the text around it. -/
def lowerBetween (before : List Char) (c : Char) (after : List Char) : List Char :=
  if c = 'Σ' then [if isFinalSigma before after then 'ς' else 'σ'] else lowerChar c

/-- The lowercase form of a text that follows the characters `before`. -/
def lowerAfter (before : List Char) : List Char → List Char
  | [] => []
  | c :: after => lowerBetween before c after ++ lowerAfter (c :: before) after

/-- The lowercase form of a text, as characters. -/
def lowerChars (cs : List Char) : List Char :=
  lowerAfter [] cs

/-- The lowercase form of a text. -/
def lower (text : String) : String :=
  String.ofList (lowerChars text.toList)

end FacetSearch.Text
