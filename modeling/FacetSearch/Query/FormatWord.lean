/-!
# Format words

Names of image and texture formats hide inside longer words, as in
`mangajpeglq`.  `splitFormats` cuts a word around each of them, from left to
right, and keeps them as parts of their own.
-/

namespace FacetSearch.Query

/-- The format words that are looked for.  None of them starts with another, so
at most one of them is at any place. -/
def formatWords : List (List Char) :=
  [['j', 'p', 'e', 'g'], ['p', 'n', 'g'], ['d', 'd', 's'], ['d', 'x', 't']]

/-- The format word at the start of a text, if there is one. -/
def formatWordAt? (cs : List Char) : Option (List Char) :=
  formatWords.find? (·.isPrefixOf cs)

/-- The parts of a word around its format words, when `part`, in reverse, has
been read of the first of them and `cs` is still to come.  Some may be empty. -/
def splitFormatsAfter (part : List Char) : (cs : List Char) → List (List Char)
  | [] => [part.reverse]
  | c :: rest =>
      match formatWordAt? (c :: rest) with
      | none => splitFormatsAfter (c :: part) rest
      | some word => part.reverse :: word :: splitFormatsAfter [] (rest.drop (word.length - 1))
termination_by cs => cs.length

/-- The parts of a word around its format words, and these words themselves, in
order and without the empty parts. -/
def splitFormats (word : List Char) : List (List Char) :=
  (splitFormatsAfter [] word).filter (· ≠ [])

end FacetSearch.Query
