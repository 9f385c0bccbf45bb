import FacetSearch.Character.Alphabetic
import FacetSearch.Character.Numeric
import FacetSearch.Character.LetterCase
import FacetSearch.Character.Blank
import FacetSearch.Character.Punctuation

/-!
# Places in a text and where words start

A `Cut` is a place between two characters of a text: what is before it, in
reverse, and what is after it.  Its `offset` is the number of bytes before it in
the UTF-8 form of the text, and `Cut.at?` finds the cut at an offset, if that
offset does not fall inside a character.

`Cut.startsWord` says whether a word naturally starts at a cut.  Both ends of
the text count.  In between, the characters to either side decide, and for the
change from capitals to a word also the one after them: `VHSFix` has a word
starting at `F`.
-/

namespace FacetSearch

/-! ## Character classes of words -/

/-- Whether a character separates words: blanks, punctuation and the plus sign. -/
def isSeparator (c : Char) : Bool :=
  isBlank c || isPunctuation c || c == '+'

/-- Whether a character is part of a word: letters, numbers and the underscore. -/
def isWordChar (c : Char) : Bool :=
  isAlphabetic c || isNumeric c || c == '_'

namespace Text

/-! ## Cuts -/

/-- A place in a text. -/
structure Cut where
  /-- The characters before the place, last one first. -/
  before : List Char
  /-- The characters after the place. -/
  after : List Char
deriving DecidableEq, Repr

/-- The number of bytes in the UTF-8 form of a text. -/
def byteLength : List Char → Nat
  | [] => 0
  | c :: rest => c.utf8Size + byteLength rest

namespace Cut

/-- The number of bytes before a cut. -/
def offset (cut : Cut) : Nat :=
  byteLength cut.before

/-- The cut that is `distance` bytes into the text after `before`, if there is
one. -/
def ahead? (before : List Char) : (after : List Char) → (distance : Nat) → Option Cut
  | after, 0 => some ⟨before, after⟩
  | [], _ + 1 => none
  | c :: after, distance =>
      if c.utf8Size ≤ distance then ahead? (c :: before) after (distance - c.utf8Size) else none

/-- The cut of a text at a byte offset, if the offset is neither inside a
character nor beyond the end. -/
def at? (text : List Char) (offset : Nat) : Option Cut :=
  ahead? [] text offset

/-! ## Word starts -/

/-- Whether a word starts between two characters, the second of which may have
another one after it. -/
def wordStartsBetween (previous current : Char) (next : Option Char) : Bool :=
  isWordChar previous != isWordChar current
    || isSeparator current
    || (isUppercase current && next.any isLowercase)
    || isSeparator previous
    || isAlphabetic previous != isAlphabetic current
    || isDigit previous != isDigit current
    || (isCapital previous && isCapital current && next.any isSmall)

/-- Whether a word naturally starts at a cut. -/
def startsWord : Cut → Bool
  | ⟨[], _⟩ => true
  | ⟨_, []⟩ => true
  | ⟨previous :: _, current :: rest⟩ => wordStartsBetween previous current rest.head?

end Cut

/-- Whether a word naturally starts at a byte offset of a text. -/
def startsWordAt (text : String) (offset : Nat) : Bool :=
  (Cut.at? text.toList offset).any Cut.startsWord

end Text

end FacetSearch
