import FacetSearch.Character.Printable

/-!
# Quoted text

A quoted text stands between double quotes.  The quote and the backslash are
written after a backslash, and so are letters that stand for line ends, tabs and
the null character.  Characters that are unprintable, or that would merge with
the one before them, are written by their code points, as in `\u{301}`.
-/

namespace FacetSearch.Text

/-- The escaped form of a character inside a quoted text. -/
def escapeChar (c : Char) : List Char :=
  if c = '\x00' then ['\\', '0']
  else if c = '\t' then ['\\', 't']
  else if c = '\r' then ['\\', 'r']
  else if c = '\n' then ['\\', 'n']
  else if c = '"' then ['\\', '"']
  else if c = '\\' then ['\\', '\\']
  else if isGraphemeExtend c || !isPrintable c then
    ['\\', 'u', '{'] ++ Nat.toDigits 16 c.toNat ++ ['}']
  else [c]

/-- The quoted form of a text, as characters. -/
def quotedChars (text : List Char) : List Char :=
  '"' :: text.flatMap escapeChar ++ ['"']

/-- The quoted form of a text. -/
def quoted (text : String) : String :=
  String.ofList (quotedChars text.toList)

end FacetSearch.Text
