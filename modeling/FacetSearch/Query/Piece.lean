import FacetSearch.Text.WordStart

/-!
# Cutting a query into pieces

A query such as `4x-AnimeUndeint-V2` is cut where its words meet.  The rules, of
which the first that applies wins, look at the next character of the query:

* a run of separators ends a piece and is dropped;
* a piece ends before an uppercase letter that a lowercase one follows;
* `v` or `V` before a digit is a piece of its own, and so is a run of digits;
* a run of two or more capitals is a piece of its own.  It stops before a
  capital that starts a word, that is, one with a small letter after it;
* a piece ends where ASCII word characters and others meet.

The walk is a `Cursor` that moves through the query in single steps.  A break
that takes up no characters ends the open piece and leaves the cursor where it
is; with no piece open there is nothing to end, and the character at the cursor
opens the next piece.  `Cursor.step?_weight_lt` shows that every step gets
closer to the end of the query.
-/

namespace FacetSearch.Query

/-! ## Breaks -/

/-- The end of a piece. -/
structure Break where
  /-- The characters that the break takes up. -/
  run : List Char
  /-- Whether these characters are a piece of their own. -/
  kept : Bool
  /-- The characters after the break. -/
  after : List Char
deriving DecidableEq, Repr

/-- Whether a character belongs to an ASCII word: letters, digits and the
underscore. -/
def isAsciiWord (c : Char) : Bool :=
  isCapital c || isSmall c || isDigit c || c == '_'

/-- The capitals at the start of a text, up to one with a small letter after
it. -/
def capitalRun : List Char → List Char
  | [] => []
  | c :: rest =>
      if isCapital c && !rest.head?.any isSmall then c :: capitalRun rest else []

/-- The break at the character `c`, which has `previous` before it and `rest`
after it, if one of the rules applies. -/
def breakAt? (previous : Option Char) (c : Char) (rest : List Char) : Option Break :=
  if isSeparator c then
    some ⟨c :: rest.takeWhile isSeparator, false, rest.dropWhile isSeparator⟩
  else if isUppercase c && rest.head?.any isLowercase then
    some ⟨[], false, c :: rest⟩
  else if (c == 'v' || c == 'V') && rest.head?.any isDigit then
    some ⟨[c], true, rest⟩
  else if isDigit c then
    some ⟨c :: rest.takeWhile isDigit, true, rest.dropWhile isDigit⟩
  else if isCapital c && capitalRun rest != [] then
    some ⟨c :: capitalRun rest, true, rest.drop (capitalRun rest).length⟩
  else if previous.any isAsciiWord != isAsciiWord c then
    some ⟨[], false, c :: rest⟩
  else
    none

theorem capitalRun_append_drop (cs : List Char) :
    capitalRun cs ++ cs.drop (capitalRun cs).length = cs := by
  induction cs with
  | nil => rfl
  | cons c rest ih =>
      unfold capitalRun
      split
      · simpa using ih
      · rfl

/-- A break divides the text at the cursor and loses none of it. -/
theorem Break.run_append_after {previous : Option Char} {c : Char} {rest : List Char}
    {found : Break} (hfound : breakAt? previous c rest = some found) :
    found.run ++ found.after = c :: rest := by
  unfold breakAt? at hfound
  split at hfound
  case isTrue => cases hfound; simp
  split at hfound
  case isTrue => cases hfound; simp
  split at hfound
  case isTrue => cases hfound; simp
  split at hfound
  case isTrue => cases hfound; simp
  split at hfound
  case isTrue => cases hfound; simp [capitalRun_append_drop]
  split at hfound
  case isTrue => cases hfound; simp
  case isFalse => cases hfound

/-! ## The walk -/

/-- A place in the walk through a query.  The two stretches before the place are
in reverse. -/
structure Cursor where
  /-- The characters before the open piece, last one first. -/
  passed : List Char
  /-- The open piece, last character first. -/
  piece : List Char
  /-- The characters still ahead. -/
  ahead : List Char
deriving DecidableEq, Repr

namespace Cursor

/-- The start of a walk. -/
def start (query : List Char) : Cursor :=
  ⟨[], [], query⟩

/-- The whole query. -/
def text (cursor : Cursor) : List Char :=
  (cursor.piece ++ cursor.passed).reverse ++ cursor.ahead

/-- The character before the cursor. -/
def previous (cursor : Cursor) : Option Char :=
  (cursor.piece ++ cursor.passed).head?

/-- The cursor with the next character taken into the open piece. -/
def extend (cursor : Cursor) (c : Char) (rest : List Char) : Cursor :=
  { cursor with piece := c :: cursor.piece, ahead := rest }

/-- The cursor after a break, with no piece open. -/
def resume (cursor : Cursor) (found : Break) : Cursor :=
  ⟨found.run.reverse ++ (cursor.piece ++ cursor.passed), [], found.after⟩

/-- The pieces that a break completes. -/
def completed (cursor : Cursor) (found : Break) : List (List Char) :=
  cursor.piece.reverse :: if found.kept then [found.run] else []

/-- One step of the walk: the pieces that it completes and the cursor after it.
At the end of the query there is none. -/
def step? (cursor : Cursor) : Option (List (List Char) × Cursor) :=
  match cursor.ahead with
  | [] => none
  | c :: rest =>
      match breakAt? cursor.previous c rest with
      | none => some ([], cursor.extend c rest)
      | some found =>
          if found.run = [] ∧ cursor.piece = [] then some ([], cursor.extend c rest)
          else some (cursor.completed found, cursor.resume found)

/-- Twice the number of characters ahead, and one more if a piece is open. -/
def weight (cursor : Cursor) : Nat :=
  2 * cursor.ahead.length + if cursor.piece = [] then 0 else 1

/-- Taking the next character into the open piece lowers the weight. -/
theorem weight_extend_lt {cursor : Cursor} {c : Char} {rest : List Char}
    (hahead : cursor.ahead = c :: rest) : (cursor.extend c rest).weight < cursor.weight := by
  simp only [weight, extend, hahead, List.length_cons, reduceCtorEq, if_false]
  omega

/-- A break lowers the weight if it takes up characters or ends an open piece. -/
theorem weight_resume_lt {cursor : Cursor} {found : Break} {c : Char} {rest : List Char}
    (hahead : cursor.ahead = c :: rest) (hfound : breakAt? cursor.previous c rest = some found)
    (hopen : ¬(found.run = [] ∧ cursor.piece = [])) :
    (cursor.resume found).weight < cursor.weight := by
  have hlength := congrArg List.length (Break.run_append_after hfound)
  simp only [List.length_append, List.length_cons] at hlength
  simp only [weight, resume, hahead, List.length_cons, if_true]
  by_cases hpiece : cursor.piece = []
  · have : 0 < found.run.length :=
      List.length_pos_iff.mpr fun hrun => hopen ⟨hrun, hpiece⟩
    omega
  · rw [if_neg hpiece]
    omega

/-- Every step of the walk lowers the weight of the cursor. -/
theorem step?_weight_lt {cursor next : Cursor} {pieces : List (List Char)}
    (hstep : cursor.step? = some (pieces, next)) : next.weight < cursor.weight := by
  unfold step? at hstep
  split at hstep
  case h_1 => simp at hstep
  case h_2 c rest hahead =>
    split at hstep
    case h_1 =>
      cases hstep
      exact weight_extend_lt hahead
    case h_2 found hfound =>
      split at hstep
      case isTrue =>
        cases hstep
        exact weight_extend_lt hahead
      case isFalse hopen =>
        cases hstep
        exact weight_resume_lt hahead hfound hopen

/-- The pieces that the walk completes from here to the end of the query.  The
piece still open at the end is the last of them. -/
def pieces (cursor : Cursor) : List (List Char) :=
  match hstep : cursor.step? with
  | none => [cursor.piece.reverse]
  | some (completed, next) =>
      have : next.weight < cursor.weight := step?_weight_lt hstep
      completed ++ next.pieces
termination_by cursor.weight

end Cursor

/-- The pieces of a query, in order.  Some may be empty. -/
def pieces (query : List Char) : List (List Char) :=
  (Cursor.start query).pieces

end FacetSearch.Query
