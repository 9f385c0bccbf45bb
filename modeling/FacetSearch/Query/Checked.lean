import FacetSearch.Query.Token

/-!
# Tokens by checked positions

The tokens of a query can be found by positions as well.  A piece is then what lies between
two positions of the query, a part of a word is what lies between two byte offsets, and the pass
that puts notation together replaces tokens at a position of their list.  Accesses by position
can be out of range, an offset can be inside a character, and a loop over positions need not
end.  Here every access is checked, and a loop may take a limited number of steps only
(`AccessFault`, `runWithin`).

`tokensChecked` finds the tokens of a query in this way.  The walk through a query may take
twice as many steps as the query has characters, and the pass over the tokens twice as many as
there are tokens.
-/

namespace FacetSearch.Query

/-! ## Accesses and loops -/

/-- What can go wrong with positions. -/
inductive AccessFault where
  /-- The positions from `start` up to `stop` are not all in the list. -/
  | outOfRange (start stop : Nat)
  /-- A byte offset is inside a character or beyond the end. -/
  | noCut (offset : Nat)
  /-- There is no position before the first one. -/
  | noPredecessor
  /-- A loop goes on after the steps that it may take. -/
  | tooManySteps
deriving DecidableEq, Repr

section Access

variable {α : Type}

/-- The item at a position. -/
def itemAt (items : List α) (position : Nat) : Except AccessFault α :=
  match items[position]? with
  | some item => .ok item
  | none => .error (.outOfRange position (position + 1))

/-- The items from one position up to another. -/
def slice (items : List α) (start stop : Nat) : Except AccessFault (List α) :=
  if start ≤ stop ∧ stop ≤ items.length then .ok ((items.take stop).drop start)
  else .error (.outOfRange start stop)

/-- The list with `others` in place of the items from one position up to another. -/
def splice (items : List α) (start stop : Nat) (others : List α) :
    Except AccessFault (List α) :=
  if start ≤ stop ∧ stop ≤ items.length then .ok (items.take start ++ others ++ items.drop stop)
  else .error (.outOfRange start stop)

/-- The position before another one. -/
def predecessor : Nat → Except AccessFault Nat
  | 0 => .error .noPredecessor
  | position + 1 => .ok position

/-- The characters from one byte offset up to another. -/
def byteSlice (text : List Char) (start stop : Nat) : Except AccessFault (List Char) :=
  match Text.Cut.at? text stop with
  | none => .error (.noCut stop)
  | some upTo =>
      match Text.Cut.at? upTo.before.reverse start with
      | none => .error (.noCut start)
      | some onwards => .ok onwards.after

/-- The state in which a loop ends, if it does so after `limit` steps at most. -/
def runWithin (step : α → Except AccessFault (Option α)) :
    (limit : Nat) → α → Except AccessFault α
  | 0, state =>
      (step state).bind fun
        | none => .ok state
        | some _ => .error .tooManySteps
  | limit + 1, state =>
      (step state).bind fun
        | none => .ok state
        | some next => runWithin step limit next

end Access

/-! ## Breaks -/

/-- The first position from `position` on that is not in a run of characters, or the one after
the end of the query. -/
def runStop (chars : List Char) (inRun : Char → Bool) (position : Nat) : Except AccessFault Nat :=
  runWithin
    (fun i =>
      if i < chars.length then
        (itemAt chars i).map fun c => if inRun c then some (i + 1) else none
      else .ok none)
    (chars.length - position) position

/-- The position after the capitals that start with `c`, without one that starts a word.  If `c`
is no capital, this is the position after `c`. -/
def acronymStop (chars : List Char) (c : Char) (position : Nat) : Except AccessFault Nat :=
  if isCapital c then
    runWithin
      (fun i =>
        if chars[i]?.any isCapital && !chars[i + 1]?.any isSmall then .ok (some (i + 1))
        else .ok none)
      (chars.length - (position + 1)) (position + 1)
  else .ok (position + 1)

/-- The end of a piece, by positions. -/
structure PlacedBreak where
  /-- The position at which the break ends. -/
  stop : Nat
  /-- Where the characters are that the break keeps as a piece of their own. -/
  kept : Option (Nat × Nat)
deriving DecidableEq, Repr

/-- The break at a position of a query, if one of the rules applies. -/
def breakAtPosition (chars : List Char) (position : Nat) :
    Except AccessFault (Option PlacedBreak) :=
  match chars[position]? with
  | none => .ok none
  | some c =>
      let next := chars[position + 1]?
      let previous := if position = 0 then none else chars[position - 1]?
      if isSeparator c then do
        let stop ← runStop chars isSeparator position
        return some ⟨stop, none⟩
      else if isUppercase c && next.any isLowercase then
        return some ⟨position, none⟩
      else if (c == 'v' || c == 'V') && next.any isDigit then
        return some ⟨position + 1, some (position, position + 1)⟩
      else if isDigit c then do
        let stop ← runStop chars isDigit position
        return some ⟨stop, some (position, stop)⟩
      else do
        let stop ← acronymStop chars c position
        if position + 1 < stop then
          return some ⟨stop, some (position, stop)⟩
        else if previous.any isAsciiWord != isAsciiWord c then
          return some ⟨position, none⟩
        else
          return none

/-! ## The walk through a query -/

/-- A place in the walk through a query, by positions. -/
structure Scan where
  /-- Where the open piece starts. -/
  opened : Nat
  /-- Where the walk is. -/
  position : Nat
  /-- The pieces that are completed. -/
  completed : List (List Char)
deriving DecidableEq, Repr

namespace Scan

/-- The start of a walk. -/
def start : Scan :=
  ⟨0, 0, []⟩

/-- The walk one character further on. -/
def advance (scan : Scan) : Scan :=
  { scan with position := scan.position + 1 }

/-- The pieces that a break keeps: the characters between two positions, or nothing. -/
def keptPieces (chars : List Char) : Option (Nat × Nat) → Except AccessFault (List (List Char))
  | none => .ok []
  | some (first, stop) => (slice chars first stop).map fun run => [run]

/-- The walk after a break, with no piece open. -/
def close (chars : List Char) (scan : Scan) (found : PlacedBreak) : Except AccessFault Scan := do
  let piece ← slice chars scan.opened scan.position
  let kept ← keptPieces chars found.kept
  return ⟨found.stop, found.stop, scan.completed ++ piece :: kept⟩

/-- One step of the walk.  At the end of the query there is none. -/
def step (chars : List Char) (scan : Scan) : Except AccessFault (Option Scan) :=
  if scan.position < chars.length then do
    match ← breakAtPosition chars scan.position with
    | none => return some scan.advance
    | some found =>
        if found.stop = scan.opened then return some scan.advance
        else
          let next ← scan.close chars found
          return some next
  else return none

/-- The pieces at the end of the walk, with the one that is still open. -/
def pieces (chars : List Char) (scan : Scan) : Except AccessFault (List (List Char)) :=
  (slice chars scan.opened chars.length).map fun piece => scan.completed ++ [piece]

end Scan

/-- The pieces of a query, if the walk takes no more steps than `limit`. -/
def piecesWithin (limit : Nat) (chars : List Char) : Except AccessFault (List (List Char)) :=
  (runWithin (Scan.step chars) limit Scan.start).bind (Scan.pieces chars)

/-! ## Format words -/

/-- Where the format words of a text are, from the first byte of each up to the byte after its
last one, when the text starts at a byte offset. -/
def formatRanges (offset : Nat) : (cs : List Char) → List (Nat × Nat)
  | [] => []
  | c :: rest =>
      match formatWordAt? (c :: rest) with
      | none => formatRanges (offset + c.utf8Size) rest
      | some word =>
          (offset, offset + Text.byteLength word) ::
            formatRanges (offset + Text.byteLength word) (rest.drop (word.length - 1))
termination_by cs => cs.length

/-- The parts of a word in and between some ranges, from a byte offset on. -/
def partsAround (word : List Char) : (offset : Nat) → (ranges : List (Nat × Nat)) →
    Except AccessFault (List (List Char))
  | offset, [] => (byteSlice word offset (Text.byteLength word)).map fun part => [part]
  | offset, (first, stop) :: more => do
      let part ← byteSlice word offset first
      let found ← byteSlice word first stop
      let later ← partsAround word stop more
      return part :: found :: later

/-- The parts of a word around its format words, and these words themselves, by byte offsets. -/
def splitFormatsChecked (word : List Char) : Except AccessFault (List (List Char)) :=
  (partsAround word 0 (formatRanges 0 word)).map fun parts => parts.filter (· ≠ [])

/-! ## Notation -/

/-- A place in the pass over the tokens, by positions. -/
structure Repair where
  /-- The position of the second of the two tokens to be looked at. -/
  position : Nat
  /-- All tokens as they are. -/
  tokens : List (List Char)
deriving DecidableEq, Repr

namespace Repair

/-- The start of the pass. -/
def start (tokens : List (List Char)) : Repair :=
  ⟨1, tokens⟩

/-- Whether a `v` is to be taken off the end of a token, which has more than that, since a
number comes next. -/
def losesFinalV (a b : List Char) : Bool :=
  decide (1 < Text.byteLength a) && a.getLast? == some 'v' && isNumber b

/-- One step of the pass.  When no second token is left there is none. -/
def step (repair : Repair) : Except AccessFault (Option Repair) :=
  if repair.position < repair.tokens.length then do
    let first ← predecessor repair.position
    let a ← itemAt repair.tokens first
    let b ← itemAt repair.tokens repair.position
    if losesFinalV a b then
      let before ← byteSlice a 0 (Text.byteLength a - 1)
      let tokens ← splice repair.tokens first repair.position [before, ['v']]
      return some ⟨repair.position, tokens⟩
    else if areNotation a b then
      let tokens ← splice repair.tokens first (repair.position + 1) [a ++ b]
      return some ⟨repair.position + 1, tokens⟩
    else
      return some ⟨repair.position + 1, repair.tokens⟩
  else
    return none

end Repair

/-- The tokens with version and scale notation put together, if the pass takes no more steps
than `limit`. -/
def fuseWithin (limit : Nat) (tokens : List (List Char)) : Except AccessFault (List (List Char)) :=
  (runWithin Repair.step limit (Repair.start tokens)).map Repair.tokens

/-! ## Tokens -/

/-- The parts of some pieces of a query, with every access checked. -/
def partsChecked (pieces : List (List Char)) : Except AccessFault (List (List Char)) :=
  ((pieces.filter (· ≠ [])).mapM fun piece =>
    splitFormatsChecked (Text.lowerChars piece)).map List.flatten

/-- The tokens of a query, with every access checked and the steps of both loops counted. -/
def tokensChecked (query : String) : Except AccessFault (List String) := do
  let pieces ← piecesWithin (2 * query.toList.length) query.toList
  let parts ← partsChecked pieces
  let tokens ← fuseWithin (2 * parts.length) parts
  return tokens.map String.ofList

end FacetSearch.Query
