import FacetSearch.Proofs.Query.Breaks
import FacetSearch.Proofs.Query.Walk
import FacetSearch.Proofs.Text.Separation
import FacetSearch.Query.Checked
import Mathlib.Logic.Relation

/-!
# The walk through a query by positions

The walk by positions is the walk of a `Cursor`.  The open piece starts where the characters
passed end, the walk is where the piece ends, and so both positions are in the query, in this
order, as long as the cursor stays in the same query (`Scan.ofCursor`).  A run of characters is
passed in as many steps as it has characters (`runWithin_run`), and so a break by positions is
the one that the cursor finds, placed behind what has been read (`breakAtPosition_eq`).  Hence
each step of the one walk is a step of the other, with no access out of range
(`Scan.step_ofCursor`).

That loops halt is said once for both (`Progresses`): no step fails, and each leads on to less
weight.  The weight of a cursor is at most twice the number of characters ahead and one more,
and it is exactly twice their number when no piece is open.
-/

namespace FacetSearch.Query

/-! ## Accesses -/

section Access

variable {α : Type}

theorem itemAt_append (before : List α) (item : α) (after : List α) :
    itemAt (before ++ item :: after) before.length = .ok item := by
  simp [itemAt]

theorem getElem?_append_cons_succ (before : List α) (item : α) (after : List α) :
    (before ++ item :: after)[before.length + 1]? = after.head? := by
  simp [List.getElem?_append_right, List.head?_eq_getElem?]

theorem slice_append (before items after : List α) :
    slice (before ++ items ++ after) before.length (before.length + items.length) = .ok items := by
  have hrange : before.length ≤ before.length + items.length ∧
      before.length + items.length ≤ (before ++ items ++ after).length := by
    simp only [List.length_append]
    omega
  rw [slice, if_pos hrange, ← List.length_append, List.take_left, List.drop_left]

theorem splice_append (before items after others : List α) :
    splice (before ++ items ++ after) before.length (before.length + items.length) others =
      .ok (before ++ others ++ after) := by
  have hrange : before.length ≤ before.length + items.length ∧
      before.length + items.length ≤ (before ++ items ++ after).length := by
    simp only [List.length_append]
    omega
  rw [splice, if_pos hrange, ← List.length_append, List.drop_left, List.append_assoc before,
    List.take_left]

theorem byteSlice_append (before part after : List Char) :
    byteSlice (before ++ part ++ after) (Text.byteLength before)
      (Text.byteLength before + Text.byteLength part) = .ok part := by
  have hstop := Text.Cut.ahead?_byteLength [] (before ++ part) after
  have hstart := Text.Cut.ahead?_byteLength [] before part
  rw [Text.byteLength_append] at hstop
  simp only [byteSlice, Text.Cut.at?, hstop, List.append_nil, List.reverse_reverse, hstart]

end Access

/-! ## Loops -/

section Loop

variable {α : Type} {step : α → Except AccessFault (Option α)} {P : Nat → α → Prop}

/-- The states that a loop comes to. -/
def Reaches (step : α → Except AccessFault (Option α)) : α → α → Prop :=
  Relation.ReflTransGen fun state next => step state = .ok (some next)

/-- In a state with the property, a step does not fail.  The state that it leads to, if there
is one, has the property too, with less weight. -/
def Progresses (step : α → Except AccessFault (Option α)) (P : Nat → α → Prop) : Prop :=
  ∀ weight state, P weight state →
    ∃ next, step state = .ok next ∧ ∀ later ∈ next, ∃ less < weight, P less later

/-- A loop that progresses ends after no more steps than its weight. -/
theorem Progresses.runWithin_eq_ok (hprogress : Progresses step P) {weight limit : Nat} {state : α}
    (hle : weight ≤ limit) (hstate : P weight state) :
    ∃ last less, runWithin step limit state = .ok last ∧ P less last ∧ step last = .ok none := by
  induction limit generalizing weight state with
  | zero =>
      obtain ⟨next, hstep, hnext⟩ := hprogress _ _ hstate
      cases next with
      | none => exact ⟨state, weight, by rw [runWithin, hstep]; rfl, hstate, hstep⟩
      | some later =>
          obtain ⟨less, hless, -⟩ := hnext later rfl
          omega
  | succ limit ih =>
      obtain ⟨next, hstep, hnext⟩ := hprogress _ _ hstate
      cases next with
      | none => exact ⟨state, weight, by rw [runWithin, hstep]; rfl, hstate, hstep⟩
      | some later =>
          obtain ⟨less, hless, hlater⟩ := hnext later rfl
          obtain ⟨last, rest, hrun, hlast⟩ := ih (by omega) hlater
          exact ⟨last, rest, by rw [runWithin, hstep]; exact hrun, hlast⟩

/-- All states that a loop comes to have the property. -/
theorem Progresses.exists_of_reaches (hprogress : Progresses step P) {weight : Nat}
    {state later : α} (hstate : P weight state) (hreaches : Reaches step state later) :
    ∃ less, P less later := by
  induction hreaches with
  | refl => exact ⟨weight, hstate⟩
  | tail _ hstep ih =>
      obtain ⟨less, hbefore⟩ := ih
      obtain ⟨next, hnext, hlater⟩ := hprogress _ _ hbefore
      rw [hstep, Except.ok.injEq] at hnext
      obtain ⟨evenLess, -, hafter⟩ := hlater _ hnext.symm
      exact ⟨evenLess, hafter⟩

end Loop

/-! ## Breaks by positions -/

/-- A loop over positions that goes on as long as a run in the text after `before` does ends
behind this run. -/
theorem runWithin_run (chars : List Char) {step : Nat → Except AccessFault (Option Nat)}
    (test : Char → List Char → Bool) {run : List Char → List Char} (hnil : run [] = [])
    (hcons : ∀ c rest, run (c :: rest) = if test c rest then c :: run rest else [])
    (hend : step chars.length = .ok none)
    (hstep : ∀ before c rest, chars = before ++ c :: rest →
      step before.length = .ok (if test c rest then some (before.length + 1) else none))
    {before after : List Char} (hchars : chars = before ++ after) :
    runWithin step after.length before.length = .ok (before.length + (run after).length) := by
  induction after generalizing before with
  | nil =>
      rw [hchars, List.append_nil] at hend
      rw [List.length_nil, runWithin, hend, hnil]
      rfl
  | cons c rest ih =>
      rw [List.length_cons, runWithin, hstep before c rest hchars, hcons]
      cases htest : test c rest with
      | false => rfl
      | true =>
          have hmoved : chars = (before ++ [c]) ++ rest := by
            rw [hchars, List.append_assoc, List.singleton_append]
          have hlater := ih hmoved
          rw [List.length_append, List.length_singleton] at hlater
          rw [if_pos rfl, if_pos rfl, List.length_cons, Nat.add_comm (run rest).length,
            ← Nat.add_assoc]
          exact hlater

theorem runStop_eq (inRun : Char → Bool) (before after : List Char) :
    runStop (before ++ after) inRun before.length =
      .ok (before.length + (after.takeWhile inRun).length) := by
  have hlimit : (before ++ after).length - before.length = after.length := by simp
  rw [runStop, hlimit]
  refine runWithin_run (before ++ after) (fun c _ => inRun c) rfl
    (fun _ _ => List.takeWhile_cons) ?_ ?_ rfl
  · exact if_neg (Nat.lt_irrefl _)
  · intro start c rest hchars
    rw [hchars, if_pos (by simp), itemAt_append]
    rfl

theorem acronymStop_eq (before : List Char) (c : Char) (rest : List Char) :
    acronymStop (before ++ c :: rest) c before.length =
      .ok (before.length + (c :: if isCapital c then capitalRun rest else []).length) := by
  rw [acronymStop]
  split
  case isFalse => rfl
  case isTrue =>
    have hlimit : (before ++ c :: rest).length - (before.length + 1) = rest.length := by
      simp only [List.length_append, List.length_cons]
      omega
    have hbehind : before.length + 1 = (before ++ [c]).length := by simp
    rw [hlimit, List.length_cons, Nat.add_comm (capitalRun rest).length, ← Nat.add_assoc, hbehind]
    refine runWithin_run (before ++ c :: rest)
      (fun c rest => isCapital c && !rest.head?.any isSmall) rfl
      (fun c rest => capitalRun.eq_2 c rest) ?_ ?_ (by simp)
    · rw [List.getElem?_eq_none (Nat.le_refl _)]
      rfl
    · intro start d more hchars
      have hcurrent : (before ++ c :: rest)[start.length]? = some d := by simp [hchars]
      have hnext : (before ++ c :: rest)[start.length + 1]? = more.head? := by
        rw [hchars, getElem?_append_cons_succ]
      rw [hcurrent, hnext, Option.any_some]
      split <;> rfl

/-- A break that is found behind a stretch of text, by positions. -/
def Break.placed (found : Break) (position : Nat) : PlacedBreak :=
  ⟨position + found.run.length,
    if found.kept then some (position, position + found.run.length) else none⟩

/-- The rules find the same break by positions. -/
theorem breakAtPosition_eq (before : List Char) (c : Char) (rest : List Char) :
    breakAtPosition (before ++ c :: rest) before.length =
      .ok ((breakAt? before.getLast? c rest).map (Break.placed · before.length)) := by
  have hcurrent : (before ++ c :: rest)[before.length]? = some c := by simp
  have hprevious : (if before.length = 0 then none
      else (before ++ c :: rest)[before.length - 1]?) = before.getLast? := by
    rcases List.eq_nil_or_concat before with rfl | ⟨start, last, rfl⟩ <;> simp
  simp only [breakAtPosition, hcurrent, getElem?_append_cons_succ, hprevious, runStop_eq,
    acronymStop_eq]
  rw [breakAt?]
  split
  case isTrue hc =>
    rw [List.takeWhile_cons_of_pos hc]
    rfl
  split
  case isTrue => rfl
  split
  case isTrue => rfl
  split
  case isTrue hc =>
    rw [List.takeWhile_cons_of_pos hc]
    rfl
  simp only [bind, Except.bind]
  -- an acronym has a second capital
  cases hcapital : isCapital c with
  | false =>
      simp only [Bool.false_eq_true, if_false, List.length_singleton, Nat.lt_irrefl, Bool.false_and]
      split <;> rfl
  | true =>
      cases hrun : capitalRun rest with
      | nil =>
          simp only [if_true, List.length_singleton, Nat.lt_irrefl, if_false, bne_self_eq_false,
            Bool.and_false, Bool.false_eq_true]
          split <;> rfl
      | cons d more =>
          have hlonger : before.length + 1 < before.length + (c :: d :: more).length := by simp
          simp only [if_true, if_pos hlonger]
          rfl

/-- A break ends where it is found or further on, and not beyond the end of the query.  What it
keeps lies between these two places. -/
theorem breakAtPosition_range (chars : List Char) (position : Nat) :
    ∃ found, breakAtPosition chars position = .ok found ∧ ∀ placed ∈ found,
      position ≤ placed.stop ∧ placed.stop ≤ chars.length ∧
        ∀ range ∈ placed.kept,
          position ≤ range.1 ∧ range.1 ≤ range.2 ∧ range.2 ≤ placed.stop := by
  by_cases hinside : position < chars.length
  · obtain ⟨before, c, rest, rfl, rfl⟩ : ∃ before c rest,
        chars = before ++ c :: rest ∧ position = before.length :=
      ⟨chars.take position, chars[position], chars.drop (position + 1),
        by rw [List.getElem_cons_drop, List.take_append_drop],
        (List.length_take_of_le (Nat.le_of_lt hinside)).symm⟩
    refine ⟨_, breakAtPosition_eq before c rest, ?_⟩
    intro placed hplaced
    obtain ⟨found, hfound, rfl⟩ := Option.map_eq_some_iff.mp hplaced
    have hlength := congrArg List.length (Break.run_append_after hfound)
    simp only [List.length_append, List.length_cons] at hlength ⊢
    refine ⟨Nat.le_add_right _ _, by simp only [Break.placed]; omega, ?_⟩
    intro range hrange
    cases hkept : found.kept with
    | false => simp [Break.placed, hkept] at hrange
    | true =>
        obtain rfl : (before.length, before.length + found.run.length) = range := by
          simpa [Break.placed, hkept] using hrange
        exact ⟨Nat.le_refl _, Nat.le_add_right _ _, Nat.le_refl _⟩
  · have hbeyond : breakAtPosition chars position = .ok none := by
      rw [breakAtPosition, List.getElem?_eq_none (Nat.le_of_not_lt hinside)]
    exact ⟨none, hbeyond, nofun⟩

/-! ## The walk -/

namespace Cursor

theorem text_extend {cursor : Cursor} {c : Char} {rest : List Char}
    (hahead : cursor.ahead = c :: rest) : (cursor.extend c rest).text = cursor.text := by
  simp [text, extend, hahead]

theorem text_resume {cursor : Cursor} {found : Break} {c : Char} {rest : List Char}
    (hahead : cursor.ahead = c :: rest) (hfound : breakAt? cursor.previous c rest = some found) :
    (cursor.resume found).text = cursor.text := by
  simp [text, resume, hahead, ← Break.run_append_after hfound]

/-- The cursor stays in the same query. -/
theorem text_of_step? {cursor next : Cursor} {completed : List (List Char)}
    (hstep : cursor.step? = some (completed, next)) : next.text = cursor.text := by
  obtain ⟨c, rest, hahead, ⟨rfl, rfl, -⟩ | ⟨found, hfound, -, rfl, rfl⟩⟩ := step?_cases hstep
  · exact text_extend hahead
  · exact text_resume hahead hfound

end Cursor

namespace Scan

/-- The place of a cursor by positions, when some pieces are completed. -/
def ofCursor (cursor : Cursor) (completed : List (List Char)) : Scan :=
  ⟨cursor.passed.length, cursor.passed.length + cursor.piece.length, completed⟩

variable {cursor : Cursor} {completed : List (List Char)} {c : Char} {rest : List Char}

theorem position_ofCursor (cursor : Cursor) (completed : List (List Char)) :
    (ofCursor cursor completed).position = (cursor.piece ++ cursor.passed).reverse.length := by
  rw [ofCursor, List.length_reverse, List.length_append, Nat.add_comm]

theorem slice_piece (cursor : Cursor) :
    slice cursor.text cursor.passed.length (cursor.passed.length + cursor.piece.length) =
      .ok cursor.piece.reverse := by
  have hslice := slice_append cursor.passed.reverse cursor.piece.reverse cursor.ahead
  rwa [← List.reverse_append, ← Cursor.text, List.length_reverse, List.length_reverse] at hslice

theorem keptPieces_placed {found : Break} (hahead : cursor.ahead = c :: rest)
    (hfound : breakAt? cursor.previous c rest = some found) :
    keptPieces cursor.text (found.placed (ofCursor cursor completed).position).kept =
      .ok (if found.kept then [found.run] else []) := by
  have hslice := slice_append (cursor.piece ++ cursor.passed).reverse found.run found.after
  rw [List.append_assoc, Break.run_append_after hfound, ← hahead, ← Cursor.text,
    ← position_ofCursor cursor completed] at hslice
  cases hkept : found.kept with
  | false => simp [Break.placed, hkept, keptPieces]
  | true => simp [Break.placed, hkept, keptPieces, hslice, Except.map]

/-- A break by positions completes the pieces that it completes for the cursor. -/
theorem close_ofCursor {found : Break} (hahead : cursor.ahead = c :: rest)
    (hfound : breakAt? cursor.previous c rest = some found) :
    (ofCursor cursor completed).close cursor.text
        (found.placed (ofCursor cursor completed).position) =
      .ok (ofCursor (cursor.resume found) (completed ++ cursor.completed found)) := by
  have hplace : (cursor.resume found).passed.length =
      cursor.passed.length + cursor.piece.length + found.run.length := by
    simp only [Cursor.resume, List.length_append, List.length_reverse]
    omega
  rw [close, keptPieces_placed hahead hfound]
  simp only [ofCursor, slice_piece, Break.placed, hplace]
  rfl

/-- A break ends where the open piece starts if there is nothing in either. -/
theorem stop_placed_eq_opened_iff (found : Break) (cursor : Cursor)
    (completed : List (List Char)) :
    (found.placed (ofCursor cursor completed).position).stop =
        (ofCursor cursor completed).opened ↔ found.run = [] ∧ cursor.piece = [] := by
  rw [← List.length_eq_zero_iff, ← List.length_eq_zero_iff]
  simp only [Break.placed, ofCursor]
  omega

/-- A step by positions is a step of the cursor. -/
theorem step_ofCursor (cursor : Cursor) (completed : List (List Char)) :
    step cursor.text (ofCursor cursor completed) =
      .ok (cursor.step?.map fun (more, next) => ofCursor next (completed ++ more)) := by
  have hplace := position_ofCursor cursor completed
  cases hahead : cursor.ahead with
  | nil =>
      have hend : ¬(ofCursor cursor completed).position < cursor.text.length := by
        simp [hplace, Cursor.text, hahead]
      rw [step, if_neg hend, Cursor.step?, hahead]
      rfl
  | cons c rest =>
      have hinside : (ofCursor cursor completed).position < cursor.text.length := by
        simp [hplace, Cursor.text, hahead]
      -- both look for a break at the same character, with the same one before it
      have hprevious : (cursor.piece ++ cursor.passed).reverse.getLast? = cursor.previous := by
        rw [List.getLast?_reverse, Cursor.previous]
      have hbreak := breakAtPosition_eq (cursor.piece ++ cursor.passed).reverse c rest
      rw [← hahead, ← Cursor.text, ← hplace, hprevious] at hbreak
      have hextend : (ofCursor cursor completed).advance =
          ofCursor (cursor.extend c rest) completed := rfl
      rw [step, if_pos hinside, hbreak]
      cases hfound : breakAt? cursor.previous c rest with
      | none =>
          have hstep := Cursor.step?_eq_extend hahead (by simp [hfound])
          simp only [hstep, Option.map_none, Option.map_some, List.append_nil, hextend]
          rfl
      | some found =>
          -- a break that would complete an empty piece is passed over
          by_cases hnothing : found.run = [] ∧ cursor.piece = []
          · have hstep := Cursor.step?_eq_extend hahead (by simpa [hfound] using hnothing)
            have hstop := (stop_placed_eq_opened_iff found cursor completed).mpr hnothing
            simp only [hstep, Option.map_some, bind, Except.bind, if_pos hstop, List.append_nil,
              hextend]
            rfl
          · have hstep := Cursor.step?_eq_resume hahead hfound hnothing
            have hstop := mt (stop_placed_eq_opened_iff found cursor completed).mp hnothing
            simp only [hstep, Option.map_some, bind, Except.bind, if_neg hstop,
              close_ofCursor hahead hfound]
            rfl

/-! ## The whole walk -/

/-- The place of a cursor in a query from which it goes on to the pieces of the query, the
completed ones included. -/
def Follows (chars : List Char) (weight : Nat) (scan : Scan) : Prop :=
  ∃ (cursor : Cursor) (completed : List (List Char)), cursor.text = chars ∧
    scan = ofCursor cursor completed ∧ completed ++ cursor.pieces = Query.pieces chars ∧
    cursor.weight = weight

theorem follows_start (chars : List Char) : Follows chars (2 * chars.length) start :=
  ⟨Cursor.start chars, [], rfl, rfl, rfl, rfl⟩

theorem progresses (chars : List Char) : Progresses (step chars) (Follows chars) := by
  intro weight scan hfollows
  obtain ⟨cursor, completed, rfl, rfl, hpieces, rfl⟩ := hfollows
  refine ⟨_, step_ofCursor cursor completed, ?_⟩
  intro later hlater
  obtain ⟨⟨more, next⟩, hstep, rfl⟩ := Option.map_eq_some_iff.mp hlater
  refine ⟨next.weight, Cursor.step?_weight_lt hstep, next, completed ++ more,
    Cursor.text_of_step? hstep, rfl, ?_, rfl⟩
  rw [List.append_assoc, ← Cursor.pieces_of_step? hstep, hpieces]

/-- The positions of a walk are in order, and in the query. -/
theorem Follows.range {chars : List Char} {weight : Nat} {scan : Scan}
    (hfollows : Follows chars weight scan) :
    scan.opened ≤ scan.position ∧ scan.position ≤ chars.length := by
  obtain ⟨cursor, completed, rfl, rfl, -, -⟩ := hfollows
  simp only [ofCursor, Cursor.text, List.length_append, List.length_reverse]
  omega

/-- At the end of the walk its pieces are those of the query. -/
theorem Follows.pieces_eq {chars : List Char} {weight : Nat} {scan : Scan}
    (hfollows : Follows chars weight scan) (hend : step chars scan = .ok none) :
    scan.pieces chars = .ok (Query.pieces chars) := by
  obtain ⟨cursor, completed, rfl, rfl, hpieces, -⟩ := hfollows
  rw [step_ofCursor, Except.ok.injEq, Option.map_eq_none_iff] at hend
  have hslice := slice_piece cursor
  obtain ⟨passed, piece, ahead⟩ := cursor
  obtain rfl : ahead = [] := Cursor.ahead_of_step?_eq_none hend
  have hlength : (Cursor.mk passed piece []).text.length = passed.length + piece.length := by
    simp only [Cursor.text, List.append_nil, List.length_reverse, List.length_append]
    omega
  rw [Cursor.pieces_finish] at hpieces
  rw [← hpieces, pieces, hlength, ofCursor, hslice]
  rfl

end Scan

/-- The walk by positions, which takes no more than twice as many steps as the query has
characters, finds the pieces of the query. -/
theorem piecesWithin_eq_ok (chars : List Char) :
    piecesWithin (2 * chars.length) chars = .ok (pieces chars) := by
  obtain ⟨last, less, hrun, hlast, hend⟩ :=
    (Scan.progresses chars).runWithin_eq_ok (Nat.le_refl _) (Scan.follows_start chars)
  rw [piecesWithin, hrun]
  exact hlast.pieces_eq hend

end FacetSearch.Query
