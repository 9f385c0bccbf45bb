import FacetSearch.Proofs.Character.Ascii
import Mathlib.Data.List.TakeWhile

/-!
# What cutting a query keeps

The pieces of a query hold, in order, all of its characters but the separators.

The invariant of the walk is `Cursor.kept`: what the pieces to come hold is the
open piece and the characters ahead that are no separators.  A step moves
characters from there into the pieces that it completes and changes nothing else
(`step?_kept`).  Two facts about breaks carry it.

* A run that a break takes up is a piece of its own, without separators, or has
  nothing else (`Break.run_cases`).
* There is a break at every separator, and it takes the separator up.  So none
  gets into a piece that is merely extended (`isSeparator_eq_false_of_breakAt?`).
-/

namespace FacetSearch.Query

/-! ## Separators -/

/-- ASCII letters and digits separate nothing. -/
theorem isSeparator_eq_false {c : Char} (hword : isCapital c || isSmall c || isDigit c) :
    isSeparator c = false := by
  rw [Bool.or_eq_true, Bool.or_eq_true] at hword
  rcases hword with (hcapital | hsmall) | hdigit
  · exact (classes_of_isCapital hcapital).1
  · exact (classes_of_isSmall hsmall).1
  · exact (classes_of_isDigit hdigit).1

/-! ## Breaks -/

theorem isCapital_of_mem_capitalRun {cs : List Char} {c : Char} (hc : c ∈ capitalRun cs) :
    isCapital c := by
  induction cs with
  | nil => simp [capitalRun] at hc
  | cons head rest ih =>
      rw [capitalRun] at hc
      split at hc
      case isTrue hhead =>
        rw [Bool.and_eq_true] at hhead
        rcases List.mem_cons.mp hc with rfl | hrest
        · exact hhead.1
        · exact ih hrest
      case isFalse => simp at hc

/-- A character is no separator if no break takes it up. -/
theorem isSeparator_eq_false_of_breakAt? (previous : Option Char) {c : Char} (rest : List Char)
    (hbreak : ∀ found ∈ breakAt? previous c rest, found.run = []) : isSeparator c = false := by
  by_contra hc
  rw [Bool.not_eq_false] at hc
  have hrun := hbreak _ (by rw [breakAt?, if_pos hc]; rfl)
  exact List.cons_ne_nil _ _ hrun

/-- A run that is a piece of its own has letters and digits only, and any other has
separators only. -/
theorem Break.run_cases {previous : Option Char} {c : Char} {rest : List Char} {found : Break}
    (hfound : breakAt? previous c rest = some found) :
    (found.kept = true ∧ ∀ d ∈ found.run, isCapital d || isSmall d || isDigit d) ∨
      (found.kept = false ∧ ∀ d ∈ found.run, isSeparator d) := by
  unfold breakAt? at hfound
  split at hfound
  case isTrue hc =>
    -- a run of separators
    cases hfound
    have hrun : ∀ d ∈ rest.takeWhile isSeparator, isSeparator d :=
      fun d hd => List.mem_takeWhile_imp hd
    exact Or.inr ⟨rfl, List.forall_mem_cons.mpr ⟨hc, hrun⟩⟩
  split at hfound
  case isTrue =>
    -- nothing is taken up before an uppercase letter that starts a word
    cases hfound
    exact Or.inr ⟨rfl, nofun⟩
  split at hfound
  case isTrue hv =>
    cases hfound
    refine Or.inl ⟨rfl, List.forall_mem_singleton.mpr ?_⟩
    rw [Bool.and_eq_true, Bool.or_eq_true, beq_iff_eq, beq_iff_eq] at hv
    rcases hv.1 with rfl | rfl <;> decide
  split at hfound
  case isTrue hc =>
    -- a run of digits
    cases hfound
    have hrun : ∀ d ∈ c :: rest.takeWhile isDigit, isDigit d :=
      List.forall_mem_cons.mpr ⟨hc, fun d hd => List.mem_takeWhile_imp hd⟩
    refine Or.inl ⟨rfl, fun d hd => ?_⟩
    rw [hrun d hd, Bool.or_true]
  split at hfound
  case isTrue hc =>
    -- a run of capitals
    cases hfound
    rw [Bool.and_eq_true] at hc
    have hrun : ∀ d ∈ c :: capitalRun rest, isCapital d :=
      List.forall_mem_cons.mpr ⟨hc.1, fun d hd => isCapital_of_mem_capitalRun hd⟩
    refine Or.inl ⟨rfl, fun d hd => ?_⟩
    rw [hrun d hd, Bool.true_or, Bool.true_or]
  split at hfound
  case isTrue =>
    -- nothing is taken up where ASCII words and others meet
    cases hfound
    exact Or.inr ⟨rfl, nofun⟩
  case isFalse => cases hfound

/-- Without the separators, a run is what the break keeps of it. -/
theorem Break.filter_run {previous : Option Char} {c : Char} {rest : List Char} {found : Break}
    (hfound : breakAt? previous c rest = some found) :
    found.run.filter (!isSeparator ·) = if found.kept then found.run else [] := by
  rcases run_cases hfound with ⟨hkept, hword⟩ | ⟨hkept, hseparators⟩
  · rw [if_pos hkept, List.filter_eq_self]
    intro d hd
    rw [isSeparator_eq_false (hword d hd), Bool.not_false]
  · rw [if_neg (by simp [hkept]), List.filter_eq_nil_iff]
    intro d hd
    simp [hseparators d hd]

/-! ## The walk -/

namespace Cursor

/-- What the pieces from here on hold: the open piece, and the characters ahead
that separate nothing. -/
def kept (cursor : Cursor) : List Char :=
  cursor.piece.reverse ++ cursor.ahead.filter (!isSeparator ·)

theorem kept_extend {cursor : Cursor} {c : Char} {rest : List Char}
    (hahead : cursor.ahead = c :: rest) (hc : isSeparator c = false) :
    (cursor.extend c rest).kept = cursor.kept := by
  simp [kept, extend, hahead, hc]

/-- A break keeps the open piece, its own run if that is a piece, and what comes
after it. -/
theorem kept_resume {cursor : Cursor} {found : Break} {c : Char} {rest : List Char}
    (hahead : cursor.ahead = c :: rest) (hfound : breakAt? cursor.previous c rest = some found) :
    (cursor.completed found).flatten ++ (cursor.resume found).kept = cursor.kept := by
  have hkept : cursor.kept =
      cursor.piece.reverse ++ (found.run ++ found.after).filter (!isSeparator ·) := by
    rw [kept, hahead, Break.run_append_after hfound]
  rw [hkept, List.filter_append, Break.filter_run hfound]
  cases hown : found.kept <;> simp [completed, resume, kept, hown]

/-- A step takes the next character into the open piece, unless there is a break that takes
up characters or ends the open piece. -/
theorem step?_cases {cursor next : Cursor} {completed : List (List Char)}
    (hstep : cursor.step? = some (completed, next)) :
    ∃ c rest, cursor.ahead = c :: rest ∧
      ((completed = [] ∧ next = cursor.extend c rest ∧
          ∀ found ∈ breakAt? cursor.previous c rest, found.run = [] ∧ cursor.piece = []) ∨
        ∃ found, breakAt? cursor.previous c rest = some found ∧
          ¬(found.run = [] ∧ cursor.piece = []) ∧
          completed = cursor.completed found ∧ next = cursor.resume found) := by
  unfold step? at hstep
  split at hstep
  case h_1 => cases hstep
  case h_2 c rest hahead =>
    refine ⟨c, rest, hahead, ?_⟩
    split at hstep
    case h_1 hbreak =>
      cases hstep
      exact Or.inl ⟨rfl, rfl, by simp [hbreak]⟩
    case h_2 found hbreak =>
      split at hstep
      case isTrue hnothing =>
        cases hstep
        exact Or.inl ⟨rfl, rfl, by simpa [hbreak] using hnothing⟩
      case isFalse hopen =>
        cases hstep
        exact Or.inr ⟨found, hbreak, hopen, rfl, rfl⟩

/-- A step keeps what the pieces hold, those that it completes included. -/
theorem step?_kept {cursor next : Cursor} {completed : List (List Char)}
    (hstep : cursor.step? = some (completed, next)) :
    completed.flatten ++ next.kept = cursor.kept := by
  obtain ⟨c, rest, hahead, ⟨rfl, rfl, hbreak⟩ | ⟨found, hfound, -, rfl, rfl⟩⟩ := step?_cases hstep
  · refine kept_extend hahead (isSeparator_eq_false_of_breakAt? cursor.previous rest ?_)
    exact fun found hfound => (hbreak found hfound).1
  · exact kept_resume hahead hfound

/-- The walk ends at the end of the query. -/
theorem ahead_of_step?_eq_none {cursor : Cursor} (hend : cursor.step? = none) :
    cursor.ahead = [] := by
  unfold step? at hend
  split at hend
  case h_1 hahead => exact hahead
  case h_2 =>
    split at hend
    case h_1 => cases hend
    case h_2 => split at hend <;> cases hend

/-- The pieces of a walk hold what is kept at its start. -/
theorem flatten_pieces (cursor : Cursor) : cursor.pieces.flatten = cursor.kept := by
  fun_induction pieces cursor with
  | case1 cursor hend => simp [kept, ahead_of_step?_eq_none hend]
  | case2 cursor completed next hstep _ ih => rw [List.flatten_append, ih, step?_kept hstep]

end Cursor

/-- The pieces of a query hold its characters without the separators. -/
theorem flatten_pieces (query : List Char) :
    (pieces query).flatten = query.filter (!isSeparator ·) := by
  rw [pieces, Cursor.flatten_pieces, Cursor.kept, Cursor.start, List.reverse_nil, List.nil_append]

end FacetSearch.Query
