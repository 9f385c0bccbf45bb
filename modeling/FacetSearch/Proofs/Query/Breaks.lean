import FacetSearch.Proofs.Character.Ascii
import FacetSearch.Query.Token

/-!
# Where a query is cut

The rules for breaks on letters and digits, and what the walk makes of a stretch of
them.  A stretch that starts with no piece open is read up to a place where a word
can end (`EndsWord`): the end of the query, a separator, or a capital with a small
letter after it.

* A letter with small letters after it is one piece (`Cursor.parts_smalls`).
* So are two or more capitals (`Cursor.parts_capitals`).
* A run of digits is a piece whatever comes after it (`Cursor.parts_digits`), and so is
  a `v` in front of one (`Cursor.parts_version`).

The statements are about `Cursor.parts`, the parts that the rest of the query is cut
into after lowercase and format words, since empty pieces do not count there.
-/

namespace FacetSearch.Query

/-! ## Places where a word can end -/

/-- What can follow a word: nothing, a separator, or a word with a capital initial. -/
inductive EndsWord : List Char → Prop
  | finish : EndsWord []
  | separator {c : Char} {rest : List Char} (hc : isSeparator c) : EndsWord (c :: rest)
  | initial {c d : Char} {rest : List Char} (hc : isCapital c) (hd : isSmall d) :
      EndsWord (c :: d :: rest)

namespace EndsWord

variable {after : List Char}

theorem any_isDigit_head? (hafter : EndsWord after) : after.head?.any isDigit = false := by
  cases hafter with
  | finish => rfl
  | separator hc => simpa using (classes_of_isSeparator hc).1
  | initial hc hd =>
      obtain ⟨-, -, -, hdigit, -⟩ := classes_of_isCapital hc
      simpa using hdigit

theorem any_isSmall_head? (hafter : EndsWord after) : after.head?.any isSmall = false := by
  cases hafter with
  | finish => rfl
  | separator hc => simpa using (classes_of_isSeparator hc).2.2
  | initial hc hd =>
      obtain ⟨-, -, -, -, hsmall, -⟩ := classes_of_isCapital hc
      simpa using hsmall

/-- A capital that starts a word ends a run of capitals. -/
theorem capitalRun_eq_nil (hafter : EndsWord after) : capitalRun after = [] := by
  cases hafter with
  | finish => rfl
  | separator hc => rw [capitalRun, (classes_of_isSeparator hc).2.1, Bool.false_and, if_neg nofun]
  | initial hc hd => simp [capitalRun, hd]

end EndsWord

/-! ## The rules -/

section Rules

variable {previous : Option Char} {c : Char} {rest : List Char}

theorem breakAt?_of_isSeparator (hc : isSeparator c) :
    breakAt? previous c rest =
      some ⟨c :: rest.takeWhile isSeparator, false, rest.dropWhile isSeparator⟩ := by
  rw [breakAt?, if_pos hc]

/-- A piece ends before a capital that starts a word. -/
theorem breakAt?_of_initial (hc : isCapital c) (hrest : rest.head?.any isSmall) :
    breakAt? previous c rest = some ⟨[], false, c :: rest⟩ := by
  obtain ⟨hseparator, huppercase, -⟩ := classes_of_isCapital hc
  have hnext : rest.head?.any isLowercase = true := by
    obtain ⟨d, hd, hsmall⟩ := (Option.any_eq_true _ _).mp hrest
    obtain ⟨-, -, hlowercase, -⟩ := classes_of_isSmall hsmall
    exact (Option.any_eq_true _ _).mpr ⟨d, hd, hlowercase⟩
  simp [breakAt?, hseparator, huppercase, hnext]

/-- A `v` in front of a digit is a piece of its own. -/
theorem breakAt?_of_version (hc : c = 'v' ∨ c = 'V') (hrest : rest.head?.any isDigit) :
    breakAt? previous c rest = some ⟨[c], true, rest⟩ := by
  have hseparator : isSeparator c = false := by rcases hc with rfl | rfl <;> decide
  have hnext : rest.head?.any isLowercase = false := by
    obtain ⟨d, hd, hdigit⟩ := (Option.any_eq_true _ _).mp hrest
    obtain ⟨-, -, hlowercase, -⟩ := classes_of_isDigit hdigit
    simp [hd, hlowercase]
  have hv : (c == 'v' || c == 'V') = true := by simpa using hc
  simp [breakAt?, hseparator, hnext, hv, hrest]

theorem breakAt?_of_isDigit (hc : isDigit c) :
    breakAt? previous c rest =
      some ⟨c :: rest.takeWhile isDigit, true, rest.dropWhile isDigit⟩ := by
  obtain ⟨hseparator, huppercase, -⟩ := classes_of_isDigit hc
  have hv : (c == 'v' || c == 'V') = false := by
    rw [Bool.or_eq_false_iff, beq_eq_false_iff_ne, beq_eq_false_iff_ne]
    constructor <;> rintro rfl <;> revert hc <;> decide
  simp [breakAt?, hseparator, huppercase, hv, hc]

/-- Two or more capitals are a piece of their own. -/
theorem breakAt?_of_capitalRun (hc : isCapital c) (hrest : capitalRun rest ≠ []) :
    breakAt? previous c rest =
      some ⟨c :: capitalRun rest, true, rest.drop (capitalRun rest).length⟩ := by
  obtain ⟨hseparator, -, -, hdigit, -⟩ := classes_of_isCapital hc
  -- the capital that follows is neither a lowercase letter nor a digit
  have hnext : rest.head?.any isLowercase = false ∧ rest.head?.any isDigit = false := by
    cases rest with
    | nil => exact absurd rfl hrest
    | cons d more =>
        have hd : isCapital d := by
          by_cases hcapital : isCapital d
          · exact hcapital
          · exact absurd (by simp [capitalRun, hcapital]) hrest
        obtain ⟨-, -, hlowercase, hdigit, -⟩ := classes_of_isCapital hd
        simp [hlowercase, hdigit]
  simp [breakAt?, hseparator, hdigit, hnext.1, hnext.2, hc, hrest]

/-- No break takes up a letter that neither starts a run of capitals nor stands in
front of a digit. -/
theorem run_eq_nil_of_letter (hc : isSmall c ∨ isCapital c) (hrun : capitalRun rest = [])
    (hrest : rest.head?.any isDigit = false) :
    ∀ found ∈ breakAt? previous c rest, found.run = [] := by
  have hclasses : isSeparator c = false ∧ isDigit c = false := by
    rcases hc with hsmall | hcapital
    · obtain ⟨hseparator, -, -, hdigit, -⟩ := classes_of_isSmall hsmall
      exact ⟨hseparator, hdigit⟩
    · obtain ⟨hseparator, -, -, hdigit, -⟩ := classes_of_isCapital hcapital
      exact ⟨hseparator, hdigit⟩
  intro found hfound
  simp only [breakAt?, hclasses.1, hclasses.2, hrest, hrun, Option.mem_def, Bool.and_false,
    bne_self_eq_false, Bool.false_eq_true, if_false] at hfound
  split at hfound
  case isTrue => cases hfound; rfl
  case isFalse =>
    split at hfound
    case isTrue => cases hfound; rfl
    case isFalse => cases hfound

/-- A small letter inside a word does not end it. -/
theorem breakAt?_eq_none_of_isSmall (hprevious : previous.any isAsciiWord) (hc : isSmall c)
    (hrest : rest.head?.any isDigit = false) : breakAt? previous c rest = none := by
  obtain ⟨hseparator, huppercase, -, hdigit, hcapital, hword⟩ := classes_of_isSmall hc
  simp [breakAt?, hseparator, huppercase, hdigit, hcapital, hword, hrest, hprevious]

theorem EndsWord.isSome_breakAt? (hafter : EndsWord (c :: rest)) :
    (breakAt? previous c rest).isSome := by
  cases hafter with
  | separator hc => rw [breakAt?_of_isSeparator hc]; rfl
  | initial hc hd => rw [breakAt?_of_initial hc (by simpa using hd)]; rfl

end Rules

/-! ## The walk -/

namespace Cursor

variable {passed piece ahead rest : List Char} {c : Char}

/-- The parts that the rest of a query is cut into: its nonempty pieces in lowercase,
with format words cut out of them. -/
def parts (cursor : Cursor) : List (List Char) :=
  (cursor.pieces.filter (· ≠ [])).flatMap fun piece => splitFormats (Text.lowerChars piece)

/-- A character that no break takes up, and that ends no open piece, is taken into the
piece. -/
theorem step?_eq_extend {cursor : Cursor} (hahead : cursor.ahead = c :: rest)
    (hbreak : ∀ found ∈ breakAt? cursor.previous c rest, found.run = [] ∧ cursor.piece = []) :
    cursor.step? = some ([], cursor.extend c rest) := by
  simp only [step?, hahead]
  cases hfound : breakAt? cursor.previous c rest with
  | none => rfl
  | some found => simp [hbreak found hfound]

/-- A break that takes up characters, or that ends an open piece, completes pieces. -/
theorem step?_eq_resume {cursor : Cursor} {found : Break} (hahead : cursor.ahead = c :: rest)
    (hfound : breakAt? cursor.previous c rest = some found)
    (hopen : ¬(found.run = [] ∧ cursor.piece = [])) :
    cursor.step? = some (cursor.completed found, cursor.resume found) := by
  simp only [step?, hahead, hfound, if_neg hopen]

theorem pieces_of_step? {cursor next : Cursor} {completed : List (List Char)}
    (hstep : cursor.step? = some (completed, next)) :
    cursor.pieces = completed ++ next.pieces := by
  rw [pieces]
  split
  case h_1 hend => rw [hend] at hstep; cases hstep
  case h_2 hsome => rw [hsome] at hstep; cases hstep; rfl

theorem pieces_finish : pieces ⟨passed, piece, []⟩ = [piece.reverse] := by
  rw [pieces]
  rfl

theorem pieces_extend
    (hbreak : ∀ found ∈ breakAt? (piece ++ passed).head? c rest, found.run = [] ∧ piece = []) :
    pieces ⟨passed, piece, c :: rest⟩ = pieces ⟨passed, c :: piece, rest⟩ := by
  have hstep : step? ⟨passed, piece, c :: rest⟩ = some ([], ⟨passed, c :: piece, rest⟩) :=
    step?_eq_extend rfl hbreak
  exact pieces_of_step? hstep

theorem pieces_break {found : Break}
    (hfound : breakAt? (piece ++ passed).head? c rest = some found)
    (hopen : found.run ≠ [] ∨ piece ≠ []) :
    pieces ⟨passed, piece, c :: rest⟩ =
      completed ⟨passed, piece, c :: rest⟩ found ++
        pieces (resume ⟨passed, piece, c :: rest⟩ found) := by
  have hsome : ¬(found.run = [] ∧ piece = []) := by
    rintro ⟨hrun, hpiece⟩
    exact hopen.elim (· hrun) (· hpiece)
  exact pieces_of_step? (step?_eq_resume rfl hfound hsome)

/-- An open piece is one of the pieces if nothing comes after it or a break does. -/
theorem parts_close (hpiece : piece ≠ [])
    (hend : ∀ c rest, ahead = c :: rest → (breakAt? (piece ++ passed).head? c rest).isSome) :
    parts ⟨passed, piece, ahead⟩ =
      splitFormats (Text.lowerChars piece.reverse) ++ parts ⟨piece ++ passed, [], ahead⟩ := by
  have hreverse : piece.reverse ≠ [] := by simpa using hpiece
  cases ahead with
  | nil => simp [parts, pieces_finish, hreverse]
  | cons c rest =>
      obtain ⟨found, hfound⟩ := Option.isSome_iff_exists.mp (hend c rest rfl)
      rw [parts, pieces_break hfound (Or.inr hpiece)]
      by_cases hrun : found.run = []
      · -- the break takes up nothing, so it leaves the cursor where it is
        have hafter : found.after = c :: rest := by
          simpa [hrun] using Break.run_append_after hfound
        simp [parts, completed, resume, hrun, hafter, hreverse]
      · -- the break takes up characters whether a piece is open or not
        have hclosed : breakAt? ([] ++ (piece ++ passed)).head? c rest = some found := hfound
        rw [parts, pieces_break hclosed (Or.inl hrun)]
        simp [completed, resume, hreverse]

/-- A run that a break takes up is dropped, or is a piece of its own. -/
theorem parts_break {found : Break} (hfound : breakAt? passed.head? c rest = some found)
    (hrun : found.run ≠ []) :
    parts ⟨passed, [], c :: rest⟩ =
      (if found.kept then splitFormats (Text.lowerChars found.run) else []) ++
        parts ⟨found.run.reverse ++ passed, [], found.after⟩ := by
  have hbreak : breakAt? ([] ++ passed).head? c rest = some found := hfound
  rw [parts, pieces_break hbreak (Or.inl hrun)]
  cases hkept : found.kept <;> simp [parts, completed, resume, hkept, hrun]

/-! ## Stretches of one kind -/

/-- A run of characters of one kind ends where another character follows. -/
theorem span_append {p : Char → Bool} {run after : List Char} (hrun : ∀ c ∈ run, p c)
    (hafter : after.head?.any p = false) :
    (run ++ after).takeWhile p = run ∧ (run ++ after).dropWhile p = after := by
  rw [List.takeWhile_append_of_pos hrun, List.dropWhile_append_of_pos hrun]
  cases after with
  | nil => simp
  | cons c rest =>
      have hc : p c = false := by simpa using hafter
      simp [hc]

/-- Separators in front of a word are dropped. -/
theorem parts_separators {gap : List Char} (hgap : ∀ c ∈ gap, isSeparator c)
    (hahead : ahead.head?.any isSeparator = false) :
    parts ⟨passed, [], gap ++ ahead⟩ = parts ⟨gap.reverse ++ passed, [], ahead⟩ := by
  cases gap with
  | nil => rfl
  | cons c more =>
      obtain ⟨hc, hmore⟩ := List.forall_mem_cons.mp hgap
      obtain ⟨htake, hdrop⟩ := span_append hmore hahead
      have hfound : breakAt? passed.head? c (more ++ ahead) = some ⟨c :: more, false, ahead⟩ := by
        rw [breakAt?_of_isSeparator hc, htake, hdrop]
      rw [List.cons_append, parts_break hfound (List.cons_ne_nil _ _)]
      rfl

/-- Digits are a piece whatever comes after them. -/
theorem parts_digits {digits after : List Char} (hdigits : ∀ d ∈ digits, isDigit d)
    (hnonempty : digits ≠ []) (hafter : after.head?.any isDigit = false) :
    parts ⟨passed, [], digits ++ after⟩ =
      splitFormats (Text.lowerChars digits) ++ parts ⟨digits.reverse ++ passed, [], after⟩ := by
  cases digits with
  | nil => exact absurd rfl hnonempty
  | cons d more =>
      obtain ⟨hd, hmore⟩ := List.forall_mem_cons.mp hdigits
      obtain ⟨htake, hdrop⟩ := span_append hmore hafter
      have hfound : breakAt? passed.head? d (more ++ after) = some ⟨d :: more, true, after⟩ := by
        rw [breakAt?_of_isDigit hd, htake, hdrop]
      rw [List.cons_append, parts_break hfound (List.cons_ne_nil _ _)]
      rfl

/-- A `v` in front of a digit is a piece of its own. -/
theorem parts_version {v : Char} (hv : v = 'v' ∨ v = 'V') (hrest : rest.head?.any isDigit) :
    parts ⟨passed, [], v :: rest⟩ =
      splitFormats (Text.lowerChars [v]) ++ parts ⟨v :: passed, [], rest⟩ := by
  rw [parts_break (breakAt?_of_version hv hrest) (List.cons_ne_nil _ _)]
  rfl

theorem capitalRun_append {letters after : List Char} (hletters : ∀ c ∈ letters, isCapital c)
    (hafter : EndsWord after) : capitalRun (letters ++ after) = letters := by
  induction letters with
  | nil => exact hafter.capitalRun_eq_nil
  | cons c more ih =>
      obtain ⟨hc, hmore⟩ := List.forall_mem_cons.mp hletters
      have hnext : (more ++ after).head?.any isSmall = false := by
        cases more with
        | nil => exact hafter.any_isSmall_head?
        | cons d _ =>
            obtain ⟨-, -, -, -, hsmall, -⟩ := classes_of_isCapital (hmore d List.mem_cons_self)
            simpa using hsmall
      rw [List.cons_append, capitalRun, hc, hnext, ih hmore]
      rfl

/-- Two or more capitals at the end of a word are one piece. -/
theorem parts_capitals {letters after : List Char} (hletters : ∀ c ∈ letters, isCapital c)
    (htwo : 2 ≤ letters.length) (hafter : EndsWord after) :
    parts ⟨passed, [], letters ++ after⟩ =
      splitFormats (Text.lowerChars letters) ++ parts ⟨letters.reverse ++ passed, [], after⟩ := by
  match letters with
  | [] | [_] => simp at htwo
  | c :: d :: more =>
      obtain ⟨hc, hmore⟩ := List.forall_mem_cons.mp hletters
      have hrun : capitalRun (d :: more ++ after) = d :: more := capitalRun_append hmore hafter
      have hfound : breakAt? passed.head? c (d :: more ++ after) =
          some ⟨c :: d :: more, true, after⟩ := by
        rw [breakAt?_of_capitalRun hc (by rw [hrun]; exact List.cons_ne_nil _ _), hrun,
          List.drop_left]
      rw [List.cons_append, parts_break hfound (List.cons_ne_nil _ _)]
      rfl

/-- Small letters are taken into the open piece. -/
theorem parts_extend_smalls {letters after : List Char} (hletters : ∀ c ∈ letters, isSmall c)
    (hpiece : piece.head?.any isAsciiWord) (hafter : after.head?.any isDigit = false) :
    parts ⟨passed, piece, letters ++ after⟩ = parts ⟨passed, letters.reverse ++ piece, after⟩ := by
  induction letters generalizing piece with
  | nil => rfl
  | cons c more ih =>
      obtain ⟨hc, hmore⟩ := List.forall_mem_cons.mp hletters
      have hnext : (more ++ after).head?.any isDigit = false := by
        cases more with
        | nil => exact hafter
        | cons d _ =>
            obtain ⟨-, -, -, hdigit, -⟩ := classes_of_isSmall (hmore d List.mem_cons_self)
            simpa using hdigit
      have hprevious : (piece ++ passed).head?.any isAsciiWord := by
        cases piece with
        | nil => simp at hpiece
        | cons d _ => exact hpiece
      have hpieces : pieces ⟨passed, piece, c :: (more ++ after)⟩ =
          pieces ⟨passed, c :: piece, more ++ after⟩ := by
        apply pieces_extend
        rw [breakAt?_eq_none_of_isSmall hprevious hc hnext]
        exact nofun
      have hword : (c :: piece).head?.any isAsciiWord := isAsciiWord_of_letter (Or.inl hc)
      calc parts ⟨passed, piece, c :: more ++ after⟩
          = parts ⟨passed, c :: piece, more ++ after⟩ := by
            rw [parts, List.cons_append, hpieces, parts]
        _ = parts ⟨passed, more.reverse ++ c :: piece, after⟩ := ih hmore hword
        _ = parts ⟨passed, (c :: more).reverse ++ piece, after⟩ := by simp

/-- A letter with small letters after it is one piece. -/
theorem parts_smalls {letters after : List Char} (hc : isSmall c ∨ isCapital c)
    (hletters : ∀ d ∈ letters, isSmall d) (hafter : EndsWord after) :
    parts ⟨passed, [], c :: letters ++ after⟩ =
      splitFormats (Text.lowerChars (c :: letters)) ++
        parts ⟨(c :: letters).reverse ++ passed, [], after⟩ := by
  have hword : [c].head?.any isAsciiWord := isAsciiWord_of_letter hc
  -- what follows the first letter starts no run of capitals and is no digit
  have hnext : capitalRun (letters ++ after) = [] ∧
      (letters ++ after).head?.any isDigit = false := by
    cases letters with
    | nil => exact ⟨hafter.capitalRun_eq_nil, hafter.any_isDigit_head?⟩
    | cons d more =>
        obtain ⟨-, -, -, hdigit, hcapital, -⟩ := classes_of_isSmall (hletters d List.mem_cons_self)
        simp [capitalRun, hdigit, hcapital]
  have hopened : pieces ⟨passed, [], c :: (letters ++ after)⟩ =
      pieces ⟨passed, [c], letters ++ after⟩ :=
    pieces_extend fun found hfound => ⟨run_eq_nil_of_letter hc hnext.1 hnext.2 found hfound, rfl⟩
  have hpiece : (c :: letters).reverse = letters.reverse ++ [c] := List.reverse_cons
  calc parts ⟨passed, [], c :: letters ++ after⟩
      = parts ⟨passed, [c], letters ++ after⟩ := by
        rw [parts, List.cons_append, hopened, parts]
    _ = parts ⟨passed, (c :: letters).reverse, after⟩ := by
        rw [parts_extend_smalls hletters hword hafter.any_isDigit_head?, hpiece]
    _ = _ := by
        rw [parts_close (by simp), List.reverse_reverse]
        rintro d rest rfl
        exact hafter.isSome_breakAt?

end Cursor

end FacetSearch.Query
