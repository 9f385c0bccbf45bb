import FacetSearch.Proofs.Query.Notation

/-!
# Separators divide a query

What a query is cut into on one side of a separator does not depend on the other side
(`parts_append_separator`).  Two facts about the walk carry this.

* It looks back at most to the last character of the open piece.  The one rule that looks
  further ends a piece, and with no piece open there is nothing to end (`Cursor.parts_passed`).
* It looks ahead past letters and digits only, so a separator is as good as the end of the
  query (`breakAt?_append_separator`).

So a version or a scale between separators is cut into its two parts, whatever surrounds it.
The pass that puts notation together looks across separators.  There it may find a `v` that
takes the number of a scale away, and nothing else keeps the two parts from each other
(`tokens_notation_alone`).
-/

namespace FacetSearch.Query

/-! ## Looking back -/

/-- What a break takes up does not depend on what precedes it. -/
theorem breakAt?_of_run_ne_nil {previous : Option Char} {c : Char} {rest : List Char}
    {found : Break} (hfound : breakAt? previous c rest = some found) (hrun : found.run ≠ [])
    (other : Option Char) : breakAt? other c rest = some found := by
  unfold breakAt? at hfound ⊢
  split_ifs at hfound ⊢
  · exact hfound
  · exact hfound
  · exact hfound
  · exact hfound
  · exact hfound
  -- the rule for ASCII words is the only one that looks back, and it takes nothing up
  · exact hfound
  · cases hfound
    exact absurd rfl hrun

namespace Cursor

variable {passed piece ahead rest : List Char} {c : Char}

/-- What has been passed before the open piece does not decide whether there is a break that
takes up characters or ends the piece. -/
theorem breakAt?_passed {found : Break}
    (hfound : breakAt? (piece ++ passed).head? c rest = some found)
    (hopen : ¬(found.run = [] ∧ piece = [])) (other : List Char) :
    breakAt? (piece ++ other).head? c rest = some found := by
  cases piece with
  | nil => exact breakAt?_of_run_ne_nil hfound (fun hrun => hopen ⟨hrun, rfl⟩) _
  | cons d more => exact hfound

/-- The pieces from here on do not depend on what has been passed before the open one. -/
theorem pieces_passed (cursor : Cursor) (other : List Char) :
    pieces ⟨other, cursor.piece, cursor.ahead⟩ = cursor.pieces := by
  induction cursor using pieces.induct generalizing other with
  | case1 cursor hend =>
      obtain ⟨passed, piece, ahead⟩ := cursor
      obtain rfl : ahead = [] := ahead_of_step?_eq_none hend
      rw [pieces_finish, pieces_finish]
  | case2 cursor completed next hstep _ ih =>
      obtain ⟨passed, piece, ahead⟩ := cursor
      rw [pieces_of_step? hstep]
      obtain ⟨c, rest, hahead, ⟨rfl, rfl, hbreak⟩ | ⟨found, hfound, hopen, rfl, rfl⟩⟩ :=
        step?_cases hstep
      · obtain rfl : ahead = c :: rest := hahead
        have hother : ∀ found ∈ breakAt? (piece ++ other).head? c rest,
            found.run = [] ∧ piece = [] := by
          intro found hfound
          by_contra hopen
          exact hopen (hbreak found (breakAt?_passed hfound hopen passed))
        rw [pieces_extend hother, List.nil_append]
        exact ih other
      · obtain rfl : ahead = c :: rest := hahead
        have hother : breakAt? (piece ++ other).head? c rest = some found :=
          breakAt?_passed hfound hopen other
        rw [pieces_break hother (not_and_or.mp hopen)]
        exact congrArg _ (ih _)

theorem parts_passed (other : List Char) :
    parts ⟨passed, piece, ahead⟩ = parts ⟨other, piece, ahead⟩ := by
  rw [parts, parts, ← pieces_passed ⟨passed, piece, ahead⟩ other]

end Cursor

/-! ## Looking ahead -/

section Separator

variable {s : Char} {front after : List Char}

theorem any_head?_append {p : Char → Bool} (hs : p s = false) :
    (front ++ s :: after).head?.any p = front.head?.any p := by
  cases front with
  | nil => simpa using hs
  | cons c rest => rfl

/-- A run of characters of one kind ends where another one follows. -/
theorem span_append_cons {p : Char → Bool} (hs : p s = false) :
    (front ++ s :: after).takeWhile p = front.takeWhile p ∧
      (front ++ s :: after).dropWhile p = front.dropWhile p ++ s :: after := by
  induction front with
  | nil => simp [hs]
  | cons c rest ih =>
      by_cases hc : p c
      · simp [hc, ih.1, ih.2]
      · simp [hc]

theorem capitalRun_append_cons (hcapital : isCapital s = false) (hsmall : isSmall s = false) :
    capitalRun (front ++ s :: after) = capitalRun front := by
  induction front with
  | nil => simp [capitalRun, hcapital]
  | cons c rest ih =>
      rw [List.cons_append, capitalRun, capitalRun, any_head?_append hsmall, ih]

/-- A break is the same if the query ends at the next separator. -/
theorem breakAt?_append_separator (hs : isSeparator s) {previous : Option Char} {c : Char}
    (hc : isSeparator c = false) :
    breakAt? previous c (front ++ s :: after) =
      (breakAt? previous c front).map fun found =>
        { found with after := found.after ++ s :: after } := by
  obtain ⟨hdigit, hcapital, hsmall⟩ := classes_of_isSeparator hs
  have htake : (front ++ s :: after).takeWhile isDigit = front.takeWhile isDigit :=
    (span_append_cons hdigit).1
  have hdrop : (front ++ s :: after).dropWhile isDigit = front.dropWhile isDigit ++ s :: after :=
    (span_append_cons hdigit).2
  have hlength : (capitalRun front).length ≤ front.length := by
    have hcut := congrArg List.length (capitalRun_append_drop front)
    rw [List.length_append] at hcut
    omega
  have hcut : (front ++ s :: after).drop (capitalRun front).length =
      front.drop (capitalRun front).length ++ s :: after :=
    List.drop_append_of_le_length hlength
  unfold breakAt?
  rw [any_head?_append (isLowercase_of_isSeparator hs), any_head?_append hdigit,
    capitalRun_append_cons hcapital hsmall, htake, hdrop, hcut, hc]
  simp only [Bool.false_eq_true, if_false]
  split_ifs <;> rfl

end Separator

/-! ## Division -/

namespace Cursor

variable {passed piece ahead rest after : List Char} {c s : Char}

/-- With no piece open, separators are passed over. -/
theorem parts_cons_separator (hs : isSeparator s) :
    parts ⟨passed, [], s :: after⟩ = parts ⟨[], [], after⟩ := by
  have hmore : ∀ c ∈ after.takeWhile isSeparator, isSeparator c :=
    fun c hc => List.mem_takeWhile_imp hc
  have hend : (after.dropWhile isSeparator).head?.any isSeparator = false := by
    have hnot := List.head?_dropWhile_not isSeparator after
    cases hhead : (after.dropWhile isSeparator).head? with
    | none => rfl
    | some c => simpa [hhead] using hnot
  calc parts ⟨passed, [], s :: after⟩
      = parts ⟨passed, [], (s :: after.takeWhile isSeparator) ++ after.dropWhile isSeparator⟩ := by
        rw [List.cons_append, List.takeWhile_append_dropWhile]
    _ = parts ⟨_, [], after.dropWhile isSeparator⟩ :=
        parts_separators (List.forall_mem_cons.mpr ⟨hs, hmore⟩) hend
    _ = parts ⟨_, [], after.dropWhile isSeparator⟩ := parts_passed _
    _ = parts ⟨[], [], after.takeWhile isSeparator ++ after.dropWhile isSeparator⟩ :=
        (parts_separators hmore hend).symm
    _ = parts ⟨[], [], after⟩ := by rw [List.takeWhile_append_dropWhile]

theorem parts_finish : parts ⟨passed, [], []⟩ = [] := by
  rw [parts, pieces_finish]
  rfl

/-- A separator ends the open piece. -/
theorem parts_separator (hs : isSeparator s) :
    parts ⟨passed, piece, s :: after⟩ = parts ⟨passed, piece, []⟩ ++ parts ⟨[], [], after⟩ := by
  by_cases hpiece : piece = []
  · rw [hpiece, parts_cons_separator hs, parts_finish, List.nil_append]
  · have hbreak : ∀ d more, s :: after = d :: more →
        (breakAt? (piece ++ passed).head? d more).isSome := by
      rintro d more heq
      cases heq
      rw [breakAt?_of_isSeparator hs]
      rfl
    rw [parts_close hpiece hbreak, parts_close hpiece (by simp), parts_finish, List.append_nil,
      parts_cons_separator hs]

theorem parts_of_step? {cursor next : Cursor} {completed : List (List Char)}
    (hstep : cursor.step? = some (completed, next)) :
    cursor.parts = ((completed.filter (· ≠ [])).flatMap fun piece =>
      splitFormats (Text.lowerChars piece)) ++ next.parts := by
  rw [parts, pieces_of_step? hstep, List.filter_append, List.flatMap_append, parts]

/-- The cursor in a query that goes on after a separator. -/
def followedBy (cursor : Cursor) (s : Char) (after : List Char) : Cursor :=
  { cursor with ahead := cursor.ahead ++ s :: after }

/-- Up to the separator, the steps are the same. -/
theorem step?_followedBy (hs : isSeparator s) {cursor next : Cursor} {completed : List (List Char)}
    (hstep : cursor.step? = some (completed, next))
    (hword : cursor.ahead.head?.any isSeparator = false) :
    (cursor.followedBy s after).step? = some (completed, next.followedBy s after) := by
  obtain ⟨c, rest, hahead, hcases⟩ := step?_cases hstep
  have hahead' : (cursor.followedBy s after).ahead = c :: (rest ++ s :: after) := by
    rw [followedBy, hahead, List.cons_append]
  have hsame : breakAt? cursor.previous c (rest ++ s :: after) =
      (breakAt? cursor.previous c rest).map fun found =>
        { found with after := found.after ++ s :: after } := by
    rw [hahead] at hword
    exact breakAt?_append_separator hs hword
  rcases hcases with ⟨rfl, rfl, hbreak⟩ | ⟨found, hfound, hopen, rfl, rfl⟩
  · refine step?_eq_extend hahead' fun long hlong => ?_
    obtain ⟨short, hshort, rfl⟩ := Option.map_eq_some_iff.mp (hsame.symm.trans hlong)
    exact hbreak short hshort
  · have hlong := hsame.trans (congrArg _ hfound)
    exact step?_eq_resume hahead' hlong hopen

theorem weight_rest_lt : weight ⟨[], [], rest⟩ < weight ⟨passed, piece, c :: rest⟩ := by
  simp only [weight, List.length_cons, if_true]
  omega

/-- What comes before a separator is cut apart as if the query ended there, and what comes
after it as if it began there. -/
theorem parts_followedBy (hs : isSeparator s) (cursor : Cursor) :
    (cursor.followedBy s after).parts = cursor.parts ++ parts ⟨[], [], after⟩ := by
  match hstep : cursor.step? with
  | none =>
      have hahead := ahead_of_step?_eq_none hstep
      obtain ⟨passed, piece, ahead⟩ := cursor
      obtain rfl : ahead = [] := hahead
      exact parts_separator hs
  | some (completed, next) =>
      by_cases hword : cursor.ahead.head?.any isSeparator = false
      · have hnext : (next.followedBy s after).parts = next.parts ++ parts ⟨[], [], after⟩ :=
          parts_followedBy hs next
        have hstep' : (cursor.followedBy s after).step? = some (completed, next.followedBy s after) :=
          step?_followedBy hs hstep hword
        rw [parts_of_step? hstep', parts_of_step? hstep, hnext, List.append_assoc]
      · -- the separators in front divide what comes before them from the rest
        obtain ⟨passed, piece, ahead⟩ := cursor
        cases ahead with
        | nil => cases hstep
        | cons c rest =>
            have hc : isSeparator c := by simpa using hword
            have hrest : parts ⟨[], [], rest ++ s :: after⟩ =
                parts ⟨[], [], rest⟩ ++ parts ⟨[], [], after⟩ :=
              parts_followedBy hs ⟨[], [], rest⟩
            calc parts ⟨passed, piece, c :: (rest ++ s :: after)⟩
                = parts ⟨passed, piece, []⟩ ++ parts ⟨[], [], rest ++ s :: after⟩ :=
                  parts_separator hc
              _ = parts ⟨passed, piece, []⟩ ++
                    (parts ⟨[], [], rest⟩ ++ parts ⟨[], [], after⟩) := by rw [hrest]
              _ = parts ⟨passed, piece, c :: rest⟩ ++ parts ⟨[], [], after⟩ := by
                  rw [parts_separator hc, List.append_assoc]
termination_by cursor.weight
decreasing_by
  · exact step?_weight_lt hstep
  · subst_vars
    exact weight_rest_lt

end Cursor

section

variable {before rest front after : List Char} {s : Char}

/-- A separator divides a query. -/
theorem parts_append_separator (hs : isSeparator s) :
    parts (front ++ s :: after) = parts front ++ parts after :=
  Cursor.parts_followedBy hs (Cursor.start front)

theorem parts_nil : parts [] = [] :=
  Cursor.parts_finish

theorem parts_append_of_getLast? (hbefore : before.getLast?.all isSeparator) :
    parts (before ++ rest) = parts before ++ parts rest := by
  rcases List.eq_nil_or_concat' before with rfl | ⟨init, s, rfl⟩
  · rw [parts_nil, List.nil_append, List.nil_append]
  · have hs : isSeparator s := by simpa using hbefore
    have hinit : parts (init ++ [s]) = parts init := by
      rw [parts_append_separator hs, parts_nil, List.append_nil]
    rw [List.append_assoc, List.singleton_append, parts_append_separator hs, hinit]

theorem parts_append_of_head? (hafter : after.head?.all isSeparator) :
    parts (front ++ after) = parts front ++ parts after := by
  cases after with
  | nil => rw [parts_nil, List.append_nil, List.append_nil]
  | cons s more =>
      have hs : isSeparator s := hafter
      have hmore : parts (s :: more) = parts more := by
        rw [← List.nil_append (s :: more), parts_append_separator hs, parts_nil, List.nil_append]
      rw [parts_append_separator hs, hmore]

/-- A token between separators is cut into its parts, whatever surrounds it. -/
theorem parts_alone (hbefore : before.getLast?.all isSeparator)
    (hafter : after.head?.all isSeparator) (token : CanonicalToken) (style : LetterStyle) :
    parts (before ++ style.write token.chars ++ after) =
      parts before ++ token.parts ++ parts after := by
  have htoken : parts (style.write token.chars) = token.parts := by
    have hwritten : Cursor.parts ⟨[], [], style.write token.chars ++ []⟩ =
        token.parts ++ Cursor.parts ⟨_, [], []⟩ := Cursor.parts_write token style .finish
    rw [List.append_nil, Cursor.parts_finish, List.append_nil] at hwritten
    exact hwritten
  rw [parts_append_of_head? hafter, parts_append_of_getLast? hbefore, htoken]

end

/-! ## A `v` in front -/

/-- Whether the last character of a query that is no separator is a `v`. -/
def endsInV (query : List Char) : Bool :=
  (query.filter (!isSeparator ·)).getLast?.any fun c => c == 'v' || c == 'V'

theorem getLast?_flatten {tokens : List (List Char)} (htokens : ∀ token ∈ tokens, token ≠ []) :
    tokens.flatten.getLast? = tokens.getLast?.bind List.getLast? := by
  rcases List.eq_nil_or_concat' tokens with rfl | ⟨first, last, rfl⟩
  · rfl
  · have hlast : last ≠ [] := htokens last (by simp)
    rw [List.flatten_append, List.flatten_singleton, List.getLast?_append_of_ne_nil _ hlast,
      List.getLast?_concat, Option.bind_some]

/-- Only a `v` in the query becomes the last character of its parts. -/
theorem getLast?_flatten_parts_iff (query : List Char) :
    (parts query).flatten.getLast? = some 'v' ↔ endsInV query := by
  have hmerge : ∀ c : Option Char, c.map Text.mergeSigma = some 'v' ↔ c = some 'v' := by
    intro c
    rw [Option.map_eq_some_iff]
    constructor
    · rintro ⟨d, rfl, hd⟩
      rw [Text.eq_of_mergeSigma_eq (c := 'v') (by decide) hd]
    · rintro rfl
      exact ⟨'v', rfl, rfl⟩
  have hmerged := congrArg List.getLast? (map_mergeSigma_flatten_parts query)
  rw [List.getLast?_map, List.getLast?_map] at hmerged
  rw [← hmerge, hmerged, hmerge, endsInV]
  rcases List.eq_nil_or_concat' (query.filter (!isSeparator ·)) with hnone | ⟨first, c, hlast⟩
  · simp [hnone]
  · rw [hlast, List.flatMap_append, List.flatMap_singleton,
      List.getLast?_append_of_ne_nil _ (lowerChar_ne_nil c), List.getLast?_concat,
      Option.any_some, Bool.or_eq_true, beq_iff_eq, beq_iff_eq]
    constructor
    · intro hv
      exact v_mem_lowerChar_iff.mp (List.mem_of_getLast? hv)
    · rintro (rfl | rfl) <;> decide

/-- The last part ends in a `v` if and only if the query does, but for separators. -/
theorem exists_getLast?_parts_iff (query : List Char) :
    (∃ last ∈ (parts query).getLast?, last.getLast? = some 'v') ↔ endsInV query := by
  rw [← getLast?_flatten_parts_iff, getLast?_flatten fun part hpart => ne_nil_of_mem_parts hpart,
    Option.bind_eq_some_iff]
  simp only [Option.mem_def]

/-! ## Notation alone -/

/-- Whether a word is a version: a `v` and a number. -/
def IsVersionWord (word : List Char) : Prop :=
  ∃ v digits, (v = 'v' ∨ v = 'V') ∧ isNumber digits ∧ word = v :: digits

/-- Whether a word is a scale: a number and an `x`. -/
def IsScaleWord (word : List Char) : Prop :=
  ∃ digits x, isNumber digits ∧ (x = 'x' ∨ x = 'X') ∧ word = digits ++ [x]

theorem IsVersionWord.exists_write {word : List Char} (hword : IsVersionWord word) :
    ∃ digits, ∃ hdigits : isNumber digits, ∃ style : LetterStyle,
      word = style.write (CanonicalToken.version digits hdigits).chars := by
  obtain ⟨v, digits, hv, hdigits, rfl⟩ := hword
  have hupper : LetterStyle.capitals.write digits = digits :=
    LetterStyle.write_digits _ (isNumber_iff.mp hdigits).2
  rcases hv with rfl | rfl
  · exact ⟨digits, hdigits, .small, rfl⟩
  · exact ⟨digits, hdigits, .capitals, congrArg ('V' :: ·) hupper.symm⟩

theorem IsScaleWord.exists_write {word : List Char} (hword : IsScaleWord word) :
    ∃ digits, ∃ hdigits : isNumber digits, ∃ style : LetterStyle,
      word = style.write (CanonicalToken.scale digits hdigits).chars := by
  obtain ⟨digits, x, hdigits, hx, rfl⟩ := hword
  have hupper : LetterStyle.capitals.write digits = digits :=
    LetterStyle.write_digits _ (isNumber_iff.mp hdigits).2
  rcases hx with rfl | rfl
  · exact ⟨digits, hdigits, .small, rfl⟩
  · refine ⟨digits, hdigits, .capitals, ?_⟩
    calc digits ++ ['X']
        = LetterStyle.capitals.write digits ++ ['X'] := by rw [hupper]
      _ = LetterStyle.capitals.write (digits ++ ['x']) := by
        rw [LetterStyle.write, LetterStyle.write, List.map_append]
        rfl

section

variable {init tokens rest : List (List Char)} {a b digits stem : List Char}

/-- A notation is put together if its first part is not open with the token before it. -/
theorem fuse_append_notation (hjoins : areNotation a b)
    (hmeet : ∀ last ∈ tokens.getLast?, areOpen last a = false) :
    fuse (tokens ++ a :: b :: rest) = fuse tokens ++ (a ++ b) :: fuse rest := by
  rw [fuse_append_cons hmeet, fuse_join hjoins]

/-- A token that ends in a `v` takes the number of a scale. -/
theorem fuse_append_taken (hdigits : isNumber digits) :
    fuse ((init ++ [stem ++ ['v']]) ++ digits :: ['x'] :: rest) =
      fuse init ++ (if stem = [] then [] else [stem]) ++
        ('v' :: digits) :: ['x'] :: fuse rest := by
  have hrest : fuse (['x'] :: rest) = ['x'] :: fuse rest := by
    cases rest with
    | nil => rw [fuse_singleton, fuse_nil]
    | cons next more => rw [fuse_keep (areOpen_x_left next)]
  have htaken : fuse ((stem ++ ['v']) :: digits :: ['x'] :: rest) =
      (if stem = [] then [] else [stem]) ++ ('v' :: digits) :: ['x'] :: fuse rest := by
    by_cases hstem : stem = []
    · have hjoins : areNotation ['v'] digits := areNotation_iff.mpr (Or.inl ⟨rfl, hdigits⟩)
      rw [if_pos hstem, hstem, List.nil_append, fuse_join hjoins, hrest]
      rfl
    · rw [if_neg hstem, fuse_final hstem hdigits, hrest]
      rfl
  rw [List.append_assoc, List.singleton_append, fuse_append_final, htaken, List.append_assoc]

end

section

variable {before word after : List Char}

/-- A version between separators is one token. -/
theorem tokenChars_version (hbefore : before.getLast?.all isSeparator)
    (hafter : after.head?.all isSeparator) (hword : IsVersionWord word) :
    tokenChars (before ++ word ++ after) =
      tokenChars before ++ Text.lowerChars word :: tokenChars after := by
  obtain ⟨digits, hdigits, style, rfl⟩ := hword.exists_write
  have hjoins : areNotation ['v'] digits := areNotation_iff.mpr (Or.inl ⟨rfl, hdigits⟩)
  have hmeet : ∀ last ∈ (parts before).getLast?, areOpen last ['v'] = false :=
    fun last _ => areOpen_final last []
  rw [tokenChars, parts_alone hbefore hafter,
    style.lowerChars_write (CanonicalToken.isSmall_or_isDigit _), List.append_assoc]
  exact fuse_append_notation hjoins hmeet

/-- A scale between separators is one token if no `v` comes before it. -/
theorem tokenChars_scale (hbefore : before.getLast?.all isSeparator)
    (hafter : after.head?.all isSeparator) (hword : IsScaleWord word)
    (hends : endsInV before = false) :
    tokenChars (before ++ word ++ after) =
      tokenChars before ++ Text.lowerChars word :: tokenChars after := by
  obtain ⟨digits, hdigits, style, rfl⟩ := hword.exists_write
  have hjoins : areNotation digits ['x'] := areNotation_iff.mpr (Or.inr ⟨hdigits, rfl⟩)
  have hmeet : ∀ last ∈ (parts before).getLast?, areOpen last digits = false := by
    intro last hlast
    refine Bool.eq_false_iff.mpr fun hopen => ?_
    rcases areOpen_iff.mp hopen with ⟨hv, -⟩ | ⟨-, rfl⟩
    · rw [(exists_getLast?_parts_iff before).mp ⟨last, hlast, hv⟩] at hends
      cases hends
    · exact absurd hdigits (by decide)
  rw [tokenChars, parts_alone hbefore hafter,
    style.lowerChars_write (CanonicalToken.isSmall_or_isDigit _), List.append_assoc]
  exact fuse_append_notation hjoins hmeet

/-- A `v` before a scale takes the number, and leaves the `x`. -/
theorem tokenChars_scale_taken (hbefore : before.getLast?.all isSeparator)
    (hafter : after.head?.all isSeparator) (hword : IsScaleWord word)
    (hends : endsInV before) :
    ∃ first stem digits, isNumber digits ∧ Text.lowerChars word = digits ++ ['x'] ∧
      tokenChars before = first ++ [stem ++ ['v']] ∧
      tokenChars (before ++ word ++ after) =
        first ++ (if stem = [] then [] else [stem]) ++
          ('v' :: digits) :: ['x'] :: tokenChars after := by
  obtain ⟨digits, hdigits, style, rfl⟩ := hword.exists_write
  obtain ⟨last, hlast, hv⟩ := (exists_getLast?_parts_iff before).mpr hends
  obtain ⟨init, hparts⟩ := List.getLast?_eq_some_iff.mp hlast
  obtain ⟨stem, rfl⟩ := List.getLast?_eq_some_iff.mp hv
  refine ⟨fuse init, stem, digits, hdigits, ?_, ?_, ?_⟩
  · exact style.lowerChars_write (CanonicalToken.isSmall_or_isDigit _)
  · rw [tokenChars, hparts, fuse_append_final, fuse_singleton]
  · rw [tokenChars, parts_alone hbefore hafter, hparts, List.append_assoc]
    exact fuse_append_taken hdigits

end

/-- **Notation that stands alone.**  A version between separators is one token, whatever
surrounds it, and so is a scale, unless the last character before it that is no separator is
a `v`.  Then the number goes to that `v`, and the `x` is left. -/
theorem tokens_notation_alone (before word after : String)
    (hbefore : before.toList.getLast?.all isSeparator)
    (hafter : after.toList.head?.all isSeparator) :
    (IsVersionWord word.toList →
      tokens (before ++ word ++ after) = tokens before ++ Text.lower word :: tokens after) ∧
    (IsScaleWord word.toList → endsInV before.toList = false →
      tokens (before ++ word ++ after) = tokens before ++ Text.lower word :: tokens after) ∧
    (IsScaleWord word.toList → endsInV before.toList →
      ∃ first stem number, Text.lower word = number ++ "x" ∧
        tokens before = first ++ [stem ++ "v"] ∧
        tokens (before ++ word ++ after) =
          first ++ (if stem = "" then [] else [stem]) ++ ("v" ++ number) :: "x" :: tokens after) := by
  have hchars : (before ++ word ++ after).toList = before.toList ++ word.toList ++ after.toList := by
    rw [String.toList_append, String.toList_append]
  refine ⟨fun hword => ?_, fun hword hends => ?_, fun hword hends => ?_⟩
  · rw [tokens, hchars, tokenChars_version hbefore hafter hword, List.map_append, List.map_cons]
    rfl
  · rw [tokens, hchars, tokenChars_scale hbefore hafter hword hends, List.map_append,
      List.map_cons]
    rfl
  · obtain ⟨first, stem, digits, -, hlower, hfirst, htokens⟩ :=
      tokenChars_scale_taken hbefore hafter hword hends
    refine ⟨first.map String.ofList, String.ofList stem, String.ofList digits, ?_, ?_, ?_⟩
    · rw [Text.lower, hlower, String.ofList_append]
    · rw [tokens, hfirst, List.map_append, List.map_singleton, String.ofList_append]
    · have hstem : (if stem = [] then [] else [stem]).map String.ofList =
          if String.ofList stem = "" then [] else [String.ofList stem] := by
        rw [apply_ite (List.map String.ofList)]
        simp only [String.ofList_eq_empty_iff, List.map_nil, List.map_singleton]
      have hversion : String.ofList ('v' :: digits) = "v" ++ String.ofList digits := by
        rw [← List.singleton_append, String.ofList_append]
      rw [tokens, hchars, htokens, List.map_append, List.map_append, hstem, List.map_cons,
        List.map_cons, hversion]
      rfl

/-- A version after a word that ends in a `v`, a scale before one, and a scale after one. -/
theorem tokens_notation_alone_sample :
    tokens ("dev " ++ "V2" ++ "-4x") = tokens "dev " ++ "v2" :: tokens "-4x" ∧
      tokens ("mod (" ++ "4X" ++ "_v") = tokens "mod (" ++ "4x" :: tokens "_v" ∧
      ∃ first stem number, Text.lower "4x" = number ++ "x" ∧
        tokens "a dev: " = first ++ [stem ++ "v"] ∧
        tokens ("a dev: " ++ "4x" ++ "") =
          first ++ (if stem = "" then [] else [stem]) ++ ("v" ++ number) :: "x" :: tokens "" := by
  have hversion : IsVersionWord "V2".toList := ⟨'V', ['2'], by decide⟩
  have hscale : IsScaleWord "4X".toList := ⟨['4'], 'X', by decide⟩
  have hscale' : IsScaleWord "4x".toList := ⟨['4'], 'x', by decide⟩
  refine ⟨?_, ?_, ?_⟩
  · exact (tokens_notation_alone "dev " "V2" "-4x" (by decide) (by decide)).1 hversion
  · exact (tokens_notation_alone "mod (" "4X" "_v" (by decide) (by decide)).2.1 hscale (by decide)
  · exact (tokens_notation_alone "a dev: " "4x" "" (by decide) (by decide)).2.2 hscale' (by decide)

/-- A scale between separators that is no token, since a `v` before it takes its number. -/
theorem not_mem_tokens_taken :
    IsScaleWord "4x".toList ∧ "v ".toList.getLast?.all isSeparator ∧
      "".toList.head?.all isSeparator ∧ tokens ("v " ++ "4x" ++ "") = ["v4", "x"] ∧
      Text.lower "4x" ∉ tokens ("v " ++ "4x" ++ "") := by
  refine ⟨⟨['4'], 'x', by decide⟩, ?_⟩
  decide +kernel

end FacetSearch.Query
