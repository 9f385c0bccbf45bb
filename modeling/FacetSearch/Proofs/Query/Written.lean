import FacetSearch.Proofs.Query.Breaks

/-!
# Tokens as they are written

A `CanonicalToken` is a token that a query can be written for: a word of small letters
without a format word inside, a number, a version such as `v2`, or a scale such as
`4x`.  A `Placement` is one of them as it stands in a query, with separators in front
and its letters in one of three styles: small, all capitals, or with a capital initial.

Wherever a written token ends, the walk through the query has cut it into the parts
that the token is put together from (`Cursor.parts_write`): a word is one part, a
version or a scale two.
-/

namespace FacetSearch.Query

/-! ## Canonical tokens -/

/-- Whether a text is a word: small letters, with no format word inside.  A format word
alone is a word. -/
def IsWord (letters : List Char) : Prop :=
  letters ≠ [] ∧ (∀ c ∈ letters, isSmall c) ∧
    ∀ format ∈ formatWords, format <:+: letters → format = letters

-- the letters of the text are tested, not all characters there are
instance (letters : List Char) : Decidable (IsWord letters) :=
  have : Decidable (∀ c ∈ letters, isSmall c) := List.decidableBAll _ letters
  inferInstanceAs (Decidable (_ ∧ _ ∧ _))

/-- A token that a query can be written for. -/
inductive CanonicalToken where
  | word (letters : List Char) (hletters : IsWord letters)
  | number (digits : List Char) (hdigits : isNumber digits)
  | version (digits : List Char) (hdigits : isNumber digits)
  | scale (digits : List Char) (hdigits : isNumber digits)

namespace CanonicalToken

/-- The characters of a token. -/
def chars : CanonicalToken → List Char
  | word letters _ => letters
  | number digits _ => digits
  | version digits _ => 'v' :: digits
  | scale digits _ => digits ++ ['x']

/-- The parts that a token is put together from. -/
def parts : CanonicalToken → List (List Char)
  | word letters _ => [letters]
  | number digits _ => [digits]
  | version digits _ => [['v'], digits]
  | scale digits _ => [digits, ['x']]

/-- Whether a token is a word of two or more letters. -/
def IsLongWord : CanonicalToken → Prop
  | word letters _ => 2 ≤ letters.length
  | _ => False

instance (token : CanonicalToken) : Decidable token.IsLongWord :=
  match token with
  | word letters _ => inferInstanceAs (Decidable (2 ≤ letters.length))
  | number _ _ | version _ _ | scale _ _ => inferInstanceAs (Decidable False)

end CanonicalToken

/-! ## Written tokens -/

/-- How the letters of a token are written. -/
inductive LetterStyle where
  /-- As small letters. -/
  | small
  /-- As capitals. -/
  | capitals
  /-- As small letters after a capital. -/
  | initial
deriving DecidableEq, Repr

/-- A text in a style of letters.  Digits stay what they are. -/
def LetterStyle.write : LetterStyle → List Char → List Char
  | small, cs => cs
  | capitals, cs => cs.map Char.toUpper
  | initial, [] => []
  | initial, c :: rest => c.toUpper :: rest

/-- A token as it stands in a query. -/
structure Placement where
  /-- The separators in front of the token. -/
  gap : List Char
  gap_separates : ∀ c ∈ gap, isSeparator c
  token : CanonicalToken
  style : LetterStyle

namespace Placement

/-- The characters that a placement takes up. -/
def written (placement : Placement) : List Char :=
  placement.gap ++ placement.style.write placement.token.chars

/-- Whether a token may follow another one: separators divide the two, or a capital
initial does. -/
def IsDivided (placement : Placement) : Prop :=
  placement.gap ≠ [] ∨ placement.style = .initial ∧ placement.token.IsLongWord

instance (placement : Placement) : Decidable placement.IsDivided :=
  inferInstanceAs (Decidable (_ ∨ _))

end Placement

/-- A query: tokens as they stand in it, and separators at its end. -/
def written (placements : List Placement) (trailing : List Char) : List Char :=
  placements.flatMap Placement.written ++ trailing

/-! ## Format words in words -/

theorem formatWordAt?_eq_none {cs : List Char}
    (hformats : ∀ format ∈ formatWords, ¬format <:+: cs) : formatWordAt? cs = none := by
  refine List.find?_eq_none.mpr fun format hformat hstarts => ?_
  exact hformats format hformat (List.isPrefixOf_iff_prefix.mp hstarts).isInfix

theorem splitFormatsAfter_eq_singleton {part cs : List Char}
    (hformats : ∀ format ∈ formatWords, ¬format <:+: cs) :
    splitFormatsAfter part cs = [part.reverse ++ cs] := by
  induction cs generalizing part with
  | nil => simp [splitFormatsAfter]
  | cons c rest ih =>
      have hrest : ∀ format ∈ formatWords, ¬format <:+: rest :=
        fun format hformat hoccurs =>
          hformats format hformat (hoccurs.trans (List.suffix_cons c rest).isInfix)
      have hread : splitFormatsAfter (c :: part) rest = [(c :: part).reverse ++ rest] := ih hrest
      rw [splitFormatsAfter, formatWordAt?_eq_none hformats]
      simpa using hread

theorem splitFormats_formatWord {format : List Char} (hformat : format ∈ formatWords) :
    splitFormats format = [format] := by
  have hfound : formatWordAt? format = some format := by
    revert format
    decide
  cases format with
  | nil => cases hfound
  | cons c rest => simp [splitFormats, splitFormatsAfter, hfound]

/-- No format word is cut out of a text if at most the whole text is one. -/
theorem splitFormats_eq_singleton {cs : List Char} (hnonempty : cs ≠ [])
    (hformats : ∀ format ∈ formatWords, format <:+: cs → format = cs) :
    splitFormats cs = [cs] := by
  by_cases hcs : cs ∈ formatWords
  · exact splitFormats_formatWord hcs
  · have hnone : ∀ format ∈ formatWords, ¬format <:+: cs := by
      intro format hformat hoccurs
      exact hcs (hformats format hformat hoccurs ▸ hformat)
    rw [splitFormats, splitFormatsAfter_eq_singleton hnone]
    simpa using hnonempty

/-- There are only letters in format words, so none of them occurs in other characters. -/
theorem splitFormats_of_not_small {cs : List Char} (hnonempty : cs ≠ [])
    (hcs : ∀ c ∈ cs, isSmall c = false) : splitFormats cs = [cs] := by
  refine splitFormats_eq_singleton hnonempty fun format hformat hoccurs => ?_
  have hletters : ∀ format ∈ formatWords, format.head?.any isSmall := by decide
  obtain ⟨c, hc, hsmall⟩ := (Option.any_eq_true _ _).mp (hletters format hformat)
  have hnone := hcs c (hoccurs.subset (List.mem_of_head? hc))
  simp [hnone] at hsmall

/-! ## Styles -/

theorem isNumber_iff {digits : List Char} :
    isNumber digits ↔ digits ≠ [] ∧ ∀ d ∈ digits, isDigit d := by
  simp [isNumber]

theorem flatMap_eq_self {cs : List Char} {f : Char → List Char} (hf : ∀ c ∈ cs, f c = [c]) :
    cs.flatMap f = cs := by
  induction cs with
  | nil => rfl
  | cons c rest ih =>
      obtain ⟨hc, hrest⟩ := List.forall_mem_cons.mp hf
      rw [List.flatMap_cons, hc, ih hrest, List.singleton_append]

/-- A text is in lowercase if all of its characters are. -/
theorem lowerChars_eq_self {cs : List Char} (hcs : ∀ c ∈ cs, lowerChar c = [c]) :
    Text.lowerChars cs = cs := by
  have hsigma : 'Σ' ∉ cs := by
    intro hmem
    have hlower := hcs _ hmem
    revert hlower
    decide
  rw [Text.lowerChars_eq_flatMap hsigma, flatMap_eq_self hcs]

theorem lowerChars_of_isNumber {digits : List Char} (hdigits : isNumber digits) :
    Text.lowerChars digits = digits :=
  lowerChars_eq_self fun d hd => (toUpper_of_isDigit ((isNumber_iff.mp hdigits).2 d hd)).2

theorem splitFormats_of_isNumber {digits : List Char} (hdigits : isNumber digits) :
    splitFormats digits = [digits] := by
  obtain ⟨hnonempty, hall⟩ := isNumber_iff.mp hdigits
  refine splitFormats_of_not_small hnonempty fun d hd => ?_
  obtain ⟨-, -, -, -, hsmall, -⟩ := classes_of_isDigit (hall d hd)
  exact hsmall

/-- The characters that tokens are made of, as small letters or as capitals. -/
theorem written_char {c : Char} (hc : isSmall c ∨ isDigit c) {d : Char}
    (hd : d = c ∨ d = c.toUpper) :
    lowerChar d = [c] ∧ isSeparator d = false ∧ d ≠ 'Σ' := by
  have hsigma : isSmall 'Σ' = false ∧ isCapital 'Σ' = false ∧ isDigit 'Σ' = false := by decide
  rcases hc with hsmall | hdigit
  · rcases hd with rfl | rfl
    · refine ⟨lowerChar_of_isSmall hsmall, (classes_of_isSmall hsmall).1, ?_⟩
      rintro rfl
      simp [hsigma.1] at hsmall
    · obtain ⟨hcapital, hlower⟩ := toUpper_of_isSmall hsmall
      refine ⟨hlower, (classes_of_isCapital hcapital).1, fun heq => ?_⟩
      simp [heq, hsigma.2.1] at hcapital
  · obtain ⟨hupper, hlower⟩ := toUpper_of_isDigit hdigit
    have heq : d = c := by simpa [hupper] using hd
    subst heq
    refine ⟨hlower, (classes_of_isDigit hdigit).1, ?_⟩
    rintro rfl
    simp [hsigma.2.2] at hdigit

/-- A letter is too short for a format word. -/
theorem splitFormats_lowerChars_letter {c d : Char} (hc : isSmall c)
    (hd : d = c ∨ d = c.toUpper) : splitFormats (Text.lowerChars [d]) = [[c]] := by
  obtain ⟨hlower, -, hsigma⟩ := written_char (Or.inl hc) hd
  have hchars : Text.lowerChars [d] = [c] := by
    rw [Text.lowerChars_eq_flatMap (by simpa using Ne.symm hsigma), List.flatMap_singleton, hlower]
  rw [hchars]
  refine splitFormats_eq_singleton (List.cons_ne_nil _ _) fun format hformat hoccurs => ?_
  have hlong : ∀ format ∈ formatWords, 1 < format.length := by decide
  have hshort : format.length ≤ 1 := hoccurs.length_le
  have := hlong format hformat
  omega

namespace LetterStyle

variable {cs : List Char}

theorem write_ne_nil (style : LetterStyle) (hcs : cs ≠ []) : style.write cs ≠ [] := by
  cases cs with
  | nil => exact absurd rfl hcs
  | cons c rest => cases style <;> simp [write]

theorem mem_write {style : LetterStyle} {d : Char} (hd : d ∈ style.write cs) :
    ∃ c ∈ cs, d = c ∨ d = c.toUpper := by
  cases style with
  | small => exact ⟨d, hd, Or.inl rfl⟩
  | capitals =>
      obtain ⟨c, hc, rfl⟩ := List.mem_map.mp hd
      exact ⟨c, hc, Or.inr rfl⟩
  | initial =>
      cases cs with
      | nil => cases hd
      | cons c rest =>
          rcases List.mem_cons.mp hd with rfl | hrest
          · exact ⟨c, List.mem_cons_self, Or.inr rfl⟩
          · exact ⟨d, List.mem_cons_of_mem _ hrest, Or.inl rfl⟩

/-- Lowercase undoes every style. -/
theorem lowerChars_write (style : LetterStyle) (hcs : ∀ c ∈ cs, isSmall c ∨ isDigit c) :
    Text.lowerChars (style.write cs) = cs := by
  have hsigma : 'Σ' ∉ style.write cs := by
    intro hmem
    obtain ⟨c, hc, hform⟩ := mem_write hmem
    exact (written_char (hcs c hc) hform).2.2 rfl
  rw [Text.lowerChars_eq_flatMap hsigma]
  cases style with
  | small => exact flatMap_eq_self fun c hc => (written_char (hcs c hc) (Or.inl rfl)).1
  | capitals =>
      rw [write, List.flatMap_map]
      exact flatMap_eq_self fun c hc => (written_char (hcs c hc) (Or.inr rfl)).1
  | initial =>
      cases cs with
      | nil => rfl
      | cons c rest =>
          obtain ⟨hc, hrest⟩ := List.forall_mem_cons.mp hcs
          rw [write, List.flatMap_cons, (written_char hc (Or.inr rfl)).1,
            flatMap_eq_self fun d hd => (written_char (hrest d hd) (Or.inl rfl)).1,
            List.singleton_append]

theorem isSeparator_of_mem_write {style : LetterStyle} (hcs : ∀ c ∈ cs, isSmall c ∨ isDigit c)
    {d : Char} (hd : d ∈ style.write cs) : isSeparator d = false := by
  obtain ⟨c, hc, hform⟩ := mem_write hd
  exact (written_char (hcs c hc) hform).2.1

/-- Digits are written in one way. -/
theorem write_digits (style : LetterStyle) {digits : List Char}
    (hdigits : ∀ d ∈ digits, isDigit d) :
    style.write digits = digits := by
  have hupper : ∀ d ∈ digits, d.toUpper = d := fun d hd => (toUpper_of_isDigit (hdigits d hd)).1
  cases style with
  | small => rfl
  | capitals =>
      calc digits.map Char.toUpper
          = digits.map id := List.map_congr_left hupper
        _ = digits := List.map_id digits
  | initial =>
      cases digits with
      | nil => rfl
      | cons d rest => rw [write, hupper d List.mem_cons_self]

/-- The `v` of a version is written in one of two ways. -/
theorem exists_write_version (style : LetterStyle) {digits : List Char}
    (hdigits : ∀ d ∈ digits, isDigit d) :
    ∃ v, (v = 'v' ∨ v = 'v'.toUpper) ∧ style.write ('v' :: digits) = v :: digits := by
  cases style with
  | small => exact ⟨'v', Or.inl rfl, rfl⟩
  | capitals =>
      have hmap : digits.map Char.toUpper = digits := capitals.write_digits hdigits
      exact ⟨_, Or.inr rfl, by rw [write, List.map_cons, hmap]⟩
  | initial => exact ⟨_, Or.inr rfl, rfl⟩

/-- The `x` of a scale is written in one of two ways. -/
theorem exists_write_scale (style : LetterStyle) {digits : List Char}
    (hnonempty : digits ≠ []) (hdigits : ∀ d ∈ digits, isDigit d) :
    ∃ x, (x = 'x' ∨ x = 'x'.toUpper) ∧ style.write (digits ++ ['x']) = digits ++ [x] := by
  cases style with
  | small => exact ⟨'x', Or.inl rfl, rfl⟩
  | capitals =>
      have hmap : digits.map Char.toUpper = digits := capitals.write_digits hdigits
      exact ⟨_, Or.inr rfl, by rw [write, List.map_append, hmap, List.map_singleton]⟩
  | initial =>
      cases digits with
      | nil => exact absurd rfl hnonempty
      | cons d rest =>
          have hd := (toUpper_of_isDigit (hdigits d List.mem_cons_self)).1
          exact ⟨'x', Or.inl rfl, by rw [List.cons_append, write, hd]⟩

end LetterStyle

/-! ## Parts of written tokens -/

namespace CanonicalToken

theorem chars_ne_nil (token : CanonicalToken) : token.chars ≠ [] := by
  cases token with
  | word letters hletters => exact hletters.1
  | number digits hdigits => exact (isNumber_iff.mp hdigits).1
  | version digits hdigits => exact List.cons_ne_nil _ _
  | scale digits hdigits => simp [chars]

theorem IsLongWord.exists_chars {token : CanonicalToken} (hlong : token.IsLongWord) :
    ∃ c d more, token.chars = c :: d :: more ∧ isSmall c ∧ isSmall d := by
  cases token with
  | word letters hletters =>
      have hlength : 2 ≤ letters.length := hlong
      obtain ⟨-, hsmall, -⟩ := hletters
      match letters, hlength with
      | c :: d :: more, _ =>
          have hd : d ∈ c :: d :: more := List.mem_cons_of_mem _ List.mem_cons_self
          exact ⟨c, d, more, rfl, hsmall c List.mem_cons_self, hsmall d hd⟩
  | number | version | scale => exact hlong.elim

theorem isSmall_or_isDigit (token : CanonicalToken) :
    ∀ c ∈ token.chars, isSmall c ∨ isDigit c := by
  intro c hc
  cases token with
  | word letters hletters => exact Or.inl (hletters.2.1 c hc)
  | number digits hdigits => exact Or.inr ((isNumber_iff.mp hdigits).2 c hc)
  | version digits hdigits =>
      rcases List.mem_cons.mp hc with rfl | hdigit
      · exact Or.inl (by decide)
      · exact Or.inr ((isNumber_iff.mp hdigits).2 c hdigit)
  | scale digits hdigits =>
      rcases List.mem_append.mp hc with hdigit | hx
      · exact Or.inr ((isNumber_iff.mp hdigits).2 c hdigit)
      · cases List.mem_singleton.mp hx
        exact Or.inl (by decide)

end CanonicalToken

namespace Cursor

variable {passed after : List Char}

/-- A word is one part in every style. -/
theorem parts_write_word {letters : List Char} (hletters : IsWord letters) (style : LetterStyle)
    (hafter : EndsWord after) :
    parts ⟨passed, [], style.write letters ++ after⟩ =
      letters :: parts ⟨(style.write letters).reverse ++ passed, [], after⟩ := by
  obtain ⟨hnonempty, hsmall, hformats⟩ := hletters
  have hlower : Text.lowerChars (style.write letters) = letters :=
    style.lowerChars_write fun c hc => Or.inl (hsmall c hc)
  have hpart : splitFormats (Text.lowerChars (style.write letters)) = [letters] := by
    rw [hlower, splitFormats_eq_singleton hnonempty hformats]
  have hparts : parts ⟨passed, [], style.write letters ++ after⟩ =
      splitFormats (Text.lowerChars (style.write letters)) ++
        parts ⟨(style.write letters).reverse ++ passed, [], after⟩ := by
    match letters with
    | [] => exact absurd rfl hnonempty
    | c :: rest =>
        obtain ⟨hc, hrest⟩ := List.forall_mem_cons.mp hsmall
        have hcapital : isCapital c.toUpper := (toUpper_of_isSmall hc).1
        cases style with
        | small => exact parts_smalls (Or.inl hc) hrest hafter
        | initial => exact parts_smalls (Or.inr hcapital) hrest hafter
        | capitals =>
            by_cases hlong : rest = []
            · -- a single capital is written like an initial
              subst hlong
              exact parts_smalls (Or.inr hcapital) hrest hafter
            · refine parts_capitals ?_ ?_ hafter
              · intro d hd
                obtain ⟨e, he, rfl⟩ := List.mem_map.mp hd
                exact (toUpper_of_isSmall (hsmall e he)).1
              · have := List.length_pos_iff.mpr hlong
                simp only [LetterStyle.write, List.length_map, List.length_cons]
                omega
  rw [hparts, hpart, List.singleton_append]

theorem parts_number {digits : List Char} (hdigits : isNumber digits)
    (hafter : after.head?.any isDigit = false) :
    parts ⟨passed, [], digits ++ after⟩ =
      digits :: parts ⟨digits.reverse ++ passed, [], after⟩ := by
  obtain ⟨hnonempty, hall⟩ := isNumber_iff.mp hdigits
  rw [parts_digits hall hnonempty hafter, lowerChars_of_isNumber hdigits,
    splitFormats_of_isNumber hdigits, List.singleton_append]

/-- Every written token is cut into the parts that it is put together from. -/
theorem parts_write (token : CanonicalToken) (style : LetterStyle) (hafter : EndsWord after) :
    parts ⟨passed, [], style.write token.chars ++ after⟩ =
      token.parts ++ parts ⟨(style.write token.chars).reverse ++ passed, [], after⟩ := by
  cases token with
  | word letters hletters => exact parts_write_word hletters style hafter
  | number digits hdigits =>
      have hwritten : style.write digits = digits :=
        style.write_digits (isNumber_iff.mp hdigits).2
      rw [CanonicalToken.chars, hwritten, parts_number hdigits hafter.any_isDigit_head?]
      rfl
  | version digits hdigits =>
      obtain ⟨hnonempty, hall⟩ := isNumber_iff.mp hdigits
      obtain ⟨v, hv, hwritten⟩ := style.exists_write_version hall
      have hhead : (digits ++ after).head?.any isDigit := by
        cases digits with
        | nil => exact absurd rfl hnonempty
        | cons d rest => exact hall d List.mem_cons_self
      rw [CanonicalToken.chars, hwritten, List.cons_append, parts_version hv hhead,
        splitFormats_lowerChars_letter (by decide) hv,
        parts_number hdigits hafter.any_isDigit_head?]
      simp [CanonicalToken.parts]
  | scale digits hdigits =>
      obtain ⟨hnonempty, hall⟩ := isNumber_iff.mp hdigits
      obtain ⟨x, hx, hwritten⟩ := style.exists_write_scale hnonempty hall
      have hclasses : (isSmall x ∨ isCapital x) ∧ isDigit x = false := by
        rcases hx with rfl | rfl <;> decide
      have hletter : parts ⟨digits.reverse ++ passed, [], [x] ++ after⟩ =
          ['x'] :: parts ⟨x :: (digits.reverse ++ passed), [], after⟩ := by
        rw [parts_smalls hclasses.1 (by simp) hafter, splitFormats_lowerChars_letter (by decide) hx]
        rfl
      rw [CanonicalToken.chars, hwritten, List.append_assoc,
        parts_number hdigits (by simpa using hclasses.2), hletter]
      simp [CanonicalToken.parts]

end Cursor

/-! ## Parts of a written query -/

/-- What follows a token in a query is a place where a word can end. -/
theorem endsWord_written {placements : List Placement} {trailing : List Char}
    (htrailing : ∀ c ∈ trailing, isSeparator c)
    (hdivided : ∀ next ∈ placements.head?, next.IsDivided) :
    EndsWord (written placements trailing) := by
  cases placements with
  | nil =>
      cases trailing with
      | nil => exact .finish
      | cons c rest => exact .separator (htrailing c List.mem_cons_self)
  | cons next rest =>
      obtain ⟨gap, hgap, token, style⟩ := next
      cases gap with
      | cons c more => exact .separator (hgap c List.mem_cons_self)
      | nil =>
          obtain ⟨rfl, hlong⟩ := (hdivided _ rfl).resolve_left (fun hgap => hgap rfl)
          obtain ⟨c, d, more, hchars, hc, hd⟩ := hlong.exists_chars
          have hwritten : written (⟨[], hgap, token, .initial⟩ :: rest) trailing =
              c.toUpper :: d :: (more ++ written rest trailing) := by
            simp [written, Placement.written, hchars, LetterStyle.write]
          rw [hwritten]
          exact .initial (toUpper_of_isSmall hc).1 hd

/-- A written query is cut into the parts of its tokens. -/
theorem Cursor.parts_written {placements : List Placement} {trailing : List Char}
    (htrailing : ∀ c ∈ trailing, isSeparator c)
    (hdivided : ∀ next ∈ placements.tail, next.IsDivided) (passed : List Char) :
    Cursor.parts ⟨passed, [], written placements trailing⟩ =
      placements.flatMap fun placement => placement.token.parts := by
  induction placements generalizing passed with
  | nil =>
      rw [written, List.flatMap_nil, List.nil_append, ← List.append_nil trailing,
        parts_separators htrailing rfl, parts, pieces_finish]
      rfl
  | cons placement rest ih =>
      have hfollowed : EndsWord (written rest trailing) :=
        endsWord_written htrailing fun next hnext => hdivided next (List.mem_of_head? hnext)
      have hrest : ∀ next ∈ rest.tail, next.IsDivided :=
        fun next hnext => hdivided next (List.mem_of_mem_tail hnext)
      have hletter : (placement.style.write placement.token.chars ++
          written rest trailing).head?.any isSeparator = false := by
        cases hwritten : placement.style.write placement.token.chars with
        | nil => exact absurd hwritten (placement.style.write_ne_nil placement.token.chars_ne_nil)
        | cons c more =>
            have hc : c ∈ placement.style.write placement.token.chars := by
              rw [hwritten]
              exact List.mem_cons_self
            exact LetterStyle.isSeparator_of_mem_write placement.token.isSmall_or_isDigit hc
      have hsplit : written (placement :: rest) trailing = placement.gap ++
          (placement.style.write placement.token.chars ++ written rest trailing) := by
        simp [written, Placement.written]
      rw [hsplit, parts_separators placement.gap_separates hletter, parts_write _ _ hfollowed,
        ih hrest, List.flatMap_cons]

end FacetSearch.Query
