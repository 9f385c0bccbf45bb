import FacetSearch.Proofs.Catalogue.Connector

/-!
# License expressions

An expression is cut at its connectors, from left to right.  Two connectors may compete for the
same blanks, as in `A or or B`, where the first one takes them and leaves `or B` behind.  A cut is
described without the search for it by `Divides`: no connector begins in a part, the blanks of
the connector behind it included (`Undivided`), and none of the parts is padded.  Every trimmed
text has just one such division, and it is the one that is found
(`divides_alternativesAfter`, `Divides.alternativesAfter_eq`).

Which connectors stand between the parts does not matter.  All that a part sees of the next
connector is that it starts with a blank (`Undivided.of_blank`), so a division is kept when all
connectors are written in the same way (`Divides.intercalate`), and ids without blanks can be
written with any (`WrittenChoice`).
-/

namespace FacetSearch.Catalogue

/-! ## Divisions -/

/-- Whether no connector begins in a part of a text, with `next` behind the part. -/
def Undivided (part next : List Char) : Prop :=
  ∀ behind, behind ≠ [] → behind <:+ part →
    ∀ connector : Connector, ¬connector.chars <+: behind ++ next

/-- Whether a text can be one of several alternatives: it is not empty, has no blanks at its
ends, and no connector inside. -/
structure IsAlternative (part : List Char) : Prop where
  ne_nil : part ≠ []
  startsVisible : StartsVisible part
  endsVisible : EndsVisible part
  not_isInfix : ∀ connector : Connector, ¬connector.chars <:+: part

/-- Whether a text is a choice between some parts: each one ends where the first connector
behind its start begins, and the next one begins where that connector ends. -/
inductive Divides : List Char → List (List Char) → Prop
  | last {part : List Char} (halternative : IsAlternative part) : Divides part [part]
  | more {part rest : List Char} {parts : List (List Char)} (connector : Connector)
      (halternative : IsAlternative part) (hundivided : Undivided part connector.chars)
      (hrest : Divides rest parts) : Divides (part ++ (connector.chars ++ rest)) (part :: parts)

variable {part next : List Char}

theorem undivided_nil (next : List Char) : Undivided [] next := by
  intro behind hne hsuffix
  exact absurd (List.suffix_nil.mp hsuffix) hne

theorem undivided_cons_iff {c : Char} :
    Undivided (c :: part) next ↔
      afterConnector? (c :: (part ++ next)) = none ∧ Undivided part next := by
  rw [afterConnector?_eq_none_iff]
  constructor
  · intro hundivided
    refine ⟨hundivided (c :: part) (List.cons_ne_nil c part) List.suffix_rfl, ?_⟩
    intro behind hne hsuffix
    exact hundivided behind hne (hsuffix.trans (List.suffix_cons c part))
  · rintro ⟨hhere, hlater⟩ behind hne hsuffix
    rcases List.suffix_cons_iff.mp hsuffix with rfl | hrest
    · exact hhere
    · exact hlater behind hne hrest

theorem undivided_nil_right_iff :
    Undivided part [] ↔ ∀ connector : Connector, ¬connector.chars <:+: part := by
  constructor
  · intro hundivided connector hinfix
    obtain ⟨behind, hstarts, hsuffix⟩ := List.infix_iff_prefix_suffix.mp hinfix
    have hne : behind ≠ [] := by
      rintro rfl
      exact connector.chars_ne_nil (List.prefix_nil.mp hstarts)
    apply hundivided behind hne hsuffix connector
    rwa [List.append_nil]
  · intro hno behind _ hsuffix connector hstarts
    rw [List.append_nil] at hstarts
    exact hno connector (hstarts.isInfix.trans hsuffix.isInfix)

/-- What is behind a part can only add connectors. -/
theorem Undivided.of_append {more : List Char} (hundivided : Undivided part (next ++ more)) :
    Undivided part next := by
  intro behind hne hsuffix connector hstarts
  apply hundivided behind hne hsuffix connector
  rw [← List.append_assoc]
  exact hstarts.trans (List.prefix_append _ more)

/-- A text without blanks has no connectors. -/
theorem undivided_of_forall_not_blank (hvisible : ∀ c ∈ part, isBlank c = false)
    (next : List Char) : Undivided part next := by
  intro behind hne hsuffix connector hstarts
  obtain ⟨b, more, hb, hchars⟩ := connector.exists_chars_eq_cons
  obtain ⟨c, rest, rfl⟩ := List.exists_cons_of_ne_nil hne
  rw [hchars, List.cons_append, List.cons_prefix_cons] at hstarts
  rw [hstarts.1, hvisible c (hsuffix.subset List.mem_cons_self)] at hb
  cases hb

/-- All that matters of what comes next is the blank that it starts with, if there is none at
the end of the part: it may end the connector, but nothing else of the connector. -/
theorem exists_prefix_of_blank {behind : List Char} (hne : behind ≠ [])
    (hends : EndsVisible behind) {b b' : Char} (hb : isBlank b = true) (hb' : isBlank b' = true)
    {next next' : List Char} {connector : Connector}
    (hstarts : connector.chars <+: behind ++ b :: next) :
    ∃ other : Connector, other.chars <+: behind ++ b' :: next' := by
  obtain ⟨rest, hrest⟩ := hstarts
  rw [Connector.chars, List.append_assoc, List.append_eq_append_iff] at hrest
  rcases hrest with ⟨word, rfl, hword⟩ | ⟨blanks, hbefore, -⟩
  · rw [List.cons_append, List.cons_append] at hword
    -- how much of the word, and of what is behind it, is still in the part
    rcases word with _ | ⟨o, _ | ⟨r, _ | ⟨a, more⟩⟩⟩
    · have hletter := isBlank_of_isLetterO connector.isLetterO_letterO
      rw [(List.cons.inj hword).1, hb] at hletter
      cases hletter
    · have hletter := isBlank_of_isLetterR connector.isLetterR_letterR
      rw [(List.cons.inj (List.cons.inj hword).2).1, hb] at hletter
      cases hletter
    · simp only [List.cons_append, List.cons.injEq] at hword
      obtain ⟨rfl, rfl, -⟩ := hword
      refine ⟨connector.shorten b' hb', ?_⟩
      rw [List.append_assoc]
      exact connector.isPrefix_shorten hb' next'
    · simp only [List.cons_append, List.cons.injEq] at hword
      obtain ⟨rfl, rfl, hword⟩ := hword
      have ha : isBlank a = true := connector.isBlank_of_after_append hword
      refine ⟨connector.shorten a ha, ?_⟩
      rw [List.append_assoc]
      exact connector.isPrefix_shorten ha (more ++ b' :: next')
  · -- the part would end among the blanks in front of the word
    have hlast := List.getLast?_eq_some_getLast hne
    have hblank := connector.isBlank_before (behind.getLast hne)
      (hbefore ▸ List.mem_append_left blanks (List.getLast_mem hne))
    rw [hends _ hlast] at hblank
    cases hblank

theorem Undivided.of_blank {b b' : Char} {next' : List Char} (hends : EndsVisible part)
    (hb : isBlank b = true) (hb' : isBlank b' = true) (hundivided : Undivided part (b :: next)) :
    Undivided part (b' :: next') := by
  rintro behind hne ⟨front, rfl⟩ connector hstarts
  obtain ⟨other, hother⟩ := exists_prefix_of_blank hne (hends.of_append hne) hb' hb hstarts
  exact hundivided behind hne ⟨front, rfl⟩ other hother

/-- Every connector comes next in the same way. -/
theorem Undivided.of_connector {connector : Connector} (hundivided : Undivided part connector.chars)
    (hends : EndsVisible part) (other : Connector) (rest : List Char) :
    Undivided part (other.chars ++ rest) := by
  obtain ⟨b, more, hb, hchars⟩ := connector.exists_chars_eq_cons
  obtain ⟨b', more', hb', hchars'⟩ := other.exists_chars_eq_cons
  rw [hchars] at hundivided
  rw [hchars']
  exact hundivided.of_blank hends hb hb'

namespace Divides

variable {cs : List Char} {parts : List (List Char)}

theorem startsVisible (hdivides : Divides cs parts) : StartsVisible cs := by
  cases hdivides with
  | last halternative => exact halternative.startsVisible
  | more connector halternative _ _ => exact halternative.startsVisible.append halternative.ne_nil _

theorem ne_nil (hdivides : Divides cs parts) : cs ≠ [] := by
  cases hdivides with
  | last halternative => exact halternative.ne_nil
  | more connector halternative _ _ => exact List.append_ne_nil_of_left_ne_nil halternative.ne_nil _

theorem endsVisible (hdivides : Divides cs parts) : EndsVisible cs := by
  induction hdivides with
  | last halternative => exact halternative.endsVisible
  | more connector halternative _ hrest ih =>
      rw [← List.append_assoc]
      exact ih.append hrest.ne_nil _

theorem parts_ne_nil (hdivides : Divides cs parts) : parts ≠ [] := by
  cases hdivides <;> exact List.cons_ne_nil _ _

theorem isAlternative (hdivides : Divides cs parts) : ∀ part ∈ parts, IsAlternative part := by
  induction hdivides with
  | last halternative => exact List.forall_mem_singleton.mpr halternative
  | more connector halternative _ _ ih => exact List.forall_mem_cons.mpr ⟨halternative, ih⟩

/-- A division stays one when its parts are joined with the usual connector. -/
theorem intercalate (hdivides : Divides cs parts) :
    Divides (Connector.usual.chars.intercalate parts) parts := by
  induction hdivides with
  | last halternative =>
      rw [List.intercalate_singleton]
      exact last halternative
  | more connector halternative hundivided hrest ih =>
      obtain ⟨first, others, hparts⟩ := List.exists_cons_of_ne_nil hrest.parts_ne_nil
      have husual := hundivided.of_connector halternative.endsVisible Connector.usual []
      rw [List.append_nil] at husual
      rw [hparts, List.intercalate_cons_cons, ← hparts, List.append_assoc]
      exact more Connector.usual halternative husual ih

end Divides

/-! ## Alternatives -/

theorem alternativesAfter_of_connector (done : List Char) (connector : Connector)
    (rest : List Char) : alternativesAfter done (connector.chars ++ rest) =
      done.reverse :: alternativesAfter [] (rest.dropWhile isBlank) := by
  have hafter := connector.afterConnector?_append rest
  obtain ⟨b, more, -, hchars⟩ := connector.exists_chars_eq_cons
  rw [hchars, List.cons_append] at hafter ⊢
  rw [alternativesAfter]
  split
  case h_1 after hsome =>
    rw [hafter] at hsome
    cases hsome
    rfl
  case h_2 hnone =>
    rw [hafter] at hnone
    cases hnone

/-- A part in which no connector begins is read as a whole. -/
theorem alternativesAfter_append (hundivided : Undivided part next) (done : List Char) :
    alternativesAfter done (part ++ next) = alternativesAfter (part.reverse ++ done) next := by
  induction part generalizing done with
  | nil => rfl
  | cons c part ih =>
      obtain ⟨hhere, hlater⟩ := undivided_cons_iff.mp hundivided
      rw [List.cons_append, alternativesAfter]
      split
      case h_1 after hsome =>
        rw [hhere] at hsome
        cases hsome
      case h_2 =>
        rw [ih hlater, List.reverse_cons, List.append_assoc, List.singleton_append]

theorem Divides.alternativesAfter_eq {cs : List Char} {parts : List (List Char)}
    (hdivides : Divides cs parts) : alternativesAfter [] cs = parts := by
  induction hdivides with
  | @last part halternative =>
      have hread := alternativesAfter_append
        (undivided_nil_right_iff.mpr halternative.not_isInfix) []
      rw [List.append_nil, List.append_nil] at hread
      rw [hread, alternativesAfter, List.reverse_reverse]
  | @more part rest parts connector halternative hundivided hrest ih =>
      have hread := alternativesAfter_append
        (hundivided.of_connector halternative.endsVisible connector rest) []
      rw [hread, alternativesAfter_of_connector, hrest.startsVisible.dropWhile_eq, ih,
        List.append_nil, List.reverse_reverse]

/-- A text has no connector at all, or there is one that begins first. -/
theorem undivided_or_exists (cs : List Char) :
    Undivided cs [] ∨ ∃ (part : List Char) (connector : Connector) (rest : List Char),
      cs = part ++ (connector.chars ++ rest) ∧ StartsVisible rest ∧
        Undivided part (connector.chars ++ rest) := by
  induction cs with
  | nil => exact Or.inl (undivided_nil [])
  | cons c cs ih =>
      cases hhere : afterConnector? (c :: cs) with
      | some rest =>
          obtain ⟨connector, htext, hstarts⟩ := exists_of_afterConnector? hhere
          exact Or.inr ⟨[], connector, rest, htext, hstarts, undivided_nil _⟩
      | none =>
          rcases ih with hundivided | ⟨part, connector, rest, rfl, hstarts, hundivided⟩
          · left
            refine undivided_cons_iff.mpr ⟨?_, hundivided⟩
            rwa [List.append_nil]
          · right
            exact ⟨c :: part, connector, rest, rfl, hstarts,
              undivided_cons_iff.mpr ⟨hhere, hundivided⟩⟩

/-- A part does not end with blanks in front of a connector, which would belong to it. -/
theorem Undivided.endsVisible {connector : Connector} {rest : List Char}
    (hundivided : Undivided part (connector.chars ++ rest)) : EndsVisible part := by
  intro b hlast
  obtain ⟨front, rfl⟩ := List.getLast?_eq_some_iff.mp hlast
  by_contra hblank
  rw [Bool.not_eq_false] at hblank
  refine hundivided [b] (List.cons_ne_nil b []) (List.suffix_append front [b])
    (connector.extend b hblank) ?_
  exact ⟨rest, rfl⟩

/-- **Every trimmed text is divided into alternatives.** -/
theorem divides_alternativesAfter {cs : List Char} (hne : cs ≠ []) (hstarts : StartsVisible cs)
    (hends : EndsVisible cs) : Divides cs (alternativesAfter [] cs) := by
  suffices hexists : ∃ parts, Divides cs parts by
    obtain ⟨parts, hdivides⟩ := hexists
    rwa [hdivides.alternativesAfter_eq]
  induction hlength : cs.length using Nat.strong_induction_on generalizing cs with
  | _ length ih =>
  rcases undivided_or_exists cs with hundivided | ⟨part, connector, rest, rfl, hrest, hundivided⟩
  · exact ⟨[cs], .last ⟨hne, hstarts, hends, undivided_nil_right_iff.mp hundivided⟩⟩
  · have hpart : part ≠ [] := by
      rintro rfl
      exact connector.not_startsVisible_append rest hstarts
    have hbehind : rest ≠ [] := by
      rintro rfl
      rw [List.append_nil] at hends
      exact connector.not_endsVisible_chars (hends.of_append connector.chars_ne_nil)
    have hshorter : rest.length < length := by
      have hpositive := List.length_pos_iff.mpr hpart
      rw [← hlength, List.length_append, List.length_append]
      omega
    have hlast : EndsVisible rest := by
      rw [← List.append_assoc] at hends
      exact hends.of_append hbehind
    obtain ⟨parts, hdivides⟩ := ih _ hshorter hbehind hrest hlast rfl
    have hinside : Undivided part [] := Undivided.of_append hundivided
    have halternative : IsAlternative part :=
      ⟨hpart, hstarts.of_append hpart, hundivided.endsVisible, undivided_nil_right_iff.mp hinside⟩
    exact ⟨part :: parts, .more connector halternative hundivided.of_append hdivides⟩

/-! ## Alternatives of an expression -/

theorem alternativeChars_of_ne_nil {expression : List Char} (hne : trimBlanks expression ≠ []) :
    alternativeChars expression = alternativesAfter [] (trimBlanks expression) := by
  unfold alternativeChars
  split
  case h_1 hempty => exact absurd hempty hne
  case h_2 => rfl

/-- An expression that is not blank is divided into its alternatives. -/
theorem divides_alternativeChars {expression : List Char} (hne : trimBlanks expression ≠ []) :
    Divides (trimBlanks expression) (alternativeChars expression) := by
  rw [alternativeChars_of_ne_nil hne]
  exact divides_alternativesAfter hne (startsVisible_trimBlanks expression)
    (endsVisible_trimBlanks expression)

theorem alternativeChars_of_eq_nil {expression : List Char} (hempty : trimBlanks expression = []) :
    alternativeChars expression = [] := by
  rw [alternativeChars, hempty]

theorem alternativeChars_eq_nil_iff {expression : List Char} :
    alternativeChars expression = [] ↔ ∀ c ∈ expression, isBlank c = true := by
  rw [← trimBlanks_eq_nil_iff]
  refine ⟨fun hnone => ?_, alternativeChars_of_eq_nil⟩
  by_contra hne
  exact (divides_alternativeChars hne).parts_ne_nil hnone

/-- The alternatives of a divided text with blanks around it are its parts. -/
theorem Divides.alternativeChars_eq {before cs after : List Char} {parts : List (List Char)}
    (hdivides : Divides cs parts) (hbefore : ∀ c ∈ before, isBlank c = true)
    (hafter : ∀ c ∈ after, isBlank c = true) :
    alternativeChars (before ++ (cs ++ after)) = parts := by
  have htrimmed : trimBlanks (before ++ (cs ++ after)) = cs :=
    trimBlanks_append hbefore hafter hdivides.ne_nil hdivides.startsVisible hdivides.endsVisible
  have hne : trimBlanks (before ++ (cs ++ after)) ≠ [] := by
    rw [htrimmed]
    exact hdivides.ne_nil
  rw [alternativeChars_of_ne_nil hne, htrimmed, hdivides.alternativesAfter_eq]

theorem alternativeChars_intercalate (expression : List Char) :
    alternativeChars (Connector.usual.chars.intercalate (alternativeChars expression)) =
      alternativeChars expression := by
  by_cases hempty : trimBlanks expression = []
  · rw [alternativeChars_of_eq_nil hempty]
    rfl
  · have hread := (divides_alternativeChars hempty).intercalate.alternativeChars_eq
      (List.forall_mem_nil _) (List.forall_mem_nil _)
    rwa [List.nil_append, List.append_nil] at hread

theorem map_toList_alternatives (expression : String) :
    (alternatives expression).map String.toList = alternativeChars expression.toList := by
  rw [alternatives, List.map_map]
  simp [Function.comp_def]

theorem alternatives_eq_nil_iff {expression : String} :
    alternatives expression = [] ↔ ∀ c ∈ expression.toList, isBlank c = true := by
  rw [← alternativeChars_eq_nil_iff, alternatives, List.map_eq_nil_iff]

theorem isAlternative_of_mem_alternatives {expression id : String}
    (hid : id ∈ alternatives expression) : IsAlternative id.toList := by
  have hpart : id.toList ∈ alternativeChars expression.toList := by
    rw [← map_toList_alternatives]
    exact List.mem_map_of_mem hid
  have hne : trimBlanks expression.toList ≠ [] := by
    intro hempty
    rw [alternativeChars_of_eq_nil hempty] at hpart
    cases hpart
  exact (divides_alternativeChars hne).isAlternative id.toList hpart

/-- The alternatives, joined again, are the alternatives. -/
theorem alternatives_intercalate (expression : String) :
    alternatives (" OR ".intercalate (alternatives expression)) = alternatives expression := by
  have hjoined : (" OR ".intercalate (alternatives expression)).toList =
      Connector.usual.chars.intercalate (alternativeChars expression.toList) := by
    rw [String.toList_intercalate, map_toList_alternatives]
    rfl
  rw [alternatives, hjoined, alternativeChars_intercalate, ← alternatives]

/-! ## Ids -/

/-- Whether a text can be the id of a license: it is not empty and has no blanks. -/
structure IsId (id : String) : Prop where
  ne_empty : id ≠ ""
  not_isBlank : ∀ c ∈ id.toList, isBlank c = false

theorem isId_iff {id : String} :
    IsId id ↔ id ≠ "" ∧ id.toList.all (fun c => isBlank c == false) = true := by
  simp only [List.all_eq_true, beq_iff_eq]
  exact ⟨fun hid => ⟨hid.ne_empty, hid.not_isBlank⟩, fun ⟨hne, hvisible⟩ => ⟨hne, hvisible⟩⟩

instance (id : String) : Decidable (IsId id) :=
  decidable_of_iff' _ isId_iff

theorem IsId.isAlternative {id : String} (hid : IsId id) : IsAlternative id.toList where
  ne_nil := mt String.toList_eq_nil_iff.mp hid.ne_empty
  startsVisible := fun c hc => hid.not_isBlank c (List.mem_of_head? hc)
  endsVisible := fun c hc => hid.not_isBlank c (List.mem_of_getLast? hc)
  not_isInfix :=
    undivided_nil_right_iff.mp (undivided_of_forall_not_blank hid.not_isBlank [])

/-- A choice between ids, written with a connector in front of each id but the first, and with
blanks around it. -/
structure WrittenChoice where
  before : List Char
  first : String
  more : List (Connector × String)
  after : List Char
  isBlank_before : ∀ c ∈ before, isBlank c = true
  isId_first : IsId first
  isId_more : ∀ item ∈ more, IsId item.2
  isBlank_after : ∀ c ∈ after, isBlank c = true

namespace WrittenChoice

/-- The ids to choose from. -/
def ids (choice : WrittenChoice) : List String :=
  choice.first :: choice.more.map Prod.snd

/-- The choice between some ids that is written with the usual connector. -/
def usual (first : String) (more : List String) (hids : ∀ id ∈ first :: more, IsId id) :
    WrittenChoice where
  before := []
  first := first
  more := more.map (Connector.usual, ·)
  after := []
  isBlank_before := List.forall_mem_nil _
  isId_first := hids first List.mem_cons_self
  isId_more := List.forall_mem_map.mpr fun id hid => hids id (List.mem_cons_of_mem first hid)
  isBlank_after := List.forall_mem_nil _

theorem ids_usual (first : String) (more : List String) (hids : ∀ id ∈ first :: more, IsId id) :
    (usual first more hids).ids = first :: more := by
  simp [ids, usual, Function.comp_def]

/-- An id and further ones, each behind its connector. -/
def write : String → List (Connector × String) → List Char
  | first, [] => first.toList
  | first, (connector, id) :: more => first.toList ++ (connector.chars ++ write id more)

/-- The expression. -/
def text (choice : WrittenChoice) : String :=
  String.ofList (choice.before ++ (write choice.first choice.more ++ choice.after))

theorem divides_write {first : String} {more : List (Connector × String)} (hfirst : IsId first)
    (hmore : ∀ item ∈ more, IsId item.2) :
    Divides (write first more) ((first :: more.map Prod.snd).map String.toList) := by
  induction more generalizing first with
  | nil => exact .last hfirst.isAlternative
  | cons item more ih =>
      obtain ⟨hitem, hothers⟩ := List.forall_mem_cons.mp hmore
      exact .more item.1 hfirst.isAlternative
        (undivided_of_forall_not_blank hfirst.not_isBlank _) (ih hitem hothers)

theorem alternatives_text (choice : WrittenChoice) : alternatives choice.text = choice.ids := by
  have hdivides := divides_write choice.isId_first choice.isId_more
  rw [alternatives, text, String.toList_ofList,
    hdivides.alternativeChars_eq choice.isBlank_before choice.isBlank_after, List.map_map]
  simp [Function.comp_def, ids]

end WrittenChoice

theorem alternatives_intercalate_of_isId {ids : List String} (hids : ∀ id ∈ ids, IsId id) :
    alternatives (" OR ".intercalate ids) = ids := by
  cases ids with
  | nil => exact alternatives_eq_nil_iff.mpr (List.forall_mem_nil _)
  | cons first more =>
      have hread := alternatives_intercalate (WrittenChoice.usual first more hids).text
      rwa [WrittenChoice.alternatives_text, WrittenChoice.ids_usual] at hread

/-- **License expressions are cut exactly.**  An expression has no alternatives just when it is
blank.  No alternative is empty, has blanks at its ends or a connector inside, and the
alternatives joined with ` OR ` have the same alternatives again.  Ids without blanks, even ones
that are spelled `or`, are the alternatives of every expression that they are written into, with
any connectors between them and any blanks around them. -/
theorem alternatives_exact :
    (∀ expression : String,
      (alternatives expression = [] ↔ ∀ c ∈ expression.toList, isBlank c = true) ∧
      (∀ id ∈ alternatives expression, IsAlternative id.toList) ∧
      alternatives (" OR ".intercalate (alternatives expression)) = alternatives expression) ∧
    ∀ choice : WrittenChoice, alternatives choice.text = choice.ids := by
  refine ⟨fun expression => ⟨alternatives_eq_nil_iff, ?_, alternatives_intercalate expression⟩,
    WrittenChoice.alternatives_text⟩
  intro id hid
  exact isAlternative_of_mem_alternatives hid

/-- Two connectors that compete for a blank, an id that is spelled like a connector, and a word
`or` without a blank behind it. -/
theorem alternatives_exact_sample :
    alternatives " MIT or OR WTFPL\tOr GPL-3.0-only OR\n" =
        ["MIT", "OR WTFPL", "GPL-3.0-only OR"] ∧
      IsAlternative "OR WTFPL".toList ∧ IsAlternative "GPL-3.0-only OR".toList := by
  have hcut : alternatives " MIT or OR WTFPL\tOr GPL-3.0-only OR\n" =
      ["MIT", "OR WTFPL", "GPL-3.0-only OR"] := by cbv
  obtain ⟨-, halternative, -⟩ := alternatives_exact.1 " MIT or OR WTFPL\tOr GPL-3.0-only OR\n"
  rw [hcut] at halternative
  exact ⟨hcut, halternative _ (by decide), halternative _ (by decide)⟩

end FacetSearch.Catalogue
