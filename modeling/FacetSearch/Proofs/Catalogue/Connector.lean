import FacetSearch.Catalogue.License
import Mathlib.Data.List.DropRight

/-!
# Connectors of license expressions

A `Connector` is the word `or`, in any case, with the blanks on both sides of it.  The reader of
expressions tests for one at every place, and takes all the blanks behind the word.  What it
takes is a connector, and it takes one wherever a connector begins
(`afterConnector?_eq_none_iff`).

Blanks at the ends of an expression, and of its parts, are no part of it.  `StartsVisible` and
`EndsVisible` say that a text has none.
-/

namespace FacetSearch.Catalogue

/-! ## Blanks at the ends -/

/-- Whether a text does not start with a blank. -/
def StartsVisible (cs : List Char) : Prop :=
  ∀ c ∈ cs.head?, isBlank c = false

/-- Whether a text does not end with a blank. -/
def EndsVisible (cs : List Char) : Prop :=
  ∀ c ∈ cs.getLast?, isBlank c = false

theorem startsVisible_cons {c : Char} {cs : List Char} :
    StartsVisible (c :: cs) ↔ isBlank c = false := by
  simp [StartsVisible]

theorem endsVisible_reverse {cs : List Char} : EndsVisible cs.reverse ↔ StartsVisible cs := by
  rw [EndsVisible, StartsVisible, List.getLast?_reverse]

theorem StartsVisible.append {cs : List Char} (hstarts : StartsVisible cs) (hne : cs ≠ [])
    (more : List Char) : StartsVisible (cs ++ more) := by
  rwa [StartsVisible, List.head?_append_of_ne_nil cs hne]

theorem StartsVisible.of_append {cs more : List Char} (hstarts : StartsVisible (cs ++ more))
    (hne : cs ≠ []) : StartsVisible cs := by
  rwa [StartsVisible, List.head?_append_of_ne_nil cs hne] at hstarts

theorem EndsVisible.append {cs : List Char} (hends : EndsVisible cs) (hne : cs ≠ [])
    (front : List Char) : EndsVisible (front ++ cs) := by
  rwa [EndsVisible, List.getLast?_append_of_ne_nil front hne]

theorem EndsVisible.of_append {front cs : List Char} (hends : EndsVisible (front ++ cs))
    (hne : cs ≠ []) : EndsVisible cs := by
  rwa [EndsVisible, List.getLast?_append_of_ne_nil front hne] at hends

theorem startsVisible_dropWhile (cs : List Char) : StartsVisible (cs.dropWhile isBlank) := by
  intro c hc
  have hnot := List.head?_dropWhile_not isBlank cs
  rwa [Option.mem_def.mp hc] at hnot

theorem StartsVisible.dropWhile_eq {cs : List Char} (hstarts : StartsVisible cs) :
    cs.dropWhile isBlank = cs := by
  cases cs with
  | nil => rfl
  | cons c rest =>
      rw [List.dropWhile_cons, startsVisible_cons.mp hstarts, if_neg Bool.false_ne_true]

theorem startsVisible_trimBlanks (cs : List Char) : StartsVisible (trimBlanks cs) := by
  by_cases hempty : trimBlanks cs = []
  · rw [hempty]
    exact fun c hc => nomatch hc
  · have hfront : trimBlanks cs <+: cs.dropWhile isBlank := List.rdropWhile_prefix isBlank _
    obtain ⟨rest, hrest⟩ := hfront
    have hstarts := startsVisible_dropWhile cs
    rw [← hrest] at hstarts
    exact hstarts.of_append hempty

theorem endsVisible_trimBlanks (cs : List Char) : EndsVisible (trimBlanks cs) :=
  endsVisible_reverse.mpr (startsVisible_dropWhile _)

theorem trimBlanks_eq_nil_iff {cs : List Char} :
    trimBlanks cs = [] ↔ ∀ c ∈ cs, isBlank c = true := by
  constructor
  · intro hempty c hc
    have hdropped : ∀ c ∈ cs.dropWhile isBlank, isBlank c = true :=
      List.rdropWhile_eq_nil_iff.mp hempty
    have hsplit : cs.takeWhile isBlank ++ cs.dropWhile isBlank = cs :=
      List.takeWhile_append_dropWhile
    rw [← hsplit] at hc
    rcases List.mem_append.mp hc with hfront | hbehind
    · exact List.mem_takeWhile_imp hfront
    · exact hdropped c hbehind
  · intro hblank
    rw [trimBlanks, List.dropWhile_eq_nil_iff.mpr hblank]
    rfl

/-- Blanks around a text without blanks at its ends are what is taken off. -/
theorem trimBlanks_append {before cs after : List Char} (hbefore : ∀ c ∈ before, isBlank c = true)
    (hafter : ∀ c ∈ after, isBlank c = true) (hne : cs ≠ []) (hstarts : StartsVisible cs)
    (hends : EndsVisible cs) : trimBlanks (before ++ (cs ++ after)) = cs := by
  have hreversed : StartsVisible cs.reverse := by
    rw [← endsVisible_reverse, List.reverse_reverse]
    exact hends
  have hblank : ∀ c ∈ after.reverse, isBlank c = true :=
    fun c hc => hafter c (List.mem_reverse.mp hc)
  rw [trimBlanks, List.dropWhile_append_of_pos hbefore, (hstarts.append hne after).dropWhile_eq,
    List.reverse_append, List.dropWhile_append_of_pos hblank, hreversed.dropWhile_eq,
    List.reverse_reverse]

/-! ## Connectors -/

/-- A connector: the word `or`, in any case, with blanks on both sides. -/
structure Connector where
  before : List Char
  letterO : Char
  letterR : Char
  after : List Char
  before_ne_nil : before ≠ []
  isBlank_before : ∀ c ∈ before, isBlank c = true
  isLetterO_letterO : isLetterO letterO = true
  isLetterR_letterR : isLetterR letterR = true
  after_ne_nil : after ≠ []
  isBlank_after : ∀ c ∈ after, isBlank c = true

theorem isBlank_of_isLetterO {c : Char} (hletter : isLetterO c = true) : isBlank c = false := by
  simp only [isLetterO, Bool.or_eq_true, beq_iff_eq] at hletter
  rcases hletter with rfl | rfl <;> decide

theorem isBlank_of_isLetterR {c : Char} (hletter : isLetterR c = true) : isBlank c = false := by
  simp only [isLetterR, Bool.or_eq_true, beq_iff_eq] at hletter
  rcases hletter with rfl | rfl <;> decide

namespace Connector

/-- The text of a connector. -/
def chars (connector : Connector) : List Char :=
  connector.before ++ connector.letterO :: connector.letterR :: connector.after

/-- The connector with one blank on each side, in capitals. -/
def usual : Connector where
  before := [' ']
  letterO := 'O'
  letterR := 'R'
  after := [' ']
  before_ne_nil := List.cons_ne_nil _ _
  isBlank_before := List.forall_mem_singleton.mpr rfl
  isLetterO_letterO := rfl
  isLetterR_letterR := rfl
  after_ne_nil := List.cons_ne_nil _ _
  isBlank_after := List.forall_mem_singleton.mpr rfl

variable (connector : Connector)

theorem exists_chars_eq_cons : ∃ b more, isBlank b = true ∧ connector.chars = b :: more := by
  obtain ⟨b, blanks, hbefore⟩ := List.exists_cons_of_ne_nil connector.before_ne_nil
  refine ⟨b, blanks ++ connector.letterO :: connector.letterR :: connector.after, ?_, ?_⟩
  · apply connector.isBlank_before
    rw [hbefore]
    exact List.mem_cons_self
  · rw [chars, hbefore, List.cons_append]

theorem chars_ne_nil : connector.chars ≠ [] := by
  obtain ⟨b, more, -, hchars⟩ := connector.exists_chars_eq_cons
  rw [hchars]
  exact List.cons_ne_nil b more

theorem not_startsVisible_append (rest : List Char) : ¬StartsVisible (connector.chars ++ rest) := by
  obtain ⟨b, more, hb, hchars⟩ := connector.exists_chars_eq_cons
  rw [hchars, List.cons_append, startsVisible_cons, hb]
  exact Bool.noConfusion

theorem not_endsVisible_chars : ¬EndsVisible connector.chars := by
  intro hends
  have hchars : connector.chars =
      (connector.before ++ [connector.letterO, connector.letterR]) ++ connector.after := by
    rw [chars, List.append_assoc]
    rfl
  rw [hchars] at hends
  have hlast : EndsVisible connector.after := hends.of_append connector.after_ne_nil
  have hb := List.getLast?_eq_some_getLast connector.after_ne_nil
  have hblank := connector.isBlank_after _ (List.getLast_mem connector.after_ne_nil)
  rw [hlast _ hb] at hblank
  cases hblank

theorem isBlank_of_after_append {rest more : List Char} {a : Char}
    (hafter : connector.after ++ rest = a :: more) : isBlank a = true := by
  obtain ⟨b, blanks, hblanks⟩ := List.exists_cons_of_ne_nil connector.after_ne_nil
  rw [hblanks, List.cons_append] at hafter
  obtain ⟨rfl, -⟩ := List.cons.inj hafter
  apply connector.isBlank_after
  rw [hblanks]
  exact List.mem_cons_self

/-- One more blank in front of a connector belongs to it. -/
def extend (b : Char) (hb : isBlank b = true) : Connector :=
  { connector with
    before := b :: connector.before
    before_ne_nil := List.cons_ne_nil _ _
    isBlank_before := List.forall_mem_cons.mpr ⟨hb, connector.isBlank_before⟩ }

/-- The connector with a single blank behind it. -/
def shorten (b : Char) (hb : isBlank b = true) : Connector :=
  { connector with
    after := [b]
    after_ne_nil := List.cons_ne_nil _ _
    isBlank_after := List.forall_mem_singleton.mpr hb }

/-- A connector needs no more than one of the blanks behind its word. -/
theorem isPrefix_shorten {b : Char} (hb : isBlank b = true) (rest : List Char) :
    (connector.shorten b hb).chars <+:
      connector.before ++ connector.letterO :: connector.letterR :: b :: rest := by
  refine ⟨rest, ?_⟩
  rw [chars, List.append_assoc]
  rfl

theorem afterConnector?_append (rest : List Char) :
    afterConnector? (connector.chars ++ rest) = some (rest.dropWhile isBlank) := by
  obtain ⟨b, blanks, hbefore⟩ := List.exists_cons_of_ne_nil connector.before_ne_nil
  obtain ⟨a, more, hafter⟩ := List.exists_cons_of_ne_nil connector.after_ne_nil
  have hblanks := connector.isBlank_before
  have hmore := connector.isBlank_after
  rw [hbefore, List.forall_mem_cons] at hblanks
  rw [hafter, List.forall_mem_cons] at hmore
  have hword : (blanks ++ connector.letterO :: connector.letterR :: a :: (more ++ rest)).dropWhile
      isBlank = connector.letterO :: connector.letterR :: a :: (more ++ rest) := by
    rw [List.dropWhile_append_of_pos hblanks.2]
    exact StartsVisible.dropWhile_eq
      (startsVisible_cons.mpr (isBlank_of_isLetterO connector.isLetterO_letterO))
  have htext : connector.chars ++ rest =
      b :: (blanks ++ connector.letterO :: connector.letterR :: a :: (more ++ rest)) := by
    rw [chars, hbefore, hafter]
    simp only [List.cons_append, List.append_assoc]
  rw [htext, afterConnector?, if_pos hblanks.1, hword]
  simp only [connector.isLetterO_letterO, connector.isLetterR_letterR, hmore.1, Bool.and_self,
    if_true, List.dropWhile_append_of_pos hmore.2]

end Connector

/-- What is taken for a connector at the start of a text is one, with all blanks behind it. -/
theorem exists_of_afterConnector? {cs rest : List Char}
    (hconnector : afterConnector? cs = some rest) :
    ∃ connector : Connector, cs = connector.chars ++ rest ∧ StartsVisible rest := by
  cases cs with
  | nil => cases hconnector
  | cons c tail =>
      simp only [afterConnector?] at hconnector
      split at hconnector
      case isFalse => cases hconnector
      case isTrue hc =>
        split at hconnector
        case h_2 => cases hconnector
        case h_1 o r b more hword =>
          split at hconnector
          case isFalse => cases hconnector
          case isTrue hletters =>
            cases hconnector
            simp only [Bool.and_eq_true] at hletters
            have hfront : ∀ d ∈ tail.takeWhile isBlank, isBlank d = true :=
              fun d => List.mem_takeWhile_imp
            have hbehind : ∀ d ∈ more.takeWhile isBlank, isBlank d = true :=
              fun d => List.mem_takeWhile_imp
            refine ⟨⟨c :: tail.takeWhile isBlank, o, r, b :: more.takeWhile isBlank,
              List.cons_ne_nil _ _, List.forall_mem_cons.mpr ⟨hc, hfront⟩, hletters.1.1,
              hletters.1.2, List.cons_ne_nil _ _, List.forall_mem_cons.mpr ⟨hletters.2, hbehind⟩⟩,
              ?_, startsVisible_dropWhile more⟩
            calc c :: tail = c :: (tail.takeWhile isBlank ++ tail.dropWhile isBlank) := by
                  rw [List.takeWhile_append_dropWhile]
              _ = c :: (tail.takeWhile isBlank ++
                    o :: r :: b :: (more.takeWhile isBlank ++ more.dropWhile isBlank)) := by
                  rw [hword, List.takeWhile_append_dropWhile]
              _ = _ := by simp only [Connector.chars, List.cons_append, List.append_assoc]

theorem afterConnector?_eq_none_iff {cs : List Char} :
    afterConnector? cs = none ↔ ∀ connector : Connector, ¬connector.chars <+: cs := by
  constructor
  · rintro hnone connector ⟨rest, rfl⟩
    rw [connector.afterConnector?_append] at hnone
    cases hnone
  · intro hno
    cases hconnector : afterConnector? cs with
    | none => rfl
    | some rest =>
        obtain ⟨connector, rfl, -⟩ := exists_of_afterConnector? hconnector
        exact absurd (List.prefix_append _ _) (hno connector)

end FacetSearch.Catalogue
