import FacetSearch.Formula.Normalize
import FacetSearch.Formula.Written
import Mathlib.Data.List.Basic

/-!
# The written form is faithful

A normal form and the formula that it is read back as are written alike
(`NormalForm.written_toFormula`): the connective that is passed down to a group is the one that
the formula of the group has.

In the other direction, a written formula can be read in one way only, if no name of a variable
can be taken for something else (`IsPlainName`).  The argument is unique readability.  A
constant or a name is a word without signs, and any other formula starts with a sign that tells
what it is.  Behind an item of a join there is a space or the closing parenthesis, so a word
that starts an item ends where the item does.  The statement that goes through the induction
therefore has more text after the formula (`Formula.ReadsUniquely`), and for the items of a join
it is used once for each of them, the rest of the join being what comes after it
(`Formula.behind_inj`).
-/

namespace FacetSearch

/-! ## Normal forms and their formulas -/

section Alike

variable {α : Type} [ToString α]

theorem Formula.writtenChars_join (c : Connective) (items : List (Formula α)) :
    (join c items).writtenChars = c.opening ++ spaced (items.map writtenChars) ++ [')'] := by
  rw [writtenChars, writtenEach_eq_map]

theorem Literal.writtenChars_toFormula (l : Literal α) :
    l.toFormula.writtenChars = l.writtenChars := by
  unfold toFormula writtenChars
  split
  case isTrue => rw [Formula.writtenChars]
  case isFalse => rw [Formula.writtenChars, Formula.writtenChars]

theorem Operand.writtenChars_toFormula (operand : Operand α) :
    ∀ c : Connective, (operand.toFormula c).writtenChars = operand.writtenChars c := by
  induction operand using Operand.induction with
  | literal l =>
      intro c
      rw [toFormula_literal, Literal.writtenChars_toFormula, writtenChars]
  | group operands ih =>
      intro c
      rw [toFormula_group, Formula.writtenChars_join, writtenChars, writtenEach_eq_map,
        List.map_map]
      have hitems : operands.map (Formula.writtenChars ∘ toFormula c.dual) =
          operands.map (writtenChars c.dual) :=
        List.map_congr_left fun operand hoperand => ih operand hoperand c.dual
      rw [hitems]

/-- A normal form is written as the formula that it is read back as. -/
theorem NormalForm.written_toFormula (form : NormalForm α) :
    form.toFormula.written = form.written := by
  unfold written Formula.written
  cases form with
  | const value => rw [toFormula, Formula.writtenChars, writtenChars]
  | literal l => rw [toFormula, Literal.writtenChars_toFormula, writtenChars]
  | join c operands =>
      rw [toFormula, Formula.writtenChars_join, writtenChars, List.map_map]
      have hitems : operands.map (Formula.writtenChars ∘ Operand.toFormula c) =
          operands.map (Operand.writtenChars c) :=
        List.map_congr_left fun operand _ => operand.writtenChars_toFormula c
      rw [hitems]

end Alike

/-! ## Different normal forms -/

section Apart

variable {α : Type}

theorem Literal.toFormula_injective : Function.Injective (toFormula : Literal α → Formula α) := by
  rintro ⟨name, positive⟩ ⟨name', positive'⟩ hsame
  cases positive <;> cases positive' <;> simp_all [toFormula]

theorem Literal.toFormula_ne_const (l : Literal α) (value : Bool) : l.toFormula ≠ .const value := by
  unfold toFormula
  split <;> exact nofun

theorem Literal.toFormula_ne_join (l : Literal α) (c : Connective) (items : List (Formula α)) :
    l.toFormula ≠ .join c items := by
  unfold toFormula
  split <;> exact nofun

/-- Two joins of the same formulas have the same operands, if each operand of the one is told by
its formula. -/
theorem Operand.eq_of_map_toFormula_eq {c : Connective} {operands others : List (Operand α)}
    (htold : ∀ operand ∈ operands, ∀ other, operand.toFormula c = other.toFormula c →
      operand = other)
    (hsame : operands.map (toFormula c) = others.map (toFormula c)) : operands = others := by
  induction operands generalizing others with
  | nil => exact (List.map_eq_nil_iff.mp hsame.symm).symm
  | cons operand rest ih =>
      obtain ⟨other, more, rfl, hhead, htail⟩ := List.map_eq_cons_iff.mp hsame.symm
      obtain ⟨hoperand, hrest⟩ := List.forall_mem_cons.mp htold
      rw [hoperand other hhead.symm, ih hrest htail.symm]

theorem Operand.eq_of_toFormula_eq (operand : Operand α) :
    ∀ (c : Connective) (other : Operand α), operand.toFormula c = other.toFormula c →
      operand = other := by
  induction operand using Operand.induction with
  | literal l =>
      intro c other hsame
      rw [toFormula_literal] at hsame
      cases other with
      | literal m =>
          rw [toFormula_literal] at hsame
          rw [Literal.toFormula_injective hsame]
      | group others =>
          rw [toFormula_group] at hsame
          exact absurd hsame (l.toFormula_ne_join _ _)
  | group operands ih =>
      intro c other hsame
      rw [toFormula_group] at hsame
      cases other with
      | literal m =>
          rw [toFormula_literal] at hsame
          exact absurd hsame.symm (m.toFormula_ne_join _ _)
      | group others =>
          rw [toFormula_group] at hsame
          obtain ⟨-, hitems⟩ := Formula.join.inj hsame
          rw [eq_of_map_toFormula_eq (fun operand hoperand => ih operand hoperand c.dual) hitems]

/-- Different normal forms are read back as different formulas. -/
theorem NormalForm.toFormula_injective :
    Function.Injective (toFormula : NormalForm α → Formula α) := by
  intro form other hsame
  cases form with
  | const value =>
      cases other with
      | const value' => rw [Formula.const.inj hsame]
      | literal m => exact absurd hsame.symm (m.toFormula_ne_const value)
      | join d others => exact nomatch hsame
  | literal l =>
      cases other with
      | const value => exact absurd hsame (l.toFormula_ne_const value)
      | literal m => rw [Literal.toFormula_injective hsame]
      | join d others => exact absurd hsame (l.toFormula_ne_join _ _)
  | join c operands =>
      cases other with
      | const value => exact nomatch hsame
      | literal m => exact absurd hsame.symm (m.toFormula_ne_join _ _)
      | join d others =>
          obtain ⟨rfl, hitems⟩ := Formula.join.inj hsame
          rw [Operand.eq_of_map_toFormula_eq
            (fun operand _ => operand.eq_of_toFormula_eq c) hitems]

end Apart

/-! ## Words and signs -/

/-- The characters that written formulas are put together with. -/
def formulaSigns : List Char :=
  [' ', '(', ')', '¬', '∀', '∃']

/-- Names of variables that cannot be taken for anything else in a written formula: they are
not empty, have no sign in them, and are not the letter of a constant. -/
structure IsPlainName (name : String) : Prop where
  ne_empty : name ≠ ""
  sign_not_mem : ∀ c ∈ name.toList, c ∉ formulaSigns
  ne_true : name ≠ "T"
  ne_false : name ≠ "F"

theorem isPlainName_iff {name : String} :
    IsPlainName name ↔
      name ≠ "" ∧ name.toList.all (· ∉ formulaSigns) ∧ name ≠ "T" ∧ name ≠ "F" := by
  simp only [List.all_eq_true, decide_eq_true_eq]
  constructor
  · rintro ⟨hempty, hsign, htrue, hfalse⟩
    exact ⟨hempty, hsign, htrue, hfalse⟩
  · rintro ⟨hempty, hsign, htrue, hfalse⟩
    exact ⟨hempty, hsign, htrue, hfalse⟩

instance : DecidablePred IsPlainName := fun _ =>
  decidable_of_iff' _ isPlainName_iff

namespace Formula

/-- A formula whose variables all have names with a property. -/
inductive NamedBy {α : Type} (P : α → Prop) : Formula α → Prop
  | const (value : Bool) : NamedBy P (.const value)
  | var {name : α} : P name → NamedBy P (.var name)
  | not {body : Formula α} : NamedBy P body → NamedBy P (.not body)
  | join {c : Connective} {items : List (Formula α)} :
      (∀ item ∈ items, NamedBy P item) → NamedBy P (.join c items)

@[simp] theorem namedBy_var_iff {α : Type} {P : α → Prop} {name : α} :
    (var name).NamedBy P ↔ P name :=
  ⟨fun hnames => by cases hnames; assumption, .var⟩

@[simp] theorem namedBy_not_iff {α : Type} {P : α → Prop} {body : Formula α} :
    (not body).NamedBy P ↔ body.NamedBy P :=
  ⟨fun hnames => by cases hnames; assumption, .not⟩

@[simp] theorem namedBy_join_iff {α : Type} {P : α → Prop} {c : Connective}
    {items : List (Formula α)} : (join c items).NamedBy P ↔ ∀ item ∈ items, item.NamedBy P :=
  ⟨fun hnames => by cases hnames; assumption, .join⟩

/-- The characters of a constant or of a plain name. -/
structure IsWord (cs : List Char) : Prop where
  ne_nil : cs ≠ []
  sign_not_mem : ∀ c ∈ cs, c ∉ formulaSigns

/-- What can come after a formula in a text: nothing, or a sign. -/
def EndsWord (after : List Char) : Prop :=
  ∀ c ∈ after.head?, c ∈ formulaSigns

theorem isWord_writtenBool (value : Bool) : IsWord (writtenBool value) := by
  constructor
  · exact List.cons_ne_nil _ _
  · cases value <;> simp [writtenBool, formulaSigns]

theorem isWord_writtenName {name : String} (hname : IsPlainName name) :
    IsWord (writtenName name) where
  ne_nil := String.toList_eq_nil_iff.not.mpr hname.ne_empty
  sign_not_mem := hname.sign_not_mem

theorem writtenBool_inj {value other : Bool} (hsame : writtenBool value = writtenBool other) :
    value = other := by
  cases value <;> cases other <;> simp_all [writtenBool]

/-- A plain name is not the letter of a constant. -/
theorem writtenName_ne_writtenBool {name : String} (hname : IsPlainName name) (value : Bool) :
    writtenName name ≠ writtenBool value := by
  have hletter : name ≠ String.ofList (writtenBool value) := by
    cases value with
    | true => exact hname.ne_true
    | false => exact hname.ne_false
  exact fun hsame => hletter (String.toList_inj.mp (by rw [String.toList_ofList, ← hsame]; rfl))

theorem eq_nil_of_endsWord {more after : List Char} (hmore : ∀ c ∈ more, c ∉ formulaSigns)
    (hafter : EndsWord (more ++ after)) : more = [] := by
  cases more with
  | nil => rfl
  | cons c rest => exact absurd (hafter c rfl) (hmore c List.mem_cons_self)

/-- A word ends where the first sign is. -/
theorem IsWord.append_inj {word other r s : List Char} (hword : IsWord word)
    (hother : IsWord other) (hr : EndsWord r) (hs : EndsWord s)
    (hsame : word ++ r = other ++ s) : word = other ∧ r = s := by
  rcases List.append_eq_append_iff.mp hsame with ⟨more, rfl, rfl⟩ | ⟨more, rfl, rfl⟩
  · have hmore : more = [] :=
      eq_nil_of_endsWord (fun c hc => hother.sign_not_mem c (List.mem_append_right _ hc)) hr
    rw [hmore, List.append_nil, List.nil_append]
    exact ⟨rfl, rfl⟩
  · have hmore : more = [] :=
      eq_nil_of_endsWord (fun c hc => hword.sign_not_mem c (List.mem_append_right _ hc)) hs
    rw [hmore, List.append_nil, List.nil_append]
    exact ⟨rfl, rfl⟩

/-! ## The first sign -/

/-- The sign that a written formula starts with.  Constants and variables start with none. -/
def firstSign : Formula String → Option Char
  | const _ => none
  | var _ => none
  | not _ => some '¬'
  | join .all _ => some '∀'
  | join .any _ => some '∃'

/-- The sign at the start of a text, if there is one. -/
def signAt (text : List Char) : Option Char :=
  text.head?.filter (· ∈ formulaSigns)

theorem IsWord.signAt_append {word : List Char} (hword : IsWord word) (after : List Char) :
    signAt (word ++ after) = none := by
  cases word with
  | nil => exact absurd rfl hword.ne_nil
  | cons c rest => simp [signAt, hword.sign_not_mem c List.mem_cons_self]

theorem NamedBy.signAt_append {formula : Formula String} (hnames : formula.NamedBy IsPlainName)
    (after : List Char) : signAt (formula.writtenChars ++ after) = formula.firstSign := by
  cases hnames with
  | const value =>
      rw [writtenChars]
      exact (isWord_writtenBool value).signAt_append after
  | var hname =>
      rw [writtenChars]
      exact (isWord_writtenName hname).signAt_append after
  | not _ =>
      rw [writtenChars]
      rfl
  | @join c items _ =>
      rw [writtenChars_join]
      cases c <;> rfl

/-- Formulas that are written alike start with the same sign. -/
theorem NamedBy.firstSign_eq {formula other : Formula String}
    (hnames : formula.NamedBy IsPlainName) (hother : other.NamedBy IsPlainName) {r s : List Char}
    (hsame : formula.writtenChars ++ r = other.writtenChars ++ s) :
    formula.firstSign = other.firstSign := by
  rw [← hnames.signAt_append r, hsame, hother.signAt_append s]

/-- No formula starts with a closing parenthesis. -/
theorem NamedBy.append_ne_close {formula : Formula String} (hnames : formula.NamedBy IsPlainName)
    (r s : List Char) : formula.writtenChars ++ r ≠ ')' :: s := by
  intro hsame
  have hsign : some ')' = formula.firstSign := by
    rw [← hnames.signAt_append r, hsame]
    rfl
  cases hnames with
  | @join c _ _ => cases c <;> exact nomatch hsign
  | _ => exact nomatch hsign

/-! ## Unique readability -/

/-- Where a formula is written in a text, no other one can be read. -/
def ReadsUniquely (formula : Formula String) : Prop :=
  ∀ (other : Formula String) (r s : List Char), other.NamedBy IsPlainName → EndsWord r →
    EndsWord s → formula.writtenChars ++ r = other.writtenChars ++ s → formula = other ∧ r = s

/-- What stands behind an item of a join: the items to come, each after a space, and what is
after the closing parenthesis. -/
def behind (items : List (Formula String)) (after : List Char) : List Char :=
  items.flatMap (' ' :: ·.writtenChars) ++ ')' :: after

theorem behind_cons (item : Formula String) (rest : List (Formula String)) (after : List Char) :
    behind (item :: rest) after = ' ' :: (item.writtenChars ++ behind rest after) := by
  simp [behind]

theorem endsWord_behind (items : List (Formula String)) (after : List Char) :
    EndsWord (behind items after) := by
  cases items <;> simp [EndsWord, behind, formulaSigns]

theorem spaced_cons (item : List Char) (rest : List (List Char)) :
    spaced (item :: rest) = item ++ rest.flatMap (' ' :: ·) := by
  induction rest generalizing item with
  | nil => simp [spaced]
  | cons next rest ih =>
      have hnext : spaced (item :: next :: rest) = item ++ ' ' :: spaced (next :: rest) := rfl
      rw [hnext, ih, List.flatMap_cons, List.cons_append]

theorem writtenChars_join_nil_append (c : Connective) (after : List Char) :
    (join c [] : Formula String).writtenChars ++ after = c.opening ++ ')' :: after := by
  rw [writtenChars_join, List.map_nil, spaced, List.append_nil, List.append_assoc,
    List.singleton_append]

theorem writtenChars_join_cons_append (c : Connective) (item : Formula String)
    (rest : List (Formula String)) (after : List Char) :
    (join c (item :: rest)).writtenChars ++ after =
      c.opening ++ (item.writtenChars ++ behind rest after) := by
  rw [writtenChars_join, List.map_cons, spaced_cons, behind, List.flatMap_map]
  simp

/-- The items behind the first one of a join can be read in one way only. -/
theorem behind_inj {items others : List (Formula String)}
    (hread : ∀ item ∈ items, item.ReadsUniquely)
    (hothers : ∀ other ∈ others, other.NamedBy IsPlainName) {r s : List Char}
    (hsame : behind items r = behind others s) : items = others ∧ r = s := by
  induction items generalizing others with
  | nil =>
      cases others with
      | nil => exact ⟨rfl, (List.cons.inj hsame).2⟩
      | cons other more =>
          rw [behind_cons] at hsame
          exact absurd (List.cons.inj hsame).1 (by decide)
  | cons item rest ih =>
      cases others with
      | nil =>
          rw [behind_cons] at hsame
          exact absurd (List.cons.inj hsame).1 (by decide)
      | cons other more =>
          rw [behind_cons, behind_cons] at hsame
          obtain ⟨hitem, hrest⟩ := List.forall_mem_cons.mp hread
          obtain ⟨hother, hmore⟩ := List.forall_mem_cons.mp hothers
          obtain ⟨rfl, hbehind⟩ := hitem other _ _ hother (endsWord_behind rest r)
            (endsWord_behind more s) (List.cons.inj hsame).2
          obtain ⟨rfl, rfl⟩ := ih hrest hmore hbehind
          exact ⟨rfl, rfl⟩

/-- The items of a join can be read in one way only. -/
theorem join_inj {c : Connective} {items others : List (Formula String)}
    (hitems : ∀ item ∈ items, item.NamedBy IsPlainName)
    (hread : ∀ item ∈ items, item.ReadsUniquely)
    (hothers : ∀ other ∈ others, other.NamedBy IsPlainName) {r s : List Char}
    (hsame : (join c items).writtenChars ++ r = (join c others).writtenChars ++ s) :
    items = others ∧ r = s := by
  cases items with
  | nil =>
      rw [writtenChars_join_nil_append] at hsame
      cases others with
      | nil =>
          rw [writtenChars_join_nil_append] at hsame
          exact ⟨rfl, (List.cons.inj (List.append_cancel_left hsame)).2⟩
      | cons other more =>
          rw [writtenChars_join_cons_append] at hsame
          exact absurd (List.append_cancel_left hsame).symm
            ((hothers other List.mem_cons_self).append_ne_close _ _)
  | cons item rest =>
      rw [writtenChars_join_cons_append] at hsame
      cases others with
      | nil =>
          rw [writtenChars_join_nil_append] at hsame
          exact absurd (List.append_cancel_left hsame)
            ((hitems item List.mem_cons_self).append_ne_close _ _)
      | cons other more =>
          rw [writtenChars_join_cons_append] at hsame
          refine behind_inj hread hothers ?_
          rw [behind_cons, behind_cons, List.append_cancel_left hsame]

/-- A formula with plain names is read uniquely. -/
theorem NamedBy.readsUniquely {formula : Formula String} (hnames : formula.NamedBy IsPlainName) :
    formula.ReadsUniquely := by
  -- Formulas written alike start with the same sign.  This leaves a formula of the same kind,
  -- and for a constant or a variable, which start with none, one of these two.
  induction hnames with
  | const value =>
      intro other r s hother hr hs hsame
      have hsign := firstSign_eq (.const value) hother hsame
      have hword := isWord_writtenBool value
      rw [writtenChars] at hsame
      cases hother with
      | const value' =>
          rw [writtenChars] at hsame
          obtain ⟨hletter, hrest⟩ := hword.append_inj (isWord_writtenBool value') hr hs hsame
          rw [writtenBool_inj hletter]
          exact ⟨rfl, hrest⟩
      | var hname =>
          -- no plain name is the letter of a constant
          rw [writtenChars] at hsame
          obtain ⟨hletter, -⟩ := hword.append_inj (isWord_writtenName hname) hr hs hsame
          exact absurd hletter.symm (writtenName_ne_writtenBool hname value)
      | not _ => exact nomatch hsign
      | @join d _ _ => cases d <;> exact nomatch hsign
  | @var name hname =>
      intro other r s hother hr hs hsame
      have hsign := firstSign_eq (.var hname) hother hsame
      have hword := isWord_writtenName hname
      rw [writtenChars] at hsame
      cases hother with
      | const value =>
          rw [writtenChars] at hsame
          obtain ⟨hletter, -⟩ := hword.append_inj (isWord_writtenBool value) hr hs hsame
          exact absurd hletter (writtenName_ne_writtenBool hname value)
      | @var name' hname' =>
          rw [writtenChars] at hsame
          obtain ⟨hchars, hrest⟩ := hword.append_inj (isWord_writtenName hname') hr hs hsame
          obtain rfl : name = name' := String.toList_inj.mp hchars
          exact ⟨rfl, hrest⟩
      | not _ => exact nomatch hsign
      | @join d _ _ => cases d <;> exact nomatch hsign
  | not hbody ih =>
      intro other r s hother hr hs hsame
      have hsign := firstSign_eq (.not hbody) hother hsame
      cases hother with
      | not hbody' =>
          rw [writtenChars, writtenChars] at hsame
          -- behind the sign the bodies are written alike
          obtain ⟨rfl, hrest⟩ := ih _ r s hbody' hr hs (List.cons.inj hsame).2
          exact ⟨rfl, hrest⟩
      | @join d _ _ => cases d <;> exact nomatch hsign
      | _ => exact nomatch hsign
  | @join c items hitems ih =>
      intro other r s hother hr hs hsame
      have hsign := firstSign_eq (.join hitems) hother hsame
      cases hother with
      | @join d others hothers =>
          -- the connective is known by its sign
          obtain rfl : c = d := by cases c <;> cases d <;> simp_all [firstSign]
          obtain ⟨rfl, hrest⟩ := join_inj hitems ih hothers hsame
          exact ⟨rfl, hrest⟩
      | _ => cases c <;> exact nomatch hsign

/-- Formulas with plain names are told by their written forms. -/
theorem NamedBy.eq_of_written_eq {formula other : Formula String}
    (hnames : formula.NamedBy IsPlainName) (hother : other.NamedBy IsPlainName)
    (hsame : formula.written = other.written) : formula = other := by
  have hchars : formula.writtenChars ++ [] = other.writtenChars ++ [] := by
    rw [List.append_nil, List.append_nil, String.ofList_injective hsame]
  exact (hnames.readsUniquely other [] [] hother nofun nofun hchars).1

end Formula

/-! ## Faithful writing -/

/-- **The written form is faithful.**  A normal form is written as the formula that it is read
back as.  Formulas whose variables have plain names are equal if they are written alike, and
so are normal forms. -/
theorem written_faithful :
    (∀ {α : Type} [ToString α] (form : NormalForm α), form.written = form.toFormula.written) ∧
    (∀ formula other : Formula String, formula.NamedBy IsPlainName → other.NamedBy IsPlainName →
      formula.written = other.written → formula = other) ∧
    ∀ form other : NormalForm String, form.toFormula.NamedBy IsPlainName →
      other.toFormula.NamedBy IsPlainName → form.written = other.written → form = other := by
  refine ⟨?readBack, ?formulas, ?normalForms⟩
  case readBack =>
    intro α _ form
    exact form.written_toFormula.symm
  case formulas =>
    intro formula other hnames hother hsame
    exact hnames.eq_of_written_eq hother hsame
  case normalForms =>
    intro form other hnames hother hsame
    rw [← form.written_toFormula, ← other.written_toFormula] at hsame
    exact NormalForm.toFormula_injective (hnames.eq_of_written_eq hother hsame)

/-- A conjunction that is made by normalizing and one that is written down, both of them
`∀(4x ¬v2 ∃(¬by:T ¬F2))`. -/
theorem written_faithful_sample :
    ∃ form other : NormalForm String,
      form = (Formula.all [.var "4x", .not (.any [.var "v2", .all [.var "by:T", .var "F2"]]),
        .const true]).normalize ∧
      other = .join .all [.literal ⟨"4x", true⟩, .literal ⟨"v2", false⟩,
        .group [.literal ⟨"by:T", false⟩, .literal ⟨"F2", false⟩]] ∧
      form.toFormula.NamedBy IsPlainName ∧ other.toFormula.NamedBy IsPlainName ∧
      form.written = other.written ∧ form.written = form.toFormula.written ∧
      form.toFormula = other.toFormula ∧ form = other := by
  refine ⟨_, _, rfl, rfl, ?_⟩
  obtain ⟨hread, hformulas, hforms⟩ := written_faithful
  have hnames : (NormalForm.join .all [.literal ⟨"4x", true⟩, .literal ⟨"v2", false⟩,
      .group [.literal ⟨"by:T", false⟩, .literal ⟨"F2", false⟩]]).toFormula.NamedBy
        IsPlainName := by
    have hplain : ∀ name ∈ ["4x", "v2", "by:T", "F2"], IsPlainName name := by decide
    simpa [NormalForm.toFormula, Literal.toFormula] using hplain
  exact ⟨hnames, hnames, rfl, hread _, hformulas _ _ hnames hnames rfl,
    hforms _ _ hnames hnames rfl⟩

end FacetSearch
