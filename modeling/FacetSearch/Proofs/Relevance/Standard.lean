import FacetSearch.Index.Entry
import FacetSearch.Proofs.Text.Occurrence
import Mathlib.Data.List.Basic

/-!
# Scores with the usual options

With the usual options a score is zero or one and more, as long as it is the score of a
single text: an occurrence earns the square root of a length, and from there on scores are
added up and multiplied by numbers of tokens.  Only then comes the weight of the text, which
may be as small as it likes, and a product of one and more with it is no smaller.

So positive scores do not vanish, even if the arithmetic rounds.  What it has to do for that
is listed in `SteadyScalar`: sums and products of numbers that are positive, or one and
more, are so again.
-/

namespace FacetSearch

/-! ## Steady arithmetic -/

namespace Scalar

variable {R : Type} [Scalar R]

/-- Whether a number is one or more. -/
def AtLeastOne (x : R) : Prop :=
  0 < x ∧ ¬x < 1

/-- Whether a sum has a property that zero does not have if one of its parts has the
property and the other one is zero or has it too. -/
structure PassesToSums (P : R → Prop) : Prop where
  not_zero : ¬P 0
  zero_add : ∀ {x}, P x → P (0 + x)
  add_zero : ∀ {x}, P x → P (x + 0)
  add : ∀ {x y}, P x → P y → P (x + y)

end Scalar

/-- The arithmetic takes no positive number to zero, where scoring could do so. -/
class SteadyScalar (R : Type) [Scalar R] : Prop where
  zero_add_zero : (0 : R) + 0 = 0
  zero_mul_zero : (0 : R) * (0 : Nat) = 0
  zero_mul : ∀ {x : R}, Scalar.isFinite x = true → 0 < x → 0 * x = 0
  pos : Scalar.PassesToSums fun x : R => 0 < x
  atLeastOne : Scalar.PassesToSums fun x : R => Scalar.AtLeastOne x
  mul_pos : ∀ {x y : R}, Scalar.AtLeastOne x → 0 < y → 0 < x * y
  mul_atLeastOne : ∀ {x y : R}, Scalar.AtLeastOne x → Scalar.AtLeastOne y →
    Scalar.AtLeastOne (x * y)
  sqrt_atLeastOne : ∀ {x : R}, Scalar.AtLeastOne x → Scalar.AtLeastOne (Scalar.sqrt x)
  natCast_atLeastOne : ∀ {n : Nat}, 0 < n → Scalar.AtLeastOne (n : R)
  /-- The weights of a catalogue are numbers of one digit. -/
  isFinite_natCast : ∀ {n : Nat}, n < 10 → Scalar.isFinite (n : R) = true

/-! ## Sums -/

namespace Scalar.PassesToSums

variable {R : Type} [Scalar R] [SteadyScalar R] {P : R → Prop}

theorem add_cases (hP : PassesToSums P) {x y : R} (hx : x = 0 ∨ P x) (hy : y = 0 ∨ P y) :
    x + y = 0 ∨ P (x + y) := by
  rcases hx with rfl | hx <;> rcases hy with rfl | hy
  · exact Or.inl SteadyScalar.zero_add_zero
  · exact Or.inr (hP.zero_add hy)
  · exact Or.inr (hP.add_zero hx)
  · exact Or.inr (hP.add hx hy)

theorem add_iff (hP : PassesToSums P) {x y : R} (hx : x = 0 ∨ P x) (hy : y = 0 ∨ P y) :
    P (x + y) ↔ P x ∨ P y := by
  rcases hx with rfl | hx <;> rcases hy with rfl | hy
  · simp [SteadyScalar.zero_add_zero, hP.not_zero]
  · simp [hP.zero_add hy, hy]
  · simp [hP.add_zero hx, hx]
  · simp [hP.add hx hy, hx]

variable {scores : List R}

theorem foldl_cases (hP : PassesToSums P) {total : R} (htotal : total = 0 ∨ P total)
    (hscores : ∀ score ∈ scores, score = 0 ∨ P score) :
    scores.foldl (· + ·) total = 0 ∨ P (scores.foldl (· + ·) total) := by
  induction scores generalizing total with
  | nil => exact htotal
  | cons score rest ih =>
      obtain ⟨hscore, hrest⟩ := List.forall_mem_cons.mp hscores
      exact ih (hP.add_cases htotal hscore) hrest

theorem foldl_iff (hP : PassesToSums P) {total : R} (htotal : total = 0 ∨ P total)
    (hscores : ∀ score ∈ scores, score = 0 ∨ P score) :
    P (scores.foldl (· + ·) total) ↔ P total ∨ ∃ score ∈ scores, P score := by
  induction scores generalizing total with
  | nil => simp
  | cons score rest ih =>
      obtain ⟨hscore, hrest⟩ := List.forall_mem_cons.mp hscores
      rw [List.foldl_cons, ih (hP.add_cases htotal hscore) hrest, hP.add_iff htotal hscore,
        List.exists_mem_cons_iff, or_assoc]

variable {α : Type} {items : List α} {earned : α → R}

theorem sum_cases (hP : PassesToSums P)
    (hearned : ∀ item ∈ items, earned item = 0 ∨ P (earned item)) :
    (items.map earned).foldl (· + ·) 0 = 0 ∨ P ((items.map earned).foldl (· + ·) 0) :=
  hP.foldl_cases (Or.inl rfl) (List.forall_mem_map.mpr hearned)

/-- A sum of what some items have earned has the property if one of them has. -/
theorem sum_iff (hP : PassesToSums P)
    (hearned : ∀ item ∈ items, earned item = 0 ∨ P (earned item)) :
    P ((items.map earned).foldl (· + ·) 0) ↔ ∃ item ∈ items, P (earned item) := by
  rw [hP.foldl_iff (Or.inl rfl) (List.forall_mem_map.mpr hearned), or_iff_right hP.not_zero]
  simp only [List.mem_map, exists_exists_and_eq_and]

end Scalar.PassesToSums

/-! ## Scores -/

namespace ScoringOptions

open Scalar (AtLeastOne)

variable {R : Type} [Scalar R] [SteadyScalar R] {token : String} {tokens : List String}

/-- An occurrence of a token earns one or more. -/
theorem occurrenceScore_atLeastOne {text : List Char} :
    ∀ place ∈ Text.occurrences token.toList text,
      AtLeastOne ((standard : ScoringOptions R).occurrenceScore
        ((standard : ScoringOptions R).baseScore.ofToken token) place) := by
  intro place hplace
  have hnonempty : token.toList ≠ [] :=
    (Text.occurrences_ne_nil_iff.mp (List.ne_nil_of_mem hplace)).1
  have hlength : 0 < token.length := by
    rw [← String.length_toList]
    exact List.length_pos_iff.mpr hnonempty
  have hbase : AtLeastOne (Scalar.sqrt (token.length : R)) :=
    SteadyScalar.sqrt_atLeastOne (SteadyScalar.natCast_atLeastOne hlength)
  have hbonus : AtLeastOne ((4 : Nat) : R) := SteadyScalar.natCast_atLeastOne (by decide)
  rw [occurrenceScore]
  split
  · exact SteadyScalar.atLeastOne.add hbase hbonus
  · exact hbase

theorem tokenScore_cases (text : List Char) (token : String) :
    (standard : ScoringOptions R).tokenScore text token = 0 ∨
      AtLeastOne ((standard : ScoringOptions R).tokenScore text token) :=
  SteadyScalar.atLeastOne.sum_cases fun place hplace =>
    Or.inr (occurrenceScore_atLeastOne place hplace)

/-- A token earns one or more in the texts that contain it. -/
theorem tokenScore_atLeastOne_iff {text : List Char} :
    AtLeastOne ((standard : ScoringOptions R).tokenScore text token) ↔
      token ≠ "" ∧ token.toList <:+: text := by
  have hsum : AtLeastOne ((standard : ScoringOptions R).tokenScore text token) ↔
      ∃ place ∈ Text.occurrences token.toList text,
        AtLeastOne ((standard : ScoringOptions R).occurrenceScore
          ((standard : ScoringOptions R).baseScore.ofToken token) place) :=
    SteadyScalar.atLeastOne.sum_iff fun place hplace =>
      Or.inr (occurrenceScore_atLeastOne place hplace)
  rw [hsum, Text.exists_mem_occurrences_iff occurrenceScore_atLeastOne]

theorem tokenScore_pos_iff_atLeastOne {text : List Char} :
    0 < (standard : ScoringOptions R).tokenScore text token ↔
      AtLeastOne ((standard : ScoringOptions R).tokenScore text token) := by
  rcases tokenScore_cases (R := R) text token with hzero | hone
  · simp only [hzero, SteadyScalar.pos.not_zero, SteadyScalar.atLeastOne.not_zero]
  · exact iff_of_true hone.1 hone

theorem countMatched_standard_pos_iff {text : List Char} :
    0 < countMatched (tokens.map ((standard : ScoringOptions R).tokenScore text)) ↔
      ∃ token ∈ tokens, AtLeastOne ((standard : ScoringOptions R).tokenScore text token) := by
  simp [countMatched, List.countP_pos_iff, tokenScore_pos_iff_atLeastOne]

/-- With tokens to look for, a text that contains one of them scores one or more, and any
other text scores zero. -/
theorem score_standard_cases (htokens : tokens ≠ []) (text : String) :
    AtLeastOne ((standard : ScoringOptions R).score tokens text) ∧
        (∃ token ∈ tokens, token ≠ "" ∧ token.toList <:+: text.toList) ∨
      (standard : ScoringOptions R).score tokens text = 0 ∧
        ¬∃ token ∈ tokens, token ≠ "" ∧ token.toList <:+: text.toList := by
  have hearned : ∀ token ∈ tokens,
      (standard : ScoringOptions R).tokenScore text.toList token = 0 ∨
        AtLeastOne ((standard : ScoringOptions R).tokenScore text.toList token) :=
    fun token _ => tokenScore_cases text.toList token
  simp only [← tokenScore_atLeastOne_iff (R := R)]
  rw [score, if_neg htokens]
  dsimp only
  by_cases hmatched : ∃ token ∈ tokens,
      AtLeastOne ((standard : ScoringOptions R).tokenScore text.toList token)
  · left
    have hcount := SteadyScalar.natCast_atLeastOne (R := R)
      (countMatched_standard_pos_iff.mpr hmatched)
    have hsum := (SteadyScalar.atLeastOne.sum_iff hearned).mpr hmatched
    exact ⟨SteadyScalar.mul_atLeastOne hsum hcount, hmatched⟩
  · right
    have hcount : countMatched
        (tokens.map ((standard : ScoringOptions R).tokenScore text.toList)) = 0 :=
      Nat.eq_zero_of_not_pos (mt (countMatched_standard_pos_iff (R := R)).mp hmatched)
    have hsum : (standard : ScoringOptions R).combineTokens.apply
        (tokens.map ((standard : ScoringOptions R).tokenScore text.toList)) = 0 :=
      (SteadyScalar.atLeastOne.sum_cases hearned).resolve_right
        (mt (SteadyScalar.atLeastOne.sum_iff hearned).mp hmatched)
    exact ⟨by rw [hcount, hsum, SteadyScalar.zero_mul_zero], hmatched⟩

/-- A text scores above zero if it contains one of the tokens, of which there are some. -/
theorem score_standard_pos_iff (htokens : tokens ≠ []) {text : String} :
    0 < (standard : ScoringOptions R).score tokens text ↔
      ∃ token ∈ tokens, token ≠ "" ∧ token.toList <:+: text.toList := by
  rcases score_standard_cases (R := R) htokens text with ⟨hone, hcontains⟩ | ⟨hzero, hnone⟩
  · exact iff_of_true hone.1 hcontains
  · rw [hzero]
    exact iff_of_false SteadyScalar.pos.not_zero hnone

end ScoringOptions

/-- An entry with valid weights scores above zero if one of its texts contains one of the
tokens, of which there are some. -/
theorem Entry.score_standard_pos_iff {Id Tag R : Type} [Ord Tag] [Scalar R] [SteadyScalar R]
    {entry : Entry Id Tag R} {tokens : List String} (htokens : tokens ≠ [])
    (hvalid : ∀ text ∈ entry.texts, text.HasValidWeight) :
    0 < entry.score .standard tokens ↔
      ∃ text ∈ entry.texts, ∃ token ∈ tokens, token ≠ "" ∧ token.toList <:+: text.text.toList := by
  have hproduct : ∀ text ∈ entry.texts,
      0 < ScoringOptions.standard.score tokens text.text * text.weight ∧
          (∃ token ∈ tokens, token ≠ "" ∧ token.toList <:+: text.text.toList) ∨
        ScoringOptions.standard.score tokens text.text * text.weight = 0 ∧
          ¬∃ token ∈ tokens, token ≠ "" ∧ token.toList <:+: text.text.toList := by
    intro text htext
    obtain ⟨hfinite, hpositive⟩ := hvalid text htext
    rcases ScoringOptions.score_standard_cases (R := R) htokens text.text with
      ⟨hone, hcontains⟩ | ⟨hzero, hnone⟩
    · exact Or.inl ⟨SteadyScalar.mul_pos hone hpositive, hcontains⟩
    · exact Or.inr ⟨by rw [hzero, SteadyScalar.zero_mul hfinite hpositive], hnone⟩
  have hsum : 0 < entry.score .standard tokens ↔
      ∃ text ∈ entry.texts, 0 < ScoringOptions.standard.score tokens text.text * text.weight :=
    SteadyScalar.pos.sum_iff fun text htext =>
      (hproduct text htext).symm.imp And.left And.left
  rw [hsum]
  refine exists_congr fun text => and_congr_right fun htext => ?_
  rcases hproduct text htext with ⟨hpositive, hcontains⟩ | ⟨hzero, hnone⟩
  · exact iff_of_true hpositive hcontains
  · rw [hzero]
    exact iff_of_false SteadyScalar.pos.not_zero hnone

end FacetSearch
