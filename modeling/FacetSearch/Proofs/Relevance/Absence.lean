import FacetSearch.Proofs.Relevance.Exact
import FacetSearch.Proofs.Relevance.Rounding

/-!
# Texts without any token

A text in which no token stands scores zero, whatever the options are.  Base scores and
bonuses may be negative, infinite or undefined: they are never looked at, since every token
earns the combination of no scores at all, which is zero for both combiners
(`tokenScore_eq_zero`).  From there on there are only zeros to combine and to multiply.

Undefined and infinite scores may come up where a token does stand in the text, but none of
them makes a text score above zero on its own.  The combined score is multiplied by the number
of the tokens that have earned something, and if there is no such token, the product with that
zero is not above zero (`exists_tokenScore_pos`).

What the arithmetic has to do for that is listed in `InertZero`.  Floating-point numbers do
it, with `0 * x` undefined for an infinite or undefined `x`, and real numbers do.
-/

namespace FacetSearch

/-- Zeros add and multiply to zero, and no product with zero is above it. -/
class InertZero (R : Type) [Scalar R] : Prop where
  not_zero_pos : ¬(0 : R) < 0
  zero_add_zero : (0 : R) + 0 = 0
  zero_mul_zero : (0 : R) * (0 : Nat) = 0
  /-- Finite weights keep a score of zero. -/
  zero_mul : ∀ {x : R}, Scalar.isFinite x = true → 0 < x → 0 * x = 0
  not_mul_zero_pos : ∀ x : R, ¬0 < x * (0 : Nat)

namespace FloatRounding

open Float.Model UnpackedFloat

/-- A product with zero is zero, of either sign, or undefined. -/
theorem mul_zero_cases (number : UnpackedFloat) :
    UnpackedFloat.mul Format.binary64 number (.zero .positive) = .notANumber ∨
      ∃ sign, UnpackedFloat.mul Format.binary64 number (.zero .positive) = .zero sign := by
  cases number with
  | notANumber => exact Or.inl rfl
  | infinity sign => exact Or.inl rfl
  | zero sign => exact Or.inr ⟨_, rfl⟩
  | finite sign m e hm => exact Or.inr ⟨_, rfl⟩

theorem not_mul_zero_pos (x : Float) : ¬0.0 < x * 0.0 := by
  rw [pos_iff, toModel_mul, Float.Model.mul, unpack_zero]
  rcases mul_zero_cases x.toModel.unpack with hundefined | ⟨sign, hzero⟩
  · rw [hundefined]
    exact not_false
  · rw [hzero]
    cases sign <;> exact not_false

end FloatRounding

instance : InertZero Float where
  not_zero_pos := SteadyScalar.pos.not_zero
  zero_add_zero := SteadyScalar.zero_add_zero
  zero_mul_zero := SteadyScalar.zero_mul_zero
  zero_mul := SteadyScalar.zero_mul
  not_mul_zero_pos := FloatRounding.not_mul_zero_pos

instance : InertZero ℝ where
  not_zero_pos := SteadyScalar.pos.not_zero
  zero_add_zero := SteadyScalar.zero_add_zero
  zero_mul_zero := SteadyScalar.zero_mul_zero
  zero_mul := SteadyScalar.zero_mul
  not_mul_zero_pos x := by
    rw [Nat.cast_zero, mul_zero]
    exact lt_irrefl 0

/-! ## Combined zeros -/

variable {R : Type} [Scalar R]

/-- A step that makes zero of zeros makes zero of any number of them. -/
theorem foldl_eq_zero {step : R → R → R} (hstep : step 0 0 = 0) {scores : List R}
    (hzero : ∀ score ∈ scores, score = 0) : scores.foldl step 0 = 0 := by
  induction scores with
  | nil => rfl
  | cons score rest ih =>
      obtain ⟨rfl, hrest⟩ := List.forall_mem_cons.mp hzero
      rw [List.foldl_cons, hstep, ih hrest]

theorem Combiner.apply_nil (c : Combiner) : c.apply ([] : List R) = 0 := by
  cases c <;> rfl

variable [InertZero R]

theorem Combiner.apply_eq_zero (c : Combiner) {scores : List R}
    (hzero : ∀ score ∈ scores, score = 0) : c.apply scores = 0 := by
  unfold apply
  cases c with
  | sum => exact foldl_eq_zero InertZero.zero_add_zero hzero
  | max =>
      refine foldl_eq_zero ?_ hzero
      exact ite_self 0

/-! ## Scores -/

namespace ScoringOptions

variable {options : ScoringOptions R} {token : String} {tokens : List String}

omit [InertZero R] in
/-- A token earns nothing in a text in which it does not stand. -/
theorem tokenScore_eq_zero {text : List Char}
    (habsent : ¬(token ≠ "" ∧ token.toList <:+: text)) : options.tokenScore text token = 0 := by
  rw [ne_eq, ← String.toList_eq_nil_iff, ← ne_eq, ← Text.occurrences_ne_nil_iff, not_not]
    at habsent
  rw [tokenScore, habsent, List.map_nil, Combiner.apply_nil]

theorem infix_of_tokenScore_pos {text : List Char} (hpositive : 0 < options.tokenScore text token) :
    token ≠ "" ∧ token.toList <:+: text := by
  by_contra habsent
  rw [tokenScore_eq_zero habsent] at hpositive
  exact InertZero.not_zero_pos hpositive

/-- A text without any of the tokens scores zero. -/
theorem score_eq_zero (htokens : tokens ≠ []) {text : String}
    (habsent : ∀ token ∈ tokens, token ≠ "" → ¬token.toList <:+: text.toList) :
    options.score tokens text = 0 := by
  have hzero : ∀ score ∈ tokens.map (options.tokenScore text.toList), score = 0 := by
    rw [List.forall_mem_map]
    intro token htoken
    exact tokenScore_eq_zero fun hpresent => habsent token htoken hpresent.1 hpresent.2
  have hcount : countMatched (tokens.map (options.tokenScore text.toList)) = 0 := by
    apply List.countP_eq_zero.mpr
    intro score hscore
    rw [hzero score hscore, decide_eq_true_eq]
    exact InertZero.not_zero_pos
  rw [score, if_neg htokens]
  dsimp only
  rw [Combiner.apply_eq_zero _ hzero, hcount, InertZero.zero_mul_zero]

/-- A text that scores above zero has a token that earns something in it. -/
theorem exists_tokenScore_pos (htokens : tokens ≠ []) {text : String}
    (hpositive : 0 < options.score tokens text) :
    ∃ token ∈ tokens, 0 < options.tokenScore text.toList token := by
  have hmatched : countMatched (tokens.map (options.tokenScore text.toList)) ≠ 0 := by
    intro hcount
    rw [score, if_neg htokens] at hpositive
    dsimp only at hpositive
    rw [hcount] at hpositive
    exact InertZero.not_mul_zero_pos _ hpositive
  obtain ⟨score, hscore, hearned⟩ := List.countP_pos_iff.mp (Nat.pos_of_ne_zero hmatched)
  obtain ⟨token, htoken, rfl⟩ := List.mem_map.mp hscore
  exact ⟨token, htoken, of_decide_eq_true hearned⟩

end ScoringOptions

/-- An entry with valid weights in whose texts none of the tokens stands scores zero. -/
theorem Entry.score_eq_zero {Id Tag : Type} [Ord Tag] {entry : Entry Id Tag R}
    {options : ScoringOptions R} {tokens : List String} (htokens : tokens ≠ [])
    (hvalid : ∀ text ∈ entry.texts, text.HasValidWeight)
    (habsent : ∀ text ∈ entry.texts, ∀ token ∈ tokens, token ≠ "" →
      ¬token.toList <:+: text.text.toList) :
    entry.score options tokens = 0 := by
  apply foldl_eq_zero InertZero.zero_add_zero
  rw [List.forall_mem_map]
  intro text htext
  obtain ⟨hfinite, hpositive⟩ := hvalid text htext
  rw [ScoringOptions.score_eq_zero htokens (habsent text htext),
    InertZero.zero_mul hfinite hpositive]

end FacetSearch
