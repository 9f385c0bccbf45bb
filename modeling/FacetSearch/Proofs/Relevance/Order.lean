import FacetSearch.Relevance.Scalar

/-!
# The order of scores

Scores are floating-point numbers, and these are not linearly ordered: an
undefined number is neither smaller nor greater than any other.  A ranking needs
less.  No two numbers may each be smaller than the other, and a number that is
ranked has to stand somewhere among all others (`Scalar.IsComparable`), as every
positive number does.

Floating-point numbers have both properties because their comparison is that of
places on a line (`FloatOrder.compare_eq`): the infinities lie outside of the finite
numbers, the negative ones below zero and the positive ones above it, and among
those of one sign the exponent counts first and the mantissa second.
-/

namespace FacetSearch

/-- Whether a number is above the smaller or below the greater of any two. -/
def Scalar.IsComparable {R : Type} [Scalar R] (b : R) : Prop :=
  ∀ a c : R, a < c → a < b ∨ b < c

/-- The comparison ranks the positive numbers. -/
class LawfulScalar (R : Type) [Scalar R] : Prop where
  /-- No two numbers are each smaller than the other. -/
  lt_asymm : ∀ {a b : R}, a < b → ¬b < a
  /-- Positive numbers stand somewhere among all others. -/
  isComparable_of_pos : ∀ {b : R}, 0 < b → Scalar.IsComparable b

namespace FloatOrder

open Float.Model UnpackedFloat
open Std (OrientedCmp TransCmp)

/-- A place on the line, given by the kind of the numbers around it and by the place
among those. -/
structure Place where
  kind : Int
  exponent : Int
  mantissa : Int

def Place.compare : Place → Place → Ordering :=
  compareLex (compareOn kind) (compareLex (compareOn exponent) (compareOn mantissa))

instance : TransCmp Place.compare :=
  inferInstanceAs (TransCmp (compareLex _ _))

/-- The place of a number, unless the number is undefined. -/
def place? : UnpackedFloat → Option Place
  | .notANumber => none
  | .zero _ => some ⟨0, 0, 0⟩
  | .finite sign mantissa exponent _ =>
      some ⟨sign.apply 1, sign.apply exponent, sign.apply mantissa⟩
  | .infinity sign => some ⟨sign.apply 2, 0, 0⟩

theorem compare_natCast (m n : Nat) : compare (m : Int) (n : Int) = compare m n := by
  rw [Int.compare_eq_ite_lt, Nat.compare_eq_ite_lt]
  simp only [Int.ofNat_lt]

theorem compare_neg (a b : Int) : compare (-a) (-b) = (compare a b).swap := by
  rw [Int.compare_swap, Int.compare_eq_ite_lt, Int.compare_eq_ite_lt]
  simp only [Int.neg_lt_neg_iff]

/-- Finite numbers of one sign are compared by exponent, then by mantissa, and
negative ones in reverse. -/
theorem compare_finite (sign : Sign) {m n : Nat} {e f : Int} (hm : 0 < m) (hn : 0 < n) :
    (finite sign m e hm).compare (finite sign n f hn) =
      some ((compare (sign.apply e) (sign.apply f)).then
        (compare (sign.apply m) (sign.apply n))) := by
  cases sign with
  | positive =>
      have horder : (compare e f).then (compare m n) =
          (compare e f).then (compare (m : Int) (n : Int)) := by rw [compare_natCast]
      exact congrArg some horder
  | negative =>
      have horder : ((compare e f).then (compare m n)).swap =
          (compare (-e) (-f)).then (compare (-(m : Int)) (-(n : Int))) := by
        rw [Ordering.swap_then, compare_neg, compare_neg, compare_natCast]
      exact congrArg some horder

/-- Numbers are compared by their places, if both are defined. -/
theorem compare_eq (a b : UnpackedFloat) :
    a.compare b = (place? a).bind fun p => (place? b).map p.compare := by
  cases a with
  | notANumber => rfl
  | zero s =>
      cases b with
      | notANumber => rfl
      | zero t => rfl
      | finite t n f hn => cases t <;> rfl
      | infinity t => cases t <;> rfl
  | finite s m e hm =>
      cases b with
      | notANumber => rfl
      | zero t => cases s <;> rfl
      | finite t n f hn =>
          cases s <;> cases t
          case positive.positive => exact compare_finite .positive hm hn
          case negative.negative => exact compare_finite .negative hm hn
          case positive.negative => rfl
          case negative.positive => rfl
      | infinity t => cases s <;> cases t <;> rfl
  | infinity s =>
      cases b with
      | notANumber => cases s <;> rfl
      | zero t => cases s <;> rfl
      | finite t n f hn => cases s <;> cases t <;> rfl
      | infinity t => cases s <;> cases t <;> rfl

/-- A number is smaller than another if both are defined and its place is lower. -/
theorem lt_iff {a b : Float} :
    a < b ↔ ∃ p ∈ place? a.toModel.unpack, ∃ q ∈ place? b.toModel.unpack,
      p.compare q = .lt := by
  have hcompare : a < b ↔ a.toModel.unpack.compare b.toModel.unpack = some .lt :=
    decide_eq_true_iff.trans beq_iff_eq
  rw [hcompare, compare_eq]
  simp only [Option.bind_eq_some_iff, Option.map_eq_some_iff, Option.mem_def]

/-- Two numbers are equal if both are defined and have the same place. -/
theorem beq_iff {a b : Float} :
    (a == b) = true ↔ ∃ p ∈ place? a.toModel.unpack, ∃ q ∈ place? b.toModel.unpack,
      p.compare q = .eq := by
  have hcompare : (a == b) = true ↔ a.toModel.unpack.compare b.toModel.unpack = some .eq := by
    show (a.toModel.unpack.compare b.toModel.unpack == some .eq) = true ↔ _
    exact beq_iff_eq
  rw [hcompare, compare_eq]
  simp only [Option.bind_eq_some_iff, Option.map_eq_some_iff, Option.mem_def]

/-- The numbers without a place are the undefined ones. -/
theorem exists_mem_place?_iff {b : Float} :
    (∃ q, q ∈ place? b.toModel.unpack) ↔ b.isNaN = false := by
  rw [Float.isNaN, Float.Model.isNaN]
  cases b.toModel.unpack with
  | notANumber => exact iff_of_false (fun ⟨_, hq⟩ => nomatch hq) (by decide)
  | zero sign => exact iff_of_true ⟨_, rfl⟩ rfl
  | finite sign m e hm => exact iff_of_true ⟨_, rfl⟩ rfl
  | infinity sign => exact iff_of_true ⟨_, rfl⟩ rfl

/-- A number that has a place is comparable with all others. -/
theorem isComparable_of_place? {b : Float} {q : Place} (hq : q ∈ place? b.toModel.unpack) :
    Scalar.IsComparable b := by
  intro a c hac
  obtain ⟨p, hp, r, hr, hpr⟩ := lt_iff.mp hac
  by_cases hqp : (q.compare p).isLE
  · exact Or.inr (lt_iff.mpr ⟨q, hq, r, hr, TransCmp.lt_of_isLE_of_lt hqp hpr⟩)
  · exact Or.inl (lt_iff.mpr ⟨p, hp, q, hq, OrientedCmp.lt_of_not_isLE hqp⟩)

/-- All numbers but the undefined ones are comparable. -/
theorem isComparable_of_isNaN {b : Float} (hdefined : b.isNaN = false) :
    Scalar.IsComparable b := by
  obtain ⟨q, hq⟩ := exists_mem_place?_iff.mpr hdefined
  exact isComparable_of_place? hq

theorem isNaN_of_pos {b : Float} (hpositive : 0 < b) : b.isNaN = false := by
  obtain ⟨-, -, q, hq, -⟩ := lt_iff.mp hpositive
  exact exists_mem_place?_iff.mp ⟨q, hq⟩

/-- Of two defined numbers neither of which is smaller, each equals the other. -/
theorem beq_of_not_lt {a b : Float} (ha : a.isNaN = false) (hb : b.isNaN = false)
    (hab : ¬a < b) (hba : ¬b < a) : (a == b) = true := by
  obtain ⟨p, hp⟩ := exists_mem_place?_iff.mpr ha
  obtain ⟨q, hq⟩ := exists_mem_place?_iff.mpr hb
  refine beq_iff.mpr ⟨p, hp, q, hq, ?_⟩
  cases hpq : p.compare q with
  | lt => exact absurd (lt_iff.mpr ⟨p, hp, q, hq, hpq⟩) hab
  | eq => rfl
  | gt => exact absurd (lt_iff.mpr ⟨q, hq, p, hp, OrientedCmp.lt_of_gt hpq⟩) hba

theorem not_lt_of_beq {a b : Float} (heq : (a == b) = true) : ¬a < b ∧ ¬b < a := by
  obtain ⟨p, hp, q, hq, hpq⟩ := beq_iff.mp heq
  constructor
  · intro hlt
    obtain ⟨p', hp', q', hq', hlt⟩ := lt_iff.mp hlt
    cases Option.mem_unique hp hp'
    cases Option.mem_unique hq hq'
    rw [hpq] at hlt
    cases hlt
  · intro hlt
    obtain ⟨q', hq', p', hp', hlt⟩ := lt_iff.mp hlt
    cases Option.mem_unique hp hp'
    cases Option.mem_unique hq hq'
    rw [OrientedCmp.eq_symm hpq] at hlt
    cases hlt

end FloatOrder

instance : LawfulScalar Float where
  lt_asymm := by
    intro a b hab hba
    obtain ⟨p, hp, q, hq, hpq⟩ := FloatOrder.lt_iff.mp hab
    obtain ⟨q', hq', p', hp', hqp⟩ := FloatOrder.lt_iff.mp hba
    cases Option.mem_unique hp hp'
    cases Option.mem_unique hq hq'
    exact Std.OrientedCmp.not_lt_of_lt hpq hqp
  isComparable_of_pos := by
    intro b hb
    obtain ⟨-, -, q, hq, -⟩ := FloatOrder.lt_iff.mp hb
    exact FloatOrder.isComparable_of_place? hq

end FacetSearch
