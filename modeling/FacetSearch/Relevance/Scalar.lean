/-!
# Numbers that scores are made of

Scores and weights are numbers of a type `R` with the few operations that
`Scalar` lists.  A running search uses `Float`; what a search finds is a
statement about exact numbers, and there `R` is another instance.

Every choice between two scores is made by the comparison `<` alone.  Neither of
two equal numbers is smaller, and an undefined one is neither smaller nor greater
than any other, so nothing more has to be said about undefined numbers.
-/

namespace FacetSearch

/-- A type of numbers with the operations that scoring uses. -/
class Scalar (R : Type) extends Zero R, One R, Add R, Mul R, NatCast R, LT R where
  /-- The square root. -/
  sqrt : R → R
  /-- Whether a number is an ordinary one: neither infinite nor undefined. -/
  isFinite : R → Bool
  /-- The comparison can be decided. -/
  decLt : DecidableRel (α := R) (· < ·)

instance Scalar.instDecidableLt {R : Type} [Scalar R] : DecidableRel (α := R) (· < ·) :=
  Scalar.decLt

instance : Scalar Float where
  zero := 0.0
  one := 1.0
  natCast := Float.ofNat
  sqrt := Float.sqrt
  isFinite := Float.isFinite
  decLt := fun a b => Float.decLt a b

end FacetSearch
