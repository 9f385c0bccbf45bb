/-!
# Decimal text of floating point numbers

A floating point number stands for all real numbers that round to it.
`Binary.shortest` finds, among the decimals with that property, those with the
fewest digits, and of these the nearest: it tries ever finer grids of decimals
and stops at the first that has such a number on it.  All of it is exact
arithmetic on natural numbers.

`Decimal.positional` writes a decimal without an exponent, and `floatText` is the
text of a floating point number made of the two.
-/

namespace FacetSearch

/-- The number `significand * 2 ^ exponent`.  With `nearBelow`, the next smaller
floating point number is only half as far away as the next greater one. -/
structure Binary where
  significand : Nat
  exponent : Int
  nearBelow : Bool
deriving DecidableEq, Repr

/-- The number `digits * 10 ^ exponent`. -/
structure Decimal where
  digits : Nat
  exponent : Int
deriving DecidableEq, Repr

namespace Binary

/-! ## Comparing binary and decimal numbers -/

/-- The numerator of `count * 2 ^ exponent` in units of `10 ^ grid`.  The
denominator is `gridUnit exponent grid`. -/
def inGridUnits (count : Nat) (exponent grid : Int) : Nat :=
  count * Nat.pow 2 exponent.toNat * Nat.pow 10 (-grid).toNat

/-- The common denominator of all multiples of `2 ^ exponent` in units of
`10 ^ grid`. -/
def gridUnit (exponent grid : Int) : Nat :=
  Nat.pow 10 grid.toNat * Nat.pow 2 (-exponent).toNat

/-- Whether a decimal rounds to a binary number: it lies between the middles to
the two neighbours, one of which is a quarter of a step away if that neighbour is
near, and half a step otherwise.  The middles themselves round to an even
significand. -/
def isRoundedFrom (value : Binary) (decimal : Decimal) : Bool :=
  let quarters := 4 * value.significand
  let lower := quarters - if value.nearBelow then 1 else 2
  let upper := quarters + 2
  let quarter := value.exponent - 2
  let place := decimal.digits * gridUnit quarter decimal.exponent
  let least := inGridUnits lower quarter decimal.exponent
  let greatest := inGridUnits upper quarter decimal.exponent
  if value.significand % 2 = 0 then least ≤ place && place ≤ greatest
  else least < place && place < greatest

/-! ## The search through the grids -/

/-- The decimal on a grid that rounds to the value, if there is one.  Only the
two around the value can; the nearer one is taken, and the greater one if they
are equally near. -/
def onGrid? (value : Binary) (grid : Int) : Option Decimal :=
  let amount := inGridUnits value.significand value.exponent grid
  let unit := gridUnit value.exponent grid
  let below : Decimal := ⟨amount / unit, grid⟩
  let above : Decimal := ⟨amount / unit + 1, grid⟩
  match value.isRoundedFrom below, value.isRoundedFrom above with
  | true, true => some (if 2 * (amount % unit) < unit then below else above)
  | true, false => some below
  | false, true => some above
  | false, false => none

/-- The grids to try, from coarse to fine.  They start above the greatest
floating point number and end where all of them are told apart. -/
def grids : List Int :=
  (List.range 660).map fun (step : Nat) => 309 - (step : Int)

/-- The shortest decimal that rounds to a value other than zero. -/
def shortest (value : Binary) : Decimal :=
  (grids.findSome? value.onGrid?).getD ⟨0, 0⟩

/-- The absolute value of a finite floating point number with the given bits. -/
def ofBits (bits : Nat) : Binary :=
  let fraction : Nat := bits % Nat.pow 2 52
  let exponent : Nat := bits / Nat.pow 2 52 % Nat.pow 2 11
  if exponent = 0 then ⟨fraction, -1074, false⟩
  else ⟨Nat.pow 2 52 + fraction, (exponent : Int) - 1075, fraction = 0 && exponent ≠ 1⟩

end Binary

/-! ## Writing numbers -/

/-- The digits of a decimal, with a point in the right place or with zeros up to
the ones. -/
def Decimal.positional (decimal : Decimal) : List Char :=
  let digits := Nat.toDigits 10 decimal.digits
  let places := (-decimal.exponent).toNat
  if places = 0 then digits ++ List.replicate decimal.exponent.toNat '0'
  else
    let padded := List.replicate (places + 1 - digits.length) '0' ++ digits
    let whole := padded.length - places
    padded.take whole ++ '.' :: padded.drop whole

/-- The characters of a floating point number: the shortest decimal that reads
back as it, never with an exponent, and with a point only before a fraction.  The
sign of zero is written. -/
def floatChars (value : Float) : List Char :=
  let bits := value.toBits.toNat
  let sign := if bits / Nat.pow 2 63 = 1 then ['-'] else []
  let magnitude := Binary.ofBits bits
  if value.isNaN then ['N', 'a', 'N']
  else if value.isInf then sign ++ ['i', 'n', 'f']
  else if magnitude.significand = 0 then sign ++ ['0']
  else sign ++ magnitude.shortest.positional

/-- The text of a floating point number. -/
def floatText (value : Float) : String :=
  String.ofList (floatChars value)

end FacetSearch
