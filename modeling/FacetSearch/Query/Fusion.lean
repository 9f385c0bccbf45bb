import FacetSearch.Character.Numeric

/-!
# Version and scale notation

Cutting a query takes `v2` and `4x` apart.  `fuse` goes once over the tokens and
puts them together again:

* `v` and a number after it become one token, and so do a number and an `x`
  after it;
* a `v` at the end of a longer token, with a number after it, is first taken off
  that token, so that `dev`, `2` becomes `de`, `v2`.

A token that has just been put together is not looked at again.  `Fusion.step?`
is one step of the pass and `Fusion.step?_weight_lt` shows that every step gets
closer to its end.
-/

namespace FacetSearch.Query

/-- Whether a token is a number: one or more ASCII digits. -/
def isNumber (token : List Char) : Bool :=
  token ≠ [] && token.all isDigit

/-- The longer token that a `v` ends, if there is one. -/
def beforeFinalV? (token : List Char) : Option (List Char) :=
  match token.reverse with
  | 'v' :: c :: before => some (c :: before).reverse
  | _ => none

/-- Whether two neighbouring tokens are one version or one scale. -/
def areNotation (a b : List Char) : Bool :=
  (a == ['v'] && isNumber b) || (isNumber a && b == ['x'])

/-- A place in the pass over the tokens. -/
structure Fusion where
  /-- The tokens that are settled, last one first. -/
  settled : List (List Char)
  /-- The tokens still to be looked at. -/
  pending : List (List Char)
deriving DecidableEq, Repr

namespace Fusion

/-- One step of the pass, which looks at the first two pending tokens.  When
fewer than two are pending there is none. -/
def step? (pass : Fusion) : Option Fusion :=
  match pass.pending with
  | a :: b :: rest =>
      match beforeFinalV? a, isNumber b with
      | some before, true => some ⟨before :: pass.settled, ['v'] :: b :: rest⟩
      | _, _ =>
          if areNotation a b then some ⟨(a ++ b) :: pass.settled, rest⟩
          else some ⟨a :: pass.settled, b :: rest⟩
  | _ => none

/-- The number of pending tokens, those of two or more characters counted
twice. -/
def weight (pass : Fusion) : Nat :=
  pass.pending.length + pass.pending.countP (2 ≤ ·.length)

theorem length_of_beforeFinalV? {token before : List Char}
    (hbefore : beforeFinalV? token = some before) : 2 ≤ token.length := by
  unfold beforeFinalV? at hbefore
  split at hbefore
  case h_1 c rest hreverse =>
    have := congrArg List.length hreverse
    simp only [List.length_reverse, List.length_cons] at this
    omega
  case h_2 => simp at hbefore

/-- Every step of the pass lowers its weight. -/
theorem step?_weight_lt {pass next : Fusion} (hstep : pass.step? = some next) :
    next.weight < pass.weight := by
  unfold step? at hstep
  split at hstep
  case h_2 => simp at hstep
  case h_1 a b rest hpending =>
    split at hstep
    case h_1 before hbefore hnumber =>
      cases hstep
      simp [weight, hpending, length_of_beforeFinalV? hbefore]
    case h_2 =>
      split at hstep <;> cases hstep
      all_goals
        simp only [weight, hpending, List.length_cons, List.countP_cons]
        omega

/-- The tokens when the pass is over. -/
def run (pass : Fusion) : List (List Char) :=
  match hstep : pass.step? with
  | none => pass.settled.reverse ++ pass.pending
  | some next =>
      have : next.weight < pass.weight := step?_weight_lt hstep
      next.run
termination_by pass.weight

end Fusion

/-- The tokens with version and scale notation put together. -/
def fuse (tokens : List (List Char)) : List (List Char) :=
  Fusion.run ⟨[], tokens⟩

end FacetSearch.Query
