import FacetSearch.Proofs.Query.Conservation
import FacetSearch.Proofs.Query.Written
import Mathlib.Data.List.Chain

/-!
# Written tokens are read back

The tokens of a query that canonical tokens are written into are these tokens, in
whichever style each of them is written and whatever separators divide them.

The walk through the query cuts it into the parts of its tokens
(`Cursor.parts_written`).  The pass that puts notation together then goes over them
token by token (`Fusion.run_parts`): it puts a `v` together with its number and a number
with its `x`, and never looks at the result again.  It leaves a word and a number alone,
unless a number follows a final `v`, or an `x` follows a number.  Tokens that stay apart
(`CanonicalToken.StaysApart`) never stand so.
-/

namespace FacetSearch.Query

/-! ## Tokens that stay apart -/

namespace CanonicalToken

/-- Whether a token and the one after it are not put together: a token that starts with
a digit does not follow a final `v`, nor does the token `x` follow a number. -/
def StaysApart (token next : CanonicalToken) : Prop :=
  ¬(token.chars.getLast? = some 'v' ∧ next.chars.head?.any isDigit) ∧
    ¬(isNumber token.chars ∧ next.chars = ['x'])

instance (token next : CanonicalToken) : Decidable (token.StaysApart next) :=
  inferInstanceAs (Decidable (_ ∧ _))

theorem any_isDigit_head? {digits : List Char} (hdigits : isNumber digits) :
    digits.head?.any isDigit := by
  obtain ⟨hnonempty, hall⟩ := isNumber_iff.mp hdigits
  cases digits with
  | nil => exact absurd rfl hnonempty
  | cons d rest => exact hall d List.mem_cons_self

/-- The first part of a token says how the token starts: with a number only if it starts
with a digit, and with the part `x` only if it is the token `x`. -/
theorem exists_parts_eq_cons (token : CanonicalToken) :
    ∃ first rest, token.parts = first :: rest ∧
      (isNumber first → token.chars.head?.any isDigit) ∧
      (first = ['x'] → token.chars = ['x']) := by
  cases token with
  | word letters hletters => exact ⟨letters, [], rfl, any_isDigit_head?, id⟩
  | number digits hdigits => exact ⟨digits, [], rfl, any_isDigit_head?, id⟩
  | version digits hdigits =>
      exact ⟨['v'], [digits], rfl, fun hv => absurd hv (by decide), fun hx => absurd hx (by decide)⟩
  | scale digits hdigits =>
      refine ⟨digits, [['x']], rfl, fun _ => ?_, ?_⟩
      · cases digits with
        | nil => cases hdigits
        | cons d rest => exact (isNumber_iff.mp hdigits).2 d List.mem_cons_self
      · rintro rfl
        exact absurd hdigits (by decide)

end CanonicalToken

/-! ## Putting parts together -/

namespace Fusion

variable {settled rest : List (List Char)} {a b : List Char}

theorem run_of_step? {pass next : Fusion} (hstep : pass.step? = some next) :
    pass.run = next.run := by
  rw [run]
  split
  case h_1 hend => rw [hend] at hstep; cases hstep
  case h_2 hsome => rw [hsome] at hstep; cases hstep; rfl

/-- Fewer than two pending tokens are left as they are. -/
theorem run_finish {pending : List (List Char)} (hpending : pending.length < 2) :
    run ⟨settled, pending⟩ = settled.reverse ++ pending := by
  match pending with
  | [] | [_] => rw [run]; rfl
  | _ :: _ :: _ =>
      simp only [List.length_cons] at hpending
      omega

/-- With no `v` to take off, the first token is settled, alone or together with the second. -/
theorem step?_settle (hfirst : beforeFinalV? a = none ∨ isNumber b = false) :
    step? ⟨settled, a :: b :: rest⟩ =
      some (if areNotation a b then ⟨(a ++ b) :: settled, rest⟩ else ⟨a :: settled, b :: rest⟩) := by
  rw [apply_ite some]
  rcases hfirst with hnone | hnumber
  · simp only [step?, hnone]
  · cases hbefore : beforeFinalV? a <;> simp only [step?, hbefore, hnumber]

/-- Two parts of a notation become one token, which is not looked at again. -/
theorem run_join (hfirst : beforeFinalV? a = none ∨ isNumber b = false)
    (hjoins : areNotation a b) :
    run ⟨settled, a :: b :: rest⟩ = run ⟨(a ++ b) :: settled, rest⟩ := by
  apply run_of_step?
  rw [step?_settle hfirst, if_pos hjoins]

/-- A token that has nothing to do with the next one is settled. -/
theorem run_keep (hfirst : beforeFinalV? a = none ∨ isNumber b = false)
    (hjoins : areNotation a b = false) :
    run ⟨settled, a :: b :: rest⟩ = run ⟨a :: settled, b :: rest⟩ := by
  apply run_of_step?
  rw [step?_settle hfirst, hjoins, if_neg Bool.false_ne_true]

/-- A token that does not end in a `v` has none to take off. -/
theorem beforeFinalV?_eq_none (hlast : a.getLast? ≠ some 'v') : beforeFinalV? a = none := by
  rw [Option.eq_none_iff_forall_ne_some]
  intro before hbefore
  exact hlast (by simp [eq_append_of_beforeFinalV? hbefore])

/-- A token that stays apart from the next one is settled before the parts of that. -/
theorem run_keep_of_staysApart {token next : CanonicalToken} (hapart : token.StaysApart next) :
    run ⟨settled, token.chars :: (next.parts ++ rest)⟩ =
      run ⟨token.chars :: settled, next.parts ++ rest⟩ := by
  obtain ⟨first, more, hparts, hnumber, hx⟩ := next.exists_parts_eq_cons
  obtain ⟨hversion, hscale⟩ := hapart
  have hx' : isNumber ['x'] = false := by decide
  rw [hparts, List.cons_append]
  cases hfirst : isNumber first with
  | true =>
      -- a number comes next, so the token does not end in a `v`
      have hlast : token.chars.getLast? ≠ some 'v' := fun hv => hversion ⟨hv, hnumber hfirst⟩
      have hv : token.chars ≠ ['v'] := fun heq => hlast (by rw [heq]; rfl)
      have hnotx : first ≠ ['x'] := by
        rintro rfl
        rw [hx'] at hfirst
        cases hfirst
      refine run_keep (Or.inl (beforeFinalV?_eq_none hlast)) ?_
      simp [areNotation, hv, hnotx]
  | false =>
      refine run_keep (Or.inr hfirst) ?_
      have hnotx : ¬(isNumber token.chars = true ∧ first = ['x']) := by
        rintro ⟨htoken, heq⟩
        exact hscale ⟨htoken, hx heq⟩
      simpa [areNotation, hfirst] using hnotx

/-- The pass puts the parts of tokens that stay apart together to these tokens. -/
theorem run_parts {tokens : List CanonicalToken}
    (hapart : tokens.IsChain CanonicalToken.StaysApart) (settled : List (List Char)) :
    run ⟨settled, tokens.flatMap CanonicalToken.parts⟩ =
      settled.reverse ++ tokens.map CanonicalToken.chars := by
  induction tokens generalizing settled with
  | nil => exact run_finish Nat.zero_lt_two
  | cons token rest ih =>
      have hrest : rest.IsChain CanonicalToken.StaysApart := hapart.tail
      -- once the token stands as it is, the others follow it
      have hjoined : run ⟨token.chars :: settled, rest.flatMap CanonicalToken.parts⟩ =
          settled.reverse ++ (token :: rest).map CanonicalToken.chars := by
        rw [ih hrest, List.reverse_cons, List.append_assoc, List.singleton_append, List.map_cons]
      have hsettled : run ⟨settled, token.chars :: rest.flatMap CanonicalToken.parts⟩ =
          settled.reverse ++ (token :: rest).map CanonicalToken.chars := by
        cases rest with
        | nil => exact run_finish Nat.one_lt_two
        | cons next more =>
            have hnext : token.StaysApart next := (List.isChain_cons_cons.mp hapart).1
            rw [List.flatMap_cons, run_keep_of_staysApart hnext, ← List.flatMap_cons, hjoined]
      rw [List.flatMap_cons]
      cases token with
      | word letters hletters => exact hsettled
      | number digits hdigits => exact hsettled
      | version digits hdigits =>
          have hjoins : areNotation ['v'] digits := areNotation_iff.mpr (Or.inl ⟨rfl, hdigits⟩)
          exact (run_join (Or.inl rfl) hjoins).trans hjoined
      | scale digits hdigits =>
          have hjoins : areNotation digits ['x'] := areNotation_iff.mpr (Or.inr ⟨hdigits, rfl⟩)
          exact (run_join (Or.inr (by decide)) hjoins).trans hjoined

end Fusion

/-! ## Written queries -/

/-- **Written tokens are read back.**  A query in which canonical tokens stand, each in
any style, divided by separators or by a capital initial, with separators in front and
at the end, has precisely these tokens, if neighbours among them stay apart. -/
theorem tokens_written {placements : List Placement} {trailing : List Char}
    (htrailing : ∀ c ∈ trailing, isSeparator c)
    (hdivided : ∀ next ∈ placements.tail, next.IsDivided)
    (hapart : (placements.map Placement.token).IsChain CanonicalToken.StaysApart) :
    tokens (String.ofList (written placements trailing)) =
      placements.map fun placement => String.ofList placement.token.chars := by
  have hparts : parts (written placements trailing) =
      (placements.map Placement.token).flatMap CanonicalToken.parts := by
    rw [List.flatMap_map]
    exact Cursor.parts_written htrailing hdivided []
  have hfused : tokenChars (written placements trailing) =
      (placements.map Placement.token).map CanonicalToken.chars := by
    rw [tokenChars, hparts, fuse, Fusion.run_parts hapart, List.reverse_nil, List.nil_append]
  rw [tokens, String.toList_ofList, hfused, List.map_map, List.map_map]
  rfl

/-- Five tokens, in all the styles and with all that may divide them. -/
def samplePlacements : List Placement :=
  [⟨[' '], List.all_eq_true.mp rfl, .scale ['4'] (by decide), .capitals⟩,
    ⟨['-', '_'], List.all_eq_true.mp rfl, .word ['a', 'n', 'i'] (by decide), .initial⟩,
    ⟨[], List.forall_mem_nil _, .word ['d', 'e'] (by decide), .initial⟩,
    ⟨['.'], List.all_eq_true.mp rfl, .version ['2'] (by decide), .capitals⟩,
    ⟨[' '], List.all_eq_true.mp rfl, .word ['d', 'd', 's'] (by decide), .small⟩]

/-- The five tokens are found in their text: a scale in capitals, a word that only its capital
divides from the one before it, a version, a format word, and a separator at the end. -/
theorem tokens_written_sample :
    (∀ c ∈ ['.'], isSeparator c) ∧
      (∀ next ∈ samplePlacements.tail, next.IsDivided) ∧
      (samplePlacements.map Placement.token).IsChain CanonicalToken.StaysApart ∧
      tokens " 4X-_AniDe.V2 dds." = ["4x", "ani", "de", "v2", "dds"] := by
  have htrailing : ∀ c ∈ ['.'], isSeparator c := List.all_eq_true.mp rfl
  have hdivided : ∀ next ∈ samplePlacements.tail, next.IsDivided := by decide
  have hapart : (samplePlacements.map Placement.token).IsChain CanonicalToken.StaysApart := by
    decide
  have hwritten : " 4X-_AniDe.V2 dds." = String.ofList (written samplePlacements ['.']) := rfl
  refine ⟨htrailing, hdivided, hapart, ?_⟩
  rw [hwritten, tokens_written htrailing hdivided hapart]
  rfl

end FacetSearch.Query
