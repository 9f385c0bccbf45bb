import FacetSearch.Proofs.Query.Grammar
import FacetSearch.Proofs.Query.RoundTrip

/-!
# What putting notation together leaves

Two neighbouring tokens are open (`areOpen`) if the pass that puts notation together would
change them: a number after a final `v`, or an `x` after a number.  The pass never looks
back, so this module first reads it as a function on the rest of the tokens.  One of three
things happens to the first two of them (`fuse_final`, `fuse_join`, `fuse_keep`), and
`fuse_induction` is the induction along these cases.

* Lists of tokens that meet in neighbours that are not open are passed over one by one
  (`fuse_append`).
* The pass changes nothing if and only if no neighbours are open (`fuse_eq_self_iff`).
* A token that has been put together is open with no other.  So neighbours that are open
  afterwards were not there before: a `v` was taken off the second one, and that uncovered
  an `x` after a number, or a number after a final `v` (`Uncovers`, `isChain_fuse_iff`).

Among the parts of a query a number never stands in one text with its `v`, so the only text
that is uncovered there is `x`, as in `4 xv 2`.
-/

namespace FacetSearch.Query

/-! ## Open neighbours -/

/-- Whether two neighbouring tokens are to be changed: the second is a number and the first
ends in a `v`, or the first is a number and the second is `x`. -/
def areOpen (a b : List Char) : Bool :=
  (a.getLast? == some 'v' && isNumber b) || (isNumber a && b == ['x'])

theorem areOpen_iff {a b : List Char} :
    areOpen a b ↔ (a.getLast? = some 'v' ∧ isNumber b) ∨ (isNumber a ∧ b = ['x']) := by
  simp [areOpen]

/-- A token with a character that is no digit is no number. -/
theorem isNumber_eq_false_of_mem {token : List Char} {c : Char} (hc : c ∈ token)
    (hdigit : isDigit c = false) : isNumber token = false := by
  refine Bool.eq_false_iff.mpr fun hnumber => ?_
  rw [(isNumber_iff.mp hnumber).2 c hc] at hdigit
  cases hdigit

theorem isNumber_final (before : List Char) : isNumber (before ++ ['v']) = false :=
  isNumber_eq_false_of_mem (c := 'v') (by simp) (by decide)

/-- A token that ends in a `v` is open with no token before it. -/
theorem areOpen_final (a before : List Char) : areOpen a (before ++ ['v']) = false := by
  have hx : before ++ ['v'] ≠ ['x'] := by
    intro heq
    have hlast := congrArg List.getLast? heq
    simp at hlast
  simp [areOpen, isNumber_final, hx]

theorem areOpen_x_left (other : List Char) : areOpen ['x'] other = false := by
  have hnumber : isNumber ['x'] = false := by decide
  simp [areOpen, hnumber]

theorem areOpen_of_areNotation {a b : List Char} (hjoins : areNotation a b) : areOpen a b := by
  rw [areOpen_iff]
  rcases areNotation_iff.mp hjoins with ⟨rfl, hb⟩ | hscale
  · exact Or.inl ⟨rfl, hb⟩
  · exact Or.inr hscale

theorem areNotation_eq_false_of_areOpen {a b : List Char} (hopen : areOpen a b = false) :
    areNotation a b = false :=
  Bool.eq_false_iff.mpr fun hjoins => by
    rw [areOpen_of_areNotation hjoins] at hopen
    cases hopen

/-- A notation that has been put together is open with no other token. -/
theorem areOpen_joined {a b : List Char} (hjoins : areNotation a b) (other : List Char) :
    areOpen (a ++ b) other = false ∧ areOpen other (a ++ b) = false := by
  rcases areNotation_iff.mp hjoins with ⟨rfl, hb⟩ | ⟨ha, rfl⟩
  · have hnonempty : b ≠ [] := (isNumber_iff.mp hb).1
    have hlast : ('v' :: b).getLast? ≠ some 'v' := by
      rw [List.getLast?_cons_of_ne_nil hnonempty]
      exact getLast?_ne_of_isNumber hb
    have hnumber : isNumber ('v' :: b) = false :=
      isNumber_eq_false_of_mem (c := 'v') (by simp) (by decide)
    simp [areOpen, hlast, hnumber]
  · have hnonempty : a ≠ [] := (isNumber_iff.mp ha).1
    have hnumber : isNumber (a ++ ['x']) = false :=
      isNumber_eq_false_of_mem (c := 'x') (by simp) (by decide)
    simp [areOpen, hnumber, hnonempty]

/-- The second part of a notation is open with `x` at most. -/
theorem eq_of_areOpen_of_areNotation {a b other : List Char} (hjoins : areNotation a b)
    (hopen : areOpen b other) : other = ['x'] := by
  have hlast : b.getLast? ≠ some 'v' := by
    rcases areNotation_iff.mp hjoins with ⟨-, hb⟩ | ⟨-, rfl⟩
    · exact getLast?_ne_of_isNumber hb
    · decide
  exact ((areOpen_iff.mp hopen).resolve_left fun hv => hlast hv.1).2

/-- Open neighbours are a longer token with a final `v` before a number, or the two parts of
a notation. -/
theorem neighbour_cases (a b : List Char) :
    (∃ before, before ≠ [] ∧ a = before ++ ['v'] ∧ isNumber b) ∨ areNotation a b ∨
      areOpen a b = false := by
  cases hopen : areOpen a b with
  | false => exact Or.inr (Or.inr rfl)
  | true =>
      rcases areOpen_iff.mp hopen with ⟨hlast, hb⟩ | ⟨ha, hb⟩
      · obtain ⟨before, rfl⟩ := List.getLast?_eq_some_iff.mp hlast
        by_cases hbefore : before = []
        · exact Or.inr (Or.inl (by simp [areNotation, hbefore, hb]))
        · exact Or.inl ⟨before, hbefore, rfl, hb⟩
      · exact Or.inr (Or.inl (by simp [areNotation, ha, hb]))

/-! ## The pass as a function on the rest -/

theorem beforeFinalV?_append {before : List Char} (hbefore : before ≠ []) :
    beforeFinalV? (before ++ ['v']) = some before := by
  obtain ⟨c, rest, hreverse⟩ := List.exists_cons_of_ne_nil (List.reverse_ne_nil_iff.mpr hbefore)
  have hlast : (before ++ ['v']).reverse = 'v' :: c :: rest := by simp [hreverse]
  simp only [beforeFinalV?, hlast]
  rw [← hreverse, List.reverse_reverse]

namespace Fusion

/-- A step does not depend on what is settled. -/
theorem step?_append_settled {pass next : Fusion} (hstep : pass.step? = some next)
    (below : List (List Char)) :
    step? ⟨pass.settled ++ below, pass.pending⟩ = some ⟨next.settled ++ below, next.pending⟩ := by
  obtain ⟨settled, pending⟩ := pass
  match pending with
  | [] | [_] => cases hstep
  | a :: b :: rest =>
      simp only [step?] at hstep ⊢
      split at hstep
      case h_1 => cases hstep; rfl
      case h_2 =>
        split at hstep
        case isTrue hjoins => cases hstep; rw [if_pos hjoins]; rfl
        case isFalse hjoins => cases hstep; rw [if_neg hjoins]; rfl

theorem length_pending_of_step?_eq_none {pass : Fusion} (hend : pass.step? = none) :
    pass.pending.length < 2 := by
  obtain ⟨settled, pending⟩ := pass
  match pending with
  | [] | [_] => simp
  | a :: b :: rest =>
      simp only [step?] at hend
      split at hend
      case h_1 => cases hend
      case h_2 => split at hend <;> cases hend

theorem run_append_settled (pass : Fusion) (below : List (List Char)) :
    run ⟨pass.settled ++ below, pass.pending⟩ = below.reverse ++ pass.run := by
  fun_induction run pass with
  | case1 pass hend =>
      rw [run_finish (length_pending_of_step?_eq_none hend), List.reverse_append,
        List.append_assoc]
  | case2 pass next hstep _ ih => rw [run_of_step? (step?_append_settled hstep below), ih]

/-- What is settled stays in front of what the pass makes of the rest. -/
theorem run_eq_append_fuse (settled pending : List (List Char)) :
    run ⟨settled, pending⟩ = settled.reverse ++ fuse pending :=
  run_append_settled ⟨[], pending⟩ settled

end Fusion

section Equations

variable {a b before : List Char} {rest : List (List Char)}

@[simp] theorem fuse_nil : fuse [] = [] :=
  Fusion.run_finish Nat.zero_lt_two

@[simp] theorem fuse_singleton : fuse [a] = [a] :=
  Fusion.run_finish Nat.one_lt_two

/-- The two parts of a notation become one token. -/
theorem fuse_join (hjoins : areNotation a b) : fuse (a :: b :: rest) = (a ++ b) :: fuse rest := by
  have hfirst : beforeFinalV? a = none ∨ isNumber b = false := by
    rcases areNotation_iff.mp hjoins with ⟨rfl, -⟩ | ⟨-, rfl⟩
    · exact Or.inl rfl
    · exact Or.inr (by decide)
  rw [fuse, Fusion.run_join hfirst hjoins, Fusion.run_eq_append_fuse]
  rfl

/-- Neighbours that are not open are left as they are. -/
theorem fuse_keep (hopen : areOpen a b = false) :
    fuse (a :: b :: rest) = a :: fuse (b :: rest) := by
  have hjoins := areNotation_eq_false_of_areOpen hopen
  have hfirst : beforeFinalV? a = none ∨ isNumber b = false := by
    cases hb : isNumber b with
    | false => exact Or.inr rfl
    | true =>
        refine Or.inl (Fusion.beforeFinalV?_eq_none fun hlast => ?_)
        simp [areOpen, hlast, hb] at hopen
  rw [fuse, Fusion.run_keep hfirst hjoins, Fusion.run_eq_append_fuse]
  rfl

/-- A `v` at the end of a longer token goes over to the number after it. -/
theorem fuse_final (hbefore : before ≠ []) (hb : isNumber b) :
    fuse ((before ++ ['v']) :: b :: rest) = before :: ('v' :: b) :: fuse rest := by
  have hstep : Fusion.step? ⟨[], (before ++ ['v']) :: b :: rest⟩ =
      some ⟨[before], ['v'] :: b :: rest⟩ := by
    simp [Fusion.step?, beforeFinalV?_append hbefore, hb]
  have hjoins : areNotation ['v'] b := areNotation_iff.mpr (Or.inl ⟨rfl, hb⟩)
  rw [fuse, Fusion.run_of_step? hstep, Fusion.run_eq_append_fuse, fuse_join hjoins]
  rfl

end Equations

/-- Induction along the pass over the tokens. -/
@[elab_as_elim]
theorem fuse_induction {motive : List (List Char) → Prop}
    (nil : motive []) (single : ∀ a, motive [a])
    (final : ∀ before b rest, before ≠ [] → isNumber b → motive rest →
      motive ((before ++ ['v']) :: b :: rest))
    (join : ∀ a b rest, areNotation a b → motive rest → motive (a :: b :: rest))
    (keep : ∀ a b rest, areOpen a b = false → motive (b :: rest) → motive (a :: b :: rest)) :
    ∀ tokens, motive tokens
  | [] => nil
  | [a] => single a
  | a :: b :: rest => by
      have hrest := fuse_induction nil single final join keep rest
      have hnext := fuse_induction nil single final join keep (b :: rest)
      rcases neighbour_cases a b with ⟨before, hbefore, rfl, hb⟩ | hjoins | hopen
      · exact final before b rest hbefore hb hrest
      · exact join a b rest hjoins hrest
      · exact keep a b rest hopen hnext

/-- Lists of tokens that do not meet in open neighbours are passed over one by one. -/
theorem fuse_append {first rest : List (List Char)}
    (hmeet : ∀ a ∈ first.getLast?, ∀ b ∈ rest.head?, areOpen a b = false) :
    fuse (first ++ rest) = fuse first ++ fuse rest := by
  induction first using fuse_induction with
  | nil => rw [fuse_nil, List.nil_append, List.nil_append]
  | single a =>
      cases rest with
      | nil => rw [fuse_nil, List.append_nil, List.append_nil]
      | cons b more =>
          have hopen : areOpen a b = false := hmeet a rfl b rfl
          rw [List.singleton_append, fuse_keep hopen, fuse_singleton, List.singleton_append]
  | final before b more hbefore hb ih =>
      have hmeet' : ∀ a ∈ more.getLast?, ∀ b ∈ rest.head?, areOpen a b = false := by
        intro a ha
        exact hmeet a (List.mem_getLast?_cons (List.mem_getLast?_cons ha))
      rw [List.cons_append, List.cons_append, fuse_final hbefore hb, fuse_final hbefore hb,
        ih hmeet', List.cons_append, List.cons_append]
  | join a b more hjoins ih =>
      have hmeet' : ∀ a ∈ more.getLast?, ∀ b ∈ rest.head?, areOpen a b = false := by
        intro c hc
        exact hmeet c (List.mem_getLast?_cons (List.mem_getLast?_cons hc))
      rw [List.cons_append, List.cons_append, fuse_join hjoins, fuse_join hjoins, ih hmeet',
        List.cons_append]
  | keep a b more hopen ih =>
      have hmeet' : ∀ c ∈ (b :: more).getLast?, ∀ d ∈ rest.head?, areOpen c d = false := by
        intro c hc
        exact hmeet c (by rwa [List.getLast?_cons_cons])
      have hrest := ih hmeet'
      rw [List.cons_append] at hrest
      rw [List.cons_append, List.cons_append, fuse_keep hopen, fuse_keep hopen, hrest,
        List.cons_append]

theorem fuse_append_cons {first rest : List (List Char)} {b : List Char}
    (hmeet : ∀ a ∈ first.getLast?, areOpen a b = false) :
    fuse (first ++ b :: rest) = fuse first ++ fuse (b :: rest) := by
  refine fuse_append fun a ha next hnext => ?_
  obtain rfl : b = next := by simpa using hnext
  exact hmeet a ha

/-- What comes before a token that ends in a `v` is passed over on its own. -/
theorem fuse_append_final (first rest : List (List Char)) (before : List Char) :
    fuse (first ++ (before ++ ['v']) :: rest) = fuse first ++ fuse ((before ++ ['v']) :: rest) :=
  fuse_append_cons fun a _ => areOpen_final a before

/-! ## What the pass leaves -/

/-- The pass changes nothing if and only if no neighbours are open. -/
theorem fuse_eq_self_iff (tokens : List (List Char)) :
    fuse tokens = tokens ↔ tokens.IsChain (fun a b => areOpen a b = false) := by
  induction tokens using fuse_induction with
  | nil => simp
  | single a => simp
  | final before b rest hbefore hb ih =>
      have hopen : areOpen (before ++ ['v']) b := by simp [areOpen, hb]
      rw [fuse_final hbefore hb, List.isChain_cons_cons, hopen]
      simp
  | join a b rest hjoins ih =>
      have hnonempty : b ≠ [] := by
        rintro rfl
        simp [areNotation, isNumber] at hjoins
      rw [fuse_join hjoins, List.isChain_cons_cons, areOpen_of_areNotation hjoins]
      simp [hnonempty]
  | keep a b rest hopen ih =>
      rw [fuse_keep hopen, List.isChain_cons_cons, List.cons_inj_right, ih]
      exact (and_iff_right hopen).symm

/-- Whether a `v` is taken off a token so that the token is open with the one before it.
That one must still be there, so it is not itself open with the one before. -/
def Uncovers (tokens : List (List Char)) : Prop :=
  ∃ first a b number rest, tokens = first ++ a :: (b ++ ['v']) :: number :: rest ∧
    isNumber number ∧ areOpen a b ∧ ∀ before ∈ first.getLast?, areOpen before a = false

/-- Tokens in front do not matter if the last of them is not open with the next one. -/
theorem Uncovers.append_left {tokens : List (List Char)} (huncovers : Uncovers tokens)
    (front : List (List Char))
    (hfront : ∀ before ∈ front.getLast?, ∀ a ∈ tokens.head?, areOpen before a → a = ['x']) :
    Uncovers (front ++ tokens) := by
  obtain ⟨first, a, b, number, rest, rfl, hnumber, hopen, hfirst⟩ := huncovers
  refine ⟨front ++ first, a, b, number, rest, by rw [List.append_assoc], hnumber, hopen, ?_⟩
  by_cases hempty : first = []
  · -- the token before `a` is the last one in front
    subst hempty
    rw [List.append_nil]
    intro before hbefore
    refine Bool.eq_false_iff.mpr fun hbefore' => ?_
    obtain rfl := hfront before hbefore a rfl hbefore'
    rw [areOpen_x_left] at hopen
    cases hopen
  · rwa [List.getLast?_append_of_ne_nil _ hempty]

/-- Neighbours are open after the pass only if one of them was uncovered. -/
theorem isChain_fuse_of_not_uncovers (tokens : List (List Char)) (hnone : ¬Uncovers tokens) :
    (fuse tokens).IsChain (fun a b => areOpen a b = false) := by
  induction tokens using fuse_induction with
  | nil => simp
  | single a => simp
  | final before b rest hbefore hb ih =>
      have hjoins : areNotation ['v'] b := areNotation_iff.mpr (Or.inl ⟨rfl, hb⟩)
      have hrest : ¬Uncovers rest := by
        intro huncovers
        refine hnone (huncovers.append_left [before ++ ['v'], b] ?_)
        intro last hlast a _ hopen
        obtain rfl : b = last := by simpa using hlast
        exact eq_of_areOpen_of_areNotation hjoins hopen
      rw [fuse_final hbefore hb, List.isChain_cons_cons, List.isChain_cons]
      exact ⟨(areOpen_joined hjoins before).2,
        fun other _ => (areOpen_joined hjoins other).1, ih hrest⟩
  | join a b rest hjoins ih =>
      have hrest : ¬Uncovers rest := by
        intro huncovers
        refine hnone (huncovers.append_left [a, b] ?_)
        intro last hlast other _ hopen
        obtain rfl : b = last := by simpa using hlast
        exact eq_of_areOpen_of_areNotation hjoins hopen
      rw [fuse_join hjoins, List.isChain_cons]
      exact ⟨fun other _ => (areOpen_joined hjoins other).1, ih hrest⟩
  | keep a b rest hopen ih =>
      have hrest : ¬Uncovers (b :: rest) := by
        intro huncovers
        refine hnone (huncovers.append_left [a] ?_)
        intro last hlast other hother hopen'
        obtain rfl : a = last := by simpa using hlast
        obtain rfl : b = other := by simpa using hother
        rw [hopen] at hopen'
        cases hopen'
      rw [fuse_keep hopen, List.isChain_cons]
      refine ⟨fun head hhead => ?_, ih hrest⟩
      -- the next token as the pass leaves it
      cases rest with
      | nil =>
          obtain rfl : b = head := by simpa using hhead
          exact hopen
      | cons c more =>
          rcases neighbour_cases b c with ⟨before, hbefore, rfl, hc⟩ | hjoins | hkept
          · rw [fuse_final hbefore hc] at hhead
            obtain rfl : before = head := by simpa using hhead
            refine Bool.eq_false_iff.mpr fun huncovered => hnone ?_
            exact ⟨[], a, before, c, more, rfl, hc, huncovered, nofun⟩
          · rw [fuse_join hjoins] at hhead
            obtain rfl : b ++ c = head := by simpa using hhead
            exact (areOpen_joined hjoins a).2
          · rw [fuse_keep hkept] at hhead
            obtain rfl : b = head := by simpa using hhead
            exact hopen

/-- What is uncovered is open with the token before it when the pass is over. -/
theorem not_isChain_fuse_of_uncovers {tokens : List (List Char)} (huncovers : Uncovers tokens) :
    ¬(fuse tokens).IsChain (fun a b => areOpen a b = false) := by
  obtain ⟨first, a, b, number, rest, rfl, hnumber, hopen, hfirst⟩ := huncovers
  have hnonempty : b ≠ [] := by
    rintro rfl
    simp [areOpen, isNumber] at hopen
  have hleft : fuse (first ++ [a]) = fuse first ++ [a] := by
    rw [fuse_append_cons hfirst, fuse_singleton]
  have hfused : fuse (first ++ a :: (b ++ ['v']) :: number :: rest) =
      fuse first ++ a :: b :: ('v' :: number) :: fuse rest := by
    calc fuse (first ++ a :: (b ++ ['v']) :: number :: rest)
        = fuse ((first ++ [a]) ++ (b ++ ['v']) :: number :: rest) := by
          rw [List.append_assoc, List.singleton_append]
      _ = fuse (first ++ [a]) ++ fuse ((b ++ ['v']) :: number :: rest) :=
          fuse_append_final _ _ b
      _ = (fuse first ++ [a]) ++ b :: ('v' :: number) :: fuse rest := by
          rw [hleft, fuse_final hnonempty hnumber]
      _ = fuse first ++ a :: b :: ('v' :: number) :: fuse rest := by
          rw [List.append_assoc, List.singleton_append]
  intro hchain
  rw [hfused] at hchain
  have hclosed := (List.isChain_cons_cons.mp hchain.right_of_append).1
  rw [hopen] at hclosed
  cases hclosed

theorem isChain_fuse_iff (tokens : List (List Char)) :
    (fuse tokens).IsChain (fun a b => areOpen a b = false) ↔ ¬Uncovers tokens :=
  ⟨fun hchain huncovers => not_isChain_fuse_of_uncovers huncovers hchain,
    isChain_fuse_of_not_uncovers tokens⟩

/-! ## What it leaves of a query -/

/-- In a query only an `x` is uncovered, since no part of it has both digits and a `v`. -/
theorem uncovers_parts_iff (query : List Char) :
    Uncovers (parts query) ↔
      ∃ first scale version rest,
        parts query = first ++ scale :: ['x', 'v'] :: version :: rest ∧
        isNumber scale ∧ isNumber version ∧
        ∀ before ∈ first.getLast?, areOpen before scale = false := by
  constructor
  · rintro ⟨first, a, b, number, rest, hparts, hnumber, hopen, hfirst⟩
    have hpart : b ++ ['v'] ∈ parts query := by
      rw [hparts]
      simp
    have hfree : IsDigitFree (b ++ ['v']) := by
      refine (isUnmixed_of_mem_parts hpart).resolve_left ?_
      rw [isNumber_final]
      exact Bool.false_ne_true
    rcases areOpen_iff.mp hopen with ⟨-, hb⟩ | ⟨ha, rfl⟩
    · -- a number before the `v` would be mixed with it
      obtain ⟨hnonempty, hdigits⟩ := isNumber_iff.mp hb
      obtain ⟨d, hd⟩ := List.exists_mem_of_ne_nil b hnonempty
      have hdigit := hfree d (List.mem_append_left _ hd)
      rw [hdigits d hd] at hdigit
      cases hdigit
    · exact ⟨first, a, number, rest, hparts, ha, hnumber, hfirst⟩
  · rintro ⟨first, scale, version, rest, hparts, hscale, hversion, hfirst⟩
    exact ⟨first, scale, ['x'], version, rest, hparts, hversion, by simp [areOpen, hscale], hfirst⟩

/-- **What putting notation together leaves.**  Neighbours are open after the pass if and only
if a `v` was taken off a token and that uncovered a notation, and if and only if another pass
changes something.  In a query that can only be an `x` after a number. -/
theorem isChain_fuse :
    (∀ tokens : List (List Char),
      ((fuse tokens).IsChain (fun a b => areOpen a b = false) ↔ ¬Uncovers tokens) ∧
        (fuse (fuse tokens) = fuse tokens ↔ ¬Uncovers tokens)) ∧
      ∀ query : String, (tokenChars query.toList).IsChain (fun a b => areOpen a b = false) ↔
        ¬∃ first scale version rest,
          parts query.toList = first ++ scale :: ['x', 'v'] :: version :: rest ∧
          isNumber scale ∧ isNumber version ∧
          ∀ before ∈ first.getLast?, areOpen before scale = false := by
  refine ⟨fun tokens => ⟨isChain_fuse_iff tokens, ?_⟩, fun query => ?_⟩
  · rw [fuse_eq_self_iff, isChain_fuse_iff]
  · rw [tokenChars, isChain_fuse_iff, uncovers_parts_iff]

/-- A scale is left in two parts, and another pass puts them together. -/
theorem not_isChain_tokens_uncovered :
    (∀ token ∈ parts "4 xv 2".toList, token ≠ []) ∧
      tokens "4 xv 2" = ["4", "x", "v2"] ∧
      ¬(tokenChars "4 xv 2".toList).IsChain (fun a b => areOpen a b = false) ∧
      fuse (tokenChars "4 xv 2".toList) = [['4', 'x'], ['v', '2']] := by
  decide +kernel

end FacetSearch.Query
