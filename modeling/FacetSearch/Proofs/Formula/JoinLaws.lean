import FacetSearch.Proofs.Formula.Gathering

/-!
# Laws of joins that normalization makes equalities

Formulas that differ by a law of joins have the same normal form, operand for operand
and in the same order:

* a join in a join with the same connective may be opened;
* the neutral constant may be added or left out;
* the absorbing constant takes the join over;
* an item that is a literal may be repeated later.

Each is first a law of what a join gathers from a stretch of its items, and the items
around that stretch play no part (`NormalForm.gather?_append_congr`).  It then holds
wherever the join occurs in a larger formula, since the normal form of a formula depends
on its parts only through their normal forms (`Formula.normalize_fill_congr`).
-/

namespace FacetSearch

/-! ## What a stretch of items gathers -/

/-- A literal that is repeated later is dropped. -/
theorem Operand.settle?_repeated {α : Type} [DecidableEq α] (l : Literal α)
    (between : List (Operand α)) :
    settle? ([literal l] ++ between ++ [literal l]) = settle? ([literal l] ++ between) := by
  have hfree : Literal.AreClashFree [l] := Literal.areClashFree_nil.cons (by simp)
  have hlater : settleAfter? [l] (between ++ [literal l]) = settleAfter? [l] between :=
    settleAfter?_append_seen (List.mem_singleton_self l) hfree between
  simp only [settle?, List.cons_append, List.nil_append, settleAfter?, List.not_mem_nil, if_false,
    hlater]

namespace NormalForm

variable {α : Type} [DecidableEq α]

theorem gather?_neutral (c : Connective) :
    gather? c [(const c.neutral : NormalForm α)] = gather? c [] := by
  rw [gather?_of_not_mem (by simp), gather?_of_not_mem (by simp)]
  rfl

theorem gather?_repeated (c : Connective) (l : Literal α) (between : List (NormalForm α)) :
    gather? c ([literal l] ++ between ++ [literal l]) = gather? c ([literal l] ++ between) := by
  by_cases habsorbing : const (!c.neutral) ∈ between
  · rw [gather?_of_mem (by simp [habsorbing]), gather?_of_mem (by simp [habsorbing])]
  · rw [gather?_of_not_mem (by simp [habsorbing]), gather?_of_not_mem (by simp [habsorbing])]
    simp only [List.flatMap_append, List.flatMap_singleton, operandsIn]
    exact Operand.settle?_repeated l _

end NormalForm

/-! ## Formulas as parts of a larger one -/

namespace Formula

variable {α : Type}

/-- A formula with one place in it left open. -/
inductive Context (α : Type) where
  | hole
  | not (body : Context α)
  | join (connective : Connective) (before : List (Formula α)) (item : Context α)
      (after : List (Formula α))

/-- The context with a formula put into the open place. -/
def Context.fill : Context α → Formula α → Formula α
  | hole, formula => formula
  | not body, formula => .not (body.fill formula)
  | join connective before item after, formula =>
      .join connective (before ++ [item.fill formula] ++ after)

variable [DecidableEq α]

/-- Formulas with the same normal form may take each other's place in a larger one. -/
theorem normalize_fill_congr {f g : Formula α} (hsame : f.normalize = g.normalize)
    (context : Context α) : (context.fill f).normalize = (context.fill g).normalize := by
  induction context with
  | hole => exact hsame
  | not body ih => rw [Context.fill, Context.fill, normalize_not, normalize_not, ih]
  | join c before item after ih =>
      simp only [Context.fill, normalize_join, List.map_append, List.map_cons, List.map_nil, ih]

/-- Items between others may be replaced by any that gather the same. -/
theorem normalize_join_append_congr {c : Connective} {ys zs : List (Formula α)}
    (hsame : NormalForm.gather? c (ys.map normalize) = NormalForm.gather? c (zs.map normalize))
    (before after : List (Formula α)) :
    (join c (before ++ ys ++ after)).normalize = (join c (before ++ zs ++ after)).normalize := by
  simp only [normalize_join_eq_ofGathered, List.map_append]
  rw [NormalForm.gather?_append_congr hsame]

theorem normalize_join_spliced (c : Connective) (before items after : List (Formula α)) :
    (join c (before ++ [join c items] ++ after)).normalize =
      (join c (before ++ items ++ after)).normalize := by
  apply normalize_join_append_congr
  rw [List.map_singleton, normalize_join_eq_ofGathered, NormalForm.gather?_ofGathered]

theorem normalize_join_neutral (c : Connective) (before after : List (Formula α)) :
    (join c (before ++ [const c.neutral] ++ after)).normalize =
      (join c (before ++ after)).normalize := by
  have hsame : NormalForm.gather? c ([const c.neutral].map normalize) =
      NormalForm.gather? c (([] : List (Formula α)).map normalize) := by
    rw [List.map_singleton, normalize_const, NormalForm.gather?_neutral, List.map_nil]
  rw [normalize_join_append_congr hsame, List.append_nil]

theorem normalize_join_absorbing (c : Connective) (before after : List (Formula α)) :
    (join c (before ++ [const !c.neutral] ++ after)).normalize = .const !c.neutral := by
  rw [normalize_join_eq_ofGathered, NormalForm.gather?_of_mem (by simp), NormalForm.ofGathered]

theorem normalize_join_repeated (c : Connective) {first second : Formula α} {l : Literal α}
    (hfirst : first.normalize = .literal l) (hsecond : second.normalize = .literal l)
    (before between after : List (Formula α)) :
    (join c (before ++ ([first] ++ between ++ [second]) ++ after)).normalize =
      (join c (before ++ ([first] ++ between) ++ after)).normalize := by
  apply normalize_join_append_congr
  simpa [hfirst, hsecond] using NormalForm.gather?_repeated c l (between.map normalize)

/-- **Normalization knows the laws of joins.**  Wherever a join occurs in a formula, the
normal form of the formula stays the same, with all operands in the same order, if

* an item that is a join with the same connective is replaced by its own items,
* the neutral constant is added among the items,
* an item that normalizes to a literal is followed later by another one that normalizes
  to the same literal.

A join with the absorbing constant among its items normalizes to that constant, and a
formula in which it occurs to what it would with the constant in that place. -/
theorem normalize_join_laws (context : Context α) (c : Connective) :
    (∀ xs ys zs, (context.fill (join c (xs ++ [join c ys] ++ zs))).normalize =
      (context.fill (join c (xs ++ ys ++ zs))).normalize) ∧
    (∀ xs zs, (context.fill (join c (xs ++ [const c.neutral] ++ zs))).normalize =
      (context.fill (join c (xs ++ zs))).normalize) ∧
    (∀ xs zs, (join c (xs ++ [const !c.neutral] ++ zs)).normalize = .const (!c.neutral) ∧
      (context.fill (join c (xs ++ [const !c.neutral] ++ zs))).normalize =
        (context.fill (const !c.neutral)).normalize) ∧
    ∀ xs first ys second zs l, first.normalize = .literal l → second.normalize = .literal l →
      (context.fill (join c (xs ++ [first] ++ ys ++ [second] ++ zs))).normalize =
        (context.fill (join c (xs ++ [first] ++ ys ++ zs))).normalize := by
  refine ⟨fun xs ys zs => ?_, fun xs zs => ?_, fun xs zs => ⟨?_, ?_⟩,
    fun xs first ys second zs l hfirst hsecond => ?_⟩
  · exact normalize_fill_congr (normalize_join_spliced c xs ys zs) context
  · exact normalize_fill_congr (normalize_join_neutral c xs zs) context
  · exact normalize_join_absorbing c xs zs
  · refine normalize_fill_congr ?_ context
    rw [normalize_join_absorbing, normalize_const]
  · refine normalize_fill_congr ?_ context
    simpa only [List.append_assoc] using normalize_join_repeated c hfirst hsecond xs ys zs

/-- In a disjunction under a negation, a negated variable that is repeated as what a
conjunction comes to. -/
theorem normalize_join_laws_sample :
    ∃ (context : Context String) (first second : Formula String) (l : Literal String),
      context = .join .all [var "b"] (.not .hole) [] ∧
      first = not (var "a") ∧ second = all [not (var "a"), const true] ∧
      first.normalize = .literal l ∧ second.normalize = .literal l ∧
      (context.fill
          (any ([var "c"] ++ [first] ++ [all [var "d", var "e"]] ++ [second] ++ []))).normalize =
        (context.fill
          (any ([var "c"] ++ [first] ++ [all [var "d", var "e"]] ++ []))).normalize := by
  have hfirst : (not (var "a")).normalize = .literal ⟨"a", false⟩ := by decide
  have hsecond : (all [not (var "a"), const true]).normalize = .literal ⟨"a", false⟩ := by decide
  exact ⟨_, _, _, _, rfl, rfl, rfl, hfirst, hsecond,
    (normalize_join_laws _ .any).2.2.2 _ _ _ _ _ _ hfirst hsecond⟩

end Formula

end FacetSearch
