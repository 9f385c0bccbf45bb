import FacetSearch.Index.SetAlgebra
import Mathlib.Data.List.Basic

/-!
# Membership in sets of many operands

Which members an intersection, a union and a difference have, whichever way the
answer is come by: a single operand or an empty one is handed on, a few sets are
asked without a loop, and operands are gone through by their size.  Sorting by
size does not matter, since it only rearranges the operands.

So a result is determined by which sets are among the operands.  Neither their order nor
how often each of them is there makes a difference (`intersectAll_congr`,
`unionAll_congr`, `foldl_without_congr`).
-/

namespace FacetSearch

open Std (ExtTreeSet LawfulEqOrd TransOrd)

variable {α : Type} [Ord α] [TransOrd α]

theorem not_mem_of_isEmpty {set : ExtTreeSet α} (hempty : set.isEmpty) (member : α) :
    member ∉ set := by
  rw [ExtTreeSet.isEmpty_iff.mp hempty]
  exact ExtTreeSet.not_mem_empty

theorem isInEvery_iff {member : α} {sets : List (ExtTreeSet α)} :
    isInEvery member sets ↔ ∀ set ∈ sets, member ∈ set := by
  unfold isInEvery
  split <;> simp [and_assoc]

/-! ## Unions -/

theorem mem_foldl_union {member : α} (sets : List (ExtTreeSet α)) (start : ExtTreeSet α) :
    member ∈ sets.foldl (· ∪ ·) start ↔ member ∈ start ∨ ∃ set ∈ sets, member ∈ set := by
  induction sets generalizing start with
  | nil => simp
  | cons set rest ih =>
      rw [List.foldl_cons, ih, ExtTreeSet.mem_union_iff, or_assoc]
      simp only [List.mem_cons, exists_eq_or_imp]

/-- A union has the members of its operands. -/
@[simp] theorem mem_unionAll {member : α} {sets : List (ExtTreeSet α)} :
    member ∈ unionAll sets ↔ ∃ set ∈ sets, member ∈ set := by
  -- the operands that are gone through are, in some order, those with a member
  have hsets : (∃ set ∈ sets, member ∈ set) ↔
      ∃ set ∈ (sets.filter fun set => !set.isEmpty).mergeSort (fun a b => b.size ≤ a.size),
        member ∈ set := by
    simp only [List.mem_mergeSort, List.mem_filter]
    constructor
    · rintro ⟨set, hset, hmember⟩
      have hnonempty : ¬set.isEmpty := fun hempty => not_mem_of_isEmpty hempty member hmember
      exact ⟨set, ⟨hset, by simpa using hnonempty⟩, hmember⟩
    · rintro ⟨set, ⟨hset, -⟩, hmember⟩
      exact ⟨set, hset, hmember⟩
  rw [hsets, unionAll]
  split
  case h_1 hsorted => simp [hsorted, ExtTreeSet.not_mem_empty]
  case h_2 largest rest hsorted =>
    rw [mem_foldl_union, hsorted]
    simp only [List.mem_cons, exists_eq_or_imp]

/-! ## Intersections and differences -/

@[simp] theorem intersectAll_eq_none_iff {sets : List (ExtTreeSet α)} :
    intersectAll sets = none ↔ sets = [] := by
  unfold intersectAll
  have hlength : (sets.mergeSort fun a b => a.size ≤ b.size).length = sets.length :=
    List.length_mergeSort sets
  split
  case h_1 hsorted =>
    rw [hsorted] at hlength
    simpa using List.length_eq_zero_iff.mp hlength.symm
  case h_2 only hsorted =>
    rw [hsorted] at hlength
    cases sets <;> simp at hlength ⊢
  case h_3 smallest rest _ hsorted =>
    rw [hsorted] at hlength
    cases sets with
    | nil => simp at hlength
    | cons set rest => split <;> simp

variable [LawfulEqOrd α]

theorem mem_filter_iff {member : α} {set : ExtTreeSet α} {keep : α → Bool} :
    member ∈ set.filter keep ↔ member ∈ set ∧ keep member := by
  rw [ExtTreeSet.mem_filter]
  constructor
  · rintro ⟨hmember, hkeep⟩
    exact ⟨hmember, by rwa [ExtTreeSet.get_eq] at hkeep⟩
  · rintro ⟨hmember, hkeep⟩
    exact ⟨hmember, by rwa [ExtTreeSet.get_eq]⟩

@[simp] theorem mem_without {member : α} {set excluded : ExtTreeSet α} :
    member ∈ without set excluded ↔ member ∈ set ∧ member ∉ excluded := by
  unfold without
  split
  case isTrue hempty =>
    rw [Bool.or_eq_true] at hempty
    rcases hempty with hset | hexcluded
    · simp [not_mem_of_isEmpty hset]
    · simp [not_mem_of_isEmpty hexcluded]
  case isFalse =>
    rw [mem_filter_iff, Bool.not_eq_true', ← Bool.not_eq_true, ExtTreeSet.contains_iff_mem]

/-- An intersection has the members that all of its operands have. -/
theorem mem_of_intersectAll {member : α} {sets : List (ExtTreeSet α)} {common : ExtTreeSet α}
    (hcommon : intersectAll sets = some common) :
    member ∈ common ↔ ∀ set ∈ sets, member ∈ set := by
  have hsets : (∀ set ∈ sets, member ∈ set) ↔
      ∀ set ∈ sets.mergeSort (fun a b => a.size ≤ b.size), member ∈ set := by
    simp only [List.mem_mergeSort]
  rw [hsets]
  unfold intersectAll at hcommon
  split at hcommon
  case h_1 => cases hcommon
  case h_2 only hsorted =>
    cases hcommon
    simp [hsorted]
  case h_3 smallest rest _ hsorted =>
    rw [hsorted, List.forall_mem_cons]
    split at hcommon
    case isTrue hempty =>
      cases hcommon
      simp [not_mem_of_isEmpty hempty]
    case isFalse =>
      cases hcommon
      rw [mem_filter_iff, isInEvery_iff]

/-- The common members among those of `all`, which has every set to begin with. -/
theorem mem_intersectAll_getD {member : α} {sets : List (ExtTreeSet α)} {all : ExtTreeSet α}
    (hall : member ∈ all) :
    member ∈ (intersectAll sets).getD all ↔ ∀ set ∈ sets, member ∈ set := by
  cases hcommon : intersectAll sets with
  | none => simpa [intersectAll_eq_none_iff.mp hcommon] using hall
  | some common => exact mem_of_intersectAll hcommon

/-- What is left when one set after another is taken away. -/
theorem mem_foldl_without {member : α} (sets : List (ExtTreeSet α)) (start : ExtTreeSet α) :
    member ∈ sets.foldl without start ↔ member ∈ start ∧ ∀ set ∈ sets, member ∉ set := by
  induction sets generalizing start with
  | nil => simp
  | cons set rest ih => rw [List.foldl_cons, ih, mem_without, and_assoc, List.forall_mem_cons]

/-! ## The same operands -/

variable {sets others : List (ExtTreeSet α)}

theorem intersectAll_congr (hsame : ∀ set, set ∈ others ↔ set ∈ sets) :
    intersectAll others = intersectAll sets := by
  have hnone : intersectAll others = none ↔ intersectAll sets = none := by
    rw [intersectAll_eq_none_iff, intersectAll_eq_none_iff, List.eq_nil_iff_forall_not_mem,
      List.eq_nil_iff_forall_not_mem]
    simp only [hsame]
  cases hcommon : intersectAll sets with
  | none => exact hnone.mpr hcommon
  | some common =>
      have hsome : intersectAll others ≠ none := by
        rw [ne_eq, hnone, hcommon]
        exact Option.some_ne_none common
      obtain ⟨common', hcommon'⟩ := Option.ne_none_iff_exists'.mp hsome
      rw [hcommon', Option.some.injEq]
      apply ExtTreeSet.ext_mem
      intro member
      rw [mem_of_intersectAll hcommon', mem_of_intersectAll hcommon]
      simp only [hsame]

theorem unionAll_congr (hsame : ∀ set, set ∈ others ↔ set ∈ sets) :
    unionAll others = unionAll sets := by
  apply ExtTreeSet.ext_mem
  intro member
  simp only [mem_unionAll, hsame]

theorem foldl_without_congr (hsame : ∀ set, set ∈ others ↔ set ∈ sets) (start : ExtTreeSet α) :
    others.foldl without start = sets.foldl without start := by
  apply ExtTreeSet.ext_mem
  intro member
  simp only [mem_foldl_without, hsame]

variable (sets others)

/-- **Operations on sets do what they say of their members.**  An intersection is there if
there is a set to intersect, and has the members that all operands have.  A union has the
members that some operand has, and a difference those of its first operand that the second
one does not have.  The order of the operands and their repetitions make no difference, not
even to which sets are taken away one after another. -/
theorem mem_intersectAll_unionAll_without (set excluded : ExtTreeSet α) :
    (intersectAll sets = none ↔ sets = []) ∧
      (sets ≠ [] → ∃ common, intersectAll sets = some common ∧
        ∀ member, member ∈ common ↔ ∀ operand ∈ sets, member ∈ operand) ∧
      (∀ member, member ∈ unionAll sets ↔ ∃ operand ∈ sets, member ∈ operand) ∧
      (∀ member, member ∈ without set excluded ↔ member ∈ set ∧ member ∉ excluded) ∧
      ((∀ operand, operand ∈ others ↔ operand ∈ sets) →
        intersectAll others = intersectAll sets ∧ unionAll others = unionAll sets ∧
          others.foldl without set = sets.foldl without set) := by
  refine ⟨intersectAll_eq_none_iff, fun hsets => ?_, fun member => mem_unionAll,
    fun member => mem_without, fun hsame => ?_⟩
  · have hsome : intersectAll sets ≠ none := mt intersectAll_eq_none_iff.mp hsets
    obtain ⟨common, hcommon⟩ := Option.ne_none_iff_exists'.mp hsome
    exact ⟨common, hcommon, fun member => mem_of_intersectAll hcommon⟩
  · exact ⟨intersectAll_congr hsame, unionAll_congr hsame, foldl_without_congr hsame set⟩

/-- Five sets of numbers, one of which is there twice, and the same ones backwards and
once more. -/
theorem mem_intersectAll_unionAll_without_sample :
    ∃ sets : List (ExtTreeSet Nat),
      sets = [{1, 2, 3, 4}, {2, 3}, {5, 3, 2, 9}, {2, 3}, {2, 3, 4, 6, 8}] ∧
      ∃ common, intersectAll sets = some common ∧ 3 ∈ common ∧ 4 ∉ common ∧
        9 ∈ unionAll sets ∧ 7 ∉ unionAll sets ∧
        intersectAll (sets.reverse ++ sets) = some common ∧
        unionAll (sets.reverse ++ sets) = unionAll sets ∧
        2 ∉ without (.ofList [2, 6]) (.ofList [2, 3]) := by
  refine ⟨_, rfl, ?_⟩
  generalize hsets : ([{1, 2, 3, 4}, {2, 3}, {5, 3, 2, 9}, {2, 3}, {2, 3, 4, 6, 8}] :
    List (ExtTreeSet Nat)) = sets
  obtain ⟨-, hcommon, hunion, hdifference, hsame⟩ :=
    mem_intersectAll_unionAll_without sets (sets.reverse ++ sets) (.ofList [2, 6]) (.ofList [2, 3])
  obtain ⟨common, heq, hmember⟩ := hcommon (by rw [← hsets]; exact List.cons_ne_nil _ _)
  obtain ⟨hintersection, hunion', -⟩ := hsame fun operand => by
    rw [List.mem_append, List.mem_reverse, or_self]
  refine ⟨common, heq, ?_, ?_, ?_, ?_, hintersection.trans heq, hunion', ?_⟩
  · rw [hmember, ← hsets]
    decide
  · rw [hmember, ← hsets]
    decide
  · rw [hunion, ← hsets]
    decide
  · rw [hunion, ← hsets]
    decide
  · rw [hdifference]
    decide

end FacetSearch
