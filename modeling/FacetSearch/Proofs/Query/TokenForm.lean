import FacetSearch.Proofs.Character.Lowercase
import FacetSearch.Proofs.Query.Conservation

/-!
# The form of tokens

No token is empty, and none has a line end in it.

The first goes through the pass that puts notation together, token by token: whatever
holds of all tokens before the pass and is kept by taking a `v` off a longer token and by
putting two parts of a notation together holds of all tokens after it
(`Fusion.forall_mem_run`).  The second follows from what tokens are made of: every
character of a token is the lowercase form of one that separates nothing
(`exists_of_mem_tokenChars`), and a line end is the lowercase form of itself alone.
-/

namespace FacetSearch.Query

/-! ## The pass over the tokens -/

namespace Fusion

variable {P : List Char → Prop}

/-- A step keeps what holds of all tokens. -/
theorem step?_forall_mem
    (hsplit : ∀ {token before}, beforeFinalV? token = some before → P token → P before ∧ P ['v'])
    (hjoin : ∀ {a b}, areNotation a b → P a → P b → P (a ++ b))
    {pass next : Fusion} (hstep : pass.step? = some next)
    (hall : ∀ token ∈ pass.settled.reverse ++ pass.pending, P token) :
    ∀ token ∈ next.settled.reverse ++ next.pending, P token := by
  obtain ⟨a, b, rest, hpending, hcases⟩ := step?_cases hstep
  rw [hpending, List.forall_mem_append, List.forall_mem_cons, List.forall_mem_cons] at hall
  obtain ⟨hsettled, ha, hb, hrest⟩ := hall
  rcases hcases with ⟨before, hbefore, -, rfl⟩ | ⟨-, hnotation, rfl⟩ | ⟨-, -, rfl⟩
  · obtain ⟨hshort, hv⟩ := hsplit hbefore ha
    simp only [List.reverse_cons, List.forall_mem_append, List.forall_mem_cons]
    exact ⟨⟨hsettled, hshort, List.forall_mem_nil _⟩, hv, hb, hrest⟩
  · simp only [List.reverse_cons, List.forall_mem_append, List.forall_mem_cons]
    exact ⟨⟨hsettled, hjoin hnotation ha hb, List.forall_mem_nil _⟩, hrest⟩
  · simp only [List.reverse_cons, List.forall_mem_append, List.forall_mem_cons]
    exact ⟨⟨hsettled, ha, List.forall_mem_nil _⟩, hb, hrest⟩

/-- The pass keeps what holds of all tokens. -/
theorem forall_mem_run
    (hsplit : ∀ {token before}, beforeFinalV? token = some before → P token → P before ∧ P ['v'])
    (hjoin : ∀ {a b}, areNotation a b → P a → P b → P (a ++ b))
    {pass : Fusion} (hall : ∀ token ∈ pass.settled.reverse ++ pass.pending, P token) :
    ∀ token ∈ pass.run, P token := by
  fun_induction run pass with
  | case1 pass hend => exact hall
  | case2 pass next hstep _ ih => exact ih (step?_forall_mem hsplit hjoin hstep hall)

end Fusion

/-! ## Tokens are not empty -/

theorem ne_nil_of_beforeFinalV? {token before : List Char}
    (hbefore : beforeFinalV? token = some before) : before ≠ [] := by
  unfold beforeFinalV? at hbefore
  split at hbefore
  case h_1 => cases hbefore; simp
  case h_2 => cases hbefore

theorem ne_nil_of_mem_parts {query part : List Char} (hpart : part ∈ parts query) :
    part ≠ [] := by
  obtain ⟨piece, -, hsplit⟩ := List.mem_flatMap.mp hpart
  exact of_decide_eq_true (List.mem_filter.mp hsplit).2

theorem ne_nil_of_mem_tokenChars {query token : List Char} (htoken : token ∈ tokenChars query) :
    token ≠ [] := by
  refine Fusion.forall_mem_run (P := (· ≠ [])) ?_ ?_ ?_ token htoken
  · intro token before hbefore _
    exact ⟨ne_nil_of_beforeFinalV? hbefore, List.cons_ne_nil _ _⟩
  · intro a b _ ha _
    exact List.append_ne_nil_of_left_ne_nil ha b
  · intro part hpart
    exact ne_nil_of_mem_parts hpart

theorem ne_empty_of_mem_tokens {query token : String} (htoken : token ∈ tokens query) :
    token ≠ "" := by
  obtain ⟨chars, hchars, rfl⟩ := List.mem_map.mp htoken
  rw [ne_eq, String.ofList_eq_empty_iff]
  exact ne_nil_of_mem_tokenChars hchars

/-! ## Characters of tokens -/

/-- A character of a token is a lowercase form of one that separates nothing, if no
difference is made between the two lowercase forms of sigma. -/
theorem exists_of_mem_tokenChars {query token : List Char} (htoken : token ∈ tokenChars query)
    {c : Char} (hc : c ∈ token) :
    ∃ origin ∈ query, isSeparator origin = false ∧
      ∃ d ∈ lowerChar origin, Text.mergeSigma d = Text.mergeSigma c := by
  have hflat : c ∈ (parts query).flatten := by
    rw [← flatten_fuse]
    exact List.mem_flatten.mpr ⟨token, htoken, hc⟩
  have hmerged := List.mem_map_of_mem (f := Text.mergeSigma) hflat
  rw [map_mergeSigma_flatten_parts] at hmerged
  obtain ⟨d, hd, hsame⟩ := List.mem_map.mp hmerged
  obtain ⟨origin, horigin, hlower⟩ := List.mem_flatMap.mp hd
  obtain ⟨hquery, hword⟩ := List.mem_filter.mp horigin
  exact ⟨origin, hquery, by simpa using hword, d, hlower, hsame⟩

/-- No token has a line end in it. -/
theorem newline_not_mem_of_mem_tokens {query token : String} (htoken : token ∈ tokens query) :
    '\n' ∉ token.toList := by
  obtain ⟨chars, hchars, rfl⟩ := List.mem_map.mp htoken
  rw [String.toList_ofList]
  intro hc
  obtain ⟨origin, -, hword, d, hd, hsame⟩ := exists_of_mem_tokenChars hchars hc
  rw [Text.eq_of_mergeSigma_eq (by decide) hsame] at hd
  rw [← eq_of_mem_lowerChar hd (by decide)] at hword
  revert hword
  decide

end FacetSearch.Query
