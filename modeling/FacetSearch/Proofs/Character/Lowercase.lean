import FacetSearch.Character.LowerMapping
import FacetSearch.Text.WordStart
import Mathlib.Data.List.Chain

/-!
# Lowercase and separators

Lowercase neither changes a separator nor makes one out of anything else, and what it yields
is in lowercase already.  All of these are statements about the list of shifts: none of its
runs meets a run of separators (`lowerChar_of_isSeparator`), all of them move their members
to `a` and beyond (`eq_of_mem_lowerChar`), and none of them moves a member to a separator or
to a member of any of them (`isSeparator_of_mem_lowerChar`, `lowerChar_of_mem_lowerChar`).

Two lists of runs in ascending order are compared in a single walk through both
(`CharTable.isApart`).  So are the lowercase characters and the separators
(`isLowercase_of_isSeparator`).  Capitals and small letters take turns in many alphabets, so
the runs of the shifts and those that they are moved to lie within each other.  They are
compared one by one (`Run.misses`).
-/

namespace FacetSearch

/-! ## Runs -/

theorem Run.bounds_of_contains {run : Run} {code : Nat} (hin : run.contains code) :
    run.first ≤ code ∧ code ≤ run.last := by
  rw [contains, Bool.and_eq_true, Bool.and_eq_true, decide_eq_true_eq, decide_eq_true_eq] at hin
  exact hin.1

namespace CharTable

/-- Whether a table meets none of some runs, both in ascending order. -/
def isApart (table : CharTable) : List Run → Bool
  | [] => true
  | run :: rest =>
      let beyond := table.dropWhile (·.last < run.first)
      beyond.head?.all (run.last < ·.first) && isApart beyond rest

variable {table : CharTable} {runs : List Run} {code : Nat}

/-- The runs of a table that end before a code point do not matter to it. -/
theorem containsCode_dropWhile {start : Nat} (hstart : start ≤ code)
    (hin : table.containsCode code) :
    CharTable.containsCode (table.dropWhile (·.last < start)) code := by
  induction table with
  | nil => exact hin
  | cons run rest ih =>
      rw [List.dropWhile_cons]
      split
      case isFalse => exact hin
      case isTrue hends =>
        rw [decide_eq_true_eq] at hends
        rw [containsCode] at hin
        split at hin
        case isTrue => cases hin
        case isFalse =>
          rw [Bool.or_eq_true] at hin
          rcases hin with hhere | hlater
          · exact absurd (Run.bounds_of_contains hhere).2 (by omega)
          · exact ih hlater

/-- No code point of a run is in a table that starts beyond the run. -/
theorem containsCode_eq_false {run : Run} (hbeyond : table.head?.all (run.last < ·.first))
    (hlast : code ≤ run.last) : table.containsCode code = false := by
  cases table with
  | nil => rfl
  | cons next rest =>
      have hfirst : run.last < next.first := of_decide_eq_true hbeyond
      rw [containsCode, if_pos (by omega)]

/-- A table has no members in the runs that it is apart from. -/
theorem containsCode_of_isApart (hapart : table.isApart runs)
    (hascending : runs.IsChain (·.first ≤ ·.first)) {run : Run} (hrun : run ∈ runs)
    (hin : run.contains code) : table.containsCode code = false := by
  obtain ⟨hfirst, hlast⟩ := Run.bounds_of_contains hin
  induction runs generalizing table with
  | nil => cases hrun
  | cons head rest ih =>
      rw [isApart, Bool.and_eq_true] at hapart
      obtain ⟨hbeyond, hapart⟩ := hapart
      have hstart : head.first ≤ code := by
        rcases List.mem_cons.mp hrun with rfl | hrest
        · exact hfirst
        · have hordered := List.isChain_iff_pairwise.mp hascending
          exact (List.rel_of_pairwise_cons hordered hrest).trans hfirst
      -- what the table has from the first of the runs on is in the rest of the table
      refine Bool.eq_false_iff.mpr fun hmember => ?_
      have hrest := containsCode_dropWhile hstart hmember
      rcases List.mem_cons.mp hrun with rfl | htail
      · rw [containsCode_eq_false hbeyond hlast] at hrest
        cases hrest
      · rw [ih hapart hascending.tail htail] at hrest
        cases hrest

/-- A member of a table is in one of its runs. -/
theorem exists_contains_of_containsCode (hin : table.containsCode code) :
    ∃ run ∈ table, run.contains code := by
  induction table with
  | nil => cases hin
  | cons run rest ih =>
      rw [containsCode] at hin
      split at hin
      case isTrue => cases hin
      case isFalse =>
        rw [Bool.or_eq_true] at hin
        rcases hin with hhere | hlater
        · exact ⟨run, List.mem_cons_self, hhere⟩
        · obtain ⟨other, hother, hin'⟩ := ih hlater
          exact ⟨other, List.mem_cons_of_mem run hother, hin'⟩

end CharTable

/-! ## Lowercase characters -/

theorem isApart_lowercase :
    (blank.IsChain (·.first ≤ ·.first) ∧ lowercase.isApart blank) ∧
      punctuation.IsChain (·.first ≤ ·.first) ∧ lowercase.isApart punctuation := by
  decide +kernel

/-- Separators are not lowercase. -/
theorem isLowercase_of_isSeparator {c : Char} (hc : isSeparator c) : isLowercase c = false := by
  obtain ⟨⟨hblank, hblankApart⟩, hpunctuation, hpunctuationApart⟩ := isApart_lowercase
  rw [isSeparator, Bool.or_eq_true, Bool.or_eq_true, beq_iff_eq] at hc
  rcases hc with (hin | hin) | rfl
  · obtain ⟨run, hrun, hcode⟩ := CharTable.exists_contains_of_containsCode hin
    exact CharTable.containsCode_of_isApart hblankApart hblank hrun hcode
  · obtain ⟨run, hrun, hcode⟩ := CharTable.exists_contains_of_containsCode hin
    exact CharTable.containsCode_of_isApart hpunctuationApart hpunctuation hrun hcode
  · decide

/-! ## Shifts -/

namespace Shift

/-- A list of shifts moves a code point by the distance of a shift whose run it is in, or
not at all. -/
theorem distanceAt_cases (shifts : List Shift) (code : Nat) :
    distanceAt shifts code = 0 ∨
      ∃ shift ∈ shifts, shift.toRun.contains code ∧ distanceAt shifts code = shift.distance := by
  induction shifts with
  | nil => exact Or.inl rfl
  | cons shift rest ih =>
      rw [distanceAt]
      split
      case isTrue => exact Or.inl rfl
      case isFalse =>
        split
        case isTrue hin => exact Or.inr ⟨shift, List.mem_cons_self, hin, rfl⟩
        case isFalse =>
          refine ih.imp_right ?_
          rintro ⟨other, hother, hin, hdistance⟩
          exact ⟨other, List.mem_cons_of_mem shift hother, hin, hdistance⟩

theorem apply_eq_self {shifts : List Shift} {c : Char} (hzero : distanceAt shifts c.toNat = 0) :
    apply shifts c = c := by
  rw [apply, hzero, Int.add_zero, Int.toNat_natCast, Char.ofNat_toNat]

end Shift

/-! ## Lowercase -/

theorem lowerChar_ne_nil (c : Char) : lowerChar c ≠ [] := by
  unfold lowerChar
  split <;> exact List.cons_ne_nil _ _

theorem lowerChar_of_ne {c : Char} (hc : c ≠ 'İ') : lowerChar c = [Shift.apply lowerShifts c] :=
  if_neg hc

theorem isChain_lowerShifts : (lowerShifts.map Shift.toRun).IsChain (·.first ≤ ·.first) := by
  decide +kernel

theorem isApart_lowerShifts :
    blank.isApart (lowerShifts.map Shift.toRun) ∧
      punctuation.isApart (lowerShifts.map Shift.toRun) := by
  decide +kernel

/-- Lowercase keeps the separators. -/
theorem lowerChar_of_isSeparator {c : Char} (hc : isSeparator c) : lowerChar c = [c] := by
  have hdotted : c ≠ 'İ' := by
    rintro rfl
    revert hc
    decide
  rw [lowerChar_of_ne hdotted]
  rcases Shift.distanceAt_cases lowerShifts c.toNat with hzero | ⟨shift, hshift, hin, -⟩
  · rw [Shift.apply_eq_self hzero]
  · -- a separator in the run of a shift would be the plus sign
    have hrun : shift.toRun ∈ lowerShifts.map Shift.toRun := List.mem_map_of_mem hshift
    have hblank : isBlank c = false :=
      CharTable.containsCode_of_isApart isApart_lowerShifts.1 isChain_lowerShifts hrun hin
    have hpunctuation : isPunctuation c = false :=
      CharTable.containsCode_of_isApart isApart_lowerShifts.2 isChain_lowerShifts hrun hin
    rw [isSeparator, hblank, hpunctuation, Bool.or_self, Bool.false_or, beq_iff_eq] at hc
    rw [hc]
    decide

/-- Shifts end at characters, none of which comes before `a`. -/
theorem lowerShifts_bounds : ∀ shift ∈ lowerShifts,
    0x61 ≤ shift.first + shift.distance ∧
      (shift.last + shift.distance < 0xD800 ∨
        0xDFFF < shift.first + shift.distance ∧ shift.last + shift.distance < 0x110000) := by
  decide +kernel

/-- A lowercase form is the character itself, which has no other, or it belongs to the dotted
`İ`, or a shift moves the character to it. -/
theorem mem_lowerChar_cases {c d : Char} (hd : d ∈ lowerChar c) :
    (d = c ∧ lowerChar c = [c]) ∨ (c = 'İ' ∧ (d = 'i' ∨ d = Char.ofNat 0x0307)) ∨
      ∃ shift ∈ lowerShifts, shift.toRun.contains c.toNat ∧
        (d.toNat : Int) = c.toNat + shift.distance := by
  by_cases hdotted : c = 'İ'
  · rw [lowerChar, if_pos hdotted] at hd
    exact Or.inr (Or.inl ⟨hdotted, List.mem_pair.mp hd⟩)
  · rw [lowerChar_of_ne hdotted] at hd ⊢
    rw [List.mem_singleton] at hd
    rcases Shift.distanceAt_cases lowerShifts c.toNat with hzero | ⟨shift, hshift, hin, hdistance⟩
    · rw [Shift.apply_eq_self hzero] at hd ⊢
      exact Or.inl ⟨hd, rfl⟩
    · obtain ⟨hfirst, hlast⟩ := Run.bounds_of_contains hin
      obtain ⟨hlow, hvalid⟩ := lowerShifts_bounds shift hshift
      have hcode : Nat.isValidChar (c.toNat + shift.distance).toNat := by
        rw [Nat.isValidChar]
        omega
      have hmoved : d.toNat = (c.toNat + shift.distance).toNat := by
        rw [hd, Shift.apply, hdistance, Char.ofNat, dif_pos hcode]
        rfl
      exact Or.inr (Or.inr ⟨shift, hshift, hin, by omega⟩)

/-- A character before `a` is the lowercase form of itself alone. -/
theorem eq_of_mem_lowerChar {c d : Char} (hd : d ∈ lowerChar c) (hbefore : d.toNat < 0x61) :
    d = c := by
  rcases mem_lowerChar_cases hd with ⟨heq, -⟩ | ⟨-, rfl | rfl⟩ | ⟨shift, hshift, hin, hmoved⟩
  · exact heq
  · exact absurd hbefore (by decide)
  · exact absurd hbefore (by decide)
  · have hfirst := (Run.bounds_of_contains hin).1
    have hlow := (lowerShifts_bounds shift hshift).1
    omega

/-! ## Lowercase forms -/

/-- Whether two runs of every code point or of every other one have no member in common.
Runs that lie within each other must be of code points that take turns. -/
def Run.misses (run other : Run) : Bool :=
  run.last.blt other.first || other.last.blt run.first ||
    ((run.first == run.last || run.step == 2) && other.step == 2 &&
      (run.first + other.first) % 2 == 1)

theorem Run.not_contains_of_misses {run other : Run} {code : Nat} (hmisses : run.misses other)
    (hin : run.contains code) : ¬other.contains code := by
  intro hother
  have hbounds := bounds_of_contains hin
  have hbounds' := bounds_of_contains hother
  simp only [contains, Bool.and_eq_true, beq_iff_eq] at hin hother
  simp only [misses, Nat.blt_eq, Bool.or_eq_true, Bool.and_eq_true, beq_iff_eq] at hmisses
  rcases hmisses with (hbefore | hbeyond) | ⟨⟨hsingle | hstep, hstep'⟩, hturns⟩
  · omega
  · omega
  · rw [hstep'] at hother
    omega
  · rw [hstep] at hin
    rw [hstep'] at hother
    omega

/-- The run that a shift moves its members to. -/
def Shift.image (shift : Shift) : Run :=
  ⟨(shift.first + shift.distance).toNat, (shift.last + shift.distance).toNat, shift.step⟩

theorem Shift.contains_image {shift : Shift} {code moved : Nat}
    (hlow : 0 ≤ shift.first + shift.distance) (hin : shift.toRun.contains code)
    (hmoved : (moved : Int) = code + shift.distance) : shift.image.contains moved := by
  obtain ⟨hfirst, hlast⟩ := Run.bounds_of_contains hin
  have hbounds : shift.image.first ≤ moved ∧ moved ≤ shift.image.last := by
    simp only [image]
    omega
  have hsame : moved - shift.image.first = code - shift.first := by
    simp only [image]
    omega
  rw [Run.contains, Bool.and_eq_true] at hin
  rw [Run.contains, decide_eq_true hbounds.1, decide_eq_true hbounds.2, hsame]
  exact hin.2

theorem misses_image_lowerShifts :
    lowerShifts.all fun shift => lowerShifts.all fun other => shift.image.misses other.toRun := by
  decide +kernel

theorem isApart_image_lowerShifts :
    ∀ shift ∈ lowerShifts, shift.image.contains 'İ'.toNat = false ∧
      blank.isApart [shift.image] ∧ punctuation.isApart [shift.image] := by
  decide +kernel

/-- Lowercase forms are in lowercase. -/
theorem lowerChar_of_mem_lowerChar {c d : Char} (hd : d ∈ lowerChar c) : lowerChar d = [d] := by
  rcases mem_lowerChar_cases hd with
    ⟨rfl, hsame⟩ | ⟨-, rfl | rfl⟩ | ⟨shift, hshift, hin, hmoved⟩
  · exact hsame
  · decide
  · decide
  · obtain ⟨hlow, -⟩ := lowerShifts_bounds shift hshift
    have himage := Shift.contains_image (by omega) hin hmoved
    have hdotted : d ≠ 'İ' := by
      rintro rfl
      rw [(isApart_image_lowerShifts shift hshift).1] at himage
      cases himage
    rw [lowerChar_of_ne hdotted]
    rcases Shift.distanceAt_cases lowerShifts d.toNat with hzero | ⟨other, hother, hin', -⟩
    · rw [Shift.apply_eq_self hzero]
    · have hmisses := List.all_eq_true.mp misses_image_lowerShifts shift hshift
      exact absurd hin' (Run.not_contains_of_misses (List.all_eq_true.mp hmisses other hother) himage)

theorem distance_of_mem_lowerShifts_of_v :
    ∀ shift ∈ lowerShifts, shift.first + shift.distance ≤ 0x76 →
      0x76 ≤ shift.last + shift.distance → shift.distance = 0x20 := by
  decide +kernel

/-- A `v` is the lowercase form of the small and of the capital letter alone. -/
theorem v_mem_lowerChar_iff {c : Char} : 'v' ∈ lowerChar c ↔ c = 'v' ∨ c = 'V' := by
  constructor
  · intro hv
    rcases mem_lowerChar_cases hv with ⟨heq, -⟩ | ⟨-, hi | hdot⟩ | ⟨shift, hshift, hin, hmoved⟩
    · exact Or.inl heq.symm
    · exact absurd hi (by decide)
    · exact absurd hdot (by decide)
    · obtain ⟨hfirst, hlast⟩ := Run.bounds_of_contains hin
      have hv' : 'v'.toNat = 0x76 := rfl
      have hdistance := distance_of_mem_lowerShifts_of_v shift hshift (by omega) (by omega)
      have hcode : c.toNat = 0x56 := by omega
      refine Or.inr ?_
      rw [← Char.ofNat_toNat c, hcode]
  · rintro (rfl | rfl) <;> decide

/-- Lowercase makes no separators. -/
theorem isSeparator_of_mem_lowerChar {c d : Char} (hc : isSeparator c = false)
    (hd : d ∈ lowerChar c) : isSeparator d = false := by
  rcases mem_lowerChar_cases hd with
    ⟨rfl, -⟩ | ⟨-, rfl | rfl⟩ | ⟨shift, hshift, hin, hmoved⟩
  · exact hc
  · decide
  · decide
  · have hlow := (lowerShifts_bounds shift hshift).1
    have hfirst := (Run.bounds_of_contains hin).1
    have himage := Shift.contains_image (by omega) hin hmoved
    obtain ⟨-, hblank, hpunctuation⟩ := isApart_image_lowerShifts shift hshift
    have hin' : shift.image ∈ [shift.image] := List.mem_singleton_self _
    have hplus : d ≠ '+' := by
      rintro rfl
      have hcode : '+'.toNat = 0x2B := rfl
      omega
    rw [isSeparator, isBlank, isPunctuation, CharTable.contains, CharTable.contains,
      CharTable.containsCode_of_isApart hblank (List.isChain_singleton _) hin' himage,
      CharTable.containsCode_of_isApart hpunctuation (List.isChain_singleton _) hin' himage]
    simpa using hplus

end FacetSearch
