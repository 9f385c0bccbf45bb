import FacetSearch.Query.Piece
import FacetSearch.Text.Lowering

/-!
# ASCII letters and digits

What the classes and mappings of characters say about the ASCII letters and digits.
Each of the three classes is a run of consecutive code points, so a statement about
all of its members is decided by going through the run (`forall_between`).
-/

namespace FacetSearch

open Query (isAsciiWord)

/-- A statement about the characters from `first` to `last` is one about their code
points. -/
theorem forall_between {first last : Char} {P : Char → Prop}
    (hcodes : ∀ code < last.toNat + 1, first.toNat ≤ code → P (Char.ofNat code)) {c : Char}
    (hbetween : (first ≤ c && c ≤ last) = true) : P c := by
  rw [Bool.and_eq_true, decide_eq_true_eq, decide_eq_true_eq, Char.le_def, Char.le_def,
    UInt32.le_iff_toNat_le, UInt32.le_iff_toNat_le] at hbetween
  have hcode : P (Char.ofNat c.toNat) := hcodes c.toNat (Nat.lt_succ_of_le hbetween.2) hbetween.1
  rwa [Char.ofNat_toNat] at hcode

/-! ## Classes -/

theorem classes_of_isSmall {c : Char} (hc : isSmall c) :
    isSeparator c = false ∧ isUppercase c = false ∧ isLowercase c = true ∧
      isDigit c = false ∧ isCapital c = false ∧ isAsciiWord c = true :=
  forall_between (P := fun c => isSeparator c = false ∧ isUppercase c = false ∧
    isLowercase c = true ∧ isDigit c = false ∧ isCapital c = false ∧ isAsciiWord c = true)
    (by decide) hc

theorem classes_of_isCapital {c : Char} (hc : isCapital c) :
    isSeparator c = false ∧ isUppercase c = true ∧ isLowercase c = false ∧
      isDigit c = false ∧ isSmall c = false ∧ isAsciiWord c = true :=
  forall_between (P := fun c => isSeparator c = false ∧ isUppercase c = true ∧
    isLowercase c = false ∧ isDigit c = false ∧ isSmall c = false ∧ isAsciiWord c = true)
    (by decide) hc

theorem isCapital_eq_false_of_isUppercase {c : Char} (hc : isUppercase c = false) :
    isCapital c = false := by
  refine Bool.eq_false_iff.mpr fun hcapital => ?_
  obtain ⟨-, hupper, -⟩ := classes_of_isCapital hcapital
  exact absurd hupper (Bool.eq_false_iff.mp hc)

theorem classes_of_isDigit {c : Char} (hc : isDigit c) :
    isSeparator c = false ∧ isUppercase c = false ∧ isLowercase c = false ∧
      isCapital c = false ∧ isSmall c = false ∧ isAsciiWord c = true :=
  forall_between (P := fun c => isSeparator c = false ∧ isUppercase c = false ∧
    isLowercase c = false ∧ isCapital c = false ∧ isSmall c = false ∧ isAsciiWord c = true)
    (by decide) hc

theorem isAsciiWord_of_letter {c : Char} (hc : isSmall c ∨ isCapital c) : isAsciiWord c := by
  rcases hc with hsmall | hcapital
  · obtain ⟨-, -, -, -, -, hword⟩ := classes_of_isSmall hsmall
    exact hword
  · obtain ⟨-, -, -, -, -, hword⟩ := classes_of_isCapital hcapital
    exact hword

/-- Letters and digits separate nothing, so a separator is none of them. -/
theorem classes_of_isSeparator {c : Char} (hc : isSeparator c) :
    isDigit c = false ∧ isCapital c = false ∧ isSmall c = false := by
  refine ⟨Bool.eq_false_iff.mpr ?_, Bool.eq_false_iff.mpr ?_, Bool.eq_false_iff.mpr ?_⟩
  · intro hdigit
    simp [(classes_of_isDigit hdigit).1] at hc
  · intro hcapital
    simp [(classes_of_isCapital hcapital).1] at hc
  · intro hsmall
    simp [(classes_of_isSmall hsmall).1] at hc

/-! ## Mappings -/

/-- The capital of a small letter, and the way back. -/
theorem toUpper_of_isSmall {c : Char} (hc : isSmall c) :
    isCapital c.toUpper = true ∧ lowerChar c.toUpper = [c] :=
  forall_between (P := fun c => isCapital c.toUpper = true ∧ lowerChar c.toUpper = [c])
    (by decide) hc

theorem lowerChar_of_isSmall {c : Char} (hc : isSmall c) : lowerChar c = [c] :=
  forall_between (P := fun c => lowerChar c = [c]) (by decide) hc

/-- Digits have no case. -/
theorem toUpper_of_isDigit {c : Char} (hc : isDigit c) :
    c.toUpper = c ∧ lowerChar c = [c] :=
  forall_between (P := fun c => c.toUpper = c ∧ lowerChar c = [c]) (by decide) hc

/-- Without a capital sigma, lowercase goes character by character. -/
theorem Text.lowerChars_eq_flatMap {cs : List Char} (hsigma : 'Σ' ∉ cs) :
    lowerChars cs = cs.flatMap lowerChar := by
  have hafter : ∀ before, lowerAfter before cs = cs.flatMap lowerChar := by
    induction cs with
    | nil => intro before; rfl
    | cons c rest ih =>
        intro before
        rw [List.mem_cons, not_or] at hsigma
        obtain ⟨hc, hrest⟩ := hsigma
        rw [lowerAfter, lowerBetween, if_neg (Ne.symm hc), ih hrest, List.flatMap_cons]
  exact hafter []

end FacetSearch
