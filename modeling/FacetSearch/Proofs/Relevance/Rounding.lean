import FacetSearch.Proofs.Relevance.Order
import FacetSearch.Proofs.Relevance.Standard
import Mathlib.Tactic.Ring

/-!
# Rounding and the leading bit

Floating-point numbers are rounded, and what is too small is rounded to zero.  Here this is
followed by the place of the leading bit: rounding never moves it down, unless it lies below
all that can be represented (`roundWithAccuracy_spec`), and packing what has been rounded
keeps it or gives the infinity (`leads_unpack_pack`).  A number is positive if it has a
leading bit at all (`pos_iff`), and one or more if this is not behind the point
(`atLeastOne_iff`).  So sums, products with what is one or more, and square roots of what is
one or more have the two properties again.

Positions are counted from the point, with 1 for the digit before it and 0 for the first one
after it.  The last one that can be represented is -1073.
-/

namespace FacetSearch

namespace FloatRounding

open Float.Model UnpackedFloat

/-! ## The leading bit -/

/-- The exponent that a number with its leading bit at some position should have. -/
theorem targetExponent_eq (position : Int) :
    Format.binary64.targetExponent position = max (position - 53) (-1074) :=
  rfl

theorem log2_le_log2 {m n : Nat} (hm : 0 < m) (hle : m ≤ n) : m.log2 ≤ n.log2 :=
  (Nat.le_log2 (by omega)).mpr ((Nat.log2_self_le (by omega)).trans hle)

/-- Shifting to the right by fewer digits than there are moves the leading bit. -/
theorem log2_div_two_pow {m shift : Nat} (hm : 0 < m) (hshift : shift ≤ m.log2) :
    (m / 2 ^ shift).log2 + shift = m.log2 := by
  have hlow : 2 ^ (m.log2 - shift) ≤ m / 2 ^ shift := by
    rw [Nat.le_div_iff_mul_le (Nat.two_pow_pos shift), ← pow_add, Nat.sub_add_cancel hshift]
    exact Nat.log2_self_le (by omega)
  have hhigh : m / 2 ^ shift < 2 ^ (m.log2 - shift + 1) := by
    have hexponent : m.log2 - shift + 1 + shift = m.log2 + 1 := by omega
    rw [Nat.div_lt_iff_lt_mul (Nat.two_pow_pos shift), ← pow_add, hexponent]
    exact Nat.lt_log2_self
  have hpositive : m / 2 ^ shift ≠ 0 := by
    have hpow := Nat.two_pow_pos (m.log2 - shift)
    omega
  have hlog := (Nat.log2_eq_iff hpositive).mpr ⟨hlow, hhigh⟩
  omega

/-- Shifting to the left moves the leading bit. -/
theorem log2_shiftLeft {m : Nat} (hm : 0 < m) (shift : Nat) :
    (m <<< shift).log2 = m.log2 + shift := by
  rw [Nat.shiftLeft_eq]
  have hpositive : m * 2 ^ shift ≠ 0 := (Nat.mul_pos hm (Nat.two_pow_pos shift)).ne'
  refine (Nat.log2_eq_iff hpositive).mpr ⟨?_, ?_⟩
  · rw [pow_add]
    exact Nat.mul_le_mul_right _ (Nat.log2_self_le hm.ne')
  · rw [Nat.add_right_comm, pow_add]
    exact Nat.mul_lt_mul_of_pos_right Nat.lt_log2_self (Nat.two_pow_pos shift)

/-! ## Rounding -/

theorem mantissa_shiftRight (extended : ExtendedMantissa) (shift : Nat) :
    (extended >>> shift).mantissa = extended.mantissa / 2 ^ shift := by
  induction shift with
  | zero => simp [HShiftRight.hShiftRight, Nat.repeat]
  | succ shift ih =>
      show (extended >>> shift).mantissa / 2 = _
      rw [ih, Nat.div_div_eq_div_mul, pow_succ]

theorem mantissa_ofMantissaAndAccuracy (m : Nat) (accuracy : Accuracy) :
    (ExtendedMantissa.ofMantissaAndAccuracy m accuracy).mantissa = m := by
  cases accuracy with
  | exact => rfl
  | inexact side => cases side <;> rfl

theorem mantissa_le_roundedMantissa (extended : ExtendedMantissa) :
    extended.mantissa ≤ extended.roundedMantissa := by
  obtain ⟨mantissa, round, sticky⟩ := extended
  cases round <;> cases sticky <;>
    simp [ExtendedMantissa.roundedMantissa, ExtendedMantissa.accuracy, Accuracy.roundToNearestEven]

variable {m : Nat} {e : Int}

/-- Shifting to the exponent that a number should have keeps the leading bit where it is,
unless it lies below all that can be represented. -/
theorem shiftToTargetExponent_spec (accuracy : Accuracy) (hm : 0 < m)
    (hleads : -1074 < totalExponent m e)
    (hfits : e ≤ Format.binary64.targetExponent (totalExponent m e)) :
    ∃ extended exponent, shiftToTargetExponent Format.binary64 m e accuracy = (extended, exponent) ∧
      0 < extended.mantissa ∧ totalExponent extended.mantissa exponent = totalExponent m e ∧
      exponent = Format.binary64.targetExponent (totalExponent m e) := by
  refine ⟨_, _, rfl, ?_⟩
  rw [targetExponent_eq] at hfits ⊢
  generalize hshift : (max (totalExponent m e - 53) (-1074) - e).toNat = shift
  have hshort : shift ≤ m.log2 := by
    rw [totalExponent] at hleads hshift
    omega
  have hlog := log2_div_two_pow hm hshort
  have hpositive : 0 < m / 2 ^ shift :=
    Nat.div_pos ((Nat.pow_le_pow_right two_pos hshort).trans (Nat.log2_self_le hm.ne'))
      (Nat.two_pow_pos shift)
  rw [mantissa_shiftRight, mantissa_ofMantissaAndAccuracy]
  refine ⟨hpositive, ?_, by omega⟩
  rw [totalExponent, totalExponent]
  omega

/-- Whether a number is positive and its leading bit beyond a position, as that of the
infinity is beyond all. -/
def Leads (position : Int) : UnpackedFloat → Prop
  | .infinity .positive => True
  | .finite .positive mantissa exponent _ => position < totalExponent mantissa exponent
  | _ => False

/-- Whether a finite number has the exponent that it should have. -/
def IsCanonical : UnpackedFloat → Prop
  | .finite _ mantissa exponent _ =>
      exponent = Format.binary64.targetExponent (totalExponent mantissa exponent)
  | _ => True

theorem leads_finite {position : Int} (hm : 0 < m) :
    Leads position (.finite .positive m e hm) ↔ position < totalExponent m e :=
  Iff.rfl

theorem isCanonical_finite {sign : Sign} (hm : 0 < m) :
    IsCanonical (.finite sign m e hm) ↔ e = Format.binary64.targetExponent (totalExponent m e) :=
  Iff.rfl

/-- Rounding keeps the leading bit or moves it up. -/
theorem roundWithAccuracy_spec (accuracy : Accuracy) (hm : 0 < m)
    (hleads : -1074 < totalExponent m e)
    (hfits : e ≤ Format.binary64.targetExponent (totalExponent m e)) :
    IsCanonical (roundWithAccuracy Format.binary64 .positive m e accuracy) ∧
      ∀ position < totalExponent m e,
        Leads position (roundWithAccuracy Format.binary64 .positive m e accuracy) := by
  obtain ⟨first, exponent, hfirst, hpositive, htotal, hexponent⟩ :=
    shiftToTargetExponent_spec accuracy hm hleads hfits
  -- what has been rounded up may need another shift
  have hrounded := mantissa_le_roundedMantissa first
  have hup : totalExponent m e ≤ totalExponent first.roundedMantissa exponent := by
    have hlog := log2_le_log2 hpositive hrounded
    rw [← htotal, totalExponent, totalExponent]
    omega
  have hfits' : exponent ≤
      Format.binary64.targetExponent (totalExponent first.roundedMantissa exponent) := by
    rw [hexponent, targetExponent_eq, targetExponent_eq]
    rw [hexponent, targetExponent_eq] at hup
    omega
  obtain ⟨last, exponent', hlast, hpositive', htotal', hexponent'⟩ :=
    shiftToTargetExponent_spec .exact (hpositive.trans_le hrounded)
      (hleads.trans_le hup) hfits'
  have hresult : roundWithAccuracy Format.binary64 .positive m e accuracy =
      .finite .positive last.mantissa exponent' hpositive' := by
    rw [roundWithAccuracy, hfirst]
    dsimp only
    rw [hlast]
    exact dif_neg hpositive'.ne'
  rw [hresult]
  constructor
  · rw [isCanonical_finite, htotal']
    exact hexponent'
  · intro position hposition
    rw [leads_finite, htotal']
    exact hposition.trans_le hup

/-- A number may have any exponent before it is rounded. -/
theorem round_spec (hm : 0 < m) (hleads : -1074 < totalExponent m e) :
    IsCanonical (UnpackedFloat.round Format.binary64 .positive m e) ∧
      ∀ position < totalExponent m e,
        Leads position (UnpackedFloat.round Format.binary64 .positive m e) := by
  rw [UnpackedFloat.round, decreaseExponent]
  dsimp only
  generalize hshift : (e - Format.binary64.targetExponent (totalExponent m e)).toNat = shift
  have htotal : totalExponent (m <<< shift) (e - shift) = totalExponent m e := by
    rw [totalExponent, totalExponent, log2_shiftLeft hm]
    omega
  rw [← htotal] at hleads ⊢
  have hpositive : 0 < m <<< shift := by
    rw [Nat.shiftLeft_eq]
    exact Nat.mul_pos hm (Nat.two_pow_pos shift)
  refine roundWithAccuracy_spec .exact hpositive hleads ?_
  rw [htotal]
  omega

/-! ## Packing -/

theorem unpackSign_packComponents (sign : Sign) (exponent : BitVec 11) (mantissa : BitVec 52) :
    unpackSign (packComponents Format.binary64 sign exponent mantissa) = sign.toBitVec := by
  show (sign.toBitVec ++ exponent ++ mantissa).extractLsb' 63 1 = sign.toBitVec
  rw [BitVec.extractLsb'_append_eq_of_le (by decide),
    BitVec.extractLsb'_append_eq_of_le (by decide)]
  cases sign <;> rfl

/-- The leading bit of a normal number is not stored. -/
theorem toNat_one_append (mantissa : BitVec 52) :
    (1#1 ++ mantissa).toNat = 2 ^ 52 + mantissa.toNat := by
  rw [BitVec.toNat_append, ← Nat.shiftLeft_add_eq_or_of_lt mantissa.isLt]
  rfl

/-- The number with some components. -/
def ofComponents (sign : Sign) (exponent : BitVec 11) (mantissa : BitVec 52) : UnpackedFloat :=
  if exponent = -1#11 then
    if mantissa = 0#52 then .infinity sign else .notANumber
  else if exponent = 0#11 then
    if h : mantissa = 0#52 then .zero sign
    else .finite sign mantissa.toNat (exponent.toNat - 1075 + 1)
      (by simpa [BitVec.toNat_pos, BitVec.pos_iff_ne_zero])
  else .finite sign (1#1 ++ mantissa).toNat (exponent.toNat - 1075)
    (by rw [toNat_one_append]; omega)

theorem unpack_eq_ofComponents (bits : BitVec 64) :
    UnpackedFloat.unpack Format.binary64 bits =
      ofComponents (Sign.ofBitVec (@unpackSign Format.binary64 bits))
        (@unpackExponent Format.binary64 bits) (@unpackMantissa Format.binary64 bits) :=
  rfl

theorem unpack_packComponents (sign : Sign) (exponent : BitVec 11) (mantissa : BitVec 52) :
    UnpackedFloat.unpack Format.binary64 (packComponents Format.binary64 sign exponent mantissa) =
      ofComponents sign exponent mantissa := by
  rw [unpack_eq_ofComponents, unpackSign_packComponents, unpackExponent_packComponents,
    unpackMantissa_packComponents]
  cases sign <;> rfl

/-- What is unpacked has the exponent that it should have. -/
theorem isCanonical_ofComponents (sign : Sign) (exponent : BitVec 11) (mantissa : BitVec 52) :
    IsCanonical (ofComponents sign exponent mantissa) := by
  have hmantissa : mantissa.toNat < 2 ^ 52 := mantissa.isLt
  rw [ofComponents]
  by_cases hlast : exponent = -1#11
  · rw [if_pos hlast]
    by_cases hzero : mantissa = 0#52
    · rw [if_pos hzero]
      trivial
    · rw [if_neg hzero]
      trivial
  · rw [if_neg hlast]
    by_cases hsubnormal : exponent = 0#11
    · rw [if_pos hsubnormal]
      by_cases hzero : mantissa = 0#52
      · rw [dif_pos hzero]
        trivial
      · have hpositive : mantissa.toNat ≠ 0 := by
          simpa [← BitVec.toNat_inj] using hzero
        have hlog : mantissa.toNat.log2 < 52 := (Nat.log2_lt hpositive).mpr hmantissa
        have hexponent : exponent.toNat = 0 := by simp [hsubnormal]
        rw [dif_neg hzero, isCanonical_finite, targetExponent_eq, totalExponent]
        omega
    · have hlog : (1#1 ++ mantissa).toNat.log2 = 52 := by
        rw [toNat_one_append]
        exact (Nat.log2_eq_iff (by omega)).mpr ⟨by omega, by omega⟩
      have hexponent : exponent.toNat ≠ 0 := by
        simpa [← BitVec.toNat_inj] using hsubnormal
      rw [if_neg hsubnormal, isCanonical_finite, targetExponent_eq, totalExponent, hlog]
      omega

theorem isCanonical_unpack (number : Float.Model) : IsCanonical number.unpack :=
  isCanonical_ofComponents _ _ _

theorem pack_finite (hm : 0 < m) :
    UnpackedFloat.pack Format.binary64 (.finite .positive m e hm) =
      if 2 ^ 11 ≤ (e + (1023 : Nat) + (52 : Nat)).toNat + 1 then
        packedInfinity Format.binary64 .positive
      else if m.log2 + 1 = 53 then
        packComponents Format.binary64 .positive
          (BitVec.ofNat 11 (e + (1023 : Nat) + (52 : Nat)).toNat) (BitVec.ofNat 52 m)
      else packComponents Format.binary64 .positive 0#11 (BitVec.ofNat 52 m) :=
  rfl

theorem finite_congr {sign : Sign} {n : Nat} {f : Int} {hm : 0 < m} {hn : 0 < n}
    (hmantissa : m = n) (hexponent : e = f) : finite sign m e hm = finite sign n f hn := by
  subst hmantissa hexponent
  rfl

/-- A normal number is found again in its components, though its leading bit is not stored. -/
theorem ofComponents_normal {biased : Nat} (hm : 0 < m) (hfirst : 2 ^ 52 ≤ m)
    (hlast : m < 2 ^ 53) (hpositive : 0 < biased) (hfits : biased + 1 < 2 ^ 11)
    (hplace : (biased : Int) - 1075 = e) :
    ofComponents .positive (BitVec.ofNat 11 biased) (BitVec.ofNat 52 m) =
      .finite .positive m e hm := by
  have hexponent : (BitVec.ofNat 11 biased).toNat = biased := by
    rw [BitVec.toNat_ofNat, Nat.mod_eq_of_lt (by omega)]
  have hmantissa : (1#1 ++ BitVec.ofNat 52 m).toNat = m := by
    rw [toNat_one_append, BitVec.toNat_ofNat]
    omega
  -- the exponents of infinity and of the subnormal numbers are not those of normal ones
  have hinfinite : BitVec.ofNat 11 biased ≠ -1#11 := by
    rw [ne_eq, ← BitVec.toNat_inj, hexponent]
    show biased ≠ 2047
    omega
  have hzero : BitVec.ofNat 11 biased ≠ 0#11 := by
    rw [ne_eq, ← BitVec.toNat_inj, hexponent]
    show biased ≠ 0
    omega
  rw [ofComponents, if_neg hinfinite, if_neg hzero]
  exact finite_congr hmantissa (by omega)

/-- A subnormal number is found again in its components, with the least exponent. -/
theorem ofComponents_subnormal (hm : 0 < m) (hsmall : m < 2 ^ 52) :
    ofComponents .positive 0#11 (BitVec.ofNat 52 m) = .finite .positive m (-1074) hm := by
  have hmantissa : (BitVec.ofNat 52 m).toNat = m := by
    rw [BitVec.toNat_ofNat, Nat.mod_eq_of_lt hsmall]
  have hnonzero : BitVec.ofNat 52 m ≠ 0#52 := by
    rw [ne_eq, ← BitVec.toNat_inj, hmantissa]
    exact hm.ne'
  rw [ofComponents, if_neg (by decide), if_pos rfl, dif_neg hnonzero]
  exact finite_congr hmantissa rfl

/-- What has the exponent that it should have is found again in its packed form, if it is
not so large that it becomes infinite. -/
theorem unpack_pack_finite (hm : 0 < m)
    (hcanonical : e = Format.binary64.targetExponent (totalExponent m e)) :
    (Float.Model.pack (.finite .positive m e hm)).unpack = .infinity .positive ∨
      (Float.Model.pack (.finite .positive m e hm)).unpack = .finite .positive m e hm := by
  rw [targetExponent_eq, totalExponent] at hcanonical
  have hlast : m < 2 ^ 53 := (Nat.log2_lt hm.ne').mp (by omega)
  show UnpackedFloat.unpack _ (UnpackedFloat.pack _ _) = _ ∨
    UnpackedFloat.unpack _ (UnpackedFloat.pack _ _) = _
  rw [pack_finite]
  generalize hbiased : (e + (1023 : Nat) + (52 : Nat)).toNat = biased
  by_cases hlarge : 2 ^ 11 ≤ biased + 1
  · left
    rw [if_pos hlarge]
    exact unpack_packComponents .positive (-1#11) 0#52
  · right
    rw [if_neg hlarge]
    by_cases hnormal : m.log2 + 1 = 53
    · have hfirst : 2 ^ 52 ≤ m := (Nat.le_log2 hm.ne').mp (by omega)
      rw [if_pos hnormal, unpack_packComponents]
      exact ofComponents_normal hm hfirst hlast (by omega) (by omega) (by omega)
    · -- a mantissa with fewer bits only has the exponent it should have if that is the least one
      have hsmall : m < 2 ^ 52 := (Nat.log2_lt hm.ne').mp (by omega)
      rw [if_neg hnormal, unpack_packComponents, ofComponents_subnormal hm hsmall]
      exact finite_congr rfl (by omega)

/-- Packing keeps the leading bit of what has been rounded. -/
theorem leads_unpack_pack {position : Int} {number : UnpackedFloat}
    (hcanonical : IsCanonical number) (hleads : Leads position number) :
    Leads position (Float.Model.pack number).unpack := by
  match number with
  | .infinity .positive => trivial
  | .finite .positive m e hm =>
      rcases unpack_pack_finite hm hcanonical with hinfinite | hsame
      · rw [hinfinite]
        trivial
      · rw [hsame]
        exact hleads

/-! ## Arithmetic -/

variable {a b : Float.Model} {position : Int}

theorem leads_infinity : Leads position (Float.Model.pack (.infinity .positive)).unpack :=
  trivial

theorem leads_add_zero (ha : Leads position a.unpack) (hb : b.unpack = .zero .positive) :
    Leads position (a.add b).unpack := by
  have hcanonical := isCanonical_unpack a
  rw [Float.Model.add, hb]
  generalize a.unpack = x at ha hcanonical
  match x with
  | .infinity .positive => exact leads_infinity
  | .finite .positive m e hm => exact leads_unpack_pack hcanonical ha

theorem leads_zero_add (ha : a.unpack = .zero .positive) (hb : Leads position b.unpack) :
    Leads position (a.add b).unpack := by
  have hcanonical := isCanonical_unpack b
  rw [Float.Model.add, ha]
  generalize b.unpack = y at hb hcanonical
  match y with
  | .infinity .positive => exact leads_infinity
  | .finite .positive m e hm => exact leads_unpack_pack hcanonical hb

/-- The leading bit of a sum is not below that of a part. -/
theorem leads_add (hposition : -1074 ≤ position) (ha : Leads position a.unpack)
    (hb : Leads position b.unpack) : Leads position (a.add b).unpack := by
  rw [Float.Model.add]
  generalize a.unpack = x at ha
  generalize b.unpack = y at hb
  match x, y with
  | .infinity .positive, .infinity .positive => exact leads_infinity
  | .infinity .positive, .finite .positive _ _ _ => exact leads_infinity
  | .finite .positive _ _ _, .infinity .positive => exact leads_infinity
  | .finite .positive m e hm, .finite .positive n f hn =>
      rw [leads_finite] at ha
      dsimp only [UnpackedFloat.add, decreaseExponent, Sign.apply]
      generalize hshift : (e - min e f).toNat = shift
      generalize n <<< (f - min e f).toNat = other
      have hlog := log2_shiftLeft hm shift
      have hpositive : 0 < m <<< shift := by
        rw [Nat.shiftLeft_eq]
        exact Nat.mul_pos hm (Nat.two_pow_pos shift)
      have hmore := log2_le_log2 hpositive (Nat.le_add_right (m <<< shift) other)
      have htotal : totalExponent m e ≤ totalExponent (m <<< shift + other) (min e f) := by
        rw [totalExponent, totalExponent]
        omega
      have hsum :
          UnpackedFloat.normalize Format.binary64 (↑(m <<< shift) + ↑other) (min e f) .positive =
            UnpackedFloat.round Format.binary64 .positive (m <<< shift + other) (min e f) := by
        rw [UnpackedFloat.normalize, Int.compare_eq_gt.mpr (by omega)]
        rfl
      rw [hsum]
      obtain ⟨hcanonical, hround⟩ :=
        round_spec (e := min e f) (Nat.add_pos_left hpositive other) (by omega)
      exact leads_unpack_pack hcanonical (hround position (by omega))

theorem leads_mul_finite {m n : Nat} {e f : Int} (hm : 0 < m) (hn : 0 < n)
    (hposition : -1074 ≤ position) (htotal : position < totalExponent (m * n) (e + f))
    (hfits : e + f ≤ Format.binary64.targetExponent (totalExponent (m * n) (e + f))) :
    Leads position (Float.Model.pack (UnpackedFloat.mul Format.binary64
      (.finite .positive m e hm) (.finite .positive n f hn))).unpack := by
  obtain ⟨hcanonical, hround⟩ :=
    roundWithAccuracy_spec .exact (Nat.mul_pos hm hn) (hposition.trans_lt htotal) hfits
  exact leads_unpack_pack hcanonical (hround position htotal)

theorem log2_add_log2_le {m n : Nat} (hm : 0 < m) (hn : 0 < n) :
    m.log2 + n.log2 ≤ (m * n).log2 := by
  rw [Nat.le_log2 (Nat.mul_pos hm hn).ne', pow_add]
  exact Nat.mul_le_mul (Nat.log2_self_le hm.ne') (Nat.log2_self_le hn.ne')

/-- A factor of one or more does not move the leading bit down. -/
theorem leads_mul (hposition : -1074 ≤ position) (ha : Leads 0 a.unpack)
    (hb : Leads position b.unpack) : Leads position (a.mul b).unpack := by
  have hcanonical := isCanonical_unpack a
  have hcanonical' := isCanonical_unpack b
  rw [Float.Model.mul]
  generalize a.unpack = x at ha hcanonical
  generalize b.unpack = y at hb hcanonical'
  match x, y with
  | .infinity .positive, .infinity .positive => exact leads_infinity
  | .infinity .positive, .finite .positive _ _ _ => exact leads_infinity
  | .finite .positive _ _ _, .infinity .positive => exact leads_infinity
  | .finite .positive m e hm, .finite .positive n f hn =>
      rw [leads_finite, totalExponent] at ha hb
      rw [isCanonical_finite, targetExponent_eq, totalExponent] at hcanonical hcanonical'
      have hlog := log2_add_log2_le hm hn
      have htotal : position < totalExponent (m * n) (e + f) := by
        rw [totalExponent]
        omega
      have hfits : e + f ≤ Format.binary64.targetExponent (totalExponent (m * n) (e + f)) := by
        rw [targetExponent_eq, totalExponent]
        omega
      exact leads_mul_finite hm hn hposition htotal hfits

theorem log2_le_log2_sqrt {m : Nat} (hm : 0 < m) : m.log2 / 2 ≤ m.sqrt.log2 := by
  have hroot : 2 ^ (m.log2 / 2) ≤ m.sqrt := by
    rw [Nat.le_sqrt', ← pow_mul]
    exact (Nat.pow_le_pow_right two_pos (by omega)).trans (Nat.log2_self_le hm.ne')
  have hpositive : m.sqrt ≠ 0 := by
    have hpow := Nat.two_pow_pos (m.log2 / 2)
    omega
  exact (Nat.le_log2 hpositive).mpr hroot

/-- The square root of a number that is one or more is so too. -/
theorem leads_sqrt (ha : Leads 0 a.unpack) : Leads 0 a.sqrt.unpack := by
  rw [Float.Model.sqrt]
  generalize a.unpack = x at ha
  match x with
  | .infinity .positive => exact leads_infinity
  | .finite .positive m e hm =>
      rw [leads_finite, totalExponent] at ha
      show Leads 0 (Float.Model.pack (roundWithAccuracy Format.binary64 .positive
        (sqrtCore Format.binary64 m e).1 (sqrtCore Format.binary64 m e).2.1
        (sqrtCore Format.binary64 m e).2.2)).unpack
      rw [sqrtCore, targetExponent_eq, totalExponent]
      dsimp only
      generalize hexponent : min (e.ediv 2)
        (max (((m.log2 + 1 + e : Int) + 1).ediv 2 - 53) (-1074)) = exponent
      have hhalf : exponent = min (e / 2) (max ((m.log2 + 1 + e + 1) / 2 - 53) (-1074)) :=
        hexponent.symm
      generalize hshift : (e - 2 * exponent).toNat = shift
      have hpositive : 0 < m <<< shift := by
        rw [Nat.shiftLeft_eq]
        exact Nat.mul_pos hm (Nat.two_pow_pos shift)
      -- the root has half as many digits
      have hlog := log2_shiftLeft hm shift
      have hroot := log2_le_log2_sqrt hpositive
      have htotal : 0 < totalExponent (m <<< shift).sqrt exponent := by
        rw [totalExponent]
        omega
      have hfits : exponent ≤
          Format.binary64.targetExponent (totalExponent (m <<< shift).sqrt exponent) := by
        rw [targetExponent_eq, totalExponent]
        omega
      obtain ⟨hcanonical, hround⟩ :=
        roundWithAccuracy_spec _ (Nat.sqrt_pos.mpr hpositive) (by omega) hfits
      exact leads_unpack_pack hcanonical (hround 0 htotal)

/-! ## Floating-point numbers -/

theorem toModel_mul (x y : Float) : (x * y).toModel = x.toModel.mul y.toModel :=
  rfl

theorem unpack_one :
    (1.0 : Float).toModel.unpack = .finite .positive (2 ^ 52) (-52) (by decide) :=
  rfl

theorem unpack_zero : (0.0 : Float).toModel.unpack = .zero .positive :=
  rfl

theorem leads_one : Leads 0 (1.0 : Float).toModel.unpack := by
  rw [unpack_one]
  show (0 : Int) < totalExponent (2 ^ 52) (-52)
  decide

theorem leads_normalize {n : Nat} (hn : 0 < n) :
    Leads 0 (Float.Model.pack (UnpackedFloat.normalize Format.binary64 n 0 .positive)).unpack := by
  have hleads : 0 < totalExponent n 0 := by
    rw [totalExponent]
    omega
  obtain ⟨hcanonical, hround⟩ := round_spec (e := 0) hn (by omega)
  rw [UnpackedFloat.normalize, Int.compare_eq_gt.mpr (by omega)]
  exact leads_unpack_pack hcanonical (hround 0 hleads)

theorem leads_toFloat {n : UInt64} (hn : 0 < n.toNat) : Leads 0 n.toFloat.toModel.unpack :=
  leads_normalize hn

theorem leads_ofScientific {n : Nat} (hn : 0 < n) :
    Leads 0 (Float.Model.ofScientific n 0).unpack := by
  have hlog := log2_shiftLeft hn 53
  have hdigits : Format.binary64.mantissaBits = 53 := rfl
  have hlimit : (0 : Int) < 2 ^ Format.binary64.exponentBits := by decide
  rw [Float.Model.ofScientific, UnpackedFloat.ofScientific, dif_neg hn.ne', if_neg (by omega),
    if_neg (by omega), if_pos le_rfl]
  have htotal : 0 < totalExponent (n <<< 53) (-(53 : Nat)) := by
    rw [totalExponent]
    omega
  refine leads_mul_finite _ _ (by decide) ?_ ?_
  · rw [hdigits, Int.toNat_zero, pow_zero, Nat.mul_one, Int.add_zero]
    exact htotal
  · rw [hdigits, Int.toNat_zero, pow_zero, Nat.mul_one, Int.add_zero, targetExponent_eq]
    omega

/-- A natural number above zero is one or more, after rounding too. -/
theorem leads_ofNat {n : Nat} (hn : 0 < n) : Leads 0 (Float.ofNat n).toModel.unpack := by
  show Leads 0 (Float.ofScientific n false 0).toModel.unpack
  rw [Float.ofScientific]
  split
  case isTrue hsmall =>
    have hsame : n.toUInt64.toNat = n := by
      rw [Nat.toUInt64, UInt64.toNat_ofNat', Nat.mod_eq_of_lt (by omega)]
    show Leads 0 (n.toUInt64.toFloat * 1.0).toModel.unpack
    rw [toModel_mul]
    exact leads_mul (by decide) (leads_toFloat (by omega)) leads_one
  case isFalse hlarge => exact leads_ofScientific hn

/-- A number is positive if it has a leading bit. -/
theorem pos_iff {x : Float} : 0.0 < x ↔ Leads (-1074) x.toModel.unpack := by
  have hcanonical := isCanonical_unpack x.toModel
  have hcompare : 0.0 < x ↔ (0.0 : Float).toModel.unpack.compare x.toModel.unpack = some .lt :=
    decide_eq_true_iff.trans beq_iff_eq
  rw [hcompare, unpack_zero]
  generalize x.toModel.unpack = number at hcanonical ⊢
  match number with
  | .notANumber => exact iff_of_false nofun id
  | .zero _ => exact iff_of_false nofun id
  | .infinity .positive => exact iff_of_true rfl trivial
  | .infinity .negative => exact iff_of_false nofun id
  | .finite .negative _ _ _ => exact iff_of_false nofun id
  | .finite .positive m e hm =>
      rw [isCanonical_finite, targetExponent_eq, totalExponent] at hcanonical
      rw [leads_finite, totalExponent]
      exact iff_of_true rfl (by omega)

/-- A number is one or more if its leading bit is not behind the point. -/
theorem atLeastOne_iff {x : Float} : Scalar.AtLeastOne x ↔ Leads 0 x.toModel.unpack := by
  have hcanonical := isCanonical_unpack x.toModel
  have hcompare : x < 1.0 ↔ x.toModel.unpack.compare (1.0 : Float).toModel.unpack = some .lt :=
    decide_eq_true_iff.trans beq_iff_eq
  show 0.0 < x ∧ ¬x < 1.0 ↔ _
  rw [pos_iff, hcompare, unpack_one]
  generalize x.toModel.unpack = number at hcanonical ⊢
  match number with
  | .notANumber => exact iff_of_false And.left id
  | .zero _ => exact iff_of_false And.left id
  | .infinity .positive => exact iff_of_true ⟨trivial, nofun⟩ trivial
  | .infinity .negative => exact iff_of_false And.left id
  | .finite .negative _ _ _ => exact iff_of_false And.left id
  | .finite .positive m e hm =>
      have hcompare :
          (finite .positive m e hm).compare (finite .positive (2 ^ 52) (-52) (by decide)) =
            some ((compare e (-52)).then (compare m (2 ^ 52))) := rfl
      rw [isCanonical_finite, targetExponent_eq, totalExponent] at hcanonical
      rw [leads_finite, leads_finite, totalExponent, hcompare, Option.some.injEq,
        Ordering.then_eq_lt, Int.compare_eq_lt, Int.compare_eq_eq, Nat.compare_eq_lt]
      have hdigits : 2 ^ 52 ≤ m ↔ 52 ≤ m.log2 := (Nat.le_log2 hm.ne').symm
      omega

theorem zero_mul_of_pos {x : Float} (hfinite : x.isFinite = true) (hpositive : 0.0 < x) :
    0.0 * x = 0.0 := by
  have hleads := pos_iff.mp hpositive
  have hproduct : (0.0 * x).toModel =
      Float.Model.pack (UnpackedFloat.mul Format.binary64 (.zero .positive) x.toModel.unpack) := rfl
  have hzero : (0.0 : Float).toModel = Float.Model.pack (.zero .positive) := rfl
  rw [Float.isFinite, Float.Model.isFinite] at hfinite
  refine congrArg Float.ofModel (?_ : (0.0 * x).toModel = (0.0 : Float).toModel)
  rw [hproduct, hzero]
  generalize x.toModel.unpack = number at hfinite hleads ⊢
  match number with
  | .infinity .positive => cases hfinite
  | .finite .positive _ _ _ => rfl

theorem passesToSums {P : Float → Prop} {position : Int} (hposition : -1074 ≤ position)
    (hP : ∀ x, P x ↔ Leads position x.toModel.unpack) : Scalar.PassesToSums P where
  not_zero := by
    rw [hP]
    exact not_false
  zero_add := by
    intro x hx
    rw [hP] at hx ⊢
    exact leads_zero_add unpack_zero hx
  add_zero := by
    intro x hx
    rw [hP] at hx ⊢
    exact leads_add_zero hx unpack_zero
  add := by
    intro x y hx hy
    rw [hP] at hx hy ⊢
    exact leads_add hposition hx hy

end FloatRounding

open FloatRounding

/-- Rounding takes no score to zero. -/
instance : SteadyScalar Float where
  zero_add_zero := rfl
  zero_mul_zero := rfl
  zero_mul := zero_mul_of_pos
  pos := passesToSums le_rfl fun _ => pos_iff
  atLeastOne := passesToSums (by decide) fun _ => atLeastOne_iff
  mul_pos := by
    intro x y hx hy
    exact pos_iff.mpr (leads_mul le_rfl (atLeastOne_iff.mp hx) (pos_iff.mp hy))
  mul_atLeastOne := by
    intro x y hx hy
    rw [atLeastOne_iff] at hx hy ⊢
    exact leads_mul (by decide) hx hy
  sqrt_atLeastOne := by
    intro x hx
    rw [atLeastOne_iff] at hx ⊢
    exact leads_sqrt hx
  natCast_atLeastOne := by
    intro n hn
    exact atLeastOne_iff.mpr (leads_ofNat hn)
  isFinite_natCast := by
    intro n hn
    revert n
    decide +kernel

end FacetSearch
