import Mathlib.Algebra.Order.Ring.Int

/-!
# Doubles cut to words

A double is cut to a word by dropping what is behind the point; what no word can hold becomes the
greatest one.  The words are unsigned, so half of them are beyond what a signed one can hold, and
`toUInt64_lt_half_iff` says which doubles lead there: those from `2 ^ 63` on, which as a double is
next to `2 ^ 63 - 1024`.
-/

namespace Granary.Decimal

open Float.Model.UnpackedFloat (ExtendedMantissa Sign unpackExponent unpackMantissa)

/-- The whole part of `mantissa · 2 ^ exponent`. -/
def wholePart (mantissa : Nat) (exponent : Int) : Nat :=
  mantissa * 2 ^ exponent.toNat / 2 ^ (-exponent).toNat

theorem mantissa_shiftRight (em : ExtendedMantissa) (n : Nat) :
    (em >>> n).mantissa = em.mantissa / 2 ^ n := by
  induction n with
  | zero => exact (Nat.div_one _).symm
  | succ n ih =>
    show (em >>> n).mantissa / 2 = _
    rw [ih, Nat.div_div_eq_div_mul, Nat.pow_succ]

theorem roundToInt_positive (mantissa : Nat) (exponent : Int) :
    Float.Model.UnpackedFloat.roundToInt .positive mantissa exponent =
      (wholePart mantissa exponent : Int) := by
  have hback : (0 - (exponent - ((exponent - 0).toNat : Int))).toNat = (-exponent).toNat := by omega
  show (((ExtendedMantissa.ofMantissaAndAccuracy (mantissa <<< (exponent - 0).toNat) .exact) >>>
    (0 - (exponent - ((exponent - 0).toNat : Int))).toNat).mantissa : Int) = _
  rw [hback, mantissa_shiftRight, wholePart, Int.sub_zero, Nat.shiftLeft_eq]
  rfl

/-- The mantissa of a finite double has 53 bits, the first of which is missing only where the
exponent is the least one. -/
theorem mantissa_bounds {x : Float} {sign : Sign} {mantissa : Nat} {exponent : Int}
    {hpos : 0 < mantissa} (h : x.toModel.unpack = .finite sign mantissa exponent hpos) :
    mantissa < 2 ^ 53 ∧ (exponent = -1074 ∨ 2 ^ 52 ≤ mantissa) := by
  unfold Float.Model.unpack Float.Model.UnpackedFloat.unpack at h
  dsimp only at h
  have hbias : Float.Model.Format.binary64.exponentBias = 1023 := rfl
  by_cases hlast : @unpackExponent .binary64 x.toModel.toBits.toBitVec = -1#11
  · rw [if_pos hlast] at h
    by_cases hnone : @unpackMantissa .binary64 x.toModel.toBits.toBitVec = 0#52
    · rw [if_pos hnone] at h
      cases h
    · rw [if_neg hnone] at h
      cases h
  · rw [if_neg hlast] at h
    by_cases hzero : @unpackExponent .binary64 x.toModel.toBits.toBitVec = 0#11
    · rw [if_pos hzero] at h
      by_cases hnone : @unpackMantissa .binary64 x.toModel.toBits.toBitVec = 0#52
      · rw [dif_pos hnone] at h
        cases h
      · rw [dif_neg hnone] at h
        injection h with _ hmantissa hexponent
        rw [hzero, hbias] at hexponent
        have hlt : mantissa < 2 ^ 52 := hmantissa ▸ BitVec.isLt _
        exact ⟨hlt.trans (by decide), .inl hexponent.symm⟩
    · rw [if_neg hzero] at h
      injection h with _ hmantissa hexponent
      have hlt : mantissa < 2 ^ 53 := hmantissa ▸ BitVec.isLt _
      rw [BitVec.toNat_append] at hmantissa
      exact ⟨hlt, .inr (hmantissa ▸ Nat.left_le_or)⟩

/-- A double from one on is infinite, or has a mantissa of full length. -/
theorem cases_of_one_le {x : Float} (h : 1.0 ≤ x) : x.toModel.unpack = .infinity .positive ∨
    ∃ mantissa exponent hpos, x.toModel.unpack = .finite .positive mantissa exponent hpos ∧
      2 ^ 52 ≤ mantissa ∧ mantissa < 2 ^ 53 := by
  have hle : ((Float.Model.UnpackedFloat.finite .positive (2 ^ 52) (-52) (by decide)).compare
      x.toModel.unpack).any (·.isLE) = true := of_decide_eq_true h
  cases hx : x.toModel.unpack with
  | notANumber =>
    rw [hx] at hle
    cases hle
  | zero sign =>
    rw [hx] at hle
    cases hle
  | infinity sign =>
    rw [hx] at hle
    cases sign with
    | positive => exact .inl rfl
    | negative => cases hle
  | finite sign mantissa exponent hpos =>
    rw [hx] at hle
    cases sign with
    | positive =>
      have horder : ((compare (-52) exponent).then (compare (2 ^ 52) mantissa)).isLE = true := hle
      obtain ⟨hlt, hleast⟩ := mantissa_bounds hx
      have hexponent : -52 ≤ exponent := by
        by_contra hless
        rw [(compare_gt_iff_gt).2 (not_le.1 hless)] at horder
        cases horder
      have hfull : 2 ^ 52 ≤ mantissa := hleast.resolve_left (by omega)
      exact .inr ⟨mantissa, exponent, hpos, rfl, hfull, hlt⟩
    | negative => cases hle

/-- The word that a positive double is cut to. -/
theorem toNat_toUInt64_of_finite {x : Float} {mantissa : Nat} {exponent : Int} {hpos : 0 < mantissa}
    (h : x.toModel.unpack = .finite .positive mantissa exponent hpos) :
    x.toUInt64.toNat = min (wholePart mantissa exponent) (2 ^ 64 - 1) := by
  show (UInt64.ofNatClamp (Float.Model.UnpackedFloat.toInt 0 _ x.toModel.unpack).toNat).toNat = _
  rw [h]
  show (UInt64.ofNatClamp (Float.Model.UnpackedFloat.roundToInt .positive mantissa
    exponent).toNat).toNat = _
  rw [roundToInt_positive, Int.toNat_natCast, UInt64.ofNatClamp]
  have hsize : UInt64.size = 2 ^ 64 := rfl
  split
  · rename_i hlt
    rw [min_eq_left (by omega)]
    rfl
  · rename_i hge
    rw [min_eq_right (by omega)]
    rfl

/-- Below the first exponent at which a mantissa of full length reaches `2 ^ 63`, none does. -/
theorem wholePart_lt_half_iff {mantissa : Nat} {exponent : Int} (hfull : 2 ^ 52 ≤ mantissa)
    (hlt : mantissa < 2 ^ 53) : wholePart mantissa exponent < 2 ^ 63 ↔ exponent < 11 := by
  rw [wholePart]
  constructor
  · intro hsmall
    by_contra hgreat
    have hback : (-exponent).toNat = 0 := by omega
    have hpow : 2 ^ 11 ≤ 2 ^ exponent.toNat := Nat.pow_le_pow_right (by decide) (by omega)
    rw [hback, Nat.pow_zero, Nat.div_one] at hsmall
    have hproduct := Nat.mul_le_mul hfull hpow
    omega
  · intro hexponent
    have hpow : 2 ^ exponent.toNat ≤ 2 ^ 10 := Nat.pow_le_pow_right (by decide) (by omega)
    calc mantissa * 2 ^ exponent.toNat / 2 ^ (-exponent).toNat
        ≤ mantissa * 2 ^ exponent.toNat := Nat.div_le_self ..
      _ ≤ mantissa * 2 ^ 10 := Nat.mul_le_mul_left _ hpow
      _ < 2 ^ 63 := by omega

/-- A double from one on is cut to a word that a signed one can hold as well exactly if it is below
`2 ^ 63`. -/
theorem toUInt64_lt_half_iff {x : Float} (h : 1.0 ≤ x) :
    x.toUInt64.toNat < 2 ^ 63 ↔ x < 9223372036854775808 := by
  have hless : x < 9223372036854775808 ↔
      (x.toModel.unpack.compare (.finite .positive (2 ^ 52) 11 (by decide)) == some .lt) = true :=
    decide_eq_true_iff
  rw [hless]
  obtain hx | ⟨mantissa, exponent, hpos, hx, hfull, hlt⟩ := cases_of_one_le h
  · have hword : x.toUInt64 = (UInt64.ofNatClamp (Float.Model.UnpackedFloat.toInt 0
        (UInt64.size - 1) (.infinity .positive)).toNat) := by rw [← hx]; rfl
    rw [hx, hword]
    decide
  · have horder : (x.toModel.unpack.compare (.finite .positive (2 ^ 52) 11 (by decide)) ==
        some .lt) = true ↔ (compare exponent 11).then (compare mantissa (2 ^ 52)) = .lt := by
      rw [hx]
      exact beq_iff_eq.trans Option.some_inj
    have hwhole : wholePart mantissa exponent < 2 ^ 63 ↔ exponent < 11 :=
      wholePart_lt_half_iff hfull hlt
    rw [horder, Ordering.then_eq_lt, compare_lt_iff_lt, compare_eq_iff_eq, compare_lt_iff_lt,
      toNat_toUInt64_of_finite hx]
    omega

end Granary.Decimal
