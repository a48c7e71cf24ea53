import Mathlib
import RemoteSensing.Value.Basic

/-!
The order of floating-point numbers is that of the numbers they stand for.
-/

namespace RemoteSensing.Decimal

open Binary WithBotTop Nat Decoded Float.Model Float.Model.UnpackedFloat

def Binary.units (b : Binary) : ℕ := b.mantissa * 2 ^ (b.exponent + 1074).toNat

def Binary.worth (b : Binary) : ℤ := if b.negative then -(b.units : ℤ) else b.units

def Decoded.worth : Decoded → Option EInt
  | .finite b => some (b.worth : EInt)
  | .infinite negative => some (if negative then ⊥ else ⊤)
  | .notANumber => none

def worth (x : Float) : Option EInt := (decode x).worth

def worthOfInt (i : ℤ) : EInt := ((i * 2 ^ 1074 : ℤ) : EInt)

noncomputable def between : Option EInt → Option EInt → Option Ordering
  | some a, some b => some (cmp a b)
  | _, _ => none

theorem between_swap (a b : Option EInt) : between a b = (between b a).map Ordering.swap := by
  cases a with
  | none => cases b <;> rfl
  | some a =>
    cases b with
    | none => rfl
    | some b => exact congrArg some (cmp_swap b a).symm

def signOf (negative : Bool) : Sign := if negative then .negative else .positive

def Decoded.unpacked : Decoded → UnpackedFloat
  | .finite b =>
    if h : b.mantissa = 0 then .zero (signOf b.negative)
    else .finite (signOf b.negative) b.mantissa b.exponent (pos_of_ne_zero h)
  | .infinite negative => .infinity (signOf negative)
  | .notANumber => .notANumber

section Bits

variable (b : BitVec Format.binary64.numBits)

theorem toNat_unpackExponent : (@unpackExponent Format.binary64 b).toNat = b.toNat / 2 ^ 52 % 2 ^ 11 := by
  rw [unpackExponent, BitVec.toNat_cast, BitVec.extractLsb_toNat, shiftRight_eq_div_pow]
  rfl

theorem toNat_unpackMantissa : (@unpackMantissa Format.binary64 b).toNat = b.toNat % 2 ^ 52 := by
  rfl

theorem ofBitVec_unpackSign : Sign.ofBitVec (@unpackSign Format.binary64 b) = signOf (decide (2 ^ 63 ≤ b.toNat)) := by
  have hsign : (@unpackSign Format.binary64 b).toNat = b.toNat / 2 ^ 63 % 2 := by
    rw [unpackSign, BitVec.toNat_cast, BitVec.extractLsb_toNat, shiftRight_eq_div_pow]
    rfl
  have hlt : b.toNat < 2 ^ 64 := b.isLt
  have hzero : @unpackSign Format.binary64 b = 0#1 ↔ ¬ 2 ^ 63 ≤ b.toNat := by
    rw [← BitVec.toNat_inj, hsign, BitVec.toNat_zero]
    omega
  unfold Sign.ofBitVec signOf
  by_cases h : 2 ^ 63 ≤ b.toNat
  · rw [if_neg fun heq => hzero.mp heq h, if_pos (decide_eq_true h)]
  · rw [if_pos (hzero.mpr h), if_neg (by simpa using h)]

theorem toNat_leading : (1#1 ++ @unpackMantissa Format.binary64 b).toNat = 2 ^ 52 + b.toNat % 2 ^ 52 := by
  rw [BitVec.toNat_append, ← shiftLeft_add_eq_or_of_lt (BitVec.isLt _), toNat_unpackMantissa]
  rfl

end Bits

theorem unpack_eq (x : Float) : x.toModel.unpack = (decode x).unpacked := by
  obtain ⟨b, hb⟩ : ∃ b : BitVec Format.binary64.numBits, b = x.toModel.toBits.toBitVec := ⟨_, rfl⟩
  have hbits : x.toBits.toNat = b.toNat := by
    rw [hb]
    rfl
  have hfield := toNat_unpackExponent b
  have hfraction := toNat_unpackMantissa b
  have hsign := ofBitVec_unpackSign b
  have htop : @unpackExponent Format.binary64 b = -1#_ ↔ b.toNat / 2 ^ 52 % 2 ^ 11 = 2047 := by
    rw [← BitVec.toNat_inj, hfield]
    rfl
  have hbottom : @unpackExponent Format.binary64 b = 0#_ ↔ b.toNat / 2 ^ 52 % 2 ^ 11 = 0 := by
    rw [← BitVec.toNat_inj, hfield]
    rfl
  have hempty : @unpackMantissa Format.binary64 b = 0#_ ↔ b.toNat % 2 ^ 52 = 0 := by
    rw [← BitVec.toNat_inj, hfraction]
    rfl
  -- both readings ask the same questions of the exponent and the mantissa, one in bits and one in numbers
  unfold Float.Model.unpack UnpackedFloat.unpack decode
  rw [← hb]
  simp only [htop, hbottom, hempty, hfield, hfraction, hsign, hbits, pow_eq]
  split
  · split <;> rfl
  · split
    · rename_i hzero
      simp only [hzero]
      rfl
    · rw [unpacked, dif_neg (by simp)]
      simp only [UnpackedFloat.finite.injEq]
      exact ⟨trivial, toNat_leading b, rfl⟩

/-- A finite number has its least exponent, or the leading bit of its mantissa is set. -/
structure Binary.Canonical (b : Binary) : Prop where
  mantissa_lt : b.mantissa < 2 ^ 53
  exponent_ge : -1074 ≤ b.exponent
  leading : b.exponent = -1074 ∨ 2 ^ 52 ≤ b.mantissa

theorem canonical_of_decode {x : Float} {b : Binary} (h : decode x = .finite b) : b.Canonical := by
  unfold decode at h
  simp only [Nat.pow_eq] at h
  split at h
  · split at h <;> cases h
  · split at h
    · cases h
      exact ⟨by simp only; omega, by simp, Or.inl rfl⟩
    · cases h
      exact ⟨by simp only; omega, by simp only; omega, Or.inr (by simp only; omega)⟩

theorem units_lt {b c : Binary} (hb : b.Canonical) (hc : c.Canonical) (h : b.exponent < c.exponent) : b.units < c.units := by
  have hexponent := hb.exponent_ge
  have hleading : 2 ^ 52 ≤ c.mantissa := hc.leading.resolve_left (by omega)
  have hstep : (b.exponent + 1074).toNat + 1 ≤ (c.exponent + 1074).toNat := by omega
  calc b.mantissa * 2 ^ (b.exponent + 1074).toNat
      < 2 ^ 53 * 2 ^ (b.exponent + 1074).toNat := Nat.mul_lt_mul_of_pos_right hb.mantissa_lt (Nat.two_pow_pos _)
    _ = 2 ^ 52 * 2 ^ ((b.exponent + 1074).toNat + 1) := by rw [Nat.pow_succ, Nat.pow_succ]; omega
    _ ≤ 2 ^ 52 * 2 ^ (c.exponent + 1074).toNat := Nat.mul_le_mul_left _ (Nat.pow_le_pow_right (by decide) hstep)
    _ ≤ c.mantissa * 2 ^ (c.exponent + 1074).toNat := Nat.mul_le_mul_right _ hleading

theorem compare_units {b c : Binary} (hb : b.Canonical) (hc : c.Canonical) :
    (compare b.exponent c.exponent).then (compare b.mantissa c.mantissa) = cmp b.units c.units := by
  rcases lt_trichotomy b.exponent c.exponent with h | h | h
  · rw [compare_lt_iff_lt.mpr h, (cmp_eq_lt_iff _ _).mpr (units_lt hb hc h)]
    rfl
  · rw [compare_eq_iff_eq.mpr h, Ordering.eq_then, units, units, h]
    have hmono : StrictMono fun m : ℕ => m * 2 ^ (c.exponent + 1074).toNat :=
      fun m n hmn => Nat.mul_lt_mul_of_pos_right hmn (Nat.two_pow_pos _)
    rw [← cmp_eq_compare, ← hmono.cmp_map_eq]
  · rw [compare_gt_iff_gt.mpr h, (cmp_eq_gt_iff _ _).mpr (units_lt hc hb h)]
    rfl

variable {b c : Binary}

theorem Binary.units_pos (h : b.mantissa ≠ 0) : 0 < (b.units : ℤ) :=
  Int.natCast_pos.mpr (Nat.mul_pos (Nat.pos_of_ne_zero h) (Nat.two_pow_pos _))

theorem Binary.worth_of_negative (hn : b.negative = true) : b.worth = -(b.units : ℤ) := by
  rw [worth, if_pos hn]

theorem Binary.worth_of_positive (hn : b.negative = false) : b.worth = b.units := by
  rw [worth, hn, if_neg (by decide)]

theorem Binary.worth_eq_zero (h : b.mantissa = 0) : b.worth = 0 := by
  rw [worth, units, h, zero_mul]
  exact ite_self 0

theorem Binary.worth_neg (h : b.mantissa ≠ 0) (hn : b.negative = true) : b.worth < 0 := by
  rw [worth_of_negative hn]
  exact neg_lt_zero.mpr (units_pos h)

theorem Binary.worth_pos (h : b.mantissa ≠ 0) (hn : b.negative = false) : 0 < b.worth := by
  rw [worth_of_positive hn]
  exact units_pos h

theorem unpacked_zero (h : b.mantissa = 0) : (finite b).unpacked = .zero (signOf b.negative) := dif_pos h

theorem unpacked_finite (h : b.mantissa ≠ 0) :
    (finite b).unpacked = .finite (signOf b.negative) b.mantissa b.exponent (pos_of_ne_zero h) := dif_neg h

theorem compare_unpacked_finite (hb : b.Canonical) (hc : c.Canonical) :
    (finite b).unpacked.compare (finite c).unpacked = some (cmp b.worth c.worth) := by
  by_cases hbm : b.mantissa = 0
  · rw [worth_eq_zero hbm, unpacked_zero hbm]
    by_cases hcm : c.mantissa = 0
    · rw [worth_eq_zero hcm, unpacked_zero hcm]
      rfl
    · rw [unpacked_finite hcm]
      cases hcn : c.negative with
      | true =>
        rw [(cmp_eq_gt_iff _ _).mpr (worth_neg hcm hcn)]
        rfl
      | false =>
        rw [(cmp_eq_lt_iff _ _).mpr (worth_pos hcm hcn)]
        rfl
  · rw [unpacked_finite hbm]
    by_cases hcm : c.mantissa = 0
    · rw [worth_eq_zero hcm, unpacked_zero hcm]
      cases hbn : b.negative with
      | true =>
        rw [(cmp_eq_lt_iff _ _).mpr (worth_neg hbm hbn)]
        rfl
      | false =>
        rw [(cmp_eq_gt_iff _ _).mpr (worth_pos hbm hbn)]
        rfl
    · rw [unpacked_finite hcm]
      have hunits := compare_units hb hc
      cases hbn : b.negative with
      | true =>
        cases hcn : c.negative with
        | true =>
          have hanti : StrictAnti fun n : ℕ => -(n : ℤ) := fun _ _ h => neg_lt_neg (Int.ofNat_lt.mpr h)
          have hturned := hanti.cmp_map_eq b.units c.units
          rw [worth_of_negative hbn, worth_of_negative hcn, hturned, ← cmp_swap, ← hunits]
          rfl
        | false =>
          rw [(cmp_eq_lt_iff _ _).mpr ((worth_neg hbm hbn).trans (worth_pos hcm hcn))]
          rfl
      | false =>
        cases hcn : c.negative with
        | true =>
          rw [(cmp_eq_gt_iff _ _).mpr ((worth_neg hcm hcn).trans (worth_pos hbm hbn))]
          rfl
        | false =>
          have hmono : StrictMono (Nat.cast : ℕ → ℤ) := fun _ _ h => Int.ofNat_lt.mpr h
          rw [worth_of_positive hbn, worth_of_positive hcn, hmono.cmp_map_eq, ← hunits]
          rfl

theorem compare_unpacked_infinite (negative : Bool) (b : Binary) :
    (finite b).unpacked.compare (infinite negative).unpacked =
        between (finite b).worth (infinite negative).worth ∧
      (infinite negative).unpacked.compare (finite b).unpacked =
        between (infinite negative).worth (finite b).worth := by
  have hbot : (⊥ : EInt) < b.worth := bot_lt_iff_ne_bot.mpr (coe_ne_bot _)
  have htop : (b.worth : EInt) < ⊤ := lt_top_iff_ne_top.mpr (coe_ne_top _)
  have hunpacked : ∀ s : Sign, (finite b).unpacked.compare (.infinity s) = some (if s == .negative then .gt else .lt) ∧
      (UnpackedFloat.infinity s).compare (finite b).unpacked = some (if s == .negative then .lt else .gt) := by
    intro s
    by_cases hbm : b.mantissa = 0
    · rw [unpacked_zero hbm]
      cases s <;> exact ⟨rfl, rfl⟩
    · rw [unpacked_finite hbm]
      cases s <;> exact ⟨rfl, rfl⟩
  cases negative with
  | true =>
    refine ⟨(hunpacked .negative).1.trans (congrArg some ?_), (hunpacked .negative).2.trans (congrArg some ?_)⟩
    · exact ((cmp_eq_gt_iff _ _).mpr hbot).symm
    · exact ((cmp_eq_lt_iff _ _).mpr hbot).symm
  | false =>
    refine ⟨(hunpacked .positive).1.trans (congrArg some ?_), (hunpacked .positive).2.trans (congrArg some ?_)⟩
    · exact ((cmp_eq_lt_iff _ _).mpr htop).symm
    · exact ((cmp_eq_gt_iff _ _).mpr htop).symm

/-- **Fractions are compared by what they are worth.** -/
theorem compare_unpack (x y : Float) :
    x.toModel.unpack.compare y.toModel.unpack = between (worth x) (worth y) := by
  rw [unpack_eq, unpack_eq, worth, worth]
  cases hx : decode x with
  | notANumber => rfl
  | infinite negative =>
    cases hy : decode y with
    | notANumber => cases negative <;> rfl
    | infinite other => cases negative <;> cases other <;> decide
    | finite c => exact (compare_unpacked_infinite negative c).2
  | finite b =>
    cases hy : decode y with
    | notANumber =>
      rw [unpacked]
      split <;> rfl
    | infinite other => exact (compare_unpacked_infinite other b).1
    | finite c =>
      rw [compare_unpacked_finite (canonical_of_decode hx) (canonical_of_decode hy)]
      exact congrArg some (coe_strictMono.cmp_map_eq b.worth c.worth).symm

theorem lt_iff (x y : Float) : x < y ↔ between (worth x) (worth y) = some .lt := by
  rw [← compare_unpack, ← beq_iff_eq]
  exact decide_eq_true_iff

theorem beq_iff (x y : Float) : (x == y) = true ↔ between (worth x) (worth y) = some .eq := by
  rw [← compare_unpack]
  exact beq_iff_eq (a := x.toModel.unpack.compare y.toModel.unpack)

theorem le_iff (x y : Float) :
    x ≤ y ↔ between (worth x) (worth y) = some .lt ∨ between (worth x) (worth y) = some .eq := by
  rw [← compare_unpack]
  refine Iff.trans (b := (x.toModel.unpack.compare y.toModel.unpack).any (·.isLE) = true) decide_eq_true_iff ?_
  rcases x.toModel.unpack.compare y.toModel.unpack with _ | o
  · simp
  · cases o <;> simp

theorem numerator_mul (b : Binary) : b.numerator * 2 ^ (1074 - (-b.exponent).toNat) = b.units := by
  have hsum : b.exponent.toNat + (1074 - (-b.exponent).toNat) = (b.exponent + 1074).toNat := by omega
  rw [numerator, pow_eq, units, mul_assoc, ← pow_add, hsum]

theorem denominator_mul {k : ℕ} (hk : (-b.exponent).toNat ≤ k) :
    b.denominator * 2 ^ (k - (-b.exponent).toNat) = 2 ^ k := by
  rw [denominator, Nat.pow_eq, ← Nat.pow_add, Nat.add_sub_cancel' hk]

theorem compare_numerator (hb : b.Canonical) (i : ℤ) :
    compare (i * b.denominator) (if b.negative then -(b.numerator : ℤ) else b.numerator) = cmp (i * 2 ^ 1074) b.worth := by
  -- both sides are multiplied by what makes the denominator `2 ^ 1074`; it is named so that no power is computed
  obtain ⟨k, hk⟩ : ∃ k : ℕ, k = 2 ^ (1074 - (-b.exponent).toNat) := ⟨_, rfl⟩
  have hkpos : (0 : ℤ) < k := by
    rw [hk]
    exact Int.natCast_pos.mpr (Nat.two_pow_pos _)
  have hscale : StrictMono fun n : ℤ => n * k := fun m n h => Int.mul_lt_mul_of_pos_right h hkpos
  have hnumerator : (b.numerator : ℤ) * k = b.units := by
    rw [hk, ← numerator_mul, Nat.cast_mul]
  have hdenominator : (b.denominator : ℤ) * k = 2 ^ 1074 := by
    have hexponent := hb.exponent_ge
    rw [hk, ← Nat.cast_mul, denominator_mul (by omega), Nat.cast_pow]
    rfl
  have hscaled := hscale.cmp_map_eq (i * b.denominator) (if b.negative then -(b.numerator : ℤ) else b.numerator)
  rw [← cmp_eq_compare, ← hscaled]
  simp only [mul_assoc, hdenominator, Binary.worth]
  split
  · rw [neg_mul, hnumerator]
  · rw [hnumerator]

/-- **A whole number and a fraction are compared by what they are worth.** -/
theorem compareInt_eq (i : ℤ) (x : Float) : compareInt i x = between (some (worthOfInt i)) (worth x) := by
  unfold compareInt worth
  cases hx : decode x with
  | notANumber => rfl
  | infinite negative =>
    have hbot : (⊥ : EInt) < worthOfInt i := bot_lt_iff_ne_bot.mpr (coe_ne_bot _)
    have htop : worthOfInt i < ⊤ := lt_top_iff_ne_top.mpr (coe_ne_top _)
    cases negative with
    | true => exact congrArg some ((cmp_eq_gt_iff _ _).mpr hbot).symm
    | false => exact congrArg some ((cmp_eq_lt_iff _ _).mpr htop).symm
  | finite b =>
    simp only
    rw [compare_numerator (canonical_of_decode hx)]
    exact congrArg some (coe_strictMono.cmp_map_eq _ _).symm

end RemoteSensing.Decimal
