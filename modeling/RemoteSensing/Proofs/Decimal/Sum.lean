import RemoteSensing.Proofs.Decimal.Nearest

/-!
Sums and differences that need no rounding.
-/

namespace RemoteSensing.Decimal

open Nat Float.Model Float.Model.UnpackedFloat

theorem exists_decode (negative : Bool) {m : ℕ} {e : ℤ} (hm : m < 2 ^ 53) (hlow : -1074 ≤ e) (hhigh : e ≤ 971)
    (hleading : e = -1074 ∨ 2 ^ 52 ≤ m) : ∃ x n, decode x = .finite ⟨negative, m, e, n⟩ := by
  obtain ⟨k, hk⟩ : ∃ k : ℕ, k = if m < 2 ^ 52 then m else (e + 1075).toNat * 2 ^ 52 + (m - 2 ^ 52) := ⟨_, rfl⟩
  have hklt : k < 2 ^ 63 - 2 ^ 52 := by
    rw [hk]
    split <;> omega
  obtain ⟨u, hu⟩ : ∃ u : UInt64, u = (if negative then k + 2 ^ 63 else k).toUInt64 := ⟨_, rfl⟩
  have huNat : u.toNat = if negative then k + 2 ^ 63 else k := by
    rw [hu, toUInt64_eq, UInt64.toNat_ofNat']
    cases negative <;> simp only [Bool.false_eq_true, if_true, if_false] <;> omega
  have hsign : decide (2 ^ 63 ≤ u.toNat) = negative := by
    rw [huNat]
    cases negative <;> simp only [Bool.false_eq_true, if_true, if_false, decide_eq_true_iff, decide_eq_false_iff_not] <;> omega
  have hfield : u.toNat / 2 ^ 52 % 2 ^ 11 = k / 2 ^ 52 := by
    rw [huNat]
    split <;> omega
  have hfraction : u.toNat % 2 ^ 52 = k % 2 ^ 52 := by
    rw [huNat]
    split <;> omega
  have hdecode := toBits_ofBits (u := u) (by rw [hfield]; omega)
  by_cases hsmall : m < 2 ^ 52
  · rw [if_pos hsmall] at hk
    refine ⟨Float.ofBits u, false, ?_⟩
    rw [decode, hdecode]
    simp only [pow_eq, hsign, hfield, hfraction]
    rw [if_neg (by omega), if_pos (by omega), hk, mod_eq_of_lt hsmall, hleading.resolve_right (by omega)]
  · rw [if_neg hsmall] at hk
    refine ⟨Float.ofBits u, k % 2 ^ 52 == 0 && k / 2 ^ 52 != 1, ?_⟩
    rw [decode, hdecode]
    simp only [pow_eq, hsign, hfield, hfraction]
    have hexponent : ((k / 2 ^ 52 : ℕ) : ℤ) - 1075 = e := by omega
    have hmantissa : 2 ^ 52 + k % 2 ^ 52 = m := by omega
    rw [if_neg (by omega), if_neg (by omega), hexponent, hmantissa]

theorem shiftToTargetExponent_exact {m : ℕ} {e : ℤ} (hm : m < 2 ^ 53) (he : -1074 ≤ e) :
    shiftToTargetExponent Format.binary64 m e .exact = (⟨m, false, false⟩, e) := by
  have hlog : m.log2 ≤ 52 := by
    by_cases h : m = 0
    · simp [h]
    · have := (log2_lt h).mpr hm
      omega
  have hmax : (max ((m.log2 : ℤ) + 1 + e - 53) (-1074) - e).toNat = 0 := by omega
  have htarget : (Format.binary64.targetExponent (totalExponent m e) - e).toNat = 0 := hmax
  simp only [shiftToTargetExponent, shiftToExponent, htarget]
  exact Prod.ext rfl (by simp)

theorem round_exact (s : Sign) {m : ℕ} {e : ℤ} (hpos : m ≠ 0) (hm : m < 2 ^ 53) (he : -1074 ≤ e) :
    ∃ k : ℕ, ∃ h : 0 < m * 2 ^ k, UnpackedFloat.round Format.binary64 s m e =
      .finite s (m * 2 ^ k) (e - k) h ∧ m * 2 ^ k < 2 ^ 53 ∧
      -1074 ≤ e - k ∧ (e - k = -1074 ∨ 2 ^ 52 ≤ m * 2 ^ k) := by
  obtain ⟨k, hk⟩ : ∃ k : ℕ, k = (e - max ((m.log2 : ℤ) + 1 + e - 53) (-1074)).toNat := ⟨_, rfl⟩
  have hlog : m.log2 < 53 := (Nat.log2_lt hpos).mpr hm
  have hlow := Nat.log2_self_le hpos
  have hhigh := Nat.lt_log2_self (n := m)
  have hshort : m * 2 ^ k < 2 ^ 53 :=
    calc m * 2 ^ k < 2 ^ (m.log2 + 1) * 2 ^ k := Nat.mul_lt_mul_of_pos_right hhigh (Nat.two_pow_pos k)
      _ = 2 ^ (m.log2 + 1 + k) := (Nat.pow_add _ _ _).symm
      _ ≤ 2 ^ 53 := Nat.pow_le_pow_right (by decide) (by omega)
  have hleading : e - k = -1074 ∨ 2 ^ 52 ≤ m * 2 ^ k := by
    by_cases h : e - k = -1074
    · exact .inl h
    · have hsum : 52 = m.log2 + k := by omega
      rw [hsum, Nat.pow_add]
      exact .inr (Nat.mul_le_mul_right _ hlow)
  have hpositive : 0 < m * 2 ^ k := Nat.mul_pos (Nat.pos_of_ne_zero hpos) (Nat.two_pow_pos k)
  refine ⟨k, hpositive, ?_, hshort, by omega, hleading⟩
  have hshift : decreaseExponent m e (Format.binary64.targetExponent (totalExponent m e)) = (m * 2 ^ k, e - k) := by
    show (m <<< (e - max ((m.log2 : ℤ) + 1 + e - 53) (-1074)).toNat,
        e - ((e - max ((m.log2 : ℤ) + 1 + e - 53) (-1074)).toNat : ℤ)) = _
    rw [← hk, Nat.shiftLeft_eq]
  have hexact := shiftToTargetExponent_exact hshort (show -1074 ≤ e - k by omega)
  unfold UnpackedFloat.round
  simp only [hshift]
  unfold roundWithAccuracy
  have hrounded : (Float.Model.UnpackedFloat.ExtendedMantissa.mk (m * 2 ^ k) false false).roundedMantissa = m * 2 ^ k := rfl
  simp only [hrounded, hexact]
  rw [dif_neg hpositive.ne']

theorem decode_pack {x : Float} {b : Binary} {u : UnpackedFloat} (h : decode x = .finite b)
    (hu : u = (Decoded.finite b).unpacked) : decode (Float.ofModel (Float.Model.pack u)) = .finite b := by
  rw [hu, ← h, ← unpack_eq, ofModel_pack_unpack]

theorem decode_normalize {s e : ℤ} (hs : s.natAbs < 2 ^ 53) (hlow : -1074 ≤ e) (hhigh : e ≤ 971) :
    ∃ b, decode (Float.ofModel (Float.Model.pack (normalize Format.binary64 s e .positive))) = .finite b ∧
      b.worth = s * 2 ^ (e + 1074).toNat := by
  by_cases hzero : s = 0
  · obtain ⟨x, n, hx⟩ := exists_decode false (m := 0) (e := -1074) (by decide) (by decide) (by decide) (.inl rfl)
    refine ⟨_, decode_pack hx ?_, ?_⟩
    · rw [unpacked_zero rfl, hzero]
      rfl
    · rw [Binary.worth_eq_zero rfl, hzero, zero_mul]
  obtain ⟨k, hpos, hround, hshort, hexponent, hleading⟩ :=
    round_exact (signOf (decide (s < 0))) (Int.natAbs_ne_zero.mpr hzero) hs hlow
  obtain ⟨x, n, hx⟩ := exists_decode (decide (s < 0)) hshort hexponent (by omega) hleading
  refine ⟨_, decode_pack hx ?_, ?_⟩
  · rw [unpacked_finite hpos.ne', ← hround]
    unfold UnpackedFloat.normalize
    rcases lt_or_gt_of_ne hzero with h | h
    · rw [compare_lt_iff_lt.mpr h, decide_eq_true h, show s.natAbs = (-s).toNat by omega]
      rfl
    · rw [compare_gt_iff_gt.mpr h, decide_eq_false (by omega), show s.natAbs = s.toNat by omega]
      rfl
  · have hunits : s.natAbs * 2 ^ k * 2 ^ (e - k + 1074).toNat = s.natAbs * 2 ^ (e + 1074).toNat := by
      rw [mul_assoc, ← pow_add, show k + (e - k + 1074).toNat = (e + 1074).toNat by omega]
    rw [Binary.worth, Binary.units, hunits, cast_mul, cast_pow]
    rcases lt_or_gt_of_ne hzero with h | h
    · rw [if_pos (decide_eq_true h), ← neg_mul, show -(s.natAbs : ℤ) = s by omega]
      rfl
    · rw [if_neg (by simpa using h.le), show (s.natAbs : ℤ) = s by omega]
      rfl

section Sums

variable {x y : Float} {b c : Binary}

def Binary.mantissaAt (b : Binary) (e : ℤ) : ℤ := (signOf b.negative).apply (b.mantissa <<< (b.exponent - e).toNat : ℕ)

theorem Binary.mantissaAt_mul {e : ℤ} (hlow : -1074 ≤ e) (he : e ≤ b.exponent) :
    b.mantissaAt e * 2 ^ (e + 1074).toNat = b.worth := by
  have hunits : ((b.mantissa <<< (b.exponent - e).toNat : ℕ) : ℤ) * 2 ^ (e + 1074).toNat = b.units := by
    have hnat : b.mantissa <<< (b.exponent - e).toNat * 2 ^ (e + 1074).toNat = b.units := by
      rw [shiftLeft_eq, mul_assoc, ← pow_add,
        show (b.exponent - e).toNat + (e + 1074).toNat = (b.exponent + 1074).toNat by omega, Binary.units]
    exact_mod_cast hnat
  rw [mantissaAt, worth, ← hunits]
  cases b.negative with
  | true => exact neg_mul _ _
  | false => rfl

def Short (n e : ℤ) : Prop := n.natAbs < 2 ^ 53 * 2 ^ (e + 1074).toNat

theorem natAbs_lt_of_short {s n e : ℤ} (h : s * 2 ^ (e + 1074).toNat = n) (hn : Short n e) : s.natAbs < 2 ^ 53 := by
  rw [Short, ← h, Int.natAbs_mul, Int.natAbs_pow] at hn
  exact Nat.lt_of_mul_lt_mul_right hn

variable (hx : decode x = .finite b) (hy : decode y = .finite c)
include hx hy

theorem decode_combined (z : ℤ) (f : ℤ → ℤ → ℤ) (hf : ∀ i j k : ℤ, f i j * k = f (i * k) (j * k))
    (hz : z = f (b.mantissaAt (min b.exponent c.exponent)) (c.mantissaAt (min b.exponent c.exponent)))
    (h : Short (f b.worth c.worth) (min b.exponent c.exponent)) :
    ∃ d, decode (Float.ofModel (Float.Model.pack (normalize Format.binary64 z (min b.exponent c.exponent) .positive))) =
      .finite d ∧ d.worth = f b.worth c.worth := by
  have hlow : -1074 ≤ min b.exponent c.exponent :=
    le_min (canonical_of_decode hx).exponent_ge (canonical_of_decode hy).exponent_ge
  have hhigh : min b.exponent c.exponent ≤ 971 := (min_le_left _ _).trans (exponent_le_of_decode hx)
  have hvalue : z * 2 ^ (min b.exponent c.exponent + 1074).toNat = f b.worth c.worth := by
    rw [hz, hf, Binary.mantissaAt_mul hlow (min_le_left _ _), Binary.mantissaAt_mul hlow (min_le_right _ _)]
  rw [← hvalue]
  exact decode_normalize (natAbs_lt_of_short hvalue h) hlow hhigh

variable (hb : b.mantissa ≠ 0) (hc : c.mantissa ≠ 0)
include hb hc

/-- **A sum that needs no rounding** is worth what its parts are worth together. -/
theorem worth_add (h : Short (b.worth + c.worth) (min b.exponent c.exponent)) :
    ∃ d, decode (x.add y) = .finite d ∧ d.worth = b.worth + c.worth := by
  show ∃ d, decode (Float.ofModel (Float.Model.pack (UnpackedFloat.add Format.binary64 x.toModel.unpack y.toModel.unpack))) = _ ∧ _
  rw [unpack_eq, unpack_eq, hx, hy, unpacked_finite hb, unpacked_finite hc]
  exact decode_combined hx hy _ (· + ·) add_mul rfl h

/-- **A difference that needs no rounding.** -/
theorem worth_sub (h : Short (b.worth - c.worth) (min b.exponent c.exponent)) :
    ∃ d, decode (x.sub y) = .finite d ∧ d.worth = b.worth - c.worth := by
  show ∃ d, decode (Float.ofModel (Float.Model.pack (UnpackedFloat.sub Format.binary64 x.toModel.unpack y.toModel.unpack))) = _ ∧ _
  rw [unpack_eq, unpack_eq, hx, hy, unpacked_finite hb, unpacked_finite hc]
  exact decode_combined hx hy _ (· - ·) sub_mul rfl h

end Sums

end RemoteSensing.Decimal
