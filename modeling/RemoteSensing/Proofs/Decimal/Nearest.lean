import RemoteSensing.Proofs.Decimal.Order

/-!
Reading a decimal. The numbers that round to a floating-point number are an interval; whatever decimal lies in it is read
as that number.
-/

namespace RemoteSensing.Decimal

open Nat Float.Model Float.Model.UnpackedFloat

theorem toBits_ofBits {u : UInt64} (h : u.toNat / 2 ^ 52 % 2 ^ 11 ≠ 2047) : (Float.ofBits u).toBits = u := by
  have hfield := toNat_unpackExponent u.toBitVec
  have hpack := @UnpackedFloat.pack_unpack Format.binary64 u.toBitVec
  have hnumber : @UnpackedFloat.isNaNBits Format.binary64 u.toBitVec = false := by
    rw [UnpackedFloat.isNaNBits, decide_eq_false_iff_not]
    rintro ⟨htop, -⟩
    apply h
    rw [htop] at hfield
    exact hfield.symm
  rw [hnumber, if_neg Bool.false_ne_true] at hpack
  exact UInt64.toBitVec_inj.mp hpack

theorem ofModel_pack_unpack (x : Float) : Float.ofModel (Float.Model.pack x.toModel.unpack) = x := by
  obtain ⟨⟨bits, hvalid⟩⟩ := x
  have hpack := @UnpackedFloat.pack_unpack Format.binary64 bits.toBitVec
  have hbits : UnpackedFloat.pack Format.binary64 (UnpackedFloat.unpack Format.binary64 bits.toBitVec) = bits.toBitVec := by
    rw [hpack]
    split
    · rename_i hnan
      rw [UnpackedFloat.isNaNBits, decide_eq_true_iff] at hnan
      exact (hvalid.eq_packedNaN hnan.1 hnan.2).symm
    · rfl
  simp only [Float.Model.pack, Float.Model.unpack, hbits]

theorem eq_of_unpack {x y : Float} (h : x.toModel.unpack = y.toModel.unpack) : x = y := by
  rw [← ofModel_pack_unpack x, h, ofModel_pack_unpack]

theorem neg_eq_of_unpack {x y : Float} (h : y.toModel.unpack.neg = x.toModel.unpack) : -y = x := by
  have hneg : -y = Float.ofModel (Float.Model.pack y.toModel.unpack.neg) := rfl
  rw [hneg, h, ofModel_pack_unpack]

section Finite

variable {x : Float} {b : Binary}

theorem decode_finite (h : decode x = .finite b) :
    x.toBits.toNat / 2 ^ 52 % 2 ^ 11 ≠ 2047 ∧ b.negative = decide (2 ^ 63 ≤ x.toBits.toNat) ∧
      ((x.toBits.toNat / 2 ^ 52 % 2 ^ 11 = 0 ∧ b.mantissa = x.toBits.toNat % 2 ^ 52 ∧ b.exponent = -1074 ∧ b.narrow = false) ∨
        (x.toBits.toNat / 2 ^ 52 % 2 ^ 11 ≠ 0 ∧ b.mantissa = 2 ^ 52 + x.toBits.toNat % 2 ^ 52 ∧
          b.exponent = ((x.toBits.toNat / 2 ^ 52 % 2 ^ 11 : ℕ) : ℤ) - 1075 ∧
          b.narrow = (x.toBits.toNat % 2 ^ 52 == 0 && x.toBits.toNat / 2 ^ 52 % 2 ^ 11 != 1))) := by
  unfold decode at h
  simp only at h
  split at h
  · split at h <;> cases h
  · rename_i hfinite
    split at h
    · rename_i hzero
      cases h
      exact ⟨hfinite, rfl, Or.inl ⟨hzero, rfl, rfl, rfl⟩⟩
    · rename_i hzero
      cases h
      exact ⟨hfinite, rfl, Or.inr ⟨hzero, rfl, rfl, rfl⟩⟩

theorem narrow_iff_of_decode (h : decode x = .finite b) : b.narrow = true ↔ b.mantissa = 2 ^ 52 ∧ -1074 < b.exponent := by
  obtain ⟨-, -, ⟨-, -, hexponent, hnarrow⟩ | ⟨hfield, hmantissa, hexponent, hnarrow⟩⟩ := decode_finite h
  · rw [hnarrow, hexponent]
    simp
  · rw [hnarrow, hmantissa, hexponent, Bool.and_eq_true, beq_iff_eq, bne_iff_ne]
    omega

theorem exponent_le_of_decode (h : decode x = .finite b) : b.exponent ≤ 971 := by
  obtain ⟨hfinite, -, ⟨-, -, hexponent, -⟩ | ⟨-, -, hexponent, -⟩⟩ := decode_finite h
  · omega
  · omega

theorem assemble_eq_of_decode (h : decode x = .finite b) :
    assemble? b.mantissa b.exponent = some (Float.ofBits (x.toBits.toNat % 2 ^ 63).toUInt64) := by
  have hle := exponent_le_of_decode h
  rw [assemble?, if_neg (by omega), pow_eq]
  obtain ⟨-, -, ⟨hfield, hmantissa, -, -⟩ | ⟨-, hmantissa, hexponent, -⟩⟩ := decode_finite h
  · have hsame : b.mantissa = x.toBits.toNat % 2 ^ 63 := by omega
    rw [if_pos (by omega), hsame]
  · have hsame : (b.exponent + 1075).toNat * 2 ^ 52 + (b.mantissa - 2 ^ 52) = x.toBits.toNat % 2 ^ 63 := by omega
    rw [if_neg (by omega)]
    simp only [hsame]

theorem decode_unsigned (h : decode x = .finite b) :
    decode (Float.ofBits (x.toBits.toNat % 2 ^ 63).toUInt64) = .finite { b with negative := false } := by
  obtain ⟨u, hu⟩ : ∃ u : UInt64, u = (x.toBits.toNat % 2 ^ 63).toUInt64 := ⟨_, rfl⟩
  have huNat : u.toNat = x.toBits.toNat % 2 ^ 63 := by
    rw [hu, toUInt64_eq, UInt64.toNat_ofNat']
    omega
  have hfield : u.toNat / 2 ^ 52 % 2 ^ 11 = x.toBits.toNat / 2 ^ 52 % 2 ^ 11 := by omega
  have hfraction : u.toNat % 2 ^ 52 = x.toBits.toNat % 2 ^ 52 := by omega
  have hpositive : decide (2 ^ 63 ≤ u.toNat) = false := by
    rw [decide_eq_false_iff_not]
    omega
  obtain ⟨hfinite, -, hparts⟩ := decode_finite h
  rw [← hu, decode, toBits_ofBits (by rw [hfield]; exact hfinite), pow_eq, pow_eq, pow_eq, hfield,
    hfraction, hpositive]
  obtain ⟨hzero, hmantissa, hexponent, hnarrow⟩ | ⟨hzero, hmantissa, hexponent, hnarrow⟩ := hparts
  · simp only [if_neg hfinite, if_pos hzero, hmantissa, hexponent, hnarrow]
  · simp only [if_neg hfinite, if_neg hzero, hmantissa, hexponent, hnarrow]

theorem assemble_of_decode (h : decode x = .finite b) :
    ∃ y, assemble? b.mantissa b.exponent = some y ∧ (if b.negative then -y else y) = x := by
  refine ⟨_, assemble_eq_of_decode h, ?_⟩
  have hunsigned := decode_unsigned h
  obtain ⟨y, hy⟩ : ∃ y, y = Float.ofBits (x.toBits.toNat % 2 ^ 63).toUInt64 := ⟨_, rfl⟩
  cases hn : b.negative with
  | false =>
    rw [if_neg Bool.false_ne_true]
    apply eq_of_unpack
    rw [unpack_eq, unpack_eq, hunsigned, h, ← hn]
  | true =>
    apply neg_eq_of_unpack
    rw [unpack_eq, unpack_eq, hunsigned, h]
    by_cases hm : b.mantissa = 0
    · rw [unpacked_zero hm, unpacked_zero (b := { b with negative := false }) hm, hn]
      rfl
    · rw [unpacked_finite hm, unpacked_finite (b := { b with negative := false }) hm, hn]
      rfl

end Finite

theorem zpow_eq_div (a : ℕ) (e : ℤ) : (a : ℚ) ^ e = ((a ^ e.toNat : ℕ) : ℚ) / ((a ^ (-e).toNat : ℕ) : ℚ) := by
  obtain ⟨n, rfl | rfl⟩ := e.eq_nat_or_neg
  · simp
  · simp

def Binary.value (b : Binary) : ℚ := b.mantissa * 2 ^ b.exponent

/-- The values that are rounded to a number. -/
structure Binary.Rounds (b : Binary) (v : ℚ) : Prop where
  low_le : (b.mantissa - if b.narrow then 1 / 4 else 1 / 2) * 2 ^ b.exponent ≤ v
  le_high : v ≤ (b.mantissa + 1 / 2) * 2 ^ b.exponent
  odd : b.mantissa % 2 = 1 →
    (b.mantissa - if b.narrow then 1 / 4 else 1 / 2) * 2 ^ b.exponent < v ∧ v < (b.mantissa + 1 / 2) * 2 ^ b.exponent

theorem pow_width_le {n : ℕ} (h : n ≠ 0) : 10 ^ (width n - 1) ≤ n := by
  by_contra hlt
  have hpos : 0 < width n := length_toDigits_pos
  by_cases hone : width n = 1
  · rw [hone] at hlt
    omega
  · have hle : width n ≤ width n - 1 := (length_toDigits_le_iff (by decide) (by omega)).mpr (by omega)
    omega

theorem lt_pow_width (n : ℕ) : n < 10 ^ width n :=
  (length_toDigits_le_iff (by decide) length_toDigits_pos).mp le_rfl

theorem decimal_bounds {digits : ℕ} (h : digits ≠ 0) (exponent : ℤ) :
    (10 : ℚ) ^ (exponent + width digits - 1) ≤ digits * 10 ^ exponent ∧
      (digits : ℚ) * 10 ^ exponent < 10 ^ (exponent + width digits) := by
  have hwidth : 0 < width digits := length_toDigits_pos
  constructor
  · have hle : (10 : ℚ) ^ (width digits - 1) ≤ digits := by exact_mod_cast pow_width_le h
    have hsplit : (10 : ℚ) ^ (exponent + width digits - 1) = 10 ^ (width digits - 1) * 10 ^ exponent := by
      rw [← zpow_natCast, ← zpow_add₀ (by norm_num)]
      congr 1
      omega
    rw [hsplit]
    gcongr
  · have hlt : (digits : ℚ) < 10 ^ width digits := by exact_mod_cast lt_pow_width digits
    have hsplit : (10 : ℚ) ^ (exponent + width digits) = 10 ^ width digits * 10 ^ exponent := by
      rw [← zpow_natCast, ← zpow_add₀ (by norm_num), add_comm]
    rw [hsplit]
    gcongr

theorem roundDiv_eq {num den m : ℕ} (hden : 0 < den) (hlow : (m : ℚ) - 1 / 2 ≤ num / den) (hhigh : (num : ℚ) / den ≤ m + 1 / 2)
    (hodd : m % 2 = 1 → (m : ℚ) - 1 / 2 < num / den ∧ (num : ℚ) / den < m + 1 / 2) : roundDiv num den = m := by
  have hdenQ : (0 : ℚ) < den := by exact_mod_cast hden
  -- the bounds without fractions, for the product of `m` and `den`
  have hlowN : 2 * (m * den) ≤ 2 * num + den := by
    rw [le_div_iff₀ hdenQ] at hlow
    have hle : 2 * ((m : ℚ) * den) ≤ 2 * num + den := by linarith
    exact_mod_cast hle
  have hhighN : 2 * num ≤ 2 * (m * den) + den := by
    rw [div_le_iff₀ hdenQ] at hhigh
    have hle : 2 * (num : ℚ) ≤ 2 * (m * den) + den := by linarith
    exact_mod_cast hle
  have hoddN : m % 2 = 1 → 2 * (m * den) < 2 * num + den ∧ 2 * num < 2 * (m * den) + den := by
    intro hm
    obtain ⟨hl, hh⟩ := hodd hm
    rw [lt_div_iff₀ hdenQ] at hl
    rw [div_lt_iff₀ hdenQ] at hh
    have hll : 2 * ((m : ℚ) * den) < 2 * num + den := by linarith
    have hhh : 2 * (num : ℚ) < 2 * (m * den) + den := by linarith
    exact ⟨by exact_mod_cast hll, by exact_mod_cast hhh⟩
  have hsplit := div_add_mod num den
  have hlt := mod_lt num hden
  rw [mul_comm] at hsplit
  -- `m` is the quotient or one more, since it is at most half a unit away
  have hnotBelow : num / den ≤ m := by
    by_contra hcon
    have hmul : (m + 1) * den ≤ num / den * den := mul_le_mul_right den (by omega)
    rw [succ_mul] at hmul
    omega
  have hnotAbove : m ≤ num / den + 1 := by
    by_contra hcon
    have hmul : (num / den + 1 + 1) * den ≤ m * den := mul_le_mul_right den (by omega)
    rw [succ_mul, succ_mul] at hmul
    omega
  unfold roundDiv
  simp only
  rcases (by omega : m = num / den ∨ m = num / den + 1) with heq | heq
  · rw [← heq] at hsplit ⊢
    split
    · rfl
    · split
      · omega
      · split
        · rfl
        · omega
  · have hmul : m * den = num / den * den + den := by rw [heq, succ_mul]
    split
    · omega
    · split
      · exact heq.symm
      · split
        · omega
        · exact heq.symm

theorem scaled_eq (num den : ℕ) (e : ℤ) :
    ((num * 2 ^ (-e).toNat : ℕ) : ℚ) / ((den * 2 ^ e.toNat : ℕ) : ℚ) = num / den / 2 ^ e := by
  have h := zpow_eq_div 2 e
  rw [cast_ofNat] at h
  rw [h, cast_mul, cast_mul, div_div_eq_mul_div, div_mul_eq_mul_div, div_div]

theorem targetExponent_spec {num den : ℕ} (hnum : num ≠ 0) (hden : den ≠ 0) :
    -1074 ≤ targetExponent num den ∧ (num : ℚ) / den < 2 ^ (targetExponent num den + 53) ∧
      (targetExponent num den = -1074 ∨ (2 : ℚ) ^ (targetExponent num den + 52) ≤ num / den) := by
  have hdenQ : (0 : ℚ) < den := by exact_mod_cast pos_of_ne_zero hden
  obtain ⟨g, hg⟩ : ∃ g : ℤ, g = (num.log2 : ℤ) - den.log2 := ⟨_, rfl⟩
  have hnumLow : (2 : ℚ) ^ num.log2 ≤ num := by exact_mod_cast log2_self_le hnum
  have hnumHigh : (num : ℚ) < 2 ^ (num.log2 + 1) := by exact_mod_cast lt_log2_self
  have hdenLow : (2 : ℚ) ^ den.log2 ≤ den := by exact_mod_cast log2_self_le hden
  have hdenHigh : (den : ℚ) < 2 ^ (den.log2 + 1) := by exact_mod_cast lt_log2_self
  have hguessLow : (2 : ℚ) ^ (g - 1) ≤ num / den := by
    rw [le_div_iff₀ hdenQ]
    calc (2 : ℚ) ^ (g - 1) * den ≤ 2 ^ (g - 1) * 2 ^ (den.log2 + 1) := by gcongr
      _ = 2 ^ num.log2 := by
        rw [← zpow_natCast, ← zpow_natCast, ← zpow_add₀ (by norm_num)]
        congr 1
        omega
      _ ≤ num := hnumLow
  have hguessHigh : (num : ℚ) / den < 2 ^ (g + 1) := by
    rw [div_lt_iff₀ hdenQ]
    calc (num : ℚ) < 2 ^ (num.log2 + 1) := hnumHigh
      _ = 2 ^ (g + 1) * 2 ^ den.log2 := by
        rw [← zpow_natCast, ← zpow_natCast, ← zpow_add₀ (by norm_num)]
        congr 1
        omega
      _ ≤ 2 ^ (g + 1) * den := by gcongr
  have habove : den * 2 ^ g.toNat ≤ num * 2 ^ (-g).toNat ↔ (2 : ℚ) ^ g ≤ num / den := by
    have hpos : (0 : ℚ) < ((den * 2 ^ g.toNat : ℕ) : ℚ) := by positivity
    rw [← one_le_div₀ (by positivity : (0 : ℚ) < 2 ^ g), ← scaled_eq, one_le_div₀ hpos, cast_le]
  -- the guess, or one less, is the exponent of the leading binary digit
  obtain ⟨t, ht⟩ : ∃ t : ℤ, t = if den * 2 ^ g.toNat ≤ num * 2 ^ (-g).toNat then g else g - 1 := ⟨_, rfl⟩
  have hleading : (2 : ℚ) ^ t ≤ num / den ∧ (num : ℚ) / den < 2 ^ (t + 1) := by
    by_cases h : den * 2 ^ g.toNat ≤ num * 2 ^ (-g).toNat
    · rw [if_pos h] at ht
      rw [ht]
      exact ⟨habove.mp h, hguessHigh⟩
    · rw [if_neg h] at ht
      rw [habove, not_le] at h
      rw [ht, sub_add_cancel]
      exact ⟨hguessLow, h⟩
  have htarget : targetExponent num den = max (t - 52) (-1074) := by
    rw [targetExponent, ht, hg]
    rfl
  rw [htarget]
  refine ⟨le_max_right _ _, ?_, ?_⟩
  · apply hleading.2.trans_le
    apply zpow_le_zpow_right₀ (by norm_num)
    omega
  · by_cases hmax : t - 52 ≤ -1074
    · left
      omega
    · right
      rw [max_eq_left (by omega), sub_add_cancel]
      exact hleading.1

section Reading

variable {b : Binary}

theorem Binary.Rounds.near {v : ℚ} (h : b.Rounds v) :
    (b.mantissa : ℚ) - 1 / 2 ≤ v / 2 ^ b.exponent ∧ v / 2 ^ b.exponent ≤ b.mantissa + 1 / 2 ∧
      (b.mantissa % 2 = 1 → (b.mantissa : ℚ) - 1 / 2 < v / 2 ^ b.exponent ∧ v / 2 ^ b.exponent < b.mantissa + 1 / 2) := by
  have hpos : (0 : ℚ) < 2 ^ b.exponent := by positivity
  have hgap : (b.mantissa : ℚ) - 1 / 2 ≤ b.mantissa - if b.narrow then 1 / 4 else 1 / 2 := by
    apply sub_le_sub_left
    split <;> norm_num
  refine ⟨hgap.trans ((le_div_iff₀ hpos).mpr h.low_le), (div_le_iff₀ hpos).mpr h.le_high, ?_⟩
  intro hodd
  obtain ⟨hlow, hhigh⟩ := h.odd hodd
  exact ⟨hgap.trans_lt ((lt_div_iff₀ hpos).mpr hlow), (div_lt_iff₀ hpos).mpr hhigh⟩

theorem Binary.Rounds.bounds (hb : b.Canonical) (hm : b.mantissa ≠ 0) {v : ℚ} (h : b.Rounds v) :
    (2 : ℚ) ^ (-1075 : ℤ) ≤ v ∧ v < 2 ^ (b.exponent + 53) := by
  have hpos : (0 : ℚ) < 2 ^ b.exponent := by positivity
  obtain ⟨hlow, hhigh, -⟩ := h.near
  have hone : (1 : ℚ) ≤ b.mantissa := by exact_mod_cast one_le_iff_ne_zero.mpr hm
  have hlt : (b.mantissa : ℚ) + 1 ≤ 2 ^ 53 := by exact_mod_cast hb.mantissa_lt
  constructor
  · have hhalf : (1 / 2 : ℚ) ≤ v / 2 ^ b.exponent := by linarith
    rw [le_div_iff₀ hpos] at hhalf
    calc (2 : ℚ) ^ (-1075 : ℤ) = 1 / 2 * 2 ^ (-1074 : ℤ) := by
          rw [show (-1075 : ℤ) = -1 + -1074 from rfl, zpow_add₀ (by norm_num)]
          norm_num
      _ ≤ 1 / 2 * 2 ^ b.exponent := by
          gcongr
          · norm_num
          · exact hb.exponent_ge
      _ ≤ v := hhalf
  · have hless : v / 2 ^ b.exponent < 2 ^ 53 := by linarith
    rw [div_lt_iff₀ hpos] at hless
    rw [add_comm, zpow_add₀ (by norm_num)]
    exact_mod_cast hless

/-- **A quotient in the interval of a number is rounded to that number.** -/
theorem nearest_of_rounds (hb : b.Canonical) (hm : b.mantissa ≠ 0)
    (hnarrow : b.narrow = true ↔ b.mantissa = 2 ^ 52 ∧ -1074 < b.exponent) {num den : ℕ} (hden : den ≠ 0)
    (h : b.Rounds (num / den)) : nearest? num den = assemble? b.mantissa b.exponent := by
  obtain ⟨hlow, hhigh, hodd⟩ := h.near
  obtain ⟨hleast, hless⟩ := h.bounds hb hm
  have hnum : num ≠ 0 := by
    intro hzero
    rw [hzero, Nat.cast_zero, zero_div] at hleast
    exact absurd hleast (not_le.mpr (by positivity))
  obtain ⟨hge, hbelow, habove⟩ := targetExponent_spec hnum hden
  have hqge := hb.exponent_ge
  have hqpos : (0 : ℚ) < 2 ^ b.exponent := by positivity
  rw [nearest?, if_neg hnum]
  simp only [Nat.pow_eq]
  generalize targetExponent num den = e at hge hbelow habove ⊢
  have hdenPos : 0 < den * 2 ^ e.toNat := Nat.mul_pos (Nat.pos_of_ne_zero hden) (Nat.two_pow_pos _)
  have hle : e ≤ b.exponent := by
    rcases habove with heq | habove
    · omega
    · have hlt := (zpow_lt_zpow_iff_right₀ (by norm_num : (1 : ℚ) < 2)).mp (habove.trans_lt hless)
      omega
  by_cases heq : e = b.exponent
  · -- the value is rounded in the last place of the number
    have hround : roundDiv (num * 2 ^ (-e).toNat) (den * 2 ^ e.toNat) = b.mantissa := by
      apply roundDiv_eq hdenPos
      all_goals rw [scaled_eq, heq]
      · exact hlow
      · exact hhigh
      · exact hodd
    have hmantissa := hb.mantissa_lt
    rw [hround, if_neg (by omega), heq]
  · -- the value lies below a power of two and the number is that power: the last place is half as large
    have hleading : 2 ^ 52 ≤ b.mantissa := hb.leading.resolve_left (by omega)
    have hsmall : (num : ℚ) / den / 2 ^ b.exponent < 2 ^ 52 := by
      rw [div_lt_iff₀ hqpos]
      calc (num : ℚ) / den < 2 ^ (e + 53) := hbelow
        _ ≤ 2 ^ (52 + b.exponent) := zpow_le_zpow_right₀ (by norm_num) (by omega)
        _ = 2 ^ 52 * 2 ^ b.exponent := by
          rw [zpow_add₀ (by norm_num)]
          norm_cast
    have hpower : b.mantissa = 2 ^ 52 := by
      have hlt : (b.mantissa : ℚ) < 2 ^ 52 + 1 := by linarith
      have hltN : b.mantissa < 2 ^ 52 + 1 := by exact_mod_cast hlt
      omega
    have hquarter : (2 : ℚ) ^ 52 - 1 / 4 ≤ num / den / 2 ^ b.exponent := by
      have hlow := h.low_le
      rw [if_pos (hnarrow.mpr ⟨hpower, by omega⟩), hpower] at hlow
      rw [le_div_iff₀ hqpos]
      exact_mod_cast hlow
    have hpred : e = b.exponent - 1 := by
      have hge51 : (2 : ℚ) ^ (51 + b.exponent) ≤ num / den := by
        rw [zpow_add₀ (by norm_num), ← le_div_iff₀ hqpos]
        refine le_trans ?_ hquarter
        norm_num
      have hlt := (zpow_lt_zpow_iff_right₀ (by norm_num : (1 : ℚ) < 2)).mp (hge51.trans_lt hbelow)
      omega
    have htwice : (num : ℚ) / den / 2 ^ e = 2 * (num / den / 2 ^ b.exponent) := by
      rw [hpred, zpow_sub₀ (by norm_num), zpow_one]
      field_simp
    have hround : roundDiv (num * 2 ^ (-e).toNat) (den * 2 ^ e.toNat) = 2 ^ 53 := by
      apply roundDiv_eq hdenPos
      all_goals rw [scaled_eq, htwice]
      · linarith
      · linarith
      · intro hcontra
        omega
    rw [if_pos hround, hpower, hpred, sub_add_cancel]

theorem two_pow_le_ten_pow (n : ℕ) : (2 : ℚ) ^ (3 * n) ≤ 10 ^ n := by
  rw [pow_mul]
  gcongr
  norm_num

/-- **Every decimal in the interval of a number is read as that number.** -/
theorem toFloat_of_rounds {x : Float} (hx : decode x = .finite b) (hm : b.mantissa ≠ 0) {digits : ℕ} {exponent : ℤ}
    (h : b.Rounds (digits * 10 ^ exponent)) :
    (if b.negative then -toFloat digits exponent else toFloat digits exponent) = x := by
  have hb := canonical_of_decode hx
  have hlargest := exponent_le_of_decode hx
  obtain ⟨hleast, hless⟩ := h.bounds hb hm
  have hdigits : digits ≠ 0 := by
    intro hzero
    rw [hzero, Nat.cast_zero, zero_mul] at hleast
    exact absurd hleast (not_le.mpr (by positivity))
  obtain ⟨hten, htenLt⟩ := decimal_bounds hdigits exponent
  -- the two cut-offs are far outside of what any number rounds from
  have hnotSmall : ¬ exponent + width digits < -400 := by
    intro hsmall
    have hlt : (2 : ℚ) ^ (-1075 : ℤ) < 10 ^ (-400 : ℤ) :=
      (hleast.trans_lt htenLt).trans_le (zpow_le_zpow_right₀ (by norm_num) hsmall.le)
    have hge : (10 : ℚ) ^ (-(400 : ℕ) : ℤ) ≤ 2 ^ (-(3 * 400 : ℕ) : ℤ) := by
      exact inv_anti₀ (by positivity) (two_pow_le_ten_pow 400)
    have hcontra := (zpow_lt_zpow_iff_right₀ (by norm_num : (1 : ℚ) < 2)).mp (hlt.trans_le hge)
    omega
  have hnotLarge : ¬ 400 < exponent + width digits := by
    intro hlarge
    have hge : (10 : ℚ) ^ (400 : ℕ) ≤ digits * 10 ^ exponent := by
      refine le_trans ?_ hten
      rw [← zpow_natCast]
      exact zpow_le_zpow_right₀ (by norm_num) (by omega)
    have hlt : (2 : ℚ) ^ (3 * 400) < 2 ^ (b.exponent + 53) := (two_pow_le_ten_pow 400).trans_lt (hge.trans_lt hless)
    rw [← zpow_natCast] at hlt
    have hcontra := (zpow_lt_zpow_iff_right₀ (by norm_num : (1 : ℚ) < 2)).mp hlt
    omega
  have hquotient : ((digits * 10 ^ exponent.toNat : ℕ) : ℚ) / ((10 ^ (-exponent).toNat : ℕ) : ℚ) = digits * 10 ^ exponent := by
    have hpow := zpow_eq_div 10 exponent
    rw [Nat.cast_ofNat] at hpow
    rw [hpow, Nat.cast_mul, mul_div_assoc]
  obtain ⟨y, hy, hsign⟩ := assemble_of_decode hx
  have hnearest : nearest? (digits * 10 ^ exponent.toNat) (10 ^ (-exponent).toNat) = some y := by
    rw [nearest_of_rounds hb hm (narrow_iff_of_decode hx) (Nat.pos_iff_ne_zero.mp (Nat.pow_pos (by decide))), hy]
    rw [hquotient]
    exact h
  have hread : toFloat digits exponent = y := by
    rw [toFloat, if_neg (by simp [hdigits, hnotSmall]), if_neg hnotLarge, Nat.pow_eq, Nat.pow_eq, hnearest, Option.getD_some]
  rw [hread, hsign]

end Reading

end RemoteSensing.Decimal
