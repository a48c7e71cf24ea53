import RemoteSensing.Proofs.Decimal.Nearest

/-!
The fewest digits of a number identify it.
-/

namespace RemoteSensing.Decimal

open Nat

def Digits.value (d : Digits) : ℚ := d.digits * 10 ^ d.exponent

theorem decimalBelow_strict (d : ℕ) (e : ℤ) (n : ℕ) (q : ℤ) :
    decimalBelow true d e n q = true ↔ (d : ℚ) * 10 ^ e < n * 2 ^ q := by
  have hten := zpow_eq_div 10 e
  have htwo := zpow_eq_div 2 q
  rw [cast_ofNat] at hten htwo
  rw [hten, htwo, ← mul_div_assoc, ← mul_div_assoc, div_lt_div_iff₀ (by positivity) (by positivity), decimalBelow,
    if_pos rfl, decide_eq_true_iff]
  exact_mod_cast Iff.rfl

theorem decimalBelow_weak (d : ℕ) (e : ℤ) (n : ℕ) (q : ℤ) :
    decimalBelow false d e n q = true ↔ (d : ℚ) * 10 ^ e ≤ n * 2 ^ q := by
  have hten := zpow_eq_div 10 e
  have htwo := zpow_eq_div 2 q
  rw [cast_ofNat] at hten htwo
  rw [hten, htwo, ← mul_div_assoc, ← mul_div_assoc, div_le_div_iff₀ (by positivity) (by positivity), decimalBelow,
    if_neg Bool.false_ne_true, decide_eq_true_iff]
  exact_mod_cast Iff.rfl

variable {b : Binary}

theorem low_eq (hm : b.mantissa ≠ 0) :
    (((if b.narrow then 4 * b.mantissa - 1 else 4 * b.mantissa - 2 : ℕ)) : ℚ) * 2 ^ (b.exponent - 2) =
      (b.mantissa - if b.narrow then 1 / 4 else 1 / 2) * 2 ^ b.exponent := by
  rw [zpow_sub₀ (by norm_num)]
  by_cases hn : b.narrow = true
  · rw [if_pos hn, if_pos hn, cast_sub (by omega)]
    push_cast
    ring
  · rw [if_neg hn, if_neg hn, cast_sub (by omega)]
    push_cast
    ring

theorem high_eq (b : Binary) :
    ((4 * b.mantissa + 2 : ℕ) : ℚ) * 2 ^ (b.exponent - 2) = (b.mantissa + 1 / 2) * 2 ^ b.exponent := by
  rw [zpow_sub₀ (by norm_num)]
  push_cast
  ring

/-- **The test of the search is whether the decimal is rounded to the number.** -/
theorem identifies_iff (hm : b.mantissa ≠ 0) (d : ℕ) (e : ℤ) : identifies b d e = true ↔ b.Rounds (d * 10 ^ e) := by
  rw [identifies, Bool.and_eq_true, Bool.not_eq_true', ← Bool.not_eq_true]
  by_cases heven : b.mantissa % 2 = 0
  · rw [show (b.mantissa % 2 == 0) = true from beq_iff_eq.mpr heven, Bool.not_true, decimalBelow_weak, decimalBelow_strict,
      not_lt, low_eq hm, high_eq]
    constructor
    · rintro ⟨hhigh, hlow⟩
      exact ⟨hlow, hhigh, fun hodd => by omega⟩
    · intro h
      exact ⟨h.le_high, h.low_le⟩
  · rw [show (b.mantissa % 2 == 0) = false from beq_eq_false_iff_ne.mpr heven, Bool.not_false, decimalBelow_weak,
      decimalBelow_strict, not_le, low_eq hm, high_eq]
    constructor
    · rintro ⟨hhigh, hlow⟩
      exact ⟨hlow.le, hhigh.le, fun _ => ⟨hlow, hhigh⟩⟩
    · intro h
      exact (h.odd (by omega)).symm

theorem value_eq (b : Binary) : b.value = b.numerator / b.denominator := by
  have htwo := zpow_eq_div 2 b.exponent
  rw [cast_ofNat] at htwo
  rw [Binary.value, Binary.numerator, Binary.denominator, pow_eq, pow_eq, htwo, cast_mul, mul_div_assoc]

theorem div_bounds (num den : ℕ) : ((num / den : ℕ) : ℚ) ≤ num / den ∧ (num : ℚ) / den < (num / den : ℕ) + 1 := by
  rw [← floor_div_eq_div (K := ℚ) num den]
  exact ⟨floor_le (by positivity), lt_floor_add_one _⟩

theorem magnitude_spec {num den : ℕ} (hnum : num ≠ 0) (hden : den ≠ 0) : (10 : ℚ) ^ (magnitude num den - 1) ≤ num / den := by
  have hdenQ : (0 : ℚ) < den := by exact_mod_cast pos_of_ne_zero hden
  rw [magnitude]
  by_cases hle : den ≤ num
  · rw [if_pos hle]
    have hne : num / den ≠ 0 := pos_iff_ne_zero.mp (div_pos hle (pos_of_ne_zero hden))
    have hwidth : 0 < width (num / den) := length_toDigits_pos
    have hcast : ((width (num / den) : ℤ) - 1) = ((width (num / den) - 1 : ℕ) : ℤ) := by omega
    calc (10 : ℚ) ^ ((width (num / den) : ℤ) - 1) = ((10 ^ (width (num / den) - 1) : ℕ) : ℚ) := by
          rw [hcast, zpow_natCast, cast_pow, cast_ofNat]
      _ ≤ ((num / den : ℕ) : ℚ) := by exact_mod_cast pow_width_le hne
      _ ≤ num / den := (div_bounds num den).1
  · rw [if_neg hle]
    have hlt : den - 1 < 10 ^ width ((den - 1) / num) * num :=
      (div_lt_iff_lt_mul (pos_of_ne_zero hnum)).mp (lt_pow_width _)
    have hleN : den ≤ 10 ^ width ((den - 1) / num) * num := by omega
    have hleQ : (den : ℚ) ≤ 10 ^ width ((den - 1) / num) * num := by exact_mod_cast hleN
    have hexp : (1 : ℤ) - width ((den - 1) / num) - 1 = -(width ((den - 1) / num) : ℤ) := by omega
    rw [hexp, zpow_neg, zpow_natCast, le_div_iff₀ hdenQ, inv_mul_le_iff₀ (by positivity)]
    exact hleQ

theorem gridFloor_bounds (b : Binary) (g : ℤ) :
    (gridFloor b g : ℚ) * 10 ^ g ≤ b.value ∧ b.value < ((gridFloor b g + 1 : ℕ) : ℚ) * 10 ^ g := by
  have hpos : (0 : ℚ) < 10 ^ g := by positivity
  have hscaled : ((b.numerator * 10 ^ (-g).toNat : ℕ) : ℚ) / ((b.denominator * 10 ^ g.toNat : ℕ) : ℚ) = b.value / 10 ^ g := by
    have hten := zpow_eq_div 10 g
    rw [cast_ofNat] at hten
    rw [hten, value_eq, cast_mul, cast_mul, div_div_eq_mul_div, div_mul_eq_mul_div, div_div]
  have hfloor := div_bounds (b.numerator * 10 ^ (-g).toNat) (b.denominator * 10 ^ g.toNat)
  rw [hscaled, le_div_iff₀ hpos, div_lt_iff₀ hpos] at hfloor
  exact_mod_cast hfloor

theorem onGrid_rounds (hm : b.mantissa ≠ 0) {g : ℤ} {d : ℕ} (h : onGrid b g = some d) : b.Rounds (d * 10 ^ g) := by
  rw [← identifies_iff hm]
  unfold onGrid at h
  simp only at h
  split at h
  · rename_i hlower hupper
    cases h
    split
    · exact hupper
    · exact hlower
  · rename_i hlower hupper
    cases h
    exact hlower
  · rename_i hlower hupper
    cases h
    exact hupper
  · cases h

theorem onGrid_isSome (hm : b.mantissa ≠ 0) {g : ℤ}
    (hfine : (10 : ℚ) ^ g < (if b.narrow then 3 / 4 else 1) * 2 ^ b.exponent) : (onGrid b g).isSome = true := by
  obtain ⟨hbelow, habove⟩ := gridFloor_bounds b g
  rw [Binary.value] at hbelow habove
  by_contra hnone
  have hmisses : ¬ identifies b (gridFloor b g) g = true ∧ ¬ identifies b (gridFloor b g + 1) g = true := by
    unfold onGrid at hnone
    simp only at hnone
    split at hnone
    · exact absurd rfl hnone
    · exact absurd rfl hnone
    · exact absurd rfl hnone
    · rename_i hlower hupper
      rw [hlower, hupper]
      decide
  rw [identifies_iff hm, identifies_iff hm] at hmisses
  obtain ⟨hlower, hupper⟩ := hmisses
  -- the lower neighbour can only miss below the interval, the upper one only above
  have hgap : (0 : ℚ) < if b.narrow then 1 / 4 else 1 / 2 := by split <;> norm_num
  have hlow : (gridFloor b g : ℚ) * 10 ^ g ≤ (b.mantissa - if b.narrow then 1 / 4 else 1 / 2) * 2 ^ b.exponent := by
    by_contra hcon
    rw [not_le] at hcon
    have hinside : (gridFloor b g : ℚ) * 10 ^ g < (b.mantissa + 1 / 2) * 2 ^ b.exponent := by
      apply hbelow.trans_lt
      gcongr
      linarith
    exact hlower ⟨hcon.le, hinside.le, fun _ => ⟨hcon, hinside⟩⟩
  have hhigh : (b.mantissa + 1 / 2) * 2 ^ b.exponent ≤ ((gridFloor b g + 1 : ℕ) : ℚ) * 10 ^ g := by
    by_contra hcon
    rw [not_le] at hcon
    have hinside : (b.mantissa - if b.narrow then 1 / 4 else 1 / 2) * 2 ^ b.exponent < ((gridFloor b g + 1 : ℕ) : ℚ) * 10 ^ g := by
      refine lt_trans ?_ habove
      gcongr
      linarith
    exact hupper ⟨hinside.le, hcon.le, fun _ => ⟨hinside, hcon⟩⟩
  -- so one step of the grid spans the interval
  push_cast at hhigh
  have hspan : (if b.narrow then 3 / 4 else 1) * 2 ^ b.exponent ≤ (10 : ℚ) ^ g := by
    have hlength : (b.mantissa + 1 / 2) - (b.mantissa - if b.narrow then (1 / 4 : ℚ) else 1 / 2) =
        if b.narrow then 3 / 4 else 1 := by
      split <;> ring
    rw [← hlength]
    linarith
  exact absurd hfine (not_lt.mpr hspan)

theorem stripZeros_value (fuel : ℕ) (d : Digits) : (stripZeros fuel d).value = d.value := by
  induction fuel generalizing d with
  | zero => rfl
  | succ fuel ih =>
    rw [stripZeros]
    by_cases h : (d.digits != 0 && d.digits % 10 == 0) = true
    · rw [if_pos h, ih]
      rw [Bool.and_eq_true, beq_iff_eq] at h
      obtain ⟨n, hn⟩ : ∃ n, d.digits = 10 * n := ⟨d.digits / 10, by omega⟩
      rw [Digits.value, Digits.value, hn, Nat.mul_div_cancel_left n (by decide), zpow_add_one₀ (by norm_num)]
      push_cast
      ring
    · rw [if_neg h]

theorem search_rounds (hm : b.mantissa ≠ 0) (k : ℤ) {fuel n j : ℕ} (hj : j < fuel)
    (h : (onGrid b (k - (n + j : ℕ))).isSome = true) : ∃ d, search b k fuel n = some d ∧ b.Rounds d.value := by
  induction fuel generalizing n j with
  | zero => omega
  | succ fuel ih =>
    rw [search]
    cases hgrid : onGrid b (k - n) with
    | some d =>
      refine ⟨_, rfl, ?_⟩
      rw [stripZeros_value]
      exact onGrid_rounds hm hgrid
    | none =>
      cases j with
      | zero =>
        rw [add_zero, hgrid] at h
        cases h
      | succ j =>
        apply ih (j := j) (by omega)
        rw [show n + 1 + j = n + (j + 1) by omega]
        exact h

theorem onGrid_seventeen (hb : b.Canonical) (hm : b.mantissa ≠ 0)
    (hnarrow : b.narrow = true ↔ b.mantissa = 2 ^ 52 ∧ -1074 < b.exponent) :
    (onGrid b (magnitude b.numerator b.denominator - (1 + 16 : ℕ))).isSome = true := by
  have hpos : (0 : ℚ) < 2 ^ b.exponent := by positivity
  have hnum : b.numerator ≠ 0 := Nat.mul_ne_zero hm (Nat.two_pow_pos _).ne'
  have hden : b.denominator ≠ 0 := (Nat.two_pow_pos _).ne'
  have hten := magnitude_spec hnum hden
  apply onGrid_isSome hm
  generalize magnitude b.numerator b.denominator = k at hten ⊢
  have hle : (10 : ℚ) ^ (k - (1 + 16 : ℕ)) * 10 ^ 16 ≤ b.mantissa * 2 ^ b.exponent := by
    have hexponent : k - (1 + 16 : ℕ) + (16 : ℕ) = k - 1 := by
      push_cast
      ring
    calc (10 : ℚ) ^ (k - (1 + 16 : ℕ)) * 10 ^ 16 = 10 ^ (k - 1) := by
          rw [← zpow_natCast, ← zpow_add₀ (by norm_num), hexponent]
      _ ≤ b.numerator / b.denominator := hten
      _ = b.mantissa * 2 ^ b.exponent := (value_eq b).symm
  by_cases hn : b.narrow = true
  · rw [if_pos hn]
    rw [(hnarrow.mp hn).1] at hle
    push_cast at hle
    linarith
  · rw [if_neg hn, one_mul]
    have hmantissa : (b.mantissa : ℚ) < 2 ^ 53 := by exact_mod_cast hb.mantissa_lt
    have hlt : (b.mantissa : ℚ) * 2 ^ b.exponent < 2 ^ 53 * 2 ^ b.exponent := by gcongr
    linarith

theorem shortest_rounds {x : Float} (hx : decode x = .finite b) (hm : b.mantissa ≠ 0) : b.Rounds (shortest b).value := by
  obtain ⟨d, hd, hrounds⟩ := search_rounds hm (magnitude b.numerator b.denominator) (by decide : 16 < 17)
    (onGrid_seventeen (canonical_of_decode hx) hm (narrow_iff_of_decode hx))
  rw [shortest, hd, Option.getD_some]
  exact hrounds

/-- **A decimal worth as much as the fewest digits of a number is read as that number.** -/
theorem toFloat_shortest {x : Float} (hx : decode x = .finite b) (hm : b.mantissa ≠ 0) {digits : ℕ} {exponent : ℤ}
    (h : digits * 10 ^ exponent = (shortest b).value) :
    (if b.negative then -toFloat digits exponent else toFloat digits exponent) = x := by
  apply toFloat_of_rounds hx hm
  rw [h]
  exact shortest_rounds hx hm

end RemoteSensing.Decimal
