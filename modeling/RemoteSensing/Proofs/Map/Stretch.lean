import RemoteSensing.Map.View
import RemoteSensing.Proofs.Value.Order

/-!
The limits of a stretch, over exact fractions.
-/

namespace RemoteSensing.Stretch

theorem range_sigma (least greatest deviation mean sigma : ℚ) (percent : Value ℚ) :
    range ⟨.real least, .real greatest, .real deviation, .real mean⟩ percent (.real sigma) =
      .ok (.real (mean - sigma * deviation), .real (mean + sigma * deviation)) := rfl

theorem range_percent (least greatest deviation mean percent : ℚ) :
    range ⟨.real least, .real greatest, .real deviation, .real mean⟩ (.real percent) .null =
      .ok (.real (least + (greatest - least) * (1 - percent)), .real (greatest - (greatest - least) * (1 - percent))) := by
  rw [← Int.cast_one]
  rfl

/-- **The stretch of an image.** With neither option the limits are the least and the greatest number of all bands. A
number of deviations gives limits in order. A share between nothing and all gives limits within that range, which are in
order exactly if the share is at least a half or the range is a single number. -/
theorem stretch_limits_ordered_iff {low high deviation : ℚ} (mean : ℚ) (hrange : low ≤ high)
    (hdeviation : 0 ≤ deviation) :
    let s : Except Fault (Statistics ℚ) := .ok ⟨.real low, .real high, .real deviation, .real mean⟩
    limits s .null .null = .ok (.real low, .real high) ∧
      (∀ (sigma : ℚ) (percent : Value ℚ), 0 ≤ sigma →
        ∃ u v : ℚ, limits s percent (.real sigma) = .ok (.real u, .real v) ∧ u ≤ v) ∧
      (∀ percent : ℚ, 0 ≤ percent → percent ≤ 1 →
        ∃ u v : ℚ, limits s (.real percent) .null = .ok (.real u, .real v) ∧
          u ∈ Set.Icc low high ∧ v ∈ Set.Icc low high ∧ (u ≤ v ↔ 1/2 ≤ percent ∨ low = high)) := by
  intro s
  refine ⟨rfl, ?_, ?_⟩
  · intro sigma percent hsigma
    refine ⟨_, _, range_sigma .., ?_⟩
    have := mul_nonneg hsigma hdeviation
    linarith
  · intro percent hleast hmost
    have hcut : 0 ≤ (high - low) * (1 - percent) := mul_nonneg (sub_nonneg.mpr hrange) (sub_nonneg.mpr hmost)
    have hkept : 0 ≤ (high - low) * percent := mul_nonneg (sub_nonneg.mpr hrange) hleast
    refine ⟨_, _, range_percent .., ?_, ?_, ?_⟩
    · constructor <;> linarith
    · constructor <;> linarith
    · -- the limits lie apart by the range times `2 * percent - 1`
      have hgap : high - (high - low) * (1 - percent) - (low + (high - low) * (1 - percent)) =
          (high - low) * (2 * percent - 1) := by ring
      rw [← sub_nonneg, hgap]
      rcases hrange.eq_or_lt with hsingle | hwide
      · simp [hsingle]
      · rw [mul_nonneg_iff_of_pos_left (sub_pos.mpr hwide), or_iff_left hwide.ne]
        constructor <;> intro <;> linarith

theorem stretch_limits_ordered_three_quarters :
    ∃ u v : ℚ, limits (.ok ⟨.real 0, .real 10, .real 1, .real 5⟩) (.real (3/4)) .null = .ok (.real u, .real v) ∧
      u ≤ v := by
  have hrange : (0 : ℚ) ≤ 10 := by norm_num
  obtain ⟨-, -, hpercent⟩ := stretch_limits_ordered_iff 5 hrange zero_le_one
  obtain ⟨u, v, hlimits, -, -, hordered⟩ := hpercent (3/4) (by norm_num) (by norm_num)
  exact ⟨u, v, hlimits, hordered.mpr (Or.inl (by norm_num))⟩

theorem quarter_stretch_crossed :
    ∃ u v : ℚ, limits (.ok ⟨.real 0, .real 10, .real 1, .real 5⟩) (.real (1/4)) .null = .ok (.real u, .real v) ∧
      v < u := ⟨_, _, range_percent .., by norm_num⟩

end RemoteSensing.Stretch
