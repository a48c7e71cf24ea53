import RemoteSensing.Period

/-!
The weeks of the calendar. Days are numbered so that an era of 400 years has 146097 of them; the number of a date and the
date of a number are inverse to each other, so the start of a week can be told by numbers alone.
-/

namespace RemoteSensing

namespace Date

/-- Within an era, the year that is found for a day is one that the day lies in. -/
theorem yearOfEra_bounds {e y : Int} (he : 0 ≤ e ∧ e < 146097) (hy : y = (e - e / 1460 + e / 36524 - e / 146096) / 365) :
    (0 ≤ y ∧ y < 400) ∧ 0 ≤ e - (365 * y + y / 4 - y / 100) ∧ e - (365 * y + y / 4 - y / 100) < 366 := by
  have hyear : 0 ≤ y ∧ y < 400 := by omega
  -- within a century all the quotients but that of the leap years are known
  have hcentury : y / 100 = 0 ∨ y / 100 = 1 ∨ y / 100 = 2 ∨ y / 100 = 3 := by omega
  have hpassed : e / 36524 = 0 ∨ e / 36524 = 1 ∨ e / 36524 = 2 ∨ e / 36524 = 3 ∨ e / 36524 = 4 := by omega
  refine ⟨hyear, ?_⟩
  rcases hcentury with h | h | h | h <;> rcases hpassed with h' | h' | h' | h' | h' <;> omega

theorem toDays_ofDays (n : Int) : (ofDays n).toDays = n := by
  obtain ⟨z, hz⟩ : ∃ z, z = n + 719468 := ⟨_, rfl⟩
  have hera : 146097 * (z / 146097) + z % 146097 = z := Int.mul_ediv_add_emod z 146097
  have he : 0 ≤ z % 146097 ∧ z % 146097 < 146097 := by omega
  simp only [ofDays, toDays, ← hz]
  generalize z / 146097 = era at *
  generalize z % 146097 = e at *
  obtain ⟨y, hy⟩ : ∃ y, y = (e - e / 1460 + e / 36524 - e / 146096) / 365 := ⟨_, rfl⟩
  obtain ⟨hyear, hday⟩ := yearOfEra_bounds he hy
  obtain ⟨k, hk⟩ : ∃ k, k = e - (365 * y + y / 4 - y / 100) := ⟨_, rfl⟩
  obtain ⟨s, hs⟩ : ∃ s, s = (5 * k + 2) / 153 := ⟨_, rfl⟩
  rw [← hy, ← hk, ← hs]
  have hback : (y + era * 400) / 400 = era ∧ (y + era * 400) % 400 = y := by omega
  clear hy
  -- the year starts in March, so January and February belong to the next one
  by_cases hlate : s < 10
  · have hmonth : ¬ s + 3 ≤ 2 ∧ ¬ (s + 3).toNat ≤ 2 ∧ (((s + 3).toNat + 9) % 12 : Nat) = s := by omega
    simp only [if_pos hlate, if_neg hmonth.1, if_neg hmonth.2.1, hmonth.2.2, hback]
    omega
  · have hmonth : s - 9 ≤ 2 ∧ (s - 9).toNat ≤ 2 ∧ (((s - 9).toNat + 9) % 12 : Nat) = s := by omega
    simp only [if_neg hlate, if_pos hmonth.1, if_pos hmonth.2.1, hmonth.2.2, Int.add_sub_cancel, hback]
    omega

end Date

/-- **A week starts on its Monday**: the last one up to the date. -/
theorem Period.start_week {s : String} {d : Date} (h : readDate? s = some d) :
    ∃ monday : Date, start .week s = .ok (plainText monday) ∧ monday.weekday = 0 ∧
      monday.toDays ≤ d.toDays ∧ d.toDays < monday.toDays + 7 := by
  have hdays : (mondayOf d).toDays = d.toDays - d.weekday := Date.toDays_ofDays _
  have hweekday : (d.weekday : Int) = (d.toDays + 3) % 7 := by
    rw [Date.weekday]
    omega
  refine ⟨mondayOf d, by rw [start, h], ?_⟩
  rw [Date.weekday, hdays]
  omega

end RemoteSensing
