import RemoteSensing.Proofs.Json.Number
import RemoteSensing.Table.Series

/-!
Labels of series in the order of the series.
-/

namespace RemoteSensing.Table

open List Nat Json

variable {xs ys : List Char}

theorem digitsValue_cons (x : Char) (xs : List Char) :
    Json.digitsValue (x :: xs) = (x.toNat - 48) * 10 ^ xs.length + Json.digitsValue xs := by
  rw [← singleton_append, digitsValue_append, Json.digitsValue_eq [x], ofDigitChars_cons, ofDigitChars_nil, mul_zero, zero_add]
  rfl

theorem digitsValue_lt (h : ∀ x ∈ xs, x.isDigit = true) : Json.digitsValue xs < 10 ^ xs.length := by
  induction xs with
  | nil => exact Nat.one_pos
  | cons x xs ih =>
    have hx : x.toNat ≤ 57 := (Char.isDigit_iff_toNat.mp (h x mem_cons_self)).2
    have hrest := ih fun y hy => h y (mem_cons_of_mem x hy)
    calc Json.digitsValue (x :: xs) < (x.toNat - 48) * 10 ^ xs.length + 10 ^ xs.length := by
          rw [digitsValue_cons]
          omega
      _ = (x.toNat - 48 + 1) * 10 ^ xs.length := by rw [Nat.succ_mul]
      _ ≤ 10 * 10 ^ xs.length := Nat.mul_le_mul_right _ (by omega)
      _ = 10 ^ (x :: xs).length := (pow_succ' 10 xs.length).symm

/-- Texts of as many digits stand in the order of their values. -/
theorem lt_of_digitsValue_lt (hlen : xs.length = ys.length) (hx : ∀ x ∈ xs, x.isDigit = true)
    (hy : ∀ y ∈ ys, y.isDigit = true) (h : Json.digitsValue xs < Json.digitsValue ys) : xs < ys := by
  induction xs generalizing ys with
  | nil =>
    rw [length_nil, eq_comm, length_eq_zero_iff] at hlen
    rw [hlen] at h
    exact absurd h (Nat.lt_irrefl _)
  | cons x xs ih =>
    cases ys with
    | nil => cases hlen
    | cons y ys =>
      rw [length_cons, length_cons, Nat.add_right_cancel_iff] at hlen
      rw [digitsValue_cons, digitsValue_cons, ← hlen] at h
      rw [cons_lt_cons_iff]
      rcases lt_trichotomy x y with hlt | rfl | hgt
      · exact .inl hlt
      · refine .inr ⟨rfl, ih hlen (fun z hz => hx z (mem_cons_of_mem x hz)) (fun z hz => hy z (mem_cons_of_mem x hz)) ?_⟩
        omega
      · -- a greater first digit outweighs all that follow
        exfalso
        have hdigit : 48 ≤ y.toNat := (Char.isDigit_iff_toNat.mp (hy y mem_cons_self)).1
        have hless : y.toNat < x.toNat := hgt
        have hnext : y.toNat - 48 + 1 ≤ x.toNat - 48 := by omega
        have hrest := hlen ▸ digitsValue_lt fun z hz => hy z (mem_cons_of_mem y hz)
        have hle := Nat.mul_le_mul_right (10 ^ xs.length) hnext
        rw [Nat.succ_mul] at hle
        omega

theorem toList_padded (m w : ℕ) : (Text.zeroFill (toString m) w).toList =
    replicate (w - (toDigits 10 m).length) '0' ++ toDigits 10 m := by
  rw [toString_eq_ofList_toDigits, toList_zeroFill_toDigits (by decide) (by decide)]

theorem length_padded {m w : ℕ} (h : m < 10 ^ w) (hw : 0 < w) : (Text.zeroFill (toString m) w).length = w := by
  have hle := (length_toDigits_le_iff (by decide) hw).mpr h
  rw [← String.length_toList, toList_padded, length_append, length_replicate, Nat.sub_add_cancel hle]

theorem padded_lt {i j w : ℕ} (hij : i < j) (hj : j < 10 ^ w) (hw : 0 < w) :
    Text.zeroFill (toString i) w < Text.zeroFill (toString j) w := by
  rw [String.lt_iff_toList_lt]
  refine lt_of_digitsValue_lt ?_ ?_ ?_ ?_
  · rw [String.length_toList, String.length_toList, length_padded (hij.trans hj) hw, length_padded hj hw]
  · rw [toList_padded]
    exact fun _ => isDigit_of_mem_filled
  · rw [toList_padded]
    exact fun _ => isDigit_of_mem_filled
  · rwa [toList_padded, toList_padded, digitsValue_filled, digitsValue_filled]

/-- **Series that were given no labels are labelled in their order**: as many labels as series, each of the width of the
last one, and each before the next as texts are ordered. -/
theorem default_labels_ordered (n : ℕ) :
    seriesNames .null n = .ok ((seriesLabels n).map Value.str) ∧ (seriesLabels n).length = n ∧ (seriesLabels n).Nodup ∧
    (∀ s ∈ seriesLabels n, s.length = (toString n).length + 1) ∧ (seriesLabels n).Pairwise (· < ·) := by
  have hlength : (seriesLabels n).length = n := by rw [seriesLabels, length_map, length_range]
  have hw : 0 < (toString n).length := Nat.length_repr_pos
  have hbound : n < 10 ^ (toString n).length := (length_repr_le_iff hw).mp le_rfl
  have hordered : (seriesLabels n).Pairwise (· < ·) := by
    rw [seriesLabels, pairwise_map]
    refine pairwise_lt_range.imp_of_mem fun {i j} _ hj hij => ?_
    rw [mem_range] at hj
    rw [String.lt_iff_toList_lt, String.toList_append, String.toList_append]
    exact append_left_lt (String.lt_iff_toList_lt.mp (padded_lt (by omega) (by omega) hw))
  refine ⟨?_, hlength, hordered.imp LT.lt.ne, fun s hs => ?_, hordered⟩
  · have hkeys : ((seriesLabels n).map (Value.str : String → Data)).forM Value.checkKey = .ok ⟨⟩ := by
      induction seriesLabels n with
      | nil => rfl
      | cons s rest ih => exact ih
    have hcount : ¬ ((seriesLabels n).map (Value.str : String → Data)).length ≠ n := by rw [length_map, hlength, not_not]
    rw [seriesNames]
    show (if ((seriesLabels n).map (Value.str : String → Data)).length ≠ n then _ else _) = _
    rw [if_neg hcount]
    show (((seriesLabels n).map (Value.str : String → Data)).forM Value.checkKey >>= fun _ => _) = _
    rw [hkeys]
    rfl
  · obtain ⟨i, hi, rfl⟩ := mem_map.mp hs
    rw [mem_range] at hi
    rw [String.length_append, length_padded (by omega) hw, Nat.add_comm]
    rfl

example : seriesLabels 10 = ["y01", "y02", "y03", "y04", "y05", "y06", "y07", "y08", "y09", "y10"] := by decide +kernel

end RemoteSensing.Table
