import RemoteSensing.Proofs.Decimal.Order
import RemoteSensing.Value.Number

/-!
The order of values that are numbers.
-/

namespace RemoteSensing

open List Option Value Except Decimal

variable {m n : Num Float}

namespace Num

def worth : Num Float → Option EInt
  | .int i => some (worthOfInt i)
  | .real x => Decimal.worth x

variable (a b : Num Float)

theorem worthOfInt_strictMono : StrictMono worthOfInt := by
  intro i j h
  exact WithBotTop.coe_lt_coe.mpr (Int.mul_lt_mul_of_pos_right h (pow_pos two_pos 1074))

theorem between_int (i j : ℤ) : between (worth (.int i)) (worth (.int j)) = some (cmp i j) :=
  congrArg some (worthOfInt_strictMono.cmp_map_eq i j)

theorem compareInt_iff (i : ℤ) (y : Float) (o : Ordering) :
    (Decimal.compareInt i y == some o) = true ↔ between (worth (.int i)) (worth (.real y)) = some o := by
  rw [beq_iff_eq, Decimal.compareInt_eq]
  rfl

theorem compareInt_swap_iff (x : Float) (j : ℤ) (o : Ordering) :
    (Decimal.compareInt j x == some o.swap) = true ↔ between (worth (.real x)) (worth (.int j)) = some o := by
  rw [compareInt_iff, between_swap (worth (.real x))]
  rcases between (worth (.int j)) (worth (.real x)) with _ | p
  · simp
  · simp [Ordering.swap_eq_iff_eq_swap]

theorem lt_iff : a.lt b = true ↔ between a.worth b.worth = some .lt := by
  cases a with
  | int i =>
    cases b with
    | int j =>
      rw [between_int, some_inj, cmp_eq_lt_iff]
      exact decide_eq_true_iff
    | real y => exact compareInt_iff i y .lt
  | real x =>
    cases b with
    | int j => exact compareInt_swap_iff x j .lt
    | real y =>
      show decide (x < y) = true ↔ _
      rw [decide_eq_true_iff, Decimal.lt_iff]
      rfl

theorem beq_iff : a.beq b = true ↔ between a.worth b.worth = some .eq := by
  cases a with
  | int i =>
    cases b with
    | int j =>
      rw [between_int, some_inj, cmp_eq_eq_iff]
      exact decide_eq_true_iff
    | real y => exact compareInt_iff i y .eq
  | real x =>
    cases b with
    | int j => exact compareInt_swap_iff x j .eq
    | real y => exact Decimal.beq_iff x y

theorem le_iff : a.le b = true ↔ between a.worth b.worth = some .lt ∨ between a.worth b.worth = some .eq := by
  have hboth : (a.lt b || a.beq b) = true ↔ between a.worth b.worth = some .lt ∨ between a.worth b.worth = some .eq := by
    rw [Bool.or_eq_true, lt_iff, beq_iff]
  cases a with
  | int i => exact hboth
  | real x =>
    cases b with
    | int j => exact hboth
    | real y =>
      show decide (x ≤ y) = true ↔ _
      rw [decide_eq_true_iff, Decimal.le_iff]
      rfl

end Num

section Placing

variable {ν L : Type} [Scalar ν] [LinearOrder L] {a b : Value ν} {m n : Num ν}

theorem Value.same_of_num (ha : a.num? = some m) (hb : b.num? = some n) : a.same b = m.beq n := by
  cases a <;> cases ha <;> cases b <;> cases hb <;> simp only [same, num?]

theorem Value.order_of_num (ha : a.num? = some m) (hb : b.num? = some n) (op : String) (f : Num ν → Num ν → Bool)
    (g : String → String → Bool) : order op f g a b = .ok (f m n) := by
  cases a <;> cases ha <;> cases b <;> cases hb <;> simp only [order, num?]

/-- Places in an order for numbers. -/
structure Placing (ν L : Type) [Scalar ν] [LinearOrder L] where
  place : Num ν → Option L
  lt_iff {m n : Num ν} {x y : L} : place m = some x → place n = some y → (m.lt n = true ↔ x < y)

namespace Placing

variable (P : Placing ν L) {x y : L}

def of (v : Value ν) : Option L := v.num?.bind P.place

variable (ha : P.of a = some x) (hb : P.of b = some y)
include ha hb

theorem lt_eq : a.lt b = .ok (decide (x < y)) := by
  obtain ⟨m, hm, hx⟩ := bind_eq_some_iff.mp ha
  obtain ⟨n, hn, hy⟩ := bind_eq_some_iff.mp hb
  rw [lt, order_of_num hm hn, ok.injEq, Bool.eq_iff_iff, P.lt_iff hx hy, decide_eq_true_iff]

theorem gt_eq : a.gt b = .ok (decide (y < x)) := by
  obtain ⟨m, hm, hx⟩ := bind_eq_some_iff.mp ha
  obtain ⟨n, hn, hy⟩ := bind_eq_some_iff.mp hb
  rw [gt, order_of_num hm hn, ok.injEq, Bool.eq_iff_iff, P.lt_iff hy hx, decide_eq_true_iff]

end Placing

end Placing

def worths : Placing Float EInt where
  place := Num.worth
  lt_iff {_ _ _ _} hx hy := by rw [Num.lt_iff, hx, hy, between, some_inj, cmp_eq_lt_iff]

instance : Scalar ℚ where
  ofInt i := some i
  quotient i j := some (i / j)
  compareInt i x := some (cmp (i : ℚ) x)
  add := (· + ·)
  sub := (· - ·)
  mul := (· * ·)
  div := (· / ·)
  lt x y := decide (x < y)
  le x y := decide (x ≤ y)
  beq x y := decide (x = y)
  text := toString

def fractions : Placing ℚ ℚ where
  place
    | .int i => some i
    | .real q => some q
  lt_iff {m n x y} hm hn := by
    cases m <;> cases n <;> cases hm <;> cases hn <;>
      simp [Num.lt, Scalar.lt, Scalar.compareInt, cmp_eq_lt_iff, cmp_eq_gt_iff]

namespace Value

/-- A number that equals itself, which "not a number" does not. -/
structure Comparable (v : Data) : Prop where
  isNumber : v.isNumber = true
  same_self : v.same v = true

def worth (v : Data) : Option EInt := v.num?.bind Num.worth

variable {a b c : Data} {x y : EInt}

theorem worth_eq_some (h : a.worth = some x) : ∃ m, a.num? = some m ∧ m.worth = some x := bind_eq_some_iff.mp h

theorem isNumber_iff : a.isNumber = true ↔ ∃ m, a.num? = some m := by
  cases a <;> simp [isNumber, num?]

theorem comparable_iff : a.Comparable ↔ ∃ x, a.worth = some x := by
  constructor
  · rintro ⟨hnumber, hself⟩
    obtain ⟨m, hm⟩ := isNumber_iff.mp hnumber
    rw [same_of_num hm hm, Num.beq_iff] at hself
    rw [worth, hm]
    cases hworth : m.worth with
    | none =>
      rw [hworth] at hself
      cases hself
    | some x => exact ⟨x, hworth⟩
  · rintro ⟨x, hx⟩
    obtain ⟨m, hm, hmx⟩ := worth_eq_some hx
    refine ⟨isNumber_iff.mpr ⟨m, hm⟩, ?_⟩
    rw [same_of_num hm hm, Num.beq_iff, hmx, between, cmp_self_eq_eq]

theorem Comparable.worth (h : a.Comparable) : ∃ x, a.worth = some x := comparable_iff.mp h

section Worths

variable (ha : a.worth = some x) (hb : b.worth = some y)
include ha hb

theorem lt_eq : a.lt b = .ok (decide (x < y)) := worths.lt_eq ha hb

theorem gt_eq : a.gt b = .ok (decide (y < x)) := worths.gt_eq ha hb

theorem le_eq : a.le b = .ok (decide (x ≤ y)) := by
  obtain ⟨m, hm, hx⟩ := worth_eq_some ha
  obtain ⟨n, hn, hy⟩ := worth_eq_some hb
  rw [le, order_of_num hm hn]
  refine congrArg ok (Bool.eq_iff_iff.mpr ?_)
  rw [Num.le_iff, hx, hy, between, some_inj, some_inj, cmp_eq_lt_iff, cmp_eq_eq_iff, decide_eq_true_iff,
    le_iff_lt_or_eq]

theorem same_eq : a.same b = decide (x = y) := by
  obtain ⟨m, hm, hx⟩ := worth_eq_some ha
  obtain ⟨n, hn, hy⟩ := worth_eq_some hb
  rw [same_of_num hm hn]
  refine Bool.eq_iff_iff.mpr ?_
  rw [Num.beq_iff, hx, hy, between, some_inj, cmp_eq_eq_iff, decide_eq_true_iff]

end Worths

def AtMost (a b : Data) : Prop := a.le b = .ok true

theorem atMost_iff (ha : a.worth = some x) (hb : b.worth = some y) : a.AtMost b ↔ x ≤ y := by
  rw [AtMost, le_eq ha hb, ok.injEq, decide_eq_true_iff]

namespace AtMost

theorem refl (ha : a.Comparable) : a.AtMost a := by
  obtain ⟨x, hx⟩ := ha.worth
  exact (atMost_iff hx hx).mpr le_rfl

theorem trans (ha : a.Comparable) (hb : b.Comparable) (hc : c.Comparable) (hab : a.AtMost b) (hbc : b.AtMost c) :
    a.AtMost c := by
  obtain ⟨x, hx⟩ := ha.worth
  obtain ⟨y, hy⟩ := hb.worth
  obtain ⟨z, hz⟩ := hc.worth
  exact (atMost_iff hx hz).mpr (((atMost_iff hx hy).mp hab).trans ((atMost_iff hy hz).mp hbc))

theorem antisymm (ha : a.Comparable) (hb : b.Comparable) (hab : a.AtMost b) (hba : b.AtMost a) : a.same b = true := by
  obtain ⟨x, hx⟩ := ha.worth
  obtain ⟨y, hy⟩ := hb.worth
  rw [same_eq hx hy, decide_eq_true_iff]
  exact le_antisymm ((atMost_iff hx hy).mp hab) ((atMost_iff hy hx).mp hba)

theorem comparable (h : a.AtMost b) (hnumber : a.isNumber = true ∨ b.isNumber = true) : a.Comparable ∧ b.Comparable := by
  have hnums : ∃ m n, a.num? = some m ∧ b.num? = some n := by
    unfold AtMost le at h
    cases a <;> cases b <;> first
      | exact ⟨_, _, rfl, rfl⟩
      | (rcases hnumber with hnumber | hnumber <;> cases hnumber <;> simp only [order, num?] at h <;> cases h)
  obtain ⟨m, n, ha, hb⟩ := hnums
  rw [AtMost, le, order_of_num ha hb, ok.injEq, Num.le_iff] at h
  rw [comparable_iff, comparable_iff, worth, worth, ha, hb, bind_some, bind_some]
  cases hm : m.worth with
  | none =>
    rw [hm] at h
    rcases h with h | h <;> cases h
  | some x =>
    cases hn : n.worth with
    | none =>
      rw [hm, hn] at h
      rcases h with h | h <;> cases h
    | some y => exact ⟨⟨x, rfl⟩, ⟨y, rfl⟩⟩

theorem comparable_left (hb : b.Comparable) (h : a.AtMost b) : a.Comparable := (comparable h (.inr hb.isNumber)).1

theorem comparable_right (ha : a.Comparable) (h : a.AtMost b) : b.Comparable := (comparable h (.inl ha.isNumber)).2

end AtMost

theorem gt_eq_false (ha : a.Comparable) (hb : b.Comparable) : a.gt b = .ok false ↔ a.AtMost b := by
  obtain ⟨x, hx⟩ := ha.worth
  obtain ⟨y, hy⟩ := hb.worth
  rw [gt_eq hx hy, atMost_iff hx hy, ok.injEq, decide_eq_false_iff_not, not_lt]

theorem extreme_eq {ν L : Type} [LinearOrder L] (smaller : Value ν → Value ν → Except Fault Bool)
    (rank : Value ν → L) (best : Value ν) (xs : List (Value ν))
    (h : ∀ v ∈ best :: xs, ∀ u ∈ best :: xs, smaller v u = .ok (decide (rank v < rank u))) :
    ∃ m ∈ best :: xs, extreme smaller best xs = .ok m ∧ ∀ v ∈ best :: xs, rank m ≤ rank v := by
  induction xs generalizing best with
  | nil => exact ⟨best, mem_cons_self, rfl, by simp⟩
  | cons v r ih =>
    have hkept : ∀ u ∈ best :: r, u ∈ best :: v :: r := by simp +contextual [or_imp]
    have htaken : ∀ u ∈ v :: r, u ∈ best :: v :: r := fun u hu => mem_cons_of_mem best hu
    have hstep : extreme smaller best (v :: r) =
        if rank v < rank best then extreme smaller v r else extreme smaller best r := by
      rw [extreme, h v (by simp) best (by simp)]
      show (if decide (rank v < rank best) = true then _ else _) = _
      simp only [decide_eq_true_iff]
    rw [hstep]
    by_cases hlt : rank v < rank best
    · obtain ⟨m, hm, hextreme, hleast⟩ := ih v fun u hu w hw => h u (htaken u hu) w (htaken w hw)
      rw [if_pos hlt]
      refine ⟨m, htaken m hm, hextreme, fun u hu => ?_⟩
      rcases List.mem_cons.mp hu with rfl | hu
      · exact (hleast v mem_cons_self).trans hlt.le
      · exact hleast u hu
    · obtain ⟨m, hm, hextreme, hleast⟩ := ih best fun u hu w hw => h u (hkept u hu) w (hkept w hw)
      rw [if_neg hlt]
      refine ⟨m, hkept m hm, hextreme, fun u hu => ?_⟩
      have hbest := hleast best mem_cons_self
      rcases List.mem_cons.mp hu with rfl | hu
      · exact hbest
      · rcases List.mem_cons.mp hu with rfl | hu
        · exact hbest.trans (not_lt.mp hlt)
        · exact hleast u (mem_cons_of_mem best hu)

def rank (v : Data) : EInt := v.worth.getD ⊥

theorem Comparable.worth_eq (h : a.Comparable) : a.worth = some a.rank := by
  obtain ⟨x, hx⟩ := h.worth
  rw [rank, hx, getD_some]

variable {xs : List Data}

theorem minimum_eq (hne : xs ≠ []) (h : ∀ v ∈ xs, v.Comparable) :
    ∃ m ∈ xs, minimum xs = .ok m ∧ ∀ v ∈ xs, m.AtMost v := by
  obtain ⟨best, r, rfl⟩ := exists_cons_of_ne_nil hne
  obtain ⟨m, hm, hextreme, hleast⟩ := extreme_eq lt rank best r
    fun v hv u hu => lt_eq (h v hv).worth_eq (h u hu).worth_eq
  exact ⟨m, hm, hextreme, fun v hv => (atMost_iff (h m hm).worth_eq (h v hv).worth_eq).mpr (hleast v hv)⟩

theorem maximum_eq (hne : xs ≠ []) (h : ∀ v ∈ xs, v.Comparable) :
    ∃ m ∈ xs, maximum xs = .ok m ∧ ∀ v ∈ xs, v.AtMost m := by
  obtain ⟨best, r, rfl⟩ := exists_cons_of_ne_nil hne
  obtain ⟨m, hm, hextreme, hgreatest⟩ := extreme_eq gt (fun v => OrderDual.toDual v.rank) best r
    fun v hv u hu => gt_eq (h v hv).worth_eq (h u hu).worth_eq
  exact ⟨m, hm, hextreme, fun v hv => (atMost_iff (h v hv).worth_eq (h m hm).worth_eq).mpr (hgreatest v hv)⟩

end Value

end RemoteSensing
