import RemoteSensing.Proofs.Decimal.Sum
import RemoteSensing.Proofs.Session.Run
import RemoteSensing.Proofs.Value.Fields
import RemoteSensing.Proofs.Value.Order
import RemoteSensing.Timelapse.Composite

/-!
Longitudes brought back by a turn.
-/

namespace RemoteSensing.Geo

open List hiding insert keys lookup
open WithBotTop Decimal

open Value (lookup insert atMost_iff int add sub real item keys)

def Within (d : ℤ) (x : Data) : Prop := (int (-d)).AtMost x ∧ x.AtMost (.int d)

variable {x : Data} {n : ℤ} {b : Binary}

theorem worth_int (i : ℤ) : (int i : Data).worth = some ((i * 2 ^ 1074 : ℤ) : EInt) := rfl

theorem within_iff {d : ℤ} :
    Within d x ↔ ∃ n : ℤ, x.worth = some (n : EInt) ∧ -d * 2 ^ 1074 ≤ n ∧ n ≤ d * 2 ^ 1074 := by
  constructor
  · rintro ⟨hlow, hhigh⟩
    obtain ⟨a, ha⟩ := (Value.AtMost.comparable_right (Value.comparable_iff.mpr ⟨_, worth_int (-d)⟩) hlow).worth
    rw [atMost_iff (worth_int _) ha] at hlow
    rw [atMost_iff ha (worth_int _)] at hhigh
    induction a using WithBotTop.rec with
    | bot => exact absurd (le_bot_iff.mp hlow) (coe_ne_bot _)
    | top => exact absurd (top_le_iff.mp hhigh) (coe_ne_top _)
    | coe n => exact ⟨n, ha, coe_le_coe.mp hlow, coe_le_coe.mp hhigh⟩
  · rintro ⟨n, hn, hlow, hhigh⟩
    exact ⟨(atMost_iff (worth_int _) hn).mpr (coe_le_coe.mpr hlow),
      (atMost_iff hn (worth_int _)).mpr (coe_le_coe.mpr hhigh)⟩

def turn : Binary := ⟨false, 360 * 2 ^ 44, -44, false⟩

theorem exists_turn : ∃ y, (Num.int 360 : Num Float).toReal = .ok y ∧ decode y = .finite turn := by
  have h : (ofInt? 360).map decode = some (.finite turn) := rfl
  obtain ⟨y, hy, hturn⟩ := Option.map_eq_some_iff.mp h
  have hscalar : Scalar.ofInt 360 = some y := hy
  exact ⟨y, by rw [Num.toReal, hscalar], hturn⟩

theorem worth_turn : turn.worth = 360 * 2 ^ 1074 := by
  have hunits : turn.units = 360 * 2 ^ 1074 := by
    have hshift : (turn.exponent + 1074).toNat = 1030 := rfl
    have hmantissa : turn.mantissa = 360 * 2 ^ 44 := rfl
    rw [Binary.units, hshift, hmantissa]
    omega
  rw [Binary.worth_of_positive rfl, hunits, Nat.cast_mul, Nat.cast_pow]
  rfl

theorem short_of_far (hb : b.Canonical) (hfar : 180 * 2 ^ 1074 < b.worth.natAbs) {t : ℤ}
    (ht : t.natAbs ≤ 180 * 2 ^ 1074) : Short t (min b.exponent turn.exponent) := by
  have hunits : b.worth.natAbs = b.units := by
    unfold Binary.worth
    split <;> simp
  have hexponent : -45 ≤ b.exponent := by
    by_contra h
    have hlt : b.units < 2 ^ 53 * 2 ^ (b.exponent + 1074).toNat :=
      Nat.mul_lt_mul_of_pos_right hb.mantissa_lt (Nat.two_pow_pos _)
    have hle : 2 ^ (b.exponent + 1074).toNat ≤ 2 ^ 1028 := pow_le_pow_right₀ one_le_two (by omega)
    omega
  have hturn : turn.exponent = -44 := rfl
  have hle : 2 ^ 1029 ≤ 2 ^ (min b.exponent turn.exponent + 1074).toNat :=
    pow_le_pow_right₀ one_le_two (by omega)
  unfold Short
  omega

theorem decode_of_worth {r : Float} (h : worth r = some (n : EInt)) :
    ∃ b, decode r = .finite b ∧ b.worth = n := by
  unfold worth at h
  cases hr : decode r with
  | finite b =>
    rw [hr] at h
    exact ⟨b, rfl, coe_injective (Option.some.inj h)⟩
  | infinite negative =>
    rw [hr] at h
    cases negative
    · exact absurd (Option.some.inj h).symm (coe_ne_top _)
    · exact absurd (Option.some.inj h).symm (coe_ne_bot _)
  | notANumber =>
    rw [hr] at h
    cases h

theorem worth_real {y : Float} (h : decode y = .finite b) :
    (real y : Data).worth = some (b.worth : EInt) := by
  show (decode y).worth = _
  rw [h]
  rfl

theorem mantissa_ne_zero (h : 180 * 2 ^ 1074 < b.worth.natAbs) : b.mantissa ≠ 0 := fun hzero => by
  rw [Binary.worth_eq_zero hzero] at h
  omega

section Turns

variable (hx : x.worth = some (n : EInt)) (hfar : 180 * 2 ^ 1074 < n.natAbs)
include hx hfar

/-- **A full turn is added exactly** where that leads to within half a turn. -/
theorem add_turn (hnear : (360 * 2 ^ 1074 + n).natAbs ≤ 180 * 2 ^ 1074) :
    ∃ y, add (.int 360) x = .ok y ∧ y.worth = some ((360 * 2 ^ 1074 + n : ℤ) : EInt) := by
  obtain ⟨m, hm, hworth⟩ := Value.worth_eq_some hx
  have hadd : add (.int 360) x = ((Num.int 360).add m).map Num.toValue := by cases x <;> cases hm <;> rfl
  cases m with
  | int i =>
    have hn : i * 2 ^ 1074 = n := coe_injective (Option.some.inj hworth)
    exact ⟨.int (360 + i), hadd, by rw [worth_int, ← hn, add_mul]⟩
  | real r =>
    obtain ⟨y, hy, hturn⟩ := exists_turn
    obtain ⟨b, hb, rfl⟩ := decode_of_worth hworth
    rw [← worth_turn] at hnear ⊢
    have hshort := short_of_far (Decimal.canonical_of_decode hb) hfar hnear
    rw [min_comm] at hshort
    obtain ⟨d, hd, hsum⟩ := Decimal.worth_add hturn hb (by decide) (mantissa_ne_zero hfar) hshort
    refine ⟨.real (y.add r), ?_, by rw [worth_real hd, hsum]⟩
    rw [hadd, Num.add, Num.combine, hy]
    · rfl
    · rintro _ _ - ⟨⟩

/-- **A full turn is taken away exactly** where that leads to within half a turn. -/
theorem sub_turn (hnear : (n - 360 * 2 ^ 1074).natAbs ≤ 180 * 2 ^ 1074) :
    ∃ y, sub x (.int 360) = .ok y ∧ y.worth = some ((n - 360 * 2 ^ 1074 : ℤ) : EInt) := by
  obtain ⟨m, hm, hworth⟩ := Value.worth_eq_some hx
  have hsub : sub x (.int 360) = (m.sub (.int 360)).map Num.toValue := by cases x <;> cases hm <;> rfl
  cases m with
  | int i =>
    have hn : i * 2 ^ 1074 = n := coe_injective (Option.some.inj hworth)
    exact ⟨.int (i - 360), hsub, by rw [worth_int, ← hn, sub_mul]⟩
  | real r =>
    obtain ⟨y, hy, hturn⟩ := exists_turn
    obtain ⟨b, hb, rfl⟩ := decode_of_worth hworth
    rw [← worth_turn] at hnear ⊢
    have hshort := short_of_far (Decimal.canonical_of_decode hb) hfar hnear
    obtain ⟨d, hd, hdifference⟩ := Decimal.worth_sub hb hturn (mantissa_ne_zero hfar) (by decide) hshort
    refine ⟨.real (r.sub y), ?_, by rw [worth_real hd, hdifference]⟩
    rw [hsub, Num.sub, Num.combine, hy]
    · rfl
    · rintro _ _ ⟨⟩

end Turns

/-- **A longitude within three half turns** is brought back to within one. -/
theorem wrap_within (h : Within 540 x) : ∃ y, wrap x = .ok y ∧ Within 180 y := by
  obtain ⟨n, hn, hlow, hhigh⟩ := within_iff.mp h
  unfold wrap
  rw [Value.lt_eq hn (worth_int _), Value.gt_eq hn (worth_int _)]
  simp only [coe_lt_coe]
  by_cases hwest : n < -180 * 2 ^ 1074
  · obtain ⟨y, hy, hworth⟩ := add_turn hn (by omega) (by omega)
    rw [decide_eq_true hwest]
    exact ⟨y, hy, within_iff.mpr ⟨_, hworth, by omega, by omega⟩⟩
  rw [decide_eq_false hwest]
  by_cases heast : 180 * 2 ^ 1074 < n
  · obtain ⟨y, hy, hworth⟩ := sub_turn hn (by omega) (by omega)
    rw [decide_eq_true heast]
    exact ⟨y, hy, within_iff.mpr ⟨_, hworth, by omega, by omega⟩⟩
  · rw [decide_eq_false heast]
    exact ⟨x, rfl, within_iff.mpr ⟨n, hn, by omega, by omega⟩⟩

def Longitude (d : ℤ) (p : Data) : Prop := ∃ x rest, p = .list (x :: rest) ∧ Within d x

section Nesting

variable {ν : Type}

def Everywhere (P : Value ν → Prop) : ℕ → Value ν → Prop
  | 0, v => P v
  | k + 1, v => ∃ xs, v = .list xs ∧ ∀ x ∈ xs, Everywhere P k x

theorem wrapPosition_list [Scalar ν] {x y : Value ν} (rest : List (Value ν)) (h : wrap x = .ok y) :
    wrapPosition (.list (x :: rest)) = .ok (.list (y :: rest)) := by
  show wrap x >>= (fun y => Value.setAt (.list (x :: rest)) 0 y) = _
  rw [h]
  rfl

theorem mapElements_everywhere {P Q : Value ν → Prop} {f : Value ν → Except Fault (Value ν)}
    (hf : ∀ x, P x → ∃ y, f x = .ok y ∧ Q y) {v : Value ν} (h : Everywhere P 1 v) :
    ∃ u, v.mapElements f = .ok u ∧ Everywhere Q 1 u := by
  obtain ⟨xs, rfl, hxs⟩ := h
  choose! g hg using hf
  refine ⟨.list (xs.map g), ?_, _, rfl, ?_⟩
  · rw [Value.mapElements, mapM_eq_ok fun x hx => (hg x (hxs x hx)).1]
    rfl
  · intro y hy
    obtain ⟨x, hx, rfl⟩ := mem_map.mp hy
    exact (hg x (hxs x hx)).2

end Nesting

theorem wrapPosition_within {p : Data} (h : Longitude 540 p) : ∃ q, wrapPosition p = .ok q ∧ Longitude 180 q := by
  obtain ⟨x, rest, rfl, hx⟩ := h
  obtain ⟨y, hy, hwithin⟩ := wrap_within hx
  exact ⟨.list (y :: rest), wrapPosition_list rest hy, y, rest, rfl, hwithin⟩

def shapes : List (String × ℕ) :=
  [("Point", 0), ("MultiPoint", 1), ("LineString", 1), ("MultiLineString", 2), ("Polygon", 2), ("MultiPolygon", 3)]

def wrappedShapes : List String := ["Point", "LineString", "Polygon"]

theorem wrapCoordinates_within_iff {type : String} {k : ℕ} {c : Data} (hshape : (type, k) ∈ shapes)
    (h : Everywhere (Longitude 540) k c) : ∃ c', wrapCoordinates (.str type) c = .ok c' ∧
      (Everywhere (Longitude 180) k c' ↔ type ∈ wrappedShapes ∨ Everywhere (Longitude 180) k c) := by
  have hpoint := fun p => @wrapPosition_within p
  have hline := fun v => @mapElements_everywhere _ _ _ _ hpoint v
  simp only [shapes, mem_cons, Prod.mk.injEq, not_mem_nil, or_false] at hshape
  obtain ⟨rfl, rfl⟩ | ⟨rfl, rfl⟩ | ⟨rfl, rfl⟩ | ⟨rfl, rfl⟩ | ⟨rfl, rfl⟩ | ⟨rfl, rfl⟩ := hshape
  · obtain ⟨c', hc, hwithin⟩ := hpoint c h
    exact ⟨c', hc, iff_of_true hwithin (.inl (by decide))⟩
  · exact ⟨c, rfl, (or_iff_right (by decide)).symm⟩
  · obtain ⟨c', hc, hwithin⟩ := hline c h
    exact ⟨c', hc, iff_of_true hwithin (.inl (by decide))⟩
  · exact ⟨c, rfl, (or_iff_right (by decide)).symm⟩
  · obtain ⟨c', hc, hwithin⟩ := mapElements_everywhere hline h
    exact ⟨c', hc, iff_of_true hwithin (.inl (by decide))⟩
  · exact ⟨c, rfl, (or_iff_right (by decide)).symm⟩

section Records

variable {ν : Type} {fields : Fields (Value ν)} {type : String} {c c' : Value ν}

/-- The record of a geometry. -/
structure IsGeometry (fields : Fields (Value ν)) (type : String) (c : Value ν) : Prop where
  type : lookup "type" fields = some (.str type)
  coordinates : lookup "coordinates" fields = some c
  bare : lookup "geometry" fields = none

variable [Scalar ν] (h : IsGeometry fields type c) (hc : wrapCoordinates (.str type) c = .ok c')
include h hc

theorem wrapGeometry_record : wrapGeometry (.record fields) = .ok (.record (insert "coordinates" c' fields)) := by
  simp only [wrapGeometry, item, h.coordinates, h.type]
  show wrapCoordinates (.str type) c >>= _ = _
  rw [hc]
  rfl

theorem wrapLongitudes_record :
    wrapLongitudes (.record fields) = .ok (.record (insert "coordinates" c' fields)) := by
  have hbare : (fields.map (·.1)).contains "geometry" = false := by
    simpa using Value.lookup_eq_none.mp h.bare
  have htype : (fields.map (·.1)).contains "type" = true := by
    rw [contains_iff_mem]
    exact mem_map_of_mem (f := (·.1)) (Value.mem_of_lookup h.type)
  unfold wrapLongitudes
  show (if (fields.map (·.1)).contains "geometry" = true then _
    else if (fields.map (·.1)).contains "type" = true then _ else _) = _
  rw [if_neg (by rw [hbare]; decide), if_pos htype, wrapGeometry_record h hc]

theorem wrapLongitudes_feature {feature : Fields (Value ν)} (hfeature : lookup "geometry" feature = some (.record fields)) :
    wrapLongitudes (.record feature) =
      .ok (.record (insert "geometry" (.record (insert "coordinates" c' fields)) feature)) := by
  have hkey : (feature.map (·.1)).contains "geometry" = true := by
    rw [contains_iff_mem]
    exact mem_map_of_mem (f := (·.1)) (Value.mem_of_lookup hfeature)
  unfold wrapLongitudes
  simp only [keys, item, hfeature]
  show (if (feature.map (·.1)).contains "geometry" = true then wrapGeometry (.record fields) >>= _ else _) = _
  rw [if_pos hkey, wrapGeometry_record h hc]
  rfl

end Records

/-! Longitudes as exact fractions. -/

variable {x y p q v : Value ℚ} {a b : ℚ}

theorem add_fractions (hx : fractions.of x = some a) (hy : fractions.of y = some b) :
    ∃ z, x.add y = .ok z ∧ fractions.of z = some (a + b) := by
  cases x <;> cases hx <;> cases y <;> cases hy <;>
    first | exact ⟨_, rfl, rfl⟩ | exact ⟨_, rfl, congrArg some (Int.cast_add _ _)⟩

theorem sub_fractions (hx : fractions.of x = some a) (hy : fractions.of y = some b) :
    ∃ z, x.sub y = .ok z ∧ fractions.of z = some (a - b) := by
  cases x <;> cases hx <;> cases y <;> cases hy <;>
    first | exact ⟨_, rfl, rfl⟩ | exact ⟨_, rfl, congrArg some (Int.cast_sub _ _)⟩

theorem wrap_eq (h : fractions.of x = some a) :
    wrap x = if a < -180 then Value.add (.int 360) x else if 180 < a then x.sub (.int 360) else .ok x := by
  have hwest : fractions.of (.int (-180)) = some (-180) := rfl
  have heast : fractions.of (.int 180) = some 180 := rfl
  rw [wrap, fractions.lt_eq h hwest, fractions.gt_eq h heast]
  by_cases hlow : a < -180
  · simp [hlow, bind, Except.bind]
  · by_cases hhigh : 180 < a <;> simp [hlow, hhigh, bind, Except.bind, pure, Except.pure]

/-- Positions at the same place of the globe, the second with its longitude within half a turn. -/
def Turned (p q : Value ℚ) : Prop :=
  ∃ x y rest a b, p = .list (x :: rest) ∧ q = .list (y :: rest) ∧ fractions.of x = some a ∧ fractions.of y = some b ∧
    (-180 ≤ b ∧ b ≤ 180) ∧ ∃ n : ℤ, b = a + 360 * n

def Alike (R : Value ℚ → Value ℚ → Prop) : ℕ → Value ℚ → Value ℚ → Prop
  | 0, u, v => R u v
  | k + 1, u, v => ∃ xs ys, u = .list xs ∧ v = .list ys ∧ List.Forall₂ (Alike R k) xs ys

def Longitudinal (p : Value ℚ) : Prop :=
  ∃ x rest a, p = .list (x :: rest) ∧ fractions.of x = some a ∧ -540 ≤ a ∧ a ≤ 540

/-- Where `P` holds, `f` answers as `R` says, and asked about its answer gives it again. -/
def Settles (f : Value ℚ → Except Fault (Value ℚ)) (P : Value ℚ → Prop) (R : Value ℚ → Value ℚ → Prop) : Prop :=
  ∀ u, P u → ∃ v, f u = .ok v ∧ R u v ∧ f v = .ok v

theorem wrapPosition_settles : Settles wrapPosition Longitudinal Turned := by
  rintro _ ⟨x, rest, a, rfl, hx, hlow, hhigh⟩
  have hturn : fractions.of (.int 360) = some 360 := rfl
  -- after one turn at most the longitude is within half a turn, where nothing is done
  have hwrap : ∃ y b, wrap x = .ok y ∧ fractions.of y = some b ∧ (-180 ≤ b ∧ b ≤ 180) ∧ ∃ n : ℤ, b = a + 360 * n := by
    rw [wrap_eq hx]
    by_cases hwest : a < -180
    · obtain ⟨y, hy, hb⟩ := add_fractions hturn hx
      exact ⟨y, _, by rw [if_pos hwest, hy], hb, ⟨by linarith, by linarith⟩, 1, by push_cast; ring⟩
    by_cases heast : 180 < a
    · obtain ⟨y, hy, hb⟩ := sub_fractions hx hturn
      exact ⟨y, _, by rw [if_neg hwest, if_pos heast, hy], hb, ⟨by linarith, by linarith⟩, -1, by push_cast; ring⟩
    · exact ⟨x, a, by rw [if_neg hwest, if_neg heast], hx, ⟨not_lt.mp hwest, not_lt.mp heast⟩, 0, by simp⟩
  obtain ⟨y, b, hy, hb, hwithin, hsame⟩ := hwrap
  have hagain : wrap y = .ok y := by rw [wrap_eq hb, if_neg hwithin.1.not_gt, if_neg hwithin.2.not_gt]
  exact ⟨_, wrapPosition_list rest hy, ⟨x, y, rest, a, b, rfl, rfl, hx, hb, hwithin, hsame⟩, wrapPosition_list rest hagain⟩

theorem Settles.mapElements {f : Value ℚ → Except Fault (Value ℚ)} {P : Value ℚ → Prop} {R : Value ℚ → Value ℚ → Prop}
    (h : Settles f P R) : Settles (Value.mapElements f) (Everywhere P 1) (Alike R 1) := by
  rintro _ ⟨xs, rfl, hxs⟩
  choose! g hg using h
  refine ⟨.list (xs.map g), ?_, ⟨xs, _, rfl, rfl, ?_⟩, ?_⟩
  · rw [Value.mapElements, mapM_eq_ok fun x hx => (hg x (hxs x hx)).1]
    rfl
  · exact List.forall₂_map_right_iff.mpr (List.forall₂_same.mpr fun x hx => (hg x (hxs x hx)).2.1)
  · have hagain : ∀ y ∈ xs.map g, f y = .ok (id y) := by
      intro y hy
      obtain ⟨x, hx, rfl⟩ := List.mem_map.mp hy
      exact (hg x (hxs x hx)).2.2
    rw [Value.mapElements, mapM_eq_ok hagain, List.map_id]
    rfl

theorem wrapCoordinates_settles {type : String} {k : ℕ} (hshape : (type, k) ∈ shapes) (htype : type ∈ wrappedShapes) :
    Settles (wrapCoordinates (.str type)) (Everywhere Longitudinal k) (Alike Turned k) := by
  have hline := wrapPosition_settles.mapElements
  simp only [shapes, List.mem_cons, Prod.mk.injEq, List.not_mem_nil, or_false] at hshape
  obtain ⟨rfl, rfl⟩ | ⟨rfl, rfl⟩ | ⟨rfl, rfl⟩ | ⟨rfl, rfl⟩ | ⟨rfl, rfl⟩ | ⟨rfl, rfl⟩ := hshape
  · exact wrapPosition_settles
  · exact absurd htype (by decide)
  · exact hline
  · exact absurd htype (by decide)
  · exact hline.mapElements
  · exact absurd htype (by decide)

/-- **Longitudes are normalised in place.** A point, a line or a polygon with longitudes within three half turns comes
back, bare or as the geometry of a feature, with the same new coordinates: those of the same places, written with
longitudes within half a turn, all else in them, their nesting and the other members as before. What came back is not
changed again. -/
theorem longitudes_normalised {fields : List (String × Value ℚ)} {type : String} {k : ℕ} {c : Value ℚ}
    (hgeometry : IsGeometry fields type c) (hshape : (type, k) ∈ shapes) (htype : type ∈ wrappedShapes)
    (h : Everywhere Longitudinal k c) :
    ∃ c', Alike Turned k c c' ∧
      (∃ bare, bare = .record (insert "coordinates" c' fields) ∧ wrapLongitudes (.record fields) = .ok bare ∧
        wrapLongitudes bare = .ok bare) ∧
      ∀ feature, lookup "geometry" feature = some (.record fields) →
        ∃ whole, whole = .record (insert "geometry" (.record (insert "coordinates" c' fields)) feature) ∧
          wrapLongitudes (.record feature) = .ok whole ∧ wrapLongitudes whole = .ok whole := by
  obtain ⟨c', hc, halike, hagain⟩ := wrapCoordinates_settles hshape htype c h
  have hmoved : IsGeometry (insert "coordinates" c' fields) type c' :=
    ⟨by rw [Value.lookup_insert_of_ne (by decide), hgeometry.type], Value.lookup_insert_self,
      by rw [Value.lookup_insert_of_ne (by decide), hgeometry.bare]⟩
  have hsame : insert "coordinates" c' (insert "coordinates" c' fields) = insert "coordinates" c' fields :=
    Value.insert_self Value.lookup_insert_self
  refine ⟨c', halike, ⟨_, rfl, wrapLongitudes_record hgeometry hc, ?_⟩,
    fun feature hfeature => ⟨_, rfl, wrapLongitudes_feature hgeometry hc hfeature, ?_⟩⟩
  · rw [wrapLongitudes_record hmoved hagain, hsame]
  · rw [wrapLongitudes_feature hmoved hagain Value.lookup_insert_self, hsame, Value.insert_self Value.lookup_insert_self]

def track : Value ℚ := .list [.list [.real (401 / 2), 10, 3], .list [.int (-181), 4]]

theorem longitudes_normalised_track : ∃ c, Alike Turned 1 track c ∧
    wrapLongitudes (.record [("type", "LineString"), ("coordinates", track)]) =
      .ok (.record [("type", "LineString"), ("coordinates", c)]) := by
  have hgeometry : IsGeometry [("type", "LineString"), ("coordinates", track)] "LineString" track := ⟨rfl, rfl, rfl⟩
  have hlongitudes : Everywhere Longitudinal 1 track := by
    refine ⟨_, rfl, List.forall_mem_cons.mpr ⟨?_, List.forall_mem_singleton.mpr ?_⟩⟩
    · exact ⟨_, _, _, rfl, rfl, by norm_num, by norm_num⟩
    · exact ⟨_, _, _, rfl, rfl, by norm_num, by norm_num⟩
  obtain ⟨c, halike, ⟨bare, rfl, hbare, -⟩, -⟩ :=
    longitudes_normalised hgeometry (by decide) (by decide) hlongitudes
  exact ⟨c, halike, hbare⟩

end RemoteSensing.Geo

namespace RemoteSensing.Timelapse

open Value (insert)
open Geo (IsGeometry Everywhere Longitude shapes wrappedShapes)

/-- **Regions are brought back shape by shape.** A region with positions within three half turns is handed over with all
of them within half a turn exactly when it is a point, a line or a polygon, or needed nothing. -/
theorem wrappedRegion_within_iff {region g c : Data} {type : String} {k : ℕ} {fields : Fields}
    {w u v : World} (hregion : (geometryOf region).runIn w = (.ok (some g), u))
    (hdata : (Features.toDataCommand.call [g]).runIn u = (.ok (.record fields), v))
    (hgeometry : IsGeometry fields type c) (hshape : (type, k) ∈ shapes) (h : Everywhere (Longitude 540) k c) :
    ∃ c', (wrappedRegionCommand.call [region]).runIn w =
        (Session.submit (Kind.geometry.make [.record (insert "coordinates" c' fields)])).runIn v ∧
      (Everywhere (Longitude 180) k c' ↔ type ∈ wrappedShapes ∨ Everywhere (Longitude 180) k c) := by
  obtain ⟨c', hc, hwithin⟩ := Geo.wrapCoordinates_within_iff hshape h
  refine ⟨c', ?_, hwithin⟩
  refine (Session.runIn_bind_of_ok hregion _).trans ?_
  refine (Session.runIn_bind_of_ok hdata _).trans ?_
  have hadjust : (Geo.adjustLongitudes (.record fields)).runIn v = (.ok (.record (insert "coordinates" c' fields)), v) := by
    rw [Geo.adjustLongitudes, Geo.wrapLongitudes_record hgeometry hc]
    rfl
  exact Session.runIn_bind_of_ok hadjust _

theorem wrappedRegion_within_iff_polygon :
    let c : Data := .list [.list [.list [.int (-200), .int 0], .list [.real 190.5, .int 1], .list [.int 10, .int 2]]]
    let fields : Fields := [("type", .str "Polygon"), ("coordinates", c)]
    let w : World := { answers := [.ok (.record fields)] }
    Everywhere (Longitude 540) 2 c ∧ ∃ c', (wrappedRegionCommand.call [.object .geometry "roi"]).runIn w =
        (Session.submit (Kind.geometry.make [.record (insert "coordinates" c' fields)])).runIn
          { w with asked := ["roi.getInfo()"] } ∧
      Everywhere (Longitude 180) 2 c' := by
  intro c fields w
  have h : Everywhere (Longitude 540) 2 c := by
    refine ⟨_, rfl, List.forall_mem_singleton.mpr ⟨_, rfl, ?_⟩⟩
    simp only [List.forall_mem_cons, List.not_mem_nil, IsEmpty.forall_iff, implies_true, and_true]
    exact ⟨⟨_, _, rfl, rfl, rfl⟩, ⟨_, _, rfl, rfl, rfl⟩, ⟨_, _, rfl, rfl, rfl⟩⟩
  have hregion : (geometryOf (.object .geometry "roi")).runIn w = (.ok (some (.object .geometry "roi")), w) := rfl
  obtain ⟨c', hrun, hwithin⟩ := wrappedRegion_within_iff hregion rfl ⟨rfl, rfl, rfl⟩ (by decide) h
  exact ⟨h, c', hrun, hwithin.mpr (.inl (by decide))⟩

/-- Two hundred degrees east stay two hundred degrees east in a shape of several points. -/
theorem multiPoint_passed_through :
    let c : Data := .list [.list [.int 200, .int 0]]
    let shape : Data := .record [("type", .str "MultiPoint"), ("coordinates", c)]
    ((wrappedRegionCommand.call [.object .geometry "roi"]).runIn { answers := [.ok shape] }).1 =
        .ok (Kind.geometry.make [shape]) ∧
      Everywhere (Longitude 540) 1 c ∧ ¬ Everywhere (Longitude 180) 1 c := by
  refine ⟨rfl, ⟨_, rfl, List.forall_mem_singleton.mpr ⟨_, _, rfl, rfl, rfl⟩⟩, ?_⟩
  rintro ⟨xs, hxs, h⟩
  cases hxs
  obtain ⟨x, rest, hx, -, hhigh⟩ := h _ List.mem_cons_self
  cases hx
  cases hhigh

end RemoteSensing.Timelapse
