import RemoteSensing.Plot
import RemoteSensing.Proofs.Session.Run

/-!
Pictures of samples.
-/

namespace RemoteSensing.Plot

open List Value

variable {xs : List Data} {cell cell' : Nat → Nat → Float} {ps : List (Nat × Nat)}

/-- The points in the order in which they are asked for; of each the number of its longitude and that of its latitude. -/
def sampleGrid : List (Nat × Nat) := (List.range side).flatMap fun i => (List.range side).map fun j => (i, j)

theorem length_sampleGrid : sampleGrid.length = side * side := by
  rw [sampleGrid, length_flatMap]
  simp

theorem ascending_sampleGrid : sampleGrid.Pairwise fun p q => p.1 ≤ q.1 := by
  rw [sampleGrid, pairwise_flatMap]
  constructor
  · intro i _
    rw [pairwise_map]
    exact pairwise_of_forall fun _ _ => Nat.le_refl i
  · refine pairwise_lt_range.imp ?_
    intro i i' hlt p hp q hq
    obtain ⟨j, -, rfl⟩ := mem_map.mp hp
    obtain ⟨j', -, rfl⟩ := mem_map.mp hq
    exact Nat.le_of_lt hlt

theorem length_places {low high : Data} (h : places low high = .ok xs) : xs.length = side := by
  obtain ⟨_, -, h⟩ := bind_eq_ok.mp h
  obtain ⟨_, -, h⟩ := bind_eq_ok.mp h
  rw [← (forall₂_of_mapM h).length_eq, length_range]

theorem map_getD_range {n : Nat} (h : xs.length = n) : (List.range n).map (fun i => xs.getD i .null) = xs := by
  subst h
  refine ext_getElem (by simp) fun i hi hx => ?_
  simp [getD_eq_getElem?_getD, hx]

theorem samplePoints_eq {a : Area} {lons lats : List Data} (hlons : places a.west a.east = .ok lons)
    (hlats : places a.south a.north = .ok lats) : samplePoints a = .ok (sampleGrid.map fun p =>
      Kind.geometry.fn "Point" [.list [lons.getD p.1 .null, lats.getD p.2 .null]]) := by
  have hgrid (f : Data → Data → Data) : (lons.flatMap fun lon => lats.map (f lon)) =
      sampleGrid.map fun p => f (lons.getD p.1 .null) (lats.getD p.2 .null) := by
    rw [sampleGrid, map_flatMap]
    conv_lhs => rw [← map_getD_range (length_places hlons), flatMap_map]
    congr 1
    funext i
    conv_lhs => rw [← map_getD_range (length_places hlats), map_map]
    rfl
  rw [samplePoints, hlons, hlats]
  exact congrArg Except.ok (hgrid fun lon lat => Kind.geometry.fn "Point" [.list [lon, lat]])

/-- A feature with a number for the band, or with none. -/
def Shows (band : String) (feature : Data) (value : Option Float) : Prop :=
  ∃ fields, feature.item "properties" = .ok (.record fields) ∧ match value with
    | some x => ∃ v, Value.lookup band fields = some v ∧ v.isNumber = true ∧ v.toReal = .ok x
    | none => (Value.lookup band fields).getD .null = .null

/-- An answer with the features of some points, in their order. -/
def Returns (band : String) (ps : List (Nat × Nat)) (value : Nat × Nat → Option Float) (samples : Data) : Prop :=
  ∃ features, samples.item "features" = .ok (.list features) ∧ Forall₂ (fun p f => Shows band f (value p)) ps features

def missing : Float := 0.0 / 0.0

def picture (cell : Nat → Nat → Float) : Data :=
  .grid (.list ((List.range side).map fun r => .list ((List.range side).map fun c => .real (cell r c))))

/-- What belongs into a cell: the value of the point there, with the north on top. -/
def cellOf (ps : List (Nat × Nat)) (value : Nat × Nat → Option Float) (r c : Nat) : Float :=
  if (c, side - 1 - r) ∈ ps then (value (c, side - 1 - r)).getD missing else missing

theorem picture_inj (h : picture cell = picture cell') {r c : Nat} (hr : r < side) (hc : c < side) :
    cell r c = cell' r c := by
  have hrow := congrArg (·[r]?) (list.inj (grid.inj h))
  simp only [getElem?_map, getElem?_range hr, Option.map_some, Option.some_inj, list.injEq] at hrow
  have hcell := congrArg (·[c]?) hrow
  simp only [getElem?_map, getElem?_range hc, Option.map_some, Option.some_inj, real.injEq] at hcell
  exact hcell

theorem picture_congr (h : ∀ r c, r < side → c < side → cell r c = cell' r c) : picture cell = picture cell' := by
  refine congrArg (fun rows => grid (list rows)) (map_congr_left fun r hr => congrArg list ?_)
  exact map_congr_left fun c hc => congrArg real (h r c (mem_range.mp hr) (mem_range.mp hc))

section Answered

variable {band : String} {value : Nat × Nat → Option Float} {samples : Data}

theorem sampleNumber_eq {feature : Data} {shown : Option Float} (h : Shows band feature shown) {position : Nat}
    (hposition : position < side * side) : sampleNumber (.str band) position feature = .ok (shown.getD missing) := by
  obtain ⟨fields, hproperties, h⟩ := h
  have hget : (Value.record fields : Data).get band = .ok ((Value.lookup band fields).getD .null) := rfl
  simp only [sampleNumber, hproperties, hget, bind, Except.bind]
  cases shown with
  | none =>
    rw [h]
    rfl
  | some x =>
    obtain ⟨v, hlookup, hnumber, hreal⟩ := h
    rw [hlookup, Option.getD_some, Option.getD_some]
    -- a number is neither nothing nor a sequence
    cases v <;> first | exact (if_neg Bool.false_ne_true).trans ((if_neg (Nat.not_le.mpr hposition)).trans hreal) | cases hnumber

theorem mapM_sampleNumber {features : List Data} (h : Forall₂ (fun p f => Shows band f (value p)) ps features) {k : Nat}
    (hk : ps.length + k ≤ side * side) : ((features.zipIdx k).mapM fun f => sampleNumber (.str band) f.2 f.1) =
      .ok (ps.map fun p => (value p).getD missing) := by
  induction h generalizing k with
  | nil => rfl
  | cons hfirst _ ih =>
    rw [length_cons] at hk
    rw [zipIdx_cons, mapM_cons, sampleNumber_eq hfirst (by omega), ih (by omega)]
    rfl

theorem sampledArray_eq (hps : ps <+ sampleGrid) (h : Returns band ps value samples) :
    sampledArray (.str band) samples = .ok (picture fun r c => ((ps[side * r + c]?).bind value).getD missing) := by
  obtain ⟨features, hfeatures, hshow⟩ := h
  have hnumbers := mapM_sampleNumber hshow (k := 0) (length_sampleGrid ▸ hps.length_le)
  have helements : (list features : Data).elements = .ok features := rfl
  rw [sampledArray, hfeatures]
  simp only [bind, Except.bind, helements, hnumbers]
  refine congrArg (fun rows => Except.ok (grid (list rows))) ?_
  rw [arrayOf, map_map]
  refine map_congr_left fun r _ => congrArg list ?_
  rw [map_map]
  refine map_congr_left fun c _ => congrArg real ?_
  dsimp only
  rw [getElem?_map]
  cases ps[side * r + c]? <;> rfl

end Answered

section Right

variable {band : String} (hps : ps <+ sampleGrid)
include hps

/-- A point that is told of alone can only be in its cell if it is at the right place of the answer. -/
theorem getElem_of_right (hright : ∀ value samples, Returns band ps value samples →
      sampledArray (.str band) samples = .ok (picture (cellOf ps value))) {k : Nat} (hk : k < ps.length) :
    ps[k] = (k % side, side - 1 - k / side) := by
  have hlength : ps.length ≤ side * side := length_sampleGrid ▸ hps.length_le
  let value : Nat × Nat → Option Float := fun p => if p = ps[k] then some 1.0 else none
  let feature (p : Nat × Nat) : Data :=
    .record [("properties", .record (if p = ps[k] then [(band, .real 1.0)] else []))]
  have hanswers : Returns band ps value (.record [("features", .list (ps.map feature))]) := by
    refine ⟨ps.map feature, rfl, forall₂_map_right_iff.mpr (forall₂_same.mpr fun p _ => ⟨_, rfl, ?_⟩)⟩
    by_cases hp : p = ps[k]
    · simp only [value, if_pos hp]
      exact ⟨.real 1.0, by simp [Value.lookup], rfl, rfl⟩
    · simp only [value, if_neg hp]
      rfl
  have hpicture := Except.ok.inj ((sampledArray_eq hps hanswers).symm.trans (hright _ _ hanswers))
  have hcell := picture_inj hpicture (r := k / side) (c := k % side)
    (Nat.div_lt_of_lt_mul (Nat.lt_of_lt_of_le hk hlength)) (Nat.mod_lt k (by decide))
  have hshown : ((ps[side * (k / side) + k % side]?).bind value).getD missing = 1.0 := by
    rw [Nat.div_add_mod, getElem?_eq_getElem hk, Option.bind_some]
    simp [value]
  have hone : (1.0 : Float) ≠ missing := by decide +kernel
  by_contra hne
  have hother : value (k % side, side - 1 - k / side) = none := if_neg (Ne.symm hne)
  rw [hshown, cellOf, hother, Option.getD_none, ite_self] at hcell
  exact hone hcell

end Right

/-- **Pictures of samples.** The points are asked for column by column from the south; their values are put into the cells row by
row from the north, as far as there are values. So the picture is right, whatever the values are, exactly if the answer
has the first points of the northernmost row and no others. Between the two stands only the call to the server. -/
theorem sampled_picture_right_iff {a : Area} {lons lats : List Data} (hlons : places a.west a.east = .ok lons)
    (hlats : places a.south a.north = .ok lats) (band : String) {ps : List (Nat × Nat)} (hps : ps <+ sampleGrid) :
    samplePoints a = .ok (sampleGrid.map fun p =>
      Kind.geometry.fn "Point" [.list [lons.getD p.1 .null, lats.getD p.2 .null]]) ∧
    (∀ value samples, Returns band ps value samples →
      sampledArray (.str band) samples = .ok (picture fun r c => ((ps[side * r + c]?).bind value).getD missing)) ∧
    ((∀ value samples, Returns band ps value samples →
      sampledArray (.str band) samples = .ok (picture (cellOf ps value))) ↔
        ∃ n ≤ side, ps = (List.range n).map fun i => (i, side - 1)) := by
  refine ⟨samplePoints_eq hlons hlats, fun value samples => sampledArray_eq hps, ?_, ?_⟩
  · intro hright
    have hplaces : ∀ {k} (hk : k < ps.length), ps[k] = (k % side, side - 1 - k / side) := getElem_of_right hps hright
    have hascending := ascending_sampleGrid.sublist hps
    -- the first point of the second row would stand in front of the last one of the first
    have hfew : ps.length ≤ side := by
      by_contra hmany
      have hpair := pairwise_iff_getElem.mp hascending (side - 1) side (by omega) (by omega) (by decide)
      rw [hplaces, hplaces] at hpair
      exact absurd hpair (by decide)
    refine ⟨ps.length, hfew, ext_getElem (by simp) fun k hk _ => ?_⟩
    rw [hplaces, getElem_map, getElem_range, Nat.mod_eq_of_lt (by omega), Nat.div_eq_of_lt (by omega)]
    rfl
  · rintro ⟨n, hn, rfl⟩ value samples hanswers
    rw [sampledArray_eq hps hanswers]
    refine congrArg Except.ok (picture_congr fun r c hr hc => ?_)
    have hmem : (c, side - 1 - r) ∈ (List.range n).map (fun i => (i, side - 1)) ↔ r = 0 ∧ c < n := by
      simp only [mem_map, mem_range, Prod.mk.injEq]
      constructor
      · rintro ⟨i, hi, rfl, hrow⟩
        omega
      · rintro ⟨rfl, hcn⟩
        exact ⟨c, hcn, rfl, by omega⟩
    rw [cellOf]
    by_cases hin : r = 0 ∧ c < n
    · obtain ⟨rfl, hcn⟩ := hin
      rw [if_pos (hmem.mpr ⟨rfl, hcn⟩), Nat.mul_zero, Nat.zero_add, getElem?_map, getElem?_range hcn]
      rfl
    · have hbehind : n ≤ side * r + c := by
        by_cases hzero : r = 0
        · omega
        · have := Nat.le_mul_of_pos_right side (Nat.pos_of_ne_zero hzero)
          omega
      rw [if_neg fun h => hin (hmem.mp h), getElem?_eq_none (by simpa using hbehind)]
      rfl

theorem sampled_picture_right_north : ((places (0 : Data) 100).isOk = true ∧ [(0, side - 1)] <+ sampleGrid) ∧
    ∀ value samples, Returns "B4" [(0, side - 1)] value samples →
      sampledArray "B4" samples = .ok (picture (cellOf [(0, side - 1)] value)) := by
  have hplaces : (places (0 : Data) 100).isOk = true := by decide +kernel
  have hps : [(0, side - 1)] <+ sampleGrid := singleton_sublist.mpr (by simp [sampleGrid, side])
  refine ⟨⟨hplaces, hps⟩, ?_⟩
  cases hok : places (0 : Data) 100 with
  | error e =>
    rw [hok] at hplaces
    cases hplaces
  | ok lons => exact (sampled_picture_right_iff (a := ⟨0, 100, 0, 100⟩) hok hok "B4" hps).2.2.mpr ⟨1, by decide, rfl⟩

/-- A point in the southwest corner of the area is shown in the northwest corner of the picture. -/
theorem southwest_sample_misplaced :
    ∃ cell, sampledArray "B4" (.record [("features", .list [.record [("properties", .record [("B4", .real 1.0)])]])]) =
      .ok (picture cell) ∧ cell 0 0 = 1.0 ∧ cellOf [(0, 0)] (fun _ => some 1.0) 0 0 ≠ 1.0 ∧
      cellOf [(0, 0)] (fun _ => some 1.0) (side - 1) 0 = 1.0 := by
  have hanswers : Returns "B4" [(0, 0)] (fun _ => some 1.0)
      (.record [("features", .list [.record [("properties", .record [("B4", .real 1.0)])]])]) :=
    ⟨_, rfl, .cons ⟨_, rfl, _, rfl, rfl, rfl⟩ .nil⟩
  exact ⟨_, sampledArray_eq (singleton_sublist.mpr (by simp [sampleGrid, side])) hanswers, rfl, by decide +kernel, rfl⟩

end RemoteSensing.Plot
