import RemoteSensing.Geo.Bounds
import RemoteSensing.Proofs.Session.Run
import RemoteSensing.Proofs.Value.Fields
import RemoteSensing.Proofs.Value.Order
import RemoteSensing.Stac

/-!
The bounds of a geometry are the tight box around its positions.
-/

namespace RemoteSensing.Geo

open List hiding minimum maximum lookup
open Stac (Box)
open Value (lookup minimum maximum AtMost minimum_eq maximum_eq height)

variable {fields : Fields} {c x v g : Data} {d : Nat}

/-- A position: two numbers, and what else may stand behind them. -/
structure Vertex where
  x : Data
  y : Data
  more : List Data
  hx : x.Comparable
  hy : y.Comparable

variable {ps : List Vertex} {parts : List (Data × List Vertex)}

def Vertex.value (p : Vertex) : Data := .list (p.x :: p.y :: p.more)

/-- Positions in lists, nested to any depth. -/
inductive Coordinates : Data → List Vertex → Prop
  | position (p : Vertex) : Coordinates p.value [p]
  | nest (parts : List (Data × List Vertex)) : (∀ part ∈ parts, Coordinates part.1 part.2) →
      Coordinates (.list (parts.map (·.1))) (parts.flatMap (·.2))

theorem Coordinates.positions_eq (h : Coordinates c ps) :
    c.isNumber = false ∧ positions c = .ok (ps.map Vertex.value) := by
  induction h with
  | position p =>
    refine ⟨rfl, ?_⟩
    rw [Vertex.value, positions, positionsIn, if_pos p.hx.isNumber]
    rfl
  | nest parts h ih =>
    clear h
    refine ⟨rfl, ?_⟩
    rw [positions]
    generalize Value.list (parts.map (·.1)) = whole
    induction parts with
    | nil => rw [map_nil, positionsIn]; rfl
    | cons part rest ih' =>
      obtain ⟨hnumber, hpositions⟩ := ih part mem_cons_self
      have hrest := ih' fun q hq => ih q (mem_cons_of_mem part hq)
      rw [map_cons, positionsIn, if_neg (by simp [hnumber]), hpositions, hrest, flatMap_cons, map_append]
      rfl

/-- What is found among values is one of them, with all of them behind it. -/
structure Picks (pick : List Data → Except Fault Data) (le : Data → Data → Prop) : Prop where
  exists_first : ∀ {xs : List Data}, xs ≠ [] → (∀ v ∈ xs, v.Comparable) → ∃ m ∈ xs, pick xs = .ok m ∧ ∀ v ∈ xs, le m v
  trans : ∀ {a b c : Data}, a.Comparable → b.Comparable → c.Comparable → le a b → le b c → le a c
  antisymm : ∀ {a b : Data}, a.Comparable → b.Comparable → le a b → le b a → a.same b = true

theorem picks_minimum : Picks minimum AtMost := ⟨minimum_eq, fun ha hb hc hab => hab.trans ha hb hc, AtMost.antisymm⟩

theorem picks_maximum : Picks maximum fun a b => b.AtMost a :=
  ⟨maximum_eq, fun ha hb hc hab hbc => hbc.trans hc hb ha hab, fun ha hb hab hba => AtMost.antisymm ha hb hba hab⟩

/-- A coordinate that some of the positions has and that none of them passes. -/
def Extreme (le : Data → Data → Prop) (coord : Vertex → Data) (ps : List Vertex) (m : Data) : Prop :=
  m ∈ ps.map coord ∧ ∀ p ∈ ps, le m (coord p)

/-- The box around positions: all of them lie in it, and each of its sides is reached. -/
structure Tight (ps : List Vertex) (b : Box Float) : Prop where
  west : Extreme AtMost (·.x) ps b.west
  south : Extreme AtMost (·.y) ps b.south
  east : Extreme (fun a b => b.AtMost a) (·.x) ps b.east
  north : Extreme (fun a b => b.AtMost a) (·.y) ps b.north

section Extremes

variable {pick : List Data → Except Fault Data} {le : Data → Data → Prop} {coord : Vertex → Data}

theorem Extreme.comparable {m : Data} (h : Extreme le coord ps m) (hcoord : ∀ p, (coord p).Comparable) : m.Comparable := by
  obtain ⟨p, -, rfl⟩ := mem_map.mp h.1
  exact hcoord p

variable (hp : Picks pick le) (hcoord : ∀ p, (coord p).Comparable)
include hp hcoord

theorem Picks.extreme (hne : ps ≠ []) : ∃ m, pick (ps.map coord) = .ok m ∧ Extreme le coord ps m := by
  obtain ⟨m, hm, hpick, hle⟩ := hp.exists_first (mt map_eq_nil_iff.mp hne) (by simpa using fun p _ => hcoord p)
  exact ⟨m, hpick, hm, forall_mem_map.mp hle⟩

/-- What is farthest among the farthest of the parts is farthest of all. -/
theorem Picks.extreme_of_parts {side : Data × List Vertex → Data} (hne : parts ≠ [])
    (hside : ∀ part ∈ parts, Extreme le coord part.2 (side part)) :
    ∃ m, pick (parts.map side) = .ok m ∧ Extreme le coord (parts.flatMap (·.2)) m := by
  have hcomparable : ∀ part ∈ parts, (side part).Comparable := fun part hpart => (hside part hpart).comparable hcoord
  obtain ⟨m, hm, hpick, hle⟩ := hp.exists_first (mt map_eq_nil_iff.mp hne) (forall_mem_map.mpr hcomparable)
  obtain ⟨part, hpart, rfl⟩ := mem_map.mp hm
  refine ⟨_, hpick, ?_, fun p hin => ?_⟩
  · rw [map_flatMap, mem_flatMap]
    exact ⟨part, hpart, (hside part hpart).1⟩
  · obtain ⟨q, hq, hpq⟩ := mem_flatMap.mp hin
    exact hp.trans (hcomparable part hpart) (hcomparable q hq) (hcoord p) (forall_mem_map.mp hle q hq) ((hside q hq).2 p hpq)

end Extremes

/-- The sides as they are given, with the south first if north is up. -/
def sidesOf (northUp : Bool) (b : Box Float) : Data := (order northUp b.west b.south b.east b.north).toValue

theorem filterMap_column {α : Type} (xs : List α) (row : α → List Data) (i : Nat) (side : α → Data)
    (h : ∀ x, (row x)[i]? = some (side x)) : (xs.map row).filterMap (fun part => part[i]?) = xs.map side := by
  rw [filterMap_map, ← filterMap_eq_map]
  exact congrArg (fun f => xs.filterMap f) (funext h)

section Around

variable {b : Box Float}

theorem boxAround_eq (hne : ps ≠ []) (hwest : minimum (ps.map (·.x)) = .ok b.west)
    (hsouth : minimum (ps.map (·.y)) = .ok b.south) (heast : maximum (ps.map (·.x)) = .ok b.east)
    (hnorth : maximum (ps.map (·.y)) = .ok b.north) (northUp : Bool) :
    boxAround northUp (ps.map Vertex.value) = .ok (order northUp b.west b.south b.east b.north) := by
  have hparts : (ps.map Vertex.value).mapM Value.elements = .ok (ps.map fun p => p.x :: p.y :: p.more) := by
    rw [mapM_map]
    exact mapM_eq_ok fun p _ => rfl
  obtain ⟨width, hwidth, htwo⟩ : ∃ width,
      ((ps.map fun p => p.x :: p.y :: p.more).map length).min? = some width ∧ 2 ≤ width := by
    cases hmin : ((ps.map fun p => p.x :: p.y :: p.more).map length).min? with
    | none => simp [min?_eq_none_iff, hne] at hmin
    | some width =>
      refine ⟨width, rfl, ?_⟩
      have hmem := min?_mem hmin
      simp only [mem_map] at hmem
      obtain ⟨_, ⟨p, -, rfl⟩, rfl⟩ := hmem
      simp
  have hrow := @filterMap_column _ ps fun p => p.x :: p.y :: p.more
  unfold boxAround
  rw [hparts]
  simp only [bind, Except.bind, hwidth, Option.getD_some, if_pos (show 0 < width by omega), if_pos (show 1 < width by omega),
    hrow 0 (·.x) fun _ => rfl, hrow 1 (·.y) fun _ => rfl, hwest, hsouth, heast, hnorth]
  cases northUp <;> rfl

theorem exists_tight (hne : ps ≠ []) : ∃ b, Tight ps b ∧
    ∀ northUp, boxAround northUp (ps.map Vertex.value) = .ok (order northUp b.west b.south b.east b.north) := by
  obtain ⟨w, hwest, hw⟩ := picks_minimum.extreme Vertex.hx hne
  obtain ⟨s, hsouth, hs⟩ := picks_minimum.extreme Vertex.hy hne
  obtain ⟨e, heast, he⟩ := picks_maximum.extreme Vertex.hx hne
  obtain ⟨n, hnorth, hn⟩ := picks_maximum.extreme Vertex.hy hne
  exact ⟨⟨w, s, e, n⟩, ⟨hw, hs, he, hn⟩, boxAround_eq hne hwest hsouth heast hnorth⟩

theorem boxAroundBoxes_eq {bs : List (Box Float)} (hwest : minimum (bs.map (·.west)) = .ok b.west)
    (hsouth : minimum (bs.map (·.south)) = .ok b.south) (heast : maximum (bs.map (·.east)) = .ok b.east)
    (hnorth : maximum (bs.map (·.north)) = .ok b.north) (northUp : Bool) :
    boxAroundBoxes northUp (bs.map (sidesOf true)) = .ok (order northUp b.west b.south b.east b.north) := by
  have hparts : (bs.map (sidesOf true)).mapM (fun b => b.unpack 4) =
      .ok (bs.map fun b => [b.west, b.south, b.east, b.north]) := by
    rw [mapM_map]
    exact mapM_eq_ok fun p _ => rfl
  have hrow := @filterMap_column _ bs fun b => [b.west, b.south, b.east, b.north]
  unfold boxAroundBoxes
  rw [hparts]
  simp only [bind, Except.bind, hrow 0 (·.west) fun _ => rfl, hrow 1 (·.south) fun _ => rfl,
    hrow 2 (·.east) fun _ => rfl, hrow 3 (·.north) fun _ => rfl, hwest, hsouth, heast, hnorth]
  cases northUp <;> rfl

theorem members_tight {f : Data → Except Fault Data} (hne : parts ≠ [])
    (h : ∀ part ∈ parts, ∃ b, Tight part.2 b ∧ f part.1 = .ok (sidesOf true b)) :
    ∃ b, Tight (parts.flatMap (·.2)) b ∧ ∀ northUp, ((parts.map (·.1)).mapM f >>= fun boxes =>
      boxAroundBoxes northUp boxes >>= fun s => pure s.toValue) = .ok (sidesOf northUp b) := by
  choose! find htight hf using h
  have hboxes : (parts.map (·.1)).mapM f = .ok ((parts.map find).map (sidesOf true)) := by
    rw [mapM_map, map_map]
    exact mapM_eq_ok hf
  obtain ⟨w, hwest, hw⟩ := picks_minimum.extreme_of_parts Vertex.hx hne fun q hq => (htight q hq).west
  obtain ⟨s, hsouth, hs⟩ := picks_minimum.extreme_of_parts Vertex.hy hne fun q hq => (htight q hq).south
  obtain ⟨e, heast, he⟩ := picks_maximum.extreme_of_parts Vertex.hx hne fun q hq => (htight q hq).east
  obtain ⟨n, hnorth, hn⟩ := picks_maximum.extreme_of_parts Vertex.hy hne fun q hq => (htight q hq).north
  refine ⟨⟨w, s, e, n⟩, ⟨hw, hs, he, hn⟩, fun northUp => ?_⟩
  rw [hboxes]
  show (boxAroundBoxes northUp ((parts.map find).map (sidesOf true)) >>= fun s => pure s.toValue) = _
  rw [boxAroundBoxes_eq (b := ⟨w, s, e, n⟩) (by rwa [map_map]) (by rwa [map_map]) (by rwa [map_map]) (by rwa [map_map])]
  rfl

end Around

/-- A record with neither bounds of its own nor a geometry in it. -/
structure Bare (fields : Fields) : Prop where
  bbox : lookup "bbox" fields = none
  geometry : lookup "geometry" fields = none

/-- Geometries with their positions, collections of them nested to any depth. -/
inductive Outlined : Data → List Vertex → Prop
  | single {fields : Fields} {c : Data} {ps : List Vertex} : Bare fields →
      lookup "features" fields = none → lookup "geometries" fields = none → lookup "coordinates" fields = some c →
      Coordinates c ps → ps ≠ [] → Outlined (.record fields) ps
  | collection {fields : Fields} (parts : List (Data × List Vertex)) : Bare fields →
      lookup "features" fields = none → lookup "geometries" fields = some (.list (parts.map (·.1))) → parts ≠ [] →
      (∀ part ∈ parts, Outlined part.1 part.2) → Outlined (.record fields) (parts.flatMap (·.2))

/-- Geometries, features and collections of features, with their positions. -/
inductive Placed : Data → List Vertex → Prop
  | geometry {g : Data} {ps : List Vertex} : Outlined g ps → Placed g ps
  | feature {fields : Fields} {g : Data} {ps : List Vertex} : lookup "bbox" fields = none →
      lookup "geometry" fields = some g → Outlined g ps → Placed (.record fields) ps
  | features {fields : Fields} (parts : List (Data × List Vertex)) : Bare fields →
      lookup "features" fields = some (.list (parts.map (·.1))) → parts ≠ [] →
      (∀ part ∈ parts, ∃ inner g, part.1 = .record inner ∧ lookup "geometry" inner = some g ∧ Outlined g part.2) →
      Placed (.record fields) (parts.flatMap (·.2))

def memberBox (depth : Nat) (g : Data) : Except Fault Data := do
  let b ← boxWithin depth true .null g
  pure (.tuple (← b.unpack 4))

section Within

variable {northUp : Bool} {ms : List Data} (h : Bare fields)
include h

theorem Bare.skips : (Value.record fields).has "bbox" = pure false ∧ (Value.record fields).get "geometry" = pure .null := by
  rw [Value.has, Value.get, Value.getD, h.bbox, h.geometry]
  exact ⟨rfl, rfl⟩

theorem boxWithin_features (hfeatures : lookup "features" fields = some (.list ms)) :
    boxWithin (d + 1) northUp .null (.record fields) = (ms.mapM (fun f => f.item "geometry" >>= memberBox d) >>= fun boxes =>
      boxAroundBoxes northUp boxes >>= fun s => pure s.toValue) := by
  simp only [boxWithin, h.skips, pure_bind, Value.truthy, Bool.false_eq_true, if_false]
  simp only [Value.has, Value.item, hfeatures]
  cases lookup "coordinates" fields <;> cases lookup "geometries" fields <;> rfl

theorem boxWithin_geometries (hfeatures : lookup "features" fields = none)
    (hgeometries : lookup "geometries" fields = some (.list ms)) :
    boxWithin (d + 1) northUp .null (.record fields) = (ms.mapM (memberBox d) >>= fun boxes =>
      boxAroundBoxes northUp boxes >>= fun s => pure s.toValue) := by
  simp only [boxWithin, h.skips, pure_bind, Value.truthy, Bool.false_eq_true, if_false]
  simp only [Value.has, Value.item, hfeatures, hgeometries]
  cases lookup "coordinates" fields <;> rfl

theorem boxWithin_coordinates {points : List Data} (hfeatures : lookup "features" fields = none)
    (hgeometries : lookup "geometries" fields = none) (hcoordinates : lookup "coordinates" fields = some c)
    (hpoints : positions c = .ok points) :
    boxWithin (d + 1) northUp .null (.record fields) = (boxAround northUp points >>= fun s => pure s.toValue) := by
  simp only [boxWithin, h.skips, pure_bind, Value.truthy, Bool.false_eq_true, if_false]
  simp only [Value.has, Value.item, hfeatures, hgeometries, hcoordinates]
  show (positions c >>= _) = _
  rw [hpoints]
  rfl

end Within

theorem height_le_of_mem {xs : List Data} (h : x ∈ xs) : height x ≤ Value.heightOfList xs := by
  induction xs with
  | nil => cases h
  | cons y rest ih =>
    rcases mem_cons.mp h with rfl | h
    · exact le_max_left _ _
    · exact le_max_of_le_right (ih h)

theorem height_lt_of_lookup {key : String} (h : lookup key fields = some v) :
    height v < height (.record fields) := by
  obtain ⟨before, after, rfl, -⟩ := Value.lookup_split h
  rw [height, Nat.lt_succ_iff]
  clear h
  induction before with
  | nil => exact le_max_left _ _
  | cons field rest ih => exact le_max_of_le_right ih

theorem height_member {key : String} {xs : List Data}
    (h : lookup key fields = some (.list xs)) (hx : x ∈ xs) : height x + 2 ≤ height (.record fields) := by
  have hlist := height_lt_of_lookup h
  have hmember := height_le_of_mem hx
  rw [height] at hlist
  omega

/-- The depth is counted down once for each collection that is entered, so the height is enough. -/
theorem Outlined.within (h : Outlined g ps) (hd : height g ≤ d + 1) :
    ∃ b, Tight ps b ∧ ∀ northUp, boxWithin (d + 1) northUp .null g = .ok (sidesOf northUp b) := by
  induction h generalizing d with
  | single hbare hfeatures hgeometries hcoordinates hc hne =>
    obtain ⟨b, htight, hbox⟩ := exists_tight hne
    refine ⟨b, htight, fun northUp => ?_⟩
    rw [boxWithin_coordinates hbare hfeatures hgeometries hcoordinates hc.positions_eq.2, hbox]
    rfl
  | collection parts hbare hfeatures hgeometries hne hparts ih =>
    obtain ⟨b, htight, hbox⟩ := members_tight (f := memberBox d) hne fun part hpart => by
      have hheight := height_member hgeometries (mem_map_of_mem hpart)
      obtain ⟨d, rfl⟩ : ∃ e, d = e + 1 := ⟨d - 1, by omega⟩
      obtain ⟨b, htight, hbox⟩ := ih part hpart (d := d) (by omega)
      refine ⟨b, htight, ?_⟩
      rw [memberBox, hbox]
      rfl
    refine ⟨b, htight, fun northUp => ?_⟩
    rw [boxWithin_geometries hbare hfeatures hgeometries, hbox]

theorem boxWithin_feature {northUp : Bool}
    (hbbox : lookup "bbox" fields = none) (hgeometry : lookup "geometry" fields = some g) (h : Outlined g ps) :
    boxWithin (d + 1) northUp .null (.record fields) = boxWithin (d + 1) northUp .null g := by
  have hfirst : ∀ {inner}, Bare inner → lookup "geometry" fields = some (.record inner) → inner ≠ [] →
      boxWithin (d + 1) northUp .null (.record fields) = boxWithin (d + 1) northUp .null (.record inner) := by
    intro inner hbare hinner hne
    obtain ⟨field, rest, rfl⟩ := exists_cons_of_ne_nil hne
    have hhas : (Value.record fields).has "bbox" = .ok false := by rw [Value.has, hbbox]; rfl
    have hget : (Value.record fields).get "geometry" = .ok (.record (field :: rest)) := by
      rw [Value.get, Value.getD, hinner]; rfl
    simp only [boxWithin, hhas, hget, hbare.skips]
    rfl
  cases h with
  | single hbare _ _ hcoordinates => exact hfirst hbare hgeometry (by rintro rfl; cases hcoordinates)
  | collection parts hbare _ hgeometries => exact hfirst hbare hgeometry (by rintro rfl; cases hgeometries)

theorem Placed.box_eq (h : Placed v ps) : ∃ b, Tight ps b ∧ ∀ northUp, box northUp .null v = .ok (sidesOf northUp b) := by
  cases h with
  | geometry h => exact h.within (Nat.le_succ _)
  | feature hbbox hgeometry h =>
    simp only [box, boxWithin_feature hbbox hgeometry h]
    exact h.within ((height_lt_of_lookup hgeometry).le.trans (Nat.le_succ _))
  | @features fields parts hbare hfeatures hne hparts =>
    obtain ⟨b, htight, hbox⟩ := members_tight (f := fun f => f.item "geometry" >>= memberBox (height (.record fields))) hne
      fun part hpart => by
        obtain ⟨inner, g, hinner, hgeometry, h⟩ := hparts part hpart
        have hheight := height_member hfeatures (mem_map_of_mem hpart)
        rw [hinner] at hheight ⊢
        have hinside := height_lt_of_lookup hgeometry
        obtain ⟨depth, hdepth⟩ : ∃ d, height (.record fields) = d + 1 := ⟨height (.record fields) - 1, by omega⟩
        obtain ⟨b, htight, hbox⟩ := h.within (d := depth) (by omega)
        refine ⟨b, htight, ?_⟩
        rw [Value.item, hgeometry, hdepth]
        show memberBox (depth + 1) g = _
        rw [memberBox, hbox]
        rfl
    refine ⟨b, htight, fun northUp => ?_⟩
    rw [box, boxWithin_features hbare hfeatures, hbox]

theorem answers_of_ok {c : Command} {args : List Data} {r : Except Fault Data}
    (hcall : c.call args [] = (liftM r : Session Data)) (hr : r = .ok v) : c.Answers args v := by
  intro w
  rw [hcall, hr, Session.runIn_liftM]

/-- **The bounds are the tight box around all positions.** For every geometry, feature or collection, however deep, that
carries no bounds of its own and has a position in each member, four sides are given: every position lies between them,
and each is reached by one. The same four are given if north is not up, with south and north in each other's place. -/
theorem bounds_tight {v : Data} {ps : List Vertex} (h : Placed v ps) :
    ∃ b : Box Float, Tight ps b ∧ boxCommand.Answers [v] (.tuple [b.west, b.south, b.east, b.north]) ∧
      boxCommand.Answers [v, .bool false] (.tuple [b.west, b.north, b.east, b.south]) := by
  obtain ⟨b, htight, hbox⟩ := h.box_eq
  exact ⟨b, htight, answers_of_ok rfl (hbox true), answers_of_ok rfl (hbox false)⟩

def spot (x y : ℤ) : Vertex :=
  ⟨.int x, .int y, [], Value.comparable_iff.mpr ⟨_, rfl⟩, Value.comparable_iff.mpr ⟨_, rfl⟩⟩

def point (p : Vertex) : Data := .record [("type", "Point"), ("coordinates", p.value)]

def gathered (ms : List Data) : Data := .record [("type", "GeometryCollection"), ("geometries", .list ms)]

theorem bounds_tight_nested : ∃ b : Box Float, Tight [spot 3 1, spot (-2) 4] b ∧
    boxCommand.Answers [gathered [point (spot 3 1), gathered [point (spot (-2) 4)]]]
      (.tuple [b.west, b.south, b.east, b.north]) := by
  have hpoint : ∀ p, Outlined (point p) [p] := fun p => .single ⟨rfl, rfl⟩ rfl rfl rfl (.position p) (cons_ne_nil p [])
  have hinner : Outlined (gathered [point (spot (-2) 4)]) [spot (-2) 4] :=
    .collection [(point (spot (-2) 4), [spot (-2) 4])] ⟨rfl, rfl⟩ rfl rfl (by simp) (by simpa using hpoint _)
  have hwhole : Outlined (gathered [point (spot 3 1), gathered [point (spot (-2) 4)]]) [spot 3 1, spot (-2) 4] :=
    .collection [(point (spot 3 1), [spot 3 1]), (gathered [point (spot (-2) 4)], [spot (-2) 4])] ⟨rfl, rfl⟩ rfl rfl
      (by simp) (by simpa using ⟨hpoint _, hinner⟩)
  obtain ⟨b, htight, hbox, -⟩ := bounds_tight (.geometry hwhole)
  exact ⟨b, htight, hbox⟩

end RemoteSensing.Geo
