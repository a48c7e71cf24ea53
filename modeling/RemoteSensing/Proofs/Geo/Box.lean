import RemoteSensing.Proofs.Geo.Bounds

/-!
Boxes and what is read off their polygons.
-/

namespace RemoteSensing.Geo

open List Value Stac

variable {p : Box Float} {b v : Data} {qs : List (Box Float)}

section Shapes

variable (q : Box Float)

/-- The outer ring of a box: it starts and ends north-west and goes round by the south. -/
def outline : List Data :=
  [.list [q.west, q.north], .list [q.west, q.south], .list [q.east, q.south], .list [q.east, q.north],
    .list [q.west, q.north]]

def longitudes : List Data := [q.west, q.west, q.east, q.east, q.west]

def latitudes : List Data := [q.north, q.south, q.south, q.north, q.north]

def polygon : Data := .record [("type", "Polygon"), ("coordinates", .list [.list (outline q)])]

def feature : Data := .record [("geometry", polygon q), ("type", "Feature")]

theorem boxFeature_toCorners : boxFeature q.toCorners = .ok (feature q) := rfl

end Shapes

def collection (qs : List (Box Float)) : Data :=
  .record [("type", "FeatureCollection"), ("features", .list (qs.map feature))]

theorem boxFeatures_toCorners (qs : List (Box Float)) :
    boxFeatures (.list (qs.map Box.toCorners)) = .ok (collection qs) := by
  have hfeatures : (qs.map Box.toCorners).mapM boxFeature = .ok (qs.map feature) := by
    rw [mapM_map]
    exact mapM_eq_ok fun q _ => boxFeature_toCorners q
  unfold boxFeatures
  show ((qs.map Box.toCorners).mapM boxFeature >>= _) = _
  rw [hfeatures]
  rfl

/-- The sides are numbers. -/
structure Numeric (q : Box Float) : Prop where
  west : q.west.Comparable
  south : q.south.Comparable
  east : q.east.Comparable
  north : q.north.Comparable

/-- The sides are numbers and in order. -/
structure Ordered (q : Box Float) : Prop extends Numeric q where
  west_le : q.west.AtMost q.east
  south_le : q.south.AtMost q.north

variable {q : Box Float}

theorem ofCorners_toCorners (q : Box Float) : Box.ofCorners q.toCorners = (do
    if ← q.west.gt q.east then throw (Box.disordered "west" q.toCorners)
    if ← q.south.gt q.north then throw (Box.disordered "south" q.toCorners)
    pure q) := rfl

theorem ofCorners_eq_ok (hq : Numeric q) : Box.ofCorners q.toCorners = .ok p ↔ Ordered q ∧ p = q := by
  rw [ofCorners_toCorners]
  constructor
  · intro h
    obtain ⟨west, hwest, h⟩ := bind_eq_ok.mp h
    cases west with
    | true => cases h
    | false =>
      obtain ⟨south, hsouth, h⟩ := bind_eq_ok.mp h
      cases south with
      | true => cases h
      | false =>
        cases h
        exact ⟨⟨hq, (gt_eq_false hq.west hq.east).mp hwest, (gt_eq_false hq.south hq.north).mp hsouth⟩, rfl⟩
  · rintro ⟨h, rfl⟩
    rw [(gt_eq_false hq.west hq.east).mpr h.west_le, (gt_eq_false hq.south hq.north).mpr h.south_le]
    rfl

/-- Two boxes have equal sides. -/
structure Equal (p q : Box Float) : Prop where
  west : p.west.same q.west = true
  south : p.south.same q.south = true
  east : p.east.same q.east = true
  north : p.north.same q.north = true

theorem Picks.same_of_two {pick : List Data → Except Fault Data} {le : Data → Data → Prop} {first last : Data} {xs : List Data}
    (hp : Picks pick le) (hfirst : first.Comparable) (hlast : last.Comparable) (hle : le first last) (hmem : first ∈ xs)
    (honly : ∀ v ∈ xs, v = first ∨ v = last) : ∃ m, pick xs = .ok m ∧ m.Comparable ∧ m.same first = true := by
  have hall : ∀ v ∈ xs, v.Comparable := by
    intro v hv
    rcases honly v hv with rfl | rfl
    · exact hfirst
    · exact hlast
  obtain ⟨m, hm, hpick, hleast⟩ := hp.exists_first (ne_nil_of_mem hmem) hall
  refine ⟨m, hpick, hall m hm, ?_⟩
  rcases honly m hm with rfl | rfl
  · exact AtMost.antisymm hfirst hfirst (AtMost.refl hfirst) (AtMost.refl hfirst)
  · exact hp.antisymm hlast hfirst (hleast first hmem) hle

/-- The box `p` has the sides that readers find in the ring of the box `q`. -/
structure Found (q p : Box Float) : Prop where
  west : minimum (longitudes q) = .ok p.west
  south : minimum (latitudes q) = .ok p.south
  east : maximum (longitudes q) = .ok p.east
  north : maximum (latitudes q) = .ok p.north

theorem exists_found (h : Ordered q) : ∃ p, Found q p ∧ Numeric p ∧ Equal p q := by
  have hlongitudes : ∀ v ∈ longitudes q, v = q.west ∨ v = q.east := by simp [longitudes]
  have hlatitudes : ∀ v ∈ latitudes q, v = q.south ∨ v = q.north := by simp [latitudes]
  obtain ⟨west, hwest, hw, hwsame⟩ :=
    picks_minimum.same_of_two h.west h.east h.west_le (by simp [longitudes]) hlongitudes
  obtain ⟨south, hsouth, hs, hssame⟩ :=
    picks_minimum.same_of_two h.south h.north h.south_le (by simp [latitudes]) hlatitudes
  obtain ⟨east, heast, he, hesame⟩ :=
    picks_maximum.same_of_two h.east h.west h.west_le (by simp [longitudes]) fun v hv => (hlongitudes v hv).symm
  obtain ⟨north, hnorth, hn, hnsame⟩ :=
    picks_maximum.same_of_two h.north h.south h.south_le (by simp [latitudes]) fun v hv => (hlatitudes v hv).symm
  exact ⟨⟨west, south, east, north⟩, ⟨hwest, hsouth, heast, hnorth⟩, ⟨hw, hs, he, hn⟩,
    ⟨hwsame, hssame, hesame, hnsame⟩⟩

def sides (p : Box Float) : List Data := [p.west, p.south, p.east, p.north]

def bounds (p : Box Float) : Data := .tuple (sides p)

/-- The positions of the ring. -/
def ring (hq : Numeric q) : List Vertex :=
  [⟨q.west, q.north, [], hq.west, hq.north⟩, ⟨q.west, q.south, [], hq.west, hq.south⟩,
    ⟨q.east, q.south, [], hq.east, hq.south⟩, ⟨q.east, q.north, [], hq.east, hq.north⟩,
    ⟨q.west, q.north, [], hq.west, hq.north⟩]

theorem coordinates_ring (hq : Numeric q) : Coordinates (.list [.list (outline q)]) (ring hq) :=
  .nest [(.list (outline q), ring hq)] <| by
    rintro part hpart
    obtain rfl := mem_singleton.mp hpart
    refine .nest ((ring hq).map fun p => (p.value, [p])) fun part hpart => ?_
    obtain ⟨p, -, rfl⟩ := mem_map.mp hpart
    exact .position p

theorem outlined_polygon (hq : Numeric q) : Outlined (polygon q) (ring hq) :=
  .single ⟨rfl, rfl⟩ rfl rfl rfl (coordinates_ring hq) (cons_ne_nil _ _)

theorem box_feature (h : Ordered q) (hp : Found q p) : box true .null (feature q) = .ok (bounds p) := by
  have hne : ring h.toNumeric ≠ [] := cons_ne_nil _ _
  have hfeature : ∀ d, boxWithin (d + 1) true .null (feature q) = boxWithin (d + 1) true .null (polygon q) := fun d =>
    boxWithin_feature rfl rfl (outlined_polygon h.toNumeric)
  rw [box, hfeature, polygon, boxWithin_coordinates ⟨rfl, rfl⟩ rfl rfl rfl (coordinates_ring h.toNumeric).positions_eq.2,
    boxAround_eq hne hp.west hp.south hp.east hp.north]
  rfl

theorem ringCorners_outline (hp : Found q p) :
    ringCorners (.list (outline q)) = .ok (p.south, p.west, p.north, p.east) := by
  unfold ringCorners
  show (do
    let south ← minimum (latitudes q)
    let west ← minimum (longitudes q)
    let north ← maximum (latitudes q)
    let east ← maximum (longitudes q)
    pure (south, west, north, east)) = _
  rw [hp.west, hp.south, hp.east, hp.north]
  rfl

theorem corners_feature (hp : Found q p) :
    corners (feature q) = .ok (.tuple [.tuple [p.south, p.west], .tuple [p.north, p.east]]) := by
  have hcorners : corners (feature q) = (do
      let (south, west, north, east) ← ringCorners (.list (outline q))
      pure (.tuple [.tuple [south, west], .tuple [north, east]])) := rfl
  rw [hcorners, ringCorners_outline hp]
  rfl

theorem areaBox_collection (hp : Found q p) (margin : Data) (r : List (Box Float)) :
    areaBox margin (collection (q :: r)) = .ok (.list [.list [p.south, p.west], .list [p.north, p.east]]) := by
  have harea : areaBox margin (collection (q :: r)) = (do
      let (south, west, north, east) ← ringCorners (.list (outline q))
      pure (.list [.list [south, west], .list [north, east]])) := rfl
  rw [harea, ringCorners_outline hp]
  rfl

/-- The box `q` lies in the box `p`. -/
structure Inside (q p : Box Float) : Prop where
  west : p.west.AtMost q.west
  south : p.south.AtMost q.south
  east : q.east.AtMost p.east
  north : q.north.AtMost p.north

/-- The smallest box around boxes: all of them lie in it, and it lies in every other box that they all lie in. -/
structure Smallest (qs : List (Box Float)) (p : Box Float) : Prop where
  around : ∀ q ∈ qs, Inside q p
  least : ∀ other, (∀ q ∈ qs, Inside q other) → Inside p other

theorem Inside.ring {r : Vertex} (hin : Inside q p) (h : Ordered q) (hr : r ∈ ring h.toNumeric) :
    p.west.AtMost r.x ∧ p.south.AtMost r.y ∧ r.x.AtMost p.east ∧ r.y.AtMost p.north := by
  have hwest := hin.west.trans (hin.west.comparable_left h.west) h.west h.east h.west_le
  have hsouth := hin.south.trans (hin.south.comparable_left h.south) h.south h.north h.south_le
  have heast := h.west_le.trans h.west h.east (hin.east.comparable_right h.east) hin.east
  have hnorth := h.south_le.trans h.south h.north (hin.north.comparable_right h.north) hin.north
  simp only [Geo.ring, mem_cons, not_mem_nil, or_false] at hr
  rcases hr with rfl | rfl | rfl | rfl | rfl
  · exact ⟨hin.west, hsouth, heast, hin.north⟩
  · exact ⟨hin.west, hin.south, heast, hnorth⟩
  · exact ⟨hwest, hin.south, hin.east, hnorth⟩
  · exact ⟨hwest, hsouth, hin.east, hin.north⟩
  · exact ⟨hin.west, hsouth, heast, hin.north⟩

theorem placed_collection (hne : qs ≠ []) (hordered : ∀ q ∈ qs, Ordered q) :
    ∃ ps, Placed (collection qs) ps ∧ ∀ r, r ∈ ps ↔ ∃ q, ∃ hq : q ∈ qs, r ∈ ring (hordered q hq).toNumeric := by
  refine ⟨_, .features (qs.attach.map fun q => (feature q.1, ring (hordered q.1 q.2).toNumeric)) ⟨rfl, rfl⟩ ?_
    (by simpa using hne) fun part hpart => ?_, by simp⟩
  · rw [map_map]
    exact congrArg (some <| list ·) attach_map_val.symm
  · obtain ⟨q, -, rfl⟩ := mem_map.mp hpart
    exact ⟨_, _, rfl, rfl, outlined_polygon (hordered q.1 q.2).toNumeric⟩

/-- **The bounds of several boxes are the smallest box around them.** -/
theorem exists_smallest (hne : qs ≠ []) (hordered : ∀ q ∈ qs, Ordered q) :
    ∃ p, box true .null (collection qs) = .ok (bounds p) ∧ Ordered p ∧ Smallest qs p := by
  obtain ⟨ps, hplaced, hmem⟩ := placed_collection hne hordered
  obtain ⟨b, htight, hbox⟩ := hplaced.box_eq
  have hb : Numeric b := ⟨htight.west.comparable Vertex.hx, htight.south.comparable Vertex.hy,
    htight.east.comparable Vertex.hx, htight.north.comparable Vertex.hy⟩
  have hin : ∀ q ∈ qs, Inside q b := by
    intro q hq
    have hall : ∀ r ∈ ring (hordered q hq).toNumeric, r ∈ ps := fun r hr => (hmem r).mpr ⟨q, hq, hr⟩
    simp only [ring, forall_mem_cons] at hall
    obtain ⟨hnw, -, hse, -⟩ := hall
    exact ⟨htight.west.2 _ hnw, htight.south.2 _ hse, htight.east.2 _ hse, htight.north.2 _ hnw⟩
  obtain ⟨q, hq⟩ := exists_mem_of_ne_nil qs hne
  have ho := hordered q hq
  have hqb := hin q hq
  refine ⟨b, hbox true, ⟨hb, ?_, ?_⟩, hin, fun other hother => ?_⟩
  · exact hqb.west.trans hb.west ho.west hb.east (ho.west_le.trans ho.west ho.east hb.east hqb.east)
  · exact hqb.south.trans hb.south ho.south hb.north (ho.south_le.trans ho.south ho.north hb.north hqb.north)
  · have hout := fun r hr => let ⟨q, hq, hr⟩ := (hmem r).mp hr; (hother q hq).ring (hordered q hq) hr
    obtain ⟨w, hw, hwest⟩ := mem_map.mp htight.west.1
    obtain ⟨s, hs, hsouth⟩ := mem_map.mp htight.south.1
    obtain ⟨e, he, heast⟩ := mem_map.mp htight.east.1
    obtain ⟨n, hn, hnorth⟩ := mem_map.mp htight.north.1
    exact ⟨hwest ▸ (hout w hw).1, hsouth ▸ (hout s hs).2.1, heast ▸ (hout e he).2.2.1, hnorth ▸ (hout n hn).2.2.2⟩

theorem box_answers (h : box true .null v = .ok b) : boxCommand.Answers [v] b := answers_of_ok rfl h

theorem boxFeature_answers (q : Box Float) : boxFeatureCommand.Answers [q.toCorners] (feature q) :=
  answers_of_ok rfl (boxFeature_toCorners q)

theorem boxFeatures_answers (qs : List (Box Float)) :
    boxFeaturesCommand.Answers [.list (qs.map Box.toCorners)] (collection qs) :=
  answers_of_ok rfl (boxFeatures_toCorners qs)

theorem corners_answers (h : corners v = .ok b) : cornersCommand.Answers [v] b := by
  intro w
  obtain ⟨a, hbind, ha⟩ : ∃ a, cornersCommand.bind [v] [] = .ok a ∧ a "geojson" = v := ⟨_, rfl, rfl⟩
  rw [Command.runIn_call hbind]
  simp only [cornersCommand, ha, h]
  rfl

theorem areaBox_answers (h : areaBox 0.01 v = .ok b) : areaBoxCommand.Answers [v] b := by
  intro w
  have hcall : areaBoxCommand.call [v] [] = orNothing (areaBox 0.01 v) := rfl
  rw [hcall, h]
  rfl

/-- **Boxes that are written are read back.** A box of four numbers that is accepted keeps its corners. Its polygon has
equal bounds, and so have the corners of the polygon and the box of the area in its collection, which give the latitudes
first. The bounds of the polygons of several such boxes are the smallest box around them, which is accepted as well. -/
theorem written_boxes_read :
    (∀ q p : Box Float, Numeric q → Box.ofCorners q.toCorners = .ok p →
      p.toCorners = q.toCorners ∧
      boxFeatureCommand.Answers [q.toCorners] (feature q) ∧
      boxFeaturesCommand.Answers [.list [q.toCorners]] (collection [q]) ∧
      ∃ b : Box Float, Equal b q ∧
        boxCommand.Answers [feature q] (.tuple [b.west, b.south, b.east, b.north]) ∧
        cornersCommand.Answers [feature q] (.tuple [.tuple [b.south, b.west], .tuple [b.north, b.east]]) ∧
        areaBoxCommand.Answers [collection [q]] (.list [.list [b.south, b.west], .list [b.north, b.east]])) ∧
    (∀ qs : List (Box Float), qs ≠ [] → (∀ q ∈ qs, Numeric q ∧ ∃ p, Box.ofCorners q.toCorners = .ok p) →
      boxFeaturesCommand.Answers [.list (qs.map Box.toCorners)] (collection qs) ∧
      ∃ b : Box Float, boxCommand.Answers [collection qs] (.tuple [b.west, b.south, b.east, b.north]) ∧
        Box.ofCorners b.toCorners = .ok b ∧ Smallest qs b) := by
  constructor
  · intro q p hnumeric hp
    obtain ⟨hordered, rfl⟩ := (ofCorners_eq_ok hnumeric).mp hp
    obtain ⟨b, hfound, -, hequal⟩ := exists_found hordered
    exact ⟨rfl, boxFeature_answers p, boxFeatures_answers [p], b, hequal, box_answers (box_feature hordered hfound),
      corners_answers (corners_feature hfound), areaBox_answers (areaBox_collection hfound 0.01 [])⟩
  · intro qs hne hqs
    have hordered : ∀ q ∈ qs, Ordered q := by
      intro q hq
      obtain ⟨hnumeric, p, hp⟩ := hqs q hq
      exact ((ofCorners_eq_ok hnumeric).mp hp).1
    obtain ⟨b, hbox, hb, hsmallest⟩ := exists_smallest hne hordered
    exact ⟨boxFeatures_answers qs, b, box_answers hbox, (ofCorners_eq_ok hb.toNumeric).mpr ⟨hb, rfl⟩, hsmallest⟩

theorem written_boxes_read_beside :
    ∃ b : Box Float, boxCommand.Answers [collection [⟨0, 1, 2.5, 3⟩, ⟨2.5, .int (-1), 4, 3⟩]] (bounds b) ∧
      Smallest [⟨0, 1, 2.5, 3⟩, ⟨2.5, .int (-1), 4, 3⟩] b := by
  have hint : ∀ i : ℤ, (Value.int i : Data).Comparable := fun i => Value.comparable_iff.mpr ⟨_, rfl⟩
  have hreal : (2.5 : Data).Comparable := Value.comparable_iff.mpr ⟨_, rfl⟩
  have haccepted : ∀ q ∈ [(⟨0, 1, 2.5, 3⟩ : Box Float), ⟨2.5, .int (-1), 4, 3⟩],
      Numeric q ∧ ∃ p, Box.ofCorners q.toCorners = .ok p := by
    intro q hq
    simp only [mem_cons, not_mem_nil, or_false] at hq
    rcases hq with rfl | rfl
    · exact ⟨⟨hint 0, hint 1, hreal, hint 3⟩, _, rfl⟩
    · exact ⟨⟨hreal, hint (-1), hint 4, hint 3⟩, _, rfl⟩
  obtain ⟨-, b, hbox, -, hsmallest⟩ := written_boxes_read.2 _ (by simp) haccepted
  exact ⟨b, hbox, hsmallest⟩

/-- Corners that are accepted but are no numbers: the bounds of texts are looked for without end. What is not a number is
accepted as well, and is found on both sides. -/
theorem accepted_boxes_lost :
    ((∃ p, Box.ofCorners (.list [.str "a", .str "b", .str "c", .str "d"]) = .ok (p : Box Float)) ∧
      box true .null (feature ⟨.str "a", .str "b", .str "c", .str "d"⟩) = .error .endless) ∧
    ((∃ p, Box.ofCorners (.list [.real (0.0 / 0.0), 0, 1, 1]) = .ok (p : Box Float)) ∧
      ∃ b : Box Float, box true .null (feature ⟨.real (0.0 / 0.0), 0, 1, 1⟩) = .ok (bounds b) ∧
        b.east.same 1 = false) := by
  refine ⟨⟨⟨_, rfl⟩, ?_⟩, ⟨_, rfl⟩, ⟨.real (0.0 / 0.0), 0, .real (0.0 / 0.0), 1⟩, ?_, ?_⟩
  · rfl
  · rfl
  · rfl

end RemoteSensing.Geo
