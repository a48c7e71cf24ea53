import RemoteSensing.Map.Tools
import RemoteSensing.Proofs.Session.Run
import RemoteSensing.Proofs.Value.Fields

/-!
Calls that change the layers of a map: a basemap goes on top, an object is drawn and recorded, a recorded layer is taken
away, all recorded layers are taken away.

The map is part of the state, so a call that fails leaves on it what was done before the fault. That the record never runs
ahead of the map rests on the order of the steps: a layer is built, which can fail, then put on the map, which cannot fail
for a new layer, and then recorded. So everything a call can do to a map in good order is one of five changes, and each of
them keeps the order.
-/

namespace RemoteSensing

open Session MapSession

/-- A call that changes the layers of a map. -/
inductive LayerCall where
  | basemap (name : Data)
  | serve (object look name opacity : Data)
  | remove (name : Data)
  | clear

namespace LayerCall

def session : LayerCall → MapSession Unit
  | basemap name => MapView.addBasemap name
  | serve object look name opacity => MapView.addServed object look name opacity
  | remove name => MapView.removeServed name
  | clear => MapView.clearServed

/-- The map after a call in a world, whether the call ends in a fault or not. -/
def after (c : LayerCall) (w : World) (m : MapView) : MapView := (c.session.runIn ⟨m, w⟩).2.map

def run (calls : List (LayerCall × World)) (m : MapView) : MapView :=
  calls.foldl (fun m c => c.1.after c.2 m) m

@[simp] theorem run_cons (c : LayerCall × World) (calls : List (LayerCall × World)) (m : MapView) :
    run (c :: calls) m = run calls (c.1.after c.2 m) := rfl

end LayerCall

namespace MapSession

variable {α : Type}

theorem runIn_session (s : Session α) (d : Desk) :
    (liftM s : MapSession α).runIn d = ((s.runIn d.world).1, { d with world := (s.runIn d.world).2 }) := rfl

@[simp] theorem runIn_map (d : Desk) : map.runIn d = (.ok d.map, d) := rfl

@[simp] theorem runIn_change (f : MapView → MapView) (d : Desk) :
    (change f).runIn d = (.ok (), { d with map := f d.map }) := rfl

/-- **What is told is not raised**, and the map is the one that the fault has left. -/
theorem runIn_orTell (what : String) (s : MapSession Unit) (d : Desk) :
    ∃ w, (MapSession.orTell what s).runIn d = (.ok (), ⟨(s.runIn d).2.map, w⟩) := by
  unfold MapSession.orTell
  rw [runIn_tryCatch]
  rcases s.runIn d with ⟨e | _, d'⟩
  · exact ⟨_, rfl⟩
  · exact ⟨_, rfl⟩

end MapSession

namespace MapView

open List LayerCall

variable {m n : MapView} {k : String} {s : ServedLayer} {l : TileLayer} {w v : World}

variable {a : Arguments} {object look name opacity : Data} {e : String × ServedLayer}

def withLayer (m : MapView) (l : TileLayer) : MapView :=
  { m with layers := m.layers ++ [l], made := m.made + 1 }

def withServed (m : MapView) (name : String) (s : ServedLayer) : MapView :=
  { m.withLayer s.layer with served := Value.insert name s m.served }

def withoutServed (m : MapView) (name : String) (s : ServedLayer) : MapView :=
  { m with
    layers := m.layers.filter fun k => k.number != s.layer.number
    served := Value.erase name m.served }

def cleared (m : MapView) : MapView :=
  { m with
    layers := m.layers.filter fun l => !m.served.any fun e => e.2.layer.number == l.number
    served := [] }

/-- Layers and record fit together. -/
structure Tidy (m : MapView) : Prop where
  below : ∀ l ∈ m.layers, l.number < m.made
  names : (m.served.map (·.1)).Nodup
  once : (m.served.map (·.2.layer.number)).Nodup
  shown : ∀ e ∈ m.served, e.2.layer ∈ m.layers

theorem Tidy.of_empty (hl : m.layers = []) (hs : m.served = []) : Tidy m := by
  refine ⟨?_, ?_, ?_, ?_⟩
  · rw [hl]; simp
  · rw [hs]; simp
  · rw [hs]; simp
  · rw [hs]; simp

theorem Tidy.served_below (h : Tidy m) (he : e ∈ m.served) : e.2.layer.number < m.made := h.below _ (h.shown e he)

theorem Tidy.number_ne (h : Tidy m) {a b : List (String × ServedLayer)} (hab : m.served = a ++ (k, s) :: b)
    (he : e ∈ a ++ b) : e.2.layer.number ≠ s.layer.number := by
  have honce := h.once
  rw [hab] at honce
  simp only [map_append, map_cons, nodup_append, nodup_cons, mem_map,
    mem_cons] at honce
  rcases mem_append.mp he with he | he
  · exact honce.2.2 _ ⟨e, he, rfl⟩ _ (.inl rfl)
  · intro heq
    exact honce.2.1.1 ⟨e, he, heq⟩

theorem Tidy.withLayer (h : Tidy m) (hl : l.number = m.made) : Tidy (m.withLayer l) := by
  refine ⟨?_, h.names, h.once, ?_⟩
  · intro x hx
    show x.number < m.made + 1
    rcases mem_append.mp hx with hx | hx
    · have := h.below x hx
      omega
    · rw [mem_singleton.mp hx, hl]
      omega
  · intro e he
    exact mem_append_left _ (h.shown e he)

theorem Tidy.withServed (h : Tidy m) (hs : s.layer.number = m.made) : Tidy (m.withServed k s) := by
  have hlayer := h.withLayer hs
  -- the numbers given out so far are below the new one
  have hnew : ∀ e ∈ m.served, e.2.layer.number ≠ s.layer.number := by
    intro e he
    have := h.served_below he
    omega
  refine ⟨hlayer.below, Value.insert_keys_nodup h.names, ?_, ?_⟩
  · exact Value.insert_marks_nodup (fun r : ServedLayer => r.layer.number) h.once hnew
  · intro e he
    rcases Value.mem_insert he with he | he
    · exact hlayer.shown e he
    · rw [he]
      exact mem_append_right _ (mem_singleton.mpr rfl)

theorem Tidy.withoutServed (h : Tidy m) (hk : Value.lookup k m.served = some s) :
    Tidy (m.withoutServed k s) := by
  obtain ⟨a, b, hab, ha⟩ := Value.lookup_split hk
  have hserved : (m.withoutServed k s).served = a ++ b := by
    show Value.erase k m.served = a ++ b
    rw [hab, Value.erase_append ha]
  have hsub : (a ++ b).Sublist m.served := by
    rw [hab]
    exact Sublist.append_left (sublist_cons_self _ _) _
  refine ⟨?_, ?_, ?_, ?_⟩
  · intro x hx
    exact h.below x (mem_filter.mp hx).1
  · rw [hserved]
    exact (hsub.map _).nodup h.names
  · rw [hserved]
    exact (hsub.map _).nodup h.once
  · rw [hserved]
    intro e he
    refine mem_filter.mpr ⟨h.shown e (hsub.subset he), ?_⟩
    simpa using h.number_ne hab he

theorem Tidy.cleared (h : Tidy m) : Tidy m.cleared := by
  refine ⟨?_, by simp [MapView.cleared], by simp [MapView.cleared], by simp [MapView.cleared]⟩
  intro x hx
  exact h.below x (mem_filter.mp hx).1

/-! What the calls do to a map in good order. -/

/-- **A new layer can always be put on the map.** -/
theorem Tidy.addLayer_run (h : Tidy m) (url attribution name : String) (opacity : Float) (maxZoom : Int) (w : World) :
    ∃ l : TileLayer, l.number = m.made ∧
      (addLayer url attribution name opacity maxZoom).runIn ⟨m, w⟩ = (.ok l, ⟨m.withLayer l, w⟩) := by
  let l : TileLayer := ⟨m.made, url, attribution, name, opacity, maxZoom⟩
  have hnew : { m with made := m.made + 1 }.shows l = false := by
    rw [shows, any_eq_false]
    intro x hx hsame
    have hbelow := h.below x hx
    have hnumber : x.number = m.made := beq_iff_eq.mp hsame
    omega
  refine ⟨l, rfl, ?_⟩
  unfold addLayer place
  simp only [runIn_bind, runIn_map, runIn_change]
  rw [if_neg (by rw [hnew]; decide)]
  rfl

theorem Tidy.addBasemap_run (h : Tidy m) (name : Data) (w : World) :
    ((addBasemap name).runIn ⟨m, w⟩).2.map = m ∨
      ∃ l : TileLayer, l.number = m.made ∧ ((addBasemap name).runIn ⟨m, w⟩).2.map = m.withLayer l := by
  unfold addBasemap
  rw [runIn_bind, runIn_liftM]
  cases name.checkKey with
  | error e => exact .inl rfl
  | ok _ =>
    dsimp only
    cases basemap? name with
    | none => exact .inl rfl
    | some b =>
      obtain ⟨l, hl, hrun⟩ := h.addLayer_run b.url b.attribution b.name 1.0 b.maxZoom w
      refine .inr ⟨l, hl, ?_⟩
      dsimp only
      rw [runIn_bind_of_ok hrun]
      rfl

/-- **Drawing leaves the map as it was, or puts one new layer on it, records it and ends well.** -/
theorem Tidy.serve_run (h : Tidy m) (object look name opacity : Data) (w : World) :
    ((serve object look name opacity).runIn ⟨m, w⟩).2.map = m ∨
      ∃ (k : String) (s : ServedLayer) (v : World), name = .str k ∧ s.layer.number = m.made ∧
        (serve object look name opacity).runIn ⟨m, w⟩ = (.ok (), ⟨m.withServed k s, v⟩) := by
  unfold serve
  rw [runIn_bind, runIn_session]
  rcases (tilesOf defaultStyle object look).runIn w with ⟨e | _ | url, v⟩
  · exact .inl rfl
  · exact .inl rfl
  · -- name and opacity are read before anything is built, and only a text is accepted as a name
    dsimp only
    rw [runIn_bind, runIn_liftM]
    cases hname : Property.text "TileLayer" "name" name with
    | error e => exact .inl rfl
    | ok k =>
      dsimp only
      rw [runIn_bind, runIn_liftM]
      cases Property.share "TileLayer" "opacity" opacity with
      | error e => exact .inl rfl
      | ok x =>
        obtain ⟨l, hl, hrun⟩ := h.addLayer_run url "Google Earth Engine" k x 18 v
        refine .inr ⟨k, ⟨l, object, look⟩, v, ?_, hl, ?_⟩
        · unfold Property.text at hname
          split at hname
          · cases hname
            rfl
          · cases hname
        · dsimp only
          rw [runIn_bind_of_ok hrun]
          rfl

theorem addServed_run (object look name opacity : Data) (w : World) : ∃ v,
    (addServed object look name opacity).runIn ⟨m, w⟩ =
      (.ok (), ⟨((serve object (if look.isNull then .record [] else look) name opacity).runIn ⟨m, w⟩).2.map, v⟩) :=
  runIn_orTell _ _ _

def notRecorded (name : Data) (w : World) : World :=
  { w with printed := w.printed ++ ("Layer '" ++ name.display ++ "' not found" ++ "\n") }

theorem removeServed_absent (h : m.recorded? name = none) (w : World) :
    (removeServed name).runIn ⟨m, w⟩ = match name.checkKey with
      | .ok _ => (.ok (), ⟨m, notRecorded name w⟩)
      | .error e => (.error e, ⟨m, w⟩) := by
  unfold removeServed
  rw [runIn_bind, runIn_liftM]
  cases name.checkKey with
  | error e => rfl
  | ok _ =>
    dsimp only
    rw [runIn_bind_of_ok (runIn_map _), h]
    rfl

/-- **A recorded layer can be taken away.** -/
theorem Tidy.removeServed_run (h : Tidy m) (hk : Value.lookup k m.served = some s) (w : World) :
    (removeServed (.str k)).runIn ⟨m, w⟩ = (.ok (), ⟨m.withoutServed k s, w⟩) := by
  have hs : m.shows s.layer = true := by
    unfold shows
    rw [any_eq_true]
    exact ⟨s.layer, h.shown _ (Value.mem_of_lookup hk), by simp⟩
  have hrecorded : m.recorded? (.str k) = some (k, s) := by
    rw [recorded?, hk]
    rfl
  unfold removeServed takeAway
  rw [runIn_bind_of_ok (runIn_liftM (Value.checkKey (.str k : Data)) _), runIn_bind_of_ok (runIn_map _), hrecorded]
  dsimp only
  rw [runIn_bind, runIn_bind_of_ok (runIn_map _), if_pos hs]
  rfl

theorem recorded?_eq_some {p : String × ServedLayer} (h : m.recorded? name = some p) :
    name = .str p.1 ∧ Value.lookup p.1 m.served = some p.2 := by
  unfold recorded? at h
  split at h
  · obtain ⟨s, hs, rfl⟩ := Option.map_eq_some_iff.mp h
    exact ⟨rfl, hs⟩
  · cases h

theorem cleared_withoutServed {r : List (String × ServedLayer)} (hm : m.served = (k, s) :: r) :
    (m.withoutServed k s).cleared = m.cleared := by
  unfold MapView.cleared withoutServed
  simp only [hm, Value.erase, if_true, filter_filter, any_cons]
  congr 1
  apply filter_congr
  intro x _
  rw [Bool.not_or, Bool.and_comm, bne, BEq.comm]

/-- **All recorded layers can be taken away**, one after another, although the record that the loop walks
gets shorter on the way. -/
theorem Tidy.clearServed_run (h : Tidy m) (w : World) : clearServed.runIn ⟨m, w⟩ = (.ok (), ⟨m.cleared, w⟩) := by
  unfold clearServed
  rw [runIn_bind_of_ok (runIn_map _)]
  dsimp only
  generalize hes : m.served = es
  -- the induction is on the record; the names still to be walked are those of the record that is left
  induction es generalizing m with
  | nil =>
    have hm : m.cleared = m := by
      cases m
      subst hes
      simp [MapView.cleared]
    rw [hm]
    rfl
  | cons e r ih =>
    obtain ⟨k, s⟩ := e
    have hk : Value.lookup k m.served = some s := by
      rw [hes, Value.lookup, if_pos rfl]
    have hr : (m.withoutServed k s).served = r := by
      show Value.erase k m.served = r
      rw [hes, Value.erase, if_pos rfl]
    rw [map_cons, List.forM, runIn_bind_of_ok (h.removeServed_run hk w), ih (h.withoutServed hk) hr,
      cleared_withoutServed hes]

/-- What a call can do to a map in good order. -/
inductive Change (m : MapView) : LayerCall → MapView → Prop
  | rest (c : LayerCall) : Change m c m
  | layer (name : Data) (l : TileLayer) (hl : l.number = m.made) : Change m (.basemap name) (m.withLayer l)
  | drawn (object look opacity : Data) (k : String) (s : ServedLayer) (hs : s.layer.number = m.made) :
      Change m (.serve object look (.str k) opacity) (m.withServed k s)
  | removed (k : String) (s : ServedLayer) (hk : Value.lookup k m.served = some s) :
      Change m (.remove (.str k)) (m.withoutServed k s)
  | cleared : Change m .clear m.cleared

theorem Tidy.change (h : Tidy m) (c : LayerCall) (w : World) : Change m c (c.after w m) := by
  unfold LayerCall.after session
  cases c with
  | basemap name =>
    rcases h.addBasemap_run name w with hn | ⟨l, hl, hn⟩
    · rw [hn]
      exact .rest _
    · rw [hn]
      exact .layer name l hl
  | serve object look name opacity =>
    obtain ⟨v, hrun⟩ := addServed_run (m := m) object look name opacity w
    rw [hrun]
    rcases h.serve_run object (if look.isNull then .record [] else look) name opacity w with hn | ⟨k, s, u, rfl, hs, hn⟩
    · dsimp only
      rw [hn]
      exact .rest _
    · rw [hn]
      exact .drawn object look opacity k s hs
  | remove name =>
    cases hr : m.recorded? name with
    | none =>
      dsimp only
      rw [removeServed_absent hr]
      cases name.checkKey <;> exact .rest _
    | some p =>
      obtain ⟨rfl, hk⟩ := recorded?_eq_some hr
      dsimp only
      rw [h.removeServed_run hk]
      exact .removed p.1 p.2 hk
  | clear =>
    dsimp only
    rw [h.clearServed_run]
    exact .cleared

/-- **One call keeps the record in order**, whatever it asks for and wherever it fails. -/
theorem Tidy.after (h : Tidy m) (c : LayerCall) (w : World) : Tidy (c.after w m) := by
  have hchange := h.change c w
  generalize c.after w m = n at hchange ⊢
  cases hchange with
  | rest => exact h
  | layer name l hl => exact h.withLayer hl
  | drawn object look opacity k s hs => exact h.withServed hs
  | removed k s hk => exact h.withoutServed hk
  | cleared => exact h.cleared

theorem Tidy.run (h : Tidy m) (calls : List (LayerCall × World)) : Tidy (run calls m) := by
  induction calls generalizing m with
  | nil => exact h
  | cons c r ih =>
    rw [run_cons]
    exact ih (h.after c.1 c.2)

theorem plain_eq_ok {center zoom : Data} (h : plain center zoom = .ok m) :
    m.layers = [] ∧ m.served = [] := by
  obtain ⟨c, _, h⟩ := bind_eq_ok.mp h
  obtain ⟨z, _, h⟩ := bind_eq_ok.mp h
  cases h
  exact ⟨rfl, rfl⟩

theorem create_eq_ok (h : (create a).runIn w = (.ok m, v)) : m.layers = [] ∧ m.served = [] := by
  obtain ⟨_, _, _, h⟩ := runIn_bind_ok.mp h
  obtain ⟨_, _, _, h⟩ := runIn_bind_ok.mp h
  obtain ⟨p, _, hp, h⟩ := runIn_bind_ok.mp h
  rw [runIn_liftM] at hp
  have hplain := plain_eq_ok (congrArg Prod.fst hp)
  obtain ⟨r, u, _, h⟩ := runIn_bind_ok.mp h
  -- whether or not the server lets the session in, the map is the plain one, perhaps with tools
  have hmap : m = (if (a "lite_mode").truthy then { p with lite := a "lite_mode" }
      else { p with lite := a "lite_mode" }.withTools) := by
    cases r with
    | ok _ =>
      cases h
      rfl
    | error e =>
      cases h
      rfl
  rw [hmap]
  split
  · exact hplain
  · exact hplain

theorem Tidy.of_create (h : (create a).runIn w = (.ok m, v)) : Tidy m :=
  Tidy.of_empty (create_eq_ok h).1 (create_eq_ok h).2

/-- A call to draw fails if the object is of a kind that cannot be drawn, or if drawing it ends in a fault: the
server refuses, or a property is not accepted. -/
def DrawingFails (m : MapView) (object look name opacity : Data) (w : World) : Prop :=
  object.isAnyKind [.image, .imageCollection, .featureCollection] = false ∨
    ∃ e d, (serve object (if look.isNull then .record [] else look) name opacity).runIn ⟨m, w⟩ = (.error e, d)

theorem tilesOf_unsupported (style : Fields) (look : Data)
    (h : object.isAnyKind [.image, .imageCollection, .featureCollection] = false) (w : World) :
    ∃ v, (tilesOf style object look).runIn w = (.ok none, v) := by
  simp only [Value.isAnyKind, any_cons, any_nil, Bool.or_false, Bool.or_eq_false_iff] at h
  obtain ⟨hi, hc, hf⟩ := h
  unfold tilesOf
  rw [if_neg (by simp [hi]), if_neg (by simp [hc]), if_neg (by simp [hf])]
  exact ⟨_, rfl⟩

/-- **A call to draw that fails leaves the map as it was**, although what is done before a fault stays done. -/
theorem Tidy.addServed_of_fails (h : Tidy m) (hfails : DrawingFails m object look name opacity w) :
    ∃ v, (addServed object look name opacity).runIn ⟨m, w⟩ = (.ok (), ⟨m, v⟩) := by
  obtain ⟨v, hrun⟩ := addServed_run (m := m) object look name opacity w
  refine ⟨v, ?_⟩
  rw [hrun]
  rcases hfails with hkind | ⟨e, d, he⟩
  · obtain ⟨u, hu⟩ := tilesOf_unsupported defaultStyle (if look.isNull then .record [] else look) hkind w
    unfold serve
    rw [runIn_bind, runIn_session, hu]
    rfl
  · rcases h.serve_run object (if look.isNull then .record [] else look) name opacity w with
      hn | ⟨k, s, u, -, -, hn⟩
    · rw [hn]
    · rw [hn] at he
      cases he

/-- **The record never runs ahead of the map.** After any calls on a new map, whatever fails on the way, every
recorded layer is on the map and none is recorded under two names. So a name, or all of them, can be taken away without
a fault, and a call to draw that fails leaves everything as it was. -/
theorem recorded_layers_shown {a : Arguments} (h : (create a).runIn w = (.ok m, v))
    (calls : List (LayerCall × World)) :
    let n := LayerCall.run calls m
    (∀ e ∈ n.served, e.2.layer ∈ n.layers) ∧
    (∀ e ∈ n.served, ∀ f ∈ n.served, e.2.layer.number = f.2.layer.number → e.1 = f.1) ∧
    (∀ (name : Data) (u : World), name.checkKey = .ok () → ∃ d, (removeServed name).runIn ⟨n, u⟩ = (.ok (), d)) ∧
    (∀ u : World, ∃ d, clearServed.runIn ⟨n, u⟩ = (.ok (), d) ∧ d.map.served = []) ∧
    (∀ (object look name opacity : Data) (u : World), DrawingFails n object look name opacity u →
      ∃ d, (addServed object look name opacity).runIn ⟨n, u⟩ = (.ok (), d) ∧ d.map = n) := by
  intro n
  have ht : Tidy n := (Tidy.of_create h).run calls
  refine ⟨ht.shown, ?_, ?_, ?_, ?_⟩
  · intro e he f hf hef
    rw [inj_on_of_nodup_map ht.once he hf hef]
  · -- what is not recorded is only told
    intro name u hname
    cases hr : n.recorded? name with
    | none =>
      rw [removeServed_absent hr, hname]
      exact ⟨_, rfl⟩
    | some p =>
      obtain ⟨rfl, hk⟩ := recorded?_eq_some hr
      exact ⟨_, ht.removeServed_run hk u⟩
  · intro u
    exact ⟨_, ht.clearServed_run u, rfl⟩
  · intro object look name opacity u hfails
    obtain ⟨v, hrun⟩ := ht.addServed_of_fails hfails
    exact ⟨_, hrun, rfl⟩

def oceanArguments : Arguments :=
  ⟨[("center", .tuple [0, 0]), ("zoom", 4.0), ("height", "600px"), ("width", "100%"), ("lite_mode", true)], []⟩

def oceanMap : MapView := { center := .tuple [0, 0], zoom := 4.0, lite := true }

def calm : World := {}

def exhausted : World := { refusals := [("getMapId", "quota")] }

theorem create_oceanMap : (create oceanArguments).runIn calm = (.ok oceanMap, calm) := rfl

def drawImage (image name : String) : LayerCall := .serve (.object .image image) .null (.str name) 1.0

/-- An image is drawn, and another one takes over its name: two layers are on the map and one is recorded. A third one
that the server refuses changes nothing. -/
theorem recorded_layers_shown_ocean : (create oceanArguments).runIn calm = (.ok oceanMap, calm) ∧
    ∃ n, n = LayerCall.run [(drawImage "a" "A", calm), (drawImage "b" "A", calm)] oceanMap ∧
      n.layers.length = 2 ∧ n.served.length = 1 ∧ (∀ e ∈ n.served, e.2.layer ∈ n.layers) ∧
      ∃ d, (addServed (.object .image "c") .null (.str "C") 1.0).runIn ⟨n, exhausted⟩ = (.ok (), d) ∧ d.map = n := by
  obtain ⟨hshown, -, -, -, hfails⟩ :=
    recorded_layers_shown create_oceanMap [(drawImage "a" "A", calm), (drawImage "b" "A", calm)]
  exact ⟨create_oceanMap, _, rfl, rfl, rfl, hshown, hfails _ _ _ _ exhausted (.inr ⟨_, _, rfl⟩)⟩

end MapView

end RemoteSensing
