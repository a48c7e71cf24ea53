import RemoteSensing.Proofs.Map.Registry

/-!
Which layers of a map the server draws.
-/

namespace RemoteSensing

open List Value

variable {a : Arguments} {c : LayerCall} {calls : List (LayerCall × World)} {v w : World}

def LayerCall.draws : LayerCall → Bool
  | .serve .. => true
  | _ => false

/-- A map and the numbers of the layers that calls to draw have put on it. -/
structure LayerHistory where
  map : MapView
  drawn : List Nat := []

namespace LayerHistory

def newLayers (m n : MapView) : List TileLayer := n.layers.filter fun l => !m.shows l

def next (h : LayerHistory) (c : LayerCall) (w : World) : LayerHistory where
  map := c.after w h.map
  drawn := if c.draws then h.drawn ++ (newLayers h.map (c.after w h.map)).map (·.number) else h.drawn

def run (h : LayerHistory) (calls : List (LayerCall × World)) : LayerHistory :=
  calls.foldl (fun h c => h.next c.1 c.2) h

def shown (h : LayerHistory) : List TileLayer := h.map.layers.filter fun l => h.drawn.contains l.number

def recorded (h : LayerHistory) : List TileLayer := h.map.served.map (·.2.layer)

@[simp] theorem run_nil (h : LayerHistory) : h.run [] = h := rfl

@[simp] theorem run_cons (h : LayerHistory) (c : LayerCall × World) (calls : List (LayerCall × World)) :
    h.run (c :: calls) = (h.next c.1 c.2).run calls := rfl

theorem run_append (h : LayerHistory) (calls more : List (LayerCall × World)) :
    h.run (calls ++ more) = (h.run calls).run more := foldl_append

end LayerHistory

namespace LayerCall

def TakesOver (c : LayerCall) (w : World) (m : MapView) : Prop :=
  ∃ (object look opacity : Data) (k : String), c = .serve object look (.str k) opacity ∧
    (Value.lookup k m.served).isSome ∧ (c.after w m).layers ≠ m.layers

def KeepNames : List (LayerCall × World) → MapView → Prop
  | [], _ => True
  | c :: r, m => ¬ c.1.TakesOver c.2 m ∧ KeepNames r (c.1.after c.2 m)

end LayerCall

namespace LayerHistory

open MapView

variable {h : LayerHistory} {m : MapView} {k : String} {s : ServedLayer} {l : TileLayer}

theorem newLayers_self (m : MapView) : newLayers m m = [] := by
  rw [newLayers, filter_eq_nil_iff]
  intro l hl
  have hs : m.shows l = true := by
    rw [shows, any_eq_true]
    exact ⟨l, hl, by simp⟩
  simp [hs]

theorem newLayers_withServed (ht : Tidy m) (hs : s.layer.number = m.made) :
    newLayers m (m.withServed k s) = [s.layer] := by
  have hnew : m.shows s.layer = false := by
    rw [shows, any_eq_false]
    intro x hx
    have := ht.below x hx
    simp only [beq_iff_eq]
    omega
  have hold : m.layers.filter (fun l => !m.shows l) = [] := newLayers_self m
  show (m.layers ++ [s.layer]).filter (fun l => !m.shows l) = [s.layer]
  rw [filter_append, hold]
  simp [hnew]

/-- Numbers of drawn layers were given out, and every recorded layer was drawn. -/
structure Valid (h : LayerHistory) : Prop where
  tidy : Tidy h.map
  below : ∀ d ∈ h.drawn, d < h.map.made
  recorded : ∀ e ∈ h.map.served, e.2.layer.number ∈ h.drawn

/-- What a call can do to a history. -/
inductive Step (h : LayerHistory) (c : LayerCall) (w : World) : LayerHistory → Prop
  | rest : Step h c w h
  | layer (l : TileLayer) (hl : l.number = h.map.made) : Step h c w ⟨h.map.withLayer l, h.drawn⟩
  | drawn (object look opacity : Data) (k : String) (s : ServedLayer)
      (hc : c = .serve object look (.str k) opacity) (hs : s.layer.number = h.map.made)
      (hafter : c.after w h.map = h.map.withServed k s) :
      Step h c w ⟨h.map.withServed k s, h.drawn ++ [h.map.made]⟩
  | removed (k : String) (s : ServedLayer) (hk : Value.lookup k h.map.served = some s) :
      Step h c w ⟨h.map.withoutServed k s, h.drawn⟩
  | cleared : Step h c w ⟨h.map.cleared, h.drawn⟩

theorem next_step (ht : Tidy h.map) (c : LayerCall) (w : World) : Step h c w (h.next c w) := by
  have hchange := ht.change c w
  unfold next
  generalize hn : c.after w h.map = n at hchange ⊢
  cases hchange with
  | rest =>
    rw [newLayers_self, map_nil, append_nil, ite_self]
    exact .rest
  | layer name l hl => exact .layer l hl
  | drawn object look opacity k s hs =>
    rw [newLayers_withServed ht hs, map_singleton, hs]
    exact .drawn object look opacity k s rfl hs hn
  | removed k s hk => exact .removed k s hk
  | cleared => exact .cleared

theorem Valid.next (hs : Valid h) (c : LayerCall) (w : World) : Valid (h.next c w) := by
  have htidy : Tidy (h.next c w).map := hs.tidy.after c w
  have hstep := next_step hs.tidy c w
  generalize h.next c w = g at htidy hstep ⊢
  refine ⟨htidy, ?_, ?_⟩
  · cases hstep with
    | rest => exact hs.below
    | layer l hl =>
      intro d hd
      exact Nat.lt_succ_of_lt (hs.below d hd)
    | drawn object look opacity k s hc hn hafter =>
      intro d hd
      show d < h.map.made + 1
      rcases mem_append.mp hd with hd | hd
      · have := hs.below d hd
        omega
      · rw [mem_singleton.mp hd]
        omega
    | removed k s hk => exact hs.below
    | cleared => exact hs.below
  · cases hstep with
    | rest => exact hs.recorded
    | layer l hl => exact hs.recorded
    | drawn object look opacity k s hc hn hafter =>
      intro e he
      rcases mem_insert he with he | he
      · exact mem_append_left _ (hs.recorded e he)
      · rw [he, hn]
        exact mem_append_right _ (mem_singleton.mpr rfl)
    | removed k s hk =>
      intro e he
      exact hs.recorded e (Value.erase_sublist.subset he)
    | cleared =>
      intro e he
      simp [cleared] at he

theorem mem_shown : l ∈ h.shown ↔ l ∈ h.map.layers ∧ l.number ∈ h.drawn := by
  rw [shown, mem_filter, contains_iff_mem]

def Whole (h : LayerHistory) : Prop := h.shown = h.recorded

theorem shown_withLayer (hs : Valid h) (hl : l.number = h.map.made) :
    shown ⟨h.map.withLayer l, h.drawn⟩ = h.shown := by
  have hnew : h.drawn.contains l.number = false := by
    rw [contains_eq_mem, decide_eq_false_iff_not]
    intro hd
    have := hs.below _ hd
    omega
  show (h.map.layers ++ [l]).filter (fun x => h.drawn.contains x.number) = h.shown
  rw [filter_append, filter_singleton, hnew]
  simp [shown]

theorem shown_withServed (hs : Valid h) (hn : s.layer.number = h.map.made) :
    shown ⟨h.map.withServed k s, h.drawn ++ [h.map.made]⟩ = h.shown ++ [s.layer] := by
  show (h.map.layers ++ [s.layer]).filter (fun x => (h.drawn ++ [h.map.made]).contains x.number) = _
  rw [filter_append, shown]
  congr 1
  · apply filter_congr
    intro x hx
    -- the number of a layer that is on the map is not the next one
    have hlt := hs.tidy.below x hx
    have hne : x.number ≠ h.map.made := by omega
    simp [hne]
  · simp [hn]

theorem shown_withoutServed (h : LayerHistory) (k : String) (s : ServedLayer) :
    shown ⟨h.map.withoutServed k s, h.drawn⟩ = h.shown.filter fun x => x.number != s.layer.number := by
  show ((h.map.layers.filter fun x => x.number != s.layer.number).filter fun x => h.drawn.contains x.number) = _
  rw [shown, filter_comm]

theorem recorded_withoutServed (ht : Tidy h.map) (hk : Value.lookup k h.map.served = some s) :
    recorded ⟨h.map.withoutServed k s, h.drawn⟩ = h.recorded.filter fun x => x.number != s.layer.number := by
  obtain ⟨a, b, hab, ha⟩ := lookup_split hk
  have hkeep : ∀ r : List (String × ServedLayer), (∀ e ∈ r, e.2.layer.number ≠ s.layer.number) →
      (r.map (·.2.layer)).filter (fun x => x.number != s.layer.number) = r.map (·.2.layer) := by
    intro r hr
    rw [filter_eq_self]
    intro x hx
    obtain ⟨e, he, rfl⟩ := mem_map.mp hx
    simpa using hr e he
  show (erase k h.map.served).map (·.2.layer) = _
  rw [recorded, hab, Value.erase_append ha, map_append, map_append, filter_append, map_cons,
    filter_cons, hkeep a (fun e he => ht.number_ne hab (mem_append_left _ he)),
    hkeep b (fun e he => ht.number_ne hab (mem_append_right _ he))]
  simp

theorem Whole.next (hw : Whole h) (hs : Valid h) (hc : ¬ c.TakesOver w h.map) : Whole (h.next c w) := by
  unfold Whole at hw ⊢
  have hstep := next_step hs.tidy c w
  generalize h.next c w = g at hstep ⊢
  cases hstep with
  | rest => exact hw
  | layer l hl =>
    rw [shown_withLayer hs hl, hw]
    rfl
  | drawn object look opacity k s hcall hn hafter =>
    have hfree : Value.lookup k h.map.served = none := by
      cases hk : Value.lookup k h.map.served with
      | none => rfl
      | some t =>
        refine absurd ⟨object, look, opacity, k, hcall, by rw [hk]; rfl, ?_⟩ hc
        rw [hafter]
        show h.map.layers ++ [s.layer] ≠ h.map.layers
        simp
    rw [shown_withServed hs hn, hw]
    show h.recorded ++ [s.layer] = (insert k s h.map.served).map (·.2.layer)
    rw [insert_of_lookup_none hfree, map_append]
    rfl
  | removed k s hk => rw [shown_withoutServed, recorded_withoutServed hs.tidy hk, hw]
  | cleared =>
    show shown _ = []
    rw [shown, filter_eq_nil_iff]
    intro x hx hd
    obtain ⟨hx, hunrecorded⟩ := mem_filter.mp hx
    -- a drawn layer that is on the map is recorded, so it was taken away
    have hrec : x ∈ h.recorded := by
      rw [← hw]
      exact mem_filter.mpr ⟨hx, hd⟩
    obtain ⟨e, he, rfl⟩ := mem_map.mp hrec
    simp only [Bool.not_eq_true', any_eq_false, beq_iff_eq] at hunrecorded
    exact hunrecorded e he rfl

def Orphaned (h : LayerHistory) : Prop :=
  ∃ l ∈ h.shown, ∀ e ∈ h.map.served, e.2.layer.number ≠ l.number

/-- **No call takes an orphaned layer away.** -/
theorem Orphaned.next (ho : Orphaned h) (hs : Valid h) (c : LayerCall) (w : World) :
    Orphaned (h.next c w) := by
  obtain ⟨l, hl, hfree⟩ := ho
  obtain ⟨hmap, hdrawn⟩ := mem_shown.mp hl
  have hstep := next_step hs.tidy c w
  generalize h.next c w = g at hstep ⊢
  cases hstep with
  | rest => exact ⟨l, hl, hfree⟩
  | layer x hx => exact ⟨l, mem_shown.mpr ⟨mem_append_left _ hmap, hdrawn⟩, hfree⟩
  | drawn object look opacity k s hc hn hafter =>
    refine ⟨l, mem_shown.mpr ⟨mem_append_left _ hmap, mem_append_left _ hdrawn⟩, ?_⟩
    intro e he
    rcases mem_insert he with he | he
    · exact hfree e he
    · have := hs.below _ hdrawn
      rw [he]
      show s.layer.number ≠ l.number
      omega
  | removed k s hk =>
    have hne : s.layer.number ≠ l.number := hfree _ (mem_of_lookup hk)
    refine ⟨l, mem_shown.mpr ⟨mem_filter.mpr ⟨hmap, by simpa using Ne.symm hne⟩, hdrawn⟩, ?_⟩
    intro e he
    exact hfree e (Value.erase_sublist.subset he)
  | cleared =>
    refine ⟨l, mem_shown.mpr ⟨mem_filter.mpr ⟨hmap, ?_⟩, hdrawn⟩, by simp [cleared]⟩
    simpa using hfree

theorem orphaned_of_takesOver (hs : Valid h) (hc : c.TakesOver w h.map) : Orphaned (h.next c w) := by
  obtain ⟨object, look, opacity, k, rfl, hk, hchanged⟩ := hc
  obtain ⟨t, ht⟩ := Option.isSome_iff_exists.mp hk
  have hchange := hs.tidy.change (.serve object look (.str k) opacity) w
  unfold next
  generalize LayerCall.after (.serve object look (.str k) opacity) w h.map = n at hchange hchanged ⊢
  cases hchange with
  | rest => exact absurd rfl hchanged
  | drawn _ _ _ _ s hnum =>
    rw [newLayers_withServed hs.tidy hnum, map_singleton, hnum]
    -- the layer that was recorded stays on the map; the record under its name now leads to a newer one
    have hmem := mem_of_lookup ht
    have hold : t.layer.number < h.map.made := hs.tidy.served_below hmem
    refine ⟨t.layer, mem_shown.mpr ⟨mem_append_left _ (hs.tidy.shown _ hmem),
      mem_append_left _ (hs.recorded _ hmem)⟩, ?_⟩
    obtain ⟨a, b, hab, ha⟩ := lookup_split ht
    intro e he
    have he' : e ∈ a ++ (k, s) :: b := by
      rw [← Value.insert_append (u := t) ha, ← hab]
      exact he
    rcases mem_append.mp he' with he' | he'
    · exact hs.tidy.number_ne hab (mem_append_left _ he')
    · rcases mem_cons.mp he' with he' | he'
      · rw [he']
        show s.layer.number ≠ t.layer.number
        omega
      · exact hs.tidy.number_ne hab (mem_append_right _ he')

theorem Valid.run (hs : Valid h) (calls : List (LayerCall × World)) : Valid (h.run calls) := by
  induction calls generalizing h with
  | nil => exact hs
  | cons c r ih => exact ih (hs.next c.1 c.2)

theorem Orphaned.run (ho : Orphaned h) (hs : Valid h) (calls : List (LayerCall × World)) :
    Orphaned (h.run calls) := by
  induction calls generalizing h with
  | nil => exact ho
  | cons c r ih => exact ih (ho.next hs c.1 c.2) (hs.next c.1 c.2)

theorem Whole.run (hw : Whole h) (hs : Valid h) (hk : LayerCall.KeepNames calls h.map) : Whole (h.run calls) := by
  induction calls generalizing h with
  | nil => exact hw
  | cons c r ih => exact ih (hw.next hs hk.1) (hs.next c.1 c.2) hk.2

/-- A run in which a name is taken over ends with a layer that is not recorded: the call that takes it over
orphans a layer, and the calls after it leave that layer alone. -/
theorem orphaned_of_not_keepNames (hs : Valid h) (hk : ¬ LayerCall.KeepNames calls h.map) : Orphaned (h.run calls) := by
  induction calls generalizing h with
  | nil => exact absurd trivial hk
  | cons c r ih =>
    by_cases hc : c.1.TakesOver c.2 h.map
    · exact (orphaned_of_takesOver hs hc).run (hs.next c.1 c.2) r
    · exact ih (hs.next c.1 c.2) (fun hr => hk ⟨hc, hr⟩)

theorem Orphaned.not_recorded (ho : Orphaned h) : ∃ l ∈ h.shown, l ∉ h.recorded := by
  obtain ⟨l, hl, hfree⟩ := ho
  refine ⟨l, hl, ?_⟩
  intro hrec
  obtain ⟨e, he, heq⟩ := mem_map.mp hrec
  exact hfree e he (by rw [heq])

theorem Valid.of_create (hm : (create a).runIn w = (.ok m, v)) : Valid ⟨m, []⟩ := by
  obtain ⟨_, hserved⟩ := create_eq_ok hm
  refine ⟨Tidy.of_create hm, by simp, ?_⟩
  rw [hserved]
  simp

theorem Whole.of_create (hm : (create a).runIn w = (.ok m, v)) : Whole ⟨m, []⟩ := by
  obtain ⟨hlayers, hserved⟩ := create_eq_ok hm
  show (m.layers.filter _) = m.served.map _
  rw [hlayers, hserved]
  rfl

/-- **When drawn layers stay within reach.** After calls on a new map, the drawn layers on the map are the
recorded ones, and taking all of them away leaves none, exactly if no call has drawn under a name in use. -/
theorem drawn_recorded_iff {a : Arguments} {w v : World} (hm : (create a).runIn w = (.ok m, v))
    (calls : List (LayerCall × World)) :
    ((∀ l, l ∈ (run ⟨m, []⟩ calls).shown ↔ l ∈ (run ⟨m, []⟩ calls).recorded) ↔ LayerCall.KeepNames calls m) ∧
    ∀ u : World, (run ⟨m, []⟩ (calls ++ [(.clear, u)])).shown = [] ↔ LayerCall.KeepNames calls m := by
  have hs : Valid ⟨m, []⟩ := Valid.of_create hm
  have hwhole : LayerCall.KeepNames calls m → Whole (run ⟨m, []⟩ calls) := (Whole.of_create hm).run hs
  have horphan : ¬ LayerCall.KeepNames calls m → Orphaned (run ⟨m, []⟩ calls) := orphaned_of_not_keepNames hs
  have hsrun := hs.run calls
  refine ⟨⟨?_, ?_⟩, ?_⟩
  · intro hsame
    by_contra hk
    obtain ⟨l, hl, hnot⟩ := (horphan hk).not_recorded
    exact hnot ((hsame l).mp hl)
  · intro hk l
    rw [hwhole hk]
  · intro u
    rw [run_append, run_cons, run_nil]
    constructor
    · intro hnone
      by_contra hk
      obtain ⟨l, hl, _⟩ := (horphan hk).next hsrun .clear u
      rw [hnone] at hl
      simp at hl
    · intro hk
      -- taking all layers away is one more call that takes over no name
      have hclear : ¬ LayerCall.clear.TakesOver u (run ⟨m, []⟩ calls).map := by
        rintro ⟨_, _, _, _, hcall, _⟩
        cases hcall
      rw [(hwhole hk).next hsrun hclear]
      show (LayerCall.clear.after u (run ⟨m, []⟩ calls).map).served.map _ = []
      rw [LayerCall.after, LayerCall.session, hsrun.tidy.clearServed_run]
      rfl

theorem drawn_recorded_iff_two_names :
    (create oceanArguments).runIn calm = (.ok oceanMap, calm) ∧
    (run ⟨oceanMap, []⟩ ([(drawImage "a" "A", calm), (drawImage "b" "B", calm)] ++ [(.clear, calm)])).shown = [] ∧
    LayerCall.KeepNames [(drawImage "a" "A", calm), (drawImage "b" "B", calm)] oceanMap :=
  ⟨create_oceanMap, rfl,
    ((drawn_recorded_iff create_oceanMap [(drawImage "a" "A", calm), (drawImage "b" "B", calm)]).2 calm).mp rfl⟩

/-- Of two images that are drawn under one name, the first is still on the map when all have been taken
away, and no record leads to it. -/
theorem drawn_left_behind_one_name :
    (create oceanArguments).runIn calm = (.ok oceanMap, calm) ∧
    (run ⟨oceanMap, []⟩ [(drawImage "a" "A", calm), (drawImage "b" "A", calm)]).shown.map (·.number) = [0, 1] ∧
    (run ⟨oceanMap, []⟩ [(drawImage "a" "A", calm), (drawImage "b" "A", calm)]).recorded.map (·.number) = [1] ∧
    (run ⟨oceanMap, []⟩ [(drawImage "a" "A", calm), (drawImage "b" "A", calm), (.clear, calm)]).shown.map (·.number) =
      [0] :=
  ⟨create_oceanMap, by decide, by decide, by decide⟩

end LayerHistory

end RemoteSensing
