import RemoteSensing.Inspector
import RemoteSensing.Proofs.Session.Run
import RemoteSensing.Proofs.Value.Fields
import Mathlib

/-!
The inspector and the order of keys.
-/

namespace RemoteSensing.Inspector

open List hiding erase insert lookup
open Option Session Value

section Fields

variable {α : Type} {key : String} {v : α} {fields others : Fields α}

theorem mem_keys_iff : key ∈ fields.map (·.1) ↔ (lookup key fields).isSome := by
  rw [← not_iff_not, ← Value.lookup_eq_none]
  simp

theorem nodup_erase (hn : (fields.map (·.1)).Nodup) : ((erase key fields).map (·.1)).Nodup :=
  hn.sublist (Value.erase_sublist.map _)

theorem lookup_erase_self (hn : (fields.map (·.1)).Nodup) : lookup key (erase key fields) = none := by
  induction fields with
  | nil => rfl
  | cons e r ih =>
    rw [map_cons, nodup_cons] at hn
    rw [erase]
    split
    · rename_i hk
      exact Value.lookup_eq_none.mpr (hk ▸ hn.1)
    · rename_i hk
      exact Value.lookup_cons_eq_none.mpr ⟨hk, ih hn.2⟩

theorem lookup_erase_of_ne {other : String} (h : key ≠ other) : lookup other (erase key fields) = lookup other fields := by
  induction fields with
  | nil => rfl
  | cons e r ih =>
    obtain ⟨k, u⟩ := e
    by_cases hk : k = key
    · have hne : k ≠ other := hk ▸ h
      rw [erase, if_pos hk, lookup, if_neg hne]
    · rw [erase, if_neg hk, lookup, lookup, ih]

theorem sorted_mergeSort {f : α → String} (xs : List α) :
    (xs.mergeSort fun a b => decide (f a ≤ f b)).Pairwise (f · ≤ f ·) := by
  have h := @pairwise_mergeSort _ (fun a b => decide (f a ≤ f b))
    (fun a b c => by simpa using String.le_trans) (fun a b => by simpa using String.le_total _ _) xs
  simpa using h

theorem mergeSort_eq_of_perm {f : α → String} {xs ys : List α} (hp : xs.Perm ys) (hn : (xs.map f).Nodup) :
    (xs.mergeSort fun a b => decide (f a ≤ f b)) = ys.mergeSort fun a b => decide (f a ≤ f b) := by
  refine Perm.eq_of_pairwise (fun a b ha hb hab hba => ?_) (sorted_mergeSort xs) (sorted_mergeSort ys)
    ((mergeSort_perm xs _).trans (hp.trans (mergeSort_perm ys _).symm))
  have hb' : b ∈ xs := hp.mem_iff.mpr (mem_mergeSort.mp hb)
  exact inj_on_of_nodup_map hn (mem_mergeSort.mp ha) hb' (String.le_antisymm hab hba)

def keyOrder (fields : Fields α) : List String :=
  (firstKeys.filter fun k => (lookup k fields).isSome) ++
    ((fields.map (·.1)).filter fun k => !firstKeys.contains k).mergeSort fun a b => decide (a ≤ b)

theorem mem_keyOrder : key ∈ keyOrder fields ↔ (lookup key fields).isSome := by
  simp only [keyOrder, mem_append, mem_filter, mem_mergeSort, mem_keys_iff]
  by_cases h : key ∈ firstKeys <;> simp [h]

theorem nodup_keyOrder (hn : (fields.map (·.1)).Nodup) : (keyOrder fields).Nodup := by
  refine nodup_append.mpr ⟨Nodup.filter _ (by decide), ?_, ?_⟩
  · exact nodup_mergeSort.mpr (hn.filter _)
  · rintro a ha b hb rfl
    simp only [mem_filter, mem_mergeSort] at ha hb
    simp [ha.1] at hb

theorem keys_found : ((keyOrder fields).filterMap fun k => (lookup k fields).map (k, ·)).map (·.1) = keyOrder fields := by
  rw [map_filterMap]
  refine (filterMap_congr fun k hk => ?_).trans filterMap_some
  obtain ⟨u, hu⟩ := isSome_iff_exists.mp (mem_keyOrder.mp hk)
  simp [hu]

theorem ordered_eq (hn : (fields.map (·.1)).Nodup) :
    ordered fields firstKeys = (keyOrder fields).filterMap fun k => (lookup k fields).map (k, ·) := by
  have hkeys := nodup_keyOrder hn
  rw [← keys_found] at hkeys
  have hinsert : _ = [] ++ _ := Value.foldl_insert Prod.fst Prod.snd hkeys
  rw [foldl_filterMap, nil_append, map_id'' fun _ => rfl] at hinsert
  rw [← hinsert, ordered]
  refine foldl_ext _ _ _ fun acc k _ => ?_
  cases lookup k fields <;> rfl

theorem mem_ordered (hn : (fields.map (·.1)).Nodup) : (key, v) ∈ ordered fields firstKeys ↔ lookup key fields = some v := by
  simp only [ordered_eq hn, mem_filterMap, mem_keyOrder, map_eq_some_iff, Prod.mk.injEq]
  constructor
  · rintro ⟨k, -, u, hu, rfl, rfl⟩
    exact hu
  · intro h
    exact ⟨key, by simp [h], v, h, rfl, rfl⟩

theorem keys_ordered (hn : (fields.map (·.1)).Nodup) : (ordered fields firstKeys).map (·.1) = keyOrder fields := by
  rw [ordered_eq hn, keys_found]

/-- **One order.** Records that have the same value at every key are put in the same order. -/
theorem ordered_congr (hn : (fields.map (·.1)).Nodup) (hn' : (others.map (·.1)).Nodup)
    (h : ∀ k, lookup k fields = lookup k others) : ordered fields firstKeys = ordered others firstKeys := by
  have hkeys : (fields.map (·.1)).Perm (others.map (·.1)) :=
    (perm_ext_iff_of_nodup hn hn').mpr fun k => by rw [mem_keys_iff, mem_keys_iff, h]
  have hrest := mergeSort_eq_of_perm (f := id) (hkeys.filter fun k => !firstKeys.contains k)
    (by simpa using hn.filter _)
  have horder : keyOrder fields = keyOrder others := by
    unfold keyOrder
    simp only [h]
    exact congrArg _ hrest
  rw [ordered_eq hn, ordered_eq hn', horder]
  simp only [h]

end Fields

variable {expanded name object : Data} {fields others : Fields}

variable {shown : Fields} {cls k : String}

def shownProperties (properties : Data) : Except Fault (Option Data) :=
  if properties.truthy then
    (properties.fieldsOf "items").map fun ps => some (.record (ps.mergeSort fun a b => decide (a.1 ≤ b.1)))
  else .ok none

def withProperties (fields : Fields) : Option Data → Fields
  | some p => insert "properties" p (erase "geometry" fields)
  | none => erase "geometry" fields

theorem shownFields_eq : shownFields fields =
    (shownProperties ((lookup "properties" fields).getD .null)).map fun p => ordered (withProperties fields p) firstKeys := by
  unfold shownFields shownProperties
  have hne : "geometry" ≠ "properties" := by decide
  simp only [lookup_erase_of_ne hne]
  split
  · cases ((lookup "properties" fields).getD .null).fieldsOf "items" <;> rfl
  · rfl

theorem nodup_withProperties (hn : (fields.map (·.1)).Nodup) (p : Option Data) :
    ((withProperties fields p).map (·.1)).Nodup := by
  cases p with
  | none => exact nodup_erase hn
  | some p => exact Value.insert_keys_nodup (nodup_erase hn)

def shownValue (k : String) (v : Data) : Data :=
  if k = "properties" ∧ v.truthy then
    match v with
    | .record ps | .box ps => .record (ps.mergeSort fun a b => decide (a.1 ≤ b.1))
    | v => v
  else v

theorem or_shownProperties {p : Option Data} (h : shownProperties ((lookup "properties" fields).getD .null) = .ok p) :
    p.or (lookup "properties" fields) = (lookup "properties" fields).map (shownValue "properties") := by
  cases hl : lookup "properties" fields with
  | none =>
    rw [hl] at h
    cases h
    rfl
  | some v =>
    rw [hl, getD_some] at h
    unfold shownProperties at h
    rw [map_some]
    unfold shownValue
    by_cases ht : v.truthy = true
    · rw [if_pos ht] at h
      rw [if_pos ⟨rfl, ht⟩]
      cases v <;> cases h <;> rfl
    · rw [if_neg ht] at h
      rw [if_neg fun h' => ht h'.2]
      cases h
      rfl

theorem lookup_withProperties {p : Option Data} (hn : (fields.map (·.1)).Nodup)
    (hp : shownProperties ((lookup "properties" fields).getD .null) = .ok p) :
    lookup k (withProperties fields p) = if k = "geometry" then none else (lookup k fields).map (shownValue k) := by
  split
  · rename_i hg
    subst hg
    cases p with
    | none => exact lookup_erase_self hn
    | some p => exact (Value.lookup_insert_of_ne (by decide)).trans (lookup_erase_self hn)
  · rename_i hg
    by_cases hk : k = "properties"
    · subst hk
      rw [← or_shownProperties hp]
      cases p with
      | none => exact lookup_erase_of_ne (Ne.symm hg)
      | some p => exact Value.lookup_insert_self
    · have hsame : shownValue k = id := funext fun v => if_neg fun h => hk h.1
      rw [hsame, Option.map_id_fun, id]
      cases p with
      | none => exact lookup_erase_of_ne (Ne.symm hg)
      | some p => exact (Value.lookup_insert_of_ne (Ne.symm hk)).trans (lookup_erase_of_ne (Ne.symm hg))

def SameValue (k : String) (v u : Data) : Prop :=
  v = u ∨ k = "properties" ∧ ∃ ps qs, v = .record ps ∧ u = .record qs ∧ ps.Perm qs ∧ (ps.map (·.1)).Nodup

theorem shown_of_same {v u : Data} (h : SameValue k v u) :
    shownValue k v = shownValue k u ∧ shownProperties v = shownProperties u := by
  rcases h with rfl | ⟨rfl, ps, qs, rfl, rfl, hperm, hn⟩
  · exact ⟨rfl, rfl⟩
  · cases ps with
    | nil =>
      cases hperm.nil_eq
      exact ⟨rfl, rfl⟩
    | cons e ps =>
      cases qs with
      | nil => exact absurd hperm.eq_nil (cons_ne_nil _ _)
      | cons d qs =>
        have hsort := mergeSort_eq_of_perm (f := (·.1)) hperm hn
        exact ⟨congrArg Value.record hsort, congrArg (fun ps => Except.ok (some (Value.record ps))) hsort⟩

/-- Two records with the same members. -/
structure SameMembers (fields others : Fields) : Prop where
  nodup : (fields.map (·.1)).Nodup
  nodup_others : (others.map (·.1)).Nodup
  value : ∀ k, Option.Rel (SameValue k) (lookup k fields) (lookup k others)

theorem SameMembers.lookup_eq (h : SameMembers fields others) (k : String) :
    (lookup k fields).map (shownValue k) = (lookup k others).map (shownValue k) ∧
      shownProperties ((lookup k fields).getD .null) = shownProperties ((lookup k others).getD .null) := by
  have hv := h.value k
  generalize lookup k fields = a, lookup k others = b at hv
  cases hv with
  | none => exact ⟨rfl, rfl⟩
  | some hv => exact ⟨congrArg some (shown_of_same hv).1, (shown_of_same hv).2⟩

/-- **The fields that are shown** do not depend on the order of keys. -/
theorem SameMembers.shownFields_eq (h : SameMembers fields others) : shownFields fields = shownFields others := by
  have hshown := (h.lookup_eq "properties").2
  rw [Inspector.shownFields_eq, Inspector.shownFields_eq, ← hshown]
  cases hp : shownProperties ((lookup "properties" fields).getD .null) with
  | error e => rfl
  | ok p =>
    refine congrArg Except.ok (ordered_congr (nodup_withProperties h.nodup p) (nodup_withProperties h.nodup_others p) fun k => ?_)
    rw [lookup_withProperties h.nodup hp, lookup_withProperties h.nodup_others (hshown ▸ hp), (h.lookup_eq k).1]

theorem fieldNodes_eq_ok {children : List Data} (h : fieldNodes expanded fields = .ok children) :
    Forall₂ (fun e child => e ∈ fields ∧ fieldNode expanded e.1 e.2 = .ok child) fields children := by
  induction fields generalizing children with
  | nil =>
    cases h
    exact .nil
  | cons e r ih =>
    obtain ⟨first, hfirst, h⟩ := bind_eq_ok.mp h
    obtain ⟨rest, hrest, h⟩ := bind_eq_ok.mp h
    cases h
    exact .cons ⟨mem_cons_self, hfirst⟩ ((ih hrest).imp fun _ _ he => ⟨mem_cons_of_mem _ he.1, he.2⟩)

theorem exists_fieldNodes_iff : (∃ children, fieldNodes expanded fields = .ok children) ↔
    ∀ e ∈ fields, ∃ child, fieldNode expanded e.1 e.2 = .ok child := by
  induction fields with
  | nil => simp [fieldNodes]
  | cons e r ih =>
    rw [forall_mem_cons, ← ih, fieldNodes]
    simp only [bind_eq_ok]
    constructor
    · rintro ⟨_, first, hfirst, rest, hrest, -⟩
      exact ⟨⟨first, hfirst⟩, rest, hrest⟩
    · rintro ⟨⟨first, hfirst⟩, rest, hrest⟩
      exact ⟨_, first, hfirst, rest, hrest, rfl⟩

theorem exists_fieldNode_shownValue {v : Data} :
    (∃ child, fieldNode expanded k (shownValue k v) = .ok child) ↔ ∃ child, fieldNode expanded k v = .ok child := by
  have hfields : ∀ ps : Fields,
      (∃ child, fieldNode expanded k (.record ps) = .ok child) ↔ ∃ children, fieldNodes expanded ps = .ok children := by
    intro ps
    simp only [fieldNode, bind_eq_ok]
    exact ⟨fun ⟨_, children, h, _⟩ => ⟨children, h⟩, fun ⟨children, h⟩ => ⟨_, children, h, rfl⟩⟩
  have hsort : ∀ ps : Fields,
      (∃ child, fieldNode expanded k (.record (ps.mergeSort fun a b => decide (a.1 ≤ b.1))) = .ok child) ↔
        ∃ child, fieldNode expanded k (.record ps) = .ok child := by
    intro ps
    rw [hfields, hfields, exists_fieldNodes_iff, exists_fieldNodes_iff]
    simp only [mem_mergeSort]
  unfold shownValue
  split
  · split
    · exact hsort _
    · exact hsort _
    · rfl
  · rfl

/-- An answer that has a tree: properties are a record, bands can be counted, and every label can be formatted. -/
structure Displayable (expanded : Data) (fields : Fields) : Prop where
  properties : ∀ p, lookup "properties" fields = some p → p.truthy → ∃ ps, p.fieldsOf "items" = .ok ps
  bands : ∀ b, lookup "bands" fields = some b → b.truthy → ∃ n, b.len = .ok n
  label : ∀ k v, lookup k fields = some v → k ≠ "geometry" → ∃ child, fieldNode expanded k v = .ok child

theorem exists_shownProperties_iff : (∃ p, shownProperties ((lookup "properties" fields).getD .null) = .ok p) ↔
    ∀ p, lookup "properties" fields = some p → p.truthy → ∃ ps, p.fieldsOf "items" = .ok ps := by
  cases lookup "properties" fields with
  | none =>
    refine ⟨fun _ p hp => by simp at hp, fun _ => ⟨none, rfl⟩⟩
  | some p =>
    simp only [getD_some, Option.some.injEq, forall_eq', shownProperties]
    cases p.truthy <;> cases p.fieldsOf "items" <;> simp [Except.map]

theorem shownFields_eq_ok (h : shownFields fields = .ok shown) :
    ∃ p, shownProperties ((lookup "properties" fields).getD .null) = .ok p ∧
      shown = ordered (withProperties fields p) firstKeys := by
  rw [shownFields_eq] at h
  obtain ⟨p, hp, rfl⟩ := map_eq_ok.mp h
  exact ⟨p, hp, rfl⟩

theorem mem_shown (hn : (fields.map (·.1)).Nodup) (h : shownFields fields = .ok shown) {u : Data} :
    (k, u) ∈ shown ↔ k ≠ "geometry" ∧ ∃ v, lookup k fields = some v ∧ shownValue k v = u := by
  obtain ⟨p, hp, rfl⟩ := shownFields_eq_ok h
  rw [mem_ordered (nodup_withProperties hn p), lookup_withProperties hn hp]
  split
  · simp [*]
  · simp [*]

theorem mem_keys_shown (hn : (fields.map (·.1)).Nodup) (h : shownFields fields = .ok shown) :
    k ∈ shown.map (·.1) ↔ k ≠ "geometry" ∧ k ∈ fields.map (·.1) := by
  have hkeys : k ∈ fields.map (·.1) ↔ (lookup k fields).isSome := mem_keys_iff
  rw [hkeys, isSome_iff_exists]
  constructor
  · intro hk
    obtain ⟨⟨k, u⟩, hu, rfl⟩ := mem_map.mp hk
    obtain ⟨hg, v, hv, -⟩ := (mem_shown hn h).mp hu
    exact ⟨hg, v, hv⟩
  · rintro ⟨hg, v, hv⟩
    exact mem_map_of_mem (f := (·.1)) ((mem_shown hn h).mpr ⟨hg, v, hv, rfl⟩)

/-- Keys in the order that a tree shows them in: the telling ones first, the others sorted, none twice, and the geometry
nowhere. -/
def TopOrder (keys shown : List String) : Prop :=
  shown.Perm (keys.filter (· ≠ "geometry")) ∧
    ∃ rest : List String, shown = firstKeys.filter (· ∈ keys) ++ rest ∧ rest.Pairwise (· < ·)

theorem topOrder_shown (hn : (fields.map (·.1)).Nodup) (h : shownFields fields = .ok shown) :
    TopOrder (fields.map (·.1)) (shown.map (·.1)) := by
  have hkeys := fun k => mem_keys_shown hn h (k := k)
  obtain ⟨p, -, rfl⟩ := shownFields_eq_ok h
  have hall := nodup_withProperties hn p
  rw [keys_ordered hall] at hkeys ⊢
  have hnodup := nodup_keyOrder hall
  refine ⟨(perm_ext_iff_of_nodup hnodup (hn.filter _)).mpr fun k => ?_, _, congrArg (· ++ _) ?_, ?_⟩
  · simp [hkeys, and_comm]
  · refine filter_congr fun k hk => ?_
    have hg : k ≠ "geometry" := by rintro rfl; revert hk; decide
    rw [Bool.eq_iff_iff, ← mem_keyOrder, hkeys]
    simp [hg]
  · have hle := sorted_mergeSort (f := id) (((withProperties fields p).map (·.1)).filter fun k => !firstKeys.contains k)
    have hne := (nodup_append.mp hnodup).2.1
    exact (hle.and hne).imp fun h => String.not_le.mp fun hba => h.2 (String.le_antisymm h.1 hba)

theorem exists_topLabel_iff : (∃ label, topLabel name cls fields = .ok label) ↔
    ∀ b, lookup "bands" fields = some b → b.truthy → ∃ n, b.len = .ok n := by
  unfold topLabel
  cases lookup "bands" fields with
  | none =>
    refine ⟨fun _ b hb => by simp at hb, fun _ => ⟨_, rfl⟩⟩
  | some b =>
    simp only [getD_some, Option.some.injEq, forall_eq']
    cases b.truthy with
    | false => exact ⟨fun _ h => by simp at h, fun _ => ⟨_, rfl⟩⟩
    | true =>
      cases b.len with
      | error e => exact ⟨fun ⟨_, h⟩ => (by cases h), fun h => by simpa using h rfl⟩
      | ok n => exact ⟨fun _ _ => ⟨n, rfl⟩, fun _ => ⟨_, rfl⟩⟩

theorem tree_record (h : fields ≠ []) : tree name expanded cls (.record fields) = (do
    let shown ← shownFields fields
    let label ← topLabel name cls shown
    let children ← fieldNodes expanded shown
    pure (node label children expanded)) := by
  cases fields with
  | nil => exact absurd rfl h
  | cons e r => rfl

theorem tree_eq_ok {t : Data} (h : fields ≠ []) : tree name expanded cls (.record fields) = .ok t ↔
    ∃ shown label children, shownFields fields = .ok shown ∧ topLabel name cls shown = .ok label ∧
      fieldNodes expanded shown = .ok children ∧ t = node label children expanded := by
  rw [tree_record h]
  simp only [bind_eq_ok]
  constructor
  · rintro ⟨shown, hshown, label, hlabel, children, hchildren, heq⟩
    cases heq
    exact ⟨shown, label, children, hshown, hlabel, hchildren, rfl⟩
  · rintro ⟨shown, label, children, hshown, hlabel, hchildren, rfl⟩
    exact ⟨shown, hshown, label, hlabel, children, hchildren, rfl⟩

theorem exists_tree_iff (hn : (fields.map (·.1)).Nodup) (h : fields ≠ []) :
    (∃ t, tree name expanded cls (.record fields) = .ok t) ↔ Displayable expanded fields := by
  have hshown : ∀ shown, shownFields fields = .ok shown →
      ((∃ label, topLabel name cls shown = .ok label) ↔
        ∀ b, lookup "bands" fields = some b → b.truthy → ∃ n, b.len = .ok n) ∧
      ((∃ children, fieldNodes expanded shown = .ok children) ↔
        ∀ k v, lookup k fields = some v → k ≠ "geometry" → ∃ child, fieldNode expanded k v = .ok child) := by
    intro shown hshown
    have hnodup : (shown.map (·.1)).Nodup := (topOrder_shown hn hshown).1.nodup_iff.mpr (hn.filter _)
    refine ⟨?_, ?_⟩
    · rw [exists_topLabel_iff]
      simp only [Value.lookup_eq_some_iff hnodup, mem_shown hn hshown]
      simp [shownValue]
    · rw [exists_fieldNodes_iff]
      constructor
      · intro hall k v hv hg
        exact exists_fieldNode_shownValue.mp (hall _ ((mem_shown hn hshown).mpr ⟨hg, v, hv, rfl⟩))
      · rintro hall ⟨k, u⟩ hu
        obtain ⟨hg, v, hv, rfl⟩ := (mem_shown hn hshown).mp hu
        exact exists_fieldNode_shownValue.mpr (hall k v hv hg)
  simp only [tree_eq_ok h]
  constructor
  · rintro ⟨t, shown, label, children, hs, hl, hc, -⟩
    obtain ⟨p, hp, -⟩ := shownFields_eq_ok hs
    exact ⟨exists_shownProperties_iff.mp ⟨p, hp⟩, (hshown shown hs).1.mp ⟨label, hl⟩, (hshown shown hs).2.mp ⟨children, hc⟩⟩
  · rintro ⟨hproperties, hbands, hlabel⟩
    obtain ⟨p, hp⟩ := exists_shownProperties_iff.mpr hproperties
    have hs : shownFields fields = .ok (ordered (withProperties fields p) firstKeys) := by
      rw [shownFields_eq, hp]
      rfl
    obtain ⟨label, hl⟩ := (hshown _ hs).1.mpr hbands
    obtain ⟨children, hc⟩ := (hshown _ hs).2.mpr hlabel
    exact ⟨_, _, label, children, hs, hl, hc, rfl⟩

def IsTop (expanded : Data) (fields : Fields) (t : Data) : Prop :=
  ∃ label keys children, t = node label children expanded ∧ TopOrder (fields.map (·.1)) keys ∧
    Forall₂ (fun k child => ∃ v, lookup k fields = some v ∧ fieldNode expanded k (shownValue k v) = .ok child)
      keys children

theorem isTop_of_tree (hn : (fields.map (·.1)).Nodup) (h : fields ≠ []) {t : Data}
    (ht : tree name expanded cls (.record fields) = .ok t) : IsTop expanded fields t := by
  obtain ⟨shown, label, children, hs, -, hc, rfl⟩ := (tree_eq_ok h).mp ht
  refine ⟨label, _, children, rfl, topOrder_shown hn hs, forall₂_map_left_iff.mpr ?_⟩
  refine (fieldNodes_eq_ok hc).imp ?_
  rintro ⟨k, u⟩ child ⟨hu, hchild⟩
  obtain ⟨-, v, hv, rfl⟩ := (mem_shown hn hs).mp hu
  exact ⟨v, hv, hchild⟩

/-- What the server is asked about: of a collection, only the properties of its features. -/
def subject (object : Data) : Data :=
  if object.isKind .featureCollection then
    object.call "map" [.each 1 fun f => Kind.feature.make [.null, f.call "toDictionary"]]
  else object

theorem inspect_run {answer : Data} {w v : World} (h : (info (subject object)).runIn w = (.ok answer, v)) :
    (inspectCommand.call [object, name, expanded]).runIn w =
      (tree name expanded (subject object).typeName answer, v) :=
  (runIn_bind_of_ok h _).trans (runIn_liftM _ _)

/-- **The tree of an object.** Two answers with the same members give the same tree, wherever and whenever they come; there
is a tree exactly when the answer is displayable, and its top node has one child for every key but the geometry, the
telling keys first and the others sorted. -/
theorem inspect_eq_of_sameMembers {w w' v v' : World} (hsame : SameMembers fields others) (hne : fields ≠ [])
    (h : (info (subject object)).runIn w = (.ok (.record fields), v))
    (h' : (info (subject object)).runIn w' = (.ok (.record others), v')) :
    ((inspectCommand.call [object, name, expanded]).runIn w).1 =
        ((inspectCommand.call [object, name, expanded]).runIn w').1 ∧
      ((∃ t, ((inspectCommand.call [object, name, expanded]).runIn w).1 = .ok t) ↔ Displayable expanded fields) ∧
      ∀ t, ((inspectCommand.call [object, name, expanded]).runIn w).1 = .ok t → IsTop expanded fields t := by
  have hne' : others ≠ [] := by
    rintro rfl
    obtain ⟨e, r, rfl⟩ := exists_cons_of_ne_nil hne
    have he := hsame.value e.1
    simp [lookup] at he
  rw [inspect_run h, inspect_run h']
  refine ⟨?_, exists_tree_iff hsame.nodup hne, fun t => isTop_of_tree hsame.nodup hne⟩
  show tree _ _ _ _ = tree _ _ _ _
  rw [tree_record hne, tree_record hne', hsame.shownFields_eq]

theorem inspect_eq_of_sameMembers_image :
    let fields : Fields :=
      [("id", .str "a"), ("properties", .record [("y", .int 2), ("x", .int 1)]), ("type", .str "Image")]
    let others : Fields :=
      [("type", .str "Image"), ("properties", .record [("x", .int 1), ("y", .int 2)]), ("id", .str "a")]
    let run := fun fs => ((inspectCommand.call [.object .image "a", .str "", .bool false]).runIn
      { answers := [.ok (.record fs)] }).1
    SameMembers fields others ∧ run fields = run others ∧ ∃ t, run fields = .ok t ∧ IsTop (.bool false) fields t := by
  intro fields others run
  have hsame : SameMembers fields others := by
    refine ⟨by decide, by decide, fun k => ?_⟩
    simp only [fields, others, lookup]
    by_cases hid : "id" = k
    · subst hid
      exact .some (.inl rfl)
    by_cases hproperties : "properties" = k
    · subst hproperties
      exact .some (.inr ⟨rfl, _, _, rfl, rfl, List.Perm.swap _ _ _, by decide⟩)
    by_cases htype : "type" = k
    · subst htype
      exact .some (.inl rfl)
    simp [hid, hproperties, htype]
  have hasked : ∀ fs, (info (subject (.object .image "a"))).runIn { answers := [.ok (.record fs)] } =
      (.ok (.record fs), { answers := [.ok (.record fs)], asked := ["a.getInfo()"] }) := fun fs => rfl
  have hlabel : ∀ k v, lookup k fields = some v → k ≠ "geometry" → ∃ child, fieldNode (.bool false) k v = .ok child := by
    intro k v hv _
    have hmem := Value.mem_of_lookup hv
    simp only [fields, mem_cons, Prod.mk.injEq, not_mem_nil, or_false] at hmem
    obtain ⟨rfl, rfl⟩ | ⟨rfl, rfl⟩ | ⟨rfl, rfl⟩ := hmem <;> exact ⟨_, rfl⟩
  have hdisplayable : Displayable (.bool false) fields :=
    ⟨fun p hp _ => by cases hp; exact ⟨_, rfl⟩, fun b hb => (by cases hb), hlabel⟩
  have h := @inspect_eq_of_sameMembers (.bool false) (.str "") (.object .image "a") fields others _ _ _ _ hsame
    (cons_ne_nil _ _) (hasked fields) (hasked others)
  obtain ⟨t, ht⟩ := h.2.1.mpr hdisplayable
  exact ⟨hsame, h.1, t, ht, h.2.2 t ht⟩

theorem inspect_bands_number :
    fieldNode (.bool false) "bands" (.int 5) = .ok (node "bands: 5" [] (.bool false)) ∧
      ((inspectCommand.call [.object .image "x", .str "", .bool false]).runIn
        { answers := [.ok (.record [("bands", .int 5)])] }).1 =
        .error (.wrongType "object of type 'int' has no len()") :=
  ⟨rfl, by cbv⟩

end RemoteSensing.Inspector
