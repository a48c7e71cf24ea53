import RemoteSensing.Proofs.Text.Chars
import RemoteSensing.Proofs.Value.Fields

/-!
Renaming the keys of a JSON value at every depth.
-/

namespace RemoteSensing.Value

open List hiding lookup insert

variable {ν : Type}

def isLeaf : Value ν → Bool
  | .null | .bool _ | .int _ | .real _ | .str _ => true
  | _ => false

/-- A JSON value with the keys of each of its objects as demanded. -/
inductive JsonWith (ok : List String → Prop) : Value ν → Prop
  | leaf {v : Value ν} : v.isLeaf = true → JsonWith ok v
  | list {xs : List (Value ν)} : (∀ x ∈ xs, JsonWith ok x) → JsonWith ok (.list xs)
  | record {fs : Fields (Value ν)} : ok (fs.map (·.1)) → (∀ e ∈ fs, JsonWith ok e.2) → JsonWith ok (.record fs)

inductive Step where
  | index (i : Nat)
  | key (k : String)

def Step.plain : Step → Step
  | .index i => .index i
  | .key k => .key (plainKey k)

def atPath : List Step → Value ν → Option (Value ν)
  | [], v => some v
  | .index i :: p, .list xs => xs[i]?.bind (atPath p)
  | .key k :: p, .record fs => (lookup k fs).bind (atPath p)
  | _, _ => none

theorem hyphen_not_mem (k : String) : '-' ∉ (plainKey k).toList := by
  rw [plainKey, String.toList_ofList]
  exact Chars.not_mem_replace_singleton (by decide) _

theorem plainKey_of_not_mem {k : String} (h : '-' ∉ k.toList) : plainKey k = k := by
  rw [plainKey, Chars.replace_of_absent (by simp) _ (by rwa [List.singleton_infix_iff]), String.ofList_toList]

theorem renameInList_eq (xs : List (Value ν)) : renameInList xs = xs.map renameAllKeys := by
  induction xs with
  | nil => rfl
  | cons x r ih => rw [renameInList, ih, map_cons]

theorem renameInFields_eq (fs : Fields (Value ν)) :
    renameInFields fs = fs.map fun e => (e.1, renameAllKeys e.2) := by
  induction fs with
  | nil => rfl
  | cons e r ih => rw [renameInFields, ih, map_cons]

theorem insert_map {α β : Type} (f : α → β) (k : String) (v : α) (fs : Fields α) :
    insert k (f v) (fs.map fun e => (e.1, f e.2)) = (insert k v fs).map fun e => (e.1, f e.2) := by
  induction fs with
  | nil => rfl
  | cons e r ih =>
    rw [map_cons, insert, insert, ih]
    split <;> rfl

/-- Values do not matter for where the renamed fields go. -/
theorem renameAllKeys_record (fs : Fields (Value ν)) :
    renameAllKeys (.record fs) = .record ((renameFields fs).map fun e => (e.1, renameAllKeys e.2)) := by
  have hmap : ∀ acc : Fields (Value ν),
      (fs.map fun e => (e.1, renameAllKeys e.2)).foldl (fun acc kv => insert (plainKey kv.1) kv.2 acc)
        (acc.map fun e => (e.1, renameAllKeys e.2)) =
      (fs.foldl (fun acc kv => insert (plainKey kv.1) kv.2 acc) acc).map fun e => (e.1, renameAllKeys e.2) := by
    induction fs with
    | nil => exact fun _ => rfl
    | cons e r ih =>
      intro acc
      simp only [map_cons, foldl_cons, ← ih, insert_map]
  rw [renameAllKeys, renameInFields_eq, renameFields, renameFields, ← hmap []]
  rfl

theorem renameAllKeys_of_nodup {fs : Fields (Value ν)} (hn : ((fs.map (·.1)).map plainKey).Nodup) :
    renameAllKeys (.record fs) = .record (fs.map fun e => (plainKey e.1, renameAllKeys e.2)) := by
  rw [map_map] at hn
  have hfields : renameFields fs = fs.map fun e => (plainKey e.1, e.2) := foldl_insert _ _ hn
  rw [renameAllKeys_record, hfields, map_map]
  rfl

/-- Renamed fields have keys without a hyphen, no key twice, and values that were there. -/
structure Renamed (fs rs : Fields (Value ν)) : Prop where
  nodup : (rs.map (·.1)).Nodup
  hyphen : ∀ e ∈ rs, '-' ∉ e.1.toList
  value : ∀ e ∈ rs, ∃ f ∈ fs, e.2 = f.2

theorem renamed_renameFields (fs : Fields (Value ν)) : Renamed fs (renameFields fs) := by
  induction fs using List.reverseRecOn with
  | nil => exact ⟨nodup_nil, nofun, nofun⟩
  | append_singleton fs f ih =>
    have hlast : renameFields (fs ++ [f]) = insert (plainKey f.1) f.2 (renameFields fs) := by
      rw [renameFields, foldl_append]
      rfl
    rw [hlast]
    refine ⟨insert_keys_nodup ih.nodup, fun e he => ?_, fun e he => ?_⟩
    · rcases mem_insert he with he | rfl
      · exact ih.hyphen e he
      · exact hyphen_not_mem f.1
    · rcases mem_insert he with he | rfl
      · obtain ⟨g, hg, hvalue⟩ := ih.value e he
        exact ⟨g, mem_append_left _ hg, hvalue⟩
      · exact ⟨f, by simp, rfl⟩

theorem renameAllKeys_leaf {v : Value ν} (h : v.isLeaf = true) : v.renameAllKeys = v := by
  cases v <;> first | rfl | cases h

variable {v : Value ν} {ok : List String → Prop}

theorem JsonWith.hyphenFree (h : JsonWith ok v) : JsonWith (∀ k ∈ ·, '-' ∉ k.toList) v.renameAllKeys := by
  induction h with
  | leaf h => exact .leaf (by rwa [renameAllKeys_leaf h])
  | list _ ih =>
    rw [renameAllKeys, renameInList_eq]
    exact .list (forall_mem_map.mpr ih)
  | @record fs _ _ ih =>
    have hrenamed := renamed_renameFields fs
    rw [renameAllKeys_record]
    refine .record (by simpa using hrenamed.hyphen) (forall_mem_map.mpr fun e he => ?_)
    obtain ⟨f, hf, hvalue⟩ := hrenamed.value e he
    rw [hvalue]
    exact ih f hf

theorem JsonWith.idempotent (h : JsonWith ok v) : v.renameAllKeys.renameAllKeys = v.renameAllKeys := by
  induction h with
  | leaf h => rw [renameAllKeys_leaf h, renameAllKeys_leaf h]
  | list _ ih =>
    rw [renameAllKeys, renameInList_eq, renameAllKeys, renameInList_eq, map_map]
    exact congrArg _ (map_congr_left ih)
  | @record fs _ _ ih =>
    have hrenamed := renamed_renameFields fs
    have hplain : ∀ e ∈ renameFields fs, plainKey e.1 = e.1 := fun e he => plainKey_of_not_mem (hrenamed.hyphen e he)
    have hagain : ∀ e ∈ renameFields fs, e.2.renameAllKeys.renameAllKeys = e.2.renameAllKeys := by
      intro e he
      obtain ⟨f, hf, hvalue⟩ := hrenamed.value e he
      rw [hvalue, ih f hf]
    have hkeys : (renameFields fs).map (fun e => plainKey e.1) = (renameFields fs).map (·.1) := map_congr_left hplain
    rw [renameAllKeys_record, renameAllKeys_of_nodup, map_map]
    · refine congrArg _ (map_congr_left fun e he => ?_)
      simp [hplain e he, hagain e he]
    · rw [map_map, map_map]
      exact hkeys ▸ hrenamed.nodup

theorem lookup_renamed {f : Value ν → Value ν} {k : String} {u : Value ν} {fs : Fields (Value ν)}
    (hn : ((fs.map (·.1)).map plainKey).Nodup) (h : lookup k fs = some u) :
    lookup (plainKey k) (fs.map fun e => (plainKey e.1, f e.2)) = some (f u) := by
  induction fs with
  | nil => cases h
  | cons e r ih =>
    obtain ⟨hnew, hr⟩ := nodup_cons.mp hn
    by_cases hk : e.1 = k
    · rw [lookup, if_pos hk] at h
      cases h
      rw [map_cons, lookup, if_pos (congrArg plainKey hk)]
    · rw [lookup, if_neg hk] at h
      have hne : plainKey e.1 ≠ plainKey k := by
        intro heq
        exact hnew (heq ▸ mem_map_of_mem (mem_map_of_mem (mem_of_lookup h)))
      rw [map_cons, lookup, if_neg hne, ih hr h]

theorem renameAllKeys_len (h : JsonWith (fun ks => (ks.map plainKey).Nodup) v) : v.renameAllKeys.len = v.len := by
  cases h with
  | leaf h => rw [renameAllKeys_leaf h]
  | list _ => rw [renameAllKeys, renameInList_eq, len, length_map, len]
  | record hn _ => rw [renameAllKeys_of_nodup hn, len, length_map, len]

theorem follow_renamed {p : List Step} {u : Value ν} (h : JsonWith (fun ks => (ks.map plainKey).Nodup) v)
    (hp : atPath p v = some u) : atPath (p.map Step.plain) v.renameAllKeys = some u.renameAllKeys ∧
      u.renameAllKeys.len = u.len := by
  induction p generalizing v with
  | nil =>
    cases hp
    exact ⟨rfl, renameAllKeys_len h⟩
  | cons s p ih =>
    cases h with
    | leaf h => cases s <;> cases v <;> first | cases hp | cases h
    | @list xs hxs =>
      cases s with
      | key k => cases hp
      | index i =>
        obtain ⟨x, hx, hp⟩ := Option.bind_eq_some_iff.mp hp
        rw [renameAllKeys, renameInList_eq, map_cons, Step.plain, atPath, getElem?_map, hx]
        exact ih (hxs x (mem_of_getElem? hx)) hp
    | @record fs hn hfs =>
      cases s with
      | index i => cases hp
      | key k =>
        obtain ⟨x, hx, hp⟩ := Option.bind_eq_some_iff.mp hp
        rw [renameAllKeys_of_nodup hn, map_cons, Step.plain, atPath, lookup_renamed hn hx]
        exact ih (hfs _ (mem_of_lookup hx)) hp

/-- **Renaming keys at every depth** leaves no hyphen in a key, has nothing to do the second time and gives the same keys
at the top as the renaming there alone. If no object has two keys that become one, each path leads to what it led to, with
its own keys renamed: to the same leaf, or to a list or an object of the same size. -/
theorem renaming_keeps_shape (h : JsonWith Nodup v) :
    JsonWith (∀ k ∈ ·, '-' ∉ k.toList) v.renameAllKeys ∧ v.renameAllKeys.renameAllKeys = v.renameAllKeys ∧
    v.renameAllKeys.keys = v.renameKeys.keys ∧
    (JsonWith (fun ks => (ks.map plainKey).Nodup) v → ∀ p u, atPath p v = some u →
      atPath (p.map Step.plain) v.renameAllKeys = some u.renameAllKeys ∧ u.renameAllKeys.len = u.len ∧
      (u.isLeaf = true → u.renameAllKeys = u)) := by
  refine ⟨h.hyphenFree, h.idempotent, ?_, fun hn p u hp => ?_⟩
  · cases h with
    | leaf h => cases v <;> first | rfl | cases h
    | list _ => rfl
    | record _ _ =>
      rw [renameAllKeys_record, renameKeys, keys, map_map, keys]
      rfl
  · obtain ⟨hfollow, hlen⟩ := follow_renamed hn hp
    exact ⟨hfollow, hlen, renameAllKeys_leaf⟩

def sample : Data := .record [("a-b", .list [.record [("c-d", 1), ("c", 2)]])]

theorem renaming_keeps_shape_sample : JsonWith Nodup sample ∧
    atPath [.key "a_b", .index 0, .key "c_d"] sample.renameAllKeys = some 1 := by
  have hjson : ∀ {ok : List String → Prop}, ok ["a-b"] → ok ["c-d", "c"] → JsonWith ok sample := by
    intro ok hab hcd
    have hleaf : ∀ i, JsonWith ok (.int i : Data) := fun i => .leaf rfl
    exact .record hab (by simpa using .list (by simpa using .record hcd (by simpa using ⟨hleaf 1, hleaf 2⟩)))
  have h : JsonWith Nodup sample := hjson (by decide) (by decide)
  exact ⟨h, ((renaming_keeps_shape h).2.2.2 (hjson (by decide) (by decide)) [.key "a-b", .index 0, .key "c-d"] 1 rfl).1⟩

end RemoteSensing.Value
