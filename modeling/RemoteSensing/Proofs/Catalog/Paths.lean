import Mathlib
import RemoteSensing.Catalog.Search
import RemoteSensing.Proofs.Path
import RemoteSensing.Proofs.Session.Run
import RemoteSensing.Proofs.Value.Fields

/-!
The tree of identifiers.
-/

namespace RemoteSensing.Catalog

open List Session Value

variable {after before : List String} {id part : String}

def follow (tree : Data) (path : List String) : Except Fault Data := path.foldlM item tree

theorem follow_cons (tree : Data) (part : String) (path : List String) :
    follow tree (part :: path) = (tree.item part >>= fun v => follow v path) := foldlM_cons

theorem follow_pathRecord (id : String) (path : List String) : follow (pathRecord id path) path = .ok (.str id) := by
  induction path with
  | nil => rfl
  | cons part path ih =>
    have hitem : (pathRecord id (part :: path)).item part = .ok (pathRecord id path) := by
      simp [pathRecord, item, Value.lookup]
    rw [follow_cons, hitem]
    exact ih

theorem eq_of_follow_pathRecord {other : String} {path way : List String}
    (h : follow (pathRecord other path) way = .ok (.str id)) : id = other := by
  induction way generalizing path with
  | nil =>
    cases path with
    | nil =>
      cases h
      rfl
    | cons part path => cases h
  | cons step way ih =>
    obtain ⟨v, hitem, hv⟩ := bind_eq_ok.mp h
    cases path with
    | nil => cases hitem
    | cons part path =>
      -- there is one field, so a step that leads on leads along the path
      by_cases hpart : part = step
      · simp only [pathRecord, item, Value.lookup, if_pos hpart] at hitem
        cases hitem
        exact ih hv
      · simp only [pathRecord, item, Value.lookup, if_neg hpart] at hitem
        cases hitem

def partsOf (id : String) : List String := Text.split id "/"

def firstPart (id : String) : String := (partsOf id).headD ""

def underscored (id : String) : String := Text.replace id "/" "_"

theorem partsOf_eq (id : String) : partsOf id = firstPart id :: (partsOf id).tail := by
  obtain ⟨part, rest, h⟩ := exists_cons_of_ne_nil (Path.split_ne_nil id)
  rw [firstPart, partsOf, h]
  rfl

theorem firstPart_mem (id : String) : firstPart id ∈ partsOf id := by
  rw [partsOf_eq]
  exact mem_cons_self

theorem partsOf_of_underscored (h : underscored id = firstPart id) : partsOf id = [id] := by
  by_cases hslash : '/' ∈ id.toList
  · -- with a slash, the first part is shorter than the identifier, while underscores keep its length
    exfalso
    obtain ⟨a, b, hid, ha⟩ := eq_append_cons_of_mem hslash
    have hcut : id = String.ofList a ++ "/" ++ String.ofList b := by
      rw [← String.toList_inj, hid]
      simp
    have hfirst : firstPart id = String.ofList a := by
      rw [firstPart, partsOf, hcut, Path.split_append, Path.split_of_slashless (by simpa using ha)]
      rfl
    have hlength : (underscored id).toList.length = id.toList.length := by
      rw [underscored, Text.replace, String.toList_ofList]
      exact (congrArg length (Chars.replace_char '/' '_' id.toList)).trans (length_map _)
    rw [h, hfirst, hid, String.toList_ofList, length_append, length_cons] at hlength
    omega
  · exact Path.split_of_slashless hslash

variable {tree : Fields} {ids : List String}

theorem putPath_eq (tree : Fields) (id : String) :
    putPath tree id = Value.insert (underscored id) (.str id)
      (Value.insert (firstPart id) (pathRecord id (partsOf id).tail) tree) := by
  have hparts : pathRecord id (Text.split id "/") = .record [(firstPart id, pathRecord id (partsOf id).tail)] := by
    rw [← partsOf, partsOf_eq]
    rfl
  rw [putPath, hparts]
  rfl

theorem lookup_putPath_of_ne (hfirst : firstPart id ≠ part) (hunderscored : underscored id ≠ part) :
    Value.lookup part (putPath tree id) = Value.lookup part tree := by
  rw [putPath_eq, Value.lookup_insert_of_ne hunderscored, Value.lookup_insert_of_ne hfirst]

theorem lookup_putPath_self (tree : Fields) (id : String) :
    Value.lookup (firstPart id) (putPath tree id) = some (pathRecord id (partsOf id).tail) := by
  rw [putPath_eq]
  by_cases h : underscored id = firstPart id
  · rw [h, Value.lookup_insert_self, partsOf_of_underscored h]
    rfl
  · rw [Value.lookup_insert_of_ne h, Value.lookup_insert_self]

theorem lookup_foldl_putPath (h : ∀ id ∈ ids, firstPart id ≠ part ∧ underscored id ≠ part) :
    Value.lookup part (ids.foldl putPath tree) = Value.lookup part tree := by
  induction ids generalizing tree with
  | nil => rfl
  | cons id rest ih =>
    obtain ⟨hfirst, hunderscored⟩ := h id mem_cons_self
    rw [foldl_cons, ih fun x hx => h x (mem_cons_of_mem id hx), lookup_putPath_of_ne hfirst hunderscored]

/-- The identifiers of a catalogue: none is listed twice, and none with underscores is a part of another one. -/
structure Listed (ids : List String) : Prop where
  nodup : ids.Nodup
  apart : ∀ id ∈ ids, ∀ other ∈ ids, other ≠ id → underscored other ∉ partsOf id

/-- **The last identifier that starts with a part** is what the tree has under that part. -/
theorem lookup_pathTree (hids : Listed (before ++ id :: after))
    (hlast : ∀ other ∈ after, firstPart other ≠ firstPart id) :
    Value.lookup (firstPart id) (pathTree (before ++ id :: after)) = some (pathRecord id (partsOf id).tail) := by
  have hapart : ∀ other ∈ after, firstPart other ≠ firstPart id ∧ underscored other ≠ firstPart id := by
    intro other hother
    refine ⟨hlast other hother, fun heq => ?_⟩
    have hne : other ≠ id := by
      rintro rfl
      exact (nodup_cons.mp (nodup_append.mp hids.nodup).2.1).1 hother
    refine hids.apart id (by simp) other (by simp [hother]) hne ?_
    rw [heq]
    exact firstPart_mem id
  rw [pathTree, foldl_append, foldl_cons, lookup_foldl_putPath hapart, lookup_putPath_self]

theorem exists_last (h : ∃ id ∈ ids, firstPart id = part) :
    ∃ a id b, ids = a ++ id :: b ∧ firstPart id = part ∧ ∀ other ∈ b, firstPart other ≠ part := by
  induction ids with
  | nil =>
    obtain ⟨id, hid, -⟩ := h
    cases hid
  | cons x rest ih =>
    by_cases hrest : ∃ id ∈ rest, firstPart id = part
    · obtain ⟨a, id, b, hab, hid, hb⟩ := ih hrest
      exact ⟨x :: a, id, b, by rw [hab]; rfl, hid, hb⟩
    · push Not at hrest
      obtain ⟨id, hid, hpart⟩ := h
      rcases mem_cons.mp hid with rfl | hid
      · exact ⟨[], id, rest, rfl, hpart, hrest⟩
      · exact absurd hpart (hrest id hid)

def Reached (tree : Fields) (id : String) : Prop := follow (.record tree) (partsOf id) = .ok (.str id)

theorem reached_iff_lookup : Reached tree id ↔
    ∃ v, Value.lookup (firstPart id) tree = some v ∧ follow v (partsOf id).tail = .ok (.str id) := by
  rw [Reached, partsOf_eq, follow_cons, bind_eq_ok]
  constructor
  · rintro ⟨v, hitem, hv⟩
    refine ⟨v, ?_, hv⟩
    simp only [item] at hitem
    split at hitem
    · rename_i w hw
      cases hitem
      exact hw
    · cases hitem
  · rintro ⟨v, hlookup, hv⟩
    exact ⟨v, by simp only [item, hlookup], hv⟩

/-- **An identifier can be reached exactly when none behind it starts with the same part.** -/
theorem reached_iff (hids : Listed (before ++ id :: after)) :
    Reached (pathTree (before ++ id :: after)) id ↔ ∀ other ∈ after, firstPart other ≠ firstPart id := by
  constructor
  · intro hreached
    by_contra hlater
    push Not at hlater
    obtain ⟨a, other, b, hab, hsame, hb⟩ := exists_last hlater
    have hcut : before ++ id :: after = (before ++ id :: a) ++ other :: b := by
      rw [hab]
      simp
    have hlookup := lookup_pathTree (hcut ▸ hids) (by rw [hsame]; exact hb)
    obtain ⟨v, hv, hfollow⟩ := reached_iff_lookup.mp hreached
    rw [hcut, ← hsame, hlookup] at hv
    cases hv
    -- what is under the first part is the path of the later identifier, which leads to no other
    have hid := eq_of_follow_pathRecord hfollow
    have hnodup := (nodup_cons.mp (nodup_append.mp hids.nodup).2.1).1
    rw [hid, hab] at hnodup
    exact hnodup (by simp)
  · intro hlast
    exact reached_iff_lookup.mpr ⟨_, lookup_pathTree hids hlast, follow_pathRecord id _⟩

theorem nodup_firstPart_iff : (ids.map firstPart).Nodup ↔
    ∀ before id after, ids = before ++ id :: after → ∀ other ∈ after, firstPart other ≠ firstPart id := by
  induction ids with
  | nil => simp
  | cons x rest ih =>
    rw [map_cons, nodup_cons, ih]
    constructor
    · rintro ⟨hx, hrest⟩ before id after hcut other hother
      cases before with
      | nil =>
        cases hcut
        exact fun heq => hx (mem_map.mpr ⟨other, hother, heq⟩)
      | cons y before =>
        cases hcut
        exact hrest before id after rfl other hother
    · intro h
      refine ⟨fun hx => ?_, fun before id after hcut => h (x :: before) id after (by rw [hcut]; rfl)⟩
      obtain ⟨other, hother, heq⟩ := mem_map.mp hx
      exact h [] x rest rfl other hother heq

theorem reached_all_iff (hids : Listed ids) :
    (∀ id ∈ ids, Reached (pathTree ids) id) ↔ (ids.map firstPart).Nodup := by
  rw [nodup_firstPart_iff]
  constructor
  · rintro hall before id after rfl
    exact (reached_iff hids).mp (hall id (by simp))
  · intro h id hid
    obtain ⟨before, after, rfl⟩ := append_of_mem hid
    exact (reached_iff hids).mpr (h before id after rfl)

/-- The session lists these identifiers: those of the official catalogue, those that are always listed, and those of the
community. -/
def Lists (w v : World) (ids : List String) : Prop :=
  ∃ official community u, officialIds.runIn w = (.ok (strs official), u) ∧
    communityIds.runIn u = (.ok (strs community), v) ∧ ids = official ++ extraIds ++ community

theorem allPaths_run {w v : World} (h : Lists w v ids) :
    (allPathsCommand.call []).runIn w = (.ok (.record (pathTree ids)), v) := by
  obtain ⟨official, community, u, hofficial, hcommunity, rfl⟩ := h
  have hcall : allPathsCommand.call [] [] = allPaths := rfl
  have hadd : ∀ a b : List String, (strs a : Data).add (strs b) = .ok (strs (a ++ b)) := by
    intro a b
    simp [strs, Value.add, Value.num?]
  have htexts : ((official ++ extraIds ++ community).map Value.str).mapM (fun v : Data =>
      (liftM (v.strOf "split") : Session String)) = pure (official ++ extraIds ++ community) := by
    rw [mapM_map]
    exact (mapM_eq_pure fun id _ => rfl).trans (congrArg pure (map_id _))
  have helements : ∀ a : List String, (strs a : Data).elements = .ok (a.map .str) := fun _ => rfl
  rw [hcall, allPaths, runIn_bind_of_ok hofficial, runIn_bind_of_ok hcommunity, hadd, runIn_liftM_ok,
    hadd, runIn_liftM_ok, helements, runIn_liftM_ok, htexts, pure_bind]
  rfl

/-- **All datasets can be reached by their paths exactly when no two of them start with the same part.** One dataset can
be reached exactly when none that is listed behind it starts like it. -/
theorem datasets_reached_iff (hids : Listed ids) :
    (∀ w v, Lists w v ids → (allPathsCommand.call []).runIn w = (.ok (.record (pathTree ids)), v)) ∧
      (∀ before id after, ids = before ++ id :: after →
        (Reached (pathTree ids) id ↔ ∀ other ∈ after, firstPart other ≠ firstPart id)) ∧
      ((∀ id ∈ ids, Reached (pathTree ids) id) ↔ (ids.map firstPart).Nodup) := by
  refine ⟨fun w v h => allPaths_run h, ?_, reached_all_iff hids⟩
  rintro before id after rfl
  exact reached_iff hids

instance (ids : List String) : Decidable (Listed ids) :=
  decidable_of_iff (ids.Nodup ∧ ∀ id ∈ ids, ∀ other ∈ ids, other ≠ id → underscored other ∉ partsOf id)
    ⟨fun h => ⟨h.1, h.2⟩, fun h => ⟨h.nodup, h.apart⟩⟩

/-- Two of these identifiers have the same form with underscores, and two share a part that is not their first one. -/
theorem datasets_reached_iff_underscores :
    Listed ["A/B/C", "A_B/C", "B/A", "single"] ∧
      ∀ id ∈ ["A/B/C", "A_B/C", "B/A", "single"], Reached (pathTree ["A/B/C", "A_B/C", "B/A", "single"]) id := by
  have hids : Listed ["A/B/C", "A_B/C", "B/A", "single"] := by decide +kernel
  exact ⟨hids, (datasets_reached_iff hids).2.2.mpr (by decide +kernel)⟩

def oneFolder : World where
  pages := ["[\x7b\"id\": \"A/B/C\"\x7d, \x7b\"id\": \"A/B/D\"\x7d]"]
  replies := [.ok { body := .text "[]" }]

/-- The first of two datasets in one folder cannot be reached: following its path ends with a missing key. -/
theorem first_dataset_lost :
    Listed (["A/B/C", "A/B/D"] ++ extraIds) ∧
      (∀ id ∈ ["A/B/C", "A/B/D"] ++ extraIds, ∀ other ∈ ["A/B/C", "A/B/D"] ++ extraIds,
        other ≠ id → ¬ partsOf other <+: partsOf id) ∧
      ∃ tree v, (allPathsCommand.call []).runIn oneFolder = (.ok (.record tree), v) ∧
        follow (.record tree) ["A", "B", "C"] = .error (.missingKey "C") ∧ ¬ Reached tree "A/B/C" := by
  have hlists : ∃ v, Lists oneFolder v (["A/B/C", "A/B/D"] ++ extraIds) :=
    ⟨_, ["A/B/C", "A/B/D"], [], _, by cbv, by cbv, by cbv⟩
  have hids : Listed (["A/B/C", "A/B/D"] ++ extraIds) := by decide +kernel
  have hunder : Value.lookup "A" (pathTree (["A/B/C", "A/B/D"] ++ extraIds)) = some (pathRecord "A/B/D" ["B", "D"]) := by
    have hfirst : firstPart "A/B/D" = "A" := by decide +kernel
    have htail : (partsOf "A/B/D").tail = ["B", "D"] := by decide +kernel
    have hlast : Value.lookup (firstPart "A/B/D") (pathTree (["A/B/C"] ++ "A/B/D" :: extraIds)) =
        some (pathRecord "A/B/D" (partsOf "A/B/D").tail) := lookup_pathTree hids (by decide +kernel)
    rwa [hfirst, htail] at hlast
  have hlost : follow (.record (pathTree (["A/B/C", "A/B/D"] ++ extraIds))) ["A", "B", "C"] = .error (.missingKey "C") := by
    have hitem : (Value.record (pathTree (["A/B/C", "A/B/D"] ++ extraIds)) : Data).item "A" =
        .ok (pathRecord "A/B/D" ["B", "D"]) := by
      simp only [item, hunder]
    rw [follow_cons, hitem]
    rfl
  obtain ⟨v, hv⟩ := hlists
  refine ⟨hids, by decide +kernel, _, v, allPaths_run hv, hlost, fun hreached => ?_⟩
  have hparts : partsOf "A/B/C" = ["A", "B", "C"] := by decide +kernel
  rw [Reached, hparts, hlost] at hreached
  cases hreached

end RemoteSensing.Catalog
