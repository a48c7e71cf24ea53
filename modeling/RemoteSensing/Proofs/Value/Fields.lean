import RemoteSensing.Value.Number
import Mathlib.Data.List.Nodup

/-!
Elements of a list and fields of a record.
-/

namespace RemoteSensing.Value

open List

theorem elementAt_natCast {β : Type} {xs : List β} {i : Nat} {x : β} (what : String) (h : xs[i]? = some x) :
    elementAt what xs (i : Int) = .ok x := by
  unfold elementAt
  have hi : ¬ (i : Int) < 0 := by omega
  simp only [if_neg hi, Int.toNat_natCast, h]

theorem elementAt_eq_error {β : Type} {xs : List β} {i : Nat} {what : String} {e : Fault} :
    elementAt what xs (i : Int) = .error e ↔ xs.length ≤ i ∧ e = .outOfRange what := by
  unfold elementAt
  have hi : ¬ (i : Int) < 0 := by omega
  simp only [if_neg hi, Int.toNat_natCast, ← getElem?_eq_none_iff]
  cases xs[i]? <;> simp [eq_comm]

variable {α : Type} {key : String} {v : α} {fields : Fields α}

theorem lookup_cons_eq_none {e : String × α} : lookup key (e :: fields) = none ↔ e.1 ≠ key ∧ lookup key fields = none := by
  rw [lookup]
  split <;> simp [*]

theorem lookup_eq_none : lookup key fields = none ↔ key ∉ fields.map (·.1) := by
  induction fields with
  | nil => simp [lookup]
  | cons e r ih => rw [lookup_cons_eq_none, ih, map_cons, mem_cons, not_or, ne_comm]

/-- **The first entry of a key** cuts the record in two. -/
theorem lookup_split (h : lookup key fields = some v) :
    ∃ a b, fields = a ++ (key, v) :: b ∧ lookup key a = none := by
  induction fields with
  | nil => simp [lookup] at h
  | cons e r ih =>
    obtain ⟨k, u⟩ := e
    by_cases hk : k = key
    · rw [lookup, if_pos hk] at h
      cases h
      exact ⟨[], r, by rw [hk]; rfl, rfl⟩
    · rw [lookup, if_neg hk] at h
      obtain ⟨a, b, hr, ha⟩ := ih h
      refine ⟨(k, u) :: a, b, by rw [hr]; rfl, ?_⟩
      rw [lookup, if_neg hk]
      exact ha

theorem mem_of_lookup (h : lookup key fields = some v) : (key, v) ∈ fields := by
  obtain ⟨a, b, rfl, -⟩ := lookup_split h
  simp

theorem lookup_eq_some_iff (hn : (fields.map (·.1)).Nodup) : lookup key fields = some v ↔ (key, v) ∈ fields := by
  refine ⟨mem_of_lookup, fun h => ?_⟩
  cases hl : lookup key fields with
  | none => exact absurd (mem_map_of_mem (f := (·.1)) h) (lookup_eq_none.mp hl)
  | some u =>
    have hu := inj_on_of_nodup_map hn (mem_of_lookup hl) h rfl
    rw [(Prod.mk.inj hu).2]

theorem insert_of_lookup_none (h : lookup key fields = none) :
    insert key v fields = fields ++ [(key, v)] := by
  induction fields with
  | nil => rfl
  | cons e r ih =>
    obtain ⟨hk, hr⟩ := lookup_cons_eq_none.mp h
    rw [insert, if_neg hk, ih hr]
    rfl

theorem foldl_insert {α β : Type} (key : β → String) (val : β → α) {xs : List β} {acc : Fields α}
    (hn : (acc.map (·.1) ++ xs.map key).Nodup) :
    xs.foldl (fun acc x => insert (key x) (val x) acc) acc = acc ++ xs.map fun x => (key x, val x) := by
  induction xs generalizing acc with
  | nil => simp
  | cons x r ih =>
    have hnew : key x ∉ acc.map (·.1) := by
      rw [map_cons, nodup_append] at hn
      exact fun hmem => hn.2.2 _ hmem _ mem_cons_self rfl
    rw [foldl_cons, insert_of_lookup_none (lookup_eq_none.mpr hnew), ih (by simpa using hn), append_assoc]
    rfl

theorem insert_append {a b : Fields α} {u : α} (h : lookup key a = none) :
    insert key v (a ++ (key, u) :: b) = a ++ (key, v) :: b := by
  induction a with
  | nil => rw [nil_append, insert, if_pos rfl]; rfl
  | cons e r ih =>
    obtain ⟨hk, hr⟩ := lookup_cons_eq_none.mp h
    rw [cons_append, insert, if_neg hk, ih hr]
    rfl

theorem insert_self (h : lookup key fields = some v) : insert key v fields = fields := by
  obtain ⟨a, b, rfl, ha⟩ := lookup_split h
  exact insert_append ha

theorem erase_append {a b : Fields α} {u : α} (h : lookup key a = none) :
    erase key (a ++ (key, u) :: b) = a ++ b := by
  induction a with
  | nil => rw [nil_append, erase, if_pos rfl]; rfl
  | cons e r ih =>
    obtain ⟨hk, hr⟩ := lookup_cons_eq_none.mp h
    rw [cons_append, erase, if_neg hk, ih hr]
    rfl

theorem erase_sublist : erase key fields <+ fields := by
  induction fields with
  | nil => exact Sublist.slnil
  | cons e r ih =>
    rw [erase]
    split
    · exact sublist_cons_self _ _
    · exact ih.cons_cons _

@[simp] theorem lookup_insert_self : lookup key (insert key v fields) = some v := by
  induction fields with
  | nil => rw [insert, lookup, if_pos rfl]
  | cons e r ih =>
    obtain ⟨k, u⟩ := e
    by_cases hk : k = key
    · rw [insert, if_pos hk, lookup, if_pos hk]
    · rw [insert, if_neg hk, lookup, if_neg hk, ih]

theorem lookup_insert_of_ne {other : String} (h : key ≠ other) :
    lookup other (insert key v fields) = lookup other fields := by
  induction fields with
  | nil =>
    show (if key = other then some v else none) = none
    rw [if_neg h]
  | cons e r ih =>
    obtain ⟨k, u⟩ := e
    by_cases hk : k = key
    · have hne : k ≠ other := hk ▸ h
      rw [insert, if_pos hk, lookup, if_neg hne, lookup, if_neg hne]
    · rw [insert, if_neg hk, lookup, lookup, ih]

theorem lookup_map_key {f : String → String} (h : ∀ k, f k = key ↔ k = key) :
    lookup key (fields.map fun e => (f e.1, e.2)) = lookup key fields := by
  induction fields with
  | nil => rfl
  | cons e r ih =>
    rw [map_cons, lookup, lookup, ih]
    simp only [h]

theorem mem_insert {e : String × α} (h : e ∈ insert key v fields) : e ∈ fields ∨ e = (key, v) := by
  cases hk : lookup key fields with
  | none =>
    rw [insert_of_lookup_none hk] at h
    rcases mem_append.mp h with h | h
    · exact .inl h
    · exact .inr (mem_singleton.mp h)
  | some u =>
    obtain ⟨a, b, rfl, ha⟩ := lookup_split hk
    rw [insert_append ha] at h
    rcases mem_append.mp h with h | h
    · exact .inl (mem_append_left _ h)
    · rcases mem_cons.mp h with h | h
      · exact .inr h
      · exact .inl (mem_append_right _ (mem_cons_of_mem _ h))

theorem insert_keys_nodup (hn : (fields.map (·.1)).Nodup) : ((insert key v fields).map (·.1)).Nodup := by
  cases hk : lookup key fields with
  | none =>
    rw [insert_of_lookup_none hk, map_append, nodup_append]
    refine ⟨hn, by simp, ?_⟩
    intro x hx y hy
    have hy' : y = key := by simpa using hy
    rw [hy']
    rintro rfl
    exact lookup_eq_none.mp hk hx
  | some u =>
    obtain ⟨a, b, rfl, ha⟩ := lookup_split hk
    rw [insert_append ha]
    simpa using hn

theorem insert_marks_nodup {β : Type} (mark : α → β) (hn : (fields.map fun e => mark e.2).Nodup)
    (hv : ∀ e ∈ fields, mark e.2 ≠ mark v) : ((insert key v fields).map fun e => mark e.2).Nodup := by
  cases hk : lookup key fields with
  | none =>
    rw [insert_of_lookup_none hk, map_append, nodup_append]
    refine ⟨hn, by simp, ?_⟩
    intro x hx y hy
    have hy' : y = mark v := by simpa using hy
    obtain ⟨e, he, rfl⟩ := mem_map.mp hx
    rw [hy']
    exact hv e he
  | some u =>
    obtain ⟨a, b, rfl, ha⟩ := lookup_split hk
    rw [insert_append ha]
    simp only [map_append, map_cons, nodup_append, nodup_cons, mem_cons,
      mem_append, mem_map] at hn hv ⊢
    refine ⟨hn.1, ⟨?_, hn.2.1.2⟩, ?_⟩
    · rintro ⟨e, he, heq⟩
      exact hv e (.inr (.inr he)) heq
    · rintro x ⟨e, he, rfl⟩ y (rfl | hy)
      · exact hv e (.inl he)
      · exact hn.2.2 _ ⟨e, he, rfl⟩ y (.inr hy)

end RemoteSensing.Value
