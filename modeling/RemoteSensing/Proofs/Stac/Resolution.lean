import RemoteSensing.Proofs.Session.Run
import RemoteSensing.Proofs.Value.Order
import RemoteSensing.Stac

/-!
Sorting by resolution. An unknown resolution is sorted as an infinite one, so the unknown ones come last as long as no
known one is infinite.
-/

namespace RemoteSensing.Stac

open List Value Stac.Listing

variable {descending : Bool} {x y z : EInt} {a b c : Collection Float}

/-- What comes first in an ascending or a descending order. -/
def Ahead (descending : Bool) (x y : EInt) : Prop := if descending then y ≤ x else x ≤ y

theorem Ahead.trans (hxy : Ahead descending x y) (hyz : Ahead descending y z) : Ahead descending x z := by
  cases descending
  · exact le_trans hxy hyz
  · exact le_trans hyz hxy

theorem Ahead.total : Ahead descending x y ∨ Ahead descending y x := by
  cases descending
  · exact le_total x y
  · exact le_total y x

namespace Collection

def stated (c : Collection Float) : Data := c.resolution.toOption.getD .null

def Unknown (c : Collection Float) : Prop := c.stated.same (.int (-1)) = true

def key (descending : Bool) (c : Collection Float) : Data := sortKey descending c.stated

/-- The resolution is a number, and not the one that an unknown resolution is sorted as. -/
structure Measured (descending : Bool) (c : Collection Float) : Prop where
  resolution : c.resolution = .ok c.stated
  comparable : c.stated.Comparable
  near : c.stated.rank ≠ (farEnd descending).rank

theorem Measured.worth_key (h : c.Measured descending) : (c.key descending).worth = some (c.key descending).rank := by
  rw [key, sortKey]
  split
  · cases descending <;> rfl
  · exact h.comparable.worth_eq

/-- What is unknown is behind all that is known. -/
theorem Measured.known_of_ahead (hb : b.Measured descending)
    (h : Ahead descending (a.key descending).rank (b.key descending).rank) :
    b.Unknown ∨ ¬ a.Unknown ∧ Ahead descending a.stated.rank b.stated.rank := by
  by_cases hunknown : b.Unknown
  · exact .inl hunknown
  · rw [key, key, sortKey, sortKey, if_neg (c := _ = true) hunknown] at h
    split at h
    · refine absurd ?_ hb.near
      cases descending
      · exact top_le_iff.mp h
      · exact le_bot_iff.mp h
    · exact .inr ⟨‹_›, h⟩

end Collection

theorem Listing.checkOrder_eq {keys : List Data} (h : ∀ v ∈ keys, v.Comparable) : checkOrder keys = .ok () := by
  induction keys with
  | nil => rfl
  | cons x rest ih =>
    cases rest with
    | nil => rfl
    | cons y rest =>
      rw [checkOrder, lt_eq (h x (by simp)).worth_eq (h y (by simp)).worth_eq]
      exact ih fun v hv => h v (mem_cons_of_mem x hv)

open Classical in
/-- **Sorting by resolution.** The list is rearranged so that the unknown resolutions come last, the known ones are in order
and equal ones stay in the order they had. -/
theorem Listing.byResolution_eq {cs : Listing Float} (h : ∀ c ∈ cs, c.Measured descending) :
    ∃ sorted, byResolution descending cs = .ok sorted ∧ sorted.Perm cs ∧
      sorted.Pairwise (fun a b => b.Unknown ∨ ¬ a.Unknown ∧ Ahead descending a.stated.rank b.stated.rank) ∧
      ∀ a b, [a, b] <+ cs → a.stated.rank = b.stated.rank → [a, b] <+ sorted := by
  let ahead (a b : Collection Float) := decide (Ahead descending (a.key descending).rank (b.key descending).rank)
  have hkeys : (cs.mapM fun c => do pure (sortKey descending (← c.resolution))) = .ok (cs.map (·.key descending)) := by
    refine mapM_eq_ok fun c hc => ?_
    rw [(h c hc).resolution]
    rfl
  have hchecked : checkOrder (cs.map (·.key descending)) = .ok () := by
    refine checkOrder_eq fun v hv => ?_
    obtain ⟨c, hc, rfl⟩ := mem_map.mp hv
    exact comparable_iff.mpr ⟨_, (h c hc).worth_key⟩
  have hsorted : (((cs.map (·.key descending)).zip cs).mergeSort fun x y => inOrder descending x.1 y.1).map (·.2) =
      cs.mergeSort ahead := by
    rw [← map_prod_right_eq_zip, ← map_mergeSort (r := ahead), map_map]
    · exact map_id _
    · intro a ha b hb
      rw [inOrder, smaller, smaller, lt_eq (h a ha).worth_key (h b hb).worth_key, lt_eq (h b hb).worth_key (h a ha).worth_key]
      cases descending <;> simp [ahead, Ahead, ← not_lt]
  have htrans : ∀ a b c, ahead a b → ahead b c → ahead a c := by
    simp only [ahead, decide_eq_true_iff]
    exact fun _ _ _ => Ahead.trans
  have htotal : ∀ a b, ahead a b || ahead b a := by
    simp only [ahead, Bool.or_eq_true, decide_eq_true_iff]
    exact fun _ _ => Ahead.total
  refine ⟨cs.mergeSort ahead, ?_, mergeSort_perm cs ahead, ?_, fun a b hab hsame => ?_⟩
  · rw [byResolution, hkeys]
    show (checkOrder (cs.map (·.key descending)) >>= _) = _
    rw [hchecked, ← hsorted]
    rfl
  · refine (pairwise_mergeSort htrans htotal cs).imp_of_mem fun ha hb hab => ?_
    exact (h _ (mem_mergeSort.mp hb)).known_of_ahead (of_decide_eq_true hab)
  · have hunknown : ∀ c ∈ cs, c.stated.same (.int (-1)) = decide (c.stated.rank = Decimal.worthOfInt (-1)) :=
      fun c hc => same_eq (h c hc).comparable.worth_eq rfl
    have hkey : (a.key descending).rank = (b.key descending).rank := by
      rw [Collection.key, Collection.key, sortKey, sortKey, hunknown a (hab.subset (by simp)),
        hunknown b (hab.subset (by simp)), hsame]
      split
      · rfl
      · exact hsame
    exact pair_sublist_mergeSort htrans htotal (decide_eq_true (hkey ▸ Ahead.total.elim id id)) hab

end RemoteSensing.Stac
