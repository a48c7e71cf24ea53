import RemoteSensing.Proofs.Stac.Interval
import RemoteSensing.Proofs.Value.Order

/-!
Searching by a box finds what shares an inside with it.
-/

namespace RemoteSensing.Stac

/-- A box in an ordered plane, with an inside. -/
structure Region (L : Type) [LinearOrder L] where
  west : L
  south : L
  east : L
  north : L
  west_lt : west < east
  south_lt : south < north

section Region

variable {L : Type} [LinearOrder L] (r q : Region L)

def Region.Inside (x y : L) : Prop := (r.west < x ∧ x < r.east) ∧ r.south < y ∧ y < r.north

def Region.Overlap : Prop := ∃ x y, r.Inside x y ∧ q.Inside x y

variable [DenselyOrdered L]

theorem exists_between_both {a b c d : L} (hab : a < b) (hcd : c < d) :
    (∃ x, (a < x ∧ x < b) ∧ c < x ∧ x < d) ↔ c < b ∧ a < d := by
  constructor
  · rintro ⟨x, ⟨hax, hxb⟩, hcx, hxd⟩
    exact ⟨hcx.trans hxb, hax.trans hxd⟩
  · rintro ⟨hcb, had⟩
    obtain ⟨x, hlow, hhigh⟩ := exists_between (max_lt (lt_min hab had) (lt_min hcb hcd))
    exact ⟨x, ⟨(le_max_left a c).trans_lt hlow, hhigh.trans_le (min_le_left b d)⟩,
      (le_max_right a c).trans_lt hlow, hhigh.trans_le (min_le_right b d)⟩

theorem Region.overlap_iff : r.Overlap q ↔ (q.west < r.east ∧ r.west < q.east) ∧ q.south < r.north ∧ r.south < q.north := by
  rw [← exists_between_both r.west_lt q.west_lt, ← exists_between_both r.south_lt q.south_lt]
  constructor
  · rintro ⟨x, y, ⟨hx, hy⟩, hx', hy'⟩
    exact ⟨⟨x, hx, hx'⟩, y, hy, hy'⟩
  · rintro ⟨⟨x, hx, hx'⟩, y, hy, hy'⟩
    exact ⟨x, y, ⟨hx, hy⟩, hx', hy'⟩

end Region

variable {ν L : Type} [Scalar ν] [LinearOrder L] (P : Placing ν L)

/-- The sides of the box lie where those of the region are. -/
structure Box.Covers (b : Box ν) (r : Region L) : Prop where
  west : P.of b.west = some r.west
  south : P.of b.south = some r.south
  east : P.of b.east = some r.east
  north : P.of b.north = some r.north

def Collection.Bounded (c : Collection ν) : Prop := ∃ bs, c.boxes = .ok bs ∧ ∀ b ∈ bs, ∃ r, b.Covers P r

/-- A box of the collection shares an inside with the region. -/
def Collection.Reaches (c : Collection ν) (q : Region L) : Prop :=
  ∃ bs, c.boxes = .ok bs ∧ ∃ b ∈ bs, ∃ r, b.Covers P r ∧ r.Overlap q

variable {P} [DenselyOrdered L] {a b query : Box ν} {r q : Region L}

theorem Box.overlaps_eq (ha : a.Covers P r) (hb : b.Covers P q) :
    ∃ t, a.overlaps b = .ok t ∧ (t = true ↔ r.Overlap q) := by
  refine ⟨(decide (q.west < r.east) && decide (r.west < q.east)) && (decide (q.south < r.north) && decide (r.south < q.north)),
    ?_, by simp [Region.overlap_iff]⟩
  rw [Box.overlaps, P.lt_eq hb.west ha.east, P.gt_eq hb.east ha.west, P.lt_eq hb.south ha.north, P.gt_eq hb.north ha.south]
  cases decide (q.west < r.east) <;> cases decide (r.west < q.east) <;> cases decide (q.south < r.north) <;> rfl

namespace Listing

variable {cs : Listing ν} {kept : Collection ν → Bool}

theorem within_eq (hcs : ∀ c ∈ cs, c.Bounded P) (hquery : query.Covers P q)
    (hkept : ∀ c : Collection ν, kept c = true ↔ c.Reaches P q) : cs.within query.toValue = .ok (cs.filter kept) := by
  refine filterM_eq_pure fun c hc => ?_
  obtain ⟨bs, hbs, hcovers⟩ := hcs c hc
  have hoverlaps : ∀ b ∈ bs, ∃ t, b.overlaps query = .ok t ∧ (t = true ↔ ∃ r, b.Covers P r ∧ r.Overlap q) := by
    intro b hb
    obtain ⟨r, hr⟩ := hcovers b hb
    obtain ⟨t, ht, hiff⟩ := Box.overlaps_eq hr hquery
    refine ⟨t, ht, fun h => ⟨r, hr, hiff.mp h⟩, ?_⟩
    rintro ⟨r', hr', hoverlap⟩
    obtain ⟨t', ht', hiff'⟩ := Box.overlaps_eq hr' hquery
    cases ht.symm.trans ht'
    exact hiff'.mpr hoverlap
  choose! t ht hiff using hoverlaps
  have hany : (bs.anyM fun b => b.overlaps query) = .ok (bs.any t) := anyM_eq_pure ht
  rw [hbs]
  refine hany.trans (congrArg Except.ok (Bool.eq_iff_iff.mpr ?_))
  rw [hkept, List.any_eq_true]
  constructor
  · rintro ⟨b, hb, h⟩
    exact ⟨bs, hbs, b, hb, (hiff b hb).mp h⟩
  · rintro ⟨bs', hbs', b, hb, h⟩
    cases hbs.symm.trans hbs'
    exact ⟨b, hb, (hiff b hb).mpr h⟩

end Listing

variable (P) in
/-- **A search by a box finds what shares an inside with it.** Two boxes overlap exactly if a point is strictly inside
both, whichever is asked. Of collections with such boxes, the search keeps those with a box that overlaps the query, in
their order. A second search by the same box changes nothing, and searches by two boxes can be made in either order. -/
theorem box_search_finds_overlaps :
    (∀ (a b : Box ν) (r q : Region L), a.Covers P r → b.Covers P q →
      ∃ t, a.overlaps b = .ok t ∧ b.overlaps a = .ok t ∧ (t = true ↔ r.Overlap q)) ∧
    ∀ cs : Listing ν, (∀ c ∈ cs, c.Bounded P) → ∀ (query : Box ν) (q : Region L), query.Covers P q →
      ∃ kept : Collection ν → Bool, (∀ c, kept c = true ↔ c.Reaches P q) ∧
        cs.within query.toValue = .ok (cs.filter kept) ∧
        Listing.within query.toValue (cs.filter kept) = .ok (cs.filter kept) ∧
        ∀ (other : Box ν) (p : Region L), other.Covers P p →
          ∃ both, (cs.within query.toValue >>= Listing.within other.toValue) = .ok both ∧
            (cs.within other.toValue >>= Listing.within query.toValue) = .ok both := by
  classical
  constructor
  · intro a b r q ha hb
    obtain ⟨t, ht, hiff⟩ := Box.overlaps_eq ha hb
    obtain ⟨u, hu, hiff'⟩ := Box.overlaps_eq hb ha
    have hsymm : q.Overlap r ↔ r.Overlap q := by
      rw [Region.overlap_iff, Region.overlap_iff]
      tauto
    obtain rfl : u = t := Bool.eq_iff_iff.mpr (hiff'.trans (hsymm.trans hiff.symm))
    exact ⟨u, ht, hu, hiff⟩
  · intro cs hcs query q hquery
    have hfewer : ∀ kept : Collection ν → Bool, ∀ c ∈ cs.filter kept, c.Bounded P :=
      fun kept c hc => hcs c (List.mem_of_mem_filter hc)
    have hkept : ∀ (q : Region L) (c : Collection ν), decide (c.Reaches P q) = true ↔ c.Reaches P q := by simp
    refine ⟨fun c => decide (c.Reaches P q), hkept q, Listing.within_eq hcs hquery (hkept q), ?_, ?_⟩
    · rw [Listing.within_eq (hfewer _) hquery (hkept q), List.filter_filter]
      simp
    · intro other p hother
      rw [Listing.within_eq hcs hquery (hkept q), Listing.within_eq hcs hother (hkept p)]
      exact ⟨_, Listing.within_eq (hfewer _) hother (hkept p),
        (Listing.within_eq (hfewer _) hquery (hkept q)).trans (congrArg Except.ok (List.filter_comm ..))⟩

def halves : Collection ℚ :=
  ⟨[("extent", .record [("spatial", .record [("bbox", .list [.list [.int 0, .int 0, .int 1, .int 1],
    .list [.int 1, .int 0, .int 2, .int 1]])])])]⟩

/-- A box that only touches the first half is found by the second. -/
theorem box_search_finds_second_half :
    (∀ c ∈ [halves], c.Bounded fractions) ∧ ∃ kept : Collection ℚ → Bool,
      Listing.within (Box.toValue ⟨.int 1, .int 0, .real (3/2), .int 1⟩) [halves] = .ok ([halves].filter kept) ∧
        kept halves = true := by
  have hboxes : halves.boxes = .ok [⟨.int 0, .int 0, .int 1, .int 1⟩, ⟨.int 1, .int 0, .int 2, .int 1⟩] := rfl
  have hbounded : ∀ c ∈ [halves], c.Bounded fractions := by
    refine List.forall_mem_singleton.mpr ⟨_, hboxes, ?_⟩
    simp only [List.forall_mem_cons]
    exact ⟨⟨⟨0, 0, 1, 1, by norm_num, by norm_num⟩, rfl, rfl, rfl, rfl⟩,
      ⟨⟨1, 0, 2, 1, by norm_num, by norm_num⟩, rfl, rfl, rfl, rfl⟩, by simp⟩
  obtain ⟨kept, hkept, hwithin, -⟩ := (box_search_finds_overlaps fractions).2 _ hbounded
    ⟨.int 1, .int 0, .real (3/2), .int 1⟩ ⟨1, 0, 3/2, 1, by norm_num, by norm_num⟩ ⟨rfl, rfl, rfl, rfl⟩
  refine ⟨hbounded, kept, hwithin, (hkept _).mpr ⟨_, hboxes, _, .tail _ (.head _), ⟨1, 0, 2, 1, by norm_num, by norm_num⟩,
    ⟨rfl, rfl, rfl, rfl⟩, 5/4, 1/2, ?_, ?_⟩⟩
  all_goals norm_num [Region.Inside]

end RemoteSensing.Stac
