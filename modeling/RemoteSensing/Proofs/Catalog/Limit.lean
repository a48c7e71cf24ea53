import RemoteSensing.Catalog.Search
import RemoteSensing.Proofs.Session.Run
import RemoteSensing.Proofs.Value.Order

/-!
The limit of a search among the well-known datasets.
-/

namespace RemoteSensing.Catalog

open List Session

theorem count_ge (k n : Nat) : (Value.int k : Data).ge (.int n) = .ok (decide (n ≤ k)) := by
  rw [Value.ge, Value.order_of_num rfl rfl, Except.ok.injEq, Bool.eq_iff_iff]
  simp [Num.le, Num.lt, Num.beq, le_iff_lt_or_eq]

/-- The limit is looked at only behind a dataset that was just kept, so one is kept even with no room for it. -/
theorem distinct_eq (xs kept : List Dataset) (hkept : (kept.map (·.id)).Nodup) :
    ∃ fresh, ((kept ++ fresh).map (·.id)).Nodup ∧ ∀ n : Nat, kept.length < max n 1 →
      distinct (fun k => (.ok (decide (n ≤ k)) : Except Fault Bool)) kept xs = .ok ((kept ++ fresh).take (max n 1)) := by
  induction xs generalizing kept with
  | nil =>
    refine ⟨[], by rwa [append_nil], fun n hn => ?_⟩
    rw [append_nil, take_of_length_le hn.le, distinct]
  | cons d r ih =>
    by_cases hd : (kept.any fun k => k.id == d.id) = true
    · obtain ⟨fresh, hfresh, hdistinct⟩ := ih kept hkept
      refine ⟨fresh, hfresh, fun n hn => ?_⟩
      rw [distinct, if_pos hd, hdistinct n hn]
    · have hnew : d.id ∉ kept.map (·.id) := by simpa using hd
      obtain ⟨fresh, hfresh, hdistinct⟩ := ih (kept ++ [d]) (by simpa [nodup_append] using ⟨hkept, by simpa using hnew⟩)
      rw [append_assoc, singleton_append] at hfresh hdistinct
      refine ⟨d :: fresh, hfresh, fun n hn => ?_⟩
      rw [distinct, if_neg hd]
      show (if decide (n ≤ (kept ++ [d]).length) = true then .ok (kept ++ [d]) else distinct _ (kept ++ [d]) r) = _
      simp only [decide_eq_true_iff]
      by_cases hfull : n ≤ (kept ++ [d]).length
      · have hmax : max n 1 = kept.length + 1 := by rw [length_append, length_singleton] at hfull; omega
        rw [if_pos hfull, hmax, take_length_add_append, take_succ_cons, take_zero]
      · rw [if_neg hfull, hdistinct n (by omega)]

def Finds (terms : String) (n : Nat) (found : List Dataset) : Prop :=
  ∀ w : World, w.admitted = true →
    (searchCommand.call [.str terms, .int n]).runIn w = (.ok (.list (found.map Dataset.toValue)), w)

theorem finds_of_search {terms : String} {n : Nat} {found : List Dataset} (h : search terms (.int n) = .ok found) :
    Finds terms n found := by
  intro w hw
  have hconnect : connect.runIn w = (.ok (), w) := by
    simp only [connect, runIn_bind, runIn_get, hw]
    rfl
  have hfound : (searchOnline (.str terms) (.int n)).runIn w = (.ok found, w) := by
    simp only [searchOnline, runIn_tryCatch, runIn_bind, hconnect, ExceptT.run_pure, runIn_pure, EarlyReturn.runK,
      Value.strOf, runIn_liftM, h]
  obtain ⟨a, hbind, hterms, hlimit⟩ : ∃ a, searchCommand.bind [.str terms, .int n] [] = .ok a ∧
      a "keywords" = .str terms ∧ a "max_results" = .int n := ⟨_, rfl, rfl, rfl⟩
  rw [Command.call, hbind]
  show (searchOnline (a "keywords") (a "max_results") >>= fun found => pure _).runIn w = _
  rw [hterms, hlimit, runIn_bind_of_ok hfound, runIn_pure]

/-- **The limit of a search.** For all words there is a full list of results, no id twice, which every limit from its
length on gives. A search with a limit of `n` gives the first `n` of them, no more, exactly if `n` is not zero or there is
nothing to be found. -/
theorem search_limited_iff (terms : String) : ∃ full : List Dataset, (full.map (·.id)).Nodup ∧
    ∀ n, ∃ found, Finds terms n found ∧ (found.map (·.id)).Nodup ∧ (full.length ≤ n → found = full) ∧
      (found.length ≤ n ∧ found = full.take (min n full.length) ↔ 0 < n ∨ full = []) := by
  obtain ⟨full, hnodup, hdistinct⟩ := distinct_eq (hits (Text.lower terms)) [] nodup_nil
  rw [nil_append] at hnodup hdistinct
  refine ⟨full, hnodup, fun n => ?_⟩
  have hsearch : search terms (.int n) = .ok (full.take (max n 1)) := by
    simp only [search, count_ge, hdistinct n (by simp)]
  refine ⟨_, finds_of_search hsearch, ?_, fun hn => ?_, ?_⟩
  · exact hnodup.sublist ((take_sublist _ _).map _)
  · exact take_of_length_le (by omega)
  · rcases n with _ | n
    · cases full <;> simp
    · simp

theorem limit_zero_passed : Finds "landsat" 0 [landsat "LC08" "8"] := finds_of_search (by decide +kernel)

end RemoteSensing.Catalog
