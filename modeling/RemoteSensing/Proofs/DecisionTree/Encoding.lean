import Mathlib
import RemoteSensing.Proofs.DecisionTree.Listing
import RemoteSensing.Proofs.Session.Run
import RemoteSensing.Proofs.Text.Chars

/-!
A listing encodes its tree.
-/

namespace RemoteSensing.DecisionTree

open List Value

variable {labels : Data} {names : List String} {m : Nat}

def featureName (names : List String) (k : Int) : Data :=
  .str (names.getD (if k < 0 then k + names.length else k).toNat "")

theorem nth_strs {k : Int} (hlow : -names.length ≤ k) (hhigh : k < names.length) :
    (strs names : Data).nth k = .ok (featureName names k) := by
  have hlen : ((names.map str : List Data).length : Int) = names.length := by
    rw [length_map]
  -- the position from the start, whichever end the number counts from
  obtain ⟨j, hj, hlt⟩ : ∃ j : Nat, (if k < 0 then k + names.length else k) = j ∧ j < names.length := by
    refine ⟨(if k < 0 then k + names.length else k).toNat, ?_, ?_⟩
    · split <;> omega
    · split <;> omega
  have hnot : ¬ (j : Int) < 0 := by omega
  show elementAt "list" (names.map str) k = _
  rw [elementAt, featureName, hlen, hj]
  simp only [if_neg hnot, Int.toNat_natCast, List.getElem?_map, List.getElem?_eq_getElem hlt, Option.map_some]
  rw [getD_eq_getElem?_getD, List.getElem?_eq_getElem hlt, Option.getD_some]

namespace Tree

variable {α : Type}

theorem feature_of_mem_nodes {t : Tree α} {i n : Nat} (h : t.FeaturesBelow n) {x : Node} (hx : x ∈ t.nodes i) :
    x.feature = -2 ∨ 0 ≤ x.feature ∧ x.feature < n := by
  induction t generalizing i with
  | leaf r th =>
    rw [nodes, mem_singleton] at hx
    rw [hx]
    exact Or.inl rfl
  | split r f th a b iha ihb =>
    obtain ⟨hf, ha, hb⟩ := h
    rw [nodes, mem_cons, mem_append] at hx
    rcases hx with rfl | hx | hx
    · right
      show (0 : Int) ≤ f ∧ (f : Int) < n
      omega
    · exact iha ha hx
    · exact ihb hb hx

theorem mapM_nth {t : Tree α} (hnames : 2 ≤ names.length) (h : t.FeaturesBelow names.length) :
    ((t.nodes 0).mapM fun n => (strs names : Data).nth n.feature) =
      .ok ((t.nodes 0).map fun n => featureName names n.feature) := by
  refine mapM_eq_ok ?_
  intro x hx
  rcases feature_of_mem_nodes h hx with hf | ⟨hlow, hhigh⟩
  · exact nth_strs (by omega) (by omega)
  · exact nth_strs (by omega) hhigh

end Tree

def boxed : Nat → Data → Data
  | 0, v => v
  | m + 1, v => .list [boxed m v]

theorem squeezed_boxed (m depth : Nat) (v : Data) : squeezed (depth + m) (boxed m v) = squeezed depth v := by
  induction m with
  | zero => rfl
  | succ m ih => rw [← ih]; rfl

theorem squeezed_list {xs : List Data} (h : 2 ≤ xs.length) (depth : Nat) :
    squeezed (depth + 1) (.list xs) = .list (xs.map (squeezed depth)) := by
  match xs, h with
  | _ :: _ :: _, _ => rfl

theorem squeezed_real (depth : Nat) (x : Float) : squeezed depth (.real x) = .real x := by
  cases depth <;> rfl

theorem numbersIn_reals (xs : List Float) : numbersIn (.list (xs.map .real)) = xs := by
  have hleaves : Value.leaves 8 (.list (xs.map .real) : Data) = xs.map .real := by
    show (xs.map real).flatMap (Value.leaves 7) = xs.map real
    rw [flatMap_map]
    exact flatMap_pure_eq_map _ _
  rw [numbersIn, hleaves, map_map]
  exact map_id xs

namespace Tree

variable {α : Type}

/-- The fitted tree that stands for a tree: its nodes in depth-first order, and an array with an entry for each. -/
def fitted (entry : α → Data) (m : Nat) (t : Tree α) : Fitted where
  nodes := t.nodes 0
  seen := .list (t.readings.map fun r => boxed m (entry r.seen))

theorem two_le_size {t : Tree α} (ht : t.isLeaf = false) : 2 ≤ t.size := by
  cases t with
  | leaf r th => cases ht
  | split r f th a b =>
    have := a.size_pos
    rw [size]
    omega

theorem squeezed_seen {t : Tree α} (ht : t.isLeaf = false) (entry : α → Data) (hm : m ≤ 6) :
    squeezed 8 (t.fitted entry m).seen =
      .list (t.readings.map fun r => squeezed (6 - m + 1) (entry r.seen)) := by
  have hlen : 2 ≤ (t.readings.map fun r => boxed m (entry r.seen)).length := by
    rw [length_map, length_readings]
    exact two_le_size ht
  have hdepth : 7 = 6 - m + 1 + m := by omega
  rw [fitted, squeezed_list hlen, map_map]
  congr 1
  refine map_congr_left fun r _ => ?_
  rw [Function.comp_apply, hdepth, squeezed_boxed]

theorem readings_eq_cons (t : Tree α) : ∃ rest, t.readings = t.reading :: rest := by
  cases t with
  | leaf r th => exact ⟨_, rfl⟩
  | split r f th a b => exact ⟨_, rfl⟩

theorem outcomes_regression {t : Tree Float} (ht : t.isLeaf = false) (hm : m ≤ 6) (labels : Data) :
    (t.fitted .real m).outcomes labels (.str "REGRESSION") =
      .ok (t.readings.map fun r => .number (Statistic.scaledRound 6 r.seen)) := by
  have hseen : squeezed 8 (t.fitted .real m).seen = .list ((t.readings.map (·.seen)).map .real) := by
    rw [squeezed_seen ht .real hm, map_map]
    simp only [squeezed_real, Function.comp_def]
  have hshape : shape 8 (.list ((t.readings.map (·.seen)).map .real) : Data) = [t.size] := by
    obtain ⟨rest, hrest⟩ := t.readings_eq_cons
    rw [← t.length_readings, hrest]
    simp [shape]
  have hfound : estimates (.list ((t.readings.map (·.seen)).map .real)) (t.nodes 0).length =
      .ok (t.readings.map fun r => .number (Statistic.scaledRound 6 r.seen)) := by
    rw [estimates, hshape, numbersIn_reals, map_map]
    rfl
  unfold Fitted.outcomes
  rw [hseen]
  show (estimates _ (t.nodes 0).length >>= _) = _
  rw [hfound]
  show (if (t.readings.map _).length = (t.nodes 0).length then _ else _) = _
  rw [if_pos (by rw [length_map, length_readings, length_nodes])]
  rfl

def winners (t : Tree (List Float)) : List Nat := t.readings.map fun r => largest r.seen

theorem outcomes_classification {t : Tree (List Float)} (ht : t.isLeaf = false) (hm : m ≤ 6)
    (hcounts : ∀ r ∈ t.readings, 2 ≤ r.seen.length) (outcome : List Float → Outcome)
    (hfound : (if labels.isNull then .ok (t.winners.map fun (w : Nat) => .label (.int w))
      else labelled labels t.winners) = .ok (t.readings.map fun r => outcome r.seen)) :
    (t.fitted (fun counts => .list (counts.map .real)) m).outcomes labels (.str "CLASSIFICATION") =
      .ok (t.readings.map fun r => outcome r.seen) := by
  have hseen : squeezed 8 (t.fitted (fun counts => .list (counts.map .real)) m).seen =
      .list (t.readings.map fun r => .list (r.seen.map .real)) := by
    rw [squeezed_seen ht _ hm]
    congr 1
    refine map_congr_left fun r hr => ?_
    rw [squeezed_list (by rw [length_map]; exact hcounts r hr), map_map]
    simp only [squeezed_real, Function.comp_def]
  -- the shape is told by the first entry, which has the counts of the root
  have hshape : ∃ k, shape 8 (.list (t.readings.map fun r => .list (r.seen.map .real)) : Data) = [t.size, k] := by
    obtain ⟨rest, hrest⟩ := t.readings_eq_cons
    obtain ⟨x, y, more, hmore⟩ : ∃ x y more, t.reading.seen = x :: y :: more := by
      match hs : t.reading.seen, hcounts t.reading (by rw [hrest]; exact mem_cons_self) with
      | x :: y :: more, _ => exact ⟨x, y, more, rfl⟩
    refine ⟨t.reading.seen.length, ?_⟩
    rw [← t.length_readings, hrest, map_cons, hmore]
    simp [shape]
  obtain ⟨k, hshape⟩ := hshape
  have hrows : (rowsOf (.list (t.readings.map fun r => .list (r.seen.map .real)) : Data)).map largest = t.winners := by
    show ((t.readings.map _).map numbersIn).map largest = _
    rw [map_map, map_map]
    simp only [Function.comp_def, numbersIn_reals]
    rfl
  unfold Fitted.outcomes
  rw [hseen]
  show (classes labels _ (t.nodes 0).length >>= _) = _
  rw [classes, hshape]
  rw [hrows, hfound]
  show (if (t.readings.map _).length = (t.nodes 0).length then _ else _) = _
  rw [if_pos (by rw [length_map, length_readings, length_nodes])]
  rfl

theorem listing_eq {entry : α → Data} {mode : Data} {t : Tree α} (outcome : α → Outcome) {value : α → String}
    (hnames : 2 ≤ names.length) (ht : t.isLeaf = false) (hfeatures : t.FeaturesBelow names.length)
    (houtcomes : (t.fitted entry m).outcomes labels mode = .ok (t.readings.map fun r => outcome r.seen))
    (hvalue : ∀ (x : Row) (s : α), x.outcome = outcome s → x.outcomeText = .ok (value s)) :
    (t.fitted entry m).listing (strs names) labels mode =
      .ok (rootLine (t.fitted entry m) ++ Text.join "" (t.listing value (names.getD · "") 1 0)) := by
  -- names and outcomes are found, the rows are those of the tree, and the pass goes over its table
  unfold Fitted.listing
  rw [show (t.fitted entry m).nodes = t.nodes 0 from rfl, mapM_nth hnames hfeatures, houtcomes]
  show (rowsFor (t.fitted entry m) _ _ >>= _) = _
  rw [fitted, rowsFor_eq outcome (featureName names)]
  show (lines (table (t.rows outcome (featureName names) 0 0)) >>= _) = _
  rw [table_rows, lines_segment hvalue ht]
  rfl

/-- **A listing encodes its tree.** For a tree with a split and features that have names, behind the line of the root
come exactly the lines of the tree: for a tree that estimates numbers with the number of a node to six places, and for a
tree that chooses one of two or more classes with the class that was seen most. -/
theorem listing_fitted (names : List String) (m : Nat) (hnames : 2 ≤ names.length) (hm : m ≤ 6) :
    (∀ (t : Tree Float) (labels : Data), t.isLeaf = false → t.FeaturesBelow names.length →
      (t.fitted .real m).listing (strs names) labels (.str "REGRESSION") =
        .ok (rootLine (t.fitted .real m) ++ Text.join ""
          (t.listing (fun x => Decimal.natural (Statistic.scaledRound 6 x)) (names.getD · "") 1 0))) ∧
    (∀ t : Tree (List Float), t.isLeaf = false → t.FeaturesBelow names.length →
      (∀ r ∈ t.readings, 2 ≤ r.seen.length) →
      (t.fitted (fun counts => .list (counts.map .real)) m).listing (strs names) .null (.str "CLASSIFICATION") =
        .ok (rootLine (t.fitted (fun counts => .list (counts.map .real)) m) ++ Text.join ""
          (t.listing (fun counts => toString (largest counts)) (names.getD · "") 1 0))) := by
  constructor
  · intro t labels ht hfeatures
    refine listing_eq (fun x => .number (Statistic.scaledRound 6 x)) hnames ht hfeatures
      (outcomes_regression ht hm labels) ?_
    intro x s hx
    rw [Row.outcomeText, hx]
  · intro t ht hfeatures hcounts
    let outcome (counts : List Float) : Outcome := .label (.int (largest counts))
    refine listing_eq outcome hnames ht hfeatures (outcomes_classification ht hm hcounts outcome ?_) ?_
    · exact congrArg Except.ok map_map
    · intro x s hx
      rw [Row.outcomeText, hx]
      rfl

def wetland : Tree (List Float) :=
  split ⟨[3, 5], 0.46875, 8⟩ 0 0.25 (leaf ⟨[0, 4], 0, 4⟩ (-2))
    (split ⟨[3, 1], 0.375, 4⟩ 1 12.5 (leaf ⟨[3, 0], 0, 3⟩ (-2)) (leaf ⟨[0, 1], 0, 1⟩ (-2)))

theorem listing_fitted_wetland :
    (wetland.isLeaf = false ∧ wetland.FeaturesBelow 2 ∧ ∀ r ∈ wetland.readings, 2 ≤ r.seen.length) ∧
    (wetland.fitted (fun counts => .list (counts.map .real)) 1).listing (strs ["ndvi", "height"]) .null
        (.str "CLASSIFICATION") =
      .ok (rootLine (wetland.fitted (fun counts => .list (counts.map .real)) 1) ++ Text.join ""
        ["  2) ndvi <= 0.250000 4 0.0000 1 *\n", "  3) ndvi > 0.250000 8 0.4688 1\n",
         "    6) height <= 12.500000 3 0.0000 0 *\n", "    7) height > 12.500000 1 0.0000 1 *\n"]) := by
  have hfeatures : wetland.FeaturesBelow 2 := by
    simp [wetland, FeaturesBelow]
  have hcounts : ∀ r ∈ wetland.readings, 2 ≤ r.seen.length := by
    simp [wetland, readings]
  have hlines : wetland.listing (fun counts => toString (largest counts)) (["ndvi", "height"].getD · "") 1 0 =
      ["  2) ndvi <= 0.250000 4 0.0000 1 *\n", "  3) ndvi > 0.250000 8 0.4688 1\n",
       "    6) height <= 12.500000 3 0.0000 0 *\n", "    7) height > 12.500000 1 0.0000 1 *\n"] := by
    decide +kernel
  rw [← hlines]
  exact ⟨⟨rfl, hfeatures, hcounts⟩,
    (listing_fitted ["ndvi", "height"] 1 (by decide) (by decide)).2 wetland rfl hfeatures hcounts⟩

end Tree

/-! Labels of classes. -/

theorem ascending_eq {ws : List Nat} {k : Nat} (h : ∀ w ∈ ws, w < k) :
    ascending ws = (range k).filter (· ∈ ws) := by
  have hascending : (ascending ws).SortedLT :=
    ((pairwise_eraseDups (by simpa using pairwise_mergeSort' (· ≤ ·) ws)).imp fun h => lt_of_le_of_ne h.1 h.2).sortedLT
  apply hascending.eq_of_mem_iff (pairwise_lt_range.filter _).sortedLT
  intro w
  rw [ascending, mem_eraseDups, mem_mergeSort, mem_filter, mem_range, decide_eq_true_iff]
  exact ⟨fun hw => ⟨h w hw, hw⟩, And.right⟩

def winnersBelow (ws : List Nat) (c : Nat) : Nat := ((range c).filter (· ∈ ws)).length

theorem ascending_split {ws : List Nat} {k w : Nat} (h : ∀ w ∈ ws, w < k) (hw : w ∈ ws) :
    ∃ behind, ascending ws = (range w).filter (· ∈ ws) ++ w :: behind := by
  obtain ⟨j, rfl⟩ := Nat.exists_eq_add_of_le (h w hw)
  refine ⟨((range j).map (w + 1 + ·)).filter (· ∈ ws), ?_⟩
  rw [ascending_eq h, range_add, range_succ, filter_append, filter_append, append_assoc]
  simp [hw]

theorem labelled_eq {labels : List Int} {ws : List Nat} (h : ∀ w ∈ ws, w < labels.length) :
    labelled (.list (labels.map .int)) ws =
      .ok (ws.map fun w => .label (.int (labels.getD (winnersBelow ws w) 0))) := by
  have hlength : (ascending ws).length ≤ labels.length := by
    rw [ascending_eq h]
    exact (length_filter_le _ _).trans_eq length_range
  have htable : ((ascending ws).zipIdx.mapM fun w => do
      pure (w.1, ← (list (labels.map .int) : Data).nth w.2)) =
        .ok ((ascending ws).zipIdx.map fun w => (w.1, int (labels.getD w.2 0))) := by
    refine mapM_eq_ok fun e he => ?_
    have hlt : e.2 < labels.length := by
      have := snd_lt_of_mem_zipIdx he
      omega
    show (elementAt "list" (labels.map int) (e.2 : Int) >>= _) = _
    have hnot : ¬ (e.2 : Int) < 0 := by omega
    simp only [elementAt, if_neg hnot, Int.toNat_natCast, getElem?_map, getElem?_eq_getElem hlt,
      getD_eq_getElem?_getD]
    rfl
  rw [labelled, htable]
  refine congrArg Except.ok (map_congr_left fun w hw => ?_)
  obtain ⟨behind, hsplit⟩ := ascending_split h hw
  -- in front of the class stand only smaller ones
  have hfront : ((range w).filter (· ∈ ws)).zipIdx.find? (fun e => e.1 == w) = none := by
    rw [find?_eq_none]
    intro e he
    have := mem_range.mp (mem_filter.mp (fst_mem_of_mem_zipIdx he)).1
    rw [beq_iff_eq]
    omega
  rw [hsplit, find?_map, Function.comp_def, zipIdx_append, find?_append, hfront]
  simp [winnersBelow]

/-- The lines of a listing that lead to a leaf: those with a star at the end. -/
def leafLines (ls : List String) : List String := ls.filter fun l => " *\n".toList <:+ l.toList

namespace Tree

variable {α : Type}

def leaves : Tree α → List (Reading α)
  | leaf r _ => [r]
  | split _ _ _ a b => a.leaves ++ b.leaves

section

variable {depth number : Nat} {feature : String} {way : Way} {h : Float} {r : Reading α} {value : α → String}
  (hstar : '*' ∉ (value r.seen).toList) (ends : Bool)

include hstar

theorem star_suffix_lineText :
    " *\n".toList <:+ (lineText depth number feature way h r value ends).toList ↔ ends = true := by
  cases ends with
  | true =>
    simp only [lineText, String.toList_append, if_true, iff_true]
    exact suffix_append _ _
  | false =>
    simp only [lineText, String.toList_append, Bool.false_eq_true, if_false, iff_false]
    -- without the line feed, such a line ends with its value, or with the blank in front of an empty one
    intro hsuffix
    obtain ⟨front, hfront⟩ := hsuffix
    rw [show " *\n".toList = [' ', '*'] ++ "\n".toList from rfl, ← append_assoc] at hfront
    have hlast := congrArg getLast? (append_inj_left' hfront rfl)
    rw [append_assoc _ " ".toList, getLast?_append, getLast?_append] at hlast
    obtain ⟨c, hc⟩ : ∃ c, (" ".toList ++ (value r.seen).toList).getLast? = some c :=
      ⟨_, getLast?_eq_some_getLast (by simp)⟩
    rw [hc] at hlast
    have hstarred : '*' = c := by simpa using hlast
    have hmem : c = ' ' ∨ c ∈ (value r.seen).toList := by simpa using mem_of_getLast? hc
    rcases hmem with hblank | hmem
    · exact absurd (hstarred.trans hblank) (by decide)
    · exact hstar (hstarred ▸ hmem)

theorem leafLines_cons (rest : List String) :
    leafLines (lineText depth number feature way h r value ends :: rest) =
      (if ends then [lineText depth number feature way h r value ends] else []) ++ leafLines rest := by
  have hline := @star_suffix_lineText α depth number feature way h r value hstar ends
  by_cases hends : ends = true
  · rw [if_pos hends]
    exact filter_cons_of_pos (decide_eq_true (hline.mpr hends))
  · rw [if_neg hends]
    exact filter_cons_of_neg (by simpa using hline.not.mpr hends)

end

def leafLinesFrom (value : α → String) (feature : Nat → String) (t : Tree α) (depth n : Nat) (f : String) (way : Way)
    (h : Float) (r : Reading α) : List String :=
  leafLines (lineText depth n f way h (shownBy r t) value t.isLeaf :: t.listing value feature n (depth + 1))

theorem leafLines_listing_split {value : α → String} {feature : Nat → String} (x : Reading α) (g : Nat) (th : Float)
    (a b : Tree α) (n depth : Nat) :
    leafLines ((split x g th a b).listing value feature n depth) =
      a.leafLinesFrom value feature depth (2 * n) (feature g) .left th x ++
        b.leafLinesFrom value feature depth (2 * n + 1) (feature g) .right th x := by
  rw [leafLinesFrom, leafLinesFrom, leafLines, leafLines, leafLines, ← filter_append, listing, cons_append]

section

variable {v v' : α → String} (hv : ∀ s, '*' ∉ (v s).toList) (hv' : ∀ s, '*' ∉ (v' s).toList)

include hv hv'

theorem leafLinesFrom_iff (feature : Nat → String) (t : Tree α) (depth n : Nat) (f : String) (way : Way) (h : Float)
    (r : Reading α) :
    (t.leafLinesFrom v feature depth n f way h r).length = (t.leafLinesFrom v' feature depth n f way h r).length ∧
    (t.leafLinesFrom v feature depth n f way h r = t.leafLinesFrom v' feature depth n f way h r ↔
      ∀ x ∈ t.leaves, v x.seen = v' x.seen) := by
  induction t generalizing depth n f way h r with
  | leaf x th =>
    rw [leafLinesFrom, leafLinesFrom, leafLines_cons (hv _), leafLines_cons (hv' _)]
    simp [lineText, leaves, isLeaf, shownBy, reading, listing, leafLines]
  | split x g th a b iha ihb =>
    obtain ⟨hla, ha⟩ := iha (depth + 1) (2 * n) (feature g) .left th x
    obtain ⟨hlb, hb⟩ := ihb (depth + 1) (2 * n + 1) (feature g) .right th x
    rw [leafLinesFrom, leafLinesFrom, leafLines_cons (hv _), leafLines_cons (hv' _), isLeaf, if_neg Bool.false_ne_true,
      if_neg Bool.false_ne_true, nil_append, nil_append, leafLines_listing_split, leafLines_listing_split, length_append,
      length_append, hla, hlb, leaves, forall_mem_append, ← ha, ← hb]
    exact ⟨rfl, fun heq => append_inj heq hla, fun heq => by rw [heq.1, heq.2]⟩

theorem leafLines_listing_iff (feature : Nat → String) {t : Tree α} (ht : t.isLeaf = false) (n depth : Nat) :
    leafLines (t.listing v feature n depth) = leafLines (t.listing v' feature n depth) ↔
      ∀ x ∈ t.leaves, v x.seen = v' x.seen := by
  cases t with
  | leaf r th => cases ht
  | split x g th a b =>
    obtain ⟨hla, ha⟩ := leafLinesFrom_iff hv hv' feature a depth (2 * n) (feature g) .left th x
    obtain ⟨hlb, hb⟩ := leafLinesFrom_iff hv hv' feature b depth (2 * n + 1) (feature g) .right th x
    rw [leafLines_listing_split, leafLines_listing_split, leaves, forall_mem_append, ← ha, ← hb]
    exact ⟨fun heq => append_inj heq hla, fun heq => by rw [heq.1, heq.2]⟩

end

theorem largestFrom_lt {best : Float} {place i : Nat} {xs : List Float} (h : place < i + xs.length) :
    largestFrom best place i xs < i + xs.length := by
  induction xs generalizing best place i with
  | nil => exact h
  | cons x r ih =>
    rw [length_cons, Nat.add_comm r.length, ← Nat.add_assoc] at h ⊢
    rw [largestFrom]
    split
    · exact ih (by omega)
    · exact ih h

theorem largest_lt {xs : List Float} (h : xs ≠ []) : largest xs < xs.length := by
  match xs, h with
  | x :: r, _ =>
    have := @largestFrom_lt x 0 1 r (by omega)
    rw [largest, length_cons]
    omega

section

variable (names : List String) (m : Nat) (labels : List Int) (t : Tree (List Float)) (hnames : 2 ≤ names.length)
  (hm : m ≤ 6) (hlabels : 2 ≤ labels.length) (ht : t.isLeaf = false) (hfeatures : t.FeaturesBelow names.length)
  (hcounts : ∀ r ∈ t.readings, r.seen.length = labels.length)

include hnames hm hlabels ht hfeatures hcounts

theorem listing_labels :
    (t.fitted (fun counts => .list (counts.map .real)) m).listing (strs names) (.list (labels.map .int))
        (.str "CLASSIFICATION") =
      .ok (rootLine (t.fitted (fun counts => .list (counts.map .real)) m) ++ Text.join "" (t.listing
        (fun counts => toString (labels.getD (winnersBelow t.winners (largest counts)) 0)) (names.getD · "") 1 0)) := by
  let outcome (counts : List Float) : Outcome := .label (.int (labels.getD (winnersBelow t.winners (largest counts)) 0))
  have hwinners : ∀ w ∈ t.winners, w < labels.length := by
    intro w hw
    obtain ⟨r, hr, rfl⟩ := mem_map.mp hw
    rw [← hcounts r hr]
    exact largest_lt (ne_nil_of_length_pos (by rw [hcounts r hr]; omega))
  refine listing_eq outcome hnames ht hfeatures
    (outcomes_classification ht hm (fun r hr => hlabels.trans_eq (hcounts r hr).symm) outcome ?_) ?_
  · exact (labelled_eq hwinners).trans (congrArg Except.ok map_map)
  · intro x s hx
    rw [Row.outcomeText, hx]

/-- **Labels at the leaves.** In a listing with one label for each of two or more classes, all lines to leaves have the
label of the class that was seen most there exactly if at every leaf the label of that class reads like the one at the
number of smaller classes that win at some node of the tree. The labels are integers; others are cut to one first. -/
theorem leaf_labels_right_iff :
    ∃ lines : List String,
      (t.fitted (fun counts => .list (counts.map .real)) m).listing (strs names) (.list (labels.map .int))
          (.str "CLASSIFICATION") =
        .ok (rootLine (t.fitted (fun counts => .list (counts.map .real)) m) ++ Text.join "" lines) ∧
      (leafLines lines =
          leafLines (t.listing (fun counts => toString (labels.getD (largest counts) 0)) (names.getD · "") 1 0) ↔
        ∀ r ∈ t.leaves,
          labels.getD (winnersBelow t.winners (largest r.seen)) 0 = labels.getD (largest r.seen) 0) := by
  refine ⟨_, listing_labels names m labels t hnames hm hlabels ht hfeatures hcounts, ?_⟩
  rw [leafLines_listing_iff (fun s => Chars.not_mem_int rfl (by decide) _) (fun s => Chars.not_mem_int rfl (by decide) _) _ ht]
  refine forall₂_congr fun r _ => ?_
  rw [Int.toString_eq_repr, Int.toString_eq_repr, Int.repr_inj]

end

theorem leaf_labels_right_wetland :
    (2 ≤ ["ndvi", "height"].length ∧ 1 ≤ 6 ∧ 2 ≤ [40, 90].length ∧ wetland.isLeaf = false ∧ wetland.FeaturesBelow 2 ∧
      ∀ r ∈ wetland.readings, r.seen.length = [40, 90].length) ∧
    ∃ lines : List String,
      (wetland.fitted (fun counts => .list (counts.map .real)) 1).listing (strs ["ndvi", "height"])
          (.list ([40, 90].map .int)) (.str "CLASSIFICATION") =
        .ok (rootLine (wetland.fitted (fun counts => .list (counts.map .real)) 1) ++ Text.join "" lines) ∧
      leafLines lines = ["  2) ndvi <= 0.250000 4 0.0000 90 *\n", "    6) height <= 12.500000 3 0.0000 40 *\n",
        "    7) height > 12.500000 1 0.0000 90 *\n"] := by
  have hfeatures : wetland.FeaturesBelow 2 := by
    simp [wetland, FeaturesBelow]
  have hcounts : ∀ r ∈ wetland.readings, r.seen.length = [40, 90].length := by
    simp [wetland, readings]
  obtain ⟨lines, hlisting, hright⟩ := leaf_labels_right_iff ["ndvi", "height"] 1 [40, 90] wetland (by decide) (by decide)
    (by decide) rfl hfeatures hcounts
  refine ⟨⟨by decide, by decide, by decide, rfl, hfeatures, hcounts⟩, lines, hlisting, (hright.mpr ?_).trans ?_⟩
  · decide +kernel
  · decide +kernel

def moor : Tree (List Float) := split ⟨[5, 0, 3], 0.46875, 8⟩ 0 0.5 (leaf ⟨[5, 0, 0], 0, 5⟩ (-2)) (leaf ⟨[0, 0, 3], 0, 3⟩ (-2))

theorem leaf_label_of_missing_class :
    (moor.fitted (fun counts => .list (counts.map .real)) 1).listing (strs ["ndvi", "height"])
        (.list ([10, 20, 30].map .int)) (.str "CLASSIFICATION") =
      .ok (rootLine (moor.fitted (fun counts => .list (counts.map .real)) 1) ++ Text.join ""
        ["  2) ndvi <= 0.500000 5 0.0000 10 *\n", "  3) ndvi > 0.500000 3 0.0000 20 *\n"]) ∧
    leafLines (moor.listing (fun counts => toString ([10, 20, 30].getD (largest counts) 0))
        (["ndvi", "height"].getD · "") 1 0) =
      ["  2) ndvi <= 0.500000 5 0.0000 10 *\n", "  3) ndvi > 0.500000 3 0.0000 30 *\n"] := by
  have hlines : moor.listing (fun counts => toString ([10, 20, 30].getD (winnersBelow moor.winners (largest counts)) 0))
      (["ndvi", "height"].getD · "") 1 0 =
        ["  2) ndvi <= 0.500000 5 0.0000 10 *\n", "  3) ndvi > 0.500000 3 0.0000 20 *\n"] := by
    decide +kernel
  rw [← hlines]
  exact ⟨listing_labels ["ndvi", "height"] 1 [10, 20, 30] moor (by decide) (by decide) (by decide) rfl
    (by simp [moor, FeaturesBelow]) (by simp [moor, readings]), by decide +kernel⟩

end Tree

end RemoteSensing.DecisionTree
