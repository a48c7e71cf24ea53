import RemoteSensing.Proofs.DecisionTree.Table

/-!
The listing of a tree is the listing that the tree asks for.
-/

namespace RemoteSensing.DecisionTree

open List

variable {ns : List Nat} {rest rows : List Row} {others : List String} {n position : Nat} {previous : Option Nat} {r : Row}

variable {before behind table : List Row} {deepest depth i j f : Nat} {th : Float}

theorem rowOf_eq (hway : r.way = .left) (hlt : ∀ x ∈ before, x.place < r.place) :
    rowOf (before ++ r :: behind) r.place = .ok (r, before.length) := by
  have hnone : before.zipIdx.find? (fun e => e.1.way == .left && (e.1.place : Int) == r.place) = none := by
    rw [find?_eq_none]
    intro e he
    have hplace := hlt e.1 (fst_mem_of_mem_zipIdx he)
    have hne : ¬ (e.1.place : Int) = r.place := by omega
    simp [hne]
  unfold rowOf
  rw [zipIdx_append, zipIdx_cons, find?_append, hnone, Option.none_or,
    find?_cons_of_pos (by simp [hway]), Nat.zero_add]

theorem lastAtDepth_eq {between : List Row} (hway : r.way = .left) (hp : position = before.length + 1 + between.length)
    (hne : ∀ x ∈ between, x.depth ≠ r.depth) :
    lastAtDepth (before ++ r :: between ++ behind) position r.depth = some before.length := by
  have hlen : (before ++ r :: between).length = position := by
    rw [length_append, length_cons]
    omega
  have hnone : (between.zipIdx (0 + before.length + 1)).filter
      (fun e => e.1.way == .left && e.1.depth == r.depth) = [] := by
    rw [filter_eq_nil_iff]
    intro e he
    have := hne e.1 (fst_mem_of_mem_zipIdx he)
    simp [this]
  unfold lastAtDepth
  rw [take_left' hlen, zipIdx_append, zipIdx_cons, filter_append, filter_cons_of_pos (by simp [hway]), hnone,
    getLast?_concat, Option.map_some, Nat.zero_add]

theorem depth_le_foldl (m : Nat) :
    m ≤ rows.foldl (fun d r => max d r.depth) m ∧
      ∀ x ∈ rows, x.depth ≤ rows.foldl (fun d r => max d r.depth) m := by
  induction rows generalizing m with
  | nil => simp
  | cons r rest ih =>
    obtain ⟨hm, hall⟩ := ih (max m r.depth)
    rw [foldl_cons]
    refine ⟨by omega, ?_⟩
    intro x hx
    rcases mem_cons.mp hx with rfl | hx
    · omega
    · exact hall x hx

theorem shownFor_deepest {next : Row} (hd : r.depth + 1 = deepest) (hnext : rows[position + 1]? = some next) :
    shownFor rows deepest position r = .ok (next, true) := by
  rw [shownFor, if_pos hd, hnext]
  rfl

theorem shownFor_above {left right : Row} (hd : r.depth + 1 ≠ deepest)
    (hleft : rowOf rows r.node.left = .ok (left, i)) (hright : rowOf rows r.node.right = .ok (right, j)) :
    shownFor rows deepest position r =
      .ok (if left.leaf && position < i && r.way == .left then (left, true)
        else if right.leaf && position < j && r.way == .right then (right, true) else (r, false)) := by
  rw [shownFor, if_neg hd, hleft]
  show (if (left.leaf && position < i && r.way == .left) = true then pure (left, true)
    else rowOf rows r.node.right >>= _) = _
  rw [hright]
  split
  · rfl
  · show (if (right.leaf && position < j && r.way == .right) = true then _ else _) = _
    split <;> rfl

theorem linesFrom_leaf {numbers : List Nat} (hleaf : r.node.isLeaf = true) (hn : numbers.getLast? = some n) :
    linesFrom rows deepest position previous numbers (r :: rest) =
      linesFrom rows deepest (position + 1) previous (numbers ++ [n]) rest := by
  rw [linesFrom, if_pos hleaf, hn]

theorem linesFrom_split {numbers : List Nat} {text : String} (hleaf : r.node.isLeaf = false)
    (hn : numberOf rows position previous r.depth numbers = .ok n) (hline : line rows deepest position n r = .ok text)
    (hrest : linesFrom rows deepest (position + 1) (some r.depth) (numbers ++ [n]) rest = .ok others) :
    linesFrom rows deepest position previous numbers (r :: rest) = .ok (text :: others) := by
  rw [linesFrom, if_neg (by simp [hleaf]), hn]
  show (line rows deepest position n r >>= _) = _
  rw [hline]
  rw [hrest]
  rfl

namespace Tree

variable {α : Type} {t : Tree α}

@[simp] theorem samples_node (t : Tree α) (i : Nat) : (t.node i).samples = t.reading.samples := by
  cases t <;> rfl

@[simp] theorem impurity_node (t : Tree α) (i : Nat) : (t.node i).impurity = t.reading.impurity := by
  cases t <;> rfl

section Pass

variable (outcome : α → Outcome) (feature : Int → Data)

theorem segment_eq_cons (t : Tree α) (i depth : Nat) :
    ∃ rest, t.segment outcome feature i depth = row outcome feature t i depth :: rest := by
  cases t with
  | leaf r th => exact ⟨_, rfl⟩
  | split r f th a b => exact ⟨_, rfl⟩

theorem mem_segment {x : Row} (h : x ∈ t.segment outcome feature i depth) :
    x.place < i + t.size ∧ depth ≤ x.depth := by
  induction t generalizing i depth with
  | leaf r th =>
    rw [segment, mem_singleton] at h
    rw [h]
    exact ⟨Nat.lt_succ_self i, Nat.le_refl depth⟩
  | split r f th a b iha ihb =>
    rw [segment, mem_cons, mem_append, mem_cons] at h
    rw [size]
    rcases h with h | h | h | h
    · rw [h]
      exact ⟨by show i < _; omega, Nat.le_refl depth⟩
    · have := iha h
      omega
    · rw [h]
      exact ⟨by show i < _; omega, Nat.le_refl depth⟩
    · have := ihb h
      omega

theorem isLeaf_of_depth_le {d : Nat} (h : ∀ x ∈ t.segment outcome feature i d, x.depth ≤ d) :
    t.isLeaf = true := by
  cases t with
  | leaf r th => rfl
  | split r f th a b =>
    obtain ⟨rest, hrest⟩ := segment_eq_cons outcome feature a (i + 1) (d + 1)
    have := h (row outcome feature a (i + 1) (d + 1)) (by simp [segment, hrest])
    exact absurd this (Nat.not_succ_le_self d)

/-- The table of a tree is a part of a table, in which no row lies below the deepest one. -/
structure Among (t : Tree α) (i depth : Nat) (table before behind : List Row) (deepest : Nat) : Prop where
  cut : table = before ++ t.segment outcome feature i depth ++ behind
  places : ∀ x ∈ before, x.place < i
  depths : ∀ x ∈ table, x.depth ≤ deepest

section

variable {outcome feature} {r : Reading α} {a b : Tree α}

section

variable (h : Among outcome feature t i depth table before behind deepest)
include h

theorem Among.start : ∃ rest, table = before ++ row outcome feature t i depth :: rest := by
  obtain ⟨rest, hrest⟩ := segment_eq_cons outcome feature t i depth
  exact ⟨rest ++ behind, by rw [h.cut, hrest, append_assoc, cons_append]⟩

theorem Among.rowOf : rowOf table (i : Int) = .ok (row outcome feature t i depth, before.length) := by
  obtain ⟨rest, hrest⟩ := h.start
  rw [hrest]
  exact rowOf_eq rfl h.places

theorem Among.getElem? : table[before.length]? = some (row outcome feature t i depth) := by
  obtain ⟨rest, hrest⟩ := h.start
  simp [hrest]

theorem Among.isLeaf (hd : depth = deepest) : t.isLeaf = true := by
  refine isLeaf_of_depth_le outcome feature (i := i) (d := depth) ?_
  intro x hx
  rw [hd]
  exact h.depths x (by rw [h.cut]; simp [hx])

end

variable (h : Among outcome feature (split r f th a b) i depth table before behind deepest)
include h

theorem Among.left :
    Among outcome feature a (i + 1) (depth + 1) table (before ++ [row outcome feature (split r f th a b) i depth])
      (rightRow outcome feature (split r f th a b) i depth ::
        b.segment outcome feature (i + 1 + a.size) (depth + 1) ++ behind) deepest := by
  refine ⟨?_, ?_, h.depths⟩
  · rw [h.cut, segment]
    simp
  · intro x hx
    rw [mem_append, mem_singleton] at hx
    rcases hx with hx | rfl
    · have := h.places x hx
      omega
    · exact Nat.lt_succ_self i

theorem Among.right :
    Among outcome feature b (i + 1 + a.size) (depth + 1) table
      (before ++ row outcome feature (split r f th a b) i depth ::
        (a.segment outcome feature (i + 1) (depth + 1) ++ [rightRow outcome feature (split r f th a b) i depth]))
      behind deepest := by
  refine ⟨?_, ?_, h.depths⟩
  · rw [h.cut, segment]
    simp
  · intro x hx
    rw [mem_append, mem_cons, mem_append, mem_singleton] at hx
    rcases hx with hx | rfl | hx | rfl
    · have := h.places x hx
      omega
    · show i < _
      omega
    · exact (mem_segment outcome feature hx).1
    · show i < _
      omega

theorem Among.shownFor_left :
    shownFor table deepest before.length (row outcome feature (split r f th a b) i depth) =
      .ok (if a.isLeaf then row outcome feature a (i + 1) (depth + 1)
        else row outcome feature (split r f th a b) i depth, a.isLeaf) := by
  have hleft := h.left.rowOf
  have hright := h.right.rowOf
  have hnext := h.left.getElem?
  rw [length_append, length_singleton] at hleft hnext
  by_cases hd : depth + 1 = deepest
  · rw [shownFor_deepest hd hnext, h.left.isLeaf hd]
    rfl
  · rw [shownFor_above hd hleft (by push_cast at hright; exact hright)]
    cases ha : a.isLeaf <;> simp [ha, row]

theorem Among.shownFor_right :
    shownFor table deepest (before.length + 1 + (a.segment outcome feature (i + 1) (depth + 1)).length)
        (rightRow outcome feature (split r f th a b) i depth) =
      .ok (if b.isLeaf then row outcome feature b (i + 1 + a.size) (depth + 1)
        else rightRow outcome feature (split r f th a b) i depth, b.isLeaf) := by
  have hleft := h.left.rowOf
  have hright := h.right.rowOf
  have hnext := h.right.getElem?
  rw [length_append, length_cons, length_append, length_singleton] at hright hnext
  by_cases hd : depth + 1 = deepest
  · rw [shownFor_deepest hd (by rw [← hnext]; congr 1; omega), h.right.isLeaf hd]
    rfl
  · rw [shownFor_above hd hleft (by push_cast at hright; exact hright)]
    have hway : ((rightRow outcome feature (split r f th a b) i depth).way == .left) = false := rfl
    have hwayr : ((rightRow outcome feature (split r f th a b) i depth).way == .right) = true := rfl
    have hbehind : before.length + 1 + (a.segment outcome feature (i + 1) (depth + 1)).length <
      before.length + ((a.segment outcome feature (i + 1) (depth + 1)).length + 1 + 1) := by omega
    cases hb : b.isLeaf <;> simp [hway, hwayr, hb, hbehind, row]

end

def numbers : Tree α → (n : Nat) → List Nat
  | leaf .., n => [n]
  | split _ _ _ a b, n => 2 * n :: (a.numbers (2 * n) ++ (2 * n + 1) :: b.numbers (2 * n + 1))

/-- The depth of the last line behind the table of a tree, if it was `previous` in front of it. -/
def lastDepth : Tree α → (previous : Option Nat) → (depth : Nat) → Option Nat
  | leaf .., previous, _ => previous
  | split _ _ _ _ b, _, depth => b.lastDepth (some depth) (depth + 1)

/-- What the pass has in front of the table of a tree whose root has the number `n`: nothing yet at the top of a
tree with a split, and elsewhere `n` as the last number, from a line further up. -/
def Due (t : Tree α) (n depth : Nat) (previous : Option Nat) (numbers : List Nat) : Prop :=
  (previous = none ∧ numbers = [] ∧ n = 1 ∧ t.isLeaf = false) ∨
    ∃ p, previous = some p ∧ p < depth ∧ numbers.getLast? = some n

theorem length_numbers (t : Tree α) (i depth : Nat) (n : Nat) :
    (t.numbers n).length = (t.segment outcome feature i depth).length := by
  induction t generalizing i depth n with
  | leaf r th => rfl
  | split r f th a b iha ihb =>
    rw [numbers, segment, length_cons, length_cons, length_append, length_append,
      length_cons, length_cons, iha (i + 1) (depth + 1), ihb (i + 1 + a.size) (depth + 1)]

theorem lastDepth_of_split (ht : t.isLeaf = false) (previous : Option Nat) (depth : Nat) :
    ∃ p, t.lastDepth previous depth = some p ∧ depth ≤ p := by
  induction t generalizing previous depth with
  | leaf r th => cases ht
  | split r f th a b _ ihb =>
    cases hb : b.isLeaf with
    | true =>
      cases b with
      | leaf => exact ⟨depth, rfl, Nat.le_refl depth⟩
      | split => cases hb
    | false =>
      obtain ⟨p, hp, hle⟩ := ihb hb (some depth) (depth + 1)
      exact ⟨p, hp, by omega⟩

theorem Due.numberOf_left {before : List Nat} (h : t.Due n depth previous before) (rows : List Row) :
    numberOf rows before.length previous depth before = .ok (2 * n) := by
  rcases h with ⟨rfl, rfl, rfl, _⟩ | ⟨p, rfl, hlt, hlast⟩
  · rfl
  · have hne : before ≠ [] := by
      rintro rfl
      cases hlast
    have hpos : before.length ≠ 0 := by
      rwa [Ne, length_eq_zero_iff]
    have hget : before.getD (before.length - 1) 0 = n := by
      rw [getD_eq_getElem?_getD, ← getLast?_eq_getElem?, hlast]
      rfl
    have hnot : ¬ depth < p := by omega
    rw [numberOf, if_neg hpos, hget]
    simp only [hnot, hlt, if_true, if_false]
    rw [Nat.mul_comm]

section

variable {outcome feature} {r : Reading α} {a b : Tree α}

theorem Among.numberOf_right (h : Among outcome feature (split r f th a b) i depth table before behind deepest)
    (hlen : ns.length = before.length) (n : Nat) :
    numberOf table (before.length + 1 + (a.segment outcome feature (i + 1) (depth + 1)).length)
      (a.lastDepth (some depth) (depth + 1)) depth (ns ++ 2 * n :: a.numbers (2 * n)) = .ok (2 * n + 1) := by
  rw [numberOf, if_neg (by omega)]
  cases ha : a.isLeaf with
  | true =>
    -- the last number is that of the way to the left
    cases a with
    | split => cases ha
    | leaf ra tha =>
      have hlast : (ns ++ [2 * n, 2 * n]).getD (before.length + 1 + 1 - 1) 0 = 2 * n := by
        rw [getD_eq_getElem?_getD, getElem?_append_right (by omega),
          show before.length + 1 + 1 - 1 - ns.length = 1 by omega]
        rfl
      show (if depth < depth then _ else if depth < depth then _ else
        Except.ok ((ns ++ [2 * n, 2 * n]).getD (before.length + 1 + 1 - 1) 0 + 1)) = _
      rw [if_neg (Nat.lt_irrefl depth), if_neg (Nat.lt_irrefl depth), hlast]
  | false =>
    -- the pass comes from further down, and the last row at this depth is that of the way to the left
    obtain ⟨p, hp, hle⟩ := lastDepth_of_split ha (some depth) (depth + 1)
    have hrow : lastAtDepth table (before.length + 1 + (a.segment outcome feature (i + 1) (depth + 1)).length) depth =
        some before.length := by
      rw [h.left.cut, append_assoc before, singleton_append]
      refine lastAtDepth_eq rfl rfl ?_
      intro x hx
      have := (mem_segment outcome feature hx).2
      show x.depth ≠ depth
      omega
    have hget : (ns ++ 2 * n :: a.numbers (2 * n)).getD before.length 0 = 2 * n := by
      rw [← hlen, getD_eq_getElem?_getD, getElem?_append_right (Nat.le_refl _), Nat.sub_self]
      rfl
    rw [hp]
    show (if depth < p then _ else _) = _
    rw [if_pos (by omega), hrow]
    show Except.ok ((ns ++ 2 * n :: a.numbers (2 * n)).getD before.length 0 + 1) = _
    rw [hget]

variable {value : α → String} (hvalue : ∀ (x : Row) (s : α), x.outcome = outcome s → x.outcomeText = .ok (value s))

include hvalue

theorem line_eq {way : Way}
    (hshown : shownFor rows deepest position { row outcome feature (split r f th a b) i depth with way := way } =
      .ok (if t.isLeaf then row outcome feature t j (depth + 1)
        else { row outcome feature (split r f th a b) i depth with way := way }, t.isLeaf)) :
    line rows deepest position n { row outcome feature (split r f th a b) i depth with way := way } =
      .ok (lineText depth n (feature f).display way th (shownBy r t) value t.isLeaf) := by
  rw [line, hshown]
  cases ht : t.isLeaf with
  | true =>
    show ((row outcome feature t j (depth + 1)).outcomeText >>= _) = _
    rw [hvalue _ t.reading.seen rfl, lineText, shownBy, ht]
    simp only [row, samples_node, impurity_node, if_true]
    rfl
  | false =>
    show (Row.outcomeText { row outcome feature (split r f th a b) i depth with way := way } >>= _) = _
    rw [hvalue _ r.seen rfl, lineText, shownBy, ht]
    rfl

/-- **The pass over the table of a tree writes the listing of the tree.** -/
theorem Among.linesFrom_eq (h : Among outcome feature t i depth table before behind deepest) (hpos : before.length = position)
    (hlen : ns.length = position) (hdue : t.Due n depth previous ns)
    (hrest : linesFrom table deepest (position + (t.segment outcome feature i depth).length)
      (t.lastDepth previous depth) (ns ++ t.numbers n) behind = .ok others) :
    linesFrom table deepest position previous ns (t.segment outcome feature i depth ++ behind) =
      .ok (t.listing value (fun f => (feature f).display) n depth ++ others) := by
  induction t generalizing i depth n position before behind previous ns others with
  | leaf r th =>
    rcases hdue with ⟨_, _, _, hleaf⟩ | ⟨p, _, _, hlast⟩
    · cases hleaf
    · rw [segment, singleton_append, linesFrom_leaf rfl hlast]
      exact hrest
  | split r f th a b iha ihb =>
    have hsplit : ((split r f th a b).node i).isLeaf = false := isLeaf_node _ _
    have hlena := length_numbers outcome feature a (i + 1) (depth + 1) (2 * n)
    subst hpos
    let sa := a.segment outcome feature (i + 1) (depth + 1)
    let sb := b.segment outcome feature (i + 1 + a.size) (depth + 1)
    let shown (f : Nat) := (feature f).display
    -- read from the end: the right side, the way to it, the left side, the way to it
    have hb : linesFrom table deepest (before.length + 1 + sa.length + 1) (some depth)
        (ns ++ 2 * n :: a.numbers (2 * n) ++ [2 * n + 1]) (sb ++ behind) =
          .ok (b.listing value shown (2 * n + 1) (depth + 1) ++ others) := by
      refine ihb h.right ?_ ?_ (Or.inr ⟨depth, rfl, Nat.lt_succ_self depth, getLast?_concat⟩) ?_
      · simp only [sa, length_append, length_cons, length_nil]
        omega
      · simp only [sa, length_append, length_cons, length_nil, hlen, hlena]
        omega
      · rw [← hrest]
        simp only [sa, segment, numbers, length_append, length_cons, append_assoc, cons_append, nil_append]
        congr 1
        omega
    let back := lineText depth (2 * n + 1) (shown f) .right th (shownBy r b) value b.isLeaf ::
      (b.listing value shown (2 * n + 1) (depth + 1) ++ others)
    have hright : linesFrom table deepest (before.length + 1 + sa.length) (a.lastDepth (some depth) (depth + 1))
        (ns ++ 2 * n :: a.numbers (2 * n)) (rightRow outcome feature (split r f th a b) i depth :: sb ++ behind) = .ok back :=
      linesFrom_split hsplit (h.numberOf_right hlen n) (line_eq hvalue h.shownFor_right) hb
    have ha : linesFrom table deepest (before.length + 1) (some depth) (ns ++ [2 * n])
        (sa ++ (rightRow outcome feature (split r f th a b) i depth :: sb ++ behind)) =
          .ok (a.listing value shown (2 * n) (depth + 1) ++ back) := by
      refine iha h.left ?_ ?_ (Or.inr ⟨depth, rfl, Nat.lt_succ_self depth, getLast?_concat⟩) ?_
      · rw [length_append, length_singleton]
      · rw [length_append, length_singleton, hlen]
      · rw [append_assoc ns, singleton_append]
        exact hright
    have hleft := linesFrom_split hsplit (hlen ▸ hdue.numberOf_left table) (line_eq hvalue h.shownFor_left) ha
    simp only [sa, sb, back, segment, listing, cons_append, append_assoc] at hleft ⊢
    exact hleft

/-- **The lines of the table of a tree with a split are the listing of the tree.** -/
theorem lines_segment (ht : t.isLeaf = false) :
    lines (t.segment outcome feature 0 0) = .ok (t.listing value (fun f => (feature f).display) 1 0) := by
  have hamong : Among outcome feature t 0 0 (t.segment outcome feature 0 0) [] []
      ((t.segment outcome feature 0 0).foldl (fun d r => max d r.depth) 0) :=
    ⟨by simp, forall_mem_nil _, (depth_le_foldl 0).2⟩
  have h := Among.linesFrom_eq hvalue hamong (n := 1) rfl rfl (Or.inl ⟨rfl, rfl, rfl, ht⟩) rfl
  rw [append_nil, append_nil] at h
  exact h

end

end Pass

end Tree

end RemoteSensing.DecisionTree
