import RemoteSensing.DecisionTree
import RemoteSensing.Proofs.Value.Fields

/-!
Decision trees as trees.
-/

namespace RemoteSensing.DecisionTree

open List in
theorem depthOf_of_mem {reached : List (Nat × Nat)} {p : Nat} (hn : (reached.map (·.1)).Nodup)
    {d : Nat} (h : (p, d) ∈ reached) : depthOf reached p = some d := by
  unfold depthOf
  have hfound : (reached.reverse.find? fun r => r.1 == p).isSome := by
    rw [find?_isSome]
    exact ⟨(p, d), mem_reverse.mpr h, by simp⟩
  obtain ⟨x, hx⟩ := Option.isSome_iff_exists.mp hfound
  have hplace : x.1 = p := by simpa using find?_some hx
  have hmem : x ∈ reached := mem_reverse.mp (mem_of_find?_eq_some hx)
  have hsame : x = (p, d) := inj_on_of_nodup_map hn hmem h hplace
  rw [hx, hsame]
  rfl

/-- What was seen at a node, how mixed it is, and how many samples reached it. -/
structure Reading (α : Type) where
  seen : α
  impurity : Float
  samples : Int

/-- A decision tree in which every split has two sides. -/
inductive Tree (α : Type) where
  | leaf (r : Reading α) (threshold : Float)
  | split (r : Reading α) (feature : Nat) (threshold : Float) (left right : Tree α)

namespace Tree

variable {α : Type}

def size : Tree α → Nat
  | leaf .. => 1
  | split _ _ _ a b => 1 + a.size + b.size

def isLeaf : Tree α → Bool
  | leaf .. => true
  | split .. => false

def reading : Tree α → Reading α
  | leaf r _ => r
  | split r .. => r

def readings : Tree α → List (Reading α)
  | leaf r _ => [r]
  | split r _ _ a b => r :: (a.readings ++ b.readings)

def FeaturesBelow (n : Nat) : Tree α → Prop
  | leaf .. => True
  | split _ f _ a b => f < n ∧ a.FeaturesBelow n ∧ b.FeaturesBelow n

def node (i : Nat) : Tree α → Node
  | leaf r h => ⟨-1, -1, -2, h, r.impurity, r.samples⟩
  | split r f h a _ => ⟨i + 1, i + 1 + a.size, f, h, r.impurity, r.samples⟩

def nodes : Nat → Tree α → List Node
  | i, leaf r h => [node i (leaf r h)]
  | i, split r f h a b => node i (split r f h a b) :: (a.nodes (i + 1) ++ b.nodes (i + 1 + a.size))

theorem size_pos (t : Tree α) : 0 < t.size := by
  cases t with
  | leaf r h => exact Nat.one_pos
  | split r f h a b =>
    rw [size]
    omega

@[simp] theorem length_nodes (t : Tree α) (i : Nat) : (t.nodes i).length = t.size := by
  induction t generalizing i with
  | leaf r h => rfl
  | split r f h a b iha ihb =>
    rw [nodes, List.length_cons, List.length_append, iha, ihb, size]
    omega

@[simp] theorem length_readings (t : Tree α) : t.readings.length = t.size := by
  induction t with
  | leaf r h => rfl
  | split r f h a b iha ihb =>
    rw [readings, List.length_cons, List.length_append, iha, ihb, size]
    omega

theorem isLeaf_node (t : Tree α) (i : Nat) : (t.node i).isLeaf = t.isLeaf := by
  cases t with
  | leaf r h => rfl
  | split r f h a b =>
    -- the right child lies behind the left side, so the two children differ
    have hpos := a.size_pos
    show ((i : Int) + 1 == i + 1 + a.size) = false
    rw [beq_eq_false_iff_ne]
    omega

def lineText (depth number : Nat) (feature : String) (way : Way) (threshold : Float) (r : Reading α)
    (value : α → String) (ends : Bool) : String :=
  Text.times (depth + 1) "  " ++ toString number ++ ") " ++ feature ++ " " ++ way.sign ++ " " ++
    Decimal.fixed 6 threshold ++ " " ++ toString r.samples ++ " " ++ Decimal.fixed 4 r.impurity ++ " " ++
    value r.seen ++ (if ends then " *\n" else "\n")

/-- The reading that a way shows: that of the leaf that it leads to, or else that of the split. -/
def shownBy (own : Reading α) (child : Tree α) : Reading α := if child.isLeaf then child.reading else own

/-- **The listing of a tree** whose root has the number `n` and lies at a depth. -/
def listing (value : α → String) (feature : Nat → String) : Tree α → (n depth : Nat) → List String
  | leaf .., _, _ => []
  | split r f h a b, n, depth =>
    lineText depth (2 * n) (feature f) .left h (shownBy r a) value a.isLeaf ::
      (a.listing value feature (2 * n) (depth + 1) ++
        lineText depth (2 * n + 1) (feature f) .right h (shownBy r b) value b.isLeaf ::
          b.listing value feature (2 * n + 1) (depth + 1))

/-! The table of a tree. -/

open List

variable {h : Float} {reached : List (Nat × Nat)} {ns : List Node} {before behind : List Row} {p : Nat}
variable {α : Type} {t a b : Tree α} {i f depth : Nat} {r : Reading α}

/-- The places of a tree with their depths, in the order in which the descent reaches them. -/
def reach : Tree α → (i depth : Nat) → List (Nat × Nat)
  | leaf .., i, depth => [(i, depth)]
  | split _ _ _ a b, i, depth =>
    (i, depth) :: (b.reach (i + 1 + a.size) (depth + 1) ++ a.reach (i + 1) (depth + 1))

def LiesAt (t : Tree α) (i : Nat) (ns : List Node) : Prop :=
  ∃ before behind, ns = before ++ t.nodes i ++ behind ∧ before.length = i

theorem LiesAt.root (h : t.LiesAt i ns) : ns[i]? = some (t.node i) := by
  obtain ⟨before, behind, rfl, rfl⟩ := h
  cases t with
  | leaf r h => simp [nodes]
  | split r f h a b => simp [nodes]

theorem LiesAt.left (hl : (split r f h a b).LiesAt i ns) :
    a.LiesAt (i + 1) ns := by
  obtain ⟨before, behind, rfl, rfl⟩ := hl
  refine ⟨before ++ [node before.length (split r f h a b)],
    b.nodes (before.length + 1 + a.size) ++ behind, ?_, by simp⟩
  simp [nodes]

theorem LiesAt.right (hl : (split r f h a b).LiesAt i ns) :
    b.LiesAt (i + 1 + a.size) ns := by
  obtain ⟨before, behind, rfl, rfl⟩ := hl
  refine ⟨before ++ node before.length (split r f h a b) :: a.nodes (before.length + 1), behind, ?_, ?_⟩
  · simp [nodes]
  · simp only [length_append, length_cons, length_nodes]
    omega

/-- **The descent reaches every node of a tree with its depth.** -/
theorem descend_eq (t : Tree α) {fuel : Nat} (depth : Nat) (h : t.LiesAt i ns) (hfuel : t.size ≤ fuel) :
    descend ns fuel depth i = .ok (t.reach i depth) := by
  induction t generalizing i fuel depth with
  | leaf r th =>
    cases fuel with
    | zero => simp [size] at hfuel
    | succ k =>
      rw [descend, Value.elementAt_natCast "index" h.root]
      rfl
  | split r f th a b iha ihb =>
    cases fuel with
    | zero =>
      rw [size] at hfuel
      omega
    | succ k =>
      rw [size] at hfuel
      have hleaf : ((split r f th a b).node i).isLeaf = false := isLeaf_node _ _
      have hright : ((split r f th a b).node i).right = ((i + 1 + a.size : Nat) : Int) := by
        simp [node]
      have hleft : ((split r f th a b).node i).left = ((i + 1 : Nat) : Int) := by
        simp [node]
      rw [descend, Value.elementAt_natCast "index" h.root]
      show (if ((split r f th a b).node i).isLeaf then _ else _) = _
      rw [hleaf, if_neg (by simp), hright, hleft, ihb (depth + 1) h.right (by omega),
        iha (depth + 1) h.left (by omega)]
      rfl

theorem mem_reach {x : Nat × Nat} (h : x ∈ t.reach i depth) :
    i ≤ x.1 ∧ x.1 < i + t.size := by
  induction t generalizing i depth with
  | leaf r th =>
    rw [reach, mem_singleton] at h
    rw [h, size]
    exact ⟨Nat.le_refl _, by omega⟩
  | split r f th a b iha ihb =>
    rw [reach, mem_cons, mem_append] at h
    rw [size]
    rcases h with h | h | h
    · rw [h]
      exact ⟨Nat.le_refl _, by omega⟩
    · have := ihb h
      omega
    · have := iha h
      omega

theorem reach_nodup (t : Tree α) (i depth : Nat) : ((t.reach i depth).map (·.1)).Nodup := by
  induction t generalizing i depth with
  | leaf r th => simp [reach]
  | split r f th a b iha ihb =>
    rw [reach, map_cons, map_append, nodup_cons, nodup_append]
    refine ⟨?_, ihb _ _, iha _ _, ?_⟩
    · rw [mem_append, mem_map, mem_map]
      rintro (⟨x, hx, hi⟩ | ⟨x, hx, hi⟩)
      · have := mem_reach hx
        omega
      · have := mem_reach hx
        omega
    · -- the left side ends where the right one begins
      rintro _ hp _ hq
      obtain ⟨x, hx, rfl⟩ := mem_map.mp hp
      obtain ⟨y, hy, rfl⟩ := mem_map.mp hq
      have := mem_reach hx
      have := mem_reach hy
      omega

section Rows

variable (outcome : α → Outcome) (feature : Int → Data)

def row (t : Tree α) (i depth : Nat) : Row where
  place := i
  depth := depth
  leaf := t.isLeaf
  node := t.node i
  outcome := outcome t.reading.seen
  feature := feature (t.node i).feature

def rightRow (t : Tree α) (i depth : Nat) : Row := { row outcome feature t i depth with way := .right }

def rows : Tree α → (i depth : Nat) → List Row
  | leaf r h, i, depth => [row outcome feature (leaf r h) i depth]
  | split r f h a b, i, depth =>
    row outcome feature (split r f h a b) i depth ::
      (a.rows (i + 1) (depth + 1) ++ b.rows (i + 1 + a.size) (depth + 1))

/-- **The table of a tree**: each split has a second row, for the way to the right, behind its left side. -/
def segment : Tree α → (i depth : Nat) → List Row
  | leaf r h, i, depth => [row outcome feature (leaf r h) i depth]
  | split r f h a b, i, depth =>
    row outcome feature (split r f h a b) i depth ::
      (a.segment (i + 1) (depth + 1) ++
        rightRow outcome feature (split r f h a b) i depth ::
          b.segment (i + 1 + a.size) (depth + 1))

@[simp] theorem length_rows (t : Tree α) (i depth : Nat) : (t.rows outcome feature i depth).length = t.size := by
  induction t generalizing i depth with
  | leaf r h => rfl
  | split r f h a b iha ihb =>
    rw [rows, length_cons, length_append, iha, ihb, size]
    omega

theorem rows_eq (t : Tree α) (i depth : Nat) (h : ∀ x ∈ t.reach i depth, depthOf reached x.1 = some x.2) :
    (((t.nodes i).zip ((t.readings.map fun r => outcome r.seen).zip
        ((t.nodes i).map fun n => feature n.feature))).zipIdx i).map (fun e =>
      ({ place := if (depthOf reached e.2).isSome then e.2 else 0, depth := (depthOf reached e.2).getD 0,
         leaf := (depthOf reached e.2).isSome && e.1.1.isLeaf, node := e.1.1, outcome := e.1.2.1,
         feature := e.1.2.2 } : Row)) = t.rows outcome feature i depth := by
  induction t generalizing i depth with
  | leaf r th =>
    have hi : depthOf reached i = some depth := h (i, depth) (by simp [reach])
    simp only [nodes, readings, rows, row, map_cons, map_nil, zip_cons_cons, zip_nil_left,
      zipIdx_cons, zipIdx_nil, hi, isLeaf_node]
    rfl
  | split r f th a b iha ihb =>
    have hi : depthOf reached i = some depth := h (i, depth) (by simp [reach])
    have ha := iha (i + 1) (depth + 1) (fun x hx => h x (by simp [reach, hx]))
    have hb := ihb (i + 1 + a.size) (depth + 1) (fun x hx => h x (by simp [reach, hx]))
    rw [rows, ← ha, ← hb]
    simp only [nodes, readings, row, map_cons, map_append, zip_cons_cons, zipIdx_cons, hi,
      isLeaf_node]
    rw [zip_append (by simp), zip_append (by simp), zipIdx_append, map_append]
    simp [Nat.add_assoc, reading]

theorem right_lt_of_mem_rows {x : Row} (h : x ∈ t.rows outcome feature i depth) :
    x.node.right < i + t.size := by
  induction t generalizing i depth with
  | leaf r th =>
    rw [rows, mem_singleton] at h
    rw [h]
    show (-1 : Int) < i + 1
    omega
  | split r f th a b iha ihb =>
    rw [rows, mem_cons, mem_append] at h
    have hsize : ((split r f th a b).size : Int) = 1 + a.size + b.size := by simp [size]
    have hpos := b.size_pos
    rcases h with h | h | h
    · rw [h]
      show (i : Int) + 1 + a.size < i + (1 + a.size + b.size)
      omega
    · have := iha h
      omega
    · have := ihb h
      omega

/-- Where the right children of the rows before a tree lie: outside of the tree, or at its root. -/
def RightsOutside (before : List Row) (i size : Nat) : Prop :=
  ∀ x ∈ before, x.node.right ≤ i ∨ (i + size : Int) ≤ x.node.right

section

variable {th : Float}

theorem RightsOutside.left (h : RightsOutside before i (split r f th a b).size) {x : Row}
    (hx : x ∈ before ++ [row outcome feature (split r f th a b) i depth]) :
    x.node.right < (i + 1 : Nat) ∨ ((i + 1 : Nat) + a.size : Int) ≤ x.node.right := by
  rw [mem_append, mem_singleton] at hx
  rcases hx with hx | rfl
  · have := h x hx
    rw [size] at this
    omega
  · right
    show ((i + 1 : Nat) + a.size : Int) ≤ i + 1 + a.size
    omega

theorem RightsOutside.right (h : RightsOutside before i (split r f th a b).size) :
    RightsOutside (before ++ row outcome feature (split r f th a b) i depth ::
      a.rows outcome feature (i + 1) (depth + 1)) (i + 1 + a.size) b.size := by
  intro x hx
  rw [mem_append, mem_cons] at hx
  rcases hx with hx | rfl | hx
  · have := h x hx
    rw [size] at this
    omega
  · left
    show (i + 1 + a.size : Int) ≤ (i + 1 + a.size : Nat)
    omega
  · have := right_lt_of_mem_rows outcome feature hx
    omega

end

theorem filter_eq_nil_of_ne (h : ∀ x ∈ before, x.node.right ≠ p) : before.filter (fun r => r.node.right == (p : Int)) = [] := by
  rw [filter_eq_nil_iff]
  intro x hx
  simpa using h x hx

theorem wayTo_eq_none (hp : before.length = p) (h : ∀ x ∈ before, x.node.right ≠ p) :
    wayTo (before ++ behind) p = none := by
  rw [wayTo, take_left' hp, filter_eq_nil_of_ne h]
  rfl

theorem wayTo_eq_some {between : List Row} {r : Row} (hp : before.length + 1 + between.length = p) (hr : r.node.right = p)
    (h : ∀ x ∈ between, x.node.right ≠ p) :
    wayTo (before ++ r :: between ++ behind) p = some { r with way := .right } := by
  have hlen : (before ++ r :: between).length = p := by
    rw [length_append, length_cons]
    omega
  rw [wayTo, take_left' hlen, filter_append, filter_cons, filter_eq_nil_of_ne h]
  simp [hr]

/-- **The table has the rows of a tree in the order of the tree.** In front of them comes the way that leads to the
root, if there is one. -/
theorem segment_eq (t : Tree α) (before behind : List Row) (depth : Nat) (hi : before.length = i)
    (hout : RightsOutside before i t.size) :
    ((t.rows outcome feature i depth).zipIdx i).flatMap (fun e =>
      (wayTo (before ++ t.rows outcome feature i depth ++ behind) e.2).toList ++ [e.1]) =
    (wayTo (before ++ t.rows outcome feature i depth ++ behind) i).toList ++ t.segment outcome feature i depth := by
  induction t generalizing before behind i depth with
  | leaf r th => simp [rows, segment]
  | split r f th a b iha ihb =>
    let root := row outcome feature (split r f th a b) i depth
    let ra := a.rows outcome feature (i + 1) (depth + 1)
    let rb := b.rows outcome feature (i + 1 + a.size) (depth + 1)
    let whole := before ++ (split r f th a b).rows outcome feature i depth ++ behind
    -- the whole list, cut behind the root and cut behind the left side
    have hcuta : whole = (before ++ [root]) ++ ra ++ (rb ++ behind) := by
      simp [whole, rows, root, ra, rb]
    have hcutb : whole = (before ++ root :: ra) ++ rb ++ behind := by
      simp [whole, rows, root, ra, rb]
    have hlena : (before ++ [root]).length = i + 1 := by
      rw [length_append, hi]
      rfl
    have hlenb : (before ++ root :: ra).length = i + 1 + a.size := by
      rw [length_append, length_cons, length_rows, hi]
      omega
    -- no way to the right leads to the left child, and that of the root leads to the right one
    have hleft : ∀ x ∈ before ++ [root], _ := fun x hx => hout.left outcome feature hx
    have hwaya : wayTo whole (i + 1) = none := by
      rw [hcuta, append_assoc]
      refine wayTo_eq_none hlena fun x hx => ?_
      have := hleft x hx
      have := a.size_pos
      omega
    have hwayb : wayTo whole (i + 1 + a.size) = some { root with way := .right } := by
      rw [hcutb, append_assoc]
      refine wayTo_eq_some (by rw [length_rows, hi]) (by simp [root, row, node]) ?_
      intro x hx
      have := right_lt_of_mem_rows outcome feature hx
      omega
    have ha := iha (before ++ [root]) (rb ++ behind) (depth + 1) hlena fun x hx => (hleft x hx).imp_left Int.le_of_lt
    have hb := ihb (before ++ root :: ra) behind (depth + 1) hlenb (hout.right outcome feature)
    rw [← hcuta, hwaya] at ha
    rw [← hcutb, hwayb] at hb
    conv_lhs =>
      arg 2
      rw [rows, zipIdx_cons, zipIdx_append, length_rows]
    rw [flatMap_cons, flatMap_append, ha, hb, segment]
    simp [root, rightRow]

theorem table_rows (t : Tree α) : table (t.rows outcome feature 0 0) = t.segment outcome feature 0 0 := by
  have h := segment_eq outcome feature t [] [] 0 rfl (forall_mem_nil _)
  have hway : wayTo ([] ++ t.rows outcome feature 0 0 ++ []) 0 = none := by
    rw [append_assoc]
    exact wayTo_eq_none rfl (forall_mem_nil _)
  rw [length_nil, hway, nil_append, append_nil] at h
  exact h

/-- **The rows of a tree whose nodes are numbered depth first.** -/
theorem rowsFor_eq (t : Tree α) (seen : Data) :
    rowsFor ⟨t.nodes 0, seen⟩ ((t.nodes 0).map fun n => feature n.feature) (t.readings.map fun r => outcome r.seen) =
      .ok (t.rows outcome feature 0 0) := by
  have hlies : t.LiesAt 0 (t.nodes 0) := ⟨[], [], by simp, rfl⟩
  have hreach : descend (t.nodes 0) (t.nodes 0).length 0 0 = .ok (t.reach 0 0) :=
    descend_eq t 0 hlies (Nat.le_of_eq (length_nodes t 0).symm)
  have hdepth : ∀ x ∈ t.reach 0 0, depthOf (t.reach 0 0) x.1 = some x.2 :=
    fun x hx => depthOf_of_mem (t.reach_nodup 0 0) hx
  rw [rowsFor, hreach, ← rows_eq outcome feature t 0 0 hdepth]
  rfl

end Rows

end Tree

end RemoteSensing.DecisionTree
