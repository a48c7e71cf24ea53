import RemoteSensing.Proofs.Script.Steps

/-!
Scripts in which no function has another one in its body.
-/

namespace RemoteSensing.Script

open List Piece

variable {whole : Bool} {body lines put rest : List Line} {ps : List Piece}

def steps (inner : List Line → Session (List Line)) (i k : Nat) (h : Hoisting) : Session Hoisting :=
  (range' i k).foldlM (hoistLine inner) h

theorem steps_succ (inner : List Line → Session (List Line)) (i k : Nat) (h : Hoisting) :
    steps inner i (k + 1) h = hoistLine inner h i >>= steps inner (i + 1) k := by
  rfl

theorem hoistWithin_succ (fuel : Nat) (lines : List Line) :
    hoistWithin (fuel + 1) lines =
      steps (hoistWithin fuel) 0 lines.length ⟨lines, [], 0⟩ >>= fun h => pure h.output := by
  rw [hoistWithin, range_eq_range']
  rfl

section Puts

variable {inner : List Line → Session (List Line)} {live : List Line} {l : Line} {P Q : List Line → Prop}
  {R : List Line → List Line → Prop}

/-- The lines are read to their end, whatever was read before, and what is put out for them is such that `P`. -/
def Puts (inner : List Line → Session (List Line)) (live : List Line) (P : List Line → Prop) : Prop :=
  ∀ before out d w, ∃ h w' put, (steps inner before.length live.length ⟨before ++ live, out, d⟩).runIn w = (.ok h, w') ∧
    h.output = out ++ put ∧ P put

/-- One line is read, and the lines that are left and what is put out for it are such that `R`. -/
def StepsTo (inner : List Line → Session (List Line)) (l : Line) (rest : List Line)
    (R : List Line → List Line → Prop) : Prop :=
  ∀ before out d w, ∃ x rest' put d' v, (hoistLine inner ⟨before ++ l :: rest, out, d⟩ before.length).runIn w =
    (.ok ⟨before ++ x :: rest', out ++ put, d'⟩, v) ∧ rest'.length = rest.length ∧ R rest' put

theorem Puts.nil (h : P []) : Puts inner [] P :=
  fun _ out _ w => ⟨_, w, [], rfl, (append_nil out).symm, h⟩

theorem Puts.mono (h : Puts inner live P) (hP : ∀ put, P put → Q put) : Puts inner live Q := by
  intro before out d w
  obtain ⟨g, w', put, hrun, hout, hput⟩ := h before out d w
  exact ⟨g, w', put, hrun, hout, hP put hput⟩

theorem StepsTo.puts (h : StepsTo inner l rest R)
    (hrest : ∀ rest' put, R rest' put → rest'.length = rest.length → Puts inner rest' fun put' => P (put ++ put')) :
    Puts inner (l :: rest) P := by
  intro before out d w
  obtain ⟨x, rest', put, d', v, hstep, hlen, hput⟩ := h before out d w
  obtain ⟨g, w', put', hrun, hout, hP⟩ := hrest rest' put hput hlen (before ++ [x]) (out ++ put) d' v
  refine ⟨g, w', put ++ put', ?_, by rw [hout, append_assoc], hP⟩
  rw [length_cons, steps_succ, Session.runIn_bind_of_ok hstep, ← hrun, ← hlen, length_append, length_singleton,
    append_assoc, singleton_append]

theorem Puts.runs {fuel : Nat} (h : Puts (hoistWithin fuel) live P) (w : World) :
    ∃ put w', (hoistWithin (fuel + 1) live).runIn w = (.ok put, w') ∧ P put := by
  obtain ⟨g, w', put, hrun, hout, hput⟩ := h [] [] 0 w
  refine ⟨put, w', ?_, hput⟩
  rw [hoistWithin_succ]
  show (steps (hoistWithin fuel) ([] : List Line).length live.length ⟨[] ++ live, [], 0⟩ >>= _).runIn w = _
  rw [Session.runIn_bind_of_ok hrun, hout]
  rfl

theorem Puts.plain (hlegible : Legible l) (hsteady : Steady (l :: rest)) (hl : passesFunction l = false)
    (h : Puts inner rest fun put => P (l :: put)) : Puts inner (l :: rest) P := by
  have hstep : StepsTo inner l rest fun rest' put => rest' = rest ∧ put = [l] := by
    intro before out d w
    refine ⟨l, rest, [l], d, w, ?_, rfl, rfl, rfl⟩
    rw [hoistLine_eq hlegible hsteady, if_neg (by simp [hl])]
    rfl
  refine hstep.puts ?_
  rintro _ _ ⟨rfl, rfl⟩ -
  exact h

theorem Puts.plains (hlines : ∀ l ∈ lines, Legible l ∧ passesFunction l = false) (hsteady : Steady (lines ++ rest))
    (h : Puts inner rest fun put => P (lines ++ put)) : Puts inner (lines ++ rest) P := by
  induction lines generalizing P with
  | nil => exact h
  | cons l lines ih =>
    obtain ⟨hlegible, hl⟩ := hlines l mem_cons_self
    exact .plain hlegible hsteady hl (ih (fun x hx => hlines x (mem_cons_of_mem l hx)) hsteady.2 h)

end Puts

theorem hoistWithin_plain (hlines : ∀ l ∈ lines, Legible l ∧ passesFunction l = false) (hsteady : Steady lines) (fuel : Nat)
    (w : World) : ∃ v, (hoistWithin fuel lines).runIn w = (.ok lines, v) := by
  cases fuel with
  | zero => exact ⟨w, rfl⟩
  | succ fuel =>
    have h : Puts (hoistWithin fuel) (lines ++ []) (· = lines) :=
      .plains hlines (by rwa [append_nil]) (.nil (append_nil lines))
    rw [append_nil] at h
    obtain ⟨put, v, hrun, rfl⟩ := h.runs w
    exact ⟨v, hrun⟩

theorem legible_nil : Legible [] := by
  intro s hs hpass
  exact absurd (suffix_nil.mp hs) (ne_nil_of_passesFunction hpass)

section

variable (fuel : Nat) {l last : Line} {body behind rest : List Line} {p : Nat}

/-- **A function that is closed on its own line** is put out with what stands up to the brace twice. -/
theorem stepsTo_oneLine (hlegible : Legible l) (hsteady : Steady (l :: rest)) (hl : passesFunction l = true)
    (hs : spanOf l rest = some (0, p)) :
    StepsTo (hoistWithin fuel) l rest fun rest' put => rest' = rest ∧ ∃ n, put = taken l n [] l (p + 1) := by
  intro before out d w
  obtain ⟨m, j, q, hcloses, hstep⟩ := hoistLine_function (hoistWithin fuel) hlegible hsteady hl before out d w
  obtain ⟨rfl, rfl, rfl⟩ := hcloses.span _ _ hs
  -- the lines up to the last one are none
  obtain ⟨v, hinner⟩ := hoistWithin_plain (forall_mem_nil _) trivial fuel { w with names := w.names + 1 }
  obtain ⟨moved, d', v', hmoved, hrun⟩ := hstep [] v hinner
  rw [take_nil, forall₂_nil_left_iff] at hmoved
  subst hmoved
  rw [takenOut, length_nil, if_pos (Nat.zero_le _), show blanked rest 0 = rest from blanked_append [] rest,
    getD_cons_zero, set_cons_zero] at hrun
  exact ⟨_, rest, _, d', v', hrun, rfl, rfl, w.names, rfl⟩

variable (hlegible : Legible l) (hsteady : Steady (l :: (body ++ last :: behind))) (hl : passesFunction l = true)
  (hs : spanOf l (body ++ last :: behind) = some (body.length + 1, p)) (hlast : '\x7d' ∈ last)
  (hbody : ∀ x ∈ body, Legible x ∧ passesFunction x = false)
include hlegible hsteady hl hs hlast hbody

/-- **A function with a plain body is taken out**: it leaves its place empty and what follows its last brace to be
read on. -/
theorem stepsTo_block :
    StepsTo (hoistWithin fuel) l (body ++ last :: behind) fun rest' put =>
      rest' = replicate body.length [] ++ readOn (last.drop (p + 1)) :: behind ∧
        ∃ n moved, Forall₂ Indented body moved ∧ put = taken l n moved last (p + 1) := by
  intro before out d w
  obtain ⟨m, j, q, hcloses, hstep⟩ := hoistLine_function (hoistWithin fuel) hlegible hsteady hl before out d w
  obtain ⟨rfl, rfl, rfl⟩ := hcloses.span _ _ hs
  rw [Nat.add_sub_cancel, take_left] at hstep
  -- the body has no function in it, so it is treated without a change
  obtain ⟨v, hinner⟩ := hoistWithin_plain hbody (hsteady.2.left hlast) fuel { w with names := w.names + 1 }
  obtain ⟨moved, d', v', hmoved, hrun⟩ := hstep body v hinner
  have hlen : (body ++ last :: behind).length = body.length + (behind.length + 1) := by
    rw [length_append, length_cons]
  have hget : (l :: (replicate body.length [] ++ last :: behind)).getD (body.length + 1) [] = last := by
    rw [getD_cons_succ, getD_eq_getElem?_getD, getElem?_append_right (by simp), length_replicate,
      Nat.sub_self]
    rfl
  have hset : ∀ x, (l :: (replicate body.length [] ++ last :: behind)).set (body.length + 1) x =
      l :: (replicate body.length [] ++ x :: behind) := by
    intro x
    rw [set_cons_succ, set_append_right _ _ (by simp), length_replicate, Nat.sub_self]
    rfl
  rw [hlen, take_of_length_le (by omega)] at hmoved
  rw [takenOut, if_pos (by omega), blanked_append, hget, hset] at hrun
  exact ⟨l, _, _, d', v', hrun, by simp, rfl, w.names, moved, hmoved, rfl⟩

/-- The steps on the blanked lines of a body put out blank lines. -/
theorem Puts.block {P Q : List Line → Prop} (h : Puts (hoistWithin fuel) (readOn (last.drop (p + 1)) :: behind) P)
    (hP : ∀ n moved put, Forall₂ Indented body moved → P put →
      Q (taken l n moved last (p + 1) ++ (replicate body.length [] ++ put))) :
    Puts (hoistWithin fuel) (l :: (body ++ last :: behind)) Q := by
  have hblank : ∀ x ∈ replicate body.length ([] : Line), Legible x ∧ passesFunction x = false := by
    intro x hx
    rw [eq_of_mem_replicate hx]
    exact ⟨legible_nil, by decide⟩
  have hleft : Steady (readOn (last.drop (p + 1)) :: behind) := hsteady.2.right.readOn (drop_suffix _ _)
  refine (stepsTo_block fuel hlegible hsteady hl hs hlast hbody).puts ?_
  rintro _ _ ⟨rfl, n, moved, hmoved, rfl⟩ -
  exact .plains hblank (hleft.blanked body.length) (h.mono fun put hput => hP n moved put hmoved hput)

end

theorem plain_of_any (h : body.any passesFunction = false) (hlegible : ∀ x ∈ body, Legible x) :
    ∀ x ∈ body, Legible x ∧ passesFunction x = false :=
  fun x hx => ⟨hlegible x hx, by simpa using any_eq_false.mp h x hx⟩

/-- The lines that are put out for pieces, up to the names that are given and the blanks in front of a body. -/
inductive Hoisted : List Piece → List Line → Prop where
  | nil : Hoisted [] []
  | plain {whole : Bool} {l : Line} {ps : List Piece} {put : List Line} (h : Hoisted ps put) :
    Hoisted (.plain whole l :: ps) (l :: put)
  | oneLine {l : Line} {p : Nat} {ps : List Piece} {put : List Line} (n : Nat) (h : Hoisted ps put) :
    Hoisted (.oneLine l p :: ps) (taken l n [] l (p + 1) ++ put)
  | block {l last : Line} {body moved : List Line} {p : Nat} {ps : List Piece} {put : List Line} (n : Nat)
    (hcarries : Carries l) (hlast : '\x7d' ∈ last.take (p + 1)) (hmoved : Forall₂ Indented body moved)
    (h : Hoisted ps put) :
    Hoisted (.block l body last p :: ps) (taken l n moved last (p + 1) ++ (replicate body.length [] ++ put))

/-- **A script without a function in the body of another** is put out piece by piece. -/
theorem Pieced.puts_flat (h : Pieced whole lines ps) (fuel : Nat) (hlegible : ∀ l ∈ lines, Legible l) (hsteady : Steady lines)
    (hflat : ∀ p ∈ ps, p.nests = false) (hsound : ∀ x, Piece.broken x ∉ ps) :
    Puts (hoistWithin fuel) lines (Hoisted ps) := by
  induction h with
  | nil => exact .nil .nil
  | @plain _ l _ _ hl _ ih =>
    refine .plain (hlegible l mem_cons_self) hsteady hl (Puts.mono ?_ fun put => .plain)
    exact ih (fun x hx => hlegible x (mem_cons_of_mem l hx)) hsteady.2 (fun p hp => hflat p (mem_cons_of_mem _ hp))
      (fun x hx => hsound x (mem_cons_of_mem _ hx))
  | @oneLine _ l _ _ p hl hs _ ih =>
    refine (stepsTo_oneLine fuel (hlegible l mem_cons_self) hsteady hl hs).puts ?_
    rintro _ _ ⟨rfl, n, rfl⟩ -
    refine Puts.mono ?_ fun put => .oneLine n
    exact ih (fun x hx => hlegible x (mem_cons_of_mem l hx)) hsteady.2 (fun p hp => hflat p (mem_cons_of_mem _ hp))
      (fun x hx => hsound x (mem_cons_of_mem _ hx))
  | @block _ l last body behind _ p hl hs hlast _ ih =>
    have hplain : body.any passesFunction = false := hflat _ mem_cons_self
    refine .block fuel (hlegible l mem_cons_self) hsteady hl hs (mem_of_mem_take hlast)
      (plain_of_any hplain fun x hx => hlegible x (by simp [hx])) ?_ fun n moved put hmoved =>
        .block n (hlegible l mem_cons_self l suffix_rfl hl) hlast hmoved
    exact ih (forall_readOn Legible.readOn hlegible p) (hsteady.2.right.readOn (drop_suffix _ _))
      (fun p hp => hflat p (mem_cons_of_mem _ hp)) (fun x hx => hsound x (mem_cons_of_mem _ hx))
  | @broken _ l => exact absurd mem_cons_self (hsound l)

/-- How often a character of a piece is put out twice: for a function that is closed on its own line, up to the
brace. -/
def Piece.surplus (c : Char) : Piece → Nat
  | .oneLine l p => (l.take (p + 1)).count c
  | _ => 0

/-- **The braces that are put out**: those of the pieces, and once more those of functions closed on their own line. -/
theorem Hoisted.tally_eq {c : Char} (hc : c = '\x7b' ∨ c = '\x7d') (h : Hoisted ps put) :
    tally c put = (ps.map (weight c)).sum + (ps.map (surplus c)).sum := by
  induction h with
  | nil => rfl
  | plain h ih =>
    rw [tally_cons, ih]
    simp only [map_cons, sum_cons, weight, surplus]
    omega
  | oneLine n h ih =>
    rw [tally_append, tally_taken hc, ih]
    simp only [map_cons, sum_cons, weight, surplus, tally_nil]
    omega
  | block n _ _ hmoved h ih =>
    rw [tally_append, tally_taken hc, tally_append, tally_replicate_nil, ih, tally_indented hc hmoved]
    simp only [map_cons, sum_cons, weight, surplus]
    omega

theorem Hoisted.outside_sublist (h : Hoisted ps put) : (outside ps).Sublist put := by
  induction h with
  | nil => exact .slnil
  | @plain whole l ps put h ih =>
    cases whole with
    | true => exact ih.cons_cons l
    | false => exact ih.cons l
  | oneLine n h ih => exact ih.trans (sublist_append_right _ _)
  | block n _ _ hmoved h ih =>
    exact (ih.trans (sublist_append_right _ _)).trans (sublist_append_right _ _)

theorem Pieced.sum_surplus_pos (h : Pieced whole lines ps) (hone : ∃ p ∈ ps, p.isOneLine = true) :
    0 < (ps.map (surplus '\x7b')).sum := by
  obtain ⟨x, hx, hone⟩ := hone
  match x, hone with
  | .oneLine l p, _ =>
    obtain ⟨_, _, _, hbrace⟩ := h.of_oneLine_mem (fun _ _ => trivial) (fun _ _ => trivial) hx
    rw [List.sum_pos_iff_exists_pos_nat]
    exact ⟨_, mem_map_of_mem hx, List.count_pos_iff.mpr hbrace⟩

theorem sum_surplus_eq_zero (h : ¬ ∃ p ∈ ps, p.isOneLine = true) (c : Char) : (ps.map (surplus c)).sum = 0 := by
  rw [List.sum_eq_zero_iff_forall_eq_nat]
  intro n hn
  obtain ⟨x, hx, rfl⟩ := List.mem_map.mp hn
  match x with
  | .oneLine l p => exact absurd ⟨_, hx, rfl⟩ h
  | .plain .. => rfl
  | .block .. => rfl
  | .broken .. => rfl

/-!
When taking the functions out of a script fails.
-/

open Session RemoteSensing.Session

/-- The line ends in the middle of a call, so that its function is looked for in the line below. -/
def Dangling (l : Line) : Prop :=
  Line.ends (Line.trim l) ".map(" = true ∨ Line.ends (Line.trim l) ".map(function(" = true

theorem goesOn_error_iff {lines : List Line} {i : Nat} {l : Line} {e : Fault} :
    goesOn lines i l = .error e ↔ Dangling l ∧ lines.length ≤ i + 1 ∧ e = .outOfRange "list" := by
  rw [goesOn, ← Value.elementAt_eq_error]
  by_cases hdangling : Dangling l
  · rw [if_neg (by simpa [Dangling, ← Bool.not_eq_true, or_iff_not_imp_left] using hdangling), and_iff_right hdangling]
    exact bind_eq_error.trans (or_iff_left (by rintro ⟨below, -, h⟩; cases h))
  · rw [if_pos (by simpa [Dangling, not_or] using hdangling)]
    exact iff_of_false (by rintro ⟨⟩) fun h => hdangling h.1

theorem length_moveBody (body : List Line) (h : Hoisting) (i : Nat) :
    (moveBody h i body).1.lines.length = h.lines.length := by
  induction body generalizing h i with
  | nil => rfl
  | cons l rest ih =>
    rw [moveBody]
    split
    · rw [ih]
      exact List.length_set
    · rfl

theorem length_closeBody (h : Hoisting) (head name : Line) (number position : Int) :
    (closeBody h head name number position).lines.length = h.lines.length := List.length_set

section TakeOut

variable (inner : List Line → Session (List Line)) (i : Nat) (l : Line) (h : Hoisting)

/-- **Taking a function out never fails**, and leaves as many lines as there were. -/
theorem takeOut_ends (w : World) :
    ∃ h' v, (takeOut inner i l h).runIn w = (.ok h', v) ∧ h'.lines.length = h.lines.length := by
  unfold takeOut
  dsimp only
  split
  · exact ⟨h, _, rfl, rfl⟩
  · rw [runIn_bind]
    show ∃ h' v, (tryCatch _ _ : Session Hoisting).runIn { w with names := w.names + 1 } = _ ∧ _
    rw [runIn_tryCatch, runIn_bind]
    -- the body is treated under the watch for faults
    rcases (inner _).runIn _ with ⟨e | body, v⟩
    · exact ⟨_, _, rfl, rfl⟩
    · dsimp only
      generalize hmove : moveBody _ (i + 1) body = m
      have hlength : m.1.lines.length = h.lines.length := by rw [← hmove, length_moveBody]
      obtain ⟨g, _ | _⟩ := m
      · exact ⟨g, _, rfl, hlength⟩
      · exact ⟨_, v, rfl, (length_closeBody _ _ _ _ _).trans hlength⟩

theorem takeOut_keepsDisk (hinner : ∀ lines, KeepsDisk (inner lines)) : KeepsDisk (takeOut inner i l h) := by
  have hreport : ∀ (cause : String) (g : Hoisting),
      KeepsDisk (reportFunction i l cause >>= fun _ => pure g : Session Hoisting) :=
    fun _ g => ((Tells.print _).bind (Tells.pure g)).keepsDisk
  unfold takeOut
  dsimp only
  split
  · exact hreport _ h
  · refine (freshName_keepsDisk 3).bind fun name => KeepsDisk.tryCatch ?_ (fun e => hreport _ _)
    refine (hinner _).bind fun body => ?_
    generalize moveBody _ (i + 1) body = m
    obtain ⟨g, _ | _⟩ := m
    · exact hreport _ g
    · exact (Tells.pure _).keepsDisk

/-- **When a step fails**: the line ends in the middle of a call, and there is no line below it. -/
theorem hoistLine_cases (hi : i < h.lines.length) (w : World) :
    (Dangling (h.lines.getD i []) ∧ i + 1 = h.lines.length ∧
        (hoistLine inner h i).runIn w = (.error (.outOfRange "list"), w)) ∨
      (¬ (Dangling (h.lines.getD i []) ∧ i + 1 = h.lines.length) ∧
        ∃ h' v, (hoistLine inner h i).runIn w = (.ok h', v) ∧ h'.lines.length = h.lines.length) := by
  unfold hoistLine
  rw [lineAt_natCast]
  dsimp only
  cases hon : goesOn h.lines i (h.lines.getD i []) with
  | error e =>
    obtain ⟨hdangling, hlast, rfl⟩ := goesOn_error_iff.mp hon
    exact Or.inl ⟨hdangling, by omega, rfl⟩
  | ok joined =>
    refine Or.inr ⟨?_, ?_⟩
    · rintro ⟨hdangling, hlast⟩
      rw [goesOn_error_iff.mpr ⟨hdangling, by omega, rfl⟩] at hon
      cases hon
    · rw [runIn_bind_of_ok (runIn_liftM (.ok joined) w)]
      cases joined with
      | true => exact ⟨_, w, rfl, List.length_set⟩
      | false =>
        cases passesFunction (h.lines.getD i []) with
        | true => exact takeOut_ends inner i _ h w
        | false => exact ⟨_, w, rfl, rfl⟩

theorem hoistLine_keepsDisk (hinner : ∀ lines, KeepsDisk (inner lines)) : KeepsDisk (hoistLine inner h i) := by
  refine (Tells.liftM _).keepsDisk.bind fun joined => ?_
  cases joined with
  | true => exact (Tells.pure _).keepsDisk
  | false =>
    cases passesFunction (lineAt h.lines i) with
    | true => exact takeOut_keepsDisk inner i _ h hinner
    | false => exact (Tells.pure _).keepsDisk

end TakeOut

theorem hoistWithin_keepsDisk (fuel : Nat) (lines : List Line) : KeepsDisk (hoistWithin fuel lines) := by
  induction fuel generalizing lines with
  | zero => exact (Tells.pure lines).keepsDisk
  | succ fuel ih =>
    refine KeepsDisk.bind (KeepsDisk.foldlM (fun h i => ?_) _ _) fun h => (Tells.pure h.output).keepsDisk
    exact hoistLine_keepsDisk (hoistWithin fuel) i h ih

theorem hoist_keepsDisk (lines : List Line) : KeepsDisk (hoist lines) := hoistWithin_keepsDisk _ lines

theorem steps_ends (inner : List Line → Session (List Line)) {i k : Nat} {h : Hoisting} (hk : i + k < h.lines.length)
    (w : World) :
    ∃ h' v, (steps inner i k h).runIn w = (.ok h', v) ∧ h'.lines.length = h.lines.length := by
  induction k generalizing i h w with
  | zero => exact ⟨h, w, rfl, rfl⟩
  | succ k ih =>
    rcases hoistLine_cases inner i h (by omega) w with ⟨-, hlast, -⟩ | ⟨-, h', v, hstep, hlength⟩
    · exact absurd hlast (by omega)
    · rw [steps_succ, runIn_bind_of_ok hstep]
      obtain ⟨h'', u, hrun, hlength'⟩ := ih (i := i + 1) (h := h') (by omega) v
      exact ⟨h'', u, hrun, hlength'.trans hlength⟩

theorem steps_add (inner : List Line → Session (List Line)) (i k m : Nat) (h : Hoisting) :
    steps inner i (k + m) h = steps inner i k h >>= steps inner (i + k) m := by
  rw [steps, List.range'_append_1.symm, List.foldlM_append]
  rfl

def CutOff (lines : List Line) (w : World) : Prop :=
  ∃ n h v, lines.length = n + 1 ∧ (steps (hoistWithin lines.length) 0 n ⟨lines, [], 0⟩).runIn w = (.ok h, v) ∧
    Dangling (h.lines.getD n [])

/-- **When taking the functions out fails**: the last line ends in the middle of a call. -/
theorem hoist_cases (lines : List Line) (w : World) :
    (CutOff lines w ∧ ∃ v, (hoist lines).runIn w = (.error (.outOfRange "list"), v)) ∨
      (¬ CutOff lines w ∧ ∃ hoisted v, (hoist lines).runIn w = (.ok hoisted, v)) := by
  rw [hoist, hoistWithin_succ]
  rcases hn : lines.length with _ | n
  · refine Or.inr ⟨?_, [], w, rfl⟩
    rintro ⟨n, -, -, hlength, -⟩
    exact absurd (hn.symm.trans hlength) (by simp)
  · obtain ⟨h, v, hrun, hlength⟩ :=
      steps_ends (hoistWithin (n + 1)) (i := 0) (k := n) (h := ⟨lines, [], 0⟩) (by dsimp only; omega) w
    have hcut : CutOff lines w ↔ Dangling (h.lines.getD n []) := by
      constructor
      · rintro ⟨m, g, u, hm, hg, hdangling⟩
        obtain rfl : m = n := by omega
        rw [hn, hrun] at hg
        cases hg
        exact hdangling
      · intro hdangling
        exact ⟨n, h, v, hn, by rw [hn]; exact hrun, hdangling⟩
    dsimp only at hlength
    rw [hcut, steps_add, Nat.zero_add, bind_assoc, runIn_bind_of_ok hrun, steps_succ, bind_assoc]
    rcases hoistLine_cases (hoistWithin (n + 1)) n h (by omega) v with
      ⟨hdangling, -, hstep⟩ | ⟨hnot, h', u, hstep, -⟩
    · exact Or.inl ⟨hdangling, v, runIn_bind_of_error hstep _⟩
    · refine Or.inr ⟨fun hdangling => hnot ⟨hdangling, by omega⟩, h'.output, u, ?_⟩
      rw [runIn_bind_of_ok hstep]
      rfl

end RemoteSensing.Script
