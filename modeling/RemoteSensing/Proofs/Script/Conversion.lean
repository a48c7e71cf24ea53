import RemoteSensing.Proofs.Script.Opening
import RemoteSensing.Proofs.Script.Steps
import RemoteSensing.Script.Convert

/-!
A conversion line by line.
-/

namespace RemoteSensing.Script

open Line List
open Chars hiding trim

open RemoteSensing.Session (Tells)

variable {e : Fault} {l : Line} {i n : Nat} {o : Options} {p q : Progress}

def negated (l : Line) : Line :=
  match find? ['!'] l with
  | none => l
  | some i =>
    match (dense l)[i + 1]? with
    | some c => if c = '=' then l else replace l "!" "not "
    | none => l

theorem respellNegation_tells (l : Line) : ∃ t, Tells (respellNegation l) t (.ok (negated l)) := by
  unfold respellNegation negated dense
  cases find? ['!'] l with
  | none => exact ⟨_, Tells.pure l⟩
  | some i =>
    dsimp only
    cases (l.filter (· != ' '))[i + 1]? with
    | some c => exact ⟨_, Tells.pure _⟩
    | none => exact ⟨_, (Tells.print "continue...").bind (Tells.pure l)⟩

def spelled (o : Options) (l : Line) : Line := respellConcat (trimRight (negated (respell o.mapName l)))

/-- What is remembered, and the line, once the line is joined to the one above and what it prints is evaluated. -/
def evaluated (o : Options) (p : Progress) (l : Line) : Progress × Line :=
  evaluatePrinted (continueAssignment p (spelled o l)).1 (continueAssignment p (spelled o l)).2

def Progress.Unmoved (p q : Progress) : Prop := q.lines = p.lines ∧ q.output = p.output

theorem evaluatePrinted_unmoved (p : Progress) (l : Line) : p.Unmoved (evaluatePrinted p l).1 := by
  unfold evaluatePrinted
  split
  · split <;> exact ⟨rfl, rfl⟩
  · exact ⟨rfl, rfl⟩

theorem continueAssignment_unmoved (p : Progress) (l : Line) : p.Unmoved (continueAssignment p l).1 := by
  have hpair : ∀ (c : Bool) (q q' : Progress) (x x' : Line), p.Unmoved q → p.Unmoved q' →
      p.Unmoved (if c then (q, x) else (q', x') : Progress × Line).1 := by
    intro c q q' x x' hq hq'
    cases c
    · exact hq'
    · exact hq
  have hsame : p.Unmoved p := ⟨rfl, rfl⟩
  rw [continueAssignment]
  dsimp only
  split
  · split
    · split <;> exact hpair _ _ _ _ _ hsame hsame
    · exact hpair _ _ _ _ _ hsame hsame
  · exact hpair _ _ _ _ _ hsame hsame

theorem evaluated_unmoved (o : Options) (p : Progress) (l : Line) : p.Unmoved (evaluated o p l).1 := by
  have hcontinue := continueAssignment_unmoved p (spelled o l)
  have hprint := evaluatePrinted_unmoved (continueAssignment p (spelled o l)).1 (continueAssignment p (spelled o l)).2
  exact ⟨hprint.1.trans hcontinue.1, hprint.2.trans hcontinue.2⟩

theorem head?_positions (c : Char) (l : Line) : (positions [c] l).head? = find? [c] l := by
  suffices h : ∀ i, (positionsFrom [c] i 0 l).head? = findAt [c] i l from h 0
  intro i
  induction l generalizing i with
  | nil => rfl
  | cons x r ih =>
    rw [positionsFrom, findAt]
    split
    · rfl
    · exact ih (i + 1)

def seeksKeys (l : Line) : Bool :=
  l.contains ':' && !starts (trim l) "#" && !starts (trim l) "def" && !starts (trim l) "." &&
    !starts (trim l) "if" && !starts (trim l) "for"

/-- Where the keys start: behind the first brace, if it comes before the first colon. -/
def keyStart (l : Line) : Nat :=
  match find? ['\x7b'] l with
  | some b => if b < (find? [':'] l).getD 0 then b + 1 else 0
  | none => 0

def requoted (l : Line) : Line := join [':'] (quoteParts (split [':'] l))

/-- The line with its keys quoted. -/
def withKeys (l : Line) : Line := l.take (keyStart l) ++ requoted (l.drop (keyStart l))

theorem quoteKeys_eq (hcolon : ':' ∈ l) : quoteKeys [':'] l = .ok (if starts (trim l) "for" then l else withKeys l) := by
  rw [quoteKeys]
  cases starts (trim l) "for" with
  | true => rfl
  | false =>
    obtain ⟨first, hfirst⟩ := Option.ne_none_iff_exists'.mp (mt find?_eq_none_iff.mp (not_not.mpr hcolon))
    obtain ⟨rest, hpositions⟩ := head?_eq_some_iff.mp ((head?_positions _ _).trans hfirst)
    rw [hpositions, withKeys, keyStart, hfirst]
    rfl

theorem quoteKeysOf_cases (l : Line) : quoteKeysOf l = .ok (if seeksKeys l then withKeys l else l) := by
  unfold quoteKeysOf seeksKeys
  dsimp only
  cases hcond : l.contains ':' && !starts (trim l) "#" && !starts (trim l) "def" &&
      !starts (trim l) "." && !starts (trim l) "if" with
  | false => rfl
  | true =>
    have hcolon : ':' ∈ l := by
      simp only [Bool.and_eq_true, contains_iff_mem] at hcond
      exact hcond.1.1.1.1
    rw [if_pos rfl, Bool.true_and, quoteKeys_eq hcolon]
    cases starts (trim l) "for" <;> rfl

def keysQuoted (l : Line) : Line :=
  match quoteKeysOf l with
  | .ok l' => l'
  | .error _ => l

theorem keysQuoted_eq (l : Line) : keysQuoted l = if seeksKeys l then withKeys l else l := by
  rw [keysQuoted, quoteKeysOf_cases]

theorem quoteKeysOf_eq (l : Line) : quoteKeysOf l = .ok (keysQuoted l) := by
  rw [keysQuoted_eq, quoteKeysOf_cases]

def settled (p : Progress) (i : Nat) (l : Line) : Progress :=
  let q := nameArguments p l
  let p := countLiterals q.1 q.2
  putOut p i (dropRemark (dropChainRemark p.lines i (keysQuoted (starRemark (endLine q.2)))))

def finished (o : Options) (p : Progress) (i : Nat) (l : Line) : Except Fault Progress :=
  (dropComma p.lines i (evaluated o p l).2).map (settled (evaluated o p l).1 i)

theorem finishLine_tells (o : Options) (p : Progress) (i : Nat) (l : Line) :
    ∃ t, Tells (finishLine o p i l) t (finished o p i l) := by
  obtain ⟨t, ht⟩ := respellNegation_tells (respell o.mapName l)
  -- behind the negations, nothing is printed
  let settle (q : Progress) (m : Line) : Session Progress := do
    let k ← quoteKeysOf (starRemark (endLine (nameArguments q m).2))
    let q := countLiterals (nameArguments q m).1 (nameArguments q m).2
    pure (putOut q i (dropRemark (dropChainRemark q.lines i k)))
  have hsettle : ∀ q m, Tells (settle q m) "" (.ok (settled q i m)) := by
    intro q m
    unfold settle
    rw [quoteKeysOf_eq]
    exact Tells.liftM_bind (Tells.pure _)
  have hrest : Tells (liftM (dropComma (evaluated o p l).1.lines i (evaluated o p l).2) >>= settle (evaluated o p l).1) ""
      (finished o p i l) := by
    rw [finished, (evaluated_unmoved o p l).1]
    cases hcomma : dropComma p.lines i (evaluated o p l).2 with
    | error e => exact (Tells.liftM (.error e)).bind_error
    | ok m => exact Tells.liftM_bind (hsettle _ m)
  refine ⟨t ++ "", ?_⟩
  refine ht.bind ?_
  exact hrest

theorem dropComma_error_iff {lines : List Line} :
    dropComma lines i l = .error e ↔ ends l "," = true ∧ lines.length ≤ i + 1 ∧ e = .outOfRange "list" := by
  rw [dropComma, ← Value.elementAt_eq_error]
  cases hcomma : ends l "," with
  | false => exact ⟨nofun, nofun⟩
  | true => exact bind_eq_error.trans ((or_iff_left (by rintro ⟨below, -, h⟩; cases h)).trans (and_iff_right rfl).symm)

theorem finished_error_iff :
    finished o p i l = .error e ↔
      ends (evaluated o p l).2 "," = true ∧ p.lines.length ≤ i + 1 ∧ e = .outOfRange "list" := by
  rw [finished, map_eq_error, dropComma_error_iff]

theorem nameArguments_unmoved (p : Progress) (l : Line) : p.Unmoved (nameArguments p l).1 := by
  unfold nameArguments
  dsimp only
  split
  all_goals
    split
    · split
      · exact ⟨rfl, rfl⟩
      · split <;> exact ⟨rfl, rfl⟩
    · exact ⟨rfl, rfl⟩

theorem countLiterals_unmoved (p : Progress) (l : Line) : p.Unmoved (countLiterals p l) := by
  unfold countLiterals
  dsimp only
  split
  all_goals split <;> exact ⟨rfl, rfl⟩

theorem length_putOut (p : Progress) (i : Nat) (l : Line) : (putOut p i l).lines.length = p.lines.length := by
  unfold putOut
  split
  · dsimp only
    split
    · exact length_setLine _ _ _
    · rfl
  · rfl

theorem length_finished (h : finished o p i l = .ok q) : q.lines.length = p.lines.length := by
  obtain ⟨m, -, rfl⟩ := map_eq_ok.mp h
  rw [settled, length_putOut, (countLiterals_unmoved _ _).1, (nameArguments_unmoved _ _).1, (evaluated_unmoved _ _ _).1]

def opened (p : Progress) (i : Nat) (l : Line) : Except Fault (Option Reading) :=
  if opensFunction l then .ok (openFunction ⟨p.lines, l, p.depth⟩ i).toOption
  else if l.contains '\x7b' && !has l "(\x7b" then (openBlock ⟨p.lines, l, p.depth⟩ i).map some
  else .ok (some ⟨p.lines, l, p.depth⟩)

def unclosedReport (path : String) (i : Nat) (l : Line) : String := unclosed path i l ++ "\n"

/-- A function without a brace: the line opens a function that cannot be opened. -/
def Unopened (p : Progress) (i : Nat) (l : Line) : Prop := opensFunction l = true ∧ Braceless p.lines i l

theorem openLine_tells (path : String) (p : Progress) (i : Nat) (l : Line) :
    ∃ t, Tells (openLine path p i l) t (opened p i l) ∧ (opened p i l = .ok none → t = unclosedReport path i l) := by
  unfold openLine opened
  cases hfunction : opensFunction l with
  | true =>
    rw [if_pos rfl, if_pos rfl]
    cases hopen : openFunction ⟨p.lines, l, p.depth⟩ i with
    | ok r => exact ⟨"", Tells.pure (some r), nofun⟩
    | error e =>
      have hreport : Tells (Session.print (unclosed path i l)) (unclosedReport path i l) (.ok ()) := Tells.print _
      exact ⟨unclosedReport path i l, hreport.bind_pure rfl, fun _ => rfl⟩
  | false =>
    simp only [Bool.false_eq_true, if_false]
    cases l.contains '\x7b' && !has l "(\x7b" with
    | false => exact ⟨"", Tells.pure _, nofun⟩
    | true =>
      rw [if_pos rfl, if_pos rfl]
      cases hblock : openBlock ⟨p.lines, l, p.depth⟩ i with
      | error e => exact ⟨"", (Tells.liftM (.error e)).bind_error, nofun⟩
      | ok r => exact ⟨"", Tells.liftM_bind (Tells.pure (some r)), nofun⟩

section Opened

variable {p : Progress} {i : Nat} {l : Line}

theorem opened_none_iff (hi : i < p.lines.length) : opened p i l = .ok none ↔ Unopened p i l := by
  have hfails := openFunction_fails_iff (r := ⟨p.lines, l, p.depth⟩) hi
  rw [opened, Unopened, ← hfails]
  cases opensFunction l with
  | true => cases openFunction ⟨p.lines, l, p.depth⟩ i <;> simp [Except.toOption]
  | false =>
    rw [if_neg (by decide)]
    refine ⟨fun h => ?_, nofun⟩
    split at h
    · obtain ⟨r, -, hr⟩ := map_eq_ok.mp h
      cases hr
    · cases h

theorem opened_error_iff (hi : i < p.lines.length) :
    opened p i l = .error e ↔ opensFunction l = false ∧ '\x7b' ∈ l ∧ has l "(\x7b" = false ∧ BlockFault p.lines i l e := by
  rw [opened]
  cases opensFunction l with
  | true => exact ⟨nofun, nofun⟩
  | false =>
    rw [if_neg (by decide), and_iff_right rfl]
    by_cases hbrace : '\x7b' ∈ l
    · rw [and_iff_right hbrace, ← openBlock_error_iff (r := ⟨p.lines, l, p.depth⟩) hi hbrace]
      cases has l "(\x7b" with
      | true =>
        rw [if_neg (by simp)]
        exact ⟨nofun, nofun⟩
      | false => rw [if_pos (by simp [hbrace]), map_eq_error, and_iff_right rfl]
    · rw [if_neg (by simp [hbrace])]
      exact ⟨nofun, fun h => absurd h.1 hbrace⟩

theorem length_opened {r : Reading} (h : opened p i l = .ok (some r)) : r.lines.length = p.lines.length := by
  unfold opened at h
  split at h
  · cases hopen : openFunction ⟨p.lines, l, p.depth⟩ i with
    | error e =>
      rw [hopen] at h
      cases h
    | ok r' =>
      rw [hopen] at h
      cases h
      exact (openFunction_eq_ok hopen).1
  · split at h
    · obtain ⟨r', hopen, hr'⟩ := map_eq_ok.mp h
      cases hr'
      exact (openBlock_eq_ok hopen).1
    · cases h
      rfl

end Opened

/-- What becomes of the conversion on line `i`: it goes on, or it ends without a result. -/
def lineStep (o : Options) (p : Progress) (i : Nat) : Except Fault (Option Progress) :=
  match opened p i (bare (p.lines.getD i [])) with
  | .error e => .error e
  | .ok none => .ok none
  | .ok (some r) => (finished o { p with lines := r.lines, depth := r.depth } i r.line).map some

theorem convertLine_tells (o : Options) (path : String) (p : Progress) (i : Nat) :
    ∃ t, Tells (convertLine o path p i) t (lineStep o p i) ∧
      (lineStep o p i = .ok none → t = unclosedReport path i (bare (p.lines.getD i []))) := by
  obtain ⟨t, htells, hreport⟩ := openLine_tells path p i (bare (p.lines.getD i []))
  -- the line is opened, and what comes next depends on whether it could be
  obtain ⟨next, hcall, hnone, hsome⟩ : ∃ next : Option Reading → Session (Option Progress),
      convertLine o path p i = (do
        let l ← dropColourRemark (if has (lineAt p.lines i) "Map.setOptions" then dropOptions 0 (lineAt p.lines i)
          else lineAt p.lines i)
        openLine path p i l >>= next) ∧
      next none = pure none ∧ ∀ r, next (some r) = (do
        pure (some (← finishLine o { p with lines := r.lines, depth := r.depth } i r.line))) := ⟨_, rfl, rfl, fun _ => rfl⟩
  have hopen {u : String} {r : Except Fault (Option Progress)}
      (h : Tells (openLine path p i (bare (p.lines.getD i [])) >>= next) u r) : Tells (convertLine o path p i) u r := by
    rw [hcall, lineAt_natCast, dropColourRemark_eq]
    exact Tells.liftM_bind h
  unfold lineStep
  cases hopened : opened p i (bare (p.lines.getD i [])) with
  | error e =>
    rw [hopened] at htells
    exact ⟨t, hopen htells.bind_error, nofun⟩
  | ok found =>
    rw [hopened] at htells hreport
    cases found with
    | none =>
      exact ⟨t, hopen (htells.bind_pure hnone), fun _ => hreport rfl⟩
    | some r =>
      obtain ⟨u, hu⟩ := finishLine_tells o { p with lines := r.lines, depth := r.depth } i r.line
      dsimp only
      cases hfinished : finished o { p with lines := r.lines, depth := r.depth } i r.line with
      | error e =>
        rw [hfinished] at hu
        exact ⟨t ++ u, hopen (htells.bind (by rw [hsome]; exact hu.bind_error)), nofun⟩
      | ok q =>
        rw [hfinished] at hu
        exact ⟨t ++ (u ++ ""), hopen (htells.bind (by rw [hsome]; exact hu.bind (Tells.pure _))), nofun⟩

/-- Why the conversion fails on line `i`. -/
inductive Snag (o : Options) (p : Progress) (i : Nat) : Fault → Prop where
  | block {e : Fault} (hfunction : opensFunction (bare (p.lines.getD i [])) = false)
      (hbrace : '\x7b' ∈ bare (p.lines.getD i [])) (hcall : has (bare (p.lines.getD i [])) "(\x7b" = false)
      (hfault : BlockFault p.lines i (bare (p.lines.getD i [])) e) : Snag o p i e
  | comma {r : Reading} (hopen : opened p i (bare (p.lines.getD i [])) = .ok (some r))
      (hlast : i + 1 = p.lines.length)
      (hcomma : ends (evaluated o { p with lines := r.lines, depth := r.depth } r.line).2 "," = true) :
      Snag o p i (.outOfRange "list")

section Step

variable {o : Options} {p : Progress} {i : Nat}

theorem lineStep_eq_some : lineStep o p i = .ok (some q) ↔ ∃ r, opened p i (bare (p.lines.getD i [])) = .ok (some r) ∧
    finished o { p with lines := r.lines, depth := r.depth } i r.line = .ok q := by
  rw [lineStep]
  rcases opened p i (bare (p.lines.getD i [])) with e | _ | r <;> simp [map_eq_ok]

theorem lineStep_eq_error : lineStep o p i = .error e ↔ opened p i (bare (p.lines.getD i [])) = .error e ∨
    ∃ r, opened p i (bare (p.lines.getD i [])) = .ok (some r) ∧
      finished o { p with lines := r.lines, depth := r.depth } i r.line = .error e := by
  rw [lineStep]
  rcases opened p i (bare (p.lines.getD i [])) with e | _ | r <;> simp [map_eq_error]

/-- **When the conversion of a line fails.** -/
theorem lineStep_error_iff (hi : i < p.lines.length) : lineStep o p i = .error e ↔ Snag o p i e := by
  rw [lineStep_eq_error, opened_error_iff hi]
  simp only [finished_error_iff]
  constructor
  · rintro (⟨hfunction, hbrace, hcall, hfault⟩ | ⟨r, hopen, hcomma, hlast, rfl⟩)
    · exact .block hfunction hbrace hcall hfault
    · rw [length_opened hopen] at hlast
      exact .comma hopen (by omega) hcomma
  · rintro (⟨hfunction, hbrace, hcall, hfault⟩ | ⟨hopen, hlast, hcomma⟩)
    · exact .inl ⟨hfunction, hbrace, hcall, hfault⟩
    · exact .inr ⟨_, hopen, hcomma, by rw [length_opened hopen]; omega, rfl⟩

/-- **When the conversion ends without a result on a line.** -/
theorem lineStep_none_iff (hi : i < p.lines.length) :
    lineStep o p i = .ok none ↔ Unopened p i (bare (p.lines.getD i [])) := by
  rw [← opened_none_iff hi, lineStep]
  rcases opened p i (bare (p.lines.getD i [])) with e | _ | r <;> simp [map_eq_ok]

theorem length_lineStep (h : lineStep o p i = .ok (some q)) : q.lines.length = p.lines.length := by
  obtain ⟨r, hopen, hrun⟩ := lineStep_eq_some.mp h
  exact (length_finished hrun).trans (length_opened hopen)

end Step

def reached (o : Options) (start : Progress) : Nat → Except Fault (Option Progress)
  | 0 => .ok (some start)
  | n + 1 =>
    match reached o start n with
    | .ok (some p) => lineStep o p n
    | r => r

section Run

variable {o : Options} {start : Progress}

theorem reached_succ_of_some (h : reached o start n = .ok (some p)) : reached o start (n + 1) = lineStep o p n := by
  rw [reached, h]

theorem reached_succ_eq_some : reached o start (n + 1) = .ok (some q) ↔
    ∃ p, reached o start n = .ok (some p) ∧ lineStep o p n = .ok (some q) := by
  rw [reached]
  rcases reached o start n with e | _ | p <;> simp

/-- **What every step keeps is kept by a run.** -/
theorem reached_keeps {P : Progress → Prop} (hstep : ∀ {i p q}, P p → lineStep o p i = .ok (some q) → P q)
    (hn : reached o start n = .ok (some p)) (hp : P p) {k : Nat} (hk : n ≤ k) (hq : reached o start k = .ok (some q)) : P q := by
  induction k, hk using Nat.le_induction generalizing q with
  | base =>
    rw [hn] at hq
    cases hq
    exact hp
  | succ k _ ih =>
    obtain ⟨p', hbefore, hline⟩ := reached_succ_eq_some.mp hq
    exact hstep (ih hbefore) hline

theorem reached_of_le {k : Nat} (hk : n ≤ k) (h : reached o start k = .ok (some q)) :
    ∃ p, reached o start n = .ok (some p) := by
  induction k, hk using Nat.le_induction generalizing q with
  | base => exact ⟨q, h⟩
  | succ k _ ih =>
    obtain ⟨p, hbefore, -⟩ := reached_succ_eq_some.mp h
    exact ih hbefore

theorem length_reached (h : reached o start n = .ok (some p)) : p.lines.length = start.lines.length :=
  reached_keeps (P := fun p => p.lines.length = start.lines.length) (fun hp h => (length_lineStep h).trans hp) rfl rfl
    (Nat.zero_le n) h

/-- A run ends early on a line that is reached. -/
theorem reached_eq_iff {r : Except Fault (Option Progress)} (hr : ∀ p, r ≠ .ok (some p)) {P : Nat → Progress → Prop}
    (hstep : ∀ {i p}, i < p.lines.length → (lineStep o p i = r ↔ P i p)) (hn : n ≤ start.lines.length) :
    reached o start n = r ↔ ∃ i p, i < n ∧ reached o start i = .ok (some p) ∧ P i p := by
  induction n with
  | zero =>
    refine ⟨fun h => absurd h.symm (hr start), ?_⟩
    rintro ⟨i, p, hi, -⟩
    exact absurd hi (by omega)
  | succ n ih =>
    have ih := ih (by omega)
    rcases hbefore : reached o start n with e | _ | p
    case ok.some =>
      -- the run goes on, so no line above is the last one
      rw [reached_succ_of_some hbefore, hstep (by rw [length_reached hbefore]; omega)]
      refine ⟨fun h => ⟨n, p, by omega, hbefore, h⟩, ?_⟩
      rintro ⟨i, p', hi, hreached, h⟩
      rcases Nat.lt_or_ge i n with hlt | hge
      · exact absurd (hbefore.symm.trans (ih.mpr ⟨i, p', hlt, hreached, h⟩)).symm (hr p)
      · obtain rfl : i = n := by omega
        rw [hbefore] at hreached
        cases hreached
        exact h
    all_goals
      have hend : reached o start (n + 1) = reached o start n := by rw [reached, hbefore]
      rw [hend, ih]
      refine exists_congr fun i => exists_congr fun p => ⟨fun ⟨hi, h⟩ => ⟨by omega, h⟩,
        fun ⟨hi, hreached, h⟩ => ⟨?_, hreached, h⟩⟩
      by_contra hlt
      obtain rfl : i = n := by omega
      rw [hbefore] at hreached
      cases hreached

/-- **When the conversion of lines fails**: one of them is reached and has a snag. -/
theorem reached_error_iff (hn : n ≤ start.lines.length) :
    reached o start n = .error e ↔ ∃ i p, i < n ∧ reached o start i = .ok (some p) ∧ Snag o p i e :=
  reached_eq_iff (r := .error e) (fun _ => nofun) lineStep_error_iff hn

/-- **When the conversion of lines ends without a result**: one of them is reached and is a function without a brace. -/
theorem reached_none_iff (hn : n ≤ start.lines.length) :
    reached o start n = .ok none ↔
      ∃ i p, i < n ∧ reached o start i = .ok (some p) ∧ Unopened p i (bare (p.lines.getD i [])) :=
  reached_eq_iff (r := .ok none) (fun _ => nofun) lineStep_none_iff hn

end Run

theorem convertLines_append (o : Options) (path : String) (is js : List Nat) (p : Progress) :
    convertLines o path (is ++ js) p = convertLines o path is p >>= fun r =>
      match r with
      | none => pure none
      | some q => convertLines o path js q := by
  induction is generalizing p with
  | nil => rfl
  | cons i is ih =>
    rw [cons_append, convertLines, convertLines, bind_assoc]
    refine congrArg (convertLine o path p i >>= ·) (funext fun r => ?_)
    cases r with
    | none => rfl
    | some q => exact ih q

/-- **A run over lines**: it goes as far as `reached` says, and a report is the last thing that it prints. -/
theorem convertLines_tells (o : Options) (path : String) (start : Progress) (n : Nat) :
    ∃ t, Tells (convertLines o path (range n) start) t (reached o start n) ∧
      (reached o start n = .ok none → ∃ i p u, i < n ∧ reached o start i = .ok (some p) ∧ lineStep o p i = .ok none ∧
        t = u ++ unclosedReport path i (bare (p.lines.getD i []))) := by
  induction n with
  | zero => exact ⟨"", Tells.pure _, nofun⟩
  | succ n ih =>
    obtain ⟨t, htells, hreport⟩ := ih
    rw [range_succ, convertLines_append]
    rcases hbefore : reached o start n with e | _ | p
    · rw [hbefore] at htells
      rw [reached, hbefore]
      exact ⟨t, htells.bind_error, nofun⟩
    · rw [hbefore] at htells hreport
      rw [reached, hbefore]
      obtain ⟨i, p, u, hi, hline⟩ := hreport rfl
      exact ⟨t, htells.bind_pure rfl, fun _ => ⟨i, p, u, by omega, hline⟩⟩
    · rw [hbefore] at htells
      rw [reached_succ_of_some hbefore]
      obtain ⟨u, hu, hlast⟩ := convertLine_tells o path p n
      have hsingle : Tells (convertLines o path [n] p) u (lineStep o p n) := by
        intro w
        rw [convertLines, Session.runIn_bind, hu w]
        rcases lineStep o p n with e | _ | q <;> rfl
      refine ⟨t ++ u, htells.bind hsingle, fun h => ⟨n, p, t, by omega, hbefore, h, ?_⟩⟩
      rw [hlast h]

end RemoteSensing.Script
