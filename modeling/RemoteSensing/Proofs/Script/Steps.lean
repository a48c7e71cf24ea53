import RemoteSensing.Proofs.Script.Pieces

/-!
One step of taking functions out of a script: what is put out for a function, and what is left of the lines behind it. All
that later modules need of a step is in `hoistLine_function`.
-/

namespace RemoteSensing.Script

open List Session
open Chars hiding trim

open RemoteSensing.Text (isBlank)
open Line (trim index ends indent)

variable {c : Char} {h : Hoisting} {number position : Int} {l : Line} {before rest : List Line}
  {inner : List Line → Session (List Line)}

def nameOf (n : Nat) : Line := "func_".toList ++ (String.ofList (lettersOf 3 n)).toList

theorem nameOf_eq (n : Nat) : nameOf n = "func_".toList ++ lettersOf 3 n :=
  congrArg ("func_".toList ++ ·) String.toList_ofList

def keyword (l : Line) : Nat := (find? "function".toList l).getD 0

def headOf (l name : Line) : Line :=
  replace "function".toList ("function ".toList ++ name) (l.drop (keyword l))

def callEnd (s : Line) : Line := if closesCall s then trim s else []

def useOf (l name rest : Line) : Line := trimRight (l.take (keyword l) ++ name) ++ rest

theorem letter_plain (n : Nat) : isBlank (letter n) = false ∧ letter n ≠ '\x7b' ∧ letter n ≠ '\x7d' := by
  have hall : ∀ k : Fin 26, isBlank (Char.ofNat (97 + k)) = false ∧ Char.ofNat (97 + k) ≠ '\x7b' ∧
    Char.ofNat (97 + k) ≠ '\x7d' := by decide
  exact hall ⟨n % 26, Nat.mod_lt n (by decide)⟩

theorem name_infix_headOf (h : Carries l) (n : Nat) : "func_".toList <:+: headOf l (nameOf n) := by
  obtain ⟨start, hstart⟩ := h.has
  obtain ⟨a, b, hl, ha⟩ := find?_eq_some hstart
  have hdrop : l.drop (keyword l) = "function".toList ++ b := by
    rw [keyword, hstart, hl, append_assoc]
    exact drop_left' ha
  have hname : "func_".toList <:+: "function ".toList ++ nameOf n :=
    (prefix_append _ _).isInfix.trans (suffix_append _ _).isInfix
  rw [headOf, hdrop]
  exact hname.trans (prefix_append _ _).isInfix

theorem name_infix_useOf (l : Line) (n : Nat) (rest : Line) : "func_".toList <:+: useOf l (nameOf n) rest := by
  have hname : nameOf n = "func_".toList ++ lettersOf 2 (n / 26) ++ [letter n] := by
    rw [nameOf_eq, lettersOf, append_assoc]
  have hinfix : "func_".toList <:+: l.take (keyword l) ++ nameOf n :=
    (prefix_append _ _).isInfix.trans (suffix_append _ _).isInfix
  have htrim : trimRight (l.take (keyword l) ++ nameOf n) = l.take (keyword l) ++ nameOf n := by
    rw [hname, ← append_assoc, trimRight_concat (letter_plain n).1]
  rw [useOf, htrim]
  exact hinfix.trans (prefix_append _ _).isInfix

theorem count_lettersOf (hc : c = '\x7b' ∨ c = '\x7d') (width n : Nat) : (lettersOf width n).count c = 0 := by
  induction width generalizing n with
  | zero => rfl
  | succ k ih =>
    have hletter := (letter_plain n).2
    rw [lettersOf, count_append, ih, Nat.zero_add]
    rcases hc with rfl | rfl <;> simp [hletter]

theorem count_nameOf (hc : c = '\x7b' ∨ c = '\x7d') (n : Nat) : (nameOf n).count c = 0 := by
  rw [nameOf_eq, count_append, count_lettersOf hc]
  rcases hc with rfl | rfl <;> decide

theorem count_headOf_useOf (hc : c = '\x7b' ∨ c = '\x7d') (l : Line) (n : Nat) (rest : Line) :
    (headOf l (nameOf n)).count c + (useOf l (nameOf n) rest).count c = l.count c + rest.count c := by
  have hname := count_nameOf hc n
  have hold : "function".toList.count c = 0 := by
    rcases hc with rfl | rfl <;> decide
  have hnew : ("function ".toList ++ nameOf n).count c = 0 := by
    rw [count_append, hname]
    rcases hc with rfl | rfl <;> decide
  have hl : l.count c = (l.take (keyword l)).count c + (l.drop (keyword l)).count c := by
    rw [← count_append, take_append_drop]
  rw [headOf, count_replace (by decide) hold hnew, useOf, count_append,
    count_trimRight (isBlank_brace hc), count_append, hname]
  omega

theorem count_callEnd (hc : c = '\x7b' ∨ c = '\x7d') (s : Line) : (callEnd s).count c = 0 := by
  unfold callEnd
  split
  · rename_i h
    rw [← count_of_closesCall hc h]
    exact count_trim (isBlank_brace hc) s
  · rfl

/-- The lines of a function that is taken out: a line feed, the head with the name, the body, the `q` characters of the
last line that belong to the function, and the expression that it was part of. -/
def taken (l : Line) (n : Nat) (moved : List Line) (last : Line) (q : Nat) : List Line :=
  "\n".toList :: headOf l (nameOf n) :: (moved ++ [last.take q, useOf l (nameOf n) (callEnd (last.drop q))])

theorem tally_taken (hc : c = '\x7b' ∨ c = '\x7d') (l : Line) (n : Nat) (moved : List Line) (last : Line) (q : Nat) :
    tally c (taken l n moved last q) = l.count c + tally c moved + (last.take q).count c := by
  have hparts := count_headOf_useOf hc l n (callEnd (last.drop q))
  have hfeed : "\n".toList.count c = 0 := by
    rcases hc with rfl | rfl <;> decide
  rw [count_callEnd hc, Nat.add_zero] at hparts
  rw [taken, tally_cons, tally_cons, tally_append, tally_cons, tally_cons, tally_nil, hfeed]
  omega

theorem suffix_of_ends {s : String} (h : ends (trim l) s = true) :
    ∃ v, (∀ c ∈ v, isBlank c = true) ∧ s.toList ++ v <:+ l := by
  obtain ⟨v, hv, hblank⟩ := trimRight_append (trimLeft l)
  obtain ⟨a, ha⟩ := isSuffixOf_iff_suffix.mp h
  have hleft : s.toList ++ v <:+ trimLeft l := ⟨a, by rw [← append_assoc, ha, hv]; rfl⟩
  exact ⟨v, hblank, hleft.trans (trimLeft_suffix l)⟩

theorem Legible.not_ends (h : Legible l) : ends (trim l) ".map(function(" = false := by
  rw [Bool.eq_false_iff]
  intro hends
  obtain ⟨v, hblank, hsuffix⟩ := suffix_of_ends hends
  have hfunction : "function(".toList ++ v <:+ l := IsSuffix.trans ⟨".map(".toList, rfl⟩ hsuffix
  have hmem := (h _ hfunction (passesFunction_append (by decide) v)).mem
  rcases mem_append.mp hmem with hmem | hmem
  · revert hmem
    decide
  · exact count_eq_zero.mp (count_blanks (Or.inl rfl) hblank) hmem

theorem goesOn_eq_false (hlegible : Legible l) (hsteady : Steady (l :: rest)) :
    goesOn (before ++ l :: rest) before.length l = .ok false := by
  rw [goesOn]
  simp only [hlegible.not_ends]
  cases hopens : ends (trim l) ".map(" with
  | false => rfl
  | true =>
    obtain ⟨v, hblank, hsuffix⟩ := suffix_of_ends hopens
    obtain ⟨next, hnext, hbegins, _⟩ := hsteady.1 (leavesOpen_of_suffix hsuffix hblank)
    obtain ⟨rest', rfl⟩ := head?_eq_some_iff.mp hnext
    have hget : (before ++ l :: next :: rest')[before.length + 1]? = some next := by simp
    have hbelow := Value.elementAt_natCast "list" hget
    rw [beginsFunction] at hbegins
    push_cast at hbelow
    simp only [hbelow]
    show Except.ok (_ && Line.starts (dense (trim next)) "function(" || _) = _
    rw [hbegins]
    rfl

theorem lineAt_append (before : List Line) (l : Line) (rest : List Line) :
    lineAt (before ++ l :: rest) before.length = l := by
  have hget : (before ++ l :: rest)[before.length]? = some l := by simp
  rw [lineAt, Value.elementAt_natCast "list" hget]

theorem hoistLine_eq {out : List Line} {d : Int} (hlegible : Legible l) (hsteady : Steady (l :: rest)) :
    hoistLine inner ⟨before ++ l :: rest, out, d⟩ before.length =
      if passesFunction l then takeOut inner before.length l ⟨before ++ l :: rest, out, d⟩
      else pure ⟨before ++ l :: rest, out ++ [l], d⟩ := by
  unfold hoistLine
  rw [lineAt_append]
  dsimp only
  rw [goesOn_eq_false hlegible hsteady]
  rfl

def Indented (l x : Line) : Prop := ∃ k, x = replicate k ' ' ++ l

theorem tally_indented (hc : c = '\x7b' ∨ c = '\x7d') {lines moved : List Line} (h : Forall₂ Indented lines moved) :
    tally c moved = tally c lines := by
  induction h with
  | nil => rfl
  | cons hx _ ih =>
    obtain ⟨k, rfl⟩ := hx
    have hzero : (replicate k ' ').count c = 0 := by
      rw [count_eq_zero]
      intro hmem
      have hspace := eq_of_mem_replicate hmem
      rcases hc with rfl | rfl <;> cases hspace
    rw [tally_cons, tally_cons, count_append, hzero, ih, Nat.zero_add]

/-- **What moving a body does.** Its lines are put out with blanks in front, as many as there are lines left and one
more. -/
theorem moveBody_spec (body : List Line) (h : Hoisting) (i : Nat) (hi : i ≤ h.lines.length) :
    (∃ moved, (moveBody h i body).1.output = h.output ++ moved ∧
      Forall₂ Indented (body.take (h.lines.length - i + 1)) moved) ∧
    (moveBody h i body).1.lines = h.lines.take i ++ replicate (min body.length (h.lines.length - i)) [] ++
      h.lines.drop (i + body.length) ∧
    (moveBody h i body).2 = decide (i + body.length ≤ h.lines.length) := by
  -- the lines are blanked out one by one, so the induction goes over all states and positions
  induction body generalizing h i with
  | nil =>
    refine ⟨⟨[], by simp [moveBody], by simp⟩, ?_, ?_⟩
    · simp [moveBody]
    · simpa [moveBody] using hi
  | cons l rest ih =>
    rw [moveBody]
    by_cases hlt : i < h.lines.length
    · simp only [if_pos hlt]
      have hset : (h.lines.set i []).length = h.lines.length := length_set
      obtain ⟨⟨moved, hout, hmoved⟩, hlines, hwhole⟩ :=
        ih ⟨h.lines.set i [], h.output ++ [indent l h.depth], h.depth + depthChange l⟩ (i + 1)
          (by rw [hset]; omega)
      simp only [hset] at hmoved hlines hwhole
      refine ⟨⟨indent l h.depth :: moved, ?_, ?_⟩, ?_, ?_⟩
      · rw [hout, append_assoc, singleton_append]
      · rw [show h.lines.length - i + 1 = h.lines.length - (i + 1) + 1 + 1 by omega, take_succ_cons]
        exact Forall₂.cons ⟨_, rfl⟩ hmoved
      · have htake : (h.lines.set i []).take (i + 1) = h.lines.take i ++ [[]] := by
          rw [set_eq_take_append_cons_drop, if_pos hlt, take_append,
            take_of_length_le (by rw [length_take]; omega), length_take, Nat.min_eq_left (by omega),
            Nat.add_sub_cancel_left]
          rfl
        have hmin : min (rest.length + 1) (h.lines.length - i) = min rest.length (h.lines.length - (i + 1)) + 1 := by
          omega
        rw [hlines, htake, drop_set_of_lt (by omega), length_cons, hmin, replicate_succ,
          show i + 1 + rest.length = i + (rest.length + 1) by omega]
        simp
      · rw [hwhole, length_cons]
        congr 1
        rw [eq_iff_iff]
        omega
    · -- there is no line left to blank out, but the line was put out before
      simp only [if_neg hlt]
      have hend : h.lines.length - i = 0 := by omega
      refine ⟨⟨[indent l h.depth], rfl, ?_⟩, ?_, ?_⟩
      · rw [hend, take_succ_cons]
        exact Forall₂.cons ⟨_, rfl⟩ (by simp)
      · rw [hend, Nat.min_zero, take_of_length_le (by omega), drop_eq_nil_of_le (by omega)]
        simp
      · rw [length_cons]
        symm
        rw [decide_eq_false_iff_not]
        omega

def Hoisting.opened (h : Hoisting) (l name : Line) : Hoisting :=
  { h with output := h.output ++ ["\n".toList, headOf l name], depth := h.depth + 1 }

theorem lineAt_natCast (lines : List Line) (n : Nat) : lineAt lines (n : Int) = lines.getD n [] := by
  cases hget : lines[n]? with
  | some l =>
    rw [lineAt, Value.elementAt_natCast "list" hget, getD_eq_getElem?_getD, hget]
    rfl
  | none =>
    have hnot : ¬ (n : Int) < 0 := by omega
    rw [lineAt, Value.elementAt, getD_eq_getElem?_getD, hget]
    simp only [if_neg hnot, Int.toNat_natCast, hget]
    rfl

/-- What is there once a function is closed on line `n`, of which the first `q` characters belong to it. -/
def Hoisting.closed (h : Hoisting) (head name : Line) (n q : Nat) : Hoisting where
  lines := h.lines.set n (readOn ((h.lines.getD n []).drop q))
  output := h.output ++ [(h.lines.getD n []).take q,
    trimRight (head ++ name) ++ callEnd ((h.lines.getD n []).drop q)]
  depth := h.depth - 1

theorem closeBody_eq {head name : Line} {n q : Nat} (hlast : lineAt h.lines number = h.lines.getD n [])
    (hset : ∀ x, setLine h.lines number x = h.lines.set n x) (hq : position + 1 = q) :
    closeBody h head name number position = h.closed head name n q := by
  unfold closeBody Hoisting.closed readOn callEnd closesCall
  rw [hlast, hq]
  dsimp only
  rw [hset, slice_to, slice_from]
  cases hcall : (trim ((h.lines.getD n []).drop q) == ")".toList ||
      trim ((h.lines.getD n []).drop q) == ");".toList) with
  | true => rfl
  | false =>
    simp only [Bool.false_eq_true, if_false, append_nil]

theorem closeBody_natCast (h : Hoisting) (head name : Line) (n p : Nat) :
    closeBody h head name n p = h.closed head name n (p + 1) := by
  refine closeBody_eq (lineAt_natCast h.lines n) ?_ (by push_cast; rfl)
  intro x
  rw [setLine, if_neg (by omega), Int.toNat_natCast]

theorem closeBody_unclosed (hne : h.lines ≠ []) (head name : Line) :
    closeBody h head name (-1) (-1) = h.closed head name (h.lines.length - 1) 0 := by
  have hlen : 0 < h.lines.length := length_pos_iff.mpr hne
  have hindex : (-1 : Int) + h.lines.length = ((h.lines.length - 1 : Nat) : Int) := by omega
  refine closeBody_eq ?_ ?_ rfl
  · have hsame : Value.elementAt "list" h.lines (-1) =
        Value.elementAt "list" h.lines ((h.lines.length - 1 : Nat) : Int) := by
      have hnot : ¬ ((h.lines.length - 1 : Nat) : Int) < 0 := by omega
      simp only [Value.elementAt, show (-1 : Int) < 0 from by decide, if_true, hindex, if_neg hnot]
    rw [← lineAt_natCast, lineAt, hsame, lineAt]
  · intro x
    rw [setLine, if_pos (by decide), hindex, Int.toNat_natCast]

theorem linesBetween_head (before : List Line) (l : Line) (rest : List Line) (number : Int) :
    linesBetween (before ++ l :: rest) (before.length + 1) number =
      rest.take (clamp (before ++ l :: rest).length number - (before.length + 1)) := by
  rw [linesBetween, drop_take, drop_append, drop_eq_nil_of_le (by omega), Nat.add_sub_cancel_left]
  rfl

theorem linesBetween_natCast (before : List Line) (l : Line) (rest : List Line) (k : Nat) (hk : k ≤ rest.length + 1) :
    linesBetween (before ++ l :: rest) (before.length + 1) (before.length + k : Nat) = rest.take (k - 1) := by
  have hnot : ¬ ((before.length + k : Nat) : Int) < 0 := by omega
  rw [linesBetween_head, clamp, if_neg hnot, Int.toNat_natCast, length_append, length_cons,
    Nat.min_eq_left (by omega), show before.length + k - (before.length + 1) = k - 1 by omega]

def blanked (lines : List Line) (n : Nat) : List Line := replicate (min n lines.length) [] ++ lines.drop n

@[simp] theorem length_blanked (lines : List Line) (n : Nat) : (blanked lines n).length = lines.length := by
  rw [blanked, length_append, length_replicate, length_drop]
  omega

theorem blanked_append (body rest : List Line) :
    blanked (body ++ rest) body.length = replicate body.length [] ++ rest := by
  rw [blanked, length_append, Nat.min_eq_left (by omega), drop_left]

section

variable (before rest body out : List Line) (l : Line) (d : Int)

theorem moveBody_opened (name : Line) :
    (∃ moved, (moveBody ((⟨before ++ l :: rest, out, d⟩ : Hoisting).opened l name) (before.length + 1) body).1.output =
        out ++ "\n".toList :: headOf l name :: moved ∧ Forall₂ Indented (body.take (rest.length + 1)) moved) ∧
    (moveBody ((⟨before ++ l :: rest, out, d⟩ : Hoisting).opened l name) (before.length + 1) body).1.lines =
      before ++ l :: blanked rest body.length ∧
    (moveBody ((⟨before ++ l :: rest, out, d⟩ : Hoisting).opened l name) (before.length + 1) body).2 =
      decide (body.length ≤ rest.length) := by
  have hlen : (before ++ l :: rest).length = before.length + 1 + rest.length := by
    rw [length_append, length_cons]
    omega
  have htake : (before ++ l :: rest).take (before.length + 1) = before ++ [l] := by
    rw [take_append, take_of_length_le (by omega), Nat.add_sub_cancel_left]
    rfl
  have hdrop : (before ++ l :: rest).drop (before.length + 1 + body.length) = rest.drop body.length := by
    rw [drop_append, drop_eq_nil_of_le (by omega),
      show before.length + 1 + body.length - before.length = body.length + 1 by omega]
    rfl
  obtain ⟨⟨moved, hout, hmoved⟩, hlines, hwhole⟩ := moveBody_spec body
    ((⟨before ++ l :: rest, out, d⟩ : Hoisting).opened l name) (before.length + 1)
    (by show before.length + 1 ≤ (before ++ l :: rest).length; omega)
  simp only [Hoisting.opened, hlen, htake, hdrop, Nat.add_sub_cancel_left] at hout hmoved hlines hwhole ⊢
  refine ⟨⟨moved, ?_, hmoved⟩, ?_, ?_⟩
  · rw [hout, append_assoc]
    rfl
  · rw [hlines, append_assoc, append_assoc]
    rfl
  · rw [hwhole]
    congr 1
    rw [eq_iff_iff]
    omega

theorem closed_append (head name : Line) (j q : Nat) :
    (⟨before ++ rest, out, d⟩ : Hoisting).closed head name (before.length + j) q =
      ⟨before ++ rest.set j (readOn ((rest.getD j []).drop q)),
        out ++ [(rest.getD j []).take q, trimRight (head ++ name) ++ callEnd ((rest.getD j []).drop q)],
        d - 1⟩ := by
  have hget : (before ++ rest).getD (before.length + j) [] = rest.getD j [] := by
    rw [getD_eq_getElem?_getD, getElem?_append_right (by omega), Nat.add_sub_cancel_left,
      getD_eq_getElem?_getD]
  rw [Hoisting.closed, hget]
  simp only [set_append_right, Nat.le_add_right, Nat.add_sub_cancel_left]

end

/-- What is there once a function is taken out, `moved` being put out for its body. What follows the body is put out if
there were lines enough. -/
def takenOut (before : List Line) (l : Line) (rest out : List Line) (n : Nat) (body moved : List Line) (j q : Nat) (d : Int) :
    Hoisting :=
  let lines := l :: blanked rest body.length
  if body.length ≤ rest.length then
    ⟨before ++ lines.set j (readOn ((lines.getD j []).drop q)), out ++ taken l n moved (lines.getD j []) q, d⟩
  else ⟨before ++ lines, out ++ "\n".toList :: headOf l (nameOf n) :: moved, d⟩

/-- **Taking a function out** of a legible line, with whatever is put out for its body. -/
theorem takeOut_eq {b j q : Nat} {w v : World} {body out : List Line} {d : Int} (hcarries : Carries l)
    (hb : find? ['\x7b'] l = some b) (hmatch : matchingBrace (before ++ l :: rest) before.length b = .ok (number, position))
    (hinner : (inner (linesBetween (before ++ l :: rest) (before.length + 1) number)).runIn
      { w with names := w.names + 1 } = (.ok body, v))
    (hclose : ∀ h : Hoisting, h.lines.length = before.length + (rest.length + 1) →
      ∀ head name, closeBody h head name number position = h.closed head name (before.length + j) q) :
    ∃ moved d' v', Forall₂ Indented (body.take (rest.length + 1)) moved ∧
      (takeOut inner before.length l ⟨before ++ l :: rest, out, d⟩).runIn w =
        (.ok (takenOut before l rest out w.names body moved j q d'), v') := by
  obtain ⟨start, hstart⟩ := hcarries.has
  have hkeyword : keyword l = start := by
    rw [keyword, hstart]
    rfl
  have hbrace : index l "\x7b" = .ok b := by
    have hfind : find? "\x7b".toList l = some b := hb
    rw [index, hfind]
  have hfunction : index l "function" = .ok start := by
    rw [index, hstart]
  obtain ⟨⟨moved, hout, hmoved⟩, hlines, hwhole⟩ := moveBody_opened before rest body out l d (nameOf w.names)
  -- the name is drawn, and then the body is treated and moved under the watch for faults
  have hstep : (takeOut inner before.length l ⟨before ++ l :: rest, out, d⟩).runIn w = (tryCatch (do
      let body ← inner (linesBetween (before ++ l :: rest) (before.length + 1) number)
      let m := moveBody ((⟨before ++ l :: rest, out, d⟩ : Hoisting).opened l (nameOf w.names)) (before.length + 1) body
      if m.2 then pure (closeBody m.1 (l.take (keyword l)) (nameOf w.names) number position)
      else
        reportFunction before.length l "list assignment index out of range"
        pure m.1)
      (fun e => do
        reportFunction before.length l e.message
        pure ((⟨before ++ l :: rest, out, d⟩ : Hoisting).opened l (nameOf w.names))) : Session Hoisting).runIn
          { w with names := w.names + 1 } := by
    unfold takeOut
    rw [hbrace]
    dsimp only [bind, Except.bind]
    rw [hmatch]
    rw [hfunction, Hoisting.opened, headOf, hkeyword]
    rfl
  rw [hstep, runIn_tryCatch, runIn_bind_of_ok hinner]
  dsimp only
  generalize moveBody ((⟨before ++ l :: rest, out, d⟩ : Hoisting).opened l (nameOf w.names)) (before.length + 1) body = m
    at hout hlines hwhole ⊢
  obtain ⟨⟨lines, output, d'⟩, whole⟩ := m
  subst hout hlines hwhole
  by_cases hle : body.length ≤ rest.length
  · refine ⟨moved, d' - 1, v, hmoved, ?_⟩
    rw [if_pos (decide_eq_true hle), hclose _ (by simp), closed_append, takenOut, if_pos hle, taken, useOf, append_assoc]
    rfl
  · rw [if_neg (by simp [hle])]
    exact ⟨moved, d', _, hmoved, by rw [takenOut, if_neg hle]; rfl⟩

/-- Where a function is taken to end: `m` lines are taken for its body and `q` characters of line `j` for its end. -/
structure Closes (l : Line) (rest : List Line) (m j q : Nat) : Prop where
  last : j ≤ rest.length
  span : ∀ k p, spanOf l rest = some (k, p) → m = k - 1 ∧ j = k ∧ q = p + 1
  unclosed : spanOf l rest = none → q = 0

/-- **A step on a function.** -/
theorem hoistLine_function (inner : List Line → Session (List Line)) (hlegible : Legible l) (hsteady : Steady (l :: rest))
    (hl : passesFunction l = true) (before out : List Line) (d : Int) (w : World) :
    ∃ m j q, Closes l rest m j q ∧
      ∀ body v, (inner (rest.take m)).runIn { w with names := w.names + 1 } = (.ok body, v) →
        ∃ moved d' v', Forall₂ Indented (body.take (rest.length + 1)) moved ∧
          (hoistLine inner ⟨before ++ l :: rest, out, d⟩ before.length).runIn w =
            (.ok (takenOut before l rest out w.names body moved j q d'), v') := by
  have hcarries := hlegible l suffix_rfl hl
  obtain ⟨b, hb⟩ := find?_of_mem hcarries.mem
  have hmatch := matchingBrace_eq hb before rest
  rw [hoistLine_eq hlegible hsteady, if_pos hl]
  match hs : spanOf l rest with
  | some (k, p) =>
    have hk : k ≤ rest.length := by
      cases k with
      | zero => exact Nat.zero_le _
      | succ k =>
        obtain ⟨body, _, _, behind, rfl, rfl, _⟩ := spanOf_further hs
        rw [length_append, length_cons]
        omega
    refine ⟨k - 1, k, p + 1, ⟨hk, fun _ _ h => ?_, fun h => absurd (hs.symm.trans h) (by simp)⟩, fun body v hinner => ?_⟩
    · cases hs.symm.trans h
      exact ⟨rfl, rfl, rfl⟩
    · rw [hs] at hmatch
      rw [← linesBetween_natCast before l rest k (by omega)] at hinner
      exact takeOut_eq hcarries hb hmatch hinner fun h _ head name => closeBody_natCast h head name (before.length + k) p
  | none =>
    -- a brace that was lost before can leave this one without a partner: then the last line of the script counts
    refine ⟨clamp (before ++ l :: rest).length (-1) - (before.length + 1), rest.length, 0,
      ⟨Nat.le_refl _, fun _ _ h => absurd (hs.symm.trans h) (by simp), fun _ => rfl⟩, fun body v hinner => ?_⟩
    rw [hs] at hmatch
    rw [← linesBetween_head before l rest (-1)] at hinner
    refine takeOut_eq hcarries hb hmatch hinner fun h hlines head name => ?_
    have hne : h.lines ≠ [] := by
      rw [← length_pos_iff, hlines]
      omega
    rw [closeBody_unclosed hne, hlines]
    rfl

end RemoteSensing.Script
