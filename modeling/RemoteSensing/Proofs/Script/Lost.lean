import RemoteSensing.Proofs.Script.Flat

/-!
Scripts with a function in the body of another.
-/

namespace RemoteSensing.Script

open List

variable {lines live rest : List Line}

/-- Lines that can be read each by itself, on which no function is closed on its own line. -/
def Readable (lines : List Line) : Prop := ∀ l ∈ lines, Legible l ∧ Spread l ∧ ¬ LeavesOpen l

theorem Readable.of_cons {l : Line} (h : Readable (l :: rest)) : Readable rest :=
  fun x hx => h x (mem_cons_of_mem l hx)

theorem Readable.steady (h : Readable lines) : Steady lines :=
  steady_of_not_leavesOpen fun l hl => (h l hl).2.2

theorem readable_nil : Legible [] ∧ Spread [] ∧ ¬ LeavesOpen [] := by
  refine ⟨legible_nil, ?_, not_leavesOpen_nil⟩
  intro s hs hpass
  exact absurd (suffix_nil.mp hs) (ne_nil_of_passesFunction hpass)

theorem readable_readOn {l s : Line} (h : Legible l ∧ Spread l ∧ ¬ LeavesOpen l) (hs : s <:+ l) :
    Legible (readOn s) ∧ Spread (readOn s) ∧ ¬ LeavesOpen (readOn s) :=
  ⟨h.1.readOn hs, h.2.1.readOn hs, fun hopen => h.2.2 (hopen.of_readOn hs)⟩

theorem tally_drop_le (c : Char) (lines : List Line) (n : Nat) : tally c (lines.drop n) ≤ tally c lines := by
  conv_rhs => rw [← take_append_drop n lines]
  rw [tally_append]
  omega

theorem tally_take_le (c : Char) (lines : List Line) (n : Nat) : tally c (lines.take n) ≤ tally c lines := by
  conv_rhs => rw [← take_append_drop n lines]
  rw [tally_append]
  omega

theorem tally_set (c : Char) {n : Nat} (hn : n < lines.length) (x : Line) :
    tally c (lines.set n x) + (lines.getD n []).count c = tally c lines + x.count c := by
  induction lines generalizing n with
  | nil => cases hn
  | cons l rest ih =>
    cases n with
    | zero =>
      rw [set_cons_zero, tally_cons, tally_cons, getD_cons_zero]
      omega
    | succ n =>
      have := ih (Nat.lt_of_succ_lt_succ hn)
      rw [set_cons_succ, tally_cons, tally_cons, getD_cons_succ]
      omega

theorem tally_blanked (c : Char) (lines : List Line) (n : Nat) :
    tally c (blanked lines n) = tally c (lines.drop n) := by
  rw [blanked, tally_append, tally_replicate_nil, Nat.zero_add]

theorem Readable.blanked (h : Readable lines) (n : Nat) : Readable (blanked lines n) := by
  intro x hx
  rw [Script.blanked, mem_append] at hx
  rcases hx with hx | hx
  · rw [eq_of_mem_replicate hx]
    exact readable_nil
  · exact h x (mem_of_mem_drop hx)

theorem Readable.set_readOn (h : Readable lines) {k : Nat} (hk : k < lines.length) (q : Nat) :
    Readable (lines.set k (readOn ((lines.getD k []).drop q))) := by
  intro x hx
  rcases mem_or_eq_of_mem_set hx with hx | rfl
  · exact h x hx
  · have hmem : lines.getD k [] ∈ lines := by
      rw [getD_eq_getElem?_getD, getElem?_eq_getElem hk]
      exact getElem_mem hk
    exact readable_readOn (h _ hmem) (drop_suffix _ _)

theorem tally_set_readOn {c : Char} (hc : c = '\x7b' ∨ c = '\x7d') {k : Nat} (hk : k < lines.length) (q : Nat) :
    ((lines.getD k []).take q).count c + tally c (lines.set k (readOn ((lines.getD k []).drop q))) =
      tally c lines := by
  have hset := tally_set c hk (readOn ((lines.getD k []).drop q))
  have hcut : (lines.getD k []).count c = ((lines.getD k []).take q).count c + ((lines.getD k []).drop q).count c := by
    rw [← count_append, take_append_drop]
  rw [count_readOn hc] at hset
  omega

/-- Treating lines ends well, puts out no closing brace that was not there, and puts out a line for each line. -/
def Shrinks (inner : List Line → Session (List Line)) : Prop :=
  ∀ lines, Readable lines → ∀ w, ∃ put w', (inner lines).runIn w = (.ok put, w') ∧
    tally '\x7d' put ≤ tally '\x7d' lines ∧ lines.length ≤ put.length

/-- **A function is taken out, with whatever was put out for its body.** What it puts out and what it leaves have no
more closing braces than its line, that body and the lines that are not blanked out. -/
theorem stepsTo_function {inner : List Line → Session (List Line)} {l : Line} {n : Nat} (hreadable : Readable (l :: rest))
    (hl : passesFunction l = true)
    (hinner : ∀ m, (∀ k p, spanOf l rest = some (k + 1, p) → m = k) → ∀ w, ∃ body v,
      (inner (rest.take m)).runIn w = (.ok body, v) ∧ tally '\x7d' body + tally '\x7d' (rest.drop body.length) ≤ n) :
    StepsTo inner l rest fun rest' put =>
      Readable rest' ∧ 2 ≤ put.length ∧ tally '\x7d' put + tally '\x7d' rest' ≤ l.count '\x7d' + n := by
  intro before out d w
  have hc : '\x7d' = '\x7b' ∨ '\x7d' = '\x7d' := Or.inr rfl
  obtain ⟨hlegible, hspread, _⟩ := hreadable l mem_cons_self
  obtain ⟨m, j, q, hcloses, hstep⟩ := hoistLine_function inner hlegible hreadable.steady hl before out d w
  obtain ⟨body, v, hbody, hle⟩ := hinner m (fun k p hs => (hcloses.span _ _ hs).1) { w with names := w.names + 1 }
  obtain ⟨moved, d', v', hmoved, hrun⟩ := hstep body v hbody
  have hread := hreadable.of_cons.blanked body.length
  have hlen := length_blanked rest body.length
  have htally := tally_blanked '\x7d' rest body.length
  have hmovedle : tally '\x7d' moved ≤ tally '\x7d' body := by
    rw [tally_indented hc hmoved]
    exact tally_take_le _ _ _
  by_cases henough : body.length ≤ rest.length
  · rw [takenOut, if_pos henough] at hrun
    cases j with
    | zero =>
      -- the brace was not found and the head is the last line of the script: nothing of it is put out once more
      have hq : q = 0 := by
        refine hcloses.unclosed (Option.eq_none_iff_forall_ne_some.mpr ?_)
        rintro ⟨k, p⟩ hs
        obtain rfl := (hcloses.span k p hs).2.1
        exact hspread l suffix_rfl hl p (spanOf_own hs).1
      refine ⟨_, blanked rest body.length, _, d', v', hrun, hlen, hread, by simp [taken], ?_⟩
      rw [tally_taken hc, hq, take_zero, count_nil]
      omega
    | succ k =>
      have hk : k < (blanked rest body.length).length := hlen ▸ hcloses.last
      have hcut := tally_set_readOn hc hk q
      refine ⟨l, _, _, d', v', hrun, by rw [length_set, hlen], hread.set_readOn hk q, by simp [taken], ?_⟩
      rw [tally_taken hc, getD_cons_succ]
      omega
  · have hparts := count_headOf_useOf hc l w.names []
    have hfeed : "\n".toList.count '\x7d' = 0 := by decide
    rw [takenOut, if_neg henough] at hrun
    refine ⟨l, _, _, d', v', hrun, hlen, hread, by simp, ?_⟩
    rw [tally_cons, tally_cons, hfeed]
    simp only [count_nil] at hparts
    omega

theorem tally_take_drop_le {put : List Line} {m : Nat} (hput : tally '\x7d' put ≤ tally '\x7d' (rest.take m))
    (hlen : (rest.take m).length ≤ put.length) :
    tally '\x7d' put + tally '\x7d' (rest.drop put.length) ≤ tally '\x7d' rest := by
  have hsplit : tally '\x7d' rest = tally '\x7d' (rest.take m) + tally '\x7d' (rest.drop m) := by
    rw [← tally_append, take_append_drop]
  have hdrop : rest.drop put.length = (rest.drop m).drop (put.length - (rest.take m).length) := by
    conv_lhs => rw [← take_append_drop m rest]
    rw [drop_append, drop_eq_nil_of_le hlen, nil_append]
  have hle := tally_drop_le '\x7d' (rest.drop m) (put.length - (rest.take m).length)
  rw [hdrop]
  omega

/-- **No step brings closing braces**, and the lines that are put out are at least as many as the lines, and more
if there is a function. -/
theorem puts_shrinks {inner : List Line → Session (List Line)} (hinner : Shrinks inner) (hreadable : Readable live) :
    Puts inner live fun put => tally '\x7d' put ≤ tally '\x7d' live ∧ live.length ≤ put.length ∧
      (live.any passesFunction = true → live.length < put.length) := by
  -- a step keeps the number of lines, not the lines, so the induction is on their number
  induction hn : live.length generalizing live with
  | zero =>
    rw [length_eq_zero_iff] at hn
    subst hn
    exact .nil (by simp)
  | succ k ih =>
    obtain ⟨l, rest, rfl⟩ := exists_cons_of_length_eq_add_one hn
    have hrest : rest.length = k := Nat.succ.inj hn
    cases hl : passesFunction l with
    | false =>
      refine .plain (hreadable l mem_cons_self).1 hreadable.steady hl ((ih hreadable.of_cons hrest).mono ?_)
      rintro put ⟨hle, hlen, hmore⟩
      rw [tally_cons, tally_cons, any_cons, hl, Bool.false_or, length_cons]
      exact ⟨by omega, by omega, fun hany => Nat.succ_lt_succ (hmore hany)⟩
    | true =>
      refine (stepsTo_function (n := tally '\x7d' rest) hreadable hl fun m _ w => ?_).puts ?_
      · obtain ⟨body, v, hbody, hle, hlen⟩ := hinner (rest.take m) (fun x hx => hreadable.of_cons x (mem_of_mem_take hx)) w
        exact ⟨body, v, hbody, tally_take_drop_le hle hlen⟩
      · rintro rest' put ⟨hread, htwo, hle⟩ hlen
        refine (ih hread (hlen.trans hrest)).mono ?_
        rintro put' ⟨hle', hlen', -⟩
        rw [tally_append, tally_cons, length_append]
        exact ⟨by omega, by omega, fun _ => by omega⟩

theorem hoistWithin_shrinks (fuel : Nat) : Shrinks (hoistWithin fuel) := by
  induction fuel with
  | zero =>
    intro lines _ w
    exact ⟨lines, w, rfl, Nat.le_refl _, Nat.le_refl _⟩
  | succ fuel ih =>
    intro lines hreadable w
    obtain ⟨put, w', hrun, hle, hlen, _⟩ := (puts_shrinks ih hreadable).runs w
    exact ⟨put, w', hrun, hle, hlen⟩

section

variable {l last : Line} {body behind : List Line} {p : Nat}

/-- **The brace of the outer function is lost**: its last line is blanked out, and no later step brings a brace. -/
theorem puts_nested (fuel : Nat) (hreadable : Readable (l :: (body ++ last :: behind))) (hl : passesFunction l = true)
    (hs : spanOf l (body ++ last :: behind) = some (body.length + 1, p)) (hlast : '\x7d' ∈ last)
    (hany : body.any passesFunction = true) :
    Puts (hoistWithin (fuel + 1)) (l :: (body ++ last :: behind)) fun put =>
      tally '\x7d' put < tally '\x7d' (l :: (body ++ last :: behind)) := by
  refine (stepsTo_function (n := tally '\x7d' body + tally '\x7d' behind) hreadable hl fun m hm w => ?_).puts ?_
  · have hbody : Readable body := fun x hx => hreadable x (by simp [hx])
    obtain ⟨put, v, hput, hle, _, hmore⟩ := (puts_shrinks (hoistWithin_shrinks fuel) hbody).runs w
    have hlen := hmore hany
    -- more lines are blanked out than the body has, so the last line of the function is among them
    have hbehind : (body ++ last :: behind).drop put.length = behind.drop (put.length - (body.length + 1)) := by
      rw [drop_append, drop_eq_nil_of_le (by omega), nil_append,
        show put.length - body.length = put.length - (body.length + 1) + 1 by omega, drop_succ_cons]
    have hblanked := tally_drop_le '\x7d' behind (put.length - (body.length + 1))
    rw [hm _ _ hs, take_left]
    exact ⟨put, v, hput, by rw [hbehind]; omega⟩
  · rintro rest' put ⟨hread, -, hle⟩ -
    refine (puts_shrinks (hoistWithin_shrinks (fuel + 1)) hread).mono ?_
    rintro put' ⟨hle', -⟩
    have hbrace : 0 < last.count '\x7d' := count_pos_iff.mpr hlast
    rw [tally_append, tally_cons, tally_append, tally_cons]
    omega

end

/-- **A function in the body of another costs a closing brace**, wherever it is. -/
theorem Pieced.puts_loses {whole : Bool} {ps : List Piece} (h : Pieced whole live ps) (fuel : Nat) (hreadable : Readable live)
    (hnested : ∃ p ∈ ps, p.nests = true) (hsound : ∀ x, Piece.broken x ∉ ps) :
    Puts (hoistWithin (fuel + 1)) live fun put => tally '\x7d' put < tally '\x7d' live := by
  have hc : '\x7d' = '\x7b' ∨ '\x7d' = '\x7d' := Or.inr rfl
  obtain ⟨x, hx, hnests⟩ := hnested
  induction h with
  | nil => cases hx
  | @plain _ l _ _ hl _ ih =>
    have hx' := (mem_cons.mp hx).resolve_left (by rintro rfl; cases hnests)
    refine .plain (hreadable l mem_cons_self).1 hreadable.steady hl
      ((ih hreadable.of_cons (fun y hy => hsound y (mem_cons_of_mem _ hy)) hx').mono fun put hlt => ?_)
    rw [tally_cons, tally_cons]
    omega
  | @oneLine _ l _ _ p hl hs => exact absurd (spanOf_own hs).1 ((hreadable l mem_cons_self).2.1 l suffix_rfl hl p)
  | @broken _ l => exact absurd mem_cons_self (hsound l)
  | @block _ l last body behind _ p hl hs hlast _ ih =>
    cases hany : body.any passesFunction with
    | true => exact puts_nested fuel hreadable hl hs (mem_of_mem_take hlast) hany
    | false =>
      have hx' := (mem_cons.mp hx).resolve_left (by rintro rfl; exact absurd (hany.symm.trans hnests) (by decide))
      refine .block (fuel + 1) (hreadable l mem_cons_self).1 hreadable.steady hl hs (mem_of_mem_take hlast)
        (plain_of_any hany fun y hy => (hreadable y (by simp [hy])).1)
        (ih (forall_readOn readable_readOn hreadable p) (fun y hy => hsound y (mem_cons_of_mem _ hy)) hx') ?_
      intro n moved put hmoved hlt
      have hcut : last.count '\x7d' = (last.take (p + 1)).count '\x7d' + (last.drop (p + 1)).count '\x7d' := by
        rw [← count_append, take_append_drop]
      rw [tally_cons, count_readOn hc] at hlt
      rw [tally_append, tally_append, tally_taken hc, tally_replicate_nil, tally_indented hc hmoved, tally_cons,
        tally_append, tally_cons]
      omega

end RemoteSensing.Script
