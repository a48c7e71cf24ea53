import Mathlib
import RemoteSensing.Proofs.Script.Retold

/-!
Counting loops.
-/

namespace RemoteSensing.Script.Counting

open List Chars Line
open String (reduceToList ofList)

variable {c : Char}

inductive Comparison where
  | less
  | atMost
  | greater
  | atLeast
deriving DecidableEq, Repr

def Comparison.sign : Comparison → String
  | less => "<"
  | atMost => "<="
  | greater => ">"
  | atLeast => ">="

def Comparison.Holds : Comparison → Int → Int → Prop
  | less, v, b => v < b
  | atMost, v, b => v ≤ b
  | greater, v, b => b < v
  | atLeast, v, b => b ≤ v

def Comparison.strict : Comparison → Bool
  | less | greater => true
  | atMost | atLeast => false

def Comparison.Leads : Comparison → Int → Prop
  | less, step | atMost, step => 0 < step
  | greater, step | atLeast, step => step < 0

inductive Step where
  | up
  | down
  | add (k : Nat)
  | sub (k : Nat)
deriving DecidableEq, Repr

def Step.amount : Step → Int
  | up => 1
  | down => -1
  | add k => k
  | sub k => -k

/-- The values that the variable of a loop takes from `v` on, if the loop comes to an end. -/
inductive Takes (op : Comparison) (stop step : Int) : Int → List Int → Prop where
  | done {v : Int} (h : ¬ op.Holds v stop) : Takes op stop step v []
  | again {v : Int} {vs : List Int} (h : op.Holds v stop) (hrest : Takes op stop step (v + step) vs) :
      Takes op stop step v (v :: vs)

def elements (start stop step : Int) : List Int :=
  (range (-((start - stop).fdiv step)).toNat).map fun (i : Nat) => start + step * i

section

variable {start stop step : Int}

theorem elements_of_outside (h : 0 < step ∧ stop ≤ start ∨ step < 0 ∧ start ≤ stop) : elements start stop step = [] := by
  have hcount : 0 ≤ (start - stop).fdiv step := by
    rcases h with ⟨hstep, hle⟩ | ⟨hstep, hle⟩
    · exact Int.fdiv_nonneg (by omega) (by omega)
    · rw [← Int.neg_fdiv_neg]
      exact Int.fdiv_nonneg (by omega) (by omega)
  rw [elements, Int.toNat_of_nonpos (by omega)]
  rfl

theorem elements_of_inside (h : 0 < step ∧ start < stop ∨ step < 0 ∧ stop < start) :
    elements start stop step = start :: elements (start + step) stop step := by
  have hcount : (start - stop).fdiv step < 0 := by
    rcases h with ⟨hstep, hlt⟩ | ⟨hstep, hlt⟩
    · exact Int.fdiv_neg_of_neg_of_pos (by omega) (by omega)
    · rw [← Int.neg_fdiv_neg]
      exact Int.fdiv_neg_of_neg_of_pos (by omega) (by omega)
  have hnext : (start + step - stop).fdiv step = (start - stop).fdiv step + 1 := by
    rw [← Int.add_mul_fdiv_right (start - stop) 1 (by omega : step ≠ 0), one_mul, sub_add_eq_add_sub]
  obtain ⟨n, hn⟩ : ∃ n : Nat, -((start - stop).fdiv step) = n + 1 := ⟨(-((start - stop).fdiv step) - 1).toNat, by omega⟩
  rw [elements, elements, hnext, hn, show -((start - stop).fdiv step + 1) = n by omega, Int.toNat_natCast,
    show ((n : Int) + 1).toNat = n + 1 by omega, range_succ_eq_map, map_cons, map_map]
  congr 1
  · simp
  · refine map_congr_left fun i _ => ?_
    rw [Function.comp_apply]
    push_cast
    ring

theorem elements_eq_nil_iff (hstep : step ≠ 0) :
    elements start stop step = [] ↔ (0 < step → stop ≤ start) ∧ (step < 0 → start ≤ stop) := by
  by_cases h : 0 < step ∧ start < stop ∨ step < 0 ∧ stop < start
  · rw [elements_of_inside h]
    exact iff_of_false (cons_ne_nil _ _) (by omega)
  · exact iff_of_true (elements_of_outside (by omega)) (by omega)

end

section

variable {op : Comparison} {stop step v : Int} {vs : List Int}

theorem Takes.leads (h : Takes op stop step v vs) (hv : op.Holds v stop) : op.Leads step := by
  induction h with
  | done hnot => exact absurd hv hnot
  | @again v vs _ _ ih =>
    by_cases hnext : op.Holds (v + step) stop
    · exact ih hnext
    · cases op <;> simp only [Comparison.Holds, Comparison.Leads] at * <;> omega

/-- **A range has the values of a loop** that goes the right way, unless the comparison admits the bound and the loop
comes to it. -/
theorem Takes.elements_eq_iff (h : Takes op stop step v vs) (hleads : op.Leads step) :
    elements v stop step = vs ↔ op.strict = true ∨ ¬ (op.Holds v stop ∧ step ∣ stop - v) := by
  induction h with
  | @done v hnot =>
    refine iff_of_true (elements_of_outside ?_) (.inr fun h => hnot h.1)
    cases op <;> simp only [Comparison.Holds, Comparison.Leads] at * <;> omega
  | @again v vs hv _ ih =>
    by_cases hstop : v = stop
    · subst hstop
      have hloose : ¬ op.strict = true := by
        cases op <;> simp [Comparison.Holds, Comparison.strict] at *
      rw [elements_of_outside (by cases op <;> simp only [Comparison.Leads] at hleads <;> omega)]
      exact iff_of_false (cons_ne_nil _ _).symm fun h => h.elim hloose fun hnot => hnot ⟨hv, by simp⟩
    · have hinside : 0 < step ∧ v < stop ∨ step < 0 ∧ stop < v := by
        cases op <;> simp only [Comparison.Holds, Comparison.Leads] at * <;> omega
      rw [elements_of_inside hinside, cons_inj_right, ih]
      -- a multiple of the step that is not zero is at least as large
      have hreaches : step ∣ stop - (v + step) ↔ step ∣ stop - v := by
        rw [← sub_sub, dvd_sub_self_right]
      have hsize : step ∣ stop - v → 0 < step ∧ v + step ≤ stop ∨ step < 0 ∧ stop ≤ v + step := by
        intro hdvd
        rcases hinside with ⟨hpos, hlt⟩ | ⟨hneg, hlt⟩
        · have := Int.le_of_dvd (by omega) hdvd
          omega
        · have := Int.le_of_dvd (by omega) (neg_dvd.mpr (dvd_neg.mpr hdvd))
          omega
      cases op <;> simp only [Comparison.Holds, Comparison.strict] at * <;> grind

end

def Step.written : Step → Int
  | sub k => k
  | step => step.amount

theorem elements_written_iff {op : Comparison} {a b : Int} {step : Step} (hstep : step.amount ≠ 0) {vs : List Int}
    (h : Takes op b step.amount a vs) :
    elements a b step.written = vs ↔
      (op.Holds a b → step.written = step.amount ∧ (op.strict = true ∨ ¬ step.amount ∣ b - a)) ∧
      (¬ op.Holds a b → (0 < step.written → b ≤ a) ∧ (step.written < 0 → a ≤ b)) := by
  by_cases hv : op.Holds a b
  · have hleads := h.leads hv
    rw [and_iff_left (fun hnot => absurd hv hnot), imp_iff_right hv]
    by_cases hwritten : step.written = step.amount
    · rw [hwritten, h.elements_eq_iff hleads]
      simp only [hv, true_and]
    · -- only the sign of a step down is lost, and then the range is empty
      rw [elements_of_outside]
      · refine iff_of_false ?_ (fun h => hwritten h.1)
        cases h with
        | done hnot => exact absurd hv hnot
        | again => exact (cons_ne_nil _ _).symm
      · match step with
        | .up | .down | .add k => exact absurd rfl hwritten
        | .sub k =>
          cases op <;> simp only [Comparison.Holds, Comparison.Leads, Step.amount, Step.written] at * <;> omega
  · have hnone : vs = [] := by
      cases h with
      | done => rfl
      | again hyes => exact absurd hyes hv
    rw [hnone, and_iff_right (fun hyes => absurd hyes hv), imp_iff_right hv]
    refine elements_eq_nil_iff ?_
    cases step <;> simp only [Step.amount, Step.written] at * <;> omega

/-- A name for a variable has neither blanks nor any of the signs that divide a header. -/
def Nameable (v : Line) : Prop := ∀ c ∈ v, Text.isBlank c = false ∧ c ∉ "=;()+-".toList

theorem Nameable.not_mem {v : Line} (h : Nameable v) (hc : c ∈ " =;()+-".toList) : c ∉ v := by
  intro hv
  obtain ⟨hblank, hsign⟩ := h c hv
  rcases mem_cons.mp hc with rfl | hc
  · exact absurd hblank (by decide)
  · exact hsign hc

/-- A word and the blank behind it without the mark of a declaration, which the end of a name can be taken for. -/
def undeclared (x : Line) : Line := if "var".toList <:+ x then x.take (x.length - 3) else x ++ [' ']

def nameRead (v : Line) : Line := if "var".toList <:+ v then v.take (v.length - 3) else v

theorem nameRead_eq_self_iff {v : Line} : nameRead v = v ↔ ¬ "var".toList <:+ v := by
  rw [nameRead]
  split
  · rename_i hmark
    have hlength : 3 ≤ v.length := hmark.length_le
    refine iff_of_false (fun h => ?_) (not_not_intro hmark)
    have := congrArg length h
    rw [length_take] at this
    omega
  · rename_i hmark
    exact iff_of_true rfl hmark

theorem replace_word {x : Line} (hx : ' ' ∉ x) (y : Line) :
    replace "var ".toList [] (x ++ ' ' :: y) = undeclared x ++ replace "var ".toList [] y := by
  rw [replace_append_of_last (by decide) (by decide)]
  -- the blank is the only one, so the mark can stand at the end only
  have hend {a b : Line} (h : x ++ [' '] = a ++ ("var ".toList ++ b)) : x = a ++ "var".toList ∧ b = [] := by
    have hsame : x ++ [' '] = (a ++ "var".toList) ++ ' ' :: b := by simpa using h
    obtain ⟨hx, -, hb⟩ := (append_cons_inj_of_notMem hx not_mem_nil).mp hsame
    exact ⟨hx, hb.symm⟩
  by_cases hmark : "var ".toList <:+: x ++ [' ']
  · obtain ⟨a, b, hsplit, hreplace⟩ := replace_first (by decide) [] hmark
    obtain ⟨rfl, rfl⟩ := hend hsplit
    rw [hreplace, undeclared, if_pos (suffix_append _ _)]
    simp
  · rw [replace_of_absent (by decide) _ hmark, undeclared, if_neg]
    rintro ⟨a, rfl⟩
    exact hmark ⟨a, [], by simp⟩

theorem undeclared_concat (hc : c ≠ 'r') (x : Line) : undeclared (x ++ [c]) = x ++ [c, ' '] := by
  rw [undeclared, if_neg]
  · simp
  · rintro ⟨a, ha⟩
    have hlast : 'r' = c := by simpa using congrArg getLast? ha
    exact hc hlast.symm

theorem lastWord_append {w : Line} (hw : ' ' ∉ w) (x : Line) : lastWord (x ++ ' ' :: w) = w := by
  have hlast : ∀ d, (split [' '] (x ++ ' ' :: w)).getLastD d = w := by
    induction x using cut_induction (c := ' ') with
    | whole x hx =>
      intro d
      rw [split_append hx, split_of_not_mem hw]
      rfl
    | cut a b ha ih =>
      intro d
      rw [append_assoc, cons_append, split_append ha, getLastD_cons]
      exact ih a
  exact hlast []

theorem convertLoop_eq {l p c q h : Line} (hp : '(' ∉ p) (hp' : ')' ∉ p) (hc : ')' ∉ c) (hsemicolon : ';' ∈ c)
    (hrange : rangeOf c = .ok h) (hl : replace l "var " "" = p ++ '(' :: (c ++ ')' :: q)) :
    convertLoop l = .ok (p ++ h ++ q) := by
  have hopens : index (p ++ '(' :: (c ++ ')' :: q)) "(" = .ok p.length := index_eq_ok.mpr (find?_first hp _)
  have hfront : p ++ '(' :: (c ++ ')' :: q) = (p ++ '(' :: c) ++ ')' :: q := by simp
  have hcloses : index (p ++ '(' :: (c ++ ')' :: q)) ")" = .ok (p ++ '(' :: c).length := by
    have hnot : ')' ∉ p ++ '(' :: c := by simp [hp', hc]
    rw [hfront]
    exact index_eq_ok.mpr (find?_first hnot q)
  have hslice : slice (p ++ '(' :: (c ++ ')' :: q)) (p.length + 1) (p ++ '(' :: c).length = c := by
    have hmiddle := slice_middle (p ++ ['(']) c (')' :: q)
    rw [length_append, length_singleton, append_assoc, Nat.add_assoc, Nat.add_comm 1] at hmiddle
    rw [length_append, length_cons]
    exact hmiddle
  have hrest : (p ++ '(' :: (c ++ ')' :: q)).drop ((p ++ '(' :: c).length + 1) = q := by
    rw [hfront, ← drop_drop, drop_left, drop_one, tail_cons]
  rw [convertLoop, hl]
  rw [hopens]
  rw [hcloses]
  show (if has (slice _ _ _) " in " && !(slice _ _ _).contains ';' then _ else
    rangeOf (slice _ _ _) >>= _) = _
  rw [hslice, contains_iff_mem.mpr hsemicolon, Bool.not_true, Bool.and_false, if_neg Bool.false_ne_true, hrange]
  show Except.ok (take p.length _ ++ h ++ drop _ _) = _
  rw [hrest, take_left]

def Step.text (v : Line) : Step → Line
  | up => v ++ "++".toList
  | down => v ++ "--".toList
  | add k => v ++ " += ".toList ++ (toString (k : Int)).toList
  | sub k => v ++ " -= ".toList ++ (toString (k : Int)).toList

def header (v : Line) (a : Int) (op : Comparison) (b : Int) (step : Step) : Line :=
  "for (var ".toList ++ v ++ " = ".toList ++ (toString a).toList ++ "; ".toList ++ v ++ " ".toList ++ op.sign.toList ++
    " ".toList ++ (toString b).toList ++ "; ".toList ++ step.text v ++ ") \x7b".toList

def rangeHeader (v : Line) (start stop step : Int) : Line :=
  "for ".toList ++ v ++ " in range(".toList ++ (toString start).toList ++ ", ".toList ++ (toString stop).toList ++
    ", ".toList ++ (toString step).toList ++ "): \x7b".toList

/-- The last clause of a header once the marks of declarations are taken away. -/
def Step.clause (v : Line) : Step → Line
  | up => v ++ "++".toList
  | down => v ++ "--".toList
  | add k => undeclared v ++ "+= ".toList ++ (toString (k : Int)).toList
  | sub k => undeclared v ++ "-= ".toList ++ (toString (k : Int)).toList

def clauses (v : Line) (a : Int) (op : Comparison) (b : Int) (step : Step) : Line :=
  undeclared v ++ "= ".toList ++ (toString a).toList ++ "; ".toList ++ undeclared v ++ op.sign.toList ++ " ".toList ++
    (toString b).toList ++ "; ".toList ++ step.clause v

section

variable {v : Line} (hv : Nameable v)

include hv

theorem replace_step (step : Step) :
    replace "var ".toList [] (step.text v ++ ") \x7b".toList) = step.clause v ++ ") \x7b".toList := by
  have hblank : ' ' ∉ v := hv.not_mem (by decide)
  have hbrace : replace "var ".toList [] "\x7b".toList = "\x7b".toList := by decide
  have hsingle {s : Line} (hs : ' ' ∉ s) :
      replace "var ".toList [] (s ++ ") \x7b".toList) = s ++ ") \x7b".toList := by
    rw [show s ++ ") \x7b".toList = (s ++ [')']) ++ ' ' :: "\x7b".toList by simp, replace_word (by simp [hs]),
      undeclared_concat (by decide), hbrace]
    simp
  have hsum {w : Line} (hw : ' ' ∉ w ++ ['=']) (k : Nat) : replace "var ".toList []
      (v ++ ' ' :: ((w ++ ['=']) ++ ' ' :: ((toString (k : Int)).toList ++ ") \x7b".toList))) =
        undeclared v ++ (w ++ ['=', ' ']) ++ ((toString (k : Int)).toList ++ ") \x7b".toList) := by
    rw [replace_word hblank, replace_word hw, undeclared_concat (by decide), hsingle (not_mem_int rfl (by decide) k)]
    simp
  cases step with
  | up => exact @hsingle (v ++ "++".toList) (by simp [hblank])
  | down => exact @hsingle (v ++ "--".toList) (by simp [hblank])
  | add k => simpa [Step.text, Step.clause] using @hsum ['+'] (by decide) k
  | sub k => simpa [Step.text, Step.clause] using @hsum ['-'] (by decide) k

theorem replace_header (a : Int) (op : Comparison) (b : Int) (step : Step) :
    Line.replace (header v a op b step) "var " "" = "for (".toList ++ clauses v a op b step ++ ") \x7b".toList := by
  have hblank : ' ' ∉ v := hv.not_mem (by decide)
  have hint (i : Int) : ' ' ∉ (toString i).toList ++ [';'] := by
    simpa using not_mem_int (by decide) (by decide) i
  have hop : ' ' ∉ op.sign.toList ∧ undeclared op.sign.toList = op.sign.toList ++ [' '] := by
    cases op <;> decide
  have hwords : header v a op b step = "for".toList ++ ' ' :: ("(var".toList ++ ' ' :: (v ++ ' ' :: ("=".toList ++
      ' ' :: (((toString a).toList ++ [';']) ++ ' ' :: (v ++ ' ' :: (op.sign.toList ++ ' ' :: (((toString b).toList ++
        [';']) ++ ' ' :: (step.text v ++ ") \x7b".toList)))))))) := by
    unfold header
    generalize (toString a).toList = x
    generalize (toString b).toList = y
    generalize op.sign.toList = z
    simp only [append_assoc, cons_append, nil_append, reduceToList]
  rw [Line.replace, hwords, show "".toList = [] from rfl, replace_word (x := "for".toList) (by decide),
    replace_word (x := "(var".toList) (by decide), replace_word hblank, replace_word (x := "=".toList) (by decide),
    replace_word (hint a), replace_word hblank, replace_word hop.1,
    replace_word (hint b), replace_step hv, hop.2, undeclared_concat (by decide), undeclared_concat (by decide)]
  have hfor : undeclared "for".toList = "for ".toList := by decide
  have hopen : undeclared "(var".toList = ['('] := by decide
  have hequal : undeclared "=".toList = "= ".toList := by decide
  rw [hfor, hopen, hequal]
  simp only [clauses, append_assoc, cons_append, nil_append, reduceToList]

theorem not_mem_undeclared (hc : c ∈ "=;()".toList) : c ∉ undeclared v := by
  have hcv : c ∉ v ∧ c ≠ ' ' := ⟨hv.not_mem (by revert c; decide), by revert c; decide⟩
  rw [undeclared]
  split
  · exact fun h => hcv.1 (mem_of_mem_take h)
  · rw [mem_append, mem_singleton, not_or]
    exact hcv

theorem trim_undeclared : Line.trim (undeclared v) = nameRead v := by
  rw [undeclared, nameRead]
  split
  · exact trim_of_forall fun c hc => (hv c (mem_of_mem_take hc)).1
  · rw [Line.trim, trim_append_blank (by decide), trim_of_forall fun c hc => (hv c hc).1]

theorem stepOf_clause (step : Step) : stepOf (lastWord (' ' :: step.clause v)) = (toString step.written).toList := by
  have hblank : ' ' ∉ v := hv.not_mem (by decide)
  have hplus : '+' ∉ v := hv.not_mem (by decide)
  have habsent {w : Line} {s : String} {c : Char} (hc : c ∈ s.toList) (hw : c ∉ w) : has w s = false :=
    Bool.eq_false_iff.mpr fun h => hw ((contains_iff.mp h).subset hc)
  have hfound (s : String) : has (v ++ s.toList) s = true := contains_iff.mpr (suffix_append _ _).isInfix
  have hword {w : Line} (hw : ' ' ∉ w) : lastWord (' ' :: w) = w := lastWord_append hw []
  have hsum (s : Line) (k : Nat) : stepOf (lastWord (s ++ ' ' :: (toString (k : Int)).toList)) =
      (toString (k : Int)).toList := by
    have hminus : '-' ∉ (toString (k : Int)).toList := by
      intro h
      rcases mem_toString_int h with hdigit | ⟨-, hneg⟩
      · exact absurd hdigit (by decide)
      · omega
    rw [lastWord_append (not_mem_int rfl (by decide) k), stepOf,
      habsent (c := '+') (by decide) (not_mem_int rfl (by decide) k), habsent (c := '-') (by decide) hminus]
    rfl
  cases step with
  | up =>
    rw [Step.clause, hword (by simp [hblank]), stepOf, hfound]
    rfl
  | down =>
    rw [Step.clause, hword (by simp [hblank]), stepOf, habsent (c := '+') (by decide) (by simp [hplus]), hfound]
    rfl
  | add k =>
    refine Eq.trans ?_ (hsum (' ' :: (undeclared v ++ "+=".toList)) k)
    simp only [Step.clause, append_assoc, cons_append, nil_append, reduceToList]
  | sub k =>
    refine Eq.trans ?_ (hsum (' ' :: (undeclared v ++ "-=".toList)) k)
    simp only [Step.clause, append_assoc, cons_append, nil_append, reduceToList]

theorem not_mem_clauses (hc : c ∈ ";)".toList) (step : Step) (op : Comparison) :
    c ∉ undeclared v ∧ c ∉ step.clause v ∧ c ∉ op.sign.toList ∧ ∀ i : Int, c ∉ (toString i).toList := by
  obtain ⟨hdigit, hminus, hcut, hsign⟩ : c.isDigit = false ∧ c ≠ '-' ∧ c ∈ "=;()".toList ∧ c ∉ "+-= <>".toList := by
    revert c
    decide
  have hmarked : c ∉ undeclared v := not_mem_undeclared hv hcut
  have hcv : c ∉ v := hv.not_mem (mem_of_mem_take (i := 5) (mem_cons_of_mem _ hcut))
  have hfixed {s : Line} (hs : ∀ d ∈ s, d ∈ "+-= <>".toList) : c ∉ s := fun h => hsign (hs c h)
  refine ⟨hmarked, ?_, ?_, not_mem_int hdigit hminus⟩
  · cases step with
    | up | down =>
      rw [Step.clause, mem_append, not_or]
      exact ⟨hcv, hfixed (by decide)⟩
    | add k | sub k =>
      rw [Step.clause, mem_append, mem_append, not_or, not_or]
      exact ⟨⟨hmarked, hfixed (by decide)⟩, not_mem_int hdigit hminus k⟩
  · cases op <;> exact hfixed (by decide)

theorem rangeOf_clauses (a : Int) (op : Comparison) (b : Int) (step : Step) :
    rangeOf (clauses v a op b step) = .ok (nameRead v ++ " in range(".toList ++ (toString a).toList ++ ", ".toList ++
      (toString b).toList ++ ", ".toList ++ (toString step.written).toList ++ "):".toList) := by
  have hblank (i : Int) : ' ' ∉ (toString i).toList := not_mem_int (by decide) (by decide) i
  obtain ⟨hmarked, hclause, hop, hint⟩ := not_mem_clauses hv (c := ';') (by decide) step op
  have hname : (split ['='] (clauses v a op b step)).headD [] = undeclared v := by
    simp only [clauses, append_assoc]
    rw [show "= ".toList = ['=', ' '] from rfl, cons_append, split_append (not_mem_undeclared hv (by decide))]
    rfl
  have hparts : split [';'] (clauses v a op b step) = [undeclared v ++ ['='] ++ ' ' :: (toString a).toList,
      (' ' :: (undeclared v ++ op.sign.toList)) ++ ' ' :: (toString b).toList, ' ' :: step.clause v] := by
    have hcut : clauses v a op b step = (undeclared v ++ ['='] ++ ' ' :: (toString a).toList) ++ ';' ::
        (((' ' :: (undeclared v ++ op.sign.toList)) ++ ' ' :: (toString b).toList) ++ ';' :: ' ' :: step.clause v) := by
      unfold clauses
      generalize (toString a).toList = x
      generalize (toString b).toList = y
      generalize op.sign.toList = z
      simp only [append_assoc, cons_append, nil_append, reduceToList]
    rw [hcut, split_append, split_append, split_of_not_mem (by simp [hclause])]
    · simp only [mem_append, mem_cons, not_or]
      exact ⟨⟨by decide, hmarked, hop⟩, by decide, hint b⟩
    · simp only [mem_append, mem_cons, not_or]
      exact ⟨⟨hmarked, by decide⟩, by decide, hint a⟩
  rw [rangeOf, hname, hparts, trim_undeclared hv]
  simp only [map_cons, lastWord_append (hblank a), lastWord_append (hblank b), stepOf_clause hv]

/-- **The header of a counting loop becomes that of a loop over a range.** The end `var` of a name is lost. -/
theorem convertLoop_header (a : Int) (op : Comparison) (b : Int) (step : Step) :
    convertLoop (header v a op b step) = .ok (rangeHeader (nameRead v) a b step.written) := by
  obtain ⟨hmarked, hclause, hop, hint⟩ := not_mem_clauses hv (c := ')') (by decide) step op
  have hclose : ')' ∉ clauses v a op b step := by
    simp only [clauses, mem_append, not_or]
    refine ⟨⟨⟨⟨⟨⟨⟨⟨⟨hmarked, ?_⟩, hint a⟩, ?_⟩, hmarked⟩, hop⟩, ?_⟩, hint b⟩, ?_⟩, hclause⟩ <;> decide
  have hsemicolon : ';' ∈ clauses v a op b step := by
    simp only [clauses, mem_append]
    exact .inl (.inr (by decide))
  have hreplace : replace (header v a op b step) "var " "" =
      "for ".toList ++ '(' :: (clauses v a op b step ++ ')' :: " \x7b".toList) := by
    rw [replace_header hv]
    generalize clauses v a op b step = c
    simp only [cons_append, nil_append, reduceToList]
  refine (convertLoop_eq (by decide) (by decide) hclose hsemicolon (rangeOf_clauses hv a op b step) hreplace).trans ?_
  unfold rangeHeader
  generalize (toString a).toList = x
  generalize (toString b).toList = y
  generalize (toString step.written).toList = z
  simp only [append_assoc, cons_append, nil_append, reduceToList]

end

theorem call_loop {s : String} {l : Line} (h : convertLoop s.toList = .ok l) (w : World) :
    (loopCommand.call [.str s]).runIn w = (.ok (.str (ofList l)), w) := by
  show ((do pure (Value.str (ofList (← convertLoop s.toList)))) : Session Data).runIn w = _
  rw [h]
  rfl

/-- **Which loops keep their values.** The header of a loop that comes to an end becomes that of a loop over a range, for
the same variable and with the values of the loop in their order, exactly if the name of the variable does not end with
`var` and the range is right. If the loop is entered, it is right if the sign of the step is kept and the comparison
excludes the bound or the loop does not come to it; else if it is empty as well. -/
theorem loop_values_kept_iff {v : Line} (hv : Nameable v) (a : Int) (op : Comparison) (b : Int) (step : Step)
    (hstep : step.amount ≠ 0) {vs : List Int} (htakes : Takes op b step.amount a vs) (w : World) :
    (loopCommand.call [.str (String.ofList (header v a op b step))]).runIn w =
      (.ok (.str (String.ofList (rangeHeader (nameRead v) a b step.written))), w) ∧
    (nameRead v = v ∧ elements a b step.written = vs ↔
      ¬ "var".toList <:+ v ∧
      (op.Holds a b → step.written = step.amount ∧ (op.strict = true ∨ ¬ step.amount ∣ b - a)) ∧
      (¬ op.Holds a b → (0 < step.written → b ≤ a) ∧ (step.written < 0 → a ≤ b))) := by
  refine ⟨?_, and_congr nameRead_eq_self_iff (elements_written_iff hstep htakes)⟩
  rw [call_loop (by rw [String.toList_ofList]; exact convertLoop_header hv a op b step)]

theorem loop_by_twos_kept :
    (Nameable "i".toList ∧ (Step.add 2).amount ≠ 0 ∧ Takes .atMost 7 2 0 [0, 2, 4, 6]) ∧
    (loopCommand.call [.str "for (var i = 0; i <= 7; i += 2) \x7b"]).runIn {} =
      (.ok (.str "for i in range(0, 7, 2): \x7b"), {}) ∧
    elements 0 7 2 = [0, 2, 4, 6] := by
  have hv : Nameable "i".toList := by
    unfold Nameable
    decide
  have htakes : Takes .atMost 7 2 0 [0, 2, 4, 6] := by
    repeat refine .again (by decide : _ ≤ _) ?_
    exact .done (by decide : ¬ _ ≤ _)
  obtain ⟨hconvert, hkept⟩ := loop_values_kept_iff hv 0 .atMost 7 (.add 2) (by decide) htakes {}
  refine ⟨⟨hv, by decide, htakes⟩, ?_, (hkept.mpr ⟨by decide, fun _ => ⟨rfl, .inr ?_⟩, fun hnot => ?_⟩).2⟩
  · have hheader : ofList (header "i".toList 0 .atMost 7 (.add 2)) = "for (var i = 0; i <= 7; i += 2) \x7b" := by
      decide +kernel
    have hrange : ofList (rangeHeader (nameRead "i".toList) 0 7 2) = "for i in range(0, 7, 2): \x7b" := by
      decide +kernel
    rw [← hheader, ← hrange]
    exact hconvert
  · show ¬ (2 : Int) ∣ 7 - 0
    decide
  · exact absurd (by decide : (0 : Int) ≤ 7) hnot

theorem loop_down_emptied :
    convertLoop "for (var i = 10; i > 0; i -= 2) \x7b".toList = .ok "for i in range(10, 0, 2): \x7b".toList ∧
    Takes .greater 0 (-2) 10 [10, 8, 6, 4, 2] ∧ elements 10 0 2 = [] := by
  refine ⟨by decide +kernel, ?_, by decide⟩
  repeat refine .again (by decide : _ < _) ?_
  exact .done (by decide : ¬ _ < _)

end RemoteSensing.Script.Counting
