import RemoteSensing.Proofs.Script.Outcome
import RemoteSensing.Proofs.Script.Retold

/-!
Headers that lose something. The closing brace of a function is cut by its old place, and the header of a condition is
built anew up to the first parenthesis that closes.
-/

namespace RemoteSensing.Script

open List Chars Line

variable {a b c : Line}

/-- A search that starts in front of a balanced text ends with the brace behind it. -/
theorem scanLine_balanced (hb : Balanced b) (i : Nat) (c : Line) :
    scanLine '\x7b' '\x7d' 1 i (b ++ '\x7d' :: c) = .closed (i + b.length) := by
  have hcount := hb.2
  rcases scanLine_cases le_rfl (b ++ ['\x7d']) with ⟨x, y, hsplit, hx, hscan⟩ | ⟨d, hd, hpending, -⟩
  · rcases eq_nil_or_concat y with rfl | ⟨y, z, rfl⟩
    · rw [append_cancel_right hsplit, hscan]
    · -- the brace would be one of the balanced text
      rw [concat_eq_append, ← cons_append, ← append_assoc] at hsplit
      have hbefore := hb.1 (x ++ ['\x7d']) ⟨y, by rw [(append_inj' hsplit rfl).1]; simp⟩
      simp at hbefore
      omega
  · simp at hpending
    omega

theorem spanOf_closed (ha : '\x7b' ∉ a) (hb : Balanced b) (c : Line) (rest : List Line) :
    spanOf (a ++ '\x7b' :: (b ++ '\x7d' :: c)) rest = some (0, a.length + 1 + b.length) := by
  rw [spanOf, find?_first ha]
  dsimp only
  rw [drop_left, scanLine_open, scanLine_balanced hb]

theorem cut_natCast (l : Line) (p : Nat) : cut l p = l.take p ++ l.drop (p + 1) := by
  rw [cut, slice_to, ← slice_from]
  rfl

/-- The closing brace is looked for on the whole line, and cut out of what is left without the opening one. -/
theorem openFunction_closed (ha : '\x7b' ∉ a) (hb : Balanced b) (c : Line) (before rest : List Line) (depth : Int) :
    ∃ lines, openFunction ⟨before ++ (a ++ '\x7b' :: (b ++ '\x7d' :: c)) :: rest, a ++ '\x7b' :: (b ++ '\x7d' :: c), depth⟩
      before.length = .ok ⟨lines, functionHeader (a ++ b ++ '\x7d' :: c.drop 1), depth⟩ := by
  have hfind := find?_first ha (b ++ '\x7d' :: c)
  have hindex : index (a ++ '\x7b' :: (b ++ '\x7d' :: c)) "\x7b" = .ok a.length := index_eq_ok.mpr hfind
  have hmatch := matchingBrace_eq hfind before rest
  rw [spanOf_closed ha hb] at hmatch
  have hfirst : cut (a ++ '\x7b' :: (b ++ '\x7d' :: c)) a.length = (a ++ b ++ ['\x7d']) ++ c := by
    rw [cut_natCast, take_left, ← drop_drop, drop_left]
    simp
  have hsecond : cut ((a ++ b ++ ['\x7d']) ++ c) (a.length + 1 + b.length : Nat) = a ++ b ++ '\x7d' :: c.drop 1 := by
    have hlength : a.length + 1 + b.length = (a ++ b ++ ['\x7d']).length := by
      simp only [length_append, length_singleton]
      omega
    rw [cut_natCast, hlength, take_left, ← drop_drop, drop_left, append_assoc _ ['\x7d']]
    rfl
  rw [openFunction, hindex]
  show ∃ lines, (matchingBrace _ _ _ >>= _) = _
  rw [hmatch]
  rw [← hsecond, ← hfirst]
  exact ⟨_, if_pos rfl⟩

theorem count_functionHeader (l : Line) : (functionHeader l).count '\x7d' = l.count '\x7d' := by
  have hword {w : String} (hw : w.toList ≠ [] ∧ w.toList.count '\x7d' = 0) (l : Line) :
      (replace l w "").count '\x7d' = l.count '\x7d' := count_replace hw.1 hw.2 rfl l
  have htrim (l : Line) : (Line.trim l).count '\x7d' = l.count '\x7d' := count_trim (by decide) l
  have hstripped : (replace (replace (replace l " = function" "") "=function" "") "function " "").count '\x7d' =
      l.count '\x7d' := by
    rw [hword (by decide), hword (by decide), hword (by decide)]
  unfold functionHeader
  dsimp only
  split
  · rw [count_append, count_append, htrim, hword (by decide), hstripped]
    simp
  · rw [count_append, count_append, count_append, htrim, hstripped, count_replicate]
    simp

/-- **Functions that are closed on the line of their header.** The header is made from the line without its opening brace
and without the character behind the closing one. So the closing brace is always in it, and the header is the one of the
line without the two braces exactly if another closing brace follows. -/
theorem function_braces_removed_iff (path : String) {p : Progress} {before rest : List Line} (ha : '\x7b' ∉ a)
    (hb : Balanced b) (hlines : p.lines = before ++ (a ++ '\x7b' :: (b ++ '\x7d' :: c)) :: rest)
    (hfunction : opensFunction (a ++ '\x7b' :: (b ++ '\x7d' :: c)) = true) (w : World) :
    ∃ r, (openLine path p before.length (a ++ '\x7b' :: (b ++ '\x7d' :: c))).runIn w = (.ok (some r), w) ∧
      r.line = functionHeader (a ++ b ++ '\x7d' :: c.drop 1) ∧ '\x7d' ∈ r.line ∧
      (r.line = functionHeader (a ++ b ++ c) ↔ c.head? = some '\x7d') := by
  obtain ⟨lines, hopen⟩ := openFunction_closed ha hb c before rest p.depth
  have hcount : (functionHeader (a ++ b ++ '\x7d' :: c.drop 1)).count '\x7d' =
      (a ++ b).count '\x7d' + (c.drop 1).count '\x7d' + 1 := by
    rw [count_functionHeader, count_append, count_cons_self, Nat.add_assoc]
  refine ⟨⟨lines, functionHeader (a ++ b ++ '\x7d' :: c.drop 1), p.depth⟩, ?_, rfl,
    count_pos_iff.mp (by dsimp only; rw [hcount]; omega), ?_, ?_⟩
  · unfold openLine
    dsimp only
    rw [if_pos hfunction, hlines, hopen]
    rfl
  · intro heq
    have hplain : (functionHeader (a ++ b ++ c)).count '\x7d' = (a ++ b).count '\x7d' + c.count '\x7d' := by
      rw [count_functionHeader, count_append]
    have hsame := hcount.symm.trans ((congrArg (count '\x7d') heq).trans hplain)
    cases c with
    | nil => simp at hsame
    | cons x c =>
      by_contra hx
      have hne : x ≠ '\x7d' := by simpa using hx
      rw [count_cons_of_ne hne, drop_one, tail_cons] at hsame
      omega
  · intro hhead
    obtain ⟨t, rfl⟩ := head?_eq_some_iff.mp hhead
    rfl

theorem function_braces_removed_twice :
    ('\x7b' ∉ "function f() ".toList ∧ Balanced "a".toList ∧ opensFunction "function f() \x7ba\x7d\x7d".toList = true) ∧
    ∃ r, (openLine "" { lines := ["function f() \x7ba\x7d\x7d".toList], output := [] } 0
      "function f() \x7ba\x7d\x7d".toList).runIn {} =
      (.ok (some r), {}) ∧ r.line = functionHeader "function f() a\x7d".toList := by
  have ha : '\x7b' ∉ "function f() ".toList := by decide
  have hb : Balanced "a".toList := by decide
  have hfunction : opensFunction "function f() \x7ba\x7d\x7d".toList = true := by decide
  have hlines : ["function f() \x7ba\x7d\x7d".toList] =
      [] ++ ("function f() ".toList ++ '\x7b' :: ("a".toList ++ '\x7d' :: ['\x7d'])) :: [] := rfl
  obtain ⟨r, hrun, -, -, hkept⟩ := function_braces_removed_iff ""
    (p := { lines := ["function f() \x7ba\x7d\x7d".toList], output := [] }) ha hb hlines hfunction {}
  exact ⟨⟨ha, hb, hfunction⟩, r, hrun, hkept.mpr rfl⟩

theorem function_closing_brace_left :
    ∃ w, (convertCommand.call (request {} "in.js" "<TMP>/out.py")).runIn (deskWith "function f() \x7ba\x7d; b") =
      (.ok (.str "import ee \nfrom ee_plugin import Map\n\ndef f() a\x7d b:\nm"), w) := ⟨_, rfl⟩

/-- The header that a condition should have, where it is not indented. -/
def condition (c : Line) : Line := "if (".toList ++ (c ++ "):".toList)

/-- A line that opens a condition behind `k` blanks; in the body of `d` functions they are `4 * d` more. -/
def conditionLine (k : Nat) (c : Line) : Line :=
  (replicate k ' ' ++ "if ".toList) ++ '(' :: (c ++ ')' :: " \x7b\n".toList)

def untilClose (c : Line) : Line := c.takeWhile (· != ')')

theorem notMem_untilClose (c : Line) : ')' ∉ untilClose c := fun h => by simpa using mem_takeWhile_imp h

theorem untilClose_eq_self_iff {c : Line} : untilClose c = c ↔ ')' ∉ c :=
  ⟨fun h => h ▸ notMem_untilClose c, takeWhile_of_not_mem⟩

/-- The header of a condition goes to the first closing parenthesis. -/
theorem conditionHeader_eq (k : Nat) (c : Line) :
    conditionHeader (conditionLine k c) = .ok (condition (untilClose c) ++ ['\x7b']) := by
  obtain ⟨t, ht⟩ : ∃ t, c ++ ')' :: " \x7b\n".toList = untilClose c ++ ')' :: t := by
    by_cases hmem : ')' ∈ c
    · obtain ⟨a, b, rfl, ha⟩ := eq_append_cons_of_mem hmem
      exact ⟨_, by rw [untilClose, takeWhile_before ha, append_assoc, cons_append]⟩
    · exact ⟨_, by rw [untilClose_eq_self_iff.mpr hmem]⟩
  rw [conditionLine, ht]
  generalize hfront : replicate k ' ' ++ "if ".toList = a
  have ha : '(' ∉ a ∧ ')' ∉ a := by
    rw [← hfront]
    simp
  have hopen : index (a ++ '(' :: (untilClose c ++ ')' :: t)) "(" = .ok a.length :=
    index_eq_ok.mpr (find?_first ha.1 _)
  have hclose : index (a ++ '(' :: (untilClose c ++ ')' :: t)) ")" = .ok (a.length + ('(' :: untilClose c).length) := by
    have hfirst := find?_first (c := ')') (a := a ++ '(' :: untilClose c) (by simp [ha.2, notMem_untilClose]) t
    rw [append_assoc, cons_append, length_append] at hfirst
    exact index_eq_ok.mpr hfirst
  have hslice := slice_middle a ('(' :: untilClose c) (')' :: t)
  rw [cons_append] at hslice
  rw [conditionHeader, hopen]
  rw [hclose]
  show Except.ok ("if ".toList ++ slice _ _ _ ++ "):\x7b".toList) = _
  rw [hslice, condition]
  simp

theorem replace_last_brace {l : Line} (hl : '\x7b' ∉ l) : replace (l ++ ['\x7b']) "\x7b" "" = l := by
  have hinfix : ['\x7b'] <:+: l ++ ['\x7b'] := ⟨l, [], by simp⟩
  obtain ⟨a, b, hsplit, hreplace⟩ := replace_first (by decide) [] hinfix
  obtain ⟨rfl, -, rfl⟩ := (append_cons_inj_of_notMem hl not_mem_nil).mp hsplit
  exact hreplace.trans (append_nil _)

section Condition

variable {k : Nat} {c : Line} (hc : '\x7b' ∉ c)

include hc

theorem conditionLine_eq : ∃ a, conditionLine k c = (a ++ [' ']) ++ '\x7b' :: ['\n'] ∧ '\x7b' ∉ a ++ [' '] := by
  refine ⟨(replicate k ' ' ++ "if ".toList) ++ '(' :: (c ++ [')']), ?_, ?_⟩
  · simp [conditionLine]
  · simp [hc]

/-- The brace is the last sign of the line, so it is closed on another line, or nowhere. -/
theorem matchingBrace_conditionLine (before rest : List Line) :
    ∃ (b : Nat) (number position : Int), find? ['\x7b'] (conditionLine k c) = some b ∧ number ≠ before.length ∧
      matchingBrace (before ++ conditionLine k c :: rest) before.length b = .ok (number, position) := by
  obtain ⟨a, hline, ha⟩ := conditionLine_eq (k := k) hc
  have hfind := find?_first ha ['\n']
  rw [← hline] at hfind
  have hspan : spanOf (conditionLine k c) rest = (closeIn 1 rest).map fun e => (e.1 + 1, e.2) := by
    rw [spanOf, hfind, hline]
    dsimp only
    rw [drop_left]
    rfl
  have hmatch := matchingBrace_eq hfind before rest
  rw [hspan] at hmatch
  cases hclose : closeIn 1 rest with
  | none =>
    rw [hclose] at hmatch
    exact ⟨_, -1, -1, hfind, by omega, hmatch⟩
  | some e =>
    rw [hclose] at hmatch
    exact ⟨_, (before.length + (e.1 + 1) : Nat), e.2, hfind, by omega, hmatch⟩

theorem not_call_conditionLine : has (conditionLine k c) "(\x7b" = false := by
  obtain ⟨a, hline, ha⟩ := conditionLine_eq (k := k) hc
  rw [Bool.eq_false_iff, has, Ne, contains_iff, hline]
  rintro ⟨x, y, h⟩
  have hsplit : (a ++ [' ']) ++ '\x7b' :: ['\n'] = (x ++ ['(']) ++ '\x7b' :: y := by
    rw [← h]
    simp
  have hlast := congrArg getLast? ((append_cons_inj_of_notMem ha (by decide)).mp hsplit).1
  rw [getLast?_concat, getLast?_concat] at hlast
  cases hlast

/-- **Headers of conditions.** A condition becomes a header that is not indented and goes to the first closing parenthesis.
So it is the whole condition, indented as the line was, exactly if the line was not indented and nothing is closed in the
condition. This is the step that opens a line: a function around it has indented the line before, and the words of the
header are respelled after it. -/
theorem condition_header_kept_iff (path : String) {p : Progress} {before rest : List Line}
    (hlines : p.lines = before ++ conditionLine k c :: rest) (hfunction : opensFunction (conditionLine k c) = false) (w : World) :
    ∃ r, (openLine path p before.length (conditionLine k c)).runIn w = (.ok (some r), w) ∧
      r.line = condition (untilClose c) ∧ (r.line = replicate k ' ' ++ condition c ↔ k = 0 ∧ ')' ∉ c) := by
  obtain ⟨b, number, position, hfind, hnumber, hmatch⟩ := matchingBrace_conditionLine (k := k) hc before rest
  have hhas : ∀ s : String, s.toList <:+: "if (".toList → has (conditionLine k c) s = true := by
    intro s hs
    rw [has, Chars.contains_iff]
    refine hs.trans ⟨replicate k ' ', c ++ ')' :: " \x7b\n".toList, ?_⟩
    simp [conditionLine]
  have hopens : opensLoopOrCondition (conditionLine k c) = true := by
    rw [opensLoopOrCondition, hhas "if (" infix_rfl]
    simp
  have hbrace : (conditionLine k c).contains '\x7b' = true := by simp [conditionLine]
  let r : Reading := ⟨p.lines, conditionLine k c, p.depth⟩
  have hlength : before.length < (r.indented before.length number).lines.length := by
    rw [length_indented]
    show _ < p.lines.length
    rw [hlines]
    simp
  obtain ⟨r', hplace⟩ : ∃ r', placeHeader (r.indented before.length number) before.length (condition (untilClose c) ++ ['\x7b']) =
      .ok r' := by
    cases hplace : placeHeader (r.indented before.length number) before.length (condition (untilClose c) ++ ['\x7b']) with
    | ok r' => exact ⟨r', rfl⟩
    | error e => exact absurd (mem_append_right _ (mem_singleton_self _)) ((placeHeader_eq_error hlength).mp hplace).1
  have hline := (placeHeader_eq_ok hplace).2
  have hopened : openBlock r before.length = .ok r' := by
    refine openBlock_eq r before.length ▸ bind_eq_ok.mpr ⟨b, index_eq_ok.mpr hfind, bind_eq_ok.mpr ⟨(number, position), ?_, ?_⟩⟩
    · show matchingBrace p.lines _ _ = _
      rw [hlines, hmatch]
    · rw [blockAt, decide_eq_false hnumber, Bool.false_and, if_neg (by decide), if_pos hopens, headerOf,
        if_pos (hhas "if" (by decide)), conditionHeader_eq]
      exact hplace
  have hheader : r'.line = condition (untilClose c) := by
    have habsent : '\x7b' ∉ condition (untilClose c) := by
      have : '\x7b' ∉ untilClose c := fun h => hc ((takeWhile_sublist _).subset h)
      simp [condition, this]
    rw [hline, replace_last_brace habsent]
  refine ⟨r', ?_, hheader, ?_⟩
  · unfold openLine
    dsimp only
    rw [hfunction, if_neg (by decide), hbrace, not_call_conditionLine hc, if_pos (by decide)]
    show (liftM (openBlock r before.length) >>= _ : Session _).runIn w = _
    rw [hopened]
    rfl
  · rw [hheader]
    cases k with
    | zero => simp [condition, untilClose_eq_self_iff]
    | succ k =>
      -- a header that is indented starts with a blank
      refine iff_of_false (fun h => ?_) (fun h => by cases h.1)
      rw [replicate_succ] at h
      exact absurd (cons.inj h).1 (by decide)

end Condition

theorem condition_header_kept_plain :
    ('\x7b' ∉ "a > 1".toList ∧ opensFunction (conditionLine 0 "a > 1".toList) = false) ∧
    ∃ r, (openLine "" { lines := [conditionLine 0 "a > 1".toList], output := [] } 0 (conditionLine 0 "a > 1".toList)).runIn {} =
      (.ok (some r), {}) ∧ r.line = "if (a > 1):".toList := by
  have hc : '\x7b' ∉ "a > 1".toList := by decide
  have hfunction : opensFunction (conditionLine 0 "a > 1".toList) = false := by decide
  have hlines : [conditionLine 0 "a > 1".toList] = [] ++ conditionLine 0 "a > 1".toList :: [] := rfl
  obtain ⟨r, hrun, -, hkept⟩ := condition_header_kept_iff hc ""
    (p := { lines := [conditionLine 0 "a > 1".toList], output := [] }) hlines hfunction {}
  exact ⟨⟨hc, hfunction⟩, r, hrun, hkept.mpr ⟨rfl, by decide⟩⟩

theorem condition_header_unindented :
    ∃ w, (convertCommand.call (request {} "in.js" "<TMP>/out.py")).runIn
        (deskWith "function f() \x7b\na\nif (g(a) > 1) \x7b\nb\n\x7d\n\x7d\n") =
      (.ok (.str "import ee \nfrom ee_plugin import Map\n\ndef f():\n    a\nif (g(a):\n        b\n\n\nm"), w) := ⟨_, rfl⟩

end RemoteSensing.Script
