import Mathlib.Data.Prod.Lex
import RemoteSensing.Proofs.Script.Brace

/-!
The partner of an opening bracket. A place is the number of a line and a position in it; `toLex` orders places as they
are read.
-/

namespace RemoteSensing.Script

open List Chars Except

variable {o c : Char} {d n s : Nat} {l : Line} {lines : List Line} {p : Nat × Nat}

/-- The text from the one place on up to the other, which is included. -/
def textBetween (lines : List Line) (p q : Nat × Nat) : List Char :=
  (((lines.drop p.1).take (q.1 - p.1)).flatten ++ (lines.getD q.1 []).take (q.2 + 1)).drop p.2

structure EvenAt (o c : Char) (lines : List Line) (p q : Nat × Nat) : Prop where
  place : q.2 < (lines.getD q.1 []).length
  behind : toLex p ≤ toLex q
  even : (textBetween lines p q).count o = (textBetween lines p q).count c

/-- Where the search enters a line: at the bracket, or at the beginning of a later line. -/
def enters (p : Nat × Nat) (s : Nat) : Nat := if s = p.1 then p.2 else 0

/-- How the search goes on behind line `s`. -/
def searchOn (o c : Char) (lines : List Line) (p : Nat × Nat) (left s : Nat) : Scan → Except Fault (Option (Int × Data))
  | .closed i => .ok (some ((s : Int), .int (enters p s + i : Nat)))
  | .pending d => matchingIn (linesValue lines) (.int p.2) o c p.1 left d (s + 1 : Nat)
  | .stray => .error .strayBracket

/-- One line of the search. -/
theorem matchingIn_succ (hget : lines[s]? = some l) (p : Nat × Nat) (left d : Nat) :
    matchingIn (linesValue lines) (.int p.2) o c p.1 (left + 1) d s =
      searchOn o c lines p left s (scanLine o c d 0 (l.drop (enters p s))) := by
  have hnth : (linesValue lines).nth s = pure (.str (String.ofList l)) :=
    Value.elementAt_natCast "list" (by rw [getElem?_map, hget]; rfl)
  have hitems : ∀ l, itemsOf (.str (String.ofList l)) = pure l := by
    intro l
    show ok (((String.ofList l).toList.map _).map _) = _
    rw [String.toList_ofList, map_map]
    refine congrArg ok ((map_congr_left fun x _ => ?_).trans (map_id l))
    dsimp only [Function.comp_apply]
    rw [String.toList_singleton]
    rfl
  rw [matchingIn, hnth, searchOn.eq_def, enters]
  by_cases hs : s = p.1
  · have hfrom : lineFrom (.str (String.ofList l)) (.int p.2) = pure (.str (String.ofList (l.drop p.2))) := by
      show ok (Value.str (String.ofList (slice (String.ofList l).toList p.2 (String.ofList l).length))) = _
      rw [String.toList_ofList, String.length_ofList, slice_from]
      rfl
    simp only [hs, if_true, pure_bind, hfrom, hitems]
    cases scanLine o c d 0 (l.drop p.2) <;> rfl
  · have hne : ¬ (s : Int) = p.1 := by omega
    simp only [if_neg hs, if_neg hne, pure_bind, hitems, drop_zero, Nat.zero_add]
    cases scanLine o c d 0 l <;> rfl

/-- How the converter tells a place and how the command does. -/
def told (found : Except Fault (Option (Int × Int))) : Except Fault (Option (Int × Data)) :=
  found.map (Option.map fun q => (q.1, .int q.2))

theorem matchingIn_eq_scanLines {rest : List Line} (h : lines.drop s = rest) (hs : p.1 < s) :
    matchingIn (linesValue lines) (.int p.2) o c p.1 rest.length d s = told (scanLines o c d (numbered s rest)) := by
  induction rest generalizing d s with
  | nil => rfl
  | cons l rest ih =>
    have hget : lines[s]? = some l := by rw [← head?_drop, h, head?_cons]
    have hrest : lines.drop (s + 1) = rest := by rw [← tail_drop, h, tail_cons]
    rw [length_cons, matchingIn_succ hget, numbered_cons, scanLines, enters, if_neg hs.ne', drop_zero]
    cases scanLine o c d 0 l with
    | closed i => simp [searchOn, enters, hs.ne', told, Except.map]
    | pending d => exact ih hrest (Nat.lt_succ_of_lt hs)
    | stray => rfl

/-- **The converter's search is the command's.** The command is handed its lines as data and reads them one at a time. -/
theorem matchingIn_eq_matching (hline : lines[p.1]? = some l) :
    matchingIn (linesValue lines) (.int p.2) o c p.1 (lines.length - p.1) 0 p.1 = told (matching? lines p.1 p.2 o c) := by
  obtain ⟨hlt, rfl⟩ := List.getElem?_eq_some_iff.mp hline
  have hleft : lines.length - p.1 = (lines.drop (p.1 + 1)).length + 1 := by
    rw [length_drop]
    omega
  rw [hleft, matchingIn_succ hline, matching?, searchLines_eq (drop_eq_getElem_cons hlt), enters, if_pos rfl]
  show _ = told (scanLines o c 0 _)
  rw [scanLines]
  cases scanLine o c 0 0 (lines[p.1].drop p.2) with
  | closed i => simp [searchOn, enters, told, Except.map]
  | pending d => exact matchingIn_eq_scanLines rfl (Nat.lt_succ_self _)
  | stray => rfl

/-- The text of the lines before number `s`, from the bracket on. -/
def textBefore (lines : List Line) (p : Nat × Nat) (s : Nat) : List Char :=
  ((lines.drop p.1).take (s - p.1)).flatten.drop p.2

section Search

variable {first : Line} (hline : lines[p.1]? = some first) (hp : first[p.2]? = some o) (hs : p.1 ≤ s)

include hline hp hs

theorem drop_before_append (x : List Char) :
    (((lines.drop p.1).take (s - p.1)).flatten ++ x).drop p.2 = textBefore lines p s ++ x.drop (enters p s) := by
  rw [drop_append, textBefore, enters]
  congr 2
  rcases hs.eq_or_lt with rfl | hlt
  · rw [Nat.sub_self, take_zero, if_pos rfl]
    rfl
  · obtain ⟨hlt', rfl⟩ := List.getElem?_eq_some_iff.mp hline
    have hle := (List.getElem?_eq_some_iff.mp hp).1.le
    rw [if_neg hlt.ne', Nat.sub_eq_zero_iff_le, drop_eq_getElem_cons hlt', show s - p.1 = (s - p.1 - 1) + 1 by omega,
      take_succ_cons, flatten_cons, length_append]
    exact hle.trans (Nat.le_add_right _ _)

theorem textBetween_eq (hget : lines[s]? = some l) (n : Nat) :
    textBetween lines p (s, enters p s + n) = textBefore lines p s ++ (l.drop (enters p s)).take (n + 1) := by
  rw [textBetween, drop_before_append hline hp hs, getD_eq_getElem?_getD, hget, Option.getD_some, drop_take, Nat.add_assoc,
    Nat.add_sub_cancel_left]

theorem textBefore_succ (hget : lines[s]? = some l) :
    textBefore lines p (s + 1) = textBefore lines p s ++ l.drop (enters p s) := by
  have hnext : (lines.drop p.1)[s - p.1]? = some l := by rw [getElem?_drop, Nat.add_sub_cancel' hs, hget]
  rw [← drop_before_append hline hp hs, textBefore, Nat.sub_add_comm hs, take_add_one, hnext, flatten_append,
    Option.toList_some, flatten_singleton]

end Search

/-- The search has come to line `s` with `d` open brackets. -/
structure Reached (o c : Char) (lines : List Line) (p : Nat × Nat) (d s : Nat) : Prop where
  start : p.1 ≤ s
  opened : 1 ≤ d ∨ s = p.1
  depth : (textBefore lines p s).count o = (textBefore lines p s).count c + d
  later : ∀ r, EvenAt o c lines p r → s ≤ r.1

/-- The search gives the first even place, from whatever line it has reached. -/
theorem Reached.matchingIn_eq (hoc : o ≠ c) {first : Line} (hline : lines[p.1]? = some first) (hp : first[p.2]? = some o)
    {left : Nat} (hleft : lines.length - s = left) (h : Reached o c lines p d s) :
    (∃ q, EvenAt o c lines p q ∧ (∀ r, EvenAt o c lines p r → toLex q ≤ toLex r) ∧
      matchingIn (linesValue lines) (.int p.2) o c p.1 left d s = .ok (some ((q.1 : Int), .int q.2))) ∨
    (∀ r, ¬ EvenAt o c lines p r) ∧ matchingIn (linesValue lines) (.int p.2) o c p.1 left d s = .ok none := by
  induction left generalizing s d with
  | zero =>
    refine .inr ⟨fun r hr => ?_, rfl⟩
    have hplace := hr.place
    rw [getD_eq_getElem?_getD, List.getElem?_eq_none (by have := h.later r hr; omega)] at hplace
    exact absurd hplace (Nat.not_lt_zero _)
  | succ left ih =>
    obtain ⟨l, hget⟩ : ∃ l, lines[s]? = some l := ⟨_, List.getElem?_eq_getElem (by omega)⟩
    have hhead : 1 ≤ d ∨ (l.drop (enters p s)).head? = some o := by
      refine h.opened.imp_right fun hs => ?_
      subst hs
      cases hline.symm.trans hget
      rw [enters, if_pos rfl, head?_drop, hp]
    -- the places of this line, as the scan counts them
    have hhere : ∀ m, EvenAt o c lines p (s, enters p s + m) ↔ m < (l.drop (enters p s)).length ∧
        ((l.drop (enters p s)).take (m + 1)).count c = ((l.drop (enters p s)).take (m + 1)).count o + d := by
      intro m
      have hdepth := h.depth
      have hlength : enters p s + m < (lines.getD s []).length ↔ m < (l.drop (enters p s)).length := by
        rw [getD_eq_getElem?_getD, hget, Option.getD_some, length_drop]
        omega
      have hbehind : toLex p ≤ toLex (s, enters p s + m) := by
        have := h.start
        rw [Prod.Lex.toLex_le_toLex, enters]
        split <;> omega
      constructor
      · rintro ⟨hplace, -, heven⟩
        rw [textBetween_eq hline hp h.start hget, count_append, count_append] at heven
        exact ⟨hlength.mp hplace, by omega⟩
      · rintro ⟨hplace, heven⟩
        refine ⟨hlength.mpr hplace, hbehind, ?_⟩
        rw [textBetween_eq hline hp h.start hget, count_append, count_append]
        omega
    have honly : ∀ r, EvenAt o c lines p r → (∃ m, r = (s, enters p s + m)) ∨ s + 1 ≤ r.1 := by
      intro r hr
      rcases (h.later r hr).eq_or_lt with rfl | hlt
      · refine .inl ⟨r.2 - enters p r.1, Prod.ext rfl ?_⟩
        have := Prod.Lex.toLex_le_toLex.mp hr.behind
        unfold enters
        split <;> simp only <;> omega
      · exact .inr hlt
    rw [matchingIn_succ hget]
    rcases scanLine_first hoc hhead with ⟨a, b, hsplit, hsum, hscan, hpending⟩ | ⟨d', hd', hsum, hscan, hpending⟩
    · have heven : EvenAt o c lines p (s, enters p s + a.length) := by
        refine (hhere a.length).mpr ⟨by simp [hsplit], ?_⟩
        rw [hsplit, take_length_add_append, take_succ_cons, take_zero, count_append, count_append, count_singleton_self,
          count_singleton, if_neg (by simpa using hoc.symm), hsum, Nat.add_zero]
      refine .inl ⟨_, heven, fun r hr => ?_, by rw [hsplit, hscan, Nat.zero_add]; rfl⟩
      rcases honly r hr with ⟨m, rfl⟩ | hlater
      · refine Prod.Lex.toLex_le_toLex.mpr (.inr ⟨rfl, Nat.add_le_add_left (Nat.le_of_not_lt fun hm => ?_) _⟩)
        exact (hpending m hm).ne ((hhere m).mp hr).2
      · exact Prod.Lex.toLex_le_toLex.mpr (.inl hlater)
    · rw [hscan]
      refine ih (by omega) ⟨h.start.trans (Nat.le_succ s), .inl hd', ?_, fun r hr => ?_⟩
      · have := h.depth
        rw [textBefore_succ hline hp h.start hget, count_append, count_append]
        omega
      · rcases honly r hr with ⟨m, rfl⟩ | hlater
        · obtain ⟨hm, heven⟩ := (hhere m).mp hr
          exact absurd heven (hpending m hm).ne
        · exact hlater

theorem ne_of_closing (h : closing? o = some c) : o ≠ c := by
  rintro rfl
  unfold closing? at h
  split at h <;> cases h

/-- **The partner of a bracket.** From a place where an opening bracket stands, the search gives the first place, as the
lines are read, up to which as many brackets are closed as were opened, and `(-1, -1)` if there is no such place. -/
theorem matching_bracket_found (hpair : closing? o = some c) {i k : Nat} (hl : lines[i]? = some l) (hk : l[k]? = some o) :
    ∃ answer : Int × Int,
      matchingCommand.Answers [linesValue lines, .int i, .int k, .str (String.singleton o)]
        (.tuple [.int answer.1, .int answer.2]) ∧
      (∀ q : Nat × Nat, answer = (↑q.1, ↑q.2) ↔
        EvenAt o c lines (i, k) q ∧ ∀ r, EvenAt o c lines (i, k) r → toLex q ≤ toLex r) ∧
      (answer = (-1, -1) ↔ ∀ q, ¬ EvenAt o c lines (i, k) q) := by
  have hreached : Reached o c lines (i, k) 0 i := by
    refine ⟨le_rfl, .inr rfl, ?_, fun r hr => ?_⟩
    · simp [textBefore]
    · have := Prod.Lex.toLex_le_toLex.mp hr.behind
      simp only at this
      omega
  have hanswers : ∀ {found answer}, matchingIn (linesValue lines) (.int k) o c i (lines.length - i) 0 i = .ok found →
      found.elim (.tuple [.int (-1), .int (-1)]) (fun e => .tuple [.int e.1, e.2]) = answer →
      matchingCommand.Answers [linesValue lines, .int i, .int k, .str (String.singleton o)] answer := by
    rintro found _ hmatch rfl w
    obtain ⟨a, hbind, hlines, hnumber, hstart, hchar⟩ : ∃ a, matchingCommand.bind [linesValue lines, .int i, .int k,
        .str (String.singleton o)] [] = .ok a ∧ a "lines" = linesValue lines ∧ a "start_line_index" = .int i ∧
        a "start_char_index" = .int k ∧ a "matching_char" = .str (String.singleton o) := ⟨_, rfl, rfl, rfl, rfl, rfl⟩
    have hlen : (linesValue lines).len = .ok lines.length := congrArg ok (length_map _)
    have hcount : ((lines.length : Int) - i).toNat = lines.length - i := by omega
    have hkey : (Value.str (String.singleton o) : Data).checkKey = .ok () := rfl
    rw [Command.runIn_call hbind]
    simp only [matchingCommand, hlines, hnumber, hstart, hchar, hkey, String.toList_singleton, hpair, Option.map_some, hlen,
      Value.index, Session.runIn_bind, Session.runIn_liftM, hcount, hmatch]
    cases found <;> rfl
  rcases hreached.matchingIn_eq (ne_of_closing hpair) hl hk rfl with ⟨p, heven, hfirst, hmatch⟩ | ⟨hnone, hmatch⟩
  · refine ⟨(p.1, p.2), hanswers hmatch rfl, fun q => ⟨fun h => ?_, fun h => ?_⟩, iff_of_false (fun h => ?_) fun h => h p heven⟩
    · have hq : p = q := by
        rw [Prod.mk.injEq] at h
        exact Prod.ext (by omega) (by omega)
      exact hq ▸ ⟨heven, hfirst⟩
    · rw [toLex.injective (le_antisymm (hfirst q h.1) (h.2 p heven))]
    · have := congrArg Prod.fst h
      omega
  · refine ⟨(-1, -1), hanswers hmatch rfl, fun q => ⟨fun h => ?_, fun h => absurd h.1 (hnone q)⟩, iff_of_true rfl hnone⟩
    have := congrArg Prod.fst h
    omega

def nestedLines : List Line := ["f(\x7b".toList, "\x7b\x7d)".toList, "\x7d".toList]

theorem matching_bracket_found_nested : closing? '\x7b' = some '\x7d' ∧ ∃ answer : Int × Int, answer ≠ (-1, -1) ∧
    matchingCommand.Answers [linesValue nestedLines, .int (0 : Nat), .int (2 : Nat), .str (String.singleton '\x7b')]
      (.tuple [.int answer.1, .int answer.2]) := by
  have hline : nestedLines[0]? = some "f(\x7b".toList := rfl
  have hplace : "f(\x7b".toList[2]? = some '\x7b' := rfl
  obtain ⟨answer, hanswers, -, hnone⟩ := matching_bracket_found rfl hline hplace
  exact ⟨rfl, answer, fun h => hnone.mp h (2, 0) ⟨by decide, by decide, by decide⟩, hanswers⟩

end RemoteSensing.Script
