import RemoteSensing.Proofs.Script.Brace
import RemoteSensing.Script.Block

/-!
When a function or a block cannot be opened.
-/

namespace RemoteSensing.Script

open List Chars Line Or

variable {e : Fault} {header l : Line} {lines : List Line} {b i : Nat} {r : Reading} {s : String}

def withoutRemark (l : Line) : Line :=
  if has l "/* color" && has l "*/" then
    trimLeft (l.take ((find? "/*".toList l).getD 0)) ++ l.drop ((find? "*/".toList l).getD 0 + 2)
  else l

/-- What is read of a line: neither the options of the map nor a remark on a colour. -/
def bare (l : Line) : Line := withoutRemark (if has l "Map.setOptions" then dropOptions 0 l else l)

theorem index_eq_ok : index l s = .ok b ↔ find? s.toList l = some b := by
  rw [index]
  cases find? s.toList l <;> simp

theorem index_eq_error : index l s = .error e ↔ ¬ s.toList <:+: l ∧ e = notFound := by
  rw [index, ← contains_iff, Chars.contains]
  cases find? s.toList l <;> simp [eq_comm]

theorem dropOptions_of_not_mem {a : Line} (ha : ',' ∉ a) (t : Line) : dropOptions 0 (a ++ t) = a ++ dropOptions 0 t := by
  induction a with
  | nil => rfl
  | cons c a ih =>
    rw [mem_cons, not_or] at ha
    rw [cons_append, dropOptions, if_neg (by simp [Ne.symm ha.1]), ih ha.2]
    rfl

theorem remark_found (h : (has l "/* color" && has l "*/") = true) :
    ∃ k n, find? "/*".toList l = some k ∧ find? "*/".toList l = some n := by
  rw [Bool.and_eq_true, has, contains_iff] at h
  -- a remark on a colour starts like any other
  have hstart : "/*".toList <:+: l := IsInfix.trans ⟨[], " color".toList, rfl⟩ h.1
  obtain ⟨k, hk⟩ := Option.isSome_iff_exists.mp (contains_iff.mpr hstart)
  obtain ⟨n, hn⟩ := Option.isSome_iff_exists.mp h.2
  exact ⟨k, n, hk, hn⟩

theorem dropColourRemark_eq (l : Line) : dropColourRemark l = .ok (withoutRemark l) := by
  unfold dropColourRemark withoutRemark
  split
  · rename_i h
    obtain ⟨k, n, hk, hn⟩ := remark_found h
    rw [index_eq_ok.mpr hk, index_eq_ok.mpr hn, hk, hn]
    rfl
  · rfl

def textFrom (lines : List Line) (i b : Nat) : List Char := (lines.getD i []).drop b ++ (lines.drop (i + 1)).flatten

/-- The first brace of a line is not where the script has it, and the search from its place meets a closing one. -/
def Displaced (lines : List Line) (i : Nat) (l : Line) : Prop :=
  ∃ b, find? ['\x7b'] l = some b ∧ (textFrom lines i b).head? = some '\x7d'

/-- With an open brace, a search never fails. -/
theorem scanLines_ok {d : Nat} (hd : 1 ≤ d) (found : List (Int × Int × Line)) :
    ∃ place, scanLines '\x7b' '\x7d' d found = .ok place := by
  induction found generalizing d with
  | nil => exact ⟨none, rfl⟩
  | cons x more ih =>
    obtain ⟨n, offset, l⟩ := x
    rw [scanLines]
    rcases scanLine_cases hd l with ⟨a, b, rfl, -, hscan⟩ | ⟨d', hd', -, hscan⟩
    · rw [hscan]
      exact ⟨_, rfl⟩
    · rw [hscan]
      exact ih hd'

/-- Without one, the first character decides. -/
theorem scanLines_error_iff (found : List (Int × Int × Line)) :
    scanLines '\x7b' '\x7d' 0 found = .error e ↔
      (found.map (·.2.2)).flatten.head? = some '\x7d' ∧ e = .strayBracket := by
  induction found with
  | nil => simp [scanLines]
  | cons x more ih =>
    obtain ⟨n, offset, _ | ⟨c, r⟩⟩ := x
    · exact ih
    · rw [scanLines, scanLine_cons, map_cons, flatten_cons, cons_append, head?_cons, Option.some_inj]
      by_cases hclose : c = '\x7d'
      · simp [hclose, eq_comm]
      · by_cases hopen : c = '\x7b'
        · rw [if_pos hopen]
          rcases scanLine_cases (Nat.le_refl 1) r with ⟨a, b, rfl, -, hscan⟩ | ⟨d, hd, -, hscan⟩
          · simp [hscan, hclose]
          · obtain ⟨place, hplace⟩ := scanLines_ok hd more
            simp [hscan, hplace, hclose]
        · simp [hopen, hclose]

/-- **When the search for a closing brace fails**: it starts at a closing one. -/
theorem matchingBrace_error_iff (hi : i < lines.length) (e : Fault) :
    matchingBrace lines i b = .error e ↔ (textFrom lines i b).head? = some '\x7d' ∧ e = .strayBracket := by
  have hbelow (s : Int) (xs : List Line) : (numbered s xs).map (·.2.2) = xs :=
    ext_getElem (by simp [numbered]) fun k _ _ => by simp [numbered]
  rw [matchingBrace, matching?, searchLines_eq (drop_eq_getElem_cons hi), textFrom]
  refine bind_eq_error.trans ((or_iff_left ?_).trans ((scanLines_error_iff _).trans ?_))
  · rintro ⟨place, -, hnot⟩
    cases hnot
  · rw [map_cons, hbelow, flatten_cons, getD_eq_getElem?_getD, getElem?_eq_getElem hi]
    rfl

theorem not_displaced (h : lines.getD i [] = l) : ¬ Displaced lines i l := by
  rintro ⟨b, hb, hhead⟩
  obtain ⟨a, tail, _, _, hdrop⟩ := drop_of_find hb
  rw [textFrom, h, hdrop, cons_append, head?_cons, Option.some_inj] at hhead
  exact absurd hhead (by decide)

theorem displaced_iff (hi : i < lines.length) (hb : find? ['\x7b'] l = some b) :
    Displaced lines i l ↔ matchingBrace lines i b = .error .strayBracket := by
  rw [matchingBrace_error_iff hi, and_iff_left rfl]
  exact ⟨fun ⟨b', hb', hhead⟩ => Option.some_inj.mp (hb.symm.trans hb') ▸ hhead, fun h => ⟨b, hb, h⟩⟩

/-- Before a line is opened, its brace is looked for, and the place where it is closed. -/
theorem brace_eq_error {α : Type} {f : Nat → Int × Int → Except Fault α} (hi : i < lines.length) :
    (index l "\x7b" >>= fun b => matchingBrace lines i b >>= f b) = .error e ↔
      '\x7b' ∉ l ∧ e = notFound ∨ Displaced lines i l ∧ e = .strayBracket ∨
        ∃ b m, find? ['\x7b'] l = some b ∧ matchingBrace lines i b = .ok m ∧ f b m = .error e := by
  rw [bind_eq_error, index_eq_error]
  refine or_congr (and_congr_left' (not_congr (singleton_infix_iff _ l))) ?_
  simp only [index_eq_ok, bind_eq_error]
  constructor
  · rintro ⟨b, hb, herror | ⟨m, hm, hf⟩⟩
    · obtain ⟨hhead, rfl⟩ := (matchingBrace_error_iff hi e).mp herror
      exact inl ⟨⟨b, hb, hhead⟩, rfl⟩
    · exact inr ⟨b, m, hb, hm, hf⟩
  · rintro (⟨⟨b, hb, hhead⟩, rfl⟩ | ⟨b, m, hb, hm, hf⟩)
    · exact ⟨b, hb, inl ((matchingBrace_error_iff hi _).mpr ⟨hhead, rfl⟩)⟩
    · exact ⟨b, hb, inr ⟨m, hm, hf⟩⟩

theorem length_setLine (lines : List Line) (i : Int) (l : Line) : (setLine lines i l).length = lines.length :=
  length_set

def Braceless (lines : List Line) (i : Nat) (l : Line) : Prop := '\x7b' ∉ l ∨ Displaced lines i l

/-- **When a function cannot be opened**: for want of a brace. -/
theorem openFunction_fails_iff (hi : i < r.lines.length) :
    (∃ e, openFunction r i = .error e) ↔ Braceless r.lines i r.line := by
  simp only [openFunction, brace_eq_error hi]
  constructor
  · rintro ⟨e, ⟨hnot, -⟩ | ⟨hplace, -⟩ | ⟨b, ⟨number, position⟩, -, -, h⟩⟩
    · exact inl hnot
    · exact inr hplace
    · split at h <;> cases h
  · rintro (hnot | hplace)
    · exact ⟨_, inl ⟨hnot, rfl⟩⟩
    · exact ⟨_, inr (inl ⟨hplace, rfl⟩)⟩

theorem openFunction_eq_ok {r' : Reading} (h : openFunction r i = .ok r') :
    r'.lines.length = r.lines.length ∧ ∃ b number position, find? ['\x7b'] r.line = some b ∧
      matchingBrace r.lines i b = .ok (number, position) ∧
      r'.line = functionHeader (if number = i then cut (cut r.line b) position else cut r.line b) := by
  obtain ⟨b, hb, h⟩ := bind_eq_ok.mp h
  obtain ⟨⟨number, position⟩, hm, h⟩ := bind_eq_ok.mp h
  have hlines : (if has r.line "func_" then r.lines else indentBetween r.lines i number (r.depth + 1)).length =
      r.lines.length := by
    split
    · rfl
    · rw [indentBetween, length_mapIdx]
  dsimp only at h
  split at h
  · rename_i hown
    cases h
    exact ⟨hlines, b, number, position, index_eq_ok.mp hb, hm, by rw [if_pos hown]⟩
  · rename_i hown
    cases h
    exact ⟨(length_setLine _ _ _).trans hlines, b, number, position, index_eq_ok.mp hb, hm, by rw [if_neg hown]⟩

def clausesOf (l : Line) : Line :=
  let l := replace l "var " ""
  slice l ((find? ['('] l).getD 0 + 1 : Nat) ((find? [')'] l).getD 0 : Nat)

def fewClauses (l : Line) : Bool :=
  !(has (clausesOf l) " in " && !(clausesOf l).contains ';') && decide ((clausesOf l).count ';' < 2)

/-- Why the header of a loop or a condition cannot be turned. -/
inductive HeaderFault (l : Line) : Fault → Prop where
  | parenthesis (hclose : ')' ∉ l) : HeaderFault l notFound
  | clauses (hclose : ')' ∈ l) (hloop : has l "if" = false) (hfew : fewClauses l = true) :
      HeaderFault l (.outOfRange "list")
  | brace {l' : Line} (hloop : has l "if" = false) (hturn : convertLoop l = .ok l') (hlost : '\x7b' ∉ l') :
      HeaderFault l notFound

theorem rangeOf_eq_error (c : Line) : rangeOf c = .error e ↔ c.count ';' < 2 ∧ e = .outOfRange "list" := by
  have hlength : ((split [';'] c).map lastWord).length = c.count ';' + 1 := by
    rw [length_map, length_split]
  unfold rangeOf
  rcases hwords : (split [';'] c).map lastWord with _ | ⟨start, _ | ⟨stop, _ | ⟨step, rest⟩⟩⟩
  all_goals
    rw [hwords] at hlength
    simp only [length_cons, length_nil] at hlength
  · omega
  · simp [show c.count ';' < 2 by omega, eq_comm]
  · simp [show c.count ';' < 2 by omega, eq_comm]
  · simp [show ¬ c.count ';' < 2 by omega]

theorem parentheses_eq_error {α : Type} {f : Nat → Nat → Except Fault α} (hopen : '(' ∈ l) :
    (index l "(" >>= fun start => index l ")" >>= f start) = .error e ↔ ')' ∉ l ∧ e = notFound ∨
      ')' ∈ l ∧ f ((find? ['('] l).getD 0) ((find? [')'] l).getD 0) = .error e := by
  obtain ⟨start, hstart⟩ := find?_of_mem hopen
  have hfirst : index l "(" = .ok start := index_eq_ok.mpr hstart
  rw [hfirst, hstart]
  show (index l ")" >>= f start) = _ ↔ _
  refine bind_eq_error.trans (or_congr ?_ ?_)
  · rw [index_eq_error]
    exact and_congr_left' (not_congr (singleton_infix_iff _ l))
  · simp only [index_eq_ok]
    constructor
    · rintro ⟨stop, hstop, h⟩
      have hstop : find? [')'] l = some stop := hstop
      refine ⟨by_contra fun hnot => ?_, by rw [hstop]; exact h⟩
      rw [find?_eq_none_iff.mpr hnot] at hstop
      cases hstop
    · rintro ⟨hclose, h⟩
      obtain ⟨stop, hstop⟩ := find?_of_mem hclose
      rw [hstop] at h
      exact ⟨stop, hstop, h⟩

/-- **When a loop cannot be turned.** -/
theorem convertLoop_eq_error (hopen : '(' ∈ l) : convertLoop l = .error e ↔
    ')' ∉ l ∧ e = notFound ∨ ')' ∈ l ∧ fewClauses l = true ∧ e = .outOfRange "list" := by
  have hmem : ∀ c ∈ ['(', ')'], (c ∈ Line.replace l "var " "" ↔ c ∈ l) := by
    intro c hc
    have hcount : (replace "var ".toList [] l).count c = l.count c :=
      count_replace (by decide) (by revert c; decide) rfl l
    rw [← count_pos_iff, ← count_pos_iff, Line.replace]
    exact Iff.of_eq (congrArg (0 < ·) hcount)
  refine (parentheses_eq_error ((hmem '(' (by simp)).mpr hopen)).trans ?_
  rw [hmem ')' (by simp)]
  refine or_congr_right (and_congr_right fun _ => ?_)
  -- what becomes of the clauses decides
  show (if has (clausesOf l) " in " && !(clausesOf l).contains ';' then _ else rangeOf (clausesOf l) >>= _) = _ ↔ _
  rw [fewClauses]
  cases has (clausesOf l) " in " && !(clausesOf l).contains ';' with
  | true => exact ⟨nofun, nofun⟩
  | false =>
    rw [if_neg (by decide), bind_eq_error, rangeOf_eq_error, or_iff_left (by rintro ⟨header, -, h⟩; cases h)]
    simp

theorem conditionHeader_eq_error (hopen : '(' ∈ l) : conditionHeader l = .error e ↔ ')' ∉ l ∧ e = notFound :=
  (parentheses_eq_error hopen).trans (or_iff_left fun h => nomatch h.2)

theorem mem_conditionHeader (h : conditionHeader l = .ok header) : '\x7b' ∈ header := by
  obtain ⟨start, -, h⟩ := bind_eq_ok.mp h
  obtain ⟨stop, -, h⟩ := bind_eq_ok.mp h
  cases h
  exact mem_append_right _ (by decide)

def OwnLine (lines : List Line) (i : Nat) (l : Line) : Prop :=
  ∃ b p, find? ['\x7b'] l = some b ∧ matchingBrace lines i b = .ok ((i : Int), p)

/-- Why a block cannot be opened. -/
inductive BlockFault (lines : List Line) (i : Nat) (l : Line) : Fault → Prop where
  | displaced (h : Displaced lines i l) : BlockFault lines i l .strayBracket
  /-- It is a loop or a condition, not an object on one line, and its header cannot be turned. -/
  | header {e : Fault} (hplace : ¬ Displaced lines i l) (hopens : opensLoopOrCondition l = true)
      (hown : ¬ (OwnLine lines i l ∧ ':' ∈ l)) (hfault : HeaderFault l e) : BlockFault lines i l e

def Reading.indented (r : Reading) (i : Nat) (number : Int) : Reading :=
  let body := linesBetween r.lines (i + 1) number
  let inside := indentBlock (!has r.line "if" && !has r.line "for") (r.depth + 1) body
  { r with
    lines := r.lines.take (i + 1) ++ inside.1 ++ r.lines.drop (i + 1 + body.length)
    depth := inside.2 - 1 }

def headerOf (l : Line) : Except Fault Line := if has l "if" then conditionHeader l else convertLoop l

def placeHeader (r : Reading) (i : Nat) (header : Line) : Except Fault Reading := do
  let lines := r.lines.set i header
  let brace ← index header "\x7b"
  let (number, position) ← matchingBrace lines i brace
  let closed := cut (lineAt lines number) position
  pure { r with lines := setLine lines number closed, line := replace header "\x7b" "" }

def blockAt (r : Reading) (i : Nat) (number : Int) : Except Fault Reading :=
  if number = i && has r.line ":" then .ok (r.indented i number)
  else if opensLoopOrCondition r.line then headerOf r.line >>= placeHeader (r.indented i number) i
  else .ok (r.indented i number)

theorem openBlock_eq (r : Reading) (i : Nat) : openBlock r i =
    index r.line "\x7b" >>= fun b => matchingBrace r.lines i b >>= fun m => blockAt r i m.1 := by
  unfold openBlock blockAt headerOf
  cases hif : has r.line "if" with
  | true =>
    simp only [Reading.indented, hif]
    rfl
  | false =>
    simp only [Reading.indented, hif]
    rfl

theorem length_indentBlock (plain : Bool) (d : Int) (lines : List Line) :
    (indentBlock plain d lines).1.length = lines.length := by
  induction lines generalizing d with
  | nil => rfl
  | cons l rest ih =>
    exact congrArg (· + 1) (ih _)

theorem length_indented (r : Reading) (i : Nat) (number : Int) :
    (r.indented i number).lines.length = r.lines.length := by
  have hbody : (linesBetween r.lines (i + 1) number).length ≤ r.lines.length - (i + 1) := by
    rw [linesBetween, length_drop, length_take]
    omega
  simp only [Reading.indented, length_append, length_take, length_drop, length_indentBlock]
  omega

theorem mem_of_opensLoopOrCondition {l : Line} (h : opensLoopOrCondition l = true) : '(' ∈ l := by
  have hmem : ∀ s : String, '(' ∈ s.toList → has l s = true → '(' ∈ l := by
    intro s hs hhas
    rw [has, contains_iff] at hhas
    exact hhas.subset hs
  rw [opensLoopOrCondition, Bool.or_eq_true, Bool.or_eq_true, Bool.or_eq_true] at h
  rcases h with ((h | h) | h) | h
  · exact hmem _ (by decide) h
  · exact hmem _ (by decide) h
  · exact hmem _ (by decide) h
  · exact hmem _ (by decide) h

/-- **When a header cannot be turned**, or has no brace once it is. -/
theorem headerFault_iff (hopen : '(' ∈ l) : HeaderFault l e ↔
    headerOf l = .error e ∨ ∃ header, headerOf l = .ok header ∧ '\x7b' ∉ header ∧ e = notFound := by
  rw [headerOf]
  cases hif : has l "if" with
  | true =>
    rw [if_pos rfl, conditionHeader_eq_error hopen]
    constructor
    · rintro (hclose | ⟨-, hloop, -⟩ | ⟨hloop, -, -⟩)
      · exact inl ⟨hclose, rfl⟩
      · exact absurd (hif.symm.trans hloop) (by decide)
      · exact absurd (hif.symm.trans hloop) (by decide)
    · rintro (⟨hclose, rfl⟩ | ⟨header, hheader, hlost, -⟩)
      · exact .parenthesis hclose
      · exact absurd (mem_conditionHeader hheader) hlost
  | false =>
    rw [if_neg (by decide), convertLoop_eq_error hopen]
    constructor
    · rintro (hclose | ⟨hclose, -, hfew⟩ | ⟨-, hturn, hlost⟩)
      · exact inl (inl ⟨hclose, rfl⟩)
      · exact inl (inr ⟨hclose, hfew, rfl⟩)
      · exact inr ⟨_, hturn, hlost, rfl⟩
    · rintro ((⟨hclose, rfl⟩ | ⟨hclose, hfew, rfl⟩) | ⟨header, hturn, hlost, rfl⟩)
      · exact .parenthesis hclose
      · exact .clauses hclose hif hfew
      · exact .brace hif hturn hlost

theorem placeHeader_eq_error (hi : i < r.lines.length) :
    placeHeader r i header = .error e ↔ '\x7b' ∉ header ∧ e = notFound := by
  have hget : (r.lines.set i header).getD i [] = header := by
    rw [getD_eq_getElem?_getD, getElem?_set_self hi]
    rfl
  refine (brace_eq_error (by rw [length_set]; exact hi)).trans (or_iff_left ?_)
  rintro (⟨hplace, -⟩ | ⟨b, ⟨number, position⟩, -, -, h⟩)
  · exact not_displaced hget hplace
  · cases h

theorem placeHeader_eq_ok {r' : Reading} (h : placeHeader r i header = .ok r') :
    r'.lines.length = r.lines.length ∧ r'.line = replace header "\x7b" "" := by
  obtain ⟨b, -, h⟩ := bind_eq_ok.mp h
  obtain ⟨⟨number, position⟩, -, h⟩ := bind_eq_ok.mp h
  cases h
  exact ⟨(length_setLine _ _ _).trans length_set, rfl⟩

section Block

variable {m : Int × Int} (hb : find? ['\x7b'] r.line = some b) (hm : matchingBrace r.lines i b = .ok m)

include hb hm

theorem isObject_iff : (decide (m.1 = i) && has r.line ":") = true ↔ OwnLine r.lines i r.line ∧ ':' ∈ r.line := by
  rw [Bool.and_eq_true, decide_eq_true_iff]
  refine and_congr ⟨?_, ?_⟩ (contains_iff.trans (singleton_infix_iff ':' r.line))
  · intro hown
    exact ⟨b, m.2, hb, by rw [hm, ← hown]⟩
  · rintro ⟨b', p, hb', hp⟩
    rw [← Option.some_inj.mp (hb.symm.trans hb'), hm] at hp
    rw [Except.ok.inj hp]

theorem blockAt_eq_error (hi : i < r.lines.length) : blockAt r i m.1 = .error e ↔
    opensLoopOrCondition r.line = true ∧ ¬ (OwnLine r.lines i r.line ∧ ':' ∈ r.line) ∧ HeaderFault r.line e := by
  rw [blockAt, ← isObject_iff hb hm]
  by_cases hobject : (decide (m.1 = i) && has r.line ":") = true
  · rw [if_pos hobject]
    exact ⟨nofun, fun h => absurd hobject h.2.1⟩
  · rw [if_neg hobject, and_iff_right hobject]
    by_cases hopens : opensLoopOrCondition r.line = true
    · rw [if_pos hopens, and_iff_right hopens, bind_eq_error, headerFault_iff (mem_of_opensLoopOrCondition hopens)]
      simp only [placeHeader_eq_error (show i < (r.indented i m.1).lines.length by rw [length_indented]; exact hi)]
    · rw [if_neg hopens]
      exact ⟨nofun, fun h => absurd h.1 hopens⟩

end Block

/-- **When a block cannot be opened.** -/
theorem openBlock_error_iff (hi : i < r.lines.length) (hbrace : '\x7b' ∈ r.line) :
    openBlock r i = .error e ↔ BlockFault r.lines i r.line e := by
  rw [openBlock_eq, brace_eq_error hi]
  constructor
  · rintro (⟨hnot, -⟩ | ⟨hplace, rfl⟩ | ⟨b, m, hb, hm, h⟩)
    · exact absurd hbrace hnot
    · exact .displaced hplace
    · obtain ⟨hopens, hnot, hfault⟩ := (blockAt_eq_error hb hm hi).mp h
      exact .header (by rw [displaced_iff hi hb, hm]; nofun) hopens hnot hfault
  · rintro (hplace | ⟨hplace, hopens, hnot, hfault⟩)
    · exact inr (inl ⟨hplace, rfl⟩)
    · obtain ⟨b, hb⟩ := find?_of_mem hbrace
      cases hm : matchingBrace r.lines i b with
      | error f => exact absurd ⟨b, hb, ((matchingBrace_error_iff hi f).mp hm).1⟩ hplace
      | ok m => exact inr (inr ⟨b, m, hb, hm, (blockAt_eq_error hb hm hi).mpr ⟨hopens, hnot, hfault⟩⟩)

/-- A block that is opened has as many lines as before. -/
theorem openBlock_eq_ok {r' : Reading} (h : openBlock r i = .ok r') : r'.lines.length = r.lines.length ∧
    (r'.line = r.line ∧ (opensLoopOrCondition r.line = true → OwnLine r.lines i r.line ∧ ':' ∈ r.line) ∨
      '\x7b' ∉ r'.line ∧ opensLoopOrCondition r.line = true ∧ ¬ (OwnLine r.lines i r.line ∧ ':' ∈ r.line)) := by
  rw [openBlock_eq] at h
  obtain ⟨b, hb, h⟩ := bind_eq_ok.mp h
  obtain ⟨m, hm, h⟩ := bind_eq_ok.mp h
  have hobject := isObject_iff (index_eq_ok.mp hb) hm
  rw [blockAt] at h
  split at h
  · rename_i hown
    cases h
    exact ⟨length_indented r i m.1, inl ⟨rfl, fun _ => hobject.mp hown⟩⟩
  · rename_i hown
    split at h
    · rename_i hopens
      obtain ⟨header, -, h⟩ := bind_eq_ok.mp h
      obtain ⟨hlines, hline⟩ := placeHeader_eq_ok h
      refine ⟨hlines.trans (length_indented r i m.1), inr ⟨?_, hopens, fun h => hown (hobject.mpr h)⟩⟩
      rw [hline]
      exact not_mem_replace_singleton (by decide) header
    · rename_i hopens
      cases h
      exact ⟨length_indented r i m.1, inl ⟨rfl, fun h => absurd h hopens⟩⟩

end RemoteSensing.Script
