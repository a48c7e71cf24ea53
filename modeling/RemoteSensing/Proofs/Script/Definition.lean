import RemoteSensing.Proofs.Script.Flat
import RemoteSensing.Proofs.Script.Finished

/-!
Functions become definitions.
-/

namespace RemoteSensing.Script

open List Session Chars
open Line (replace starts cut)

variable {h l : Line} {i : Nat}

/-- A beginning that is there when a line is read and when its braces are taken away. -/
structure Visible (h : Line) : Prop where
  marks : ',' ∉ h ∧ '/' ∉ h ∧ '\x7b' ∉ h
  first : Text.isBlank (h.headD ' ') = false

theorem prefix_dropOptions (hcomma : ',' ∉ h) (hl : h <+: l) : h <+: dropOptions 0 l := by
  obtain ⟨t, rfl⟩ := hl
  rw [dropOptions_of_not_mem hcomma]
  exact prefix_append h _

theorem trimLeft_of_visible (hh : Visible h) (hl : h <+: l) : trimLeft l = l := by
  obtain ⟨t, rfl⟩ := hl
  cases h with
  | nil => exact absurd hh.first (by decide)
  | cons c h => exact dropWhile_cons_of_neg (by simpa using hh.first)

theorem prefix_withoutRemark (hh : Visible h) (hl : h <+: l) : h <+: withoutRemark l := by
  unfold withoutRemark
  split
  · rename_i hremark
    obtain ⟨k, -, hk, -⟩ := remark_found hremark
    obtain ⟨a, b, rfl, rfl⟩ := find?_eq_some hk
    have ha : h <+: a := by
      refine prefix_of_prefix_append_cons (c := '/') (b := '*' :: b) hh.marks.2.1 ?_
      simpa using hl
    rw [hk, Option.getD_some, append_assoc, take_left, trimLeft_of_visible hh ha]
    exact ha.trans (prefix_append a _)
  · exact hl

theorem prefix_bare (hh : Visible h) (hl : h <+: l) : h <+: bare l := by
  refine prefix_withoutRemark hh ?_
  split
  · exact prefix_dropOptions hh.marks.1 hl
  · exact hl

theorem mem_of_scanLines {d : Nat} {lines : List (Int × Int × Line)} {n q : Int}
    (h : scanLines '\x7b' '\x7d' d lines = .ok (some (n, q))) : ∃ e ∈ lines, e.1 = n ∧ e.2.1 ≤ q := by
  induction lines generalizing d with
  | nil => cases h
  | cons e rest ih =>
    obtain ⟨number, offset, l⟩ := e
    rw [scanLines] at h
    split at h
    · cases h
      exact ⟨_, mem_cons_self, rfl, by dsimp only; omega⟩
    · obtain ⟨e, he, hn, hq⟩ := ih h
      exact ⟨e, mem_cons_of_mem _ he, hn, hq⟩
    · cases h

theorem le_of_matchingBrace {lines : List Line} {b : Nat} (hi : i < lines.length) {p : Int}
    (h : matchingBrace lines i b = .ok ((i : Int), p)) : (b : Int) ≤ p := by
  rw [matchingBrace, matching?, searchLines_eq (drop_eq_getElem_cons hi)] at h
  obtain ⟨found, hfound, hpair⟩ := bind_eq_ok.mp h
  have hscan : scanLines '\x7b' '\x7d' 0 _ = .ok found := hfound
  cases found with
  | none =>
    have hnumber : ((-1 : Int), (-1 : Int)) = ((i : Int), p) := Except.ok.inj hpair
    exact absurd (Prod.ext_iff.mp hnumber).1 (by dsimp only; omega)
  | some e =>
    obtain rfl : e = ((i : Int), p) := Except.ok.inj hpair
    obtain ⟨e, he, hn, hq⟩ := mem_of_scanLines hscan
    rcases mem_cons.mp he with rfl | hrest
    · exact hq
    · obtain ⟨k, _, rfl⟩ := mem_mapIdx.mp hrest
      omega

theorem prefix_cut {p : Int} (hl : h <+: l) (hp : (h.length : Int) ≤ p) : h <+: cut l p := by
  obtain ⟨k, rfl⟩ : ∃ k : Nat, p = k := ⟨p.toNat, by omega⟩
  rw [cut, slice_to]
  have htake : h <+: l.take k := prefix_take_iff.mpr ⟨hl, by omega⟩
  exact htake.trans (prefix_append _ _)

/-- **A function that is opened keeps its beginning**, up to its header. -/
theorem openFunction_line {r r' : Reading} (hi : i < r.lines.length) (hh : Visible h) (hl : h <+: r.line)
    (hopen : openFunction r i = .ok r') : ∃ l, r'.line = functionHeader l ∧ h <+: l := by
  obtain ⟨-, b, number, position, hfind, hmatch, hline⟩ := openFunction_eq_ok hopen
  -- the brace stands behind the beginning
  have hbrace : h.length ≤ b := by
    obtain ⟨x, y, hsplit, rfl⟩ := find?_eq_some hfind
    rw [hsplit, append_assoc] at hl
    exact (prefix_of_prefix_append_cons (b := y) hh.marks.2.2 hl).length_le
  have hcut : h <+: cut r.line b := prefix_cut hl (by omega)
  refine ⟨_, hline, ?_⟩
  split
  · rename_i hown
    subst hown
    have hposition := le_of_matchingBrace hi hmatch
    exact prefix_cut hcut (by omega)
  · exact hcut

def stripped (l : Line) : Line :=
  replace (replace (replace l " = function" "") "=function" "") "function " ""

theorem prefix_functionHeader {v : Line} (hv : Visible v) {a : Line} {c : Char} (hlast : v = a ++ [c])
    (hc : Text.isBlank c = false) (hl : v <+: stripped l) : "def ".toList ++ v <+: functionHeader l := by
  have hleft : trimLeft (stripped l) = stripped l := trimLeft_of_visible hv hl
  have hslash : starts (stripped l) "//" = false := by
    rw [starts, Bool.eq_false_iff]
    intro hstart
    obtain ⟨t, ht⟩ := isPrefixOf_iff_prefix.mp hstart
    rw [← ht] at hl
    cases v with
    | nil => exact absurd hv.first (by decide)
    | cons x v =>
      obtain ⟨rfl, -⟩ := cons_prefix_cons.mp hl
      exact hv.marks.2.1 mem_cons_self
  change _ <+: if starts (trimLeft (stripped l)) "//" then _ else
    replicate ((stripped l).length - (trimLeft (stripped l)).length) ' ' ++ "def ".toList ++
      Line.trim (stripped l) ++ [':']
  rw [hleft, hslash, if_neg (by decide), Nat.sub_self, replicate_zero, nil_append, Line.trim, trim, hleft,
    append_assoc, prefix_append_right_inj]
  subst hlast
  exact (prefix_trimRight hc hl).trans (prefix_append _ _)

/-- How lines begin that are read as functions: an assignment of a text, and a function that was given a name. -/
def functionStarts : List Line := ["var x = '".toList, "function func_".toList]

def definitionStarts : List Line := ["def var x = '".toList, "def x = '".toList, "def func_".toList]

def Defines (l : Line) : Prop := ∃ h ∈ definitionStarts, h <+: l

theorem visible_functionStarts : ∀ h ∈ functionStarts, Visible h := by
  have hstarts : ∀ h ∈ functionStarts, (',' ∉ h ∧ '/' ∉ h ∧ '\x7b' ∉ h) ∧ Text.isBlank (h.headD ' ') = false := by decide
  exact fun h hmem => ⟨(hstarts h hmem).1, (hstarts h hmem).2⟩

/-- **The header of a function begins with a definition.** -/
theorem functionHeader_start (hmem : h ∈ functionStarts) (hl : h <+: l) : Defines (functionHeader l) := by
  have hreplace : ∀ {h l : Line} {old new : String}, old.toList ≠ [] ∧ Apart h old.toList → h <+: l →
      h <+: replace l old new := fun hold hl => prefix_replace hold.1 hold.2 _ hl
  have hvisible : Visible "func_".toList := ⟨by decide, by decide⟩
  rw [functionStarts, mem_pair] at hmem
  rcases hmem with rfl | rfl
  · have hstripped : "var x = '".toList <+: stripped l := by
      exact hreplace (by decide) (hreplace (by decide) (hreplace (by decide) hl))
    refine ⟨_, ?_, prefix_functionHeader (visible_functionStarts _ (by decide)) (a := "var x = ".toList) (c := '\'') (by decide)
      (by decide) hstripped⟩
    exact mem_cons_self
  · have hinner : "function func_".toList <+: replace (replace l " = function" "") "=function" "" :=
      hreplace (by decide) (hreplace (by decide) hl)
    obtain ⟨t, ht⟩ := hinner
    have hstripped : "func_".toList <+: stripped l := by
      have hfound : replace "function ".toList [] ("function ".toList ++ ("func_".toList ++ t)) =
          "func_".toList ++ replace "function ".toList [] t := by
        rw [replace_found (by decide), nil_append, replace_append_of_apart (by decide) (by decide)]
      rw [stripped, ← ht]
      exact ⟨_, hfound.symm⟩
    refine ⟨_, ?_, prefix_functionHeader hvisible (a := "func".toList) (c := '_') (by decide) (by decide) hstripped⟩
    exact mem_cons_of_mem _ (mem_cons_of_mem _ mem_cons_self)

theorem sturdy_definitionStarts : ∀ h ∈ definitionStarts, Sturdy h := by
  have hwords : ∀ w ∈ stageWords, w.toList ≠ [] ∧ ∀ h ∈ definitionStarts, Apart h w.toList := by decide +kernel
  have hmarks : ∀ h ∈ definitionStarts, "def".toList <+: h ∧ '#' ∉ h ∧ ')' ∉ h := by decide
  have hlast : ∀ h ∈ definitionStarts, h = h.dropLast ++ [h.getLastD ' '] ∧ Text.isBlank (h.getLastD ' ') = false ∧
      h.getLastD ' ' ∉ [',', ';', '\x7b'] := by decide
  intro h hmem
  exact ⟨fun w hw => ⟨(hwords w hw).1, (hwords w hw).2 h hmem⟩, (hmarks h hmem).1, (hmarks h hmem).2,
    ⟨_, _, hlast h hmem⟩⟩

theorem lasting_defines (m : String) : Lasting m Defines := by
  refine lasting_of_sturdy sturdy_definitionStarts ?_ m
  have hapart : ∀ h ∈ ["def x = '".toList, "def func_".toList], Apart h "var ".toList := by decide
  intro h hmem l hl
  rcases mem_cons.mp hmem with rfl | hmem
  · obtain ⟨t, rfl⟩ := hl
    exact ⟨"def x = '".toList, by decide, t, rfl⟩
  · exact ⟨h, mem_cons_of_mem _ hmem, prefix_replaceFirst (hapart h hmem) [] hl⟩

/-- **A line that is read as a function is put out as a definition.** -/
theorem output_definition {o : Options} {p q : Progress} (hi : i < p.lines.length) (hp : p.assigning = false)
    (hmem : h ∈ functionStarts) (hl : h <+: p.lines.getD i [])
    (hfunction : opensFunction (bare (p.lines.getD i [])) = true) (hstep : lineStep o p i = .ok (some q)) :
    ∃ h' ∈ definitionStarts, p.output ++ h' <+: q.output := by
  have hvisible := visible_functionStarts h hmem
  obtain ⟨r, hopened, hrun⟩ := lineStep_eq_some.mp hstep
  rw [opened, if_pos hfunction] at hopened
  cases hopen : openFunction ⟨p.lines, bare (p.lines.getD i []), p.depth⟩ i with
  | error e =>
    rw [hopen] at hopened
    cases hopened
  | ok r' =>
    rw [hopen] at hopened
    obtain rfl : r' = r := Option.some_inj.mp (Except.ok.inj hopened)
    obtain ⟨l, hline, hstart⟩ := openFunction_line hi hvisible (prefix_bare hvisible hl) hopen
    have hheader : Defines r'.line := by
      rw [hline]
      exact functionHeader_start hmem hstart
    have hassigning : ({ p with lines := r'.lines, depth := r'.depth } : Progress).assigning = false := hp
    have hlasting : Lasting o.mapName Defines := lasting_defines o.mapName
    obtain ⟨p', l', rfl, ⟨h', hmem', hl'⟩, houtput⟩ := hlasting.finished hassigning hheader hrun
    have hdot : starts (trimLeft l') "." = false := by
      obtain ⟨t, rfl⟩ := (sturdy_definitionStarts h' hmem').defines.trans hl'
      rfl
    refine ⟨h', hmem', ?_⟩
    rw [putOut, hdot, if_neg (by decide)]
    rw [houtput, append_assoc, prefix_append_right_inj]
    exact hl'.trans (prefix_append l' _)

theorem moveBody_output {body : List Line} {h : Hoisting} {m : Hoisting × Bool} (hm : moveBody h i body = m) :
    h.output <+: m.1.output := by
  induction body generalizing h i with
  | nil =>
    cases hm
    exact prefix_refl _
  | cons l rest ih =>
    rw [moveBody] at hm
    split at hm
    · exact (prefix_append h.output _).trans (ih hm)
    · cases hm
      exact prefix_append h.output _

/-- **A function that is taken out comes first**, under a name of its own. -/
theorem takeOut_output (inner : List Line → Session (List Line)) (i : Nat) (l : Line) (h : Hoisting) (w : World) :
    ∃ h' v, (takeOut inner i l h).runIn w = (.ok h', v) ∧ (h'.output = h.output ∨
      ∃ header, "function func_".toList <+: header ∧ h.output ++ ["\n".toList, header] <+: h'.output) := by
  unfold takeOut
  dsimp only
  split
  · exact ⟨h, _, rfl, Or.inl rfl⟩
  · rename_i number position start hfound
    -- the header starts with the word, and the word gets the name
    have hheader : ∀ name : Line, "function func_".toList <+:
        replace "function".toList ("function ".toList ++ ("func_".toList ++ name)) (l.drop start) := by
      intro name
      obtain ⟨brace, -, hfound⟩ := bind_eq_ok.mp hfound
      obtain ⟨⟨n, q⟩, -, hfound⟩ := bind_eq_ok.mp hfound
      obtain ⟨start', hindex, hfound⟩ := bind_eq_ok.mp hfound
      cases hfound
      unfold Line.index at hindex
      split at hindex
      · rename_i k hk
        cases hindex
        obtain ⟨a, b, rfl, rfl⟩ := find?_eq_some hk
        rw [append_assoc, drop_left]
        have hname : "function func_".toList <+: "function ".toList ++ ("func_".toList ++ name) := ⟨name, rfl⟩
        exact hname.trans (prefix_append _ _)
      · cases hindex
    rw [runIn_bind]
    show ∃ h' v, (tryCatch _ _ : Session Hoisting).runIn { w with names := w.names + 1 } = _ ∧ _
    rw [runIn_tryCatch, runIn_bind]
    rcases (inner _).runIn _ with ⟨e | body, v⟩
    · exact ⟨_, _, rfl, Or.inr ⟨_, hheader (String.ofList (lettersOf 3 w.names)).toList, prefix_refl _⟩⟩
    · dsimp only
      generalize hmove : moveBody _ (i + 1) body = m
      have hmoved := moveBody_output hmove
      obtain ⟨g, _ | _⟩ := m
      · exact ⟨g, _, rfl, Or.inr ⟨_, hheader (String.ofList (lettersOf 3 w.names)).toList, hmoved⟩⟩
      · exact ⟨_, v, rfl, Or.inr ⟨_, hheader (String.ofList (lettersOf 3 w.names)).toList,
          hmoved.trans (prefix_append g.output _)⟩⟩

/-- **The functions of a script with one line.** If the line passes none then it stays. -/
theorem hoist_single (hl : ¬ Dangling l) (w : World) :
    (passesFunction l = false ∧ (hoist [l]).runIn w = (.ok [l], w)) ∨
      (passesFunction l = true ∧ ∃ hoisted v, (hoist [l]).runIn w = (.ok hoisted, v) ∧ (hoisted = [] ∨
        ∃ header rest, hoisted = "\n".toList :: header :: rest ∧ "function func_".toList <+: header)) := by
  have hstep : (hoist [l]).runIn w = (hoistLine (hoistWithin 1) ⟨[l], [], 0⟩ 0 >>= fun h => pure h.output).runIn w := by
    show (steps (hoistWithin 1) 0 1 ⟨[l], [], 0⟩ >>= _).runIn w = _
    rw [steps_succ, bind_assoc]
    rfl
  have hon : goesOn [l] 0 l = .ok false := by
    unfold goesOn
    unfold Dangling at hl
    rw [not_or, Bool.not_eq_true, Bool.not_eq_true] at hl
    dsimp only
    rw [hl.1, hl.2]
    rfl
  have hline : hoistLine (hoistWithin 1) ⟨[l], [], 0⟩ 0 =
      if passesFunction l then takeOut (hoistWithin 1) 0 l ⟨[l], [], 0⟩ else pure ⟨[l], [l], 0⟩ := by
    show ((liftM (goesOn [l] 0 l) : Session Bool) >>= _) = _
    rw [hon]
    rfl
  rw [hstep, hline]
  cases hpasses : passesFunction l with
  | false => exact Or.inl ⟨rfl, rfl⟩
  | true =>
    rw [if_pos rfl]
    obtain ⟨h', v, hrun, houtput⟩ := takeOut_output (hoistWithin 1) 0 l ⟨[l], [], 0⟩ w
    refine Or.inr ⟨rfl, h'.output, v, ?_, ?_⟩
    · rw [runIn_bind_of_ok hrun]
      rfl
    · rcases houtput with hnone | ⟨header, hheader, rest, hrest⟩
      · exact Or.inl hnone
      · exact Or.inr ⟨header, rest, hrest.symm, hheader⟩

end RemoteSensing.Script
