import RemoteSensing.Proofs.Script.Definition
import RemoteSensing.Proofs.Script.Outcome
import RemoteSensing.Proofs.Script.Retold

/-!
When a text in quotes is left alone. The script has one line, so it is followed through the stages of the converter: what
each of them does to the quotes, and then when the text between them is what it was.
-/

namespace RemoteSensing.Script

open List Line
open Chars (append_cons_inj)

variable {c : Char} {l s : Line} {t : List Char} {hoisted rest : List Line} {i : Nat} {o : Options} {m : String}

def written (t : List Char) : List Line := (Chars.split ['\n'] t).filter fun l => !(trim l).isEmpty

theorem trim_eq_nil_iff : trim l = [] ↔ ∀ c ∈ l, Text.isBlank c = true := by
  constructor
  · intro h c hc
    by_contra hblank
    have hcount := Chars.count_trim (by simpa using hblank) l
    rw [trim] at h
    rw [h, count_nil] at hcount
    exact List.count_eq_zero.mp hcount.symm hc
  · intro h
    have hleft : Chars.trimLeft l = [] := List.dropWhile_eq_nil_iff.mpr h
    rw [trim, Chars.trim, hleft]
    rfl

theorem written_line {a : Line} (ha : '\n' ∉ a) : written a = if trim a = [] then [] else [a] := by
  rw [written, Chars.split_of_not_mem ha]
  by_cases h : trim a = []
  · simp [h]
  · simp [h]

theorem written_append {a : Line} (ha : '\n' ∉ a) (b : Line) : written (a ++ '\n' :: b) = written a ++ written b := by
  rw [written, written, written, Chars.split_append ha, Chars.split_of_not_mem ha, ← filter_append]
  rfl

/-- All that can be seen is on the lines that are not blank. -/
theorem filter_written (t : List Char) :
    (written t).flatten.filter (!Text.isBlank ·) = t.filter (!Text.isBlank ·) := by
  have hline {a : Line} (ha : '\n' ∉ a) : (written a).flatten.filter (!Text.isBlank ·) = a.filter (!Text.isBlank ·) := by
    rw [written_line ha]
    split
    · rename_i hblank
      exact (filter_eq_nil_iff.mpr fun c hc => by simp [trim_eq_nil_iff.mp hblank c hc]).symm
    · rw [flatten_singleton]
  induction t using cut_induction (c := '\n') with
  | whole t ht => exact hline ht
  | cut a b ha ih =>
    rw [written_append ha, flatten_append, filter_append, filter_append, hline ha, ih, filter_cons_of_neg (by decide)]

theorem trim_declaredText (s : Line) : trim (declaredText s) = declaredText s := by
  have hleft : Chars.trimLeft (declaredText s) = declaredText s := dropWhile_cons_of_neg (by decide)
  rw [trim, Chars.trim, hleft, declaredText, enclosed_concat]
  exact Chars.trimRight_concat (by decide) _

theorem not_dangling_declaredText (s : Line) : ¬ Dangling (declaredText s) := by
  rw [Dangling, trim_declaredText, not_or, Bool.not_eq_true, Bool.not_eq_true]
  exact ⟨ends_enclosed (by decide) s, ends_enclosed (by decide) s⟩

theorem isConverted_declaredText (s : Line) : isConverted [declaredText s] = false := by
  rw [isConverted, any_cons, any_nil, Bool.or_false, trim_declaredText]
  rfl

theorem passesFunction_declaredText (s : Line) : passesFunction (declaredText s) = passesFunction s := by
  have hdense : dense (declaredText s) = enclosed "varx=".toList (dense s) [';'] := by
    simp [dense, declaredText, enclosed]
  rw [passesFunction, passesFunction, hdense, has_enclosed (by decide), has_enclosed (by decide), has_enclosed (by decide)]

theorem opensFunction_declaredText (s : Line) :
    opensFunction (declaredText s) = (has s "= function" || has s "=function") := by
  have hstarts : Line.starts (declaredText s) "function" = false := rfl
  rw [opensFunction, trim_declaredText, hstarts, Bool.or_false, has_declaredText (by decide), has_declaredText (by decide)]

theorem opensLoopOrCondition_declaredText (s : Line) : opensLoopOrCondition (declaredText s) = opensLoopOrCondition s := by
  rw [opensLoopOrCondition, opensLoopOrCondition, has_declaredText (by decide), has_declaredText (by decide),
    has_declaredText (by decide), has_declaredText (by decide)]

theorem mem_declaredText (hc : c ∈ [':', '\x7b']) : c ∈ declaredText s ↔ c ∈ s := by
  have hnot : ∀ c ∈ [':', '\x7b'], c ∉ "var x = ".toList ∧ c ≠ '\'' ∧ c ∉ [';'] := by decide
  obtain ⟨hfront, hquote, hend⟩ := hnot c hc
  rw [declaredText, enclosed, mem_append, mem_cons, mem_append, mem_cons]
  simp only [hfront, hquote, hend, false_or, or_false]

theorem mem_of_mem_core (h : c ∈ core s) : c ∈ s := by
  obtain ⟨t, ht, hcore⟩ := core_cases s
  have hmem : c ∈ t := by
    rw [hcore] at h
    split at h
    · exact (List.mem_append.mp h).elim mem_of_mem_take mem_of_mem_drop
    · exact h
  rw [ht] at hmem
  split at hmem
  · exact (dropped s).sublist.subset hmem
  · exact hmem

def Closed (s : Line) : Prop :=
  ∃ a b c, s = a ++ '\x7b' :: (b ++ '\x7d' :: c) ∧ '\x7b' ∉ a ∧ b.count '\x7b' = b.count '\x7d'

/-- On one line, the first brace is closed exactly if some closing brace behind it has as many of each in between. -/
theorem ownLine_iff {a tail : Line} (ha : '\x7b' ∉ a) :
    OwnLine [a ++ '\x7b' :: tail] 0 (a ++ '\x7b' :: tail) ↔
      ∃ b c, tail = b ++ '\x7d' :: c ∧ b.count '\x7b' = b.count '\x7d' := by
  have hfind := Chars.find?_first ha tail
  have hmatch := matchingBrace_eq hfind [] []
  rcases spanOf_cases hfind with ⟨p, hscan, -, hspan⟩ | ⟨d, hscan, hd, -, hspan⟩
  all_goals
    rw [hspan] at hmatch
    rw [drop_left, scanLine_open] at hscan
  · refine iff_of_true ⟨_, _, hfind, hmatch⟩ ?_
    rcases scanLine_cases (Nat.le_refl 1) tail with ⟨b, c, rfl, hcount, -⟩ | ⟨d, -, -, hopen⟩
    · exact ⟨b, c, rfl, by omega⟩
    · cases hscan.symm.trans (hopen _)
  · refine iff_of_false ?_ ?_
    · rintro ⟨b, p, hb, hp⟩
      rw [← Option.some_inj.mp (hfind.symm.trans hb)] at hp
      cases hmatch.symm.trans hp
    · rintro ⟨b, c, rfl, hcount⟩
      rcases scanLine_cases (Nat.le_refl 1) (b ++ ['\x7d']) with ⟨x, y, hsplit, -, hclosed⟩ | ⟨d', hd', hcount', -⟩
      · rw [append_cons, hsplit, append_assoc, cons_append, hclosed] at hscan
        cases hscan
      · simp at hcount'
        omega

theorem ownLine_declaredText_iff : OwnLine [declaredText s] 0 (declaredText s) ↔ Closed s := by
  by_cases hbrace : '\x7b' ∈ s
  · obtain ⟨a, t, rfl, ha⟩ := eq_append_cons_of_mem hbrace
    have hsplit : declaredText (a ++ '\x7b' :: t) = ("var x = '".toList ++ a) ++ '\x7b' :: (t ++ ['\'', ';']) := by
      simp [declaredText, enclosed]
    rw [hsplit, ownLine_iff (by simp [ha])]
    constructor
    · rintro ⟨b, c, htail, hcount⟩
      rcases List.append_eq_append_iff.mp htail with ⟨u, -, hend⟩ | ⟨u, rfl, hend⟩
      · have hmem : '\x7d' ∈ ['\'', ';'] := by rw [hend]; simp
        exact absurd hmem (by decide)
      · cases u with
        | nil => cases hend
        | cons x u =>
          cases hend
          exact ⟨a, b, u, rfl, ha, hcount⟩
    · rintro ⟨a', b, c, hs, ha', hcount⟩
      obtain ⟨-, rfl⟩ := append_cons_inj ha ha' hs
      exact ⟨b, c ++ ['\'', ';'], by simp, hcount⟩
  · refine iff_of_false ?_ ?_
    · rintro ⟨b, p, hb, -⟩
      rw [find?_declaredText (by decide), Chars.find?_eq_none_iff.mpr hbrace] at hb
      cases hb
    · rintro ⟨a, b, c, rfl, -⟩
      exact hbrace (by simp)

theorem putOut_behind {p : Progress} {a body : List Char} (hp : p.output = a ++ ['\n'])
    (h : (putOut p i l).output = p.output ++ body) : body = l ++ ['\n'] := by
  unfold putOut at h
  split at h
  · obtain ⟨b, hb, hblank⟩ := Chars.trimRight_append a
    have htrim : Chars.trimRight p.output = Chars.trimRight a := by
      rw [hp]
      exact Chars.trimRight_append_blank (b := ['\n']) (by decide) a
    have hmark : " \\\n".toList = [' ', '\\', '\n'] := by decide
    have hsplit : p.output = Chars.trimRight a ++ (b ++ ['\n']) := by rw [hp, ← append_assoc, ← hb]
    rw [htrim, hsplit, hmark] at h
    simp only [append_assoc, append_cancel_left_eq] at h
    rcases b with _ | ⟨c, _ | ⟨d, b⟩⟩
    · exact absurd h (by simp)
    · exact absurd h (by simp)
    · obtain rfl : '\\' = d := by
        simp only [cons_append, cons.injEq] at h
        exact h.2.1
      exact absurd (hblank '\\' (by simp)) (by decide)
  · rw [append_assoc, append_cancel_left_eq] at h
    exact h.symm

def preamble (o : Options) (lines : List Line) : List Char :=
  ("import ee \n" ++ (if usesMath lines then "import math\n" else "") ++ imports o ++ "\n").toList

theorem begun_output (o : Options) (lines hoisted : List Line) :
    (begun o "" lines hoisted).output = preamble o lines := by
  rw [begun, preamble, String.empty_append]

theorem preamble_eq (o : Options) (lines : List Line) : ∃ a, preamble o lines = a ++ ['\n'] := by
  rw [preamble, String.toList_append]
  exact ⟨_, rfl⟩

theorem fresh_brace (hm : IsName m) : Fresh m '\x7b' := by
  have hfixed : ∀ r ∈ ("//", "#") :: respellings ++ laterRespellings ++ (("!", "not ") :: sumSpellings ++
      [("\x7d)", ")"), (": ", "="), (":", " ="), ("*", "#")]),
      r.1.toList ≠ [] ∧ ('\x7b' ∈ r.1.toList ∨ '\x7b' ∉ r.2.toList) := by decide +kernel
  refine ⟨fun r hr => ?_, by decide⟩
  rw [stageSpellings, append_assoc, mem_append] at hr
  rcases hr with hr | hr
  · rcases mem_spellingTable hr with rfl | hr
    · have hne : "Map.".toList ≠ [] := by decide
      exact ⟨hne, Or.inr (hm.not_mem (by decide))⟩
    · exact hfixed r (mem_append_left _ hr)
  · exact hfixed r (mem_append_right _ hr)

theorem brace_not_mem_preamble (hname : IsName o.mapName) (lines : List Line) : '\x7b' ∉ preamble o lines := by
  have himports : '\x7b' ∉ (imports o).toList := by
    unfold imports
    split
    · simp only [String.toList_append, mem_append, not_or]
      exact ⟨⟨by decide, fun h => absurd (hname _ h) (by decide)⟩, by decide⟩
    · split
      · decide
      · decide
  have hmath : '\x7b' ∉ (if usesMath lines then "import math\n" else "").toList := by
    split
    · decide
    · decide
  simp only [preamble, String.toList_append, mem_append, not_or]
  exact ⟨⟨⟨by decide, hmath⟩, himports⟩, by decide⟩

def declaring (o : Options) (s : Line) : Progress := begun o "" [declaredText s] [declaredText s]

theorem declaring_output (o : Options) (s : Line) : (declaring o s).output = preamble o [declaredText s] :=
  begun_output o _ _

def Blockless (s t : Line) : Prop := '\x7b' ∈ t → has t "(\x7b" = false → opensLoopOrCondition t = true →
  OwnLine [declaredText s] 0 (declaredText t) ∧ ':' ∈ t

section Line

variable {o : Options} {s : Line}

theorem finished_declaring {lines : List Line} (hlines : lines.length = 1) (depth : Int) (t : Line) :
    ∃ p' : Progress, finished o { declaring o s with lines := lines, depth := depth } 0 (declaredText t) =
      .ok (putOut p' 0 (shown o.mapName t)) ∧ p'.output = preamble o [declaredText s] := by
  obtain ⟨p', hfinished, houtput⟩ := finished_declaredText (o := o)
    (p := { declaring o s with lines := lines, depth := depth }) rfl rfl rfl hlines t
  exact ⟨p', hfinished, houtput.trans (declaring_output o s)⟩

/-- **How the line is opened**, if it is read as no function: it stays as it is, or it is a header that loses its brace. -/
theorem opened_declaring {t : Line} (hfunction : opensFunction (declaredText t) = false) :
    ((∃ e, opened (declaring o s) 0 (declaredText t) = .error e) ∧ (t = s → ¬ Blockless s t)) ∨
      ∃ r, opened (declaring o s) 0 (declaredText t) = .ok (some r) ∧ r.lines.length = 1 ∧
        (r.line = declaredText t ∧ Blockless s t ∨ '\x7b' ∈ t ∧ '\x7b' ∉ r.line ∧ ¬ Blockless s t) := by
  have hlength : 0 < (declaring o s).lines.length := Nat.one_pos
  have hmem {c : Char} (hc : c ∈ [':', '\x7b']) : c ∈ declaredText t ↔ c ∈ t := mem_declaredText hc
  unfold opened
  rw [hfunction, if_neg (by decide), has_declaredText (by decide)]
  by_cases hbrace : '\x7b' ∈ t
  · have hbrace' := (hmem (by simp)).mpr hbrace
    cases hcall : has t "(\x7b" with
    | true =>
      rw [if_neg (by simp)]
      exact .inr ⟨_, rfl, rfl, .inl ⟨rfl, fun _ hnot => absurd (hcall.symm.trans hnot) (by decide)⟩⟩
    | false =>
      have hblock : Blockless s t ↔ (opensLoopOrCondition (declaredText t) = true →
          OwnLine [declaredText s] 0 (declaredText t) ∧ ':' ∈ declaredText t) := by
        rw [Blockless, hcall, opensLoopOrCondition_declaredText, hmem (by simp)]
        exact ⟨fun h => h hbrace rfl, fun h _ _ => h⟩
      rw [if_pos (by simpa using hbrace'), hblock]
      cases hopen : openBlock ⟨(declaring o s).lines, declaredText t, (declaring o s).depth⟩ 0 with
      | error e =>
        refine .inl ⟨⟨e, rfl⟩, fun hsame hown => ?_⟩
        rcases (openBlock_error_iff hlength hbrace').mp hopen with hplace | ⟨-, hopens, hnot, -⟩
        · exact not_displaced (show [declaredText s].getD 0 [] = _ by rw [hsame]; rfl) hplace
        · exact hnot (hown hopens)
      | ok r =>
        obtain ⟨hlines, ⟨hsame, hown⟩ | ⟨hlost, hopens, hnot⟩⟩ := openBlock_eq_ok hopen
        · exact .inr ⟨r, rfl, hlines, .inl ⟨hsame, hown⟩⟩
        · exact .inr ⟨r, rfl, hlines, .inr ⟨hbrace, hlost, fun hown => hnot (hown hopens)⟩⟩
  · rw [if_neg (by simp [hmem, hbrace])]
    exact .inr ⟨_, rfl, rfl, .inl ⟨rfl, fun h => absurd h hbrace⟩⟩

end Line

/-- A text that the converter leaves alone. -/
structure Inert (m : String) (s : Line) : Prop where
  words : Unspelled m s
  negation : negatable s = false
  sums : Sumless s
  options : "Map.setOptions".toList <:+: s → Optionless s
  keys : Keyless s
  remark : Remarkless s
  functions : passesFunction s = false ∧ ¬ "= function".toList <:+: s ∧ ¬ "=function".toList <:+: s
  block : '\x7b' ∈ s → ¬ "(\x7b".toList <:+: s → opensLoopOrCondition s = true → Closed s ∧ ':' ∈ s

/-- Behind the imports, the only line that is not blank is the one that assigns the text. -/
def LeftAlone (o : Options) (s : Line) (r : Except Fault (Option Progress)) : Prop :=
  ∃ p body, r = .ok (some p) ∧ p.output = preamble o [declaredText s] ++ body ∧ written body = [assignedText s]

theorem opensFunction_eq_false_iff :
    opensFunction (declaredText s) = false ↔ ¬ "= function".toList <:+: s ∧ ¬ "=function".toList <:+: s := by
  rw [opensFunction_declaredText, Bool.or_eq_false_iff, Bool.eq_false_iff, Bool.eq_false_iff, has, has, ne_eq,
    ne_eq, Chars.contains_iff, Chars.contains_iff]

theorem blockless_iff :
    Blockless s s ↔ ('\x7b' ∈ s → ¬ "(\x7b".toList <:+: s → opensLoopOrCondition s = true → Closed s ∧ ':' ∈ s) := by
  rw [Blockless, ownLine_declaredText_iff, Bool.eq_false_iff, has, ne_eq, Chars.contains_iff]

theorem written_ne_of_definition {b h body : Line} (hb : ∀ c ∈ b, Text.isBlank c = true) (hmem : h ∈ definitionStarts)
    (hpre : b ++ h <+: body) : written body ≠ [assignedText s] := by
  intro hwritten
  have hstarts : ∀ h ∈ definitionStarts, ∃ t, h = 'd' :: t := by
    intro h hh
    obtain ⟨t, rfl⟩ := (sturdy_definitionStarts h hh).defines
    exact ⟨_, rfl⟩
  obtain ⟨t, rfl⟩ := hstarts h hmem
  obtain ⟨rest, rfl⟩ := hpre
  -- the first character that can be seen tells them apart
  have hseen := filter_written (b ++ 'd' :: t ++ rest)
  have hblank : b.filter (!Text.isBlank ·) = [] := filter_eq_nil_iff.mpr fun c hc => by simp [hb c hc]
  rw [hwritten, append_assoc, filter_append, hblank] at hseen
  cases hseen

section Text

variable {o : Options} {s : Line} (hname : IsName o.mapName) (hs : Simple s)

include hname hs

theorem quoteless_retold {t : Line} (ht : ∀ c ∈ t, c ∈ s) :
    '\'' ∉ retold o.mapName t ∧ '"' ∉ retold o.mapName t ∧ '\n' ∉ retold o.mapName t := by
  have hnot : ∀ c ∈ ['\'', '"', '\n'], c ∉ t := by
    intro c hc hmem
    have hplain := hs c (ht c hmem)
    revert hc hplain
    simp only [mem_cons, not_mem_nil, or_false]
    tauto
  exact ⟨not_mem_retold hname (by simp) (hnot _ (by simp)), not_mem_retold hname (by simp) (hnot _ (by simp)),
    not_mem_retold hname (by simp) (hnot _ (by simp))⟩

theorem newline_not_mem_shown {t : Line} (ht : ∀ c ∈ t, c ∈ s) : '\n' ∉ shown o.mapName t := by
  have hretold := (quoteless_retold hname hs ht).2.2
  have hassigned : '\n' ∉ assignedText (retold o.mapName t) := by simp [assignedText, enclosed, hretold]
  have hquoted : '\n' ∉ keysQuoted (assignedText (retold o.mapName t)) :=
    fun h => (mem_keysQuoted h).elim (by decide) hassigned
  rw [shown]
  generalize keysQuoted (assignedText (retold o.mapName t)) = l at hquoted
  rw [dropRemark]
  split
  · exact fun h => hquoted ((takeWhile_sublist _).subset h)
  · exact hquoted

/-- **When the line leaves the text alone.** -/
theorem leftAlone_lineStep_iff : LeftAlone o s (lineStep o (declaring o s) 0) ∧ passesFunction s = false ↔
    Inert o.mapName s := by
  have hquotes : '\'' ∉ s ∧ '"' ∉ s := ⟨fun h => hs _ h (by simp), fun h => hs _ h (by simp)⟩
  have hretold := quoteless_retold hname hs (t := core s) fun c => mem_of_mem_core
  have hshown := shown_eq_iff (m := o.mapName) (t := core s) hquotes ⟨hretold.1, hretold.2.1⟩
  obtain ⟨a, ha⟩ := preamble_eq o [declaredText s]
  constructor
  · rintro ⟨⟨q, body, hstep, houtput, hwritten⟩, hpasses⟩
    obtain ⟨r, hopened, hrun⟩ := lineStep_eq_some.mp hstep
    change opened (declaring o s) 0 (bare (declaredText s)) = _ at hopened
    rw [bare_declaredText] at hopened
    cases hfunction : opensFunction (declaredText (core s)) with
    | true =>
      -- a function would be put out as a definition
      have hread : opensFunction (bare ((declaring o s).lines.getD 0 [])) = true := by
        show opensFunction (bare (declaredText s)) = true
        rw [bare_declaredText]
        exact hfunction
      obtain ⟨h, hmem, hpre⟩ := output_definition (p := declaring o s) (i := 0) Nat.one_pos rfl
        (h := "var x = '".toList) (by simp [functionStarts]) ⟨s ++ "';".toList, rfl⟩ hread hstep
      rw [houtput, declaring_output, prefix_append_right_inj] at hpre
      exact absurd hwritten (written_ne_of_definition (b := []) (by simp) hmem hpre)
    | false =>
      rcases opened_declaring (o := o) (s := s) hfunction with ⟨⟨e, he⟩, -⟩ | ⟨r', hr', hlines, hcase⟩
      · cases hopened.symm.trans he
      obtain rfl : r = r' := Option.some_inj.mp (Except.ok.inj (hopened.symm.trans hr'))
      rcases hcase with ⟨hline, hblock⟩ | ⟨hbrace, hlost, -⟩
      · obtain ⟨p', hfinished, hp'⟩ := finished_declaring (o := o) (s := s) hlines r.depth (core s)
        rw [hline, hfinished] at hrun
        obtain rfl := Except.ok.inj hrun
        have hbody : body = shown o.mapName (core s) ++ ['\n'] := putOut_behind (hp'.trans ha) (by rw [hp', houtput])
        have hend := newline_not_mem_shown hname hs (t := core s) fun c => mem_of_mem_core
        have hassigned : shown o.mapName (core s) = assignedText s := by
          rw [hbody, written_append hend, written_line hend] at hwritten
          split at hwritten
          · cases hwritten
          · exact (cons.inj hwritten).1
        obtain ⟨hsame, hkeys, hremark⟩ := hshown.mp hassigned
        have hcore := (core_of_retold hname hsame).1
        obtain ⟨hwords, hnegation, hsums, hoptions⟩ := (retold_core_iff hname).mp hsame
        rw [hcore] at hfunction hblock
        exact ⟨hwords, hnegation, hsums, hoptions, hkeys, hremark, ⟨hpasses, opensFunction_eq_false_iff.mp hfunction⟩,
          blockless_iff.mp hblock⟩
      · -- the text would be put out without its brace, and gets none back
        obtain ⟨p', l, rfl, hl, hp'⟩ := (fresh_brace hname).lasting.finished (o := o)
          (p := { declaring o s with lines := r.lines, depth := r.depth }) rfl hlost hrun
        have hmem : '\x7b' ∈ body.filter (!Text.isBlank ·) := by
          rw [← filter_written, hwritten, mem_filter]
          exact ⟨by simp [assignedText, enclosed, mem_of_mem_core hbrace], by decide⟩
        have hnone : '\x7b' ∉ p'.output := by
          rw [hp']
          exact declaring_output o s ▸ brace_not_mem_preamble hname _
        refine absurd ?_ (not_mem_putOut hnone hl (by decide) 0)
        rw [houtput]
        exact mem_append_right _ (mem_filter.mp hmem).1
  · intro h
    have hsame := (retold_core_iff hname).mpr ⟨h.words, h.negation, h.sums, h.options⟩
    have hcore := (core_of_retold hname hsame).1
    have hassigned := hshown.mpr ⟨hsame, h.keys, h.remark⟩
    rw [hcore] at hassigned
    rcases opened_declaring (o := o) (s := s) (opensFunction_eq_false_iff.mpr h.functions.2) with
      ⟨-, hnot⟩ | ⟨r, hopened, hlines, ⟨hline, -⟩ | ⟨-, -, hnot⟩⟩
    · exact absurd (blockless_iff.mpr h.block) (hnot rfl)
    · obtain ⟨p', hfinished, hp'⟩ := finished_declaring (o := o) (s := s) hlines r.depth s
      have hstep : lineStep o (declaring o s) 0 = .ok (some (putOut p' 0 (assignedText s))) := by
        refine lineStep_eq_some.mpr ⟨r, ?_, by rw [hline, hfinished, hassigned]⟩
        show opened (declaring o s) 0 (bare (declaredText s)) = _
        rw [bare_declaredText, hcore, hopened]
      have hend : '\n' ∉ assignedText s := by
        rw [← hassigned]
        exact newline_not_mem_shown hname hs fun c hc => hc
      have hdot : Line.starts (Chars.trimLeft (assignedText s)) "." = false := rfl
      have hvisible : Line.trim (assignedText s) ≠ [] := by
        rw [trim_assignedText]
        exact cons_ne_nil _ _
      refine ⟨⟨_, assignedText s ++ ['\n'], hstep, ?_, ?_⟩, h.functions.1⟩
      · rw [putOut, hdot, if_neg (by decide), hp', append_assoc]
      · rw [written_append hend, written_line hend, if_neg hvisible]
        rfl
    · exact absurd (blockless_iff.mpr h.block) hnot

end Text

theorem spelled_newline (o : Options) : spelled o ['\n'] = [] := by
  have hslashes : Line.replace ['\n'] "//" "#" = ['\n'] := by decide
  have hdeclared : Chars.replaceFirst "var ".toList [] ['\n'] = ['\n'] := by decide
  have hearly : respellAll respellings ['\n'] = ['\n'] := by decide +kernel
  have hmap : Line.replace ['\n'] "Map." (o.mapName ++ ".") = ['\n'] :=
    Chars.replace_of_absent (by decide) _ (by decide)
  have hlater : respellAll laterRespellings ['\n'] = ['\n'] := by decide +kernel
  have hrest : respellConcat (Chars.trimRight (negated ['\n'])) = [] := by decide
  rw [spelled, respell, hslashes, hdeclared, hearly, hmap, hlater, hrest]

theorem lineStep_newline (o : Options) {header : Line} {p : Progress}
    (hp : p = { lines := ['\n'] :: header :: rest, output := p.output }) : ∃ q, lineStep o p 0 = .ok (some q) ∧
      q.lines = ['\n'] :: header :: rest ∧ q.assigning = false ∧ q.output = p.output ++ ['\n'] := by
  have hread : bare ['\n'] = ['\n'] := by decide
  have hfirst : p.lines.getD 0 [] = ['\n'] := by rw [hp]; rfl
  have hopened : opened p 0 ['\n'] = .ok (some ⟨['\n'] :: header :: rest, ['\n'], 0⟩) := by rw [hp]; rfl
  have hevaluated : evaluated o p ['\n'] = (p, []) := by
    rw [hp, evaluated, spelled_newline]
    rfl
  have hsame : ({ p with lines := ['\n'] :: header :: rest, depth := 0 } : Progress) = p := by rw [hp]
  refine ⟨{ p with output := p.output ++ [] ++ ['\n'] }, ?_, by rw [hp], by rw [hp], by rw [append_nil]⟩
  rw [lineStep, hfirst, hread, hopened]
  show (finished o { p with lines := ['\n'] :: header :: rest, depth := 0 } 0 ['\n']).map some = _
  rw [hsame, finished, hevaluated, hp]
  rfl

theorem not_leftAlone_hoisted (h : hoisted = [] ∨
      ∃ header rest, hoisted = "\n".toList :: header :: rest ∧ "function func_".toList <+: header) :
    ¬ LeftAlone o s (reached o (begun o "" [declaredText s] hoisted) hoisted.length) := by
  rintro ⟨q, body, hreached, houtput, hwritten⟩
  rcases h with rfl | ⟨header, rest, hsplit, hheader⟩
  · obtain rfl : begun o "" [declaredText s] [] = q := Option.some_inj.mp (Except.ok.inj hreached)
    obtain rfl : body = [] := by
      exact List.self_eq_append_right.mp houtput
    cases hwritten
  · obtain rfl : hoisted = ['\n'] :: header :: rest := hsplit
    obtain ⟨p, hfirst, hlines, hassigning, hp⟩ :=
      lineStep_newline o (p := begun o "" [declaredText s] (['\n'] :: header :: rest)) rfl
    rw [begun_output] at hp
    have hvisible := visible_functionStarts _ (show "function func_".toList ∈ functionStarts by simp [functionStarts])
    have hfunction : opensFunction (bare header) = true := by
      have hbare := prefix_bare hvisible hheader
      have hstarts : "function".toList <+: Line.trim (bare header) := by
        rw [Line.trim, Chars.trim, trimLeft_of_visible hvisible hbare]
        refine prefix_trimRight (a := "functio".toList) (c := 'n') (by decide) (IsPrefix.trans ?_ hbare)
        exact ⟨" func_".toList, rfl⟩
      rw [opensFunction, Bool.or_eq_true]
      exact Or.inr (List.isPrefixOf_iff_prefix.mpr hstarts)
    have hgetD : p.lines.getD 1 [] = header := by rw [hlines]; rfl
    -- the run goes on behind the second line, which is put out as a definition
    obtain ⟨q', hsecond⟩ := reached_of_le (show 2 ≤ _ by simp) hreached
    have hone : reached o (begun o "" [declaredText s] (['\n'] :: header :: rest)) 1 = .ok (some p) := hfirst
    have hstep := (reached_succ_of_some hone).symm.trans hsecond
    obtain ⟨h, hmem, hpre⟩ := output_definition (by rw [hlines]; simp) hassigning
      (show "function func_".toList ∈ functionStarts by simp [functionStarts]) (by rw [hgetD]; exact hheader)
      (by rw [hgetD]; exact hfunction) hstep
    obtain ⟨a, c, rfl, hc, -⟩ := (sturdy_definitionStarts h hmem).last
    rw [← append_assoc] at hpre
    have hend := reached_keeps (P := fun p => _ <+: p.output) (prefix_lineStep hc) hsecond hpre (by simp) hreached
    rw [houtput, hp, append_assoc, append_assoc, prefix_append_right_inj] at hend
    exact written_ne_of_definition (b := ['\n']) (by decide) hmem hend hwritten

section Call

variable {o : Options} {source target : String} {w : World} {s : Line}

/-- **What a call on the script comes to**: what its lines come to, once its functions are taken out. -/
theorem call_declaring (hsound : o.Sound) (hrepository : o.repository = .null) (hshow : o.showMap = false)
    (hline : '\n' ∉ s)
    (hread : (Session.readText (Path.absolute source)).runIn w = (.ok (String.ofList (declaredText s)), w))
    (hwrite : Writable w.disk target) {v : World} (hhoist : (hoist [declaredText s]).runIn w = (.ok hoisted, v)) :
    ((convertCommand.call (request o source target)).runIn w).1 =
      (reached o (begun o "" [declaredText s] hoisted) hoisted.length).map fun r =>
        match r with
        | some p => .str (String.ofList p.output)
        | none => .null := by
  have hheading : headingOf o (Path.absolute source) = "" := by
    unfold headingOf published
    rw [hrepository]
    rfl
  have hlast : lastLine o = [] := by
    unfold lastLine ending
    rw [hshow]
    rfl
  have hlines : Chars.lines (String.ofList (declaredText s)).toList = [declaredText s] := by
    rw [String.toList_ofList]
    exact Chars.lines_of_not_mem (by simp [declaredText, enclosed, hline]) (by simp [declaredText, enclosed])
  have hdisk : v.disk = w.disk := by
    have hkeep := hoist_keepsDisk [declaredText s] w
    rw [hhoist] at hkeep
    exact hkeep.1
  obtain ⟨t, hrun, -⟩ := convertScript_reached hsound (Path.absolute source) "" [declaredText s] w
    (isConverted_declaredText s) hhoist
  rw [← hheading, ← hlines] at hrun
  obtain ⟨u, hcall, -⟩ := call_eq hsound hread hwrite hrun hdisk
  rw [hcall, hlast, hheading, hlines]
  rcases reached o (begun o "" [declaredText s] hoisted) hoisted.length with e | _ | p
  · rfl
  · rfl
  · show Except.ok (Value.str (String.ofList (p.output ++ []))) = _
    rw [append_nil]
    rfl

/-- **When a text in quotes is left alone.** For every text without quotes, backslashes and line breaks: behind the imports,
the only line that is not blank assigns the text as it is exactly if the text is inert. -/
theorem literal_left_alone_iff (hsound : o.Sound) (hrepository : o.repository = .null) (hshow : o.showMap = false)
    (hname : IsName o.mapName) (hs : Simple s)
    (hread : (Session.readText (Path.absolute source)).runIn w = (.ok (String.ofList (declaredText s)), w))
    (hwrite : Writable w.disk target) :
    (∃ body, ((convertCommand.call (request o source target)).runIn w).1 =
        .ok (.str (String.ofList (preamble o [declaredText s] ++ body))) ∧ written body = [assignedText s]) ↔
      Inert o.mapName s := by
  have hcall : ∀ {hoisted v}, (hoist [declaredText s]).runIn w = (.ok hoisted, v) →
      ((∃ body, ((convertCommand.call (request o source target)).runIn w).1 =
          .ok (.str (String.ofList (preamble o [declaredText s] ++ body))) ∧ written body = [assignedText s]) ↔
        LeftAlone o s (reached o (begun o "" [declaredText s] hoisted) hoisted.length)) := by
    intro hoisted v hhoist
    rw [call_declaring hsound hrepository hshow (fun h => hs _ h (by simp)) hread hwrite hhoist]
    constructor
    · rintro ⟨body, hrun, hwritten⟩
      rcases hend : reached o (begun o "" [declaredText s] hoisted) hoisted.length with e | _ | p
      · rw [hend] at hrun
        cases hrun
      · rw [hend] at hrun
        cases hrun
      · rw [hend] at hrun
        refine ⟨p, body, rfl, ?_, hwritten⟩
        exact String.ofList_injective (Value.str.inj (Except.ok.inj hrun))
    · rintro ⟨p, body, hend, houtput, hwritten⟩
      refine ⟨body, ?_, hwritten⟩
      rw [hend, ← houtput]
      rfl
  rcases hoist_single (not_dangling_declaredText s) w with ⟨hpasses, hhoist⟩ | ⟨hpasses, hoisted, v, hhoist, hcase⟩
  · rw [passesFunction_declaredText] at hpasses
    rw [hcall hhoist, ← leftAlone_lineStep_iff hname hs, and_iff_left hpasses]
    rfl
  · rw [passesFunction_declaredText] at hpasses
    rw [hcall hhoist]
    refine ⟨fun h => absurd h (not_leftAlone_hoisted hcase), fun h => ?_⟩
    exact absurd (h.functions.1.symm.trans hpasses) (by decide)

end Call

def withoutMap : Options := { showMap := false }

theorem sound_withoutMap : withoutMap.Sound := ⟨rfl, ⟨"m", rfl⟩, Or.inl rfl⟩

theorem literal_left_alone_iff_collection : Simple "LANDSAT/LC08".toList ∧ IsName withoutMap.mapName ∧
    Writable (deskWith "var x = 'LANDSAT/LC08';").disk "<TMP>/out.py" ∧
    ((convertCommand.call (request withoutMap "in.js" "<TMP>/out.py")).runIn (deskWith "var x = 'LANDSAT/LC08';")).1 =
      .ok (.str "import ee \nfrom ee_plugin import Map\n\nx = 'LANDSAT/LC08'\n") ∧ Inert "m" "LANDSAT/LC08".toList := by
  have hplain : Simple "LANDSAT/LC08".toList := by unfold Simple; decide
  have hname : IsName withoutMap.mapName := by unfold IsName; decide
  have hread : (Session.readText (Path.absolute "in.js")).runIn (deskWith "var x = 'LANDSAT/LC08';") =
      (.ok (String.ofList (declaredText "LANDSAT/LC08".toList)), deskWith "var x = 'LANDSAT/LC08';") := rfl
  have hrun : ((convertCommand.call (request withoutMap "in.js" "<TMP>/out.py")).runIn
      (deskWith "var x = 'LANDSAT/LC08';")).1 =
      .ok (.str "import ee \nfrom ee_plugin import Map\n\nx = 'LANDSAT/LC08'\n") := by rfl
  have h := literal_left_alone_iff sound_withoutMap rfl rfl hname hplain hread (writable_deskWith _)
  exact ⟨hplain, hname, writable_deskWith _, hrun, h.mp ⟨"x = 'LANDSAT/LC08'\n".toList, hrun, by decide⟩⟩

theorem literal_true_respelled : Simple "true".toList ∧
    ((convertCommand.call (request withoutMap "in.js" "<TMP>/out.py")).runIn (deskWith "var x = 'true';")).1 =
      .ok (.str (String.ofList (preamble withoutMap [declaredText "true".toList] ++ "x = 'True'\n".toList))) ∧
    written "x = 'True'\n".toList = [assignedText "True".toList] ∧ assignedText "True".toList ≠ assignedText "true".toList := by
  have hplain : Simple "true".toList := by unfold Simple; decide
  have hrun : ((convertCommand.call (request withoutMap "in.js" "<TMP>/out.py")).runIn (deskWith "var x = 'true';")).1 =
      .ok (.str "import ee \nfrom ee_plugin import Map\n\nx = 'True'\n") := by rfl
  have htext : "import ee \nfrom ee_plugin import Map\n\nx = 'True'\n" =
      String.ofList (preamble withoutMap [declaredText "true".toList] ++ "x = 'True'\n".toList) := by decide
  refine ⟨hplain, ?_, by decide, by decide⟩
  rw [hrun, htext]

end RemoteSensing.Script
