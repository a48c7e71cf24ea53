import RemoteSensing.Proofs.Script.Finished

/-!
A text in quotes on its way through the converter.
-/

namespace RemoteSensing.Script

open List Chars

variable {c : Char} {a b s w : Line} {m : String}

def enclosed (a s b : Line) : Line := a ++ '\'' :: (s ++ '\'' :: b)

theorem enclosed_concat (a s : Line) (c : Char) : enclosed a s [c] = enclosed a s [] ++ [c] := by
  simp [enclosed]

def declaredText (s : Line) : Line := enclosed "var x = ".toList s [';']

def assignedText (s : Line) : Line := enclosed "x = ".toList s []

abbrev closedText (s : Line) : Line := enclosed "x = ".toList s [';']

def Simple (s : Line) : Prop := ∀ c ∈ s, c ∉ ['\'', '"', '\\', '\n', '\r']

theorem infix_enclosed_iff (hw : '\'' ∉ w) (ha : ¬ w <:+: a) (hb : ¬ w <:+: b) : w <:+: enclosed a s b ↔ w <:+: s := by
  rw [enclosed, Chars.infix_append_cons_iff hw, Chars.infix_append_cons_iff hw]
  simp [ha, hb]

theorem has_enclosed {w : String} (hw : '\'' ∉ w.toList ∧ ¬ w.toList <:+: a ∧ ¬ w.toList <:+: b) :
    Line.has (enclosed a s b) w = Line.has s w := by
  rw [Bool.eq_iff_iff, Line.has, Line.has, Chars.contains_iff, Chars.contains_iff, infix_enclosed_iff hw.1 hw.2.1 hw.2.2]

theorem find?_enclosed (hw : '\'' ∉ w) (ha : ¬ w <:+: a) (hb : ¬ w <:+: b) {n : Nat} (hn : (a ++ ['\'']).length = n) :
    Chars.find? w (enclosed a s b) = (Chars.find? w s).map (n + ·) := by
  subst hn
  cases hfind : Chars.find? w s with
  | some k =>
    have hsplit : enclosed a s b = (a ++ ['\'']) ++ (s ++ '\'' :: b) := by simp [enclosed]
    rw [hsplit, Chars.find?_skip, Chars.find?_append hfind]
    intro y hy hne hpre
    obtain ⟨x, z, rfl⟩ := (eq_nil_or_concat y).resolve_left hne
    obtain ⟨u, hu⟩ := hy
    rw [concat_eq_append, ← append_assoc] at hu
    obtain ⟨rfl, hz⟩ := append_inj' hu rfl
    rw [concat_eq_append, hz, append_assoc, singleton_append] at hpre
    exact ha ((Chars.prefix_of_prefix_append_cons hw hpre).isInfix.trans (suffix_append u x).isInfix)
  | none =>
    have hnot : ¬ w <:+: enclosed a s b := by
      rw [infix_enclosed_iff hw ha hb, ← Chars.contains_iff, Chars.contains, hfind]
      decide
    rw [← Chars.contains_iff, Chars.contains, Option.isSome_iff_ne_none, not_not] at hnot
    exact hnot

theorem takeWhile_of_not_mem (ha : c ∉ a) : a.takeWhile (· != c) = a :=
  List.takeWhile_eq_self_iff.mpr fun x hx => by simpa using ne_of_mem_of_not_mem hx ha

theorem dropOptions_append_quote {t : Line} (ht : ',' ∉ t ∧ ')' ∉ t) (skip : Nat) (s : Line) (hskip : skip ≤ s.length) :
    dropOptions skip (s ++ '\'' :: t) = dropOptions skip s ++ '\'' :: t := by
  induction s generalizing skip with
  | nil =>
    obtain rfl : skip = 0 := by simpa using hskip
    have hquote : ',' ∉ '\'' :: t := by simp [ht.1]
    have h := dropOptions_of_not_mem hquote []
    rwa [append_nil, dropOptions, append_nil] at h
  | cons c r ih =>
    cases skip with
    | succ skip =>
      exact ih skip (by simpa using hskip)
    | zero =>
      rw [cons_append, dropOptions, dropOptions]
      by_cases hclose : ')' ∈ r
      · obtain ⟨a, b, rfl, ha⟩ := eq_append_cons_of_mem hclose
        have hstarts : Line.starts (')' :: (b ++ '\'' :: t)) ");" = Line.starts (')' :: b) ");" := by
          cases b <;> rfl
        rw [append_assoc, cons_append, takeWhile_before ha, takeWhile_before ha, drop_left, drop_left,
          hstarts]
        have hrest : ∀ k, k ≤ a.length → dropOptions k (a ++ ')' :: (b ++ '\'' :: t)) =
            dropOptions k (a ++ ')' :: b) ++ '\'' :: t := by
          intro k hk
          have h := ih k (by rw [length_append]; omega)
          rwa [append_assoc] at h
        split
        · exact hrest _ (Nat.le_refl _)
        · rw [hrest 0 (Nat.zero_le _), cons_append]
      · have hnone : ')' ∉ r ++ '\'' :: t := by simp [hclose, ht.2]
        rw [takeWhile_of_not_mem hnone, takeWhile_of_not_mem hclose, drop_length, drop_length]
        have hstarts : Line.starts [] ");" = false := rfl
        rw [hstarts, Bool.and_false, Bool.and_false, if_neg (by decide), if_neg (by decide), ih 0 (Nat.zero_le _),
          cons_append]

/-- What is read of a text: neither the options of the map nor a remark on a colour. -/
def core (s : Line) : Line :=
  let s := if Line.has s "Map.setOptions" then dropOptions 0 s else s
  if Line.has s "/* color" && Line.has s "*/" then
    s.take ((Chars.find? "/*".toList s).getD 0) ++ s.drop ((Chars.find? "*/".toList s).getD 0 + 2)
  else s

def Foreign (w : Line) : Prop := '\'' ∉ w ∧ ¬ w <:+: "var x = ".toList ∧ ¬ w <:+: [';']

instance (w : Line) : Decidable (Foreign w) := inferInstanceAs (Decidable (_ ∧ _ ∧ _))

theorem has_declaredText {w : String} (hw : Foreign w.toList) (s : Line) : Line.has (declaredText s) w = Line.has s w :=
  has_enclosed hw

theorem find?_declaredText (hw : Foreign w) (s : Line) :
    Chars.find? w (declaredText s) = (Chars.find? w s).map (9 + ·) := find?_enclosed hw.1 hw.2.1 hw.2.2 (by decide)

theorem bare_declaredText (s : Line) : bare (declaredText s) = declaredText (core s) := by
  have hoptions : dropOptions 0 (declaredText s) = declaredText (dropOptions 0 s) := by
    have hfront := dropOptions_of_not_mem (a := "var x = '".toList) (by decide) (s ++ '\'' :: [';'])
    rw [dropOptions_append_quote (by decide) 0 s (Nat.zero_le _)] at hfront
    exact hfront
  have hremark : ∀ s, withoutRemark (declaredText s) = declaredText (if Line.has s "/* color" && Line.has s "*/" then
      s.take ((Chars.find? "/*".toList s).getD 0) ++ s.drop ((Chars.find? "*/".toList s).getD 0 + 2) else s) := by
    intro s
    rw [withoutRemark, has_declaredText (by decide), has_declaredText (by decide)]
    split
    · rename_i hcond
      obtain ⟨k, n, hk, hn⟩ := remark_found hcond
      have hfirst : Chars.find? "/*".toList (declaredText s) = some (9 + k) := by
        rw [find?_declaredText (by decide), hk, Option.map_some]
      have hlast : Chars.find? "*/".toList (declaredText s) = some (9 + n) := by
        rw [find?_declaredText (by decide), hn, Option.map_some]
      have hklength : k ≤ s.length := by
        obtain ⟨x, y, rfl, rfl⟩ := Chars.find?_eq_some hk
        simp
      have hnlength : n + 2 ≤ s.length := by
        obtain ⟨x, y, rfl, rfl⟩ := Chars.find?_eq_some hn
        simp
      have hsplit : declaredText s = "var x = '".toList ++ (s ++ ['\'', ';']) := rfl
      have hnine : "var x = '".toList.length = 9 := by decide
      have htake : (declaredText s).take (9 + k) = "var x = '".toList ++ s.take k := by
        rw [hsplit, ← hnine, take_length_add_append, take_append_of_le_length hklength]
      have hdrop : (declaredText s).drop (9 + n + 2) = s.drop (n + 2) ++ ['\'', ';'] := by
        rw [hsplit, Nat.add_assoc, ← hnine, drop_length_add_append, drop_append_of_le_length hnlength]
      rw [hfirst, hlast, hk, hn, Option.getD_some, Option.getD_some, Option.getD_some, Option.getD_some, htake, hdrop]
      show "var x = '".toList ++ s.take k ++ (s.drop (n + 2) ++ ['\'', ';']) =
        "var x = '".toList ++ (s.take k ++ s.drop (n + 2) ++ ['\'', ';'])
      simp only [append_assoc]
    · rfl
  rw [bare, has_declaredText (by decide), core]
  split
  · rw [hoptions]
    exact hremark _
  · exact hremark _

theorem Foreign.tail (hw : Foreign w) : ¬ w <:+: "x = ".toList := by
  intro h
  exact hw.2.1 (h.trans ⟨"var ".toList, [], rfl⟩)

theorem replace_enclosed {old : String} (hne : old.toList ≠ []) (hw : '\'' ∉ old.toList) (ha : ¬ old.toList <:+: a)
    (hb : ¬ old.toList <:+: b) (new : String) :
    Line.replace (enclosed a s b) old new = enclosed a (Line.replace s old new) b := by
  rw [Line.replace, enclosed, Chars.replace_append_cons hne hw, Chars.replace_append_cons hne hw,
    Chars.replace_of_absent hne _ ha, Chars.replace_of_absent hne _ hb]
  rfl

theorem foreign_stageWords : ∀ w ∈ stageWords, w.toList ≠ [] ∧ Foreign w.toList := by
  decide +kernel

theorem respellAll_enclosed {rs : List (String × String)} (hrs : ∀ r ∈ rs, r ∈ stageSpellings m) (s : Line) :
    respellAll rs (closedText s) = closedText (respellAll rs s) := by
  induction rs generalizing s with
  | nil => rfl
  | cons r rs ih =>
    obtain ⟨hne, hforeign⟩ := foreign_stageWords r.1 (mem_stageWords (hrs r mem_cons_self))
    rw [respellAll_cons, respellAll_cons, replace_enclosed hne hforeign.1 hforeign.tail hforeign.2.2]
    exact ih (fun x hx => hrs x (mem_cons_of_mem r hx)) _

theorem respell_declaredText (m : String) (s : Line) :
    respell m (declaredText s) = closedText (respelled m s) := by
  have hearly : ∀ r ∈ respellings, r ∈ stageSpellings m := fun r hr => by simp [stageSpellings, spellingTable, hr]
  have hlater : ∀ r ∈ ("Map.", m ++ ".") :: laterRespellings, r ∈ stageSpellings m := by
    intro r hr
    rcases List.mem_cons.mp hr with rfl | hr
    · simp [stageSpellings, spellingTable]
    · simp [stageSpellings, spellingTable, hr]
  obtain ⟨hne, hforeign⟩ := foreign_stageWords "//" (by decide)
  have hslashes : Line.replace (declaredText s) "//" "#" = declaredText (Line.replace s "//" "#") :=
    replace_enclosed hne hforeign.1 hforeign.2.1 hforeign.2.2 "#"
  have hdeclared : ∀ t, Chars.replaceFirst "var ".toList [] (declaredText t) = closedText t := fun _ => rfl
  have htable : respelled m s = respellAll (("Map.", m ++ ".") :: laterRespellings)
      (respellAll respellings (Line.replace s "//" "#")) := by
    rw [respelled, spellingTable, respellAll_append, respellAll_cons ("//", "#")]
  unfold respell
  dsimp only
  rw [hslashes, hdeclared, respellAll_enclosed hearly, htable, ← respellAll_enclosed hlater, respellAll_cons]

/-- Is an equals sign missing behind the first exclamation mark of the text? It is looked for in the line without blanks, at
the place that the mark has in the line with them. -/
def negatable (s : Line) : Bool :=
  match Chars.find? ['!'] s with
  | none => false
  | some j => ((dense s ++ "';".toList)[j + 3]?).any (· != '=')

def negatedIn (s : Line) : Line := if negatable s then Line.replace s "!" "not " else s

theorem negated_enclosed (s : Line) :
    negated (closedText s) = closedText (negatedIn s) := by
  have hfind : Chars.find? ['!'] (closedText s) = (Chars.find? ['!'] s).map (5 + ·) :=
    find?_enclosed (by decide) (by decide) (by decide) (by decide)
  have hdense : dense (closedText s) = "x='".toList ++ (dense s ++ "';".toList) := by
    simp [dense, enclosed]
  have hreplace : Line.replace (closedText s) "!" "not " =
      closedText (Line.replace s "!" "not ") :=
    replace_enclosed (by decide) (by decide) (by decide) (by decide) "not "
  rw [negated, hfind, hdense, hreplace, negatedIn]
  cases hmark : Chars.find? ['!'] s with
  | none =>
    have hnot : negatable s = false := by rw [negatable, hmark]
    rw [hnot]
    rfl
  | some j =>
    have hget : ("x='".toList ++ (dense s ++ "';".toList))[5 + j + 1]? = (dense s ++ "';".toList)[j + 3]? := by
      have hindex : 5 + j + 1 = "x='".toList.length + (j + 3) := by
        show 5 + j + 1 = 3 + (j + 3)
        omega
      rw [hindex, List.getElem?_append_right (Nat.le_add_right _ _), Nat.add_sub_cancel_left]
    have hnegatable : negatable s = ((dense s ++ "';".toList)[j + 3]?).any (· != '=') := by rw [negatable, hmark]
    simp only [Option.map_some, hget]
    cases hbehind : (dense s ++ "';".toList)[j + 3]? with
    | none =>
      rw [hbehind] at hnegatable
      rw [hnegatable]
      rfl
    | some c =>
      rw [hbehind] at hnegatable
      rw [hnegatable]
      by_cases hequals : c = '=' <;> simp [hequals]

def retold (m : String) (s : Line) : Line := respellConcat (negatedIn (respelled m s))

theorem spelled_declaredText (o : Options) (s : Line) :
    spelled o (declaredText s) = closedText (retold o.mapName s) := by
  have hconcat : ∀ s, respellConcat (closedText s) = closedText (respellConcat s) := by
    intro s
    have hsums : ∀ r ∈ sumSpellings, r ∈ stageSpellings o.mapName := fun r hr => by simp [stageSpellings, hr]
    rw [respellConcat_eq, respellConcat_eq, has_enclosed (by decide)]
    split
    · exact respellAll_enclosed hsums s
    · rfl
  have htrim : ∀ s, Chars.trimRight (closedText s) = closedText s := by
    intro s
    rw [closedText, enclosed_concat]
    exact Chars.trimRight_concat (by decide) _
  rw [spelled, respell_declaredText, negated_enclosed, htrim, hconcat]
  rfl

def shown (m : String) (s : Line) : Line := dropRemark (keysQuoted (assignedText (retold m s)))

theorem trimLeft_enclosed (s b : Line) : Chars.trimLeft (enclosed "x = ".toList s b) = enclosed "x = ".toList s b :=
  dropWhile_cons_of_neg (by decide)

theorem trim_enclosed (hc : Text.isBlank c = false) (s : Line) :
    Line.trim (enclosed "x = ".toList s [c]) = enclosed "x = ".toList s [c] := by
  rw [Line.trim, Chars.trim, trimLeft_enclosed, enclosed_concat]
  exact Chars.trimRight_concat hc _

theorem ends_enclosed {w : String} (hw : w.toList.getLast?.getD c ≠ c) (s : Line) : Line.ends (enclosed a s [c]) w = false := by
  rw [Line.ends, Bool.eq_false_iff]
  intro h
  obtain ⟨t, ht⟩ := List.isSuffixOf_iff_suffix.mp h
  have hlast := congrArg List.getLast? ht
  rw [enclosed_concat, List.getLast?_concat, List.getLast?_append] at hlast
  cases hd : w.toList.getLast? with
  | none => simp [hd] at hw
  | some d => simp_all

theorem settled_closedText {p : Progress} (hcalls : p.calls = 0) (hlines : p.lines.length = 1) (s : Line) :
    ∃ p' : Progress, settled p 0 (closedText s) = putOut p' 0 (dropRemark (keysQuoted (assignedText s))) ∧
      p'.output = p.output := by
  have hnamed : nameArguments p (closedText s) = (p, closedText s) := by
    have hcall : opensCall (closedText s) = false := by
      rw [opensCall, trim_enclosed (by decide), ends_enclosed (by decide)]
      rfl
    rw [nameArguments, hcall]
    simp [hcalls]
  have hended : endLine (closedText s) = assignedText s := by
    have hlast : closedText s = assignedText s ++ [';'] := enclosed_concat _ _ _
    have hsemicolon : Line.ends (closedText s) ";" = true := by
      rw [hlast]
      exact List.isSuffixOf_iff_suffix.mpr (suffix_append _ _)
    rw [endLine, ends_enclosed (by decide), if_neg (by decide), hsemicolon, if_pos rfl, hlast, dropLast_concat]
  have hstar : starRemark (assignedText s) = assignedText s := by
    rfl
  have hchain : ∀ (q : Progress) (l : Line), q.lines = p.lines → dropChainRemark q.lines 0 l = l := by
    intro q l hq
    rw [dropChainRemark, hq, hlines]
    rfl
  refine ⟨countLiterals p (closedText s), ?_, (countLiterals_unmoved _ _).2⟩
  rw [settled, hnamed]
  rw [hended, hstar, hchain _ _ (countLiterals_unmoved _ _).1]

theorem finished_declaredText {o : Options} {p : Progress} (hassigning : p.assigning = false)
    (hprinting : p.printing = false) (hcalls : p.calls = 0) (hlines : p.lines.length = 1) (s : Line) :
    ∃ p' : Progress, finished o p 0 (declaredText s) = .ok (putOut p' 0 (shown o.mapName s)) ∧ p'.output = p.output := by
  have hequals : (closedText (retold o.mapName s)).contains '=' = true := rfl
  have hevaluated : evaluated o p (declaredText s) = (p, closedText (retold o.mapName s)) := by
    rw [evaluated, spelled_declaredText, continueAssignment_of_not hassigning, trim_enclosed (by decide),
      ends_enclosed (by decide), if_neg (by decide), evaluatePrinted, hequals, hprinting, Bool.not_true, Bool.and_false,
      Bool.or_false, if_neg (by decide)]
  have hcomma : dropComma p.lines 0 (closedText (retold o.mapName s)) = .ok (closedText (retold o.mapName s)) := by
    rw [dropComma, ends_enclosed (by decide)]
    rfl
  obtain ⟨p', hsettled, houtput⟩ := settled_closedText hcalls hlines (retold o.mapName s)
  refine ⟨p', ?_, houtput⟩
  rw [finished, hevaluated, hcomma]
  exact congrArg Except.ok hsettled

def Keyless (s : Line) : Prop := ∀ a b, s = a ++ ':' :: b → ':' ∉ b ∧ '\x7b' ∉ a

def Remarkless (s : Line) : Prop := '#' ∈ s → s.head? = some '#'

theorem Keyless.of_letters {u : Line} (hs : Keyless s) (h : letters u = letters s) : Keyless u := by
  rintro a b rfl
  have hcut : ∀ a b : Line, letters (a ++ ':' :: b) = letters a ++ ':' :: letters b := fun a b => letters_append a (':' :: b)
  have hcolon : ':' ∈ s := by
    rw [← mem_letters_iff (by decide), ← h, hcut]
    simp
  obtain ⟨x, y, rfl, hx⟩ := eq_append_cons_of_mem hcolon
  obtain ⟨hy, hbrace⟩ := hs x y rfl
  rw [hcut, hcut, eq_comm, append_cons_inj_of_notMem (mt (mem_letters_iff (by decide)).mp hx)
    (mt (mem_letters_iff (by decide)).mp hy)] at h
  rw [← mem_letters_iff (by decide), ← h.2.2, mem_letters_iff (by decide), ← mem_letters_iff (l := a) (by decide), ← h.1,
    mem_letters_iff (by decide)]
  exact ⟨hy, hbrace⟩

theorem assignedText_eq_concat (s : Line) : assignedText s = ("x = ".toList ++ '\'' :: s) ++ ['\''] := by
  simp [assignedText, enclosed]

theorem trim_assignedText (s : Line) : Line.trim (assignedText s) = assignedText s := by
  rw [Line.trim, Chars.trim, assignedText, trimLeft_enclosed, ← assignedText, assignedText_eq_concat]
  exact Chars.trimRight_concat (by decide) _

theorem seeksKeys_assignedText (s : Line) : seeksKeys (assignedText s) = s.contains ':' := by
  have hcolon : (assignedText s).contains ':' = s.contains ':' := by
    simp [assignedText, enclosed]
  have hstarts : Line.starts (assignedText s) "#" = false ∧ Line.starts (assignedText s) "def" = false ∧
      Line.starts (assignedText s) "." = false ∧ Line.starts (assignedText s) "if" = false ∧
      Line.starts (assignedText s) "for" = false := ⟨rfl, rfl, rfl, rfl, rfl⟩
  obtain ⟨h1, h2, h3, h4, h5⟩ := hstarts
  rw [seeksKeys, trim_assignedText, hcolon, h1, h2, h3, h4, h5]
  simp

theorem hasQuote_eq_false {l : Line} (h : '\'' ∉ l ∧ '"' ∉ l) : hasQuote l = false := by
  simp [hasQuote, h.1, h.2]

/-- **A text stays as it is exactly if it is without keys.** -/
theorem keysQuoted_assignedText_iff (hs : '\'' ∉ s ∧ '"' ∉ s) :
    keysQuoted (assignedText s) = assignedText s ↔ Keyless s := by
  rw [keysQuoted_eq, seeksKeys_assignedText]
  by_cases hcolon : ':' ∈ s
  · rw [contains_iff_mem.mpr hcolon, if_pos rfl]
    obtain ⟨a, b, rfl, ha⟩ := eq_append_cons_of_mem hcolon
    have hbare : ∀ p : Line, p <:+: a ++ ':' :: b → hasQuote p = false := fun p hp =>
      hasQuote_eq_false ⟨mt (hp.subset ·) hs.1, mt (hp.subset ·) hs.2⟩
    by_cases hbrace : '\x7b' ∈ a
    · refine iff_of_false (fun h => ?_) fun hkeyless => (hkeyless a b rfl).2 hbrace
      obtain ⟨x, y, rfl, hx⟩ := eq_append_cons_of_mem hbrace
      simp only [mem_append, mem_cons, not_or] at ha
      have hsplit : assignedText (x ++ '\x7b' :: y ++ ':' :: b) =
          ("x = '".toList ++ x) ++ '\x7b' :: (y ++ ':' :: (b ++ ['\''])) := by simp [assignedText, enclosed]
      rw [hsplit, withKeys_of_brace ⟨by simp [ha.1], by simp [hx]⟩ ha.2.2, append_cancel_left_eq, cons.injEq] at h
      have hkey : hasQuote y = true := by
        refine quoted_of_requoted h.2 ?_
        rw [Chars.split_append ha.2.2, dropLast_cons_of_ne_nil (Chars.split_ne_nil (by simp) _)]
        exact mem_cons_self
      rw [hbare y ⟨x ++ ['\x7b'], ':' :: b, by simp⟩] at hkey
      cases hkey
    · have hsplit : assignedText (a ++ ':' :: b) = ("x = '".toList ++ a) ++ ':' :: (b ++ ['\'']) := by
        simp [assignedText, enclosed]
      have hcolon' : ':' ∉ "x = '".toList ++ a := by simp [ha]
      rw [hsplit, withKeys_of_colon ⟨hcolon', by simp [hbrace]⟩]
      by_cases hmore : ':' ∈ b
      · -- what stands between two colons is a key
        refine iff_of_false (fun h => ?_) fun hkeyless => (hkeyless a b rfl).1 hmore
        obtain ⟨x, y, rfl, hx⟩ := eq_append_cons_of_mem hmore
        have hkey : hasQuote x = true := by
          refine quoted_of_requoted h ?_
          rw [Chars.split_append hcolon', append_assoc, cons_append, Chars.split_append hx, dropLast_cons_cons,
            dropLast_cons_of_ne_nil (Chars.split_ne_nil (by simp) _)]
          exact mem_cons_of_mem _ mem_cons_self
        rw [hbare x ⟨a ++ [':'], ':' :: y, by simp⟩] at hkey
        cases hkey
      · refine iff_of_true ?_ fun a' b' h => ?_
        · rw [requoted, Chars.split_append hcolon', Chars.split_of_not_mem (a := b ++ ['\'']) (by simp [hmore])]
          show quoteSingleKey ("x = '".toList ++ a) ++ [':'] ++ (b ++ ['\'']) = _
          rw [quoteSingleKey_of_hasQuote (hasQuote_of_mem (by simp)), append_assoc, singleton_append]
        · obtain ⟨rfl, -, rfl⟩ := (append_cons_inj_of_notMem ha hmore).mp h
          exact ⟨hmore, hbrace⟩
  · rw [if_neg (mt contains_iff_mem.mp hcolon)]
    refine iff_of_true rfl ?_
    rintro a b rfl
    exact absurd (by simp) hcolon

theorem getLast?_assignedText (s : Line) : (assignedText s).getLast? = some '\'' := by
  rw [assignedText_eq_concat, List.getLast?_concat]

theorem assignedText_inj {t : Line} (h : assignedText s = assignedText t) : s = t := by
  rw [assignedText, assignedText, enclosed, enclosed, append_cancel_left_eq, cons.injEq] at h
  exact append_cancel_right h.2

/-- Quoting that gives a text has met no key: a second time it would change nothing, and it keeps the letters. -/
theorem keyless_of_kept {u : Line} (hs : '\'' ∉ s ∧ '"' ∉ s) (h : keysQuoted (assignedText u) = assignedText s) :
    Keyless s ∧ Keyless u := by
  rw [keysQuoted_eq, seeksKeys_assignedText] at h
  split at h
  · rename_i hcolon
    have hletters : letters u = letters s := by
      have hcut : ∀ v : Line, letters (assignedText v) = letters "x = '".toList ++ letters v ++ letters ['\''] := by
        intro v
        rw [← letters_append, ← letters_append, append_assoc]
        rfl
      have hall := (respaced_withKeys (assignedText u)).letters_eq
      rw [h, hcut, hcut] at hall
      exact (append_cancel_left (append_cancel_right hall)).symm
    have hmem : ':' ∈ assignedText u := by
      rw [assignedText_eq_concat]
      simp [contains_iff_mem.mp hcolon]
    have hagain := withKeys_idem hmem
    rw [h] at hagain
    have hkeyless := (keysQuoted_assignedText_iff hs).mp (by rw [keysQuoted_eq, hagain, ite_self])
    exact ⟨hkeyless, hkeyless.of_letters hletters⟩
  · rename_i hcolon
    obtain rfl := assignedText_inj h
    have hkeyless := (keysQuoted_assignedText_iff hs).mp (by rw [keysQuoted_eq, seeksKeys_assignedText, if_neg hcolon])
    exact ⟨hkeyless, hkeyless⟩

theorem dropRemark_assignedText_iff (hs : '\'' ∉ s) : dropRemark (assignedText s) = assignedText s ↔ Remarkless s := by
  have hcontains : (assignedText s).contains '#' = true ↔ '#' ∈ s := by
    simp [assignedText, enclosed]
  have hstarts : Line.starts (Line.trim (assignedText s)) "#" = false := by
    rw [trim_assignedText]
    rfl
  by_cases hmem : '#' ∈ s
  · obtain ⟨a, b, rfl, ha⟩ := eq_append_cons_of_mem hmem
    have hbefore : beforeRemark (assignedText (a ++ '#' :: b)) = "x = '".toList ++ a := by
      have hsplit : assignedText (a ++ '#' :: b) = ("x = '".toList ++ a) ++ '#' :: (b ++ ['\'']) := by
        simp [assignedText, enclosed]
      rw [beforeRemark, hsplit]
      exact takeWhile_before (by simp [ha]) _
    have hlast : ("x = '".toList ++ a).getLast? = some '\'' ↔ a = [] := by
      rcases eq_nil_or_concat a with rfl | ⟨a, c, rfl⟩
      · decide
      · rw [concat_eq_append, ← append_assoc, List.getLast?_concat, Option.some_inj]
        constructor
        · rintro rfl
          exact absurd (by simp) hs
        · intro h
          exact absurd h (by simp)
    have hhead : Remarkless (a ++ '#' :: b) ↔ a = [] := by
      cases a with
      | nil => exact ⟨fun _ => rfl, fun _ _ => rfl⟩
      | cons c a =>
        refine ⟨fun h => ?_, fun h => absurd h (by simp)⟩
        obtain rfl : c = '#' := by simpa using h (by simp)
        exact absurd mem_cons_self ha
    rw [dropRemark, hcontains.mpr hmem, hstarts, hbefore, hhead, ← hlast]
    split
    · rename_i hcut
      have hne : ("x = '".toList ++ a).getLast? ≠ some '\'' := by simpa using hcut
      refine ⟨fun h => ?_, fun h => absurd h hne⟩
      rw [h, getLast?_assignedText]
    · rename_i hkept
      refine ⟨fun _ => ?_, fun _ => rfl⟩
      by_contra hne
      exact hkept (by simpa using hne)
  · have hnot : (assignedText s).contains '#' = false := by
      rw [Bool.eq_false_iff, ne_eq, hcontains]
      exact hmem
    rw [dropRemark, hnot]
    exact ⟨fun _ h => absurd h hmem, fun _ => rfl⟩

/-- **What is put out for a text is the text in quotes** exactly if respelling leaves the text as it is, and it has neither keys nor
a remark. -/
theorem shown_eq_iff {t : Line} (hs : '\'' ∉ s ∧ '"' ∉ s) (ht : '\'' ∉ retold m t ∧ '"' ∉ retold m t) :
    shown m t = assignedText s ↔ retold m t = s ∧ Keyless s ∧ Remarkless s := by
  constructor
  · intro h
    -- a line that has lost a remark does not end with a quote
    have hkept : keysQuoted (assignedText (retold m t)) = assignedText s := by
      rw [shown, dropRemark] at h
      split at h
      · rename_i hcut
        rw [h, getLast?_assignedText] at hcut
        exact absurd hcut (by simp)
      · exact h
    have hkeyless := keyless_of_kept hs hkept
    have hsame := assignedText_inj (((keysQuoted_assignedText_iff ht).mpr hkeyless.2).symm.trans hkept)
    rw [shown, hkept] at h
    exact ⟨hsame, hkeyless.1, (dropRemark_assignedText_iff hs.1).mp h⟩
  · rintro ⟨rfl, hkeyless, hremarkless⟩
    rw [shown, (keysQuoted_assignedText_iff hs).mpr hkeyless]
    exact (dropRemark_assignedText_iff hs.1).mpr hremarkless

end RemoteSensing.Script
