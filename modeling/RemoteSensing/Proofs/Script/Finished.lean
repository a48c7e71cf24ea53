import RemoteSensing.Proofs.Script.Keys
import RemoteSensing.Proofs.Script.Respelling

/-!
What a line still is once it has gone through all stages.
-/

namespace RemoteSensing.Script

open Chars List

variable {m : String} {l : Line} {p q : Progress} {c x : Char} {i : Nat}

def stageSpellings (m : String) : List (String × String) :=
  spellingTable m ++ ("!", "not ") :: sumSpellings ++ [("\x7d)", ")"), (": ", "="), (":", " ="), ("*", "#")]

/-- A property of lines that every stage keeps. -/
structure Lasting (m : String) (P : Line → Prop) : Prop where
  replace : ∀ r ∈ stageSpellings m, ∀ l, P l → P (Line.replace l r.1 r.2)
  declared : ∀ l, P l → P (replaceFirst "var ".toList [] l)
  trimmed : ∀ l, P l → P (trimRight l)
  joined : ∀ l, P l → P (l ++ " \\".toList)
  printed : ∀ l i, lastClosing? l = some i → P l → P (l.take i ++ ".getInfo())".toList)
  shortened : ∀ l c, c ∈ [',', ';', '\x7b'] → P (l ++ [c]) → P l
  quoted : ∀ l, P l → P (keysQuoted l)
  remark : ∀ l, P l → P (beforeRemark l)
  chain : ∀ l, Line.starts (trimLeft l) "#" = true → P l → P []

theorem ends_singleton (h : [c].isSuffixOf l = true) : l = l.dropLast ++ [c] := by
  obtain ⟨a, rfl⟩ := isSuffixOf_iff_suffix.mp h
  rw [dropLast_concat]

theorem continueAssignment_of_not (hp : p.assigning = false) (l : Line) :
    continueAssignment p l =
      if Line.ends (Line.trim l) "=" then ({ p with assigning := true }, l ++ " \\".toList) else (p, l) := by
  rw [continueAssignment, hp]
  rfl

theorem trimRight_ends_of_opensCall (h : opensCall l = true) : ['\x7b'].isSuffixOf (trimRight l) = true := by
  have hends : "(\x7b".toList <:+ Line.trim l := by
    simp only [opensCall, Bool.and_eq_true] at h
    exact isSuffixOf_iff_suffix.mp h.1.1.1.1
  obtain ⟨b, hb, hsuffix⟩ := suffix_of_suffix_trim hends
  obtain ⟨a, rfl⟩ := hsuffix
  have hsplit : a ++ ("(\x7b".toList ++ b) = a ++ ['('] ++ ['\x7b'] ++ b := by simp
  rw [hsplit, trimRight_append_blank hb, trimRight_concat (by decide)]
  exact isSuffixOf_iff_suffix.mpr (suffix_append _ _)

namespace Lasting

variable {o : Options} {P : Line → Prop} (h : Lasting o.mapName P)

include h

theorem respellAll {rs : List (String × String)} (hrs : ∀ r ∈ rs, r ∈ stageSpellings o.mapName) (hl : P l) :
    P (respellAll rs l) := by
  induction rs generalizing l with
  | nil => exact hl
  | cons r rs ih =>
    exact ih (fun x hx => hrs x (mem_cons_of_mem r hx)) (h.replace r (hrs r mem_cons_self) l hl)

theorem spelled (hl : P l) : P (spelled o l) := by
  have hrespell : P (respell o.mapName l) := by
    have hearly : ∀ r ∈ respellings, r ∈ stageSpellings o.mapName := fun r hr => by simp [stageSpellings, spellingTable, hr]
    have hlater : ∀ r ∈ laterRespellings, r ∈ stageSpellings o.mapName := fun r hr => by
      simp [stageSpellings, spellingTable, hr]
    have hslashes := h.replace ("//", "#") (by simp [stageSpellings, spellingTable]) l hl
    have hmap := h.replace ("Map.", o.mapName ++ ".") (by simp [stageSpellings, spellingTable]) _
      (h.respellAll hearly (h.declared _ hslashes))
    exact h.respellAll hlater hmap
  have hnegated : P (negated (respell o.mapName l)) := by
    unfold negated
    split
    · exact hrespell
    · split
      · split
        · exact hrespell
        · exact h.replace ("!", "not ") (by simp [stageSpellings]) _ hrespell
      · exact hrespell
  have htrimmed := h.trimmed _ hnegated
  rw [Script.spelled, respellConcat_eq]
  split
  · refine h.respellAll (fun r hr => ?_) htrimmed
    simp [stageSpellings, hr]
  · exact htrimmed

theorem evaluated (hp : p.assigning = false) (hl : P l) : P (evaluated o p l).2 := by
  have hcontinued : ∀ l, P l → P (continueAssignment p l).2 := by
    intro l hl
    rw [continueAssignment_of_not hp]
    split
    · exact h.joined l hl
    · exact hl
  have hprinted : ∀ q l, P l → P (evaluatePrinted q l).2 := by
    intro q l hl
    unfold evaluatePrinted
    split
    · split
      · rename_i i hi
        exact h.printed l i hi hl
      · exact hl
    · exact hl
  exact hprinted _ _ (hcontinued _ (h.spelled hl))

theorem dropComma {lines : List Line} {l' : Line} (hl : P l) (hcomma : dropComma lines i l = .ok l') : P l' := by
  unfold Script.dropComma at hcomma
  split at hcomma
  · rename_i hends
    obtain ⟨below, -, hbelow⟩ := bind_eq_ok.mp hcomma
    cases hbelow
    split
    · rw [ends_singleton hends] at hl
      exact h.shortened _ ',' (by simp) hl
    · exact hl
  · cases hcomma
    exact hl

theorem nameArguments (p : Progress) (hl : P l) : P (nameArguments p l).2 := by
  have hreplaced : ∀ l, P l → P (Line.replace l "\x7d)" ")") ∧ P (Line.replace (Line.replace l ": " "=") ":" " =") := by
    intro l hl
    refine ⟨h.replace ("\x7d)", ")") (by simp [stageSpellings]) l hl, ?_⟩
    exact h.replace (":", " =") (by simp [stageSpellings]) _ (h.replace (": ", "=") (by simp [stageSpellings]) l hl)
  have hnamed : ∀ (q : Progress) (l : Line), P l → P (if 0 < q.calls then
      if Line.starts (Line.trim l) "\x7d)" then ({ q with calls := q.calls - 1 }, Line.replace l "\x7d)" ")")
      else if q.literals < 1 then (q, Line.replace (Line.replace l ": " "=") ":" " =") else (q, l)
      else (q, l) : Progress × Line).2 := by
    intro q l hl
    split
    · split
      · exact (hreplaced l hl).1
      · split
        · exact (hreplaced l hl).2
        · exact hl
    · exact hl
  unfold Script.nameArguments
  dsimp only
  split
  · rename_i hcall
    refine hnamed _ _ ?_
    have hbrace := ends_singleton (trimRight_ends_of_opensCall hcall)
    have htrimmed := h.trimmed l hl
    rw [hbrace] at htrimmed
    exact h.shortened _ '\x7b' (by simp) htrimmed
  · exact hnamed p l hl

/-- **What becomes of a line**: it is put out as a line with the property. -/
theorem settled (p : Progress) (i : Nat) (hl : P l) :
    ∃ (q : Progress) (l' : Line), Script.settled p i l = putOut q i l' ∧ P l' ∧ q.output = p.output := by
  have hended : ∀ l, P l → P (endLine l) := by
    intro l hl
    unfold endLine
    split
    · exact h.joined l hl
    · split
      · rename_i hends
        rw [ends_singleton hends] at hl
        exact h.shortened _ ';' (by simp) hl
      · exact hl
  have hstarred : ∀ l, P l → P (starRemark l) := by
    intro l hl
    unfold starRemark
    split
    · exact h.replace ("*", "#") (by simp [stageSpellings]) l hl
    · exact hl
  have hchained : ∀ lines l, P l → P (dropChainRemark lines i l) := by
    intro lines l hl
    unfold dropChainRemark
    split
    · rename_i hcond
      simp only [Bool.and_eq_true] at hcond
      exact h.chain l hcond.1.2 hl
    · exact hl
  have hcut : ∀ l, P l → P (dropRemark l) := by
    intro l hl
    unfold dropRemark
    split
    · exact h.remark l hl
    · exact hl
  refine ⟨_, _, rfl, hcut _ (hchained _ _ (h.quoted _ (hstarred _ (hended _ (h.nameArguments p hl))))), ?_⟩
  rw [(countLiterals_unmoved _ _).2, (nameArguments_unmoved _ _).2]

theorem finished (hp : p.assigning = false) (hl : P l)
    (hfinished : finished o p i l = .ok q) : ∃ (p' : Progress) (l' : Line), q = putOut p' i l' ∧
      P l' ∧ p'.output = p.output := by
  obtain ⟨l', hcomma, rfl⟩ := map_eq_ok.mp hfinished
  obtain ⟨p', l'', hsettled, hl'', houtput⟩ := h.settled (Script.evaluated o p l).1 i
    (h.dropComma (h.evaluated hp hl) hcomma)
  exact ⟨p', l'', hsettled, hl'', by rw [houtput, (evaluated_unmoved o p l).2]⟩

end Lasting

def stageWords : List String := (stageSpellings "").map Prod.fst

theorem mem_stageWords {r : String × String} (h : r ∈ stageSpellings m) : r.1 ∈ stageWords := by
  have hwords : (stageSpellings m).map Prod.fst = stageWords := rfl
  rw [← hwords]
  exact mem_map_of_mem h

/-- A beginning of a definition that no stage touches, but for the word that declares a variable. -/
structure Sturdy (h : Line) : Prop where
  words : ∀ w ∈ stageWords, w.toList ≠ [] ∧ Chars.Apart h w.toList
  defines : "def".toList <+: h
  marks : '#' ∉ h ∧ ')' ∉ h
  last : ∃ a c, h = a ++ [c] ∧ Text.isBlank c = false ∧ c ∉ [',', ';', '\x7b']

theorem prefix_trimRight {a : List Char} {s : List Char} (hc : Text.isBlank c = false) (h : a ++ [c] <+: s) :
    a ++ [c] <+: trimRight s := by
  obtain ⟨b, hb, hblank⟩ := trimRight_append s
  rw [hb] at h
  rcases prefix_or_prefix_of_prefix h (prefix_append (trimRight s) b) with hin | ⟨x, hx⟩
  · exact hin
  · rcases eq_nil_or_concat x with rfl | ⟨y, d, rfl⟩
    · exact ⟨[], by rw [append_nil, ← hx, append_nil]⟩
    · -- what is beyond the blanks is not blank
      rw [← hx, prefix_append_right_inj] at h
      obtain rfl : d = c := by simpa using congrArg getLast? hx
      have hd : d ∈ b := h.subset (by simp)
      rw [hblank d hd] at hc
      cases hc

theorem split_of_lastClosing (h : lastClosing? l = some i) :
    ∃ a b, l = a ++ ')' :: b ∧ a.length = i := by
  unfold lastClosing? at h
  dsimp only at h
  split at h
  · rename_i hlength
    cases h
    have hsplit : l.reverse.takeWhile (· != ')') ++ l.reverse.dropWhile (· != ')') = l.reverse :=
      takeWhile_append_dropWhile
    cases hdrop : l.reverse.dropWhile (· != ')') with
    | nil =>
      rw [hdrop, append_nil] at hsplit
      rw [hsplit, length_reverse] at hlength
      omega
    | cons c r =>
      have hc : c = ')' := by
        have hhead := head?_dropWhile_not (p := (· != ')')) l.reverse
        rw [hdrop] at hhead
        simpa using hhead
      rw [hdrop, hc] at hsplit
      have hl : l = r.reverse ++ ')' :: (l.reverse.takeWhile (· != ')')).reverse := by
        conv_lhs => rw [← reverse_reverse l, ← hsplit]
        simp
      refine ⟨r.reverse, _, hl, ?_⟩
      have hcount := congrArg length hsplit
      rw [length_append, length_cons, length_reverse] at hcount
      rw [length_reverse]
      omega
  · cases h

theorem Sturdy.trimLeft_eq {h : Line} (hs : Sturdy h) (hl : h <+: l) : trimLeft l = l := by
  obtain ⟨t, rfl⟩ := hs.defines.trans hl
  exact dropWhile_cons_of_neg (by decide)

theorem lasting_of_sturdy {starts : List Line} (hs : ∀ h ∈ starts, Sturdy h)
    (hdeclared : ∀ h ∈ starts, ∀ l, h <+: l → ∃ h' ∈ starts, h' <+: replaceFirst "var ".toList [] l) (m : String) :
    Lasting m (fun l => ∃ h ∈ starts, h <+: l) where
  replace := by
    rintro r hr l ⟨h, hmem, hl⟩
    obtain ⟨hne, hapart⟩ := (hs h hmem).words r.1 (mem_stageWords hr)
    exact ⟨h, hmem, prefix_replace hne hapart _ hl⟩
  declared := fun l ⟨h, hmem, hl⟩ => hdeclared h hmem l hl
  trimmed := by
    rintro l ⟨h, hmem, hl⟩
    obtain ⟨a, c, rfl, hc, -⟩ := (hs h hmem).last
    exact ⟨_, hmem, prefix_trimRight hc hl⟩
  joined := fun l ⟨h, hmem, hl⟩ => ⟨h, hmem, hl.trans (prefix_append l _)⟩
  printed := by
    rintro l i hi ⟨h, hmem, hl⟩
    obtain ⟨a, b, rfl, rfl⟩ := split_of_lastClosing hi
    rw [take_left]
    exact ⟨h, hmem, (prefix_of_prefix_append_cons (hs h hmem).marks.2 hl).trans (prefix_append a _)⟩
  shortened := by
    rintro l c hc ⟨h, hmem, hl⟩
    rcases prefix_concat_iff.mp hl with rfl | hin
    · obtain ⟨a, d, hsplit, -, hd⟩ := (hs _ hmem).last
      obtain ⟨-, rfl⟩ : l = a ∧ c = d := by simpa using hsplit
      exact absurd hc hd
    · exact ⟨h, hmem, hin⟩
  quoted := by
    rintro l ⟨h, hmem, hl⟩
    -- a definition has no keys
    have hdef : Line.starts (Line.trim l) "def" = true := by
      rw [Line.starts, isPrefixOf_iff_prefix, Line.trim, trim, (hs h hmem).trimLeft_eq hl]
      exact prefix_trimRight (a := "de".toList) (c := 'f') (by decide) ((hs h hmem).defines.trans hl)
    rw [keysQuoted_eq, seeksKeys, hdef]
    exact ⟨h, hmem, by simpa using hl⟩
  remark := by
    rintro l ⟨h, hmem, t, rfl⟩
    refine ⟨h, hmem, ?_⟩
    rw [beforeRemark, takeWhile_append_of_pos]
    · exact prefix_append h _
    · intro c hc
      simp only [bne_iff_ne, ne_eq]
      rintro rfl
      exact (hs h hmem).marks.1 hc
  chain := by
    rintro l hstart ⟨h, hmem, hl⟩
    obtain ⟨t, rfl⟩ := (hs h hmem).defines.trans hl
    cases hstart

/-- A character that no stage brings. -/
structure Fresh (m : String) (c : Char) : Prop where
  words : ∀ r ∈ stageSpellings m, r.1.toList ≠ [] ∧ (c ∈ r.1.toList ∨ c ∉ r.2.toList)
  marks : c ∉ " \\.getInfo())".toList ∧ c ∉ quoteMarks

theorem mem_of_mem_replaceFirst {old : List Char} (h : x ∈ replaceFirst old [] l) : x ∈ l := by
  induction l with
  | nil =>
    rw [replaceFirst, ite_self] at h
    exact h
  | cons c r ih =>
    rw [replaceFirst] at h
    split at h
    · exact mem_of_mem_drop h
    · rcases mem_cons.mp h with rfl | hr
      · exact mem_cons_self
      · exact mem_cons_of_mem c (ih hr)

theorem mem_of_mem_trimRight (h : x ∈ trimRight l) : x ∈ l := by
  obtain ⟨b, hb, -⟩ := trimRight_append l
  rw [hb]
  exact mem_append_left b h

theorem Fresh.lasting (hc : Fresh m c) : Lasting m (c ∉ ·) where
  replace := fun r hr l hl => not_mem_replace (hc.words r hr).1 hl (hc.words r hr).2
  declared := fun l hl h => hl (mem_of_mem_replaceFirst h)
  trimmed := fun l hl h => hl (mem_of_mem_trimRight h)
  joined := by
    intro l hl h
    rcases mem_append.mp h with h | h
    · exact hl h
    · exact hc.marks.1 (mem_append_left _ h)
  printed := by
    intro l i _ hl h
    rcases mem_append.mp h with h | h
    · exact hl (mem_of_mem_take h)
    · exact hc.marks.1 (mem_append_right " \\".toList h)
  shortened := fun l d _ hl h => hl (mem_append_left _ h)
  quoted := fun l hl h => (mem_keysQuoted h).elim hc.marks.2 hl
  remark := fun l hl h => hl ((takeWhile_sublist _).subset h)
  chain := fun _ _ _ => not_mem_nil

theorem putOut_output (p : Progress) (i : Nat) (l : Line) :
    (∃ t, (putOut p i l).output = p.output ++ t) ∨ ∃ t, (putOut p i l).output = trimRight p.output ++ t := by
  unfold putOut
  split
  · exact Or.inr ⟨_, by simp only [append_assoc]; rfl⟩
  · exact Or.inl ⟨_, by simp only [append_assoc]; rfl⟩

theorem not_mem_putOut (hp : c ∉ p.output) (hl : c ∉ l) (hc : c ∉ " \\\n".toList) (i : Nat) :
    c ∉ (putOut p i l).output := by
  have hnewline : c ∉ ['\n'] := fun h => hc (mem_append_right " \\".toList h)
  unfold putOut
  split
  · simp only [mem_append, not_or]
    exact ⟨⟨⟨fun h => hp (mem_of_mem_trimRight h), hc⟩, fun h => hl ((takeWhile_sublist _).subset h)⟩, hnewline⟩
  · simp only [mem_append, not_or]
    exact ⟨⟨hp, hl⟩, hnewline⟩

section Run

variable {o : Options} {a : List Char}

theorem lineStep_eq_putOut (h : lineStep o p i = .ok (some q)) :
    ∃ (p' : Progress) (l' : Line), q = putOut p' i l' ∧ p'.output = p.output := by
  obtain ⟨r, -, hrun⟩ := lineStep_eq_some.mp h
  obtain ⟨l', -, rfl⟩ := map_eq_ok.mp hrun
  refine ⟨_, _, rfl, ?_⟩
  rw [(countLiterals_unmoved _ _).2, (nameArguments_unmoved _ _).2, (evaluated_unmoved _ _ _).2]

theorem prefix_lineStep (hc : Text.isBlank c = false) (hp : a ++ [c] <+: p.output) (h : lineStep o p i = .ok (some q)) :
    a ++ [c] <+: q.output := by
  obtain ⟨p', l', rfl, houtput⟩ := lineStep_eq_putOut h
  rcases putOut_output p' i l' with ⟨t, ht⟩ | ⟨t, ht⟩
  · rw [ht, houtput]
    exact hp.trans (prefix_append _ t)
  · rw [ht, houtput]
    exact (prefix_trimRight hc hp).trans (prefix_append _ t)

end Run

end RemoteSensing.Script
