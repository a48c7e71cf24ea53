import RemoteSensing.Proofs.Script.Literal

/-!
Texts that come out as they went in.
-/

namespace RemoteSensing.Script

open List RemoteSensing.Chars

variable {s t : Line} {m : String}

/-- The replacements that a text goes through; there are fewer of them if it has no negations or sums. -/
def retelling (m : String) (s : Line) : List (String × String) :=
  spellingTable m ++ (if negatable (respelled m s) then [("!", "not ")] else []) ++
    (if Line.has (negatedIn (respelled m s)) "concat" then sumSpellings else [])

theorem negatedIn_eq (t : Line) : negatedIn t = respellAll (if negatable t then [("!", "not ")] else []) t := by
  rw [negatedIn]
  cases negatable t with
  | false => rw [if_neg (by decide), if_neg (by decide), respellAll_nil]
  | true => rw [if_pos rfl, if_pos rfl, respellAll_cons, respellAll_nil]

theorem retold_eq (m : String) (s : Line) : retold m s = respellAll (retelling m s) s := by
  rw [retelling, respellAll_append, respellAll_append, ← respelled, ← negatedIn_eq, retold, respellConcat_eq]
  generalize negatedIn (respelled m s) = t
  split
  · rfl
  · rw [respellAll_nil]

theorem mem_retelling {r : String × String} (h : r ∈ retelling m s) : r = ("Map.", m ++ ".") ∨ r ∈ fixedSpellings := by
  rw [retelling, mem_append, mem_append] at h
  rcases h with (h | h) | h
  · exact (mem_spellingTable h).imp_right (mem_append_left _)
  · split at h
    · exact .inr (mem_append_right _ (List.mem_cons.mpr (.inl (List.mem_singleton.mp h))))
    · cases h
  · split at h
    · exact .inr (mem_append_right _ (mem_cons_of_mem _ h))
    · cases h

theorem Scale.total_retold_le {g : Char → Int} (h : Scale g) (hm : IsName m) (s : Line) :
    total g (retold m s) ≤ total g s := by
  rw [retold_eq]
  exact total_respellAll_le (fun r hr => h.lightens_each hm (mem_retelling hr)) s

theorem lightens_sums : ∀ r ∈ sumSpellings, Lightens heft r ∧ total heft r.2.toList < total heft r.1.toList := by
  decide +kernel

theorem negatable_of_total_le (h : total heft t ≤ total heft (negatedIn t)) : negatable t = false := by
  rw [Bool.eq_false_iff]
  intro hmark
  rw [negatedIn, if_pos hmark] at h
  have habsent : ¬ ['!'] <:+: t := Chars.absent_of_total_le heft (by decide) (by decide) h
  rw [negatable, Chars.find?_eq_none_iff.mpr fun hmem => habsent ((singleton_infix_iff '!' t).mpr hmem)] at hmark
  cases hmark

def Sumless (t : Line) : Prop := "concat".toList <:+: t → ¬ ".concat(".toList <:+: t ∧ ',' ∉ t ∧ ')' ∉ t

theorem respellConcat_of_sumless (h : Sumless t) : respellConcat t = t := by
  rw [respellConcat_eq]
  split
  · rename_i hoccurs
    rw [Line.has, Chars.contains_iff] at hoccurs
    obtain ⟨hcall, hcomma, hclose⟩ := h hoccurs
    refine respellAll_eq_self (fun r hr => (lightens_sums r hr).1.1) ?_
    simp only [sumSpellings, forall_mem_cons]
    refine ⟨hcall, fun h => hcomma (h.subset mem_cons_self), fun h => hclose (h.subset mem_cons_self), ?_⟩
    exact fun r hr => absurd hr (by simp)
  · rfl

theorem sumless_of_total_le (h : total heft t ≤ total heft (respellConcat t)) : Sumless t := by
  intro hoccurs
  have hhas : Line.has t "concat" = true := by rw [Line.has, Chars.contains_iff]; exact hoccurs
  rw [respellConcat_eq, if_pos hhas] at h
  obtain ⟨-, habsent⟩ := respellAll_filter (q := fun _ => false) (fun r hr => (lightens_sums r hr).1)
    (fun r hr _ => (lightens_sums r hr).2) h
  have hword : ∀ r ∈ sumSpellings, ¬ r.1.toList <:+: t := by
    intro r hr
    obtain ⟨a, b, hsplit⟩ := append_of_mem hr
    have hr := habsent a r b hsplit rfl
    rwa [filter_false, respellAll_nil] at hr
  simp only [sumSpellings, forall_mem_cons] at hword
  refine ⟨hword.1, fun hmem => hword.2.1 ?_, fun hmem => hword.2.2.1 ?_⟩
  · exact (singleton_infix_iff ',' t).mpr hmem
  · exact (singleton_infix_iff ')' t).mpr hmem

/-- **When respelling leaves a text as it is.** -/
theorem retold_eq_self_iff (hm : IsName m) : retold m s = s ↔ Unspelled m s ∧ negatable s = false ∧ Sumless s := by
  constructor
  · intro h
    -- no stage makes the text heavier, so none makes it lighter
    have hwords : total heft (respelled m s) ≤ total heft s := total_respellAll_le (scale_heft.lightens_table hm) s
    have hnegated : total heft (negatedIn (respelled m s)) ≤ total heft (respelled m s) := by
      rw [negatedIn]
      split
      · exact Chars.total_replace_le heft (by decide) (by decide) _
      · exact Int.le_refl _
    have hsums : total heft (respellConcat (negatedIn (respelled m s))) ≤ total heft (negatedIn (respelled m s)) := by
      rw [respellConcat_eq]
      split
      · exact total_respellAll_le (fun r hr => (lightens_sums r hr).1) _
      · exact Int.le_refl _
    rw [retold] at h
    rw [h] at hsums
    have hsumless : Sumless (negatedIn (respelled m s)) := sumless_of_total_le (by rw [h]; omega)
    have hnot : negatable (respelled m s) = false := negatable_of_total_le (by omega)
    have hsame : negatedIn (respelled m s) = respelled m s := by
      rw [negatedIn, hnot]
      exact if_neg (by decide)
    rw [respellConcat_of_sumless hsumless, hsame] at h
    rw [hsame, h] at hsumless
    rw [h] at hnot
    exact ⟨(respelled_eq_self_iff hm).mp h, hnot, hsumless⟩
  · rintro ⟨hwords, hnot, hsums⟩
    rw [retold, (respelled_eq_self_iff hm).mpr hwords, negatedIn, hnot, if_neg (by decide), respellConcat_of_sumless hsums]

theorem not_mem_retold (hm : IsName m) {c : Char} (hc : c ∈ ['\'', '"', '\n']) (hs : c ∉ s) : c ∉ retold m s := by
  have hfixed : ∀ r ∈ fixedSpellings, r.1.toList ≠ [] ∧ ∀ c ∈ ['\'', '"', '\n'], c ∉ r.2.toList := by decide +kernel
  have hmarks : ∀ c ∈ ['\'', '"', '\n'], Text.isWord c = false ∧ c ≠ '.' := by decide
  have hrs : ∀ r ∈ retelling m s, r.1.toList ≠ [] ∧ c ∉ r.2.toList := by
    intro r hr
    rcases mem_retelling hr with rfl | hr
    · have hne : "Map.".toList ≠ [] := by decide
      exact ⟨hne, hm.not_mem (hmarks c hc)⟩
    · exact ⟨(hfixed r hr).1, (hfixed r hr).2 c hc⟩
  rw [retold_eq]
  generalize retelling m s = rs at hrs
  induction rs generalizing s with
  | nil => exact hs
  | cons r rs ih =>
    obtain ⟨hne, hnew⟩ := hrs r mem_cons_self
    exact ih (Chars.not_mem_replace hne hs (Or.inr hnew)) fun x hx => hrs x (mem_cons_of_mem r hx)

def mark (x : Char) : Char → Int := fun c => if c = x then 1 else 0

theorem total_mark (x : Char) (s : Line) : total (mark x) s = s.count x := by
  induction s with
  | nil => rfl
  | cons c r ih =>
    rw [Chars.total_cons, ih, mark]
    by_cases h : c = x
    · rw [if_pos h, h, count_cons_self]
      omega
    · rw [if_neg h, count_cons_of_ne h]
      omega

theorem total_neg_mark (x : Char) (s : Line) : total (fun c => -mark x c) s = -(s.count x : Int) := by
  rw [← total_mark]
  induction s with
  | nil => rfl
  | cons c r ih =>
    rw [Chars.total_cons, Chars.total_cons, ih]
    omega

theorem count_slash_retold_le (hm : IsName m) (s : Line) : (retold m s).count '/' ≤ s.count '/' := by
  have hfixed : ∀ r ∈ fixedSpellings, r.1.toList ≠ [] ∧ r.2.toList.count '/' ≤ r.1.toList.count '/' := by decide +kernel
  have hscale : Scale (mark '/') := by
    refine ⟨fun r hr => ⟨(hfixed r hr).1, ?_⟩, fun c hc => ?_, by decide⟩
    · rw [total_mark, total_mark]
      exact Int.ofNat_le.mpr (hfixed r hr).2
    · have hne : c ≠ '/' := by
        rintro rfl
        exact absurd hc (by decide)
      rw [mark, if_neg hne]
  have hle := hscale.total_retold_le hm s
  rw [total_mark, total_mark] at hle
  exact Int.ofNat_le.mp hle

theorem count_lt_retold (hm : IsName m) (hs : "/*".toList <:+: s) : s.count '#' < (retold m s).count '#' := by
  have hfixed : ∀ r ∈ fixedSpellings, r.1.toList ≠ [] ∧ r.1.toList.count '#' ≤ r.2.toList.count '#' := by decide +kernel
  have hscale : Scale (fun c => -mark '#' c) := by
    refine ⟨fun r hr => ⟨(hfixed r hr).1, ?_⟩, fun c hc => ?_, by decide⟩
    · rw [total_neg_mark, total_neg_mark]
      have hle := (hfixed r hr).2
      omega
    · rw [mark]
      split <;> omega
  have hlight : ∀ r ∈ retelling m s, Lightens (fun c => -mark '#' c) r := fun r hr => hscale.lightens_each hm (mem_retelling hr)
  obtain ⟨rest, hrest⟩ : ∃ rest, retelling m s = [("//", "#")] ++ ("/*", "#") :: rest := ⟨_, rfl⟩
  by_contra hle
  have hkept : total (fun c => -mark '#' c) s ≤ total (fun c => -mark '#' c) (respellAll (retelling m s) s) := by
    rw [← retold_eq, total_neg_mark, total_neg_mark]
    omega
  -- the word in front of it brings a mark as well, so it does not occur either
  obtain ⟨-, habsent⟩ := respellAll_filter
    (q := fun r => !decide (total (fun c => -mark '#' c) r.2.toList < total (fun c => -mark '#' c) r.1.toList))
    hlight (by simp) hkept
  exact habsent _ _ _ hrest (by decide) hs

theorem cut_induction {c : Char} {motive : Line → Prop} (whole : ∀ s, c ∉ s → motive s)
    (cut : ∀ a b, c ∉ a → motive b → motive (a ++ c :: b)) (s : Line) : motive s := by
  induction hn : s.length using Nat.strong_induction_on generalizing s with
  | _ n ih =>
    by_cases hmem : c ∈ s
    · obtain ⟨a, b, rfl, ha⟩ := eq_append_cons_of_mem hmem
      refine cut a b ha (ih b.length ?_ b rfl)
      rw [← hn, length_append, length_cons]
      omega
    · exact whole s hmem

def Optionless (s : Line) : Prop := ∀ a b c, s = a ++ ',' :: (b ++ ')' :: ';' :: c) → ')' ∉ b → b = []

def opensOptions (c : Char) (r : Line) : Bool :=
  c = ',' && !(r.takeWhile (· != ')')).isEmpty && Line.starts (r.drop (r.takeWhile (· != ')')).length) ");"

theorem dropOptions_cons (c : Char) (r : Line) : dropOptions 0 (c :: r) =
    if opensOptions c r then dropOptions (r.takeWhile (· != ')')).length r else c :: dropOptions 0 r := rfl

theorem opensOptions_iff {c : Char} {r : Line} :
    opensOptions c r = true ↔ c = ',' ∧ ∃ b t, r = b ++ ')' :: ';' :: t ∧ ')' ∉ b ∧ b ≠ [] := by
  rw [opensOptions, Bool.and_eq_true, Bool.and_eq_true, decide_eq_true_iff, and_assoc]
  refine and_congr_right fun _ => ⟨?_, ?_⟩
  · rintro ⟨hne, hstarts⟩
    by_cases hclose : ')' ∈ r
    · obtain ⟨b, x, rfl, hb⟩ := eq_append_cons_of_mem hclose
      rw [takeWhile_before hb] at hne hstarts
      rw [drop_left] at hstarts
      obtain ⟨t, ht⟩ := List.isPrefixOf_iff_prefix.mp hstarts
      exact ⟨b, t, by rw [← ht]; rfl, hb, by simpa using hne⟩
    · rw [takeWhile_of_not_mem hclose, drop_length] at hstarts
      cases hstarts
  · rintro ⟨b, t, rfl, hb, hne⟩
    rw [takeWhile_before hb, drop_left]
    exact ⟨by simpa using hne, rfl⟩

theorem dropOptions_skip (a b : Line) : dropOptions a.length (a ++ ')' :: b) = ')' :: dropOptions 0 b := by
  induction a with
  | nil => rfl
  | cons c a ih => exact ih

/-- A text and what is left of it without options, each of which goes from a comma to a closing parenthesis. -/
inductive Dropped : Line → Line → Prop
  | nil : Dropped [] []
  | keep {c : Char} {r t : Line} (hopens : opensOptions c r ≠ true) (h : Dropped r t) : Dropped (c :: r) (c :: t)
  | drop {b r t : Line} (hb : ')' ∉ b) (hne : b ≠ []) (h : Dropped (';' :: r) t) :
    Dropped (',' :: (b ++ ')' :: ';' :: r)) (')' :: t)

theorem dropped (s : Line) : Dropped s (dropOptions 0 s) := by
  induction hn : s.length using Nat.strong_induction_on generalizing s with
  | _ n ih =>
    cases s with
    | nil => exact .nil
    | cons c r =>
      rw [length_cons] at hn
      rw [dropOptions_cons]
      split
      · rename_i hopens
        obtain ⟨rfl, b, t, rfl, hb, hne⟩ := opensOptions_iff.mp hopens
        rw [takeWhile_before hb, dropOptions_skip]
        refine .drop hb hne (ih _ ?_ _ rfl)
        rw [← hn, length_append, length_cons, length_cons, length_cons]
        omega
      · rename_i hopens
        exact .keep hopens (ih r.length (by omega) r rfl)

namespace Dropped

theorem sublist (h : Dropped s t) : t.Sublist s := by
  induction h with
  | nil => exact .slnil
  | keep hopens h ih => exact ih.cons_cons _
  | drop hb hne h ih => exact ((ih.cons_cons ')').trans (sublist_append_right _ _)).cons ','

theorem eq_self_iff (h : Dropped s t) : t = s ↔ Optionless s := by
  induction h with
  | nil => exact ⟨fun _ a b c h => absurd h (by simp), fun _ => rfl⟩
  | @keep c r t hopens h ih =>
    rw [cons.injEq, and_iff_right rfl, ih]
    constructor
    · intro h a b u hsplit hb
      cases a with
      | nil =>
        by_contra hne
        cases hsplit
        exact hopens (opensOptions_iff.mpr ⟨rfl, b, u, rfl, hb, hne⟩)
      | cons x a =>
        cases hsplit
        exact h a b u rfl hb
    · intro h a b u hsplit hb
      exact h (c :: a) b u (by rw [hsplit]; rfl) hb
  | drop hb hne h ih => exact iff_of_false (by simp) fun h => hne (h [] _ _ rfl hb)

end Dropped

/-- The commas in the part of a text behind `k` closing parentheses, up to the next one. -/
def commasAt : Nat → Line → Nat
  | _, [] => 0
  | 0, c :: r => if c = ')' then 0 else (if c = ',' then 1 else 0) + commasAt 0 r
  | k + 1, c :: r => commasAt (if c = ')' then k else k + 1) r

theorem commasAt_append (k : Nat) (a b : Line) :
    commasAt k (a ++ b) = commasAt k a + if k < a.count ')' then 0 else commasAt (k - a.count ')') b := by
  induction a generalizing k with
  | nil => simp [commasAt]
  | cons c a ih =>
    by_cases hc : c = ')'
    · subst hc
      cases k <;> simp [commasAt, ih]
    · cases k <;> simp [commasAt, ih, hc, Nat.add_assoc]

theorem commasAt_of_lt {k : Nat} {a : Line} (h : a.count ')' < k) : commasAt k a = 0 := by
  induction a generalizing k with
  | nil => rfl
  | cons c a ih =>
    obtain ⟨k, rfl⟩ := Nat.exists_eq_succ_of_ne_zero (Nat.ne_zero_of_lt h)
    rw [commasAt]
    split
    · rename_i hc
      rw [hc, count_cons_self] at h
      exact ih (by omega)
    · rename_i hc
      rw [count_cons_of_ne hc] at h
      exact ih h

/-- Options go from the first comma of a part on, so that no comma is left there. -/
theorem Dropped.commas (h : Dropped s t) : t.count ')' = s.count ')' ∧ (t = s ∨
    ∃ k, commasAt k t = 0 ∧ 0 < commasAt k s ∧ (k = 0 → ∃ b r, s = b ++ ')' :: ';' :: r ∧ ')' ∉ b)) := by
  induction h with
  | nil => exact ⟨rfl, Or.inl rfl⟩
  | @keep c r t hopens h ih =>
    refine ⟨by rw [count_cons, count_cons, ih.1], ?_⟩
    rcases ih.2 with rfl | ⟨k, hnone, hsome, hfirst⟩
    · exact Or.inl rfl
    · right
      by_cases hclose : c = ')'
      · exact ⟨k + 1, by simpa [commasAt, hclose] using hnone, by simpa [commasAt, hclose] using hsome, by simp⟩
      · cases k with
        | succ k => exact ⟨k + 1, by simpa [commasAt, hclose] using hnone, by simpa [commasAt, hclose] using hsome, by simp⟩
        | zero =>
          obtain ⟨b, u, rfl, hb⟩ := hfirst rfl
          have hcomma : c ≠ ',' := by
            rintro rfl
            refine hopens (opensOptions_iff.mpr ⟨rfl, b, u, rfl, hb, ?_⟩)
            rintro rfl
            exact absurd hsome (by simp [commasAt])
          exact ⟨0, by simpa [commasAt, hclose, hcomma] using hnone, by simpa [commasAt, hclose, hcomma] using hsome,
            fun _ => ⟨c :: b, u, rfl, not_mem_cons_of_ne_of_not_mem (Ne.symm hclose) hb⟩⟩
  | @drop b r t hb hne h ih =>
    refine ⟨?_, Or.inr ⟨0, by simp [commasAt], by simp [commasAt], fun _ => ⟨',' :: b, r, rfl, by simp [hb]⟩⟩⟩
    simp [ih.1, List.count_eq_zero.mpr hb]

/-- A replacement that leaves closing parentheses where they are, and brings no commas. -/
structure Parted (r : String × String) : Prop where
  word : r.1.toList ≠ []
  close : r.2.toList.count ')' = r.1.toList.count ')'
  comma : ∀ k ≤ r.1.toList.count ')', commasAt k r.2.toList ≤ commasAt k r.1.toList

theorem Parted.replace {r : String × String} (h : Parted r) (s : Line) :
    (Line.replace s r.1 r.2).count ')' = s.count ')' ∧ ∀ k, commasAt k (Line.replace s r.1 r.2) ≤ commasAt k s := by
  unfold Line.replace
  induction s using Chars.occurrence_induction h.word with
  | nil => rw [Chars.replace_nil h.word]; exact ⟨rfl, fun k => Nat.le_refl _⟩
  | found b ih =>
    rw [Chars.replace_found h.word]
    refine ⟨by rw [count_append, count_append, h.close, ih.1], fun k => ?_⟩
    rw [commasAt_append, commasAt_append, h.close]
    have hrest := ih.2 (k - r.1.toList.count ')')
    by_cases hk : k ≤ r.1.toList.count ')'
    · have hnew := h.comma k hk
      split <;> omega
    · rw [commasAt_of_lt (a := r.2.toList) (by rw [h.close]; omega)]
      split <;> omega
  | pass c b hpre ih =>
    rw [Chars.replace_pass h.word _ hpre, count_cons, count_cons, ih.1]
    refine ⟨rfl, fun k => ?_⟩
    rw [← singleton_append, commasAt_append, ← singleton_append (l := b), commasAt_append]
    have hrest := ih.2 (k - [c].count ')')
    split <;> omega

theorem parted_respellAll {rs : List (String × String)} (hrs : ∀ r ∈ rs, Parted r) (s : Line) :
    (respellAll rs s).count ')' = s.count ')' ∧ ∀ k, commasAt k (respellAll rs s) ≤ commasAt k s := by
  induction rs generalizing s with
  | nil => exact ⟨rfl, fun k => Nat.le_refl _⟩
  | cons r rs ih =>
    obtain ⟨hclose, hcomma⟩ := (hrs r mem_cons_self).replace s
    obtain ⟨hclose', hcomma'⟩ := ih (fun x hx => hrs x (mem_cons_of_mem r hx)) (Line.replace s r.1 r.2)
    exact ⟨hclose'.trans hclose, fun k => (hcomma' k).trans (hcomma k)⟩

theorem parted_retelling {m : String} (hm : IsName m) {t : Line} (hclose : ')' ∈ retold m t) :
    ∀ r ∈ retelling m t, Parted r := by
  have hfixed : ∀ r ∈ ("//", "#") :: respellings ++ laterRespellings ++ [("!", "not ")],
      r.1.toList ≠ [] ∧ r.2.toList.count ')' = r.1.toList.count ')' ∧
        ∀ k ≤ r.1.toList.count ')', commasAt k r.2.toList ≤ commasAt k r.1.toList := by decide +kernel
  have hparted : ∀ r ∈ ("//", "#") :: respellings ++ laterRespellings ++ [("!", "not ")], Parted r :=
    fun r hr => ⟨(hfixed r hr).1, (hfixed r hr).2.1, (hfixed r hr).2.2⟩
  have hmap : Parted ("Map.", m ++ ".") := by
    have hclose : ')' ∉ (m ++ ".").toList := hm.not_mem (by decide)
    have hcomma : ',' ∉ (m ++ ".").toList := hm.not_mem (by decide)
    have hcount : (m ++ ".").toList.count ')' = "Map.".toList.count ')' := List.count_eq_zero.mpr hclose
    refine ⟨(by decide : "Map.".toList ≠ []), hcount, fun k _ => ?_⟩
    have hzero : ∀ (s : Line) k, ',' ∉ s → commasAt k s = 0 := by
      intro s
      induction s with
      | nil => exact fun _ _ => rfl
      | cons c s ih =>
        intro k hs
        rw [mem_cons, not_or] at hs
        cases k <;> simp [commasAt, Ne.symm hs.1, ih _ hs.2]
    exact (hzero _ k hcomma).trans_le (Nat.zero_le _)
  -- sums have no closing parentheses left
  have hsums : ¬ Line.has (negatedIn (respelled m t)) "concat" = true := by
    intro hconcat
    rw [retold, respellConcat, if_pos hconcat] at hclose
    exact Chars.not_mem_replace_singleton not_mem_nil _ hclose
  intro r hr
  rw [retelling, if_neg hsums, append_nil, mem_append] at hr
  rcases hr with hr | hr
  · rcases mem_spellingTable hr with rfl | hr
    · exact hmap
    · exact hparted r (mem_append_left _ hr)
  · split at hr
    · exact hparted r (mem_append_right _ hr)
    · cases hr

/-- **What is dropped is not brought back**, even if a part of what is left is doubled: the part that is doubled stands between
two closing parentheses, and if something was dropped there then no comma is left. -/
theorem dropOptions_eq_self_of_doubled (hm : IsName m) {x d y : Line} (hdrop : dropOptions 0 s = x ++ d ++ y)
    (h : retold m (x ++ d ++ d ++ y) = s) : dropOptions 0 s = s := by
  by_cases hclose : ')' ∈ s
  · obtain ⟨hcount, hall⟩ := parted_respellAll (parted_retelling hm (by rw [h]; exact hclose)) (x ++ d ++ d ++ y)
    obtain ⟨hkept, hcase⟩ := (dropped s).commas
    rw [← retold_eq, h] at hcount hall
    have hd : d.count ')' = 0 := by
      rw [hdrop] at hkept
      simp only [count_append] at hkept hcount
      omega
    refine hcase.resolve_right ?_
    rintro ⟨k, hnone, hsome, -⟩
    have hle := hall k
    rw [hdrop] at hnone
    simp only [append_assoc, commasAt_append, hd, Nat.sub_zero, Nat.not_lt_zero, if_false] at hle hnone
    split at hle <;> split at hnone <;> omega
  · rw [(dropped s).eq_self_iff]
    rintro a b c rfl
    exact absurd (by simp) hclose

theorem core_cases (s : Line) : ∃ t, t = (if Line.has s "Map.setOptions" then dropOptions 0 s else s) ∧
    core s = if Line.has t "/* color" && Line.has t "*/" then
      t.take ((Chars.find? "/*".toList t).getD 0) ++ t.drop ((Chars.find? "*/".toList t).getD 0 + 2) else t :=
  ⟨_, rfl, rfl⟩

/-- **What reading takes off a text is not brought back by respelling.** -/
theorem core_of_retold (hm : IsName m) (h : retold m (core s) = s) :
    core s = s ∧ ("Map.setOptions".toList <:+: s → Optionless s) := by
  have hslash := count_slash_retold_le hm (core s)
  rw [h] at hslash
  obtain ⟨t, hoptions, hcore⟩ := core_cases s
  have ht : t = s ∨ t = dropOptions 0 s := by
    rw [hoptions]
    split
    · exact Or.inr rfl
    · exact Or.inl rfl
  have hsame : ∀ {x d y}, t = x ++ d ++ y → retold m (x ++ d ++ d ++ y) = s → t = s := by
    intro x d y hsplit hdoubled
    exact ht.elim id fun ht => ht.trans (dropOptions_eq_self_of_doubled hm (ht.symm.trans hsplit) hdoubled)
  split at hcore
  · rename_i hremark
    exfalso
    obtain ⟨k, n, hk, hn⟩ := remark_found hremark
    rw [hk, hn, Option.getD_some, Option.getD_some] at hcore
    obtain ⟨x, y, hx, rfl⟩ := Chars.find?_eq_some hn
    have hdrop : t.drop (x.length + 2) = y := by
      rw [hx, append_assoc, drop_length_add_append]
      rfl
    rw [hdrop] at hcore
    by_cases hover : x.length + 2 ≤ k
    · obtain ⟨x', y', hx', rfl⟩ := Chars.find?_eq_some hk
      obtain ⟨d, rfl⟩ : x ++ "*/".toList <+: x' := by
        have hfront : x ++ "*/".toList <+: t := ⟨y, hx.symm⟩
        refine prefix_of_prefix_length_le hfront ⟨"/*".toList ++ y', by rw [hx']; simp⟩ ?_
        rw [length_append]
        exact hover
      rw [append_assoc _ "/*".toList] at hx'
      have hy : y = d ++ ("/*".toList ++ y') := by
        rw [hx, append_assoc _ d, append_cancel_left_eq] at hx'
        exact hx'
      have htake : t.take (x ++ "*/".toList ++ d).length = x ++ "*/".toList ++ d := by
        rw [hx']
        exact take_left
      rw [htake, hy, ← append_assoc] at hcore
      rw [hcore] at h
      have hremarks := count_lt_retold hm (s := x ++ "*/".toList ++ d ++ d ++ ("/*".toList ++ y')) ⟨x ++ "*/".toList ++ d ++ d, y', by rw [append_assoc]⟩
      rw [h, ← hsame hx' h, hx'] at hremarks
      simp only [count_append] at hremarks
      omega
    · -- the remark is taken off, and a slash with it
      have hfront : (t.take k).count '/' ≤ (x ++ ['*']).count '/' := by
        refine Sublist.count_le '/' (List.IsPrefix.sublist ?_)
        refine prefix_of_prefix_length_le ( take_prefix k t) ⟨'/' :: y, by rw [hx]; simp⟩ ?_
        rw [length_take, length_append, length_singleton]
        omega
      have hall : t.count '/' ≤ s.count '/' := by
        rcases ht with rfl | rfl
        · exact Nat.le_refl _
        · exact (dropped s).sublist.count_le '/'
      have hone : "*/".toList.count '/' = 1 ∧ ['*'].count '/' = 0 := by decide
      rw [hcore, count_append] at hslash
      rw [hx, count_append, count_append] at hall
      rw [count_append] at hfront
      omega
  · have hwhole : t = s := by
      refine hsame (x := t) (d := []) (y := []) (by simp) ?_
      rw [append_nil, append_nil, append_nil, ← hcore, h]
    rw [hcore]
    refine ⟨hwhole, fun hset => ?_⟩
    rw [← Chars.contains_iff] at hset
    rw [Line.has, if_pos hset, hwhole] at hoptions
    exact (dropped s).eq_self_iff.mp hoptions.symm

theorem core_eq_self (hwords : Unspelled m s) (hoptions : "Map.setOptions".toList <:+: s → Optionless s) : core s = s := by
  have hdrop : (if Line.has s "Map.setOptions" then dropOptions 0 s else s) = s := by
    split
    · rename_i hset
      rw [Line.has, Chars.contains_iff] at hset
      exact (dropped s).eq_self_iff.mpr (hoptions hset)
    · rfl
  have hremark : Line.has s "*/" = false := by
    rw [Bool.eq_false_iff, Line.has, ne_eq, Chars.contains_iff]
    exact hwords.words ("*/", "#") (by decide) (by decide)
  rw [core, hdrop]
  rw [hremark, Bool.and_false, if_neg (by decide)]

/-- **When a text is read and respelled as it is.** -/
theorem retold_core_iff (hm : IsName m) : retold m (core s) = s ↔
    Unspelled m s ∧ negatable s = false ∧ Sumless s ∧ ("Map.setOptions".toList <:+: s → Optionless s) := by
  constructor
  · intro h
    obtain ⟨hcore, hoptions⟩ := core_of_retold hm h
    rw [hcore, retold_eq_self_iff hm] at h
    exact ⟨h.1, h.2.1, h.2.2, hoptions⟩
  · rintro ⟨hwords, hnot, hsums, hoptions⟩
    rw [core_eq_self hwords hoptions]
    exact (retold_eq_self_iff hm).mpr ⟨hwords, hnot, hsums⟩

end RemoteSensing.Script
