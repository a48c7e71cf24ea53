import RemoteSensing.Proofs.Text.Chars

/-!
Parts and lines.
-/

namespace RemoteSensing.Chars

open List

variable {ls ps : List (List Char)} {a b q s : List Char}

section Parts

variable {d : List Char}

theorem splitFrom_skip (k : Nat) (part s : List Char) : splitFrom d k part s = splitFrom d 0 part (s.drop k) := by
  induction s generalizing k with
  | nil =>
    cases k <;> rfl
  | cons c r ih =>
    cases k with
    | zero => rfl
    | succ k => exact ih k

theorem splitFrom_part (part s : List Char) :
    splitFrom d 0 part s = (splitFrom d 0 [] s).modifyHead (part.reverse ++ ·) := by
  induction s generalizing part with
  | nil => simp [splitFrom]
  | cons c r ih =>
    simp only [splitFrom]
    by_cases hpre : d.isPrefixOf (c :: r) = true
    · rw [if_pos hpre, if_pos hpre]
      simp
    · rw [if_neg hpre, if_neg hpre, ih (c :: part), ih [c], modifyHead_modifyHead]
      congr 1
      funext x
      simp

@[simp] theorem split_nil : split d [] = [[]] := rfl

theorem split_found (hd : d ≠ []) (b : List Char) : split d (d ++ b) = [] :: split d b := by
  cases d with
  | nil => exact absurd rfl hd
  | cons x ys =>
    have hpre : (x :: ys).isPrefixOf (x :: (ys ++ b)) = true :=
      isPrefixOf_iff_prefix.mpr (prefix_append (x :: ys) b)
    rw [cons_append, split, splitFrom, if_pos hpre, splitFrom_skip]
    simp [split]

theorem split_pass {c : Char} {r : List Char} (h : ¬ d <+: c :: r) :
    split d (c :: r) = (split d r).modifyHead (c :: ·) := by
  rw [split, splitFrom, if_neg (by simpa using h), splitFrom_part]
  rfl

theorem split_ne_nil (hd : d ≠ []) (s : List Char) : split d s ≠ [] := by
  induction s using occurrence_induction hd with
  | nil => simp
  | found b ih => simp [split_found hd]
  | pass c r hpre ih => simpa [split_pass hpre] using ih

theorem join_cons (hps : ps ≠ []) (p : List Char) : join d (p :: ps) = p ++ d ++ join d ps := by
  cases ps with
  | nil => exact absurd rfl hps
  | cons q qs => rfl

theorem join_modifyHead (a : List Char) (p : List Char) (ps : List (List Char)) :
    join d ((a ++ p) :: ps) = a ++ join d (p :: ps) := by
  cases ps <;> simp [join]

theorem join_append (xs ys : List (List Char)) (a b : List Char) :
    join d (xs ++ [a]) ++ join d (b :: ys) = join d (xs ++ (a ++ b) :: ys) := by
  induction xs with
  | nil => rw [nil_append, nil_append, join_modifyHead, join]
  | cons x xs ih =>
    have hleft : xs ++ [a] ≠ [] := by simp
    have hboth : xs ++ (a ++ b) :: ys ≠ [] := by simp
    rw [cons_append, cons_append, join_cons hleft, join_cons hboth, ← ih, append_assoc]

theorem join_split (hd : d ≠ []) (s : List Char) : join d (split d s) = s := by
  induction s using occurrence_induction hd with
  | nil => rfl
  | found b ih => rw [split_found hd, join_cons (split_ne_nil hd b), ih, nil_append]
  | pass c r hpre ih =>
    obtain ⟨p, ps, hp⟩ := exists_cons_of_ne_nil (split_ne_nil hd r)
    rw [hp] at ih
    rw [split_pass hpre, hp]
    show join d (([c] ++ p) :: ps) = c :: r
    rw [join_modifyHead, ih, singleton_append]

theorem absent_of_mem_split (hd : d ≠ []) (hq : q ∈ split d s) : ¬ d <:+: q := by
  induction s using occurrence_induction hd generalizing q with
  | nil =>
    rw [split_nil, mem_singleton] at hq
    rw [hq, infix_nil]
    exact hd
  | found b ih =>
    rw [split_found hd, mem_cons] at hq
    rcases hq with rfl | hq
    · rw [infix_nil]
      exact hd
    · exact ih hq
  | pass c r hpre ih =>
    obtain ⟨p, ps, hp⟩ := exists_cons_of_ne_nil (split_ne_nil hd r)
    rw [split_pass hpre, hp, modifyHead_cons, mem_cons] at hq
    rw [hp] at ih
    rcases hq with rfl | hq
    · -- the part begins like the text, so a separator at its start would be one at the start of the text
      have hstart : p <+: r := by
        rw [← join_split hd r, hp]
        cases ps with
        | nil => exact prefix_refl p
        | cons p' ps => exact ⟨d ++ join d (p' :: ps), (append_assoc ..).symm⟩
      rw [infix_cons_iff, not_or]
      exact ⟨fun h => hpre (h.trans ((prefix_cons_inj c).mpr hstart)), ih mem_cons_self⟩
    · exact ih (mem_cons_of_mem p hq)

theorem split_of_absent (s : List Char) (h : ¬ d <:+: s) : split d s = [s] := by
  induction s with
  | nil => rfl
  | cons c r ih =>
    rw [infix_cons_iff, not_or] at h
    rw [split_pass h.1, ih h.2]
    rfl

theorem infix_join (hq : q ∈ ps) : q <:+: join d ps := by
  induction ps with
  | nil => cases hq
  | cons p ps ih =>
    by_cases hlast : ps = []
    · rw [hlast, mem_singleton] at hq
      rw [hlast, join, hq]
    · rw [join_cons hlast]
      rcases mem_cons.mp hq with rfl | hq
      · exact (prefix_append q d).isInfix.trans (prefix_append _ _).isInfix
      · exact (ih hq).trans (suffix_append _ _).isInfix

variable {x : Char}

theorem mem_of_mem_split (hd : d ≠ []) (hq : q ∈ split d s) (hx : x ∈ q) : x ∈ s := by
  rw [← join_split hd s]
  exact (infix_join hq).subset hx

theorem split_char (c : Char) (s : List Char) : split [c] s = s.splitOn c := by
  induction s with
  | nil => rfl
  | cons x r ih =>
    rw [splitOn_cons_eq_if_modifyHead, ← ih]
    by_cases hx : x = c
    · rw [if_pos (by simp [hx]), hx]
      exact split_found (by simp) r
    · rw [if_neg (by simpa using hx), split_pass (by simpa using Ne.symm hx)]

variable {c : Char}

theorem split_append (ha : c ∉ a) (b : List Char) : split [c] (a ++ c :: b) = a :: split [c] b := by
  rw [split_char, split_char, splitOn_append_cons_self_of_not_mem ha]

theorem split_of_not_mem (ha : c ∉ a) : split [c] a = [a] := by
  rw [split_char, splitOn_eq_singleton ha]

theorem length_split (c : Char) (s : List Char) : (split [c] s).length = s.count c + 1 := by
  rw [split_char]
  induction s with
  | nil => rfl
  | cons x r ih =>
    rw [splitOn_cons_eq_if_modifyHead, count_cons]
    split
    · simp [ih]
    · simp [ih]

end Parts

section Border

variable {x : Char} {ys : List Char} (hx : x ∉ ys)
include hx

theorem split_first (hq : ¬ x :: ys <:+: q) (b : List Char) :
    split (x :: ys) (q ++ (x :: ys ++ b)) = q :: split (x :: ys) b := by
  induction q with
  | nil => rw [nil_append, split_found (by simp)]
  | cons c q ih =>
    rw [infix_cons_iff, not_or] at hq
    have hpre : ¬ x :: ys <+: c :: (q ++ (x :: ys ++ b)) := by
      intro h
      obtain ⟨rfl, hys⟩ := cons_prefix_cons.mp h
      exact hq.1 ((prefix_cons_inj x).mpr (prefix_of_prefix_append_cons hx hys))
    rw [cons_append, split_pass hpre, ih hq.2]
    rfl

theorem split_join (hne : ps ≠ []) (hps : ∀ q ∈ ps, ¬ x :: ys <:+: q) : split (x :: ys) (join (x :: ys) ps) = ps := by
  induction ps with
  | nil => exact absurd rfl hne
  | cons p ps ih =>
    by_cases hlast : ps = []
    · rw [hlast, join, split_of_absent p (hps p mem_cons_self)]
    · rw [join_cons hlast, append_assoc, split_first hx (hps p mem_cons_self),
        ih hlast fun q hq => hps q (mem_cons_of_mem p hq)]

/-- **A character that is not in the separator cuts the work in two.** -/
theorem split_cut {c : Char} (hc : c ∉ x :: ys) {t : List Char} {as bs : List (List Char)}
    (hs : split (x :: ys) s = as ++ [a]) (ht : split (x :: ys) t = b :: bs) :
    split (x :: ys) (s ++ c :: t) = as ++ (a ++ c :: b) :: bs := by
  have hd : x :: ys ≠ [] := by simp
  have hsparts : ∀ q ∈ as ++ [a], ¬ x :: ys <:+: q := fun q hq => absent_of_mem_split hd (hs ▸ hq)
  have htparts : ∀ q ∈ b :: bs, ¬ x :: ys <:+: q := fun q hq => absent_of_mem_split hd (ht ▸ hq)
  have hwhole : s ++ c :: t = join (x :: ys) (as ++ (a ++ c :: b) :: bs) := by
    have hbehind : join (x :: ys) ((c :: b) :: bs) = c :: t := by
      refine (join_modifyHead [c] b bs).trans ?_
      rw [← ht, join_split hd, singleton_append]
    rw [← join_append, ← hs, join_split hd, hbehind]
  rw [hwhole]
  refine split_join hx (by simp) fun q hq => ?_
  rcases mem_append.mp hq with hq | hq
  · exact hsparts q (mem_append_left _ hq)
  rcases mem_cons.mp hq with rfl | hq
  · rw [infix_append_cons_iff hc, not_or]
    exact ⟨hsparts a (by simp), htparts b mem_cons_self⟩
  · exact htparts q (mem_cons_of_mem b hq)

end Border

theorem trim_append_blank (hb : ∀ c ∈ b, Text.isBlank c = true) (s : List Char) : trim (s ++ b) = trim s := by
  have hnone : b.dropWhile Text.isBlank = [] := dropWhile_eq_nil_iff.mpr hb
  rw [trim, trimLeft, dropWhile_append, hnone, trim, trimLeft]
  by_cases hs : (s.dropWhile Text.isBlank).isEmpty = true
  · rw [if_pos hs, isEmpty_iff.mp hs]
  · rw [if_neg hs, trimRight_append_blank hb]

theorem trim_subset (s : List Char) : trim s ⊆ s := by
  intro c hc
  obtain ⟨b, hb, -⟩ := trimRight_append (trimLeft s)
  have hleft : c ∈ trimLeft s := by
    rw [hb]
    exact mem_append_left b hc
  exact (trimLeft_suffix s).subset hleft

theorem plainNewlines_cons {c : Char} (hc : c ≠ '\r') (s : List Char) : plainNewlines (c :: s) = c :: plainNewlines s := by
  rw [plainNewlines]
  · exact fun r' heq => absurd heq hc
  · exact hc

theorem plainNewlines_append {a : List Char} (ha : '\r' ∉ a) (b : List Char) :
    plainNewlines (a ++ b) = a ++ plainNewlines b := by
  induction a with
  | nil => rfl
  | cons c r ih =>
    rw [mem_cons, not_or] at ha
    rw [cons_append, plainNewlines_cons (Ne.symm ha.1), ih ha.2, cons_append]

theorem plainNewlines_of_not_mem (h : '\r' ∉ s) : plainNewlines s = s := by
  rw [← append_nil s, plainNewlines_append h]
  rfl

theorem linesFrom_append (ha : '\n' ∉ a) (part r : List Char) :
    linesFrom part (a ++ '\n' :: r) = (part.reverse ++ a ++ ['\n']) :: lines r := by
  induction a generalizing part with
  | nil =>
    rw [nil_append, linesFrom, if_pos rfl, reverse_cons, append_nil]
    rfl
  | cons c a ih =>
    rw [mem_cons, not_or] at ha
    rw [cons_append, linesFrom, if_neg (Ne.symm ha.1), ih ha.2, reverse_cons, append_assoc part.reverse]
    rfl

theorem lines_flatten_append (h : ∀ l ∈ ls, '\n' ∉ l) (s : List Char) :
    lines ((ls.map (· ++ ['\n'])).flatten ++ s) = ls.map (· ++ ['\n']) ++ lines s := by
  induction ls with
  | nil => rfl
  | cons l r ih =>
    rw [map_cons, flatten_cons, append_assoc, append_assoc, singleton_append]
    refine (linesFrom_append (h l mem_cons_self) [] _).trans ?_
    rw [ih fun k hk => h k (mem_cons_of_mem l hk)]
    rfl

theorem lines_flatten (h : ∀ l ∈ ls, '\n' ∉ l) : lines (ls.map (· ++ ['\n'])).flatten = ls.map (· ++ ['\n']) := by
  simpa [lines, linesFrom] using lines_flatten_append h []

theorem flatten_linesFrom (part s : List Char) : (linesFrom part s).flatten = part.reverse ++ s := by
  induction s generalizing part with
  | nil =>
    rw [linesFrom]
    split
    · rename_i hpart
      rw [isEmpty_iff.mp hpart]
      rfl
    · simp
  | cons c r ih =>
    rw [linesFrom]
    split
    · rw [flatten_cons, ih]
      simp
    · rw [ih]
      simp

theorem flatten_lines (s : List Char) : (lines s).flatten = s := flatten_linesFrom [] s

theorem count_le_length_linesFrom (part s : List Char) : s.count '\n' ≤ (linesFrom part s).length := by
  induction s generalizing part with
  | nil => exact Nat.zero_le _
  | cons c r ih =>
    rw [linesFrom]
    by_cases hc : c = '\n'
    · rw [if_pos hc, hc, count_cons_self, length_cons]
      exact Nat.succ_le_succ (ih [])
    · rw [if_neg hc, count_cons_of_ne hc]
      exact ih (c :: part)

theorem count_le_length_lines (s : List Char) : s.count '\n' ≤ (lines s).length := count_le_length_linesFrom [] s

theorem lines_of_not_mem (hs : '\n' ∉ s) (hne : s ≠ []) : lines s = [s] := by
  have hfrom : ∀ part : List Char, (part ≠ [] ∨ s ≠ []) → linesFrom part s = [part.reverse ++ s] := by
    clear hne
    induction s with
    | nil =>
      intro part hpart
      rw [linesFrom, if_neg (by simpa using hpart), append_nil]
    | cons c r ih =>
      intro part _
      rw [mem_cons, not_or] at hs
      rw [linesFrom, if_neg (Ne.symm hs.1), ih hs.2 _ (Or.inl (by simp))]
      simp
  exact hfrom [] (Or.inr hne)

end RemoteSensing.Chars
