import Mathlib.Algebra.GroupWithZero.Nat
import Mathlib.Data.List.DropRight
import Mathlib.Data.List.Forall2
import Mathlib.Data.List.Infix
import Mathlib.Data.List.TakeWhile
import Mathlib.Tactic.Ring
import RemoteSensing.Text.Chars

/-!
Searching, trimming and cutting, told by what they do to a text.
-/

namespace RemoteSensing.Chars

open List Option Nat RemoteSensing.Text

variable {c : Char} {a s sub : List Char} {j : Nat}

section Deciding

variable (p : Char → Prop) [DecidablePred p]

instance decidableForallMem (s : List Char) : Decidable (∀ c ∈ s, p c) := decidableBAll p s

instance decidableExistsMem (s : List Char) : Decidable (∃ c ∈ s, p c) := decidableBEx p s

instance decidableForallMemOption (o : Option Char) : Decidable (∀ c ∈ o, p c) := Option.decidableForallMem o

instance decidableExistsMemOption (o : Option Char) : Decidable (∃ c ∈ o, p c) := Option.decidableExistsMem o

end Deciding

theorem mem_toString_int {i : Int} (h : c ∈ (toString i).toList) : c.isDigit = true ∨ c = '-' ∧ i < 0 := by
  rw [Int.toString_eq_repr, Int.repr_eq_if] at h
  have hdigit {n : Nat} (h : c ∈ n.repr.toList) : c.isDigit = true := by
    rw [← toString_eq_repr, toString_eq_ofList_toDigits, String.toList_ofList] at h
    exact isDigit_of_mem_toDigits (by decide) (by decide) h
  by_cases hi : 0 ≤ i
  · rw [if_pos hi] at h
    exact .inl (hdigit h)
  · rw [if_neg hi, String.toList_append] at h
    rcases mem_append.mp h with h | h
    · exact .inr ⟨mem_singleton.mp h, by omega⟩
    · exact .inl (hdigit h)

theorem not_mem_int (hc : c.isDigit = false) (hminus : c ≠ '-') (i : Int) : c ∉ (toString i).toList := by
  intro h
  rcases mem_toString_int h with hdigit | ⟨h, -⟩
  · rw [hc] at hdigit
    cases hdigit
  · exact hminus h

theorem findAt_eq (sub : List Char) (i : Nat) (s : List Char) : findAt sub i s = (find? sub s).map (i + ·) := by
  unfold find?
  induction s generalizing i with
  | nil =>
    rw [findAt, findAt]
    split <;> rfl
  | cons c r ih =>
    rw [findAt, findAt]
    split
    · rfl
    · rw [ih, ih (0 + 1), Option.map_map]
      simp only [Function.comp_def, zero_add, add_assoc]

theorem find?_cons (sub : List Char) (c : Char) (r : List Char) :
    find? sub (c :: r) = if sub <+: c :: r then some 0 else (find? sub r).map (1 + ·) := by
  rw [find?, findAt, findAt_eq]
  exact if_congr isPrefixOf_iff_prefix rfl rfl

theorem contains_iff : contains s sub = true ↔ sub <:+: s := by
  unfold contains
  induction s with
  | nil =>
    rw [find?, findAt, infix_nil]
    cases sub <;> simp
  | cons c r ih =>
    rw [find?_cons, infix_cons_iff]
    split
    · rename_i hpre
      simp [hpre]
    · rename_i hpre
      rw [isSome_map, ih, or_iff_right hpre]

theorem find?_eq_none_iff : find? [c] s = none ↔ c ∉ s := by
  rw [← not_isSome_iff_eq_none]
  exact not_congr (contains_iff.trans (singleton_infix_iff c s))

theorem find?_of_mem (h : c ∈ s) : ∃ i, find? [c] s = some i :=
  isSome_iff_exists.mp (contains_iff.mpr ((singleton_infix_iff c s).mpr h))

theorem find?_eq_some (h : find? sub s = some j) : ∃ a b, s = a ++ sub ++ b ∧ a.length = j := by
  induction s generalizing j with
  | nil =>
    rw [find?, findAt] at h
    split at h
    · rename_i hsub
      cases h
      exact ⟨[], [], by rw [isEmpty_iff.mp hsub]; rfl, rfl⟩
    · cases h
  | cons c r ih =>
    rw [find?_cons] at h
    split at h
    · rename_i hpre
      cases h
      obtain ⟨b, hb⟩ := hpre
      exact ⟨[], b, hb.symm, rfl⟩
    · obtain ⟨k, hk, rfl⟩ := map_eq_some_iff.mp h
      obtain ⟨a, b, rfl, rfl⟩ := ih hk
      exact ⟨c :: a, b, rfl, add_comm _ _⟩

/-- **The first occurrence stays the first**, whatever follows. -/
theorem find?_append (h : find? sub s = some j) (r : List Char) : find? sub (s ++ r) = some j := by
  induction s generalizing j with
  | nil =>
    rw [find?, findAt] at h
    split at h
    · rename_i hsub
      rw [isEmpty_iff.mp hsub]
      cases r <;> exact h
    · cases h
  | cons c s ih =>
    have hfront : c :: s <+: c :: (s ++ r) := prefix_append (c :: s) r
    rw [find?_cons] at h
    rw [cons_append, find?_cons]
    split at h
    · rename_i hpre
      rw [if_pos (hpre.trans hfront), h]
    · rename_i hpre
      obtain ⟨k, hk, rfl⟩ := map_eq_some_iff.mp h
      have hlength : sub.length ≤ (c :: s).length := by
        obtain ⟨a, b, rfl, -⟩ := find?_eq_some hk
        simp
        omega
      rw [if_neg fun h => hpre (prefix_of_prefix_length_le h hfront hlength), ih hk, map_some]

theorem find?_skip {t : List Char} (h : ∀ y, y <:+ a → y ≠ [] → ¬ sub <+: y ++ t) :
    find? sub (a ++ t) = (find? sub t).map (a.length + ·) := by
  induction a with
  | nil => simp
  | cons c a ih =>
    have hstart : ¬ sub <+: c :: (a ++ t) := h (c :: a) suffix_rfl (by simp)
    rw [cons_append, find?_cons, if_neg hstart, ih fun y hy => h y (hy.trans (suffix_cons c a)), Option.map_map, length_cons]
    congr 1
    funext k
    simp only [Function.comp_def]
    omega

theorem find?_first (ha : c ∉ a) (b : List Char) : find? [c] (a ++ c :: b) = some a.length := by
  rw [find?_skip, find?_cons, if_pos (by simp), map_some, add_zero]
  rintro (_ | ⟨x, y⟩) hy hne hpre
  · exact hne rfl
  · exact ha (hy.subset ((cons_prefix_cons.mp hpre).1 ▸ mem_cons_self))

theorem trimLeft_suffix (s : List Char) : trimLeft s <:+ s := dropWhile_suffix isBlank

theorem trimRight_append (s : List Char) : ∃ b, s = trimRight s ++ b ∧ ∀ c ∈ b, isBlank c = true :=
  ⟨s.rtakeWhile isBlank, rdropWhile_append_rtakeWhile.symm, fun _ hc => mem_takeWhile_imp (mem_reverse.mp hc)⟩

theorem trimRight_append_blank {b : List Char} (hb : ∀ c ∈ b, isBlank c = true) (s : List Char) :
    trimRight (s ++ b) = trimRight s := by
  rw [trimRight, reverse_append, dropWhile_append_of_pos, trimRight]
  intro c hc
  exact hb c (mem_reverse.mp hc)

theorem trimRight_concat (hc : isBlank c = false) (s : List Char) : trimRight (s ++ [c]) = s ++ [c] :=
  rdropWhile_concat_neg isBlank s c (by simp [hc])

theorem trim_of_forall (h : ∀ c ∈ s, isBlank c = false) : trim s = s := by
  have hstay {t : List Char} (ht : ∀ c ∈ t, isBlank c = false) : t.dropWhile isBlank = t := by
    cases t with
    | nil => rfl
    | cons c r => exact dropWhile_cons_of_neg (by simp [ht c mem_cons_self])
  rw [trim, trimRight, trimLeft, hstay h, hstay (by simpa using h), reverse_reverse]

theorem trim_replicate_append (k : Nat) (s : List Char) : trim (replicate k ' ' ++ s) = trim s := by
  rw [trim, trimLeft, dropWhile_append_of_pos, trim, trimLeft]
  intro c hc
  rw [eq_of_mem_replicate hc]
  decide

theorem suffix_of_suffix_trim {u : List Char} (h : u <:+ trim s) : ∃ b, (∀ c ∈ b, isBlank c = true) ∧ u ++ b <:+ s := by
  obtain ⟨b, hb, hblank⟩ := trimRight_append (trimLeft s)
  obtain ⟨a, ha⟩ := h
  refine ⟨b, hblank, ?_⟩
  have hmid : u ++ b <:+ trimLeft s := ⟨a, by rw [← append_assoc, ha, trim, ← hb]⟩
  exact hmid.trans (trimLeft_suffix s)

theorem count_dropWhile_isBlank (hc : isBlank c = false) (s : List Char) :
    (s.dropWhile isBlank).count c = s.count c := by
  have hnone : (s.takeWhile isBlank).count c = 0 :=
    count_eq_zero.mpr fun h => Bool.false_ne_true (hc.symm.trans (mem_takeWhile_imp h))
  conv_rhs => rw [← takeWhile_append_dropWhile (p := isBlank) (l := s), count_append, hnone, zero_add]

theorem count_trimRight (hc : isBlank c = false) (s : List Char) : (trimRight s).count c = s.count c := by
  rw [trimRight, count_reverse, count_dropWhile_isBlank hc, count_reverse]

theorem count_trim (hc : isBlank c = false) (s : List Char) : (trim s).count c = s.count c := by
  rw [trim, count_trimRight hc, trimLeft, count_dropWhile_isBlank hc]

theorem slice_middle (a m b : List Char) : slice (a ++ (m ++ b)) a.length (a.length + m.length : Nat) = m := by
  have ha : ¬ (a.length : Int) < 0 := by omega
  have hm : ¬ ((a.length + m.length : Nat) : Int) < 0 := by omega
  rw [slice, clamp, clamp, if_neg ha, if_neg hm, Int.toNat_natCast, Int.toNat_natCast, length_append, length_append,
    Nat.min_eq_left (by omega), Nat.min_eq_left (by omega), take_length_add_append, drop_left, take_left]

theorem slice_to (s : List Char) (p : Nat) : slice s 0 (p : Int) = s.take p := by
  have hnot : ¬ (p : Int) < 0 := by omega
  rw [slice, clamp, clamp, if_neg hnot, if_neg (by omega), Int.toNat_natCast]
  simp

theorem slice_from (s : List Char) (p : Nat) : slice s (p : Int) (s.length : Int) = s.drop p := by
  have hnot : ¬ (p : Int) < 0 := by omega
  rw [slice, clamp, clamp, if_neg hnot, if_neg (by omega), Int.toNat_natCast, Int.toNat_natCast, min_self,
    take_length]
  rcases le_total p s.length with hp | hp
  · rw [min_eq_left hp]
  · rw [min_eq_right hp, drop_length, drop_eq_nil_of_le hp]

/-! Replacing a text that is not empty, told without positions. -/

variable {old new s : List Char} {c : Char} {R : Char → Char → Prop} {a b h t w : List Char}

theorem replaceFrom_skip (old new : List Char) (k : Nat) (s : List Char) :
    replaceFrom old new k s = replaceFrom old new 0 (s.drop k) := by
  induction k generalizing s with
  | zero => rfl
  | succ k ih =>
    cases s with
    | nil => rfl
    | cons c r =>
      exact ih r

@[simp] theorem replace_nil (hold : old ≠ []) (new : List Char) : replace old new [] = [] := by
  rw [replace, if_neg (by simpa using hold)]
  rfl

theorem replace_found (hold : old ≠ []) (new b : List Char) : replace old new (old ++ b) = new ++ replace old new b := by
  obtain ⟨c, old', rfl⟩ := exists_cons_of_ne_nil hold
  have hpre : (c :: old').isPrefixOf (c :: (old' ++ b)) = true :=
    isPrefixOf_iff_prefix.mpr (prefix_append (c :: old') b)
  rw [replace, replace, if_neg (by simp), if_neg (by simp), cons_append, replaceFrom, if_pos hpre, replaceFrom_skip,
    length_cons, Nat.add_sub_cancel, drop_left]

theorem replace_pass {r : List Char} (hold : old ≠ []) (new : List Char) (h : ¬ old <+: c :: r) :
    replace old new (c :: r) = c :: replace old new r := by
  have hpre : ¬ old.isPrefixOf (c :: r) = true := fun hp => h <| isPrefixOf_iff_prefix.mp hp
  rw [replace, replace, if_neg (by simpa using hold), if_neg (by simpa using hold), replaceFrom, if_neg hpre]

/-- **Reading a text from the left**: an occurrence is passed over as a whole. -/
theorem occurrence_induction {motive : List Char → Prop} (hold : old ≠ []) (nil : motive [])
    (found : ∀ b, motive b → motive (old ++ b)) (pass : ∀ c r, ¬ old <+: c :: r → motive r → motive (c :: r))
    (s : List Char) : motive s := by
  induction hn : s.length using Nat.strong_induction_on generalizing s with
  | _ n ih =>
    cases s with
    | nil => exact nil
    | cons c r =>
      by_cases hpre : old <+: c :: r
      · obtain ⟨b, hb⟩ := hpre
        have hlength : b.length < n := by
          have hpos : 0 < old.length := length_pos_iff.mpr hold
          rw [← hn, ← hb, length_append]
          omega
        rw [← hb]
        exact found b (ih b.length hlength b rfl)
      · have hlength : r.length < n := by
          rw [← hn, length_cons]
          omega
        exact pass c r hpre (ih r.length hlength r rfl)

theorem replace_of_absent (hold : old ≠ []) (new : List Char) (h : ¬ old <:+: s) : replace old new s = s := by
  induction s with
  | nil => exact replace_nil hold new
  | cons c r ih =>
    rw [infix_cons_iff, not_or] at h
    rw [replace_pass hold new h.1, ih h.2]

theorem replace_first (hold : old ≠ []) (new : List Char) (h : old <:+: s) :
    ∃ a b, s = a ++ (old ++ b) ∧ replace old new s = a ++ (new ++ replace old new b) := by
  induction s with
  | nil => exact absurd (infix_nil.mp h) hold
  | cons c r ih =>
    by_cases hpre : old <+: c :: r
    · obtain ⟨b, hb⟩ := hpre
      rw [← hb]
      exact ⟨[], b, rfl, replace_found hold new b⟩
    · have hr : old <:+: r := (infix_cons_iff.mp h).resolve_left hpre
      obtain ⟨a, b, hs, hreplace⟩ := ih hr
      refine ⟨c :: a, b, by rw [hs]; rfl, ?_⟩
      rw [replace_pass hold new hpre, hreplace]
      rfl

theorem replace_char (a b : Char) (s : List Char) : replace [a] [b] s = s.map fun c => if c = a then b else c := by
  have hne : [a] ≠ [] := by simp
  induction s with
  | nil => exact replace_nil hne [b]
  | cons c r ih =>
    by_cases hc : c = a
    · rw [hc, map_cons, if_pos rfl, ← ih]
      exact replace_found hne [b] r
    · rw [map_cons, if_neg hc, ← ih]
      refine replace_pass hne [b] fun hpre => hc ?_
      exact (cons_prefix_cons.mp hpre).1.symm

theorem count_replace (hold : old ≠ []) (ho : old.count c = 0) (hn : new.count c = 0) (s : List Char) :
    (replace old new s).count c = s.count c := by
  induction s using occurrence_induction hold with
  | nil => rw [replace_nil hold]
  | found b ih => rw [replace_found hold, count_append, count_append, hn, ho, ih]
  | pass x r hpre ih => rw [replace_pass hold new hpre, count_cons, count_cons, ih]

theorem not_mem_replace_singleton (hn : c ∉ new) (s : List Char) : c ∉ replace [c] new s := by
  have hne : [c] ≠ [] := by simp
  induction s using occurrence_induction hne with
  | nil => simp
  | found b ih =>
    rw [replace_found hne, mem_append]
    exact fun hmem => hmem.elim hn ih
  | pass x r hpre ih =>
    rw [replace_pass hne new hpre, mem_cons]
    exact fun hmem => hmem.elim (by simpa using hpre) ih

theorem not_mem_replace (hold : old ≠ []) (hs : c ∉ s) (h : c ∈ old ∨ c ∉ new) : c ∉ replace old new s := by
  rcases h with hmem | hnew
  · rw [replace_of_absent hold new fun hoccurs => hs (hoccurs.subset hmem)]
    exact hs
  · induction s using occurrence_induction hold with
    | nil =>
      rw [replace_nil hold]
      exact not_mem_nil
    | found b ih =>
      rw [replace_found hold, mem_append]
      rw [mem_append, not_or] at hs
      exact fun hc => hc.elim hnew (ih hs.2)
    | pass x r hpre ih =>
      rw [replace_pass hold new hpre, mem_cons]
      rw [mem_cons, not_or] at hs
      exact fun hc => hc.elim hs.1 (ih hs.2)

theorem takeWhile_before (ha : c ∉ a) (b : List Char) : (a ++ c :: b).takeWhile (· != c) = a := by
  rw [takeWhile_append_of_pos (fun x hx => by simpa using ne_of_mem_of_not_mem hx ha),
    takeWhile_cons_of_neg (by simp), append_nil]

theorem append_cons_inj {a' b b' : List Char} (ha : c ∉ a) (ha' : c ∉ a') (h : a ++ c :: b = a' ++ c :: b') :
    a = a' ∧ b = b' := by
  have hfront : a = a' := by rw [← takeWhile_before ha b, h, takeWhile_before ha']
  rw [hfront, append_cancel_left_eq, cons.injEq] at h
  exact ⟨hfront, h.2⟩

theorem prefix_of_prefix_append_cons (hc : c ∉ w) (h : w <+: a ++ c :: b) : w <+: a := by
  rcases prefix_or_prefix_of_prefix h (prefix_append a (c :: b)) with hwa | haw
  · exact hwa
  · obtain ⟨t, rfl⟩ := haw
    obtain ⟨u, hu⟩ := h
    rw [append_assoc, append_cancel_left_eq] at hu
    cases t with
    | nil => exact (append_nil a).symm ▸ prefix_refl a
    | cons d t =>
      cases hu
      exact absurd (by simp) hc

theorem infix_append_cons_iff (hc : c ∉ w) : w <:+: a ++ c :: b ↔ w <:+: a ∨ w <:+: b := by
  constructor
  · intro h
    induction a with
    | nil =>
      rcases infix_cons_iff.mp h with hpre | hoccurs
      · exact Or.inl (prefix_of_prefix_append_cons (a := []) hc hpre).isInfix
      · exact Or.inr hoccurs
    | cons x a ih =>
      rcases infix_cons_iff.mp h with hpre | hoccurs
      · exact Or.inl (prefix_of_prefix_append_cons (a := x :: a) hc hpre).isInfix
      · exact (ih hoccurs).imp infix_cons id
  · rintro (h | h)
    · exact h.trans (prefix_append a (c :: b)).isInfix
    · exact h.trans ((suffix_cons c b).trans (suffix_append a (c :: b))).isInfix

/-- **What has no occurrence across its border is replaced on its two sides.** -/
theorem replace_append (hold : old ≠ []) (new : List Char) (h : ∀ y, y <:+ a → y ≠ [] → old <+: y ++ t → old <+: y) :
    replace old new (a ++ t) = replace old new a ++ replace old new t := by
  induction a using occurrence_induction hold with
  | nil => rw [replace_nil hold, nil_append, nil_append]
  | found a ih =>
    rw [append_assoc, replace_found hold, replace_found hold, append_assoc, ih]
    exact fun y hy => h y (hy.trans (suffix_append old a))
  | pass c r hpre ih =>
    have hlong : ¬ old <+: c :: (r ++ t) := fun hc => hpre (h (c :: r) suffix_rfl (by simp) hc)
    rw [cons_append, replace_pass hold new hlong, replace_pass hold new hpre, cons_append, ih]
    exact fun y hy => h y (hy.trans (suffix_cons c r))

theorem replace_append_cons (hold : old ≠ []) (hc : c ∉ old) (new a b : List Char) :
    replace old new (a ++ c :: b) = replace old new a ++ c :: replace old new b := by
  have hpre : ¬ old <+: c :: b := by
    intro h
    exact hold (prefix_nil.mp (prefix_of_prefix_append_cons (a := []) hc h))
  rw [replace_append hold new fun y _ _ => prefix_of_prefix_append_cons hc, replace_pass hold new hpre]

theorem replace_append_of_last (hold : old ≠ []) (hc : c ∉ old.dropLast) (new a b : List Char) :
    replace old new (a ++ c :: b) = replace old new (a ++ [c]) ++ replace old new b := by
  rw [← singleton_append, ← append_assoc]
  refine replace_append hold new fun y hy hne hpre => ?_
  -- no occurrence goes on behind the character
  rcases prefix_or_prefix_of_prefix hpre (prefix_append y b) with hin | ⟨u, rfl⟩
  · exact hin
  rcases eq_or_ne u [] with rfl | hu
  · rw [append_nil]
  · have hlast : c ∈ y := by
      obtain ⟨x, hx⟩ := hy
      obtain ⟨y, z, rfl⟩ := (eq_nil_or_concat y).resolve_left hne
      rw [concat_eq_append, ← append_assoc] at hx
      rw [concat_eq_append, (append_inj' hx rfl).2]
      simp
    rw [dropLast_append_of_ne_nil hu] at hc
    exact absurd (mem_append_left _ hlast) hc

/-- Nowhere in the first text can an occurrence of the second one start, whatever follows. -/
def Apart (h old : List Char) : Prop := ∀ k < h.length, ¬ h.drop k <+: old ∧ ¬ old <+: h.drop k

instance (h old : List Char) : Decidable (Apart h old) :=
  inferInstanceAs (Decidable (∀ k < h.length, ¬ h.drop k <+: old ∧ ¬ old <+: h.drop k))

theorem Apart.tail (hapart : Apart (c :: h) old) : Apart h old := by
  intro k hk
  exact hapart (k + 1) (by rw [length_cons]; omega)

theorem Apart.not_starts (hapart : Apart (c :: h) old) (s : List Char) : ¬ old <+: c :: (h ++ s) := by
  intro hpre
  have h0 := hapart 0 (by simp)
  rcases prefix_or_prefix_of_prefix hpre (prefix_append (c :: h) s) with hin | hin
  · exact h0.2 hin
  · exact h0.1 hin

theorem replace_append_of_apart (hold : old ≠ []) (hapart : Apart h old) (new s : List Char) :
    replace old new (h ++ s) = h ++ replace old new s := by
  induction h with
  | nil => rfl
  | cons c h ih => rw [cons_append, replace_pass hold new (hapart.not_starts s), ih hapart.tail, cons_append]

theorem prefix_replace (hold : old ≠ []) (hapart : Apart h old) (new : List Char) (hs : h <+: s) :
    h <+: replace old new s := by
  obtain ⟨t, rfl⟩ := hs
  rw [replace_append_of_apart hold hapart]
  exact prefix_append h _

theorem prefix_replaceFirst (hapart : Apart h old) (new : List Char) (hs : h <+: s) : h <+: replaceFirst old new s := by
  obtain ⟨t, rfl⟩ := hs
  induction h with
  | nil => exact nil_prefix
  | cons c h ih =>
    have hpre : ¬ old.isPrefixOf (c :: (h ++ t)) = true :=
      fun hp => hapart.not_starts t <| isPrefixOf_iff_prefix.mp hp
    rw [cons_append, replaceFirst, if_neg hpre]
    exact cons_prefix_cons.mpr ⟨rfl, ih hapart.tail⟩

theorem prefix_of_prefix_replace {d : Char} (hold : old ≠ []) (hd : d ∉ w) (h : w <+: replace old (d :: new) s) :
    w <+: s := by
  induction s using occurrence_induction hold generalizing w with
  | nil =>
    rw [replace_nil hold] at h
    exact h
  | found b ih =>
    rw [replace_found hold] at h
    cases w with
    | nil => exact nil_prefix
    | cons x w =>
      rw [cons_append, cons_prefix_cons] at h
      exact absurd (by rw [h.1]; exact mem_cons_self) hd
  | pass x r hpre ih =>
    rw [replace_pass hold _ hpre] at h
    cases w with
    | nil => exact nil_prefix
    | cons y w =>
      rw [cons_prefix_cons] at h ⊢
      exact ⟨h.1, ih (fun hmem => hd (mem_cons_of_mem y hmem)) h.2⟩

def Clear (w old : List Char) : Prop :=
  Apart w old ∧ ∀ k < old.length, 0 < k → ¬ w <+: old.drop k ∧ ¬ old.drop k <+: w

instance (w old : List Char) : Decidable (Clear w old) := inferInstanceAs (Decidable (_ ∧ _))

theorem infix_replace (hold : old ≠ []) (hclear : Clear w old) (new : List Char) (h : w <:+: s) :
    w <:+: replace old new s := by
  obtain ⟨hapart, hinto⟩ := hclear
  obtain ⟨a, b, rfl⟩ := h
  have hborder : ∀ y, y <:+ a → y ≠ [] → old <+: y ++ (w ++ b) → old <+: y := by
    intro y _ hne hpre
    rcases prefix_or_prefix_of_prefix hpre (prefix_append y _) with hin | ⟨u, rfl⟩
    · exact hin
    rcases eq_or_ne u [] with rfl | hu
    · rw [append_nil]
    · -- an occurrence ends before the text, for it cannot reach into it
      have hno := hinto y.length (by simp [length_pos_iff, hu]) (length_pos_iff.mpr hne)
      rw [drop_left] at hno
      have hrest : u <+: w ++ b := (prefix_append_right_inj y).mp hpre
      exact absurd ( prefix_or_prefix_of_prefix (prefix_append w b) hrest) (not_or.mpr hno)
  rw [append_assoc, replace_append hold new hborder, replace_append_of_apart hold hapart]
  exact ⟨_, _, append_assoc _ _ _⟩

theorem forall₂_replace (hrefl : ∀ c, R c c) (hold : old ≠ []) (hnew : Forall₂ R old new) (s : List Char) :
    Forall₂ R s (replace old new s) := by
  induction s using occurrence_induction hold with
  | nil =>
    rw [replace_nil hold]
    exact .nil
  | found b ih =>
    rw [replace_found hold]
    exact rel_append hnew ih
  | pass c r hpre ih =>
    rw [replace_pass hold new hpre]
    exact .cons (hrefl c) ih

theorem prefix_of_forall₂ {s : List Char} (h : Forall₂ R s t) (hw : ∀ a ∈ w, ∀ b, R a b → a = b) (hs : w <+: s) :
    w <+: t := by
  induction h generalizing w with
  | nil => exact hs
  | cons hab _ ih =>
    cases w with
    | nil => exact nil_prefix
    | cons c w =>
      rw [cons_prefix_cons] at hs ⊢
      obtain ⟨rfl, hrest⟩ := hs
      exact ⟨hw c mem_cons_self _ hab, ih (fun a ha => hw a (mem_cons_of_mem c ha)) hrest⟩

theorem infix_of_forall₂ {s : List Char} (h : Forall₂ R s t) (hw : ∀ a ∈ w, ∀ b, R a b → a = b) (hs : w <:+: s) :
    w <:+: t := by
  obtain ⟨a, b, rfl⟩ := hs
  have hdrop := forall₂_drop a.length h
  rw [append_assoc, drop_left] at hdrop
  exact (prefix_of_forall₂ hdrop hw (prefix_append w b)).isInfix.trans (drop_suffix _ _).isInfix

def total (g : Char → Int) (s : List Char) : Int := (s.map g).sum

variable (g : Char → Int)

@[simp] theorem total_cons (c : Char) (r : List Char) : total g (c :: r) = g c + total g r := by
  simp [total]

@[simp] theorem total_append (a b : List Char) : total g (a ++ b) = total g a + total g b := by
  simp [total]

/-- **What replacing does to the weight**: each occurrence changes it by the difference of the two texts. -/
theorem total_replace (hold : old ≠ []) (new s : List Char) :
    ∃ n : Nat, total g (replace old new s) = total g s + n * (total g new - total g old) ∧ (n = 0 → ¬ old <:+: s) := by
  induction s using occurrence_induction hold with
  | nil =>
    refine ⟨0, ?_, fun _ h => hold (infix_nil.mp h)⟩
    rw [replace_nil hold]
    simp
  | found b ih =>
    obtain ⟨n, hn, -⟩ := ih
    refine ⟨n + 1, ?_, fun h => absurd h (by omega)⟩
    rw [replace_found hold, total_append, total_append, hn]
    push_cast
    ring
  | pass c r hpre ih =>
    obtain ⟨n, hn, hzero⟩ := ih
    refine ⟨n, ?_, fun h hoccurs => ?_⟩
    · rw [replace_pass hold new hpre, total_cons, total_cons, hn]
      ring
    · exact (infix_cons_iff.mp hoccurs).elim hpre (hzero h)

theorem total_replace_le (hold : old ≠ []) (h : total g new ≤ total g old) (s : List Char) :
    total g (replace old new s) ≤ total g s := by
  obtain ⟨n, hn, -⟩ := total_replace g hold new s
  have hle : (n : Int) * (total g new - total g old) ≤ 0 :=
    Int.mul_nonpos_of_nonneg_of_nonpos (Int.natCast_nonneg n) (by omega)
  omega

/-- **A text that has not become lighter** had no occurrence of what is heavier than what comes in its place. -/
theorem absent_of_total_le (hold : old ≠ []) (h : total g new < total g old)
    (hs : total g s ≤ total g (replace old new s)) : ¬ old <:+: s := by
  obtain ⟨n, hn, hzero⟩ := total_replace g hold new s
  refine hzero ?_
  by_contra hne
  have hlt : (n : Int) * (total g new - total g old) < 0 := Int.mul_neg_of_pos_of_neg (by omega) (by omega)
  omega

end RemoteSensing.Chars
