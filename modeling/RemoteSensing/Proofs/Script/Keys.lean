import RemoteSensing.Proofs.Script.Conversion

/-!
Quoting the keys of a line.
-/

namespace RemoteSensing.Script

open List Text Line Or
open Chars (split)

variable {x : Char} {l part : Line} {new s : List Char} {parts : List Line}

theorem keyStart_eq_zero (hcolon : ':' ∉ a) (hbrace : '\x7b' ∉ a) (b : Line) : keyStart (a ++ ':' :: b) = 0 := by
  rw [keyStart, Chars.find?_first hcolon, Option.getD_some]
  by_cases hmem : '\x7b' ∈ b
  · obtain ⟨x, y, rfl, hx⟩ := eq_append_cons_of_mem hmem
    have hsplit : a ++ ':' :: (x ++ '\x7b' :: y) = (a ++ ':' :: x) ++ '\x7b' :: y := by simp
    have hfind := Chars.find?_first (c := '\x7b') (a := a ++ ':' :: x) (by simp [hbrace, hx]) y
    rw [hsplit, hfind]
    simp
  · rw [Chars.find?_eq_none_iff.mpr (by simp [hbrace, hmem])]

theorem keyStart_eq_succ (hbrace : '\x7b' ∉ a) (hcolon : ':' ∉ a ∧ ':' ∉ b) (t : Line) :
    keyStart (a ++ '\x7b' :: (b ++ ':' :: t)) = a.length + 1 := by
  have hsplit : a ++ '\x7b' :: (b ++ ':' :: t) = (a ++ '\x7b' :: b) ++ ':' :: t := by simp
  have hfind : Chars.find? [':'] (a ++ '\x7b' :: (b ++ ':' :: t)) = some (a ++ '\x7b' :: b).length := by
    rw [hsplit]
    exact Chars.find?_first (by simp [hcolon.1, hcolon.2]) t
  rw [keyStart, hfind, Chars.find?_first hbrace, Option.getD_some]
  simp

theorem mem_of_mem_trim (h : x ∈ trim l) : x ∈ l := by
  obtain ⟨b, hb, -⟩ := Chars.trimRight_append (Chars.trimLeft l)
  have hleft : x ∈ Chars.trimLeft l := by
    rw [hb]
    exact mem_append_left b h
  exact (Chars.trimLeft_suffix l).subset hleft

theorem split_eq_concat (c : Char) (l : Line) :
    split [c] l = (split [c] l).dropLast ++ [(split [c] l).getLastD []] := by
  have hne : split [c] l ≠ [] := Chars.split_ne_nil (by simp) l
  rw [getLastD_eq_getLast?, List.getLast?_eq_getLast_of_ne_nil hne, Option.getD_some, dropLast_concat_getLast]

/-- A text without its quotes and blanks. -/
def letters (l : Line) : Line := l.filter fun x => x != '\'' && !isBlank x

theorem letters_append (a b : Line) : letters (a ++ b) = letters a ++ letters b := filter_append ..

theorem mem_letters_iff (hx : x ≠ '\'' ∧ isBlank x = false) : x ∈ letters l ↔ x ∈ l := by
  rw [letters, mem_filter, and_iff_left (by simp [hx])]

def quoteMarks : List Char := "' ".toList

/-- The second text differs from the first in quotes and blanks, and brings no others. -/
structure Respaced (l l' : Line) : Prop where
  letters_eq : letters l' = letters l
  brings : ∀ x ∈ l', x ∈ quoteMarks ∨ x ∈ l

namespace Respaced

variable {a a' b b' : Line}

theorem refl (l : Line) : Respaced l l := ⟨rfl, fun _ => inr⟩

theorem not_mem (h : Respaced l l') (hx : x ∉ quoteMarks) (hnot : x ∉ l) : x ∉ l' :=
  fun hmem => (h.brings x hmem).elim hx hnot

theorem append (h : Respaced a a') (h' : Respaced b b') : Respaced (a ++ b) (a' ++ b') where
  letters_eq := by rw [letters_append, letters_append, h.letters_eq, h'.letters_eq]
  brings := by
    intro x hx
    rw [mem_append, or_left_comm]
    rcases mem_append.mp hx with hx | hx
    · exact (h.brings x hx).elim (inr ∘ inl) inl
    · exact inr ((h'.brings x hx).imp id id)

/-- A blank or a quote may stand anywhere. -/
theorem mark (h : ∀ x ∈ a, x ∈ quoteMarks) : Respaced [] a where
  letters_eq := filter_eq_nil_iff.mpr fun x hx => (by decide : ∀ x ∈ quoteMarks, ¬ (x != '\'' && !isBlank x) = true) x (h x hx)
  brings := fun x hx => inl (h x hx)

theorem of_trim (h : Respaced (trim l) l') : Respaced l l' where
  letters_eq := by
    obtain ⟨b, hb, hblank⟩ := Chars.trimRight_append (Chars.trimLeft l)
    have hnone : ∀ {s : Line}, (∀ x ∈ s, isBlank x = true) → letters s = [] :=
      fun hs => filter_eq_nil_iff.mpr fun x hx => by simp [hs x hx]
    calc letters l' = letters (trim l) := h.letters_eq
      _ = letters (Chars.trimLeft l) := by rw [hb, letters_append, hnone hblank, append_nil]; rfl
      _ = letters l := by
        conv_rhs => rw [← takeWhile_append_dropWhile (p := isBlank) (l := l)]
        rw [letters_append, hnone fun x => mem_takeWhile_imp, nil_append, Chars.trimLeft]
  brings := fun x hx => (h.brings x hx).imp id mem_of_mem_trim

theorem quoted (h : Respaced a a') : Respaced a (quoted a') := by
  have hmark := mark (a := ['\'']) (by decide)
  simpa [Script.quoted] using (hmark.append h).append hmark

theorem join {d d' : Line} {ps ps' : List Line} (hd : Respaced d d') (h : Forall₂ Respaced ps ps') :
    Respaced (Chars.join d ps) (Chars.join d' ps') := by
  induction h with
  | nil => exact refl _
  | @cons p p' ps ps' hp hps ih =>
    cases hps with
    | nil => exact hp
    | cons hq hqs => exact (hp.append hd).append ih

theorem replace {old new : Line} (h : Respaced old new) (s : Line) : Respaced s (Chars.replace old new s) := by
  by_cases hold : old = []
  · subst hold
    induction s with
    | nil => exact h
    | cons c r ih => exact h.append ((refl [c]).append ih)
  · induction s using Chars.occurrence_induction hold with
    | nil => rw [Chars.replace_nil hold]; exact refl _
    | found b ih => rw [Chars.replace_found hold]; exact h.append ih
    | pass c r hpass ih => rw [Chars.replace_pass hold _ hpass]; exact (refl [c]).append ih

end Respaced

theorem respaced_quoteSingleKey (part : Line) : Respaced part (quoteSingleKey part) := by
  unfold quoteSingleKey
  dsimp only
  split
  · exact Respaced.refl part
  · exact (Respaced.refl _).quoted.replace part

theorem respaced_quoteLastKey (part : Line) : Respaced part (quoteLastKey part) := by
  unfold quoteLastKey
  dsimp only
  split
  · split
    · exact Respaced.refl part
    · have hcomma : Respaced [','] ", ".toList := (Respaced.refl [',']).append (.mark (by decide))
      conv_lhs => rw [← Chars.join_split (d := [',']) (by simp) part, split_eq_concat]
      refine hcomma.join (rel_append (forall₂_same.mpr fun p _ => .refl p) (.cons ?_ .nil))
      exact (Respaced.of_trim (.refl _)).quoted
  · split
    · exact Respaced.refl part
    · refine Respaced.append (a := []) (.mark fun x hx => ?_) (Respaced.of_trim (.refl _)).quoted
      rw [eq_of_mem_replicate hx]
      decide

/-- What quoting does to the parts but the last. -/
def keyEdit (parts : List Line) : Line → Line := if parts.length = 2 then quoteSingleKey else quoteLastKey

theorem respaced_keyEdit (parts : List Line) (part : Line) : Respaced part (keyEdit parts part) := by
  unfold keyEdit
  split
  · exact respaced_quoteSingleKey part
  · exact respaced_quoteLastKey part

theorem quoteParts_eq (parts : List Line) : quoteParts parts = parts.dropLast.map (keyEdit parts) ++ [parts.getLastD []] := rfl

theorem respaced_requoted (l : Line) : Respaced l (requoted l) := by
  conv_lhs => rw [← Chars.join_split (d := [':']) (by simp) l]
  refine (Respaced.refl [':']).join ?_
  conv_lhs => rw [split_eq_concat]
  refine rel_append ?_ (.cons (.refl _) .nil)
  exact forall₂_map_right_iff.mpr (forall₂_same.mpr fun p _ => respaced_keyEdit _ p)

/-- **What quoting brings**: nothing but its own marks. -/
theorem respaced_withKeys (l : Line) : Respaced l (withKeys l) := by
  conv_lhs => rw [← take_append_drop (keyStart l) l]
  exact (Respaced.refl _).append (respaced_requoted _)

theorem mem_keysQuoted (h : x ∈ keysQuoted l) : x ∈ quoteMarks ∨ x ∈ l := by
  rw [keysQuoted_eq] at h
  split at h
  · exact (respaced_withKeys l).brings x h
  · exact inr h

theorem hasQuote_trim (l : Line) : hasQuote (trim l) = hasQuote l := by
  have hmem : ∀ c, isBlank c = false → (trim l).contains c = l.contains c := by
    intro c hc
    rw [Bool.eq_iff_iff, contains_iff_mem, contains_iff_mem, ← count_pos_iff, ← count_pos_iff,
      show (trim l).count c = l.count c from Chars.count_trim hc l]
  rw [hasQuote, hasQuote, hmem '"' (by decide), hmem '\'' (by decide)]

theorem hasQuote_of_mem (h : '\'' ∈ l) : hasQuote l = true := by
  simp [hasQuote, h]

theorem quoteSingleKey_of_hasQuote (h : hasQuote part = true) : quoteSingleKey part = part := by
  rw [quoteSingleKey, hasQuote_trim, h, if_pos rfl]

/-- A key that is edited has quotes. -/
theorem hasQuote_quoteSingleKey (part : Line) : hasQuote (quoteSingleKey part) = true := by
  cases hquote : hasQuote part with
  | true => rw [quoteSingleKey_of_hasQuote hquote, hquote]
  | false =>
    rw [quoteSingleKey, hasQuote_trim, hquote, if_neg (by decide)]
    apply hasQuote_of_mem
    by_cases hkey : trim part = []
    · -- with an empty key, quotes are put everywhere
      rw [hkey, Chars.replace, if_pos (by rfl)]
      cases part <;> exact mem_cons_self
    · have hinfix : trim part <:+: part := by
        obtain ⟨b, hb, -⟩ := Chars.trimRight_append (Chars.trimLeft part)
        have hpre : trim part <+: Chars.trimLeft part := ⟨b, hb.symm⟩
        exact hpre.isInfix.trans (Chars.trimLeft_suffix part).isInfix
      obtain ⟨a, b, -, hreplace⟩ := Chars.replace_first hkey (quoted (trim part)) hinfix
      rw [hreplace]
      simp [quoted]

theorem join_concat (hne : parts ≠ []) (d part : Line) : Chars.join d (parts ++ [part]) = Chars.join d parts ++ d ++ part := by
  induction parts with
  | nil => exact absurd rfl hne
  | cons p ps ih =>
    cases ps with
    | nil => rfl
    | cons q qs => simpa [Chars.join] using ih (cons_ne_nil q qs)

theorem split_last {c : Char} (hpart : c ∉ part) (a : Line) : split [c] (a ++ c :: part) = split [c] a ++ [part] := by
  have hne := Chars.split_ne_nil (d := [c]) (by simp) a
  have hjoin : a ++ c :: part = Chars.join [c] (split [c] a ++ [part]) := by
    rw [join_concat hne, Chars.join_split (by simp), append_assoc]
    rfl
  rw [hjoin]
  refine Chars.split_join (by simp) (by simp) fun p hp hc => ?_
  rcases mem_append.mp hp with hp | hp
  · exact Chars.absent_of_mem_split (by simp) hp hc
  · rw [mem_singleton.mp hp, singleton_infix_iff] at hc
    exact hpart hc

theorem quoteSingleKey_idem (part : Line) : quoteSingleKey (quoteSingleKey part) = quoteSingleKey part :=
  quoteSingleKey_of_hasQuote (hasQuote_quoteSingleKey part)

theorem quoteLastKey_of_not_mem (h : ',' ∉ part) : quoteLastKey part =
    if hasQuote part then part else List.replicate (part.length - (trim part).length) ' ' ++ quoted (trim part) := by
  rw [quoteLastKey, if_neg (by simpa using h)]

/-- Of a part with commas, the piece behind the last one is quoted. -/
theorem quoteLastKey_append {key : Line} (hkey : ',' ∉ key) (a : Line) : quoteLastKey (a ++ ',' :: key) =
    if hasQuote key then a ++ ',' :: key
    else Chars.join ", ".toList (split [','] a) ++ ',' :: ([' '] ++ quoted (trim key)) := by
  have hne := Chars.split_ne_nil (d := [',']) (by simp) a
  rw [quoteLastKey, if_pos (by simp), split_last hkey]
  dsimp only
  rw [dropLast_concat, getLastD_concat, join_concat hne, append_assoc]
  rfl

theorem cut_at_last {c : Char} (h : c ∈ part) : ∃ a key, part = a ++ c :: key ∧ c ∉ key := by
  obtain ⟨x, y, hxy, hx⟩ := eq_append_cons_of_mem (mem_reverse.mpr h)
  rw [reverse_eq_iff, reverse_append, reverse_cons, append_assoc, singleton_append] at hxy
  exact ⟨_, _, hxy, by rwa [mem_reverse]⟩

theorem hasQuote_quoteLastKey (part : Line) : hasQuote (quoteLastKey part) = true := by
  by_cases hcomma : ',' ∈ part
  · obtain ⟨a, key, rfl, hkey⟩ := cut_at_last hcomma
    rw [quoteLastKey_append hkey]
    split
    · rename_i hquote
      simp only [hasQuote, Bool.or_eq_true, contains_iff_mem] at hquote ⊢
      exact hquote.imp (by simp +contextual) (by simp +contextual)
    · exact hasQuote_of_mem (by simp [quoted])
  · rw [quoteLastKey_of_not_mem hcomma]
    split
    · assumption
    · exact hasQuote_of_mem (by simp [quoted])

theorem quoteLastKey_idem (part : Line) : quoteLastKey (quoteLastKey part) = quoteLastKey part := by
  by_cases hcomma : ',' ∈ part
  · obtain ⟨a, key, rfl, hkey⟩ := cut_at_last hcomma
    rw [quoteLastKey_append hkey]
    split
    · rename_i hquote
      rw [quoteLastKey_append hkey, hquote, if_pos rfl]
    · have hnew : Respaced key ([' '] ++ quoted (trim key)) :=
        Respaced.append (a := []) (.mark (by decide)) (Respaced.of_trim (.refl _)).quoted
      rw [quoteLastKey_append (hnew.not_mem (by decide) hkey), hasQuote_of_mem (by simp [quoted]), if_pos rfl]
  · have hnew := (respaced_quoteLastKey part).not_mem (by decide) hcomma
    rw [quoteLastKey_of_not_mem hnew, hasQuote_quoteLastKey, if_pos rfl]

theorem hasQuote_keyEdit (parts : List Line) (part : Line) : hasQuote (keyEdit parts part) = true := by
  unfold keyEdit
  split
  · exact hasQuote_quoteSingleKey part
  · exact hasQuote_quoteLastKey part

theorem quoteParts_idem (hne : parts ≠ []) : quoteParts (quoteParts parts) = quoteParts parts := by
  have hedit : keyEdit (quoteParts parts) = keyEdit parts := by
    have hlength := length_pos_iff.mpr hne
    rw [keyEdit, keyEdit, quoteParts_eq, length_append, length_map, length_dropLast, length_singleton,
      Nat.sub_add_cancel hlength]
  rw [quoteParts_eq (quoteParts parts), hedit, quoteParts_eq parts, dropLast_concat, getLastD_concat, map_map]
  congr 1
  refine map_congr_left fun p _ => ?_
  rw [Function.comp, keyEdit]
  split
  · exact quoteSingleKey_idem p
  · exact quoteLastKey_idem p

theorem split_requoted (l : Line) : split [':'] (requoted l) = quoteParts (split [':'] l) := by
  have hparts : ∀ p ∈ split [':'] l, ':' ∉ p := fun p hp h =>
    Chars.absent_of_mem_split (by simp) hp ((singleton_infix_iff _ p).mpr h)
  refine Chars.split_join (by simp) (by simp [quoteParts_eq]) fun q hq hcolon => ?_
  rw [singleton_infix_iff] at hcolon
  rcases mem_append.mp hq with hq | hq
  · obtain ⟨p, hp, rfl⟩ := mem_map.mp hq
    exact (respaced_keyEdit _ p).not_mem (by decide) (hparts p (dropLast_subset _ hp)) hcolon
  · refine hparts q ?_ hcolon
    rw [split_eq_concat]
    exact mem_append_right _ hq

theorem requoted_idem (l : Line) : requoted (requoted l) = requoted l := by
  rw [requoted, split_requoted, quoteParts_idem (Chars.split_ne_nil (by simp) l), requoted]

/-- In a line that stays as it is, all keys have quotes. -/
theorem quoted_of_requoted (h : requoted l = l) (hpart : part ∈ (split [':'] l).dropLast) : hasQuote part = true := by
  have hsplit := split_requoted l
  rw [h, quoteParts_eq] at hsplit
  rw [hsplit, dropLast_concat] at hpart
  obtain ⟨p, -, rfl⟩ := mem_map.mp hpart
  exact hasQuote_keyEdit _ p

/-- A colon that comes first stays first. -/
theorem requoted_append {a : Line} (ha : ':' ∉ a) (b : Line) :
    ∃ a' w, requoted (a ++ ':' :: b) = a' ++ ':' :: w ∧ Respaced a a' := by
  obtain ⟨q, qs, hsplit⟩ := exists_cons_of_ne_nil (Chars.split_ne_nil (d := [':']) (by simp) b)
  rw [requoted, Chars.split_append ha, hsplit, quoteParts_eq, dropLast_cons_of_ne_nil (cons_ne_nil q qs), map_cons,
    cons_append, Chars.join_cons (by simp), append_assoc]
  exact ⟨_, _, rfl, respaced_keyEdit _ a⟩

theorem withKeys_of_colon {a : Line} (ha : ':' ∉ a ∧ '\x7b' ∉ a) (b : Line) :
    withKeys (a ++ ':' :: b) = requoted (a ++ ':' :: b) := by
  rw [withKeys, keyStart_eq_zero ha.1 ha.2, take_zero, drop_zero, nil_append]

theorem withKeys_of_brace {a y : Line} (ha : ':' ∉ a ∧ '\x7b' ∉ a) (hy : ':' ∉ y) (b : Line) :
    withKeys (a ++ '\x7b' :: (y ++ ':' :: b)) = a ++ '\x7b' :: requoted (y ++ ':' :: b) := by
  have hcut : a ++ '\x7b' :: (y ++ ':' :: b) = (a ++ ['\x7b']) ++ (y ++ ':' :: b) := by simp
  have hlength : a.length + 1 = (a ++ ['\x7b']).length := by simp
  rw [withKeys, keyStart_eq_succ ha.2 ⟨ha.1, hy⟩, hcut, hlength, take_left, drop_left, append_assoc, singleton_append]

theorem withKeys_idem (hcolon : ':' ∈ l) : withKeys (withKeys l) = withKeys l := by
  obtain ⟨a, b, rfl, ha⟩ := eq_append_cons_of_mem hcolon
  by_cases hbrace : '\x7b' ∈ a
  · obtain ⟨x, y, rfl, hx⟩ := eq_append_cons_of_mem hbrace
    rw [mem_append, mem_cons, not_or, not_or] at ha
    obtain ⟨y', w, hquoted, hy'⟩ := requoted_append ha.2.2 b
    have hsame := requoted_idem (y ++ ':' :: b)
    rw [append_assoc, cons_append, withKeys_of_brace ⟨ha.1, hx⟩ ha.2.2, hquoted,
      withKeys_of_brace ⟨ha.1, hx⟩ (hy'.not_mem (by decide) ha.2.2), ← hquoted, hsame]
  · obtain ⟨a', w, hquoted, ha'⟩ := requoted_append ha b
    have hsame := requoted_idem (a ++ ':' :: b)
    rw [withKeys_of_colon ⟨ha, hbrace⟩, hquoted,
      withKeys_of_colon ⟨ha'.not_mem (by decide) ha, ha'.not_mem (by decide) hbrace⟩, ← hquoted, hsame]

/-- **Quoting keys only adds quotes**: a line with a colon, or without a brace, is answered by a line of the same letters,
and that line is left as it is. -/
theorem quoting_adds_quotes (h : ':' ∈ l ∨ '\x7b' ∉ l) :
    ∃ l', quoteKeys [':'] l = .ok l' ∧ letters l' = letters l ∧ quoteKeys [':'] l' = .ok l' := by
  by_cases hcolon : ':' ∈ l
  · rw [quoteKeys_eq hcolon]
    cases hfor : starts (trim l) "for" with
    | true => exact ⟨l, rfl, rfl, by rw [quoteKeys_eq hcolon, hfor]; rfl⟩
    | false =>
      have hrespaced := respaced_withKeys l
      refine ⟨withKeys l, rfl, hrespaced.letters_eq, ?_⟩
      have hcolon' : ':' ∈ withKeys l := by
        rwa [← mem_letters_iff (by decide), hrespaced.letters_eq, mem_letters_iff (by decide)]
      rw [quoteKeys_eq hcolon', withKeys_idem hcolon, ite_self]
  · have hfind := Chars.find?_eq_none_iff.mpr hcolon
    have hnone : Chars.positions [':'] l = [] := head?_eq_none_iff.mp ((head?_positions _ _).trans hfind)
    have hsame : quoteKeys [':'] l = .ok l := by
      rw [quoteKeys, hnone, Chars.find?_eq_none_iff.mpr (h.resolve_left hcolon)]
      exact ite_self _
    exact ⟨l, hsame, rfl, hsame⟩

theorem quoting_adds_quotes_object : ':' ∈ "var v = \x7bmin: 0, max: 'a'".toList ∧
    ∃ l', quoteKeys [':'] "var v = \x7bmin: 0, max: 'a'".toList = .ok l' ∧
      letters l' = letters "var v = \x7bmin: 0, max: 'a'".toList ∧ quoteKeys [':'] l' = .ok l' :=
  ⟨by decide, quoting_adds_quotes (Or.inl (by decide))⟩

end RemoteSensing.Script
