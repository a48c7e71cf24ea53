import RemoteSensing.Proofs.Json.Quoted
import RemoteSensing.Proofs.Text.Lines

/-!
Line feeds inside JSON text.
-/

namespace RemoteSensing.Json

open List Chars Text

def lineBreak : List Char := ['\\', 'n']

def Bare (c : Char) : Prop := 0x20 ≤ c.toNat ∧ c.toNat ≤ 0x7E ∧ c ≠ '"' ∧ c ≠ '\\'

variable {ascii : Bool} {c : Char} {cs : List Char}

theorem jsonChar_bare (h : Bare c) : (jsonChar ascii c).toList = [c] := by
  obtain ⟨hlow, hhigh, hquote, hslash⟩ := h
  have hcontrol : ∀ d : Char, d.toNat < 0x20 → c ≠ d := fun d hd heq => by
    rw [heq] at hlow
    omega
  rw [jsonChar, if_neg hquote, if_neg hslash, if_neg (hcontrol _ (by decide)), if_neg (hcontrol _ (by decide)),
    if_neg (hcontrol _ (by decide)), if_neg (hcontrol _ (by decide)), if_neg (hcontrol _ (by decide)), if_neg (by omega),
    if_neg (by simp; omega), String.toList_singleton]

def Calm (c : Char) : Prop := c ≠ '\\' ∧ c ≠ 'n' ∧ c ≠ '\n' ∧ c ≠ '\r'

theorem calm_of_mem_hexPadded {n : ℕ} (h : n < 0x10000) {d : Char} (hd : d ∈ (Text.hexPadded 4 n).toList) : Calm d := by
  have hall : ∀ k < 16, Calm (Nat.digitChar k) := by
    unfold Calm
    decide
  rw [hexPadded_four h] at hd
  simp only [mem_cons, not_mem_nil, or_false] at hd
  rcases hd with rfl | rfl | rfl | rfl
  · exact hall _ (by omega)
  · exact hall _ (by omega)
  · exact hall _ (by omega)
  · exact hall _ (by omega)

theorem pair_infix_append {x y : Char} {u v : List Char} (h : [x, y] <:+: u ++ v) :
    [x, y] <:+: u ∨ [x, y] <:+: v ∨ (u.getLast? = some x ∧ v.head? = some y) := by
  induction u with
  | nil => exact .inr (.inl h)
  | cons a u ih =>
    rw [cons_append, infix_cons_iff] at h
    rcases h with hpre | hrest
    · obtain ⟨rfl, hsecond⟩ := cons_prefix_cons.mp hpre
      cases u with
      | nil =>
        -- the first character ends the one text, so the second one starts the other
        obtain ⟨r, hr⟩ := hsecond
        rw [nil_append] at hr
        exact .inr (.inr ⟨rfl, by rw [← hr]; rfl⟩)
      | cons b u =>
        obtain ⟨rfl, -⟩ := cons_prefix_cons.mp hsecond
        exact .inl ⟨[], u, rfl⟩
    · rcases ih hrest with hu | hv | ⟨hlast, hhead⟩
      · exact .inl (infix_cons hu)
      · exact .inr (.inl hv)
      · refine .inr (.inr ⟨?_, hhead⟩)
        cases u with
        | nil => cases hlast
        | cons b u => rwa [getLast?_cons_cons]

namespace Spelled

variable {u : List Char} (h : Spelled c u)
include h

theorem ne_nil : u ≠ [] := by
  cases h <;> exact cons_ne_nil _ _

theorem in_line {x : Char} (hx : x ∈ u) : x ≠ '\n' ∧ x ≠ '\r' := by
  have hunit : ∀ n < 0x10000, x ∈ '\\' :: 'u' :: (Text.hexPadded 4 n).toList → x ≠ '\n' ∧ x ≠ '\r' := by
    intro n hn hx
    simp only [mem_cons] at hx
    rcases hx with rfl | rfl | hx
    · decide
    · decide
    · exact (calm_of_mem_hexPadded hn hx).2.2
  cases h with
  | same _ _ hprint =>
    rw [mem_singleton.mp hx]
    refine ⟨?_, ?_⟩ <;> rintro rfl <;> exact hprint (by decide)
  | escape he =>
    have hall : ∀ p ∈ escapes, p.1 ≠ '\n' ∧ p.1 ≠ '\r' := by decide
    rcases mem_cons.mp hx with rfl | hx
    · decide
    · rw [mem_singleton.mp hx]
      exact hall _ he
  | unit hc => exact hunit _ hc hx
  | pair hc =>
    have hlt := toNat_lt_unicode c
    exact (mem_append.mp hx).elim (hunit _ (by omega)) (hunit _ (by omega))

theorem head_eq (hn : u.head? = some 'n') : c = 'n' := by
  cases h with
  | same => exact Option.some.inj hn
  | escape => cases hn
  | unit => cases hn
  | pair => cases hn

end Spelled

theorem not_infix_unit {n : ℕ} (hn : n < 0x10000) : ¬ lineBreak <:+: '\\' :: 'u' :: (Text.hexPadded 4 n).toList := by
  intro h
  rw [lineBreak, infix_cons_iff, infix_cons_iff] at h
  rcases h with h | h | h
  · simp at h
  · simp at h
  · exact (calm_of_mem_hexPadded hn (h.subset (by simp : 'n' ∈ _))).2.1 rfl

theorem getLast?_unit {n : ℕ} (hn : n < 0x10000) : ('\\' :: 'u' :: (Text.hexPadded 4 n).toList).getLast? ≠ some '\\' := by
  intro h
  rw [hexPadded_four hn] at h
  exact (calm_of_mem_hexPadded hn (by rw [hexPadded_four hn]; exact mem_of_getLast? h)).1 rfl

namespace Spelled

variable {u : List Char} (h : Spelled c u)
include h

theorem last_eq (hlast : u.getLast? = some '\\') : c = '\\' := by
  cases h with
  | same => exact Option.some.inj hlast
  | escape he =>
    have hall : ∀ p ∈ escapes, p.1 = '\\' → p.2 = '\\' := by decide
    exact hall _ he (Option.some.inj hlast)
  | unit hc => exact absurd hlast (getLast?_unit hc)
  | pair hc =>
    rw [getLast?_append_of_ne_nil _ (by simp)] at hlast
    exact absurd hlast (getLast?_unit (by omega))

theorem feed_of_break (hbreak : lineBreak <:+: u) : c = '\n' := by
  cases h with
  | same => simp [lineBreak, infix_cons_iff] at hbreak
  | escape he =>
    have hall : ∀ p ∈ escapes, p.1 = 'n' → p.2 = '\n' := by decide
    simp [lineBreak, infix_cons_iff] at hbreak
    exact hall _ he hbreak.symm
  | unit hc => exact absurd hbreak (not_infix_unit hc)
  | pair hc =>
    have hlt := toNat_lt_unicode c
    rcases pair_infix_append hbreak with hleft | hright | ⟨-, hhead⟩
    · exact absurd hleft (not_infix_unit (by omega))
    · exact absurd hright (not_infix_unit (by omega))
    · cases hhead

end Spelled

/-- **A break comes from a line feed,** or from a backslash and the letter behind it. -/
theorem absent_encoded (ascii : Bool) (hfeed : '\n' ∉ cs) (hpair : ¬ lineBreak <:+: cs) :
    ¬ lineBreak <:+: encoded ascii cs := by
  induction cs with
  | nil => simp [lineBreak, encoded]
  | cons c cs ih =>
    rw [mem_cons, not_or] at hfeed
    rw [infix_cons_iff, not_or] at hpair
    intro hbreak
    rw [encoded_cons] at hbreak
    have hc := spelled_jsonChar ascii c
    rcases pair_infix_append hbreak with hleft | hright | ⟨hlast, hhead⟩
    · exact hfeed.1 (hc.feed_of_break hleft).symm
    · exact ih hfeed.2 hpair.2 hright
    · obtain rfl := hc.last_eq hlast
      cases cs with
      | nil => cases hhead
      | cons d cs =>
        have hd := spelled_jsonChar ascii d
        rw [encoded_cons, head?_append_of_ne_nil _ hd.ne_nil] at hhead
        obtain rfl := hd.head_eq hhead
        exact hpair.1 ⟨cs, rfl⟩

theorem encoded_source (ascii : Bool) (hcs : ∀ c ∈ cs, c = '\n' ∨ Bare c) :
    encoded ascii cs = join lineBreak (split ['\n'] cs) := by
  induction cs with
  | nil => rfl
  | cons c cs ih =>
    have hrest := ih fun d hd => hcs d (mem_cons_of_mem c hd)
    have hne := split_ne_nil (d := ['\n']) (by simp) cs
    rw [encoded_cons, hrest]
    by_cases hc : c = '\n'
    · have hfound : split ['\n'] (c :: cs) = [] :: split ['\n'] cs := by
        rw [hc]
        exact split_found (by simp) cs
      have hfeed : (jsonChar ascii c).toList = lineBreak := by
        rw [hc]
        cases ascii <;> decide
      rw [hfound, hfeed, join_cons hne, nil_append]
    · have hplain := (hcs c mem_cons_self).resolve_left hc
      obtain ⟨l, ls, hl⟩ := exists_cons_of_ne_nil hne
      rw [split_pass (by simpa using Ne.symm hc), hl, modifyHead_cons, jsonChar_bare hplain]
      exact (join_modifyHead [c] l ls).symm

theorem split_encoded_source (ascii : Bool) (hcs : ∀ c ∈ cs, c = '\n' ∨ Bare c) :
    split lineBreak (encoded ascii cs) = split ['\n'] cs := by
  rw [encoded_source ascii hcs]
  refine split_join (by decide) (split_ne_nil (by simp) cs) fun q hq hbreak => ?_
  have hslash : '\\' ∈ cs := mem_of_mem_split (by simp) hq (hbreak.subset (by simp))
  rcases hcs _ hslash with h | h
  · revert h
    decide
  · exact h.2.2.2 rfl

end RemoteSensing.Json
