import Mathlib
import RemoteSensing.Json

/-!
Quoted text is read back as it was written.
-/

namespace RemoteSensing.Json

open List RemoteSensing.Text Nat

variable {c d : Char}

theorem digitChar_ne_sign {d : ℕ} (h : d < 16) : digitChar d ≠ '-' ∧ digitChar d ≠ '+' := by
  have hall : ∀ d < 16, digitChar d ≠ '-' ∧ digitChar d ≠ '+' := by decide
  exact hall d h

section Padding

variable {b : ℕ} (hone : 1 < b) (hb : b ≤ 16)

include hone hb

theorem ne_sign_of_mem_toDigits {n : ℕ} (h : c ∈ toDigits b n) : c ≠ '-' ∧ c ≠ '+' := by
  induction n using Nat.strong_induction_on with
  | _ n ih =>
    rw [toDigits_eq_if hone] at h
    split at h
    · rw [mem_singleton.mp h]
      exact digitChar_ne_sign (by omega)
    · rcases mem_append.mp h with h | h
      · exact ih (n / b) (Nat.div_lt_self (by omega) hone) h
      · rw [mem_singleton.mp h]
        exact digitChar_ne_sign ((mod_lt n (by omega)).trans_le hb)

theorem toList_zeroFill_toDigits (n width : ℕ) : (zeroFill (String.ofList (toDigits b n)) width).toList =
    List.replicate (width - (toDigits b n).length) '0' ++ toDigits b n := by
  have hsign : ∀ c ∈ toDigits b n, c ≠ '-' ∧ c ≠ '+' := fun c hc => ne_sign_of_mem_toDigits hone hb hc
  rw [zeroFill, String.toList_ofList, String.length_ofList]
  split
  · rename_i h
    exact absurd rfl (hsign '-' (h ▸ mem_cons_self)).1
  · rename_i h
    exact absurd rfl (hsign '+' (h ▸ mem_cons_self)).2
  · rw [String.toList_append, String.toList_ofList, String.toList_ofList]

end Padding

theorem hexPadded_four {n : ℕ} (h : n < 0x10000) : (hexPadded 4 n).toList =
    [Nat.digitChar (n / 4096), Nat.digitChar (n / 256 % 16), Nat.digitChar (n / 16 % 16), Nat.digitChar (n % 16)] := by
  have hstep (m : ℕ) : Nat.toDigits 16 m =
      if m < 16 then [Nat.digitChar m] else Nat.toDigits 16 (m / 16) ++ [Nat.digitChar (m % 16)] :=
        Nat.toDigits_eq_if (by decide)
  have hhundreds : n / 16 / 16 = n / 256 := Nat.div_div_eq_div_mul n 16 16
  have hthousands : n / 256 / 16 = n / 4096 := Nat.div_div_eq_div_mul n 256 16
  rw [hexPadded, hexDigits, toList_zeroFill_toDigits (by decide) le_rfl, hstep n]
  -- one case for each number of digits
  by_cases h1 : n < 16
  · rw [if_pos h1, show n / 4096 = 0 by omega, show n / 256 % 16 = 0 by omega, show n / 16 % 16 = 0 by omega,
      Nat.mod_eq_of_lt h1]
    rfl
  rw [if_neg h1, hstep (n / 16), hhundreds]
  by_cases h2 : n / 16 < 16
  · rw [if_pos h2, show n / 4096 = 0 by omega, show n / 256 % 16 = 0 by omega, Nat.mod_eq_of_lt h2]
    rfl
  rw [if_neg h2, hstep (n / 256), hthousands]
  by_cases h3 : n / 256 < 16
  · rw [if_pos h3, show n / 4096 = 0 by omega, Nat.mod_eq_of_lt h3]
    rfl
  have h4 : n / 4096 < 16 := by omega
  rw [if_neg h3, hstep (n / 4096), if_pos h4]
  rfl

theorem hex_digitChar {d : ℕ} (h : d < 16) : hex? (digitChar d) = some d := by
  have hall : ∀ d < 16, hex? (digitChar d) = some d := by decide +kernel
  exact hall d h

theorem hexPadded_read {n : ℕ} (h : n < 0x10000) :
    ∃ a b c d, (hexPadded 4 n).toList = [a, b, c, d] ∧ hex4? a b c d = some n := by
  refine ⟨_, _, _, _, hexPadded_four h, ?_⟩
  rw [hex4?, hex_digitChar (by omega), hex_digitChar (mod_lt _ (by decide)), hex_digitChar (mod_lt _ (by decide)),
    hex_digitChar (mod_lt _ (by decide))]
  have hsum : ((n / 4096 * 16 + n / 256 % 16) * 16 + n / 16 % 16) * 16 + n % 16 = n := by omega
  exact congrArg some hsum

theorem toNat_not_surrogate (c : Char) : ¬ (0xD800 ≤ c.toNat ∧ c.toNat < 0xE000) := by
  have hvalid := c.valid
  rintro ⟨hlow, hhigh⟩
  rcases hvalid with h | ⟨h, -⟩
  · exact absurd hlow (not_le.mpr h)
  · exact absurd hhigh (not_lt.mpr h)

theorem toNat_lt_unicode (c : Char) : c.toNat < 0x110000 := by
  have hvalid := c.valid
  rcases hvalid with h | ⟨-, h⟩
  · exact lt_trans h (by decide)
  · exact h

theorem unitChar_toNat (c : Char) : unitChar c.toNat = c := by
  have hnot := toNat_not_surrogate c
  rw [unitChar, if_neg (by simpa using hnot), Char.ofNat_toNat]

def escapes : List (Char × Char) :=
  [('"', '"'), ('\\', '\\'), ('n', '\n'), ('r', '\r'), ('t', '\t'), ('b', '\x08'), ('f', '\x0c')]

/-- How a character can be written: as it is, or behind a backslash with a letter or with hexadecimal digits. -/
inductive Spelled (c : Char) : List Char → Prop
  | same (hquote : c ≠ '"') (hslash : c ≠ '\\') (hprint : ¬ c.toNat < 0x20) : Spelled c [c]
  | escape {e : Char} (he : (e, c) ∈ escapes) : Spelled c ['\\', e]
  | unit (hc : c.toNat < 0x10000) : Spelled c ('\\' :: 'u' :: (hexPadded 4 c.toNat).toList)
  | pair (hc : 0x10000 ≤ c.toNat) : Spelled c
    ('\\' :: 'u' :: (hexPadded 4 (0xD800 + (c.toNat - 0x10000) / 0x400)).toList ++
      '\\' :: 'u' :: (hexPadded 4 (0xDC00 + (c.toNat - 0x10000) % 0x400)).toList)

theorem spelled_jsonChar (ascii : Bool) (c : Char) : Spelled c (jsonChar ascii c).toList := by
  have hcase {p : Prop} [Decidable p] {s t : String} : (p → Spelled c s.toList) → (¬ p → Spelled c t.toList) →
      Spelled c (if p then s else t).toList := iteInduction (motive := fun u : String => Spelled c u.toList)
  have hescape {e d : Char} (he : (e, d) ∈ escapes) : c = d → Spelled c ['\\', e] := by
    rintro rfl
    exact .escape he
  refine hcase (hescape (by decide)) fun hquote => hcase (hescape (by decide)) fun hslash => ?_
  refine hcase (hescape (by decide)) fun _ => hcase (hescape (by decide)) fun _ => hcase (hescape (by decide)) fun _ => ?_
  refine hcase (hescape (by decide)) fun _ => hcase (hescape (by decide)) fun _ => ?_
  refine hcase (fun hcontrol => ?_) fun hcontrol => hcase (fun _ => hcase (fun hplane => ?_) fun hplane => ?_) fun _ => ?_
  · rw [String.toList_append]
    exact .unit (by omega)
  · rw [String.toList_append]
    exact .unit hplane
  · rw [surrogates, String.append_assoc, String.toList_append, String.toList_append, String.toList_append]
    exact .pair (by omega)
  · rw [String.toList_singleton]
    exact .same hquote hslash hcontrol

/-- What is read, wherever the reader stands afterwards. -/
def Reads {α : Type} (found : Except Problem (Found α)) (a : α) (rest : List Char) : Prop := ∃ pos, found = .ok (a, pos, rest)

section Scan

variable (start : ℕ) (acc : List Char) (pos : ℕ) {n m : ℕ}

theorem scanText_unit {a b : Char} (hread : hex4? a b c d = some n) (hn : ¬ (0xD800 ≤ n ∧ n < 0xE000)) (x : Char)
    (r : List Char) : scanText start acc pos ('\\' :: 'u' :: a :: b :: c :: d :: x :: r) =
      scanText start (unitChar n :: acc) (pos + 6) (x :: r) := by
  by_cases hnext : ∃ e f g h y r', x = '\\' ∧ r = 'u' :: e :: f :: g :: h :: y :: r'
  · -- another escape follows, which may be a lower half but finds no upper half before it
    obtain ⟨e, f, g, h, y, r', rfl, rfl⟩ := hnext
    rw [scanText.eq_3, hread]
    simp only
    split
    · rw [if_neg (by simp only [Bool.and_eq_true, decide_eq_true_eq]; omega)]
    · rfl
  · rw [scanText.eq_4 start acc pos a b c d x r fun e f g h y r' hx hr => hnext ⟨e, f, g, h, y, r', hx, hr⟩, hread]

theorem scanText_pair {a b e f g h : Char} (hhigh : hex4? a b c d = some n) (hlow : hex4? e f g h = some m)
    (hn : 0xD800 ≤ n ∧ n < 0xDC00) (hm : 0xDC00 ≤ m ∧ m < 0xE000) (x : Char) (r : List Char) :
    scanText start acc pos ('\\' :: 'u' :: a :: b :: c :: d :: '\\' :: 'u' :: e :: f :: g :: h :: x :: r) =
      scanText start (pairChar n m :: acc) (pos + 12) (x :: r) := by
  rw [scanText.eq_3, hhigh]
  simp only [hlow]
  rw [if_pos (by simp only [Bool.and_eq_true, decide_eq_true_eq]; omega)]

theorem scanText_escape {e : Char} (he : escape? c = some e) (r : List Char) :
    scanText start acc pos ('\\' :: c :: r) = scanText start (e :: acc) (pos + 2) r := by
  have hc : c ≠ 'u' := by
    rintro rfl
    cases he
  rw [scanText.eq_7 _ _ _ _ _ (fun _ _ _ _ _ _ _ _ _ _ h => absurd h hc) (fun _ _ _ _ _ _ h => absurd h hc) hc, he]

theorem scanText_plain {c : Char} (hquote : c ≠ '"') (hslash : c ≠ '\\') (hprint : ¬ c.toNat < 0x20) (r : List Char) :
    scanText start acc pos (c :: r) = scanText start (c :: acc) (pos + 1) r := by
  rw [scanText.eq_8 _ _ _ _ _ hquote (fun _ _ _ _ _ _ _ _ _ _ h => absurd h hslash) (fun _ _ _ _ _ _ h => absurd h hslash)
    (fun _ h => absurd h hslash) (fun h => absurd h hslash) (fun _ _ h => absurd h hslash), if_neg hprint]

theorem pairChar_surrogates (h : 0x10000 ≤ c.toNat) :
    pairChar (0xD800 + (c.toNat - 0x10000) / 0x400) (0xDC00 + (c.toNat - 0x10000) % 0x400) = c := by
  have hsum : 0x10000 + (0xD800 + (c.toNat - 0x10000) / 0x400 - 0xD800) * 0x400 +
      (0xDC00 + (c.toNat - 0x10000) % 0x400 - 0xDC00) = c.toNat := by omega
  rw [pairChar, hsum, Char.ofNat_toNat]

/-- **What is written for a character is read as that character.** A text always goes on, at least with its closing quote. -/
theorem scanText_jsonChar (c x : Char) (r : List Char) : ∃ p,
    scanText start acc pos ((jsonChar true c).toList ++ x :: r) = scanText start (c :: acc) p (x :: r) := by
  have hspelled := spelled_jsonChar true c
  generalize (jsonChar true c).toList = u at hspelled
  cases hspelled with
  | same hquote hslash hprint => exact ⟨_, scanText_plain start acc pos hquote hslash hprint (x :: r)⟩
  | escape he =>
    have hread : ∀ p ∈ escapes, escape? p.1 = some p.2 := by decide
    exact ⟨_, scanText_escape start acc pos (hread _ he) (x :: r)⟩
  | unit hc =>
    obtain ⟨a, b, c', d, hlist, hread⟩ := hexPadded_read hc
    have hscan := scanText_unit start acc pos hread (toNat_not_surrogate c) x r
    rw [unitChar_toNat] at hscan
    rw [hlist]
    exact ⟨_, hscan⟩
  | pair hc =>
    have hlt := toNat_lt_unicode c
    obtain ⟨a, b, c', d, hhigh, hreadHigh⟩ := hexPadded_read (n := 0xD800 + (c.toNat - 0x10000) / 0x400) (by omega)
    obtain ⟨e, f, g, h, hlow, hreadLow⟩ := hexPadded_read (n := 0xDC00 + (c.toNat - 0x10000) % 0x400) (by omega)
    have hscan := scanText_pair start acc pos hreadHigh hreadLow (by omega) (by omega) x r
    rw [pairChar_surrogates hc] at hscan
    rw [hhigh, hlow]
    exact ⟨_, hscan⟩

end Scan

def encoded (ascii : Bool) (cs : List Char) : List Char := cs.flatMap fun c => (jsonChar ascii c).toList

theorem toList_jsonQuoted (ascii : Bool) (s : String) :
    (jsonQuoted ascii s).toList = '"' :: (encoded ascii s.toList ++ ['"']) := by
  rw [jsonQuoted, String.toList_append, String.toList_append, String.toList_join, flatMap_map]
  rfl

@[simp] theorem encoded_cons {ascii : Bool} {cs : List Char} :
    encoded ascii (c :: cs) = (jsonChar ascii c).toList ++ encoded ascii cs := flatMap_cons

/-- **Quoted text is read back.** -/
theorem scanText_jsonQuoted (start pos : ℕ) (s : String) (r : List Char) :
    Reads (scanText start [] pos ((jsonQuoted true s).toList.tail ++ r)) s r := by
  -- the characters before the closing quote, after those that were read already
  have hbody : ∀ (cs acc : List Char) (pos : ℕ), Reads (scanText start acc pos
      (encoded true cs ++ '"' :: r)) (String.ofList (acc.reverse ++ cs)) r := by
    intro cs
    induction cs with
    | nil =>
      intro acc pos
      rw [encoded, flatMap_nil, nil_append, scanText.eq_2, append_nil]
      exact ⟨_, rfl⟩
    | cons c cs ih =>
      intro acc pos
      obtain ⟨x, r', hnext⟩ : ∃ x r', encoded true cs ++ '"' :: r = x :: r' :=
        exists_cons_of_ne_nil (by simp)
      obtain ⟨p, hchar⟩ := scanText_jsonChar start acc pos c x r'
      have hrest := ih (c :: acc) p
      rw [reverse_cons, append_assoc, singleton_append] at hrest
      rwa [encoded_cons, append_assoc, hnext, hchar, ← hnext]
  have hread := hbody s.toList [] pos
  rw [reverse_nil, nil_append, String.ofList_toList] at hread
  rwa [toList_jsonQuoted, tail_cons, append_assoc, singleton_append]

end RemoteSensing.Json
