import RemoteSensing.Proofs.Decimal.Shortest
import RemoteSensing.Proofs.Json.Quoted

/-!
Numbers are read back as they were written.
-/

namespace RemoteSensing.Json

open List Option Nat Decimal
open String (toList_append ofList toList_ofList)

variable {c : Char} {r rest : List Char}

/-- What follows a value that is written inside another: nothing, a comma or a closing bracket. -/
def Ends (rest : List Char) : Prop := ∀ c ∈ rest.head?, c = ',' ∨ c = ']' ∨ c = '\x7d'

theorem digitsValue_eq (cs : List Char) : digitsValue cs = ofDigitChars 10 cs 0 := by
  have hstep : (fun n (c : Char) => n * 10 + (c.toNat - '0'.toNat)) = fun n c => 10 * n + (c.toNat - '0'.toNat) := by
    funext n c
    rw [mul_comm]
  rw [digitsValue, hstep]
  rfl

theorem digitsValue_append (cs ds : List Char) : digitsValue (cs ++ ds) = digitsValue cs * 10 ^ ds.length + digitsValue ds := by
  rw [digitsValue_eq, digitsValue_eq, digitsValue_eq, ofDigitChars_append, ofDigitChars_eq_ofDigitChars_zero,
    mul_comm]

theorem digitsValue_zeros (n : ℕ) : digitsValue (replicate n '0') = 0 := by
  rw [digitsValue_eq, ofDigitChars_replicate_zero, mul_zero]

theorem digitsValue_toDigits (n : ℕ) : digitsValue (toDigits 10 n) = n := by
  rw [digitsValue_eq, ofDigitChars_ten_toDigits]

theorem isDigit_toDigits {n : ℕ} (h : c ∈ toDigits 10 n) : c.isDigit = true :=
  isDigit_of_mem_toDigits (by decide) (by decide) h

theorem isDigit_zeros {n : ℕ} (h : c ∈ replicate n '0') : c.isDigit = true := by
  rw [(mem_replicate.mp h).2]
  rfl

theorem isDigit_of_mem_filled {k n : ℕ} (h : c ∈ replicate k '0' ++ toDigits 10 n) : c.isDigit = true :=
  (mem_append.mp h).elim isDigit_zeros isDigit_toDigits

theorem digitsValue_filled (k n : ℕ) : digitsValue (replicate k '0' ++ toDigits 10 n) = n := by
  rw [digitsValue_append, digitsValue_zeros, digitsValue_toDigits, zero_mul, zero_add]

theorem toDigits_leading (n : ℕ) : Nat.toDigits 10 n = ['0'] ∨ ∃ c r, Nat.toDigits 10 n = c :: r ∧ c ≠ '0' := by
  induction n using Nat.strong_induction_on with
  | _ n ih =>
    rw [Nat.toDigits_eq_if (by decide)]
    by_cases hlt : n < 10
    · rw [if_pos hlt]
      by_cases hzero : Nat.digitChar n = '0'
      · left
        rw [hzero]
      · right
        exact ⟨_, [], rfl, hzero⟩
    · rw [if_neg hlt]
      right
      rcases ih (n / 10) (by omega) with hzero | ⟨c, r, hcons, hne⟩
      · -- the number without its last digit is not zero
        have hvalue := digitsValue_toDigits (n / 10)
        rw [hzero] at hvalue
        have hzero : n / 10 = 0 := hvalue.symm
        omega
      · rw [hcons]
        exact ⟨c, r ++ [_], rfl, hne⟩

theorem spanDigits_append {ds : List Char} (hds : ∀ c ∈ ds, c.isDigit = true) (hr : ∀ c ∈ r.head?, c.isDigit = false) :
    spanDigits (ds ++ r) = (ds, r) := by
  have hstop : r.takeWhile Char.isDigit = [] ∧ r.dropWhile Char.isDigit = r := by
    cases r with
    | nil => exact ⟨rfl, rfl⟩
    | cons c r =>
      have hc := hr c rfl
      simp [hc]
  rw [spanDigits, takeWhile_append_of_pos hds, dropWhile_append_of_pos hds, hstop.1, hstop.2, append_nil]

/-- An unsigned number as it is written: digits without a superfluous zero, a fraction that may be missing, and an exponent
mark that may be missing, with whether it is negative. -/
structure Numeral where
  whole : List Char
  fraction : List Char
  mark : Option (Bool × List Char)
  whole_digits : ∀ c ∈ whole, c.isDigit = true
  leading : whole = ['0'] ∨ ∃ c r, whole = c :: r ∧ c ≠ '0'
  fraction_digits : ∀ c ∈ fraction, c.isDigit = true
  mark_digits : ∀ m ∈ mark, m.2 ≠ [] ∧ ∀ c ∈ m.2, c.isDigit = true

namespace Numeral

variable (n : Numeral)

def fractionChars : List Char := if n.fraction.isEmpty then [] else '.' :: n.fraction

def markChars : List Char := match n.mark with
  | none => []
  | some (negative, ds) => 'e' :: (if negative then '-' else '+') :: ds

def chars : List Char := n.whole ++ (n.fractionChars ++ n.markChars)

def exponent : ℤ := match n.mark with
  | none => 0
  | some (negative, ds) => if negative then -(digitsValue ds : ℤ) else digitsValue ds

def digits : Digits := ⟨digitsValue (n.whole ++ n.fraction), n.exponent - n.fraction.length⟩

def isWhole : Bool := n.fraction.isEmpty && n.mark.isNone

def data (negative : Bool) : Data :=
  if n.isWhole then .int (if negative then -(digitsValue n.whole : ℤ) else digitsValue n.whole)
  else
    let x := toFloat n.digits.digits n.digits.exponent
    .real (if negative then -x else x)

variable {rest : List Char}

theorem head_markChars (hrest : Ends rest) :
    ∀ c ∈ (n.markChars ++ rest).head?, c.isDigit = false ∧ c ≠ '.' := by
  intro c hc
  unfold markChars at hc
  split at hc
  · rcases hrest c hc with rfl | rfl | rfl <;> decide
  · cases hc
    decide

theorem head_fractionChars (hrest : Ends rest) :
    ∀ c ∈ (n.fractionChars ++ (n.markChars ++ rest)).head?, c.isDigit = false := by
  intro c hc
  unfold fractionChars at hc
  split at hc
  · exact (n.head_markChars hrest c hc).1
  · cases hc
    decide

theorem spanFraction_eq (hrest : Ends rest) :
    spanFraction (n.fractionChars ++ (n.markChars ++ rest)) = (n.fraction, n.markChars ++ rest) := by
  have hhead := n.head_markChars hrest
  unfold fractionChars
  split
  · rename_i hempty
    rw [isEmpty_iff.mp hempty, nil_append]
    -- what follows does not start with a point
    cases hafter : n.markChars ++ rest with
    | nil => rfl
    | cons c r =>
      rw [hafter] at hhead
      rw [spanFraction.eq_2 _ fun r' h => (hhead c rfl).2 (cons.inj h).1]
  · rename_i hne
    rw [cons_append, spanFraction, spanDigits_append n.fraction_digits fun c hc => (hhead c hc).1]
    split
    · rename_i heq
      rw [(Prod.mk.inj heq).1] at hne
      exact absurd rfl hne
    · rename_i heq
      obtain ⟨rfl, rfl⟩ := Prod.mk.inj heq
      rfl

theorem spanExponent_eq (hrest : Ends rest) : spanExponent (n.markChars ++ rest) =
    n.mark.map fun _ => (n.markChars.length, n.exponent, rest) := by
  have hdigit : ∀ c ∈ rest.head?, c.isDigit = false := by
    intro c hc
    rcases hrest c hc with rfl | rfl | rfl <;> decide
  cases hmark : n.mark with
  | none =>
    have hchars : n.markChars = [] := by rw [markChars, hmark]
    rw [hchars, nil_append, spanExponent]
    cases rest with
    | nil => rfl
    | cons c r => rcases hrest c rfl with rfl | rfl | rfl <;> rfl
  | some m =>
    obtain ⟨negative, ds⟩ := m
    obtain ⟨hne, hds⟩ := n.mark_digits _ hmark
    have hspan := spanDigits_append hds hdigit
    obtain ⟨d, ds', rfl⟩ := exists_cons_of_ne_nil hne
    have hlength : 2 + (d :: ds').length = ds'.length + 1 + 1 + 1 := by
      rw [length_cons]
      omega
    have hchars : n.markChars = 'e' :: (if negative then '-' else '+') :: d :: ds' := by rw [markChars, hmark]
    have hexponent : n.exponent = if negative then -(digitsValue (d :: ds') : ℤ) else digitsValue (d :: ds') := by
      rw [exponent, hmark]
    have hdrop (sign : Char) : ('e' :: sign :: d :: ds' ++ rest).drop 1 = sign :: (d :: ds' ++ rest) := rfl
    rw [hchars, hexponent, spanExponent, if_neg (by simp), hdrop]
    cases negative with
    | true =>
      simp only [if_true, hspan, hlength]
      rfl
    | false =>
      simp only [Bool.false_eq_true, if_false, hspan, hlength]
      rfl

theorem exists_digit : ∃ c r, n.whole = c :: r ∧ c.isDigit = true := by
  have hdigits := n.whole_digits
  rcases n.leading with h | ⟨c, r, h, -⟩
  · exact ⟨'0', [], h, rfl⟩
  · exact ⟨c, r, h, hdigits c (by rw [h]; exact mem_cons_self)⟩

theorem scanNumber_whole (hr : ∀ c ∈ r.head?, c.isDigit = false) :
    (match n.whole ++ r with
      | '0' :: r => some (['0'], r)
      | c :: r => if c.isDigit then some (spanDigits (c :: r)) else none
      | [] => none) = some (n.whole, r) := by
  rcases n.leading with h | ⟨c, cs, h, hne⟩
  · rw [h]
    rfl
  · have hdigits := n.whole_digits
    rw [h] at hdigits ⊢
    have hspan := spanDigits_append hdigits hr
    rw [cons_append] at hspan ⊢
    split
    · rename_i heq
      exact absurd (cons.inj heq).1 hne
    · rename_i heq
      obtain ⟨rfl, rfl⟩ := cons.inj heq
      rw [if_pos (hdigits c mem_cons_self), hspan]
    · rename_i heq
      cases heq

/-- **A numeral is read as what it stands for.** -/
theorem scanNumber_chars (hrest : Ends rest) (negative : Bool) (start pos : ℕ) :
    Reads (scanNumber negative start pos (n.chars ++ rest)) (n.data negative) rest := by
  have hwhole := n.scanNumber_whole (n.head_fractionChars hrest)
  have hsplit : n.chars ++ rest = n.whole ++ (n.fractionChars ++ (n.markChars ++ rest)) := by
    rw [chars, append_assoc, append_assoc]
  unfold scanNumber
  rw [hsplit]
  simp only
  split
  · rename_i heq
    cases heq.symm.trans hwhole
  · rename_i ds r heq
    obtain ⟨rfl, rfl⟩ := Prod.mk.inj (Option.some.inj (heq.symm.trans hwhole))
    simp only [n.spanFraction_eq hrest, n.spanExponent_eq hrest]
    rw [data, isWhole, digits]
    cases hmark : n.mark with
    | some m =>
      simp only [map_some, isNone_some, Bool.and_false, Bool.false_eq_true, if_false]
      exact ⟨_, rfl⟩
    | none =>
      have hexponent : n.exponent = 0 := by rw [exponent, hmark]
      have hchars : n.markChars = [] := by rw [markChars, hmark]
      simp only [map_none, isNone_none, Bool.and_true, hexponent, hchars, zero_sub, nil_append]
      split <;> exact ⟨_, rfl⟩

end Numeral

theorem after_eq_none {word : String} {cs : List Char} (h : ¬ word.toList <+: cs) : after? word cs = none := by
  rw [after?, if_neg (by rw [ isPrefixOf_iff_prefix]; exact h)]

theorem scanAtom_of_no_word (pos : ℕ)
    (h : ∀ word ∈ ["null", "true", "false", "NaN", "Infinity", "-Infinity"], ¬ word.toList <+: c :: r) :
    scanAtom pos (c :: r) = if c = '-' then scanNumber true pos (pos + 1) r else scanNumber false pos pos (c :: r) := by
  have hnone (word : String) (hword : word ∈ ["null", "true", "false", "NaN", "Infinity", "-Infinity"]) :
      after? word (c :: r) = none := after_eq_none (h word hword)
  unfold scanAtom
  simp only [findSome?_cons, findSome?_nil, hnone "null" (by simp), hnone "true" (by simp), hnone "false" (by simp),
    hnone "NaN" (by simp), hnone "Infinity" (by simp), hnone "-Infinity" (by simp), map_none]
  split
  · rename_i heq
    obtain ⟨rfl, rfl⟩ := cons.inj heq
    rw [if_pos rfl]
  · rename_i hminus
    rw [if_neg fun hc => hminus r (by rw [hc])]

def signChars (negative : Bool) : List Char := if negative then ['-'] else []

/-- The text of a value that is neither a text, a list nor a record. -/
structure Atom (v : Data) (cs : List Char) : Prop where
  starts : ∃ c r, cs = c :: r ∧ (c.isDigit = true ∨ c ∈ ['-', 'n', 't', 'f', 'N', 'I'])
  scan : ∀ {rest}, Ends rest → ∀ pos, Reads (scanAtom pos (cs ++ rest)) v rest

/-- **A numeral with or without a sign is read as what it stands for.** -/
theorem atom_numeral (n : Numeral) (negative : Bool) : Atom (n.data negative) (signChars negative ++ n.chars) := by
  obtain ⟨c, r, hwhole, hdigit⟩ := n.exists_digit
  have hchars : n.chars = c :: (r ++ (n.fractionChars ++ n.markChars)) := by
    rw [Numeral.chars, hwhole]
    rfl
  have hne {d : Char} (hd : d.isDigit = false) : ¬ d = c := by
    rintro rfl
    rw [hd] at hdigit
    cases hdigit
  have hnumber {rest : List Char} (hrest : Ends rest) (start pos : ℕ) := n.scanNumber_chars hrest negative start pos
  cases negative with
  | false =>
    refine ⟨⟨c, _, hchars, .inl hdigit⟩, fun {rest} hrest pos => ?_⟩
    have hread := hnumber hrest pos pos
    rw [hchars, cons_append] at hread
    rw [show signChars false = [] from rfl, nil_append, hchars, cons_append]
    -- every word starts with a character that is no digit
    rw [scanAtom_of_no_word, if_neg fun hc => hne rfl hc.symm]
    · exact hread
    · intro word hword hpre
      simp only [mem_cons, not_mem_nil, or_false] at hword
      rcases hword with rfl | rfl | rfl | rfl | rfl | rfl <;> exact hne rfl (cons_prefix_cons.mp hpre).1
  | true =>
    refine ⟨⟨'-', _, rfl, .inr (by decide)⟩, fun {rest} hrest pos => ?_⟩
    rw [show signChars true = ['-'] from rfl, singleton_append, cons_append, scanAtom_of_no_word, if_pos rfl]
    · exact hnumber hrest pos (pos + 1)
    · intro word hword hpre
      simp only [mem_cons, not_mem_nil, or_false] at hword
      -- only one word starts with a minus, and it goes on with a letter
      rcases hword with rfl | rfl | rfl | rfl | rfl | rfl
      case inr.inr.inr.inr.inr =>
        rw [hchars] at hpre
        exact hne rfl (cons_prefix_cons.mp (cons_prefix_cons.mp hpre).2).1
      all_goals exact absurd (cons_prefix_cons.mp hpre).1 (by decide)

def naturalNumeral (n : ℕ) : Numeral where
  whole := toDigits 10 n
  fraction := []
  mark := none
  whole_digits _ h := isDigit_toDigits h
  leading := toDigits_leading n
  fraction_digits _ h := absurd h not_mem_nil
  mark_digits _ h := by cases h

theorem chars_naturalNumeral (n : ℕ) : (naturalNumeral n).chars = toDigits 10 n := append_nil _

theorem toList_toString_nat (n : ℕ) : (toString n).toList = toDigits 10 n := by
  rw [toString_eq_ofList_toDigits, toList_ofList]

theorem toList_toString_int (i : ℤ) : (toString i).toList = signChars (decide (i < 0)) ++ (naturalNumeral i.natAbs).chars := by
  rw [chars_naturalNumeral, Int.toString_eq_repr, Int.repr_eq_if]
  by_cases h : 0 ≤ i
  · rw [if_pos h, ← toString_eq_repr, toList_toString_nat, show decide (i < 0) = false by simpa using h,
      show i.toNat = i.natAbs by omega]
    rfl
  · rw [if_neg h, toList_append, ← toString_eq_repr, toList_toString_nat,
      show decide (i < 0) = true by simpa using h, show (-i).toNat = i.natAbs by omega]
    rfl

/-- **A whole number is read back.** -/
theorem atom_int (i : ℤ) : Atom (.int i) (toString i).toList := by
  have hdata : (naturalNumeral i.natAbs).data (decide (i < 0)) = .int i := by
    have hwhole : (naturalNumeral i.natAbs).isWhole = true := rfl
    rw [Numeral.data, if_pos hwhole]
    simp only [naturalNumeral, digitsValue_toDigits, decide_eq_true_eq]
    congr 1
    split <;> omega
  rw [toList_toString_int, ← hdata]
  exact atom_numeral _ _

def pointNumeral (whole fraction : List Char) (hwhole : ∀ c ∈ whole, c.isDigit = true)
    (hleading : whole = ['0'] ∨ ∃ c r, whole = c :: r ∧ c ≠ '0') (hfraction : ∀ c ∈ fraction, c.isDigit = true) : Numeral :=
  ⟨whole, fraction, none, hwhole, hleading, hfraction, fun _ h => by cases h⟩

section Layout

variable {ds : List Char} (hds : ∀ c ∈ ds, c.isDigit = true) (hleading : ∃ c r, ds = c :: r ∧ c ≠ '0')
include hds hleading

theorem positional_numeral (point : ℤ) : ∃ n : Numeral, (positional (ofList ds) point).toList = n.chars ∧
    n.isWhole = false ∧ n.digits.value = digitsValue ds * 10 ^ (point - ds.length) := by
  obtain ⟨c, r, hcons, hzero⟩ := hleading
  unfold positional
  simp only [String.length_ofList, toList_ofList]
  by_cases hsmall : point ≤ 0
  · -- zeros stand between the point and the digits
    have hfraction : ∀ d ∈ replicate (-point).toNat '0' ++ ds, d.isDigit = true :=
      forall_mem_append.mpr ⟨fun _ => isDigit_zeros, hds⟩
    refine ⟨pointNumeral ['0'] _ (by simp) (Or.inl rfl) hfraction, ?_, ?_, ?_⟩
    · rw [if_pos hsmall]
      simp [pointNumeral, Numeral.chars, Numeral.fractionChars, Numeral.markChars, hcons]
    · simp [pointNumeral, Numeral.isWhole, hcons]
    · have hvalue : digitsValue (['0'] ++ (replicate (-point).toNat '0' ++ ds)) = digitsValue ds := by
        rw [digitsValue_append, digitsValue_append, digitsValue_zeros, show digitsValue ['0'] = 0 from rfl]
        simp
      have hexponent : (0 : ℤ) - (replicate (-point).toNat '0' ++ ds).length = point - ds.length := by
        rw [length_append, length_replicate]
        omega
      simp only [pointNumeral, Numeral.digits, Numeral.exponent, Digits.value, hvalue, hexponent]
  · rw [if_neg hsmall]
    by_cases hlarge : point ≥ ds.length
    · -- zeros stand between the digits and the point
      obtain ⟨k, hk⟩ : ∃ k : ℕ, point - ds.length = k := ⟨(point - ds.length).toNat, by omega⟩
      have hwhole : ∀ d ∈ ds ++ replicate k '0', d.isDigit = true :=
        forall_mem_append.mpr ⟨hds, fun _ => isDigit_zeros⟩
      refine ⟨pointNumeral _ ['0'] hwhole (Or.inr ⟨c, _, by rw [hcons]; rfl, hzero⟩) (by simp), ?_, rfl, ?_⟩
      · rw [if_pos hlarge, hk]
        simp [pointNumeral, Numeral.chars, Numeral.fractionChars, Numeral.markChars]
      · have hvalue : digitsValue (ds ++ replicate k '0' ++ ['0']) = digitsValue ds * 10 ^ k * 10 := by
          rw [digitsValue_append, digitsValue_append, digitsValue_zeros, length_replicate,
            show digitsValue ['0'] = 0 from rfl]
          rfl
        simp only [pointNumeral, Numeral.digits, Numeral.exponent, Digits.value, hvalue, hk, length_singleton]
        push_cast
        rw [zpow_natCast, zpow_neg_one]
        ring
    · -- the point stands among the digits
      obtain ⟨k, hk⟩ : ∃ k : ℕ, point = k + 1 := ⟨(point - 1).toNat, by omega⟩
      have hsplit : ds.take (k + 1) ++ ds.drop (k + 1) = ds := take_append_drop _ _
      refine ⟨pointNumeral (ds.take (k + 1)) (ds.drop (k + 1)) (fun d hd => hds d (mem_of_mem_take hd))
        (Or.inr ⟨c, _, by rw [hcons]; rfl, hzero⟩) (fun d hd => hds d (mem_of_mem_drop hd)), ?_, ?_, ?_⟩
      · have hne : ds.drop (k + 1) ≠ [] := by
          rw [Ne, drop_eq_nil_iff]
          omega
        rw [if_neg hlarge]
        simp [pointNumeral, Numeral.chars, Numeral.fractionChars, Numeral.markChars, hk, hne]
      · simp [pointNumeral, Numeral.isWhole]
        omega
      · have hexponent : (0 : ℤ) - (ds.drop (k + 1)).length = point - ds.length := by
          rw [length_drop]
          omega
        simp only [pointNumeral, Numeral.digits, Numeral.exponent, Digits.value, hsplit, hexponent]

omit hds hleading in
theorem exponentMark_chars (e : ℤ) : ∃ es, (exponentMark e).toList = 'e' :: (if decide (e < 0) then '-' else '+') :: es ∧
    es ≠ [] ∧ (∀ c ∈ es, c.isDigit = true) ∧ digitsValue es = e.natAbs := by
  have hmark : ((if e < 0 then "e-" else "e+") : String).toList = ['e', if decide (e < 0) then '-' else '+'] := by
    by_cases h : e < 0 <;> simp [h]
  unfold exponentMark
  rw [toList_append, hmark]
  by_cases hshort : (toString e.natAbs).length < 2
  · refine ⟨'0' :: toDigits 10 e.natAbs, ?_, cons_ne_nil _ _, ?_, ?_⟩
    · rw [if_pos hshort, toList_append, toList_toString_nat]
      rfl
    · exact forall_mem_cons.mpr ⟨rfl, fun c hc => isDigit_toDigits hc⟩
    · rw [← singleton_append, digitsValue_append, digitsValue_toDigits, show digitsValue ['0'] = 0 from rfl]
      simp
  · refine ⟨toDigits 10 e.natAbs, ?_, toDigits_ne_nil, fun c hc => isDigit_toDigits hc, digitsValue_toDigits _⟩
    rw [if_neg hshort, toList_toString_nat]
    rfl

theorem scientific_numeral (point : ℤ) : ∃ n : Numeral,
    (ofList (ds.take 1) ++ (if (ofList (ds.drop 1)).isEmpty then "" else "." ++ ofList (ds.drop 1)) ++
      exponentMark (point - 1)).toList = n.chars ∧
    n.isWhole = false ∧ n.digits.value = digitsValue ds * 10 ^ (point - ds.length) := by
  obtain ⟨c, r, hcons, hzero⟩ := hleading
  obtain ⟨es, htext, hne, hes, hvalue⟩ := exponentMark_chars (point - 1)
  refine ⟨⟨ds.take 1, ds.drop 1, some (decide (point - 1 < 0), es), fun d hd => hds d (mem_of_mem_take hd),
    Or.inr ⟨c, _, by rw [hcons]; rfl, hzero⟩, fun d hd => hds d (mem_of_mem_drop hd), ?_⟩, ?_, ?_, ?_⟩
  · rintro m hm
    cases hm
    exact ⟨hne, hes⟩
  · have hfraction : (if (ofList (ds.drop 1)).isEmpty then "" else "." ++ ofList (ds.drop 1)).toList =
        if (ds.drop 1).isEmpty then [] else '.' :: ds.drop 1 := by
      by_cases hempty : ds.drop 1 = []
      · rw [hempty]
        rfl
      · have hstring : ¬ (ofList (ds.drop 1)).isEmpty = true := by
          rw [String.isEmpty_iff, ← String.toList_eq_nil_iff, toList_ofList]
          exact hempty
        rw [if_neg hstring, if_neg (by rw [List.isEmpty_iff]; exact hempty), toList_append]
        simp
    rw [toList_append, toList_append, hfraction, htext, toList_ofList, append_assoc]
    rfl
  · simp [Numeral.isWhole]
  · have hsplit : ds.take 1 ++ ds.drop 1 = ds := take_append_drop _ _
    have hexponent : (if decide (point - 1 < 0) = true then -(digitsValue es : ℤ) else digitsValue es) - (ds.drop 1).length =
        point - ds.length := by
      rw [hvalue, hcons, drop_one, tail_cons, length_cons]
      simp only [decide_eq_true_eq]
      split <;> omega
    simp only [Numeral.digits, Numeral.exponent, Digits.value, hsplit, hexponent]

end Layout

variable {x : Float} {b : Binary}

theorem toList_sign (negative : Bool) : (if negative then "-" else "" : String).toList = signChars negative := by
  cases negative <;> rfl

theorem shortest_digits_ne_zero (hx : decode x = .finite b) (hm : b.mantissa ≠ 0) : (shortest b).digits ≠ 0 := by
  intro hzero
  obtain ⟨hleast, -⟩ := (shortest_rounds hx hm).bounds (canonical_of_decode hx) hm
  rw [Digits.value, hzero, cast_zero, zero_mul] at hleast
  exact absurd hleast (not_le.mpr (by positivity))

theorem zero_data (hx : decode x = .finite b) (hm : b.mantissa = 0) :
    (if b.negative then -toFloat 0 (-1) else toFloat 0 (-1)) = x := by
  obtain ⟨y, hy, hsign⟩ := assemble_of_decode hx
  have hexponent : b.exponent = -1074 := by
    have hb := canonical_of_decode hx
    exact hb.leading.resolve_right (by omega)
  rw [hm, hexponent] at hy
  have hzero : toFloat 0 (-1) = y := Option.some.inj (Eq.trans (by decide +kernel) hy)
  rw [hzero, hsign]

/-- **The text of a finite number is a numeral that stands for it.** -/
theorem natural_numeral (hx : decode x = .finite b) : ∃ n : Numeral,
    (natural x).toList = signChars b.negative ++ n.chars ∧ n.data b.negative = .real x := by
  unfold natural
  rw [hx]
  simp only
  by_cases hm : b.mantissa = 0
  · refine ⟨pointNumeral ['0'] ['0'] (by simp) (Or.inl rfl) (by simp), ?_, ?_⟩
    · rw [if_pos hm, toList_append, toList_sign]
      rfl
    · rw [← zero_data hx hm]
      rfl
  · rw [if_neg hm]
    have hne := shortest_digits_ne_zero hx hm
    obtain ⟨ds, hds⟩ : ∃ ds, ds = toDigits 10 (shortest b).digits := ⟨_, rfl⟩
    have htext : toString (shortest b).digits = ofList ds := by
      rw [hds, toString_eq_ofList_toDigits]
    have hdigits : ∀ c ∈ ds, c.isDigit = true := by
      rw [hds]
      exact fun c hc => isDigit_toDigits hc
    have hvalue : digitsValue ds = (shortest b).digits := by rw [hds, digitsValue_toDigits]
    have hleading : ∃ c r, ds = c :: r ∧ c ≠ '0' := by
      rcases toDigits_leading (shortest b).digits with hzero | hleading
      · rw [← hds] at hzero
        rw [hzero] at hvalue
        exact absurd hvalue.symm hne
      · rw [hds]
        exact hleading
    -- both layouts are worth the digits, so they are read as the number
    have hreal (n : Numeral) (hwhole : n.isWhole = false)
        (hn : n.digits.value = digitsValue ds * 10 ^ ((shortest b).exponent + (ds.length : ℤ) - ds.length)) :
        n.data b.negative = .real x := by
      rw [Numeral.data, hwhole, if_neg Bool.false_ne_true]
      simp only
      rw [toFloat_shortest hx hm]
      rw [add_sub_cancel_right, hvalue] at hn
      exact hn
    simp only [htext, String.length_ofList, toList_ofList]
    split
    · obtain ⟨n, hchars, hwhole, hn⟩ := positional_numeral hdigits hleading ((shortest b).exponent + ds.length)
      refine ⟨n, ?_, hreal n hwhole hn⟩
      rw [toList_append, toList_sign, hchars]
    · obtain ⟨n, hchars, hwhole, hn⟩ := scientific_numeral hdigits hleading ((shortest b).exponent + ds.length)
      refine ⟨n, ?_, hreal n hwhole hn⟩
      simp only [String.append_assoc] at hchars ⊢
      rw [toList_append, toList_sign, hchars]

theorem realText_of_finite (hx : decode x = .finite b) : realText x = natural x := by
  obtain ⟨n, htext, -⟩ := natural_numeral hx
  obtain ⟨c, r, hwhole, hdigit⟩ := n.exists_digit
  have hmem : c ∈ (natural x).toList := by
    rw [htext, Numeral.chars, hwhole]
    simp
  have hne (word : String) (cs : List Char) (hword : word.toList = cs) (hcs : ∀ d ∈ cs, d.isDigit = false) :
      ¬ (natural x == word) = true := by
    rw [beq_iff_eq]
    intro heq
    rw [heq, hword] at hmem
    rw [hcs c hmem] at hdigit
    cases hdigit
  show (if natural x == "nan" then "NaN" else if natural x == "inf" then "Infinity" else
    if natural x == "-inf" then "-Infinity" else natural x) = natural x
  rw [if_neg (hne "nan" ['n', 'a', 'n'] rfl (by simp)), if_neg (hne "inf" ['i', 'n', 'f'] rfl (by simp)),
    if_neg (hne "-inf" ['-', 'i', 'n', 'f'] rfl (by simp))]

theorem eq_of_decode {y : Float} (h : decode x = decode y) : x = y := by
  apply eq_of_unpack
  rw [unpack_eq, unpack_eq, h]

/-- **A fraction is read back**, infinite or not, and also what is not a number. -/
theorem atom_real (x : Float) : Atom (.real x) (realText x).toList := by
  cases hx : decode x with
  | notANumber =>
    rw [eq_of_decode (y := 0.0 / 0.0) hx]
    exact ⟨⟨'N', _, rfl, .inr (by decide)⟩, fun _ _ => ⟨_, rfl⟩⟩
  | infinite negative =>
    cases negative with
    | true =>
      rw [eq_of_decode (y := -1.0 / 0.0) hx]
      exact ⟨⟨'-', _, rfl, .inr (by decide)⟩, fun _ _ => ⟨_, rfl⟩⟩
    | false =>
      rw [eq_of_decode (y := 1.0 / 0.0) hx]
      exact ⟨⟨'I', _, rfl, .inr (by decide)⟩, fun _ _ => ⟨_, rfl⟩⟩
  | finite b =>
    obtain ⟨n, htext, hdata⟩ := natural_numeral hx
    rw [realText_of_finite hx, htext, ← hdata]
    exact atom_numeral n _

end RemoteSensing.Json
