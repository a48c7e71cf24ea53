import RemoteSensing.Colour
import RemoteSensing.Proofs.Json.Quoted
import RemoteSensing.Proofs.Session.Run
import RemoteSensing.Proofs.Text.Chars

/-!
Colours in hexadecimal digits.
-/

namespace RemoteSensing.Colour

open List Nat Session Text
open String (ofList toList_ofList toList_inj)

variable {signs size room : ℕ} {ds g s : List Char} {opacity : Float}

def smallDigits : List Char := ['0', '1', '2', '3', '4', '5', '6', '7', '8', '9', 'a', 'b', 'c', 'd', 'e', 'f']

def hexAlphabet : List Char := smallDigits ++ ['A', 'B', 'C', 'D', 'E', 'F']

/-- What a hexadecimal digit is worth: its place among the digits, whatever the size of the letter. -/
def worthOf (c : Char) : ℕ := smallDigits.idxOf c.toLower

def numberOf (g : List Char) : ℕ := g.foldl (fun n c => 16 * n + worthOf c) 0

theorem numberOf_concat (g : List Char) (c : Char) : numberOf (g ++ [c]) = 16 * numberOf g + worthOf c := by
  simp [numberOf]

theorem worthOf_lt : ∀ c ∈ hexAlphabet, worthOf c < 16 := by
  decide

theorem digitChar_worthOf : ∀ c ∈ hexAlphabet, digitChar (worthOf c) = c.toLower := by
  decide

theorem digitValue?_hex : ∀ c ∈ hexAlphabet, Text.digitValue? 16 c = some (worthOf c) := by
  decide

theorem not_mark_of_hex : ∀ c ∈ hexAlphabet,
    Text.isBlank c = false ∧ c ≠ '-' ∧ c ≠ '+' ∧ c ≠ '_' ∧ c ≠ 'x' ∧ c ≠ 'X' ∧ c ≠ '#' := by
  decide

theorem trim_of_hex (h : ∀ c ∈ g, c ∈ hexAlphabet) : Chars.trim g = g :=
  Chars.trim_of_forall fun c hc => (not_mark_of_hex c (h c hc)).1

theorem readDigits_hex (h : ∀ c ∈ g, c ∈ hexAlphabet) (before : List Char) (last : Bool) (hlast : g = [] → last = true) :
    readDigits 16 last (numberOf before) g = some (numberOf (before ++ g)) := by
  induction g generalizing before last with
  | nil => simp [readDigits, hlast]
  | cons c r ih =>
    have hc : c ∈ hexAlphabet := h c mem_cons_self
    have hstep := ih (fun d hd => h d (mem_cons_of_mem c hd)) (before ++ [c]) true fun _ => rfl
    rw [numberOf_concat, mul_comm] at hstep
    rw [readDigits, if_neg (not_mark_of_hex c hc).2.2.2.1, digitValue?_hex c hc]
    simpa using hstep

theorem readGroup_hex (h : ∀ c ∈ g, c ∈ hexAlphabet) (hne : g ≠ []) : readGroup g = .ok (numberOf g : ℤ) := by
  have hdigits : readDigits 16 false 0 g = some (numberOf g) :=
    readDigits_hex h [] false fun hnil => absurd hnil hne
  have hread : readInt? 16 (ofList g) = some (numberOf g : ℤ) := by
    rw [readInt?, toList_ofList, trim_of_hex h]
    obtain ⟨c, r, rfl⟩ := exists_cons_of_ne_nil hne
    obtain ⟨-, hminus, hplus, -⟩ := not_mark_of_hex c (h c mem_cons_self)
    -- the mark `0x` has a letter that is no digit
    have hmark : ∀ d t, r = d :: t → d ≠ 'x' ∧ d ≠ 'X' := by
      intro d t hr
      have hd := not_mark_of_hex d (h d (by rw [hr]; simp))
      exact ⟨hd.2.2.2.2.1, hd.2.2.2.2.2.1⟩
    split
    · rename_i hr
      exact absurd (cons.inj hr).1 hminus
    · rename_i hr
      exact absurd (cons.inj hr).1 hplus
    · dsimp only
      split
      · rename_i hr
        exact absurd rfl (hmark _ _ (cons.inj hr).2).1
      · rename_i hr
        exact absurd rfl (hmark _ _ (cons.inj hr).2).2
      · rw [hdigits]
        rfl
  rw [readGroup, hread]

theorem groups_cons (hs : s ≠ []) : groups size (room + 1) s = s.take size :: groups size room (s.drop size) := by
  obtain ⟨c, r, rfl⟩ := exists_cons_of_ne_nil hs
  rfl

theorem of_mem_groups (hsize : 0 < size) (hg : g ∈ groups size room s) : g ≠ [] ∧ ∀ c ∈ g, c ∈ s := by
  induction room generalizing s with
  | zero => simp [groups] at hg
  | succ room ih =>
    by_cases hs : s = []
    · rw [hs] at hg
      simp [groups] at hg
    · rw [groups_cons hs, mem_cons] at hg
      rcases hg with rfl | hg
      · refine ⟨?_, fun c hc => mem_of_mem_take hc⟩
        intro hnil
        have hlen := congrArg length hnil
        rw [length_take, length_nil] at hlen
        have hpos := length_pos_iff.mpr hs
        omega
      · obtain ⟨hne, hmem⟩ := ih hg
        exact ⟨hne, fun c hc => mem_of_mem_drop (hmem c hc)⟩

def third (i : ℕ) (ds : List Char) : List Char := (ds.drop (i * (ds.length / 3))).take (ds.length / 3)

theorem groups_eq (h : 3 ≤ ds.length) : groups (ds.length / 3) ds.length ds =
    third 0 ds :: third 1 ds :: third 2 ds ::
      groups (ds.length / 3) (ds.length - 3) (ds.drop (3 * (ds.length / 3))) := by
  obtain ⟨room, hroom⟩ : ∃ room, ds.length = room + 3 := ⟨ds.length - 3, by omega⟩
  have hrest : ∀ i < 3, ds.drop (i * (ds.length / 3)) ≠ [] := by
    intro i hi hnil
    have hle := drop_eq_nil_iff.mp hnil
    have hmul : i * (ds.length / 3) ≤ 2 * (ds.length / 3) := Nat.mul_le_mul_right _ (by omega)
    omega
  have hdrop : ∀ i, (ds.drop (i * (ds.length / 3))).drop (ds.length / 3) = ds.drop ((i + 1) * (ds.length / 3)) := by
    intro i
    rw [drop_drop, Nat.succ_mul]
  have hstep : ∀ i < 3, ∀ room, groups (ds.length / 3) (room + 1) (ds.drop (i * (ds.length / 3))) =
      third i ds :: groups (ds.length / 3) room (ds.drop ((i + 1) * (ds.length / 3))) := by
    intro i hi room
    rw [groups_cons (hrest i hi), hdrop]
    rfl
  have hzero : ds = ds.drop (0 * (ds.length / 3)) := by simp
  calc groups (ds.length / 3) ds.length ds
      = groups (ds.length / 3) (room + 3) (ds.drop (0 * (ds.length / 3))) := by rw [← hzero, ← hroom]
    _ = third 0 ds :: third 1 ds :: third 2 ds :: groups (ds.length / 3) room (ds.drop (3 * (ds.length / 3))) := by
        rw [hstep 0 (by omega), hstep 1 (by omega), hstep 2 (by omega)]
    _ = _ := by rw [hroom, Nat.add_sub_cancel]

theorem groups_thirds (hpos : 0 < ds.length) (hdvd : 3 ∣ ds.length) :
    groups (ds.length / 3) ds.length ds = [third 0 ds, third 1 ds, third 2 ds] := by
  have hrest : ds.drop (3 * (ds.length / 3)) = [] := drop_eq_nil_of_le (by omega)
  rw [groups_eq (by omega), hrest]
  cases ds.length - 3 <;> rfl

theorem three_lt_length_groups (h : 3 ≤ ds.length) (hdvd : ¬ 3 ∣ ds.length) :
    3 < (groups (ds.length / 3) ds.length ds).length := by
  have hrest : ds.drop (3 * (ds.length / 3)) ≠ [] := by
    intro hnil
    have hle := drop_eq_nil_iff.mp hnil
    omega
  obtain ⟨room, hroom⟩ : ∃ room, ds.length - 3 = room + 1 := ⟨ds.length - 4, by omega⟩
  rw [groups_eq h, hroom, groups_cons hrest]
  simp

section Digits

variable (signs) (h : ∀ c ∈ ds, c ∈ hexAlphabet)

include h

theorem digits_eq : digits (replicate signs '#' ++ ds) = ds := by
  induction signs with
  | zero =>
    cases ds with
    | nil => rfl
    | cons c r =>
      have hc : c ≠ '#' := (not_mark_of_hex c (h c mem_cons_self)).2.2.2.2.2.2
      simp [digits, hc]
  | succ signs ih => simpa [digits, replicate_succ] using ih

theorem numbers_short (hshort : ds.length < 3) :
    numbers (replicate signs '#' ++ ds) = .error (.wrongValue "range() arg 3 must not be zero") := by
  rw [numbers, digits_eq signs h]
  exact if_pos (by omega)

theorem numbers_eq (hlong : 3 ≤ ds.length) : numbers (replicate signs '#' ++ ds) =
    .ok ((groups (ds.length / 3) ds.length ds).map fun g => (numberOf g : ℤ)) := by
  rw [numbers, digits_eq signs h]
  have hsize : 0 < ds.length / 3 := by omega
  refine (if_neg (by omega)).trans (mapM_eq_ok ?_)
  intro g hg
  obtain ⟨hne, hmem⟩ := of_mem_groups hsize hg
  exact readGroup_hex (fun c hc => h c (hmem c hc)) hne

theorem numbers_thirds (hpos : 0 < ds.length) (hdvd : 3 ∣ ds.length) : numbers (replicate signs '#' ++ ds) =
    .ok [(numberOf (third 0 ds) : ℤ), (numberOf (third 1 ds) : ℤ), (numberOf (third 2 ds) : ℤ)] := by
  rw [numbers_eq signs h (by omega), groups_thirds hpos hdvd]
  rfl

theorem three_thirds (hpos : 0 < ds.length) (hdvd : 3 ∣ ds.length) : three (replicate signs '#' ++ ds) =
    .ok ((numberOf (third 0 ds) : ℤ), (numberOf (third 1 ds) : ℤ), (numberOf (third 2 ds) : ℤ)) := by
  rw [three, numbers_thirds signs h hpos hdvd]
  rfl

theorem three_eq_error (hnot : ¬ (0 < ds.length ∧ 3 ∣ ds.length)) :
    ∃ m, three (replicate signs '#' ++ ds) = .error (.wrongValue m) := by
  by_cases hshort : ds.length < 3
  · rw [three, numbers_short signs h hshort]
    exact ⟨_, rfl⟩
  have hdvd : ¬ 3 ∣ ds.length := by
    intro hdvd
    exact hnot ⟨by omega, hdvd⟩
  have hmore := three_lt_length_groups (by omega) hdvd
  rw [three, numbers_eq signs h (by omega)]
  generalize hxs : (groups (ds.length / 3) ds.length ds).map (fun g => (numberOf g : ℤ)) = xs
  have hlen : 3 < xs.length := by
    rw [← hxs, length_map]
    exact hmore
  match xs, hlen with
  | _ :: _ :: _ :: _ :: _, hlen =>
    exact ⟨_, rfl⟩

end Digits

theorem decimal_cases (n : ℕ) : n < 10 ^ digitLimit ∧ decimal n = .ok (toString n) ∨
    ¬ n < 10 ^ digitLimit ∧ ∃ m, decimal n = .error (.wrongValue m) := by
  have hwidth : Decimal.width n ≤ digitLimit ↔ n < 10 ^ digitLimit := length_toDigits_le_iff (by decide) (by decide)
  by_cases h : n < 10 ^ digitLimit
  · exact .inl ⟨h, if_neg (by rw [Int.natAbs_natCast]; have := hwidth.mpr h; omega)⟩
  · exact .inr ⟨h, _, if_pos (by rw [Int.natAbs_natCast]; have := hwidth.not.mpr h; omega)⟩

theorem twoDigits_eq {a b : ℕ} (ha : a < 16) (hb : b < 16) :
    twoDigits ((16 * a + b : ℕ) : ℤ) = ofList [digitChar a, digitChar b] := by
  have hdigits : toDigits 16 (16 * a + b) =
      if a = 0 then [digitChar b] else [digitChar a, digitChar b] := by
    rw [toDigits_eq_if (by decide)]
    by_cases hzero : a = 0
    · rw [if_pos (by omega), if_pos hzero, hzero, mul_zero, zero_add]
    · rw [if_neg (by omega), if_neg hzero, show (16 * a + b) / 16 = a by omega, show (16 * a + b) % 16 = b by omega,
        toDigits_of_lt_base ha]
      rfl
  have hsign : ¬ ((16 * a + b : ℕ) : ℤ) < 0 := by omega
  rw [twoDigits, if_neg hsign, Int.natAbs_natCast, Text.hexDigits, ← toList_inj,
    Json.toList_zeroFill_toDigits (by decide) le_rfl, hdigits, toList_ofList]
  by_cases hzero : a = 0
  · rw [if_pos hzero, hzero]
    rfl
  · rw [if_neg hzero]
    rfl

theorem twoDigits_numberOf {c d : Char} (hc : c ∈ hexAlphabet) (hd : d ∈ hexAlphabet) :
    twoDigits (numberOf [c, d]) = ofList [c.toLower, d.toLower] := by
  have hnumber : numberOf [c, d] = 16 * worthOf c + worthOf d := by simp [numberOf]
  rw [hnumber, twoDigits_eq (worthOf_lt c hc) (worthOf_lt d hd), digitChar_worthOf c hc, digitChar_worthOf d hd]

def styleText (r g b : ℕ) (opacity : Float) : String :=
  "rgba(" ++ toString r ++ "," ++ toString g ++ "," ++ toString b ++ "," ++ (Value.real opacity).display ++ ")"

/-- Can the colour be written in a style sheet? There must be three groups, and no group may have too large a number. -/
structure Showable (ds : List Char) : Prop where
  pos : 0 < ds.length
  dvd : 3 ∣ ds.length
  small : ∀ i < 3, numberOf (third i ds) < 10 ^ digitLimit

theorem withOpacity_cases (signs : ℕ) (h : ∀ c ∈ ds, c ∈ hexAlphabet) (opacity : Float) :
    Showable ds ∧ withOpacity (replicate signs '#' ++ ds) (.real opacity) =
      .ok (styleText (numberOf (third 0 ds)) (numberOf (third 1 ds)) (numberOf (third 2 ds)) opacity) ∨
    ¬ Showable ds ∧ ∃ m, withOpacity (replicate signs '#' ++ ds) (.real opacity) = .error (.wrongValue m) := by
  by_cases hthree : 0 < ds.length ∧ 3 ∣ ds.length
  · rw [withOpacity, three_thirds signs h hthree.1 hthree.2]
    simp only [bind, Except.bind]
    -- the first of the three numbers that is too large ends the writing
    rcases decimal_cases (numberOf (third 0 ds)) with ⟨hr, hred⟩ | ⟨hr, m, hred⟩
    · rcases decimal_cases (numberOf (third 1 ds)) with ⟨hg, hgreen⟩ | ⟨hg, m, hgreen⟩
      · rcases decimal_cases (numberOf (third 2 ds)) with ⟨hb, hblue⟩ | ⟨hb, m, hblue⟩
        · refine .inl ⟨⟨hthree.1, hthree.2, fun i hi => ?_⟩, by simp only [hred, hgreen, hblue]; rfl⟩
          obtain rfl | rfl | rfl : i = 0 ∨ i = 1 ∨ i = 2 := by omega
          · exact hr
          · exact hg
          · exact hb
        · exact .inr ⟨fun hw => hb (hw.small 2 (by decide)), m, by simp only [hred, hgreen, hblue]⟩
      · exact .inr ⟨fun hw => hg (hw.small 1 (by decide)), m, by simp only [hred, hgreen]⟩
    · exact .inr ⟨fun hw => hr (hw.small 0 (by decide)), m, by simp only [hred]⟩
  · obtain ⟨m, hm⟩ := three_eq_error signs h hthree
    exact .inr ⟨fun hw => hthree ⟨hw.pos, hw.dvd⟩, m, by rw [withOpacity, hm]; rfl⟩

theorem numbers_run (s : String) (w : World) : (numbersCommand.call [.str s]).runIn w =
    ((numbers s.toList).map fun xs => .tuple (xs.map .int), w) := by
  obtain ⟨a, hbind, ha⟩ : ∃ a, numbersCommand.bind [.str s] [] = .ok a ∧ a "value" = .str s := ⟨_, rfl, rfl⟩
  have hstr : (Value.str s : Data).strOf "lstrip" = .ok s := rfl
  rw [Command.runIn_call hbind]
  simp only [numbersCommand, ha, hstr]
  rw [runIn_liftM_ok]
  exact runIn_liftM_bind _ _ w

theorem withOpacity_run (s : String) (opacity : Data) (w : World) : (withOpacityCommand.call [.str s, opacity]).runIn w =
    ((withOpacity s.toList opacity).map .str, w) := by
  obtain ⟨a, hbind, hs, hopacity⟩ : ∃ a, withOpacityCommand.bind [.str s, opacity] [] = .ok a ∧ a "hex_color" = .str s ∧
    a "opacity" = opacity := ⟨_, rfl, rfl, rfl⟩
  have hstr : (Value.str s : Data).strOf "lstrip" = .ok s := rfl
  rw [Command.runIn_call hbind]
  simp only [withOpacityCommand, hs, hopacity, hstr]
  rw [runIn_liftM_ok]
  exact runIn_liftM_bind _ _ w

theorem toHex_answers (r g b : ℤ) :
    toHexCommand.Answers [.tuple [.int r, .int g, .int b]] (.str (twoDigits r ++ (twoDigits g ++ (twoDigits b ++ "")))) :=
  fun _ => rfl

section Colours

variable (signs) (opacity)

theorem numbers_answers {xs : List ℤ} (hxs : numbers (replicate signs '#' ++ ds) = .ok xs) :
    numbersCommand.Answers [.str (ofList (replicate signs '#' ++ ds))] (.tuple (xs.map .int)) := by
  intro w
  rw [numbers_run, toList_ofList, hxs]
  rfl

variable (h : ∀ c ∈ ds, c ∈ hexAlphabet)

include h

theorem withOpacity_answers (hw : Showable ds) :
    withOpacityCommand.Answers [.str (ofList (replicate signs '#' ++ ds)), .real opacity]
      (.str (styleText (numberOf (third 0 ds)) (numberOf (third 1 ds)) (numberOf (third 2 ds)) opacity)) := by
  intro w
  rw [withOpacity_run, toList_ofList, ((withOpacity_cases signs h opacity).resolve_right fun hnot => hnot.1 hw).2]
  rfl

theorem withOpacity_refuses (hw : ¬ Showable ds) :
    ∃ m, withOpacityCommand.Refuses [.str (ofList (replicate signs '#' ++ ds)), .real opacity] (.wrongValue m) := by
  obtain ⟨-, m, hm⟩ := (withOpacity_cases signs h opacity).resolve_left fun hok => hw hok.1
  refine ⟨m, ?_⟩
  intro w
  rw [withOpacity_run, toList_ofList, hm]
  rfl

theorem writable_of_answers {v : Data}
    (hv : withOpacityCommand.Answers [.str (ofList (replicate signs '#' ++ ds)), .real opacity] v) : Showable ds := by
  by_contra hw
  obtain ⟨m, hm⟩ := withOpacity_refuses signs opacity h hw
  have hboth := (hv {}).symm.trans (hm {})
  cases hboth

theorem toHex_six (hsix : ds.length = 6) : ∃ rgb,
    numbersCommand.Answers [.str (ofList (replicate signs '#' ++ ds))] rgb ∧
      toHexCommand.Answers [rgb] (.str (ofList (ds.map Char.toLower))) := by
  refine ⟨_, numbers_answers signs (numbers_thirds signs h (by omega) (by omega)), ?_⟩
  match ds, hsix with
  | [a, b, c, d, e, f], _ =>
    have hin : ∀ x ∈ [a, b, c, d, e, f], x ∈ hexAlphabet := h
    have hthirds : third 0 [a, b, c, d, e, f] = [a, b] ∧ third 1 [a, b, c, d, e, f] = [c, d] ∧
        third 2 [a, b, c, d, e, f] = [e, f] := by
      simp [third]
    have hwritten := toHex_answers (numberOf [a, b]) (numberOf [c, d]) (numberOf [e, f])
    have htext : ofList [a.toLower, b.toLower] ++ (ofList [c.toLower, d.toLower] ++
        (ofList [e.toLower, f.toLower] ++ "")) = ofList ([a, b, c, d, e, f].map Char.toLower) := by
      simp [← toList_inj]
    rw [twoDigits_numberOf (hin a (by simp)) (hin b (by simp)), twoDigits_numberOf (hin c (by simp)) (hin d (by simp)),
      twoDigits_numberOf (hin e (by simp)) (hin f (by simp)), htext] at hwritten
    rw [hthirds.1, hthirds.2.1, hthirds.2.2]
    exact hwritten

end Colours

/-- **The readers and the writer of hexadecimal colours are consistent.** For any number of number signs in front of `n`
hexadecimal digits and any floating-point opacity: a colour with an opacity is written exactly when `n` is a positive multiple of three and no group
needs more than 4300 decimal digits. Whenever `n` is a positive multiple of three, the numbers are those of the three
groups, in both readers. Digits that do not fill three groups give more than three numbers, and fewer than three digits
are refused. Six digits are written again as they were, in small letters. -/
theorem hex_colours_consistent (signs : ℕ) (ds : List Char) (h : ∀ c ∈ ds, c ∈ hexAlphabet) (opacity : Float) :
    let colour : Data := .str (ofList (List.replicate signs '#' ++ ds))
    let r := numberOf (third 0 ds)
    let g := numberOf (third 1 ds)
    let b := numberOf (third 2 ds)
    ((∃ v, withOpacityCommand.Answers [colour, .real opacity] v) ↔
      0 < ds.length ∧ 3 ∣ ds.length ∧ ∀ n ∈ [r, g, b], n < 10 ^ digitLimit) ∧
    (0 < ds.length → 3 ∣ ds.length →
      numbersCommand.Answers [colour] (.tuple [.int r, .int g, .int b]) ∧
      ∀ v, withOpacityCommand.Answers [colour, .real opacity] v → v = .str (styleText r g b opacity)) ∧
    (3 ≤ ds.length → ¬ 3 ∣ ds.length →
      ∃ xs : List ℤ, 3 < xs.length ∧ numbersCommand.Answers [colour] (.tuple (xs.map .int))) ∧
    (ds.length < 3 → (∃ m, numbersCommand.Refuses [colour] (.wrongValue m)) ∧
      ∃ m, withOpacityCommand.Refuses [colour, .real opacity] (.wrongValue m)) ∧
    (ds.length = 6 → ∃ rgb, numbersCommand.Answers [colour] rgb ∧
      toHexCommand.Answers [rgb] (.str (ofList (ds.map Char.toLower)))) := by
  intro colour r g b
  have hsmall : (∀ i < 3, numberOf (third i ds) < 10 ^ digitLimit) ↔ ∀ n ∈ [r, g, b], n < 10 ^ digitLimit := by
    constructor
    · intro hall
      simpa using ⟨hall 0 (by decide), hall 1 (by decide), hall 2 (by decide)⟩
    · intro hall i hi
      obtain rfl | rfl | rfl : i = 0 ∨ i = 1 ∨ i = 2 := by omega
      · exact hall r (by simp)
      · exact hall g (by simp)
      · exact hall b (by simp)
  refine ⟨⟨?_, ?_⟩, ?_, ?_, ?_, toHex_six signs h⟩
  · rintro ⟨v, hv⟩
    have hw := writable_of_answers signs opacity h hv
    exact ⟨hw.pos, hw.dvd, hsmall.mp hw.small⟩
  · rintro ⟨hpos, hdvd, hall⟩
    exact ⟨_, withOpacity_answers signs opacity h ⟨hpos, hdvd, hsmall.mpr hall⟩⟩
  · intro hpos hdvd
    refine ⟨numbers_answers signs (numbers_thirds signs h hpos hdvd), ?_⟩
    intro v hv
    have hw := writable_of_answers signs opacity h hv
    have hboth := (hv {}).symm.trans (withOpacity_answers signs opacity h hw {})
    exact Except.ok.inj (Prod.mk.inj hboth).1
  · intro hlong hdvd
    refine ⟨_, ?_, numbers_answers signs (numbers_eq signs h hlong)⟩
    rw [length_map]
    exact three_lt_length_groups hlong hdvd
  · intro hshort
    have hnot : ¬ Showable ds := by
      intro hw
      have hpos := hw.pos
      have hdvd := hw.dvd
      omega
    refine ⟨⟨"range() arg 3 must not be zero", fun w => ?_⟩, withOpacity_refuses signs opacity h hnot⟩
    rw [numbers_run, toList_ofList, numbers_short signs h hshort]
    rfl

theorem hex_colours_consistent_mixed :
    withOpacityCommand.Answers [.str "##1F2f3A", 0.5] (.str (styleText 31 47 58 0.5)) ∧
      ∃ rgb, numbersCommand.Answers [.str "##1F2f3A"] rgb ∧ toHexCommand.Answers [rgb] (.str "1f2f3a") := by
  have hdigits : ∀ c ∈ ['1', 'F', '2', 'f', '3', 'A'], c ∈ hexAlphabet := by
    rw [← forall_iff_forall_mem]
    decide
  obtain ⟨hwritten, hnumbers, -, -, hsix⟩ := hex_colours_consistent 2 ['1', 'F', '2', 'f', '3', 'A'] hdigits 0.5
  have hthree : (3 : ℕ) ∣ 6 := by decide
  have hlimit : 10 ^ 2 ≤ 10 ^ digitLimit := Nat.pow_le_pow_right (by decide) (by decide)
  have hsmall : ∀ n ∈ [31, 47, 58], n < 10 ^ digitLimit := by
    intro n hn
    have hbyte : n < 10 ^ 2 := by
      simp only [mem_cons, not_mem_nil, or_false] at hn
      omega
    exact lt_of_lt_of_le hbyte hlimit
  obtain ⟨v, hv⟩ := hwritten.mpr ⟨by decide, hthree, hsmall⟩
  refine ⟨?_, hsix rfl⟩
  rw [(hnumbers (by decide) hthree).2 v hv] at hv
  exact hv

theorem numberOf_replicate (k : ℕ) : numberOf (replicate k 'f') + 1 = 16 ^ k := by
  induction k with
  | zero => rfl
  | succ k ih =>
    have hworth : worthOf 'f' = 15 := by decide
    rw [replicate_succ', numberOf_concat, hworth, pow_succ]
    omega

/-- A colour of 10716 digits has three groups, but their numbers have more than 4300 decimal digits. -/
theorem hex_colour_too_long :
    (∀ c ∈ List.replicate 10716 'f', c ∈ hexAlphabet) ∧ 0 < (List.replicate 10716 'f').length ∧
      3 ∣ (List.replicate 10716 'f').length ∧
      ∃ m, withOpacityCommand.Refuses [.str (String.ofList (List.replicate 10716 'f')), 0.5] (.wrongValue m) := by
  have hdigits : ∀ c ∈ List.replicate 10716 'f', c ∈ hexAlphabet := by
    intro c hc
    rw [eq_of_mem_replicate hc]
    decide
  have hthird : third 0 (List.replicate 10716 'f') = List.replicate 3572 'f' := by
    rw [third, length_replicate, Nat.zero_mul, drop_zero, take_replicate,
      show min (10716 / 3) 10716 = 3572 by decide]
  have hlarge : 10 ^ digitLimit < 16 ^ 3572 := by decide +kernel
  have hnot : ¬ Showable (List.replicate 10716 'f') := by
    intro hw
    have hsmall := hw.small 0 (by decide)
    have hvalue := numberOf_replicate 3572
    rw [hthird] at hsmall
    omega
  refine ⟨hdigits, ?_, ?_, withOpacity_refuses 0 0.5 hdigits hnot⟩
  · rw [length_replicate]
    decide
  · rw [length_replicate]
    decide

end RemoteSensing.Colour
