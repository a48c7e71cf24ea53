import RemoteSensing.Proofs.Session.Run
import RemoteSensing.Proofs.Text.Lines
import RemoteSensing.Proofs.Value.Fields
import RemoteSensing.Script.Line

/-!
Where a brace is closed.
-/

namespace RemoteSensing.Script

open List Chars Except

variable {l : Line} {text : List Char} {lines rest : List Line} {b d p : Nat}

def tally (c : Char) (lines : List Line) : Nat := lines.flatten.count c

@[simp] theorem tally_nil (c : Char) : tally c [] = 0 := rfl

@[simp] theorem tally_cons (c : Char) (l : Line) (lines : List Line) :
    tally c (l :: lines) = l.count c + tally c lines := by
  rw [tally, flatten_cons, count_append, tally]

@[simp] theorem tally_append (c : Char) (a b : List Line) : tally c (a ++ b) = tally c a + tally c b := by
  rw [tally, flatten_append, count_append, tally, tally]

@[simp] theorem tally_replicate_nil (c : Char) (n : Nat) : tally c (List.replicate n []) = 0 := by
  induction n with
  | zero => rfl
  | succ n ih =>
    rw [replicate_succ, tally_cons, ih]
    rfl

def Closing (text : List Char) : Prop := ∀ s, s <:+ text → s.count '\x7b' ≤ s.count '\x7d'

/-- A text in which every brace has its partner: nothing is closed before it was opened, and all is closed at last. -/
def Balanced (text : List Char) : Prop :=
  (∀ s, s <+: text → s.count '\x7d' ≤ s.count '\x7b') ∧ text.count '\x7b' = text.count '\x7d'

instance (text : List Char) : Decidable (Balanced text) :=
  decidable_of_iff ((∀ s ∈ text.inits, s.count '\x7d' ≤ s.count '\x7b') ∧ text.count '\x7b' = text.count '\x7d')
    (by simp only [Balanced, mem_inits])

theorem Balanced.closing (h : Balanced text) : Closing text := by
  rintro s ⟨a, rfl⟩
  have hpre := h.1 a (prefix_append a s)
  have hall := h.2
  rw [count_append, count_append] at hall
  omega

theorem Closing.suffix {s : List Char} (h : Closing text) (hs : s <:+ text) : Closing s :=
  fun t ht => h t (ht.trans hs)

theorem scanLine_cons (o c : Char) (d i : Nat) (x : Char) (r : Line) :
    scanLine o c d i (x :: r) =
      if x = c then
        match d with
        | 0 => .stray
        | 1 => .closed i
        | d + 2 => scanLine o c (d + 1) (i + 1) r
      else if x = o then scanLine o c (d + 1) (i + 1) r
      else if d = 0 then .closed i
      else scanLine o c d (i + 1) r :=
  scanLine.eq_def o c d i (x :: r)

theorem scanLine_open (d i : Nat) (t : Line) :
    scanLine '\x7b' '\x7d' d i ('\x7b' :: t) = scanLine '\x7b' '\x7d' (d + 1) (i + 1) t := by
  rw [scanLine_cons, if_neg (by decide), if_pos rfl]

/-- A character that does not end the search is counted, and the search goes on behind it. -/
theorem scanLine_step {o c x : Char} (hoc : o ≠ c) (hlast : ¬ (x = c ∧ d = 1)) (hd : 1 ≤ d ∨ x = o) :
    ∃ d₁, 1 ≤ d₁ ∧ (∀ s, d₁ + (x :: s).count c + s.count o = d + (x :: s).count o + s.count c) ∧
      ∀ i t, scanLine o c d i (x :: t) = scanLine o c d₁ (i + 1) t := by
  by_cases hc : x = c
  · subst hc
    have hd : 1 ≤ d := hd.resolve_right hoc.symm
    have hmore : d ≠ 1 := fun h => hlast ⟨rfl, h⟩
    obtain ⟨e, rfl⟩ : ∃ e, d = e + 2 := ⟨d - 2, by omega⟩
    refine ⟨e + 1, by omega, fun s => ?_, fun i t => by rw [scanLine_cons, if_pos rfl]⟩
    rw [count_cons_self, count_cons_of_ne hoc.symm]
    omega
  · by_cases ho : x = o
    · subst ho
      refine ⟨d + 1, by omega, fun s => ?_, fun i t => by rw [scanLine_cons, if_neg hc, if_pos rfl]⟩
      rw [count_cons_self, count_cons_of_ne hc]
      omega
    · have hd : 1 ≤ d := hd.resolve_right ho
      refine ⟨d, hd, fun s => ?_, fun i t => by rw [scanLine_cons, if_neg hc, if_neg ho, if_neg (by omega)]⟩
      rw [count_cons_of_ne hc, count_cons_of_ne ho]
      omega

/-- No place among the first `n` of the line closes the `d` brackets. -/
def Pending (o c : Char) (d : Nat) (l : Line) (n : Nat) : Prop :=
  ∀ m < n, (l.take (m + 1)).count c < (l.take (m + 1)).count o + d

/-- A search with an open bracket ends where the last one is first closed, whatever follows there, or goes on with the
next line. -/
theorem scanLine_first {o c : Char} (hoc : o ≠ c) (hd : 1 ≤ d ∨ l.head? = some o) :
    (∃ a b, l = a ++ c :: b ∧ a.count c + 1 = a.count o + d ∧
      (∀ i t, scanLine o c d i (a ++ c :: t) = .closed (i + a.length)) ∧ Pending o c d l a.length) ∨
    ∃ d', 1 ≤ d' ∧ d' + l.count c = d + l.count o ∧ (∀ i, scanLine o c d i l = .pending d') ∧ Pending o c d l l.length := by
  induction l generalizing d with
  | nil => exact .inr ⟨d, hd.resolve_right nofun, rfl, fun _ => rfl, nofun⟩
  | cons x r ih =>
    by_cases hlast : x = c ∧ d = 1
    · obtain ⟨rfl, rfl⟩ := hlast
      exact .inl ⟨[], r, rfl, rfl, fun i t => by rw [nil_append, scanLine_cons, if_pos rfl]; rfl, nofun⟩
    · -- one character further on, what was found stays found, and the count takes the character in
      obtain ⟨d₁, hd₁, hcount, hstep⟩ := scanLine_step hoc hlast (hd.imp_right Option.some.inj)
      have hpending : ∀ n, Pending o c d₁ r n → Pending o c d (x :: r) (n + 1) := by
        intro n h m hm
        have := hcount (r.take m)
        rw [take_succ_cons]
        cases m with
        | zero =>
          rw [take_zero, count_nil, count_nil] at this
          rw [take_zero]
          omega
        | succ m =>
          have := h m (by omega)
          omega
      rcases ih (.inl hd₁) with ⟨a, b, rfl, hsum, hscan, h⟩ | ⟨d', hd', hsum, hscan, h⟩
      · have := hcount a
        refine .inl ⟨x :: a, b, rfl, by omega, fun i t => ?_, hpending _ h⟩
        rw [cons_append, hstep, hscan, length_cons, Nat.add_right_comm, Nat.add_assoc]
      · have := hcount r
        exact .inr ⟨d', hd', by omega, fun i => (hstep i r).trans (hscan (i + 1)), hpending _ h⟩

theorem scanLine_cases (hd : 1 ≤ d) (l : Line) :
    (∃ a b, l = a ++ '\x7d' :: b ∧ a.count '\x7d' + 1 = a.count '\x7b' + d ∧
      ∀ i t, scanLine '\x7b' '\x7d' d i (a ++ '\x7d' :: t) = .closed (i + a.length)) ∨
    ∃ d', 1 ≤ d' ∧ d' + l.count '\x7d' = d + l.count '\x7b' ∧ ∀ i, scanLine '\x7b' '\x7d' d i l = .pending d' := by
  rcases scanLine_first (by decide : '\x7b' ≠ '\x7d') (.inl hd) with ⟨a, b, hl, hsum, hscan, -⟩ | ⟨d', hd', hsum, hscan, -⟩
  · exact .inl ⟨a, b, hl, hsum, hscan⟩
  · exact .inr ⟨d', hd', hsum, hscan⟩

/-- Where the last of `d` open braces is closed: the number of the line, counted from the first, and the position. -/
def closeIn (d : Nat) : List Line → Option (Nat × Nat)
  | [] => none
  | l :: rest =>
    match scanLine '\x7b' '\x7d' d 0 l with
    | .closed p => some (0, p)
    | .pending d' => (closeIn d' rest).map fun e => (e.1 + 1, e.2)
    | .stray => none

/-- Where the first brace of a line is closed: on the line itself, with the number 0, or further on. -/
def spanOf (l : Line) (rest : List Line) : Option (Nat × Nat) :=
  match find? ['\x7b'] l with
  | none => none
  | some b =>
    match scanLine '\x7b' '\x7d' 0 b (l.drop b) with
    | .closed p => some (0, p)
    | .pending d => (closeIn d rest).map fun e => (e.1 + 1, e.2)
    | .stray => none

theorem closeIn_eq_some (hd : 1 ≤ d) {k : Nat} (h : closeIn d lines = some (k, p)) :
    ∃ body a b rest, lines = body ++ (a ++ '\x7d' :: b) :: rest ∧ body.length = k ∧ a.length = p := by
  induction lines generalizing d k with
  | nil => cases h
  | cons l rest ih =>
    rcases scanLine_cases hd l with ⟨a, b, rfl, -, hscan⟩ | ⟨d', hd', _, hscan⟩
    · rw [closeIn, hscan] at h
      cases h
      exact ⟨[], a, b, rest, rfl, rfl, by omega⟩
    · rw [closeIn, hscan] at h
      obtain ⟨⟨k', p'⟩, hrest, he⟩ := Option.map_eq_some_iff.mp h
      cases he
      obtain ⟨body, a, b, rest', hlines, hk, hp⟩ := ih hd' hrest
      exact ⟨l :: body, a, b, rest', by rw [hlines]; rfl, by rw [length_cons, hk], hp⟩

theorem closeIn_eq_none (hd : 1 ≤ d) (h : closeIn d lines = none) : tally '\x7d' lines < d + tally '\x7b' lines := by
  induction lines generalizing d with
  | nil =>
    rw [tally_nil, tally_nil]
    omega
  | cons l rest ih =>
    rcases scanLine_cases hd l with ⟨a, b, rfl, -, hscan⟩ | ⟨d', hd', hcount, hscan⟩
    · rw [closeIn, hscan] at h
      cases h
    · rw [closeIn, hscan] at h
      have hrest := ih hd' (Option.map_eq_none_iff.mp h)
      rw [tally_cons, tally_cons]
      omega

/-- Lines with their numbers, as they are searched behind the line of the brace. -/
def numbered (s : Int) (lines : List Line) : List (Int × Int × Line) := lines.mapIdx fun k l => (s + k, 0, l)

theorem numbered_cons (s : Int) (l : Line) (rest : List Line) :
    numbered s (l :: rest) = (s, 0, l) :: numbered (s + 1) rest := by
  simp [numbered, Int.add_assoc, Int.add_comm 1]

theorem scanLines_eq (hd : 1 ≤ d) (lines : List Line) (s : Int) :
    scanLines '\x7b' '\x7d' d (numbered s lines) = .ok ((closeIn d lines).map fun e => (s + e.1, (e.2 : Int))) := by
  induction lines generalizing d s with
  | nil => rfl
  | cons l rest ih =>
    rw [numbered_cons, scanLines, closeIn]
    rcases scanLine_cases hd l with ⟨a, b, rfl, _, hscan⟩ | ⟨d', hd', _, hscan⟩
    · rw [hscan]
      simp
    · rw [hscan]
      show scanLines _ _ d' _ = _
      rw [ih hd' (s + 1), Option.map_map]
      congr 2
      funext e
      exact Prod.ext (by simp only [Function.comp]; omega) rfl

theorem searchLines_eq {i : Nat} (h : lines.drop i = l :: rest) (b : Nat) :
    searchLines lines i b = .ok ((i, b, l.drop b) :: numbered (i + 1) rest) := by
  have hcount : ((lines.length : Int) - i).toNat = (l :: rest).length := by
    rw [← h, length_drop]
    omega
  rw [searchLines, hcount, mapM_eq_ok (g := fun (n : Nat) =>
    if n = 0 then ((i : Int), (b : Int), l.drop b) else ((i : Int) + n, 0, (l :: rest).getD n []))]
  · rw [length_cons, range_succ_eq_map, map_cons, map_map]
    refine congrArg ok (congrArg _ (ext_getElem (by simp [numbered]) fun k _ hk => ?_))
    have hk : k < rest.length := by simpa [numbered] using hk
    simp [numbered, hk, Int.add_assoc, Int.add_comm 1]
  · -- only the line with the brace is cut
    intro n hn
    rw [mem_range] at hn
    have hget : lines[i + n]? = some ((l :: rest).getD n []) := by
      rw [← getElem?_drop, h, getD_eq_getElem?_getD, List.getElem?_eq_getElem hn]
      rfl
    show (Value.elementAt "list" lines ((i + n : Nat) : Int) >>= _) = _
    rw [Value.elementAt_natCast "list" hget]
    cases n with
    | zero =>
      show ok (_, _, slice l b l.length) = _
      rw [slice_from]
      rfl
    | succ n => rfl

theorem drop_of_find (h : find? ['\x7b'] l = some b) :
    ∃ a tail, l = a ++ '\x7b' :: tail ∧ a.length = b ∧ l.drop b = '\x7b' :: tail := by
  obtain ⟨a, tail, hl, ha⟩ := find?_eq_some h
  rw [append_assoc, singleton_append] at hl
  exact ⟨a, tail, hl, ha, by rw [hl, ← ha, drop_left]⟩

theorem spanOf_cases (h : find? ['\x7b'] l = some b) :
    (∃ p, scanLine '\x7b' '\x7d' 0 0 (l.drop b) = .closed p ∧ '\x7b' ∈ l.take (b + p + 1) ∧
      ∀ rest, spanOf l rest = some (0, b + p)) ∨
    ∃ d, scanLine '\x7b' '\x7d' 0 0 (l.drop b) = .pending d ∧ 1 ≤ d ∧
      d + (l.drop b).count '\x7d' = (l.drop b).count '\x7b' ∧
      ∀ rest, spanOf l rest = (closeIn d rest).map fun e => (e.1 + 1, e.2) := by
  obtain ⟨a, tail, hl, ha, hdrop⟩ := drop_of_find h
  have hspan : ∀ rest, spanOf l rest = match scanLine '\x7b' '\x7d' 1 (b + 1) tail with
      | .closed p => some (0, p)
      | .pending d => (closeIn d rest).map fun e => (e.1 + 1, e.2)
      | .stray => none := by
    intro rest
    rw [spanOf, h]
    simp only [hdrop, scanLine_open]
  rw [hdrop, scanLine_open]
  rcases scanLine_cases (Nat.le_refl 1) tail with ⟨x, y, rfl, _, hscan⟩ | ⟨d, hd, hcount, hscan⟩
  · refine Or.inl ⟨0 + 1 + x.length, hscan _ y, ?_, fun rest => ?_⟩
    · rw [hl, ← ha, Nat.add_assoc, take_length_add_append, take_succ_cons]
      simp
    · rw [hspan, hscan]
      simp only [Nat.zero_add, Nat.add_assoc]
  · refine Or.inr ⟨d, hscan _, hd, ?_, fun rest => by rw [hspan, hscan]⟩
    rw [count_cons_self, count_cons_of_ne (by decide)]
    omega

/-- **Where the closing brace is**, as the script numbers its lines. -/
theorem matchingBrace_eq (h : find? ['\x7b'] l = some b) (before rest : List Line) :
    matchingBrace (before ++ l :: rest) before.length b = .ok (match spanOf l rest with
      | some (k, p) => ((before.length + k : Nat), (p : Int))
      | none => (-1, -1)) := by
  rw [matchingBrace, matching?, searchLines_eq drop_left]
  show (scanLines '\x7b' '\x7d' 0 (((before.length : Int), (b : Int), l.drop b) :: _) >>=
    fun found => ok (found.getD (-1, -1))) = _
  rw [scanLines]
  rcases spanOf_cases h with ⟨p, hscan, _, hspan⟩ | ⟨d, hscan, hd, _, hspan⟩
  · rw [hscan, hspan]
    rfl
  · rw [hscan, hspan]
    show (scanLines '\x7b' '\x7d' d _ >>= fun found => ok (found.getD (-1, -1))) = _
    rw [scanLines_eq hd]
    cases hclose : closeIn d rest with
    | none => rfl
    | some e =>
      show ok ((before.length : Int) + 1 + (e.1 : Int), (e.2 : Int)) =
        ok (((before.length + (e.1 + 1) : Nat) : Int), (e.2 : Int))
      rw [show ((before.length + (e.1 + 1) : Nat) : Int) = before.length + 1 + e.1 by push_cast; omega]

theorem find_of_spanOf {e : Nat × Nat} (h : spanOf l rest = some e) : ∃ b, find? ['\x7b'] l = some b := by
  cases hfind : find? ['\x7b'] l with
  | none =>
    rw [spanOf, hfind] at h
    cases h
  | some b => exact ⟨b, rfl⟩

theorem spanOf_own (h : spanOf l rest = some (0, p)) : spanOf l [] = some (0, p) ∧ '\x7b' ∈ l.take (p + 1) := by
  obtain ⟨b, hb⟩ := find_of_spanOf h
  rcases spanOf_cases hb with ⟨q, _, hmem, hspan⟩ | ⟨d, _, _, _, hspan⟩
  · rw [hspan] at h
    cases h
    exact ⟨hspan [], hmem⟩
  · rw [hspan] at h
    obtain ⟨e, _, he⟩ := Option.map_eq_some_iff.mp h
    cases he

theorem spanOf_further {k : Nat} (h : spanOf l rest = some (k + 1, p)) :
    ∃ body a b behind, rest = body ++ (a ++ '\x7d' :: b) :: behind ∧ body.length = k ∧ a.length = p := by
  obtain ⟨b, hb⟩ := find_of_spanOf h
  rcases spanOf_cases hb with ⟨q, _, _, hspan⟩ | ⟨d, _, hd, _, hspan⟩
  · rw [hspan] at h
    cases h
  · rw [hspan] at h
    obtain ⟨⟨k', p'⟩, hclose, he⟩ := Option.map_eq_some_iff.mp h
    cases he
    exact closeIn_eq_some hd hclose

theorem Closing.spanOf_isSome (h : Closing (l :: rest).flatten) (hl : '\x7b' ∈ l) : ∃ e, spanOf l rest = some e := by
  obtain ⟨b, hb⟩ := find?_of_mem hl
  rcases spanOf_cases hb with ⟨p, _, _, hspan⟩ | ⟨d, _, hd, hcount, hspan⟩
  · exact ⟨_, hspan rest⟩
  · cases hclose : closeIn d rest with
    | some e => exact ⟨_, by rw [hspan, hclose]; rfl⟩
    | none =>
      -- from the first brace on there are more opening than closing braces
      have hlt := closeIn_eq_none hd hclose
      have hsuffix : l.drop b ++ rest.flatten <:+ (l :: rest).flatten := by
        refine ⟨l.take b, ?_⟩
        rw [← append_assoc, take_append_drop, flatten_cons]
      have hle := h _ hsuffix
      rw [count_append, count_append] at hle
      unfold tally at hlt
      omega

end RemoteSensing.Script
