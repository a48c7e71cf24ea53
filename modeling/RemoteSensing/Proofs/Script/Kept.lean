import RemoteSensing.Proofs.Script.Lost

/-!
What a script keeps when its functions are taken out (`Kept`): its braces, and the lines outside of all functions, in
their order and as often as they were there.
-/

namespace RemoteSensing.Script

open Line List

variable {x : Line} {script : List Line}

/-- Is the text of a line in the body of the function, or is it what is left of its last line? -/
def Piece.holds (x : Line) : Piece → Bool
  | .plain whole l => !whole && trim l == trim x
  | .block _ body _ _ => body.any fun b => trim b == trim x
  | _ => false

/-- A plain line that cannot be taken for one that is put out for a function: it is not blank, closes no brace, has no
name of a function in it, and its text is not part of a function. -/
structure Aside (ps : List Piece) (x : Line) : Prop where
  plain : passesFunction x = false
  text : trim x ≠ []
  brace : '\x7d' ∉ x
  unnamed : ¬ "func_".toList <:+: x
  elsewhere : ∀ p ∈ ps, p.holds x = false

theorem Aside.of_cons {p : Piece} {ps : List Piece} (h : Aside (p :: ps) x) : Aside ps x :=
  { h with elsewhere := fun q hq => h.elsewhere q (mem_cons_of_mem p hq) }

theorem exists_of_mem_moved {body moved : List Line} (h : List.Forall₂ Indented body moved) (hx : x ∈ moved) :
    ∃ b ∈ body, trim b = trim x := by
  induction h with
  | nil => cases hx
  | @cons b y body moved hb _ ih =>
    rcases List.mem_cons.mp hx with rfl | hx
    · obtain ⟨k, rfl⟩ := hb
      exact ⟨b, mem_cons_self, (Chars.trim_replicate_append k b).symm⟩
    · obtain ⟨b', hb', htrim⟩ := ih hx
      exact ⟨b', mem_cons_of_mem b hb', htrim⟩

section

variable {ps : List Piece} {l last x : Line} {body moved put : List Line} {p : Nat}

theorem Aside.ne_of_mem (h : Aside (.block l body last p :: ps) x) {b : Line} (hb : b ∈ body) :
    trim b ≠ trim x := by
  intro htrim
  have hholds := h.elsewhere _ mem_cons_self
  rw [Piece.holds, any_eq_false] at hholds
  exact hholds b hb (by rw [htrim, beq_self_eq_true])

theorem Aside.count_taken (h : Aside (.block l body last p :: ps) x) (hcarries : Carries l)
    (hlast : '\x7d' ∈ last.take (p + 1)) (hmoved : List.Forall₂ Indented body moved) (n : Nat) :
    (taken l n moved last (p + 1)).count x = 0 := by
  rw [count_eq_zero, taken]
  intro hmem
  simp only [mem_cons, mem_append, not_mem_nil, or_false] at hmem
  rcases hmem with rfl | rfl | hmem | rfl | rfl
  · exact h.text (by decide)
  · exact h.unnamed (name_infix_headOf hcarries n)
  · obtain ⟨b, hb, htrim⟩ := exists_of_mem_moved hmoved hmem
    exact h.ne_of_mem hb htrim
  · exact h.brace hlast
  · exact h.unnamed (name_infix_useOf l n _)

theorem Aside.count_blank (h : Aside ps x) (n : Nat) : (List.replicate n ([] : Line)).count x = 0 := by
  rw [count_eq_zero]
  intro hmem
  exact h.text (by rw [eq_of_mem_replicate hmem]; decide)

theorem Hoisted.count_eq (h : Hoisted ps put) (hone : ¬ ∃ p ∈ ps, p.isOneLine = true) (hx : Aside ps x) :
    put.count x = (outside ps).count x := by
  induction h with
  | nil => rfl
  | @plain whole l ps put h ih =>
    have hrest := ih (fun ⟨p, hp, hp'⟩ => hone ⟨p, mem_cons_of_mem _ hp, hp'⟩) hx.of_cons
    cases whole with
    | true =>
      show (l :: put).count x = (l :: outside ps).count x
      rw [count_cons, count_cons, hrest]
    | false =>
      -- what is left of a last line is put out, but it is no line of the script
      have hne : l ≠ x := by
        rintro rfl
        have hholds := hx.elsewhere _ mem_cons_self
        simp [Piece.holds] at hholds
      rw [count_cons_of_ne hne, hrest]
      rfl
  | oneLine n h ih => exact absurd ⟨_, mem_cons_self, rfl⟩ hone
  | block n hcarries hlast hmoved h ih =>
    rw [count_append, hx.count_taken hcarries hlast hmoved, count_append, hx.count_blank,
      ih (fun ⟨p, hp, hp'⟩ => hone ⟨p, mem_cons_of_mem _ hp, hp'⟩) hx.of_cons, Nat.zero_add, Nat.zero_add]
    rfl

end

theorem count_behind_function {l : Line} (hx : passesFunction x = false) (hl : passesFunction l = true) (whole : Bool)
    (rest : List Line) : (if whole then l :: rest else (l :: rest).tail).count x = rest.count x := by
  have hne : l ≠ x := by
    rintro rfl
    rw [hx] at hl
    cases hl
  cases whole with
  | true => exact count_cons_of_ne hne
  | false => rfl

theorem Pieced.count_outside {whole : Bool} {lines : List Line} {ps : List Piece} (h : Pieced whole lines ps)
    (hx : Aside ps x) : (outside ps).count x = (if whole then lines else lines.tail).count x := by
  induction h with
  | @nil whole => cases whole <;> rfl
  | @plain whole l rest ps hl _ ih =>
    have hrest : (outside ps).count x = rest.count x := ih hx.of_cons
    cases whole with
    | true =>
      show (l :: outside ps).count x = (l :: rest).count x
      rw [count_cons, hrest, count_cons]
    | false => exact hrest
  | oneLine hl hs _ ih =>
    rw [count_behind_function hx.plain hl]
    exact ih hx.of_cons
  | @block whole l last body behind ps p hl hs hlast _ ih =>
    have hbehind : (outside ps).count x = behind.count x := ih hx.of_cons
    have hbody : body.count x = 0 := by
      rw [count_eq_zero]
      intro hmem
      exact hx.ne_of_mem hmem rfl
    -- the last line has the closing brace of the function
    have hne : last ≠ x := by
      rintro rfl
      exact hx.brace (mem_of_mem_take hlast)
    rw [count_behind_function hx.plain hl, count_append, hbody, count_cons_of_ne hne, Nat.zero_add]
    exact hbehind
  | broken hl hs _ ih =>
    rw [count_behind_function hx.plain hl]
    exact ih hx.of_cons

def Nested (script : List Line) : Prop := ∃ p ∈ pieces true script, p.nests = true

def HasOneLine (script : List Line) : Prop := ∃ p ∈ pieces true script, p.isOneLine = true

instance (script : List Line) : Decidable (Nested script) := inferInstanceAs (Decidable (∃ p ∈ _, _))

instance (script : List Line) : Decidable (HasOneLine script) := inferInstanceAs (Decidable (∃ p ∈ _, _))

/-- No code is lost and none is there twice. -/
structure Kept (script output : List Line) : Prop where
  opening : tally '\x7b' output = tally '\x7b' script
  closing : tally '\x7d' output = tally '\x7d' script
  order : (outside (pieces true script)).Sublist output
  often : ∀ x, Aside (pieces true script) x → output.count x = script.count x

section

variable {script output : List Line}

theorem Hoisted.tally_pieces {c : Char} (hc : c = '\x7b' ∨ c = '\x7d') (h : Hoisted (pieces true script) output) :
    tally c output = tally c script + ((pieces true script).map (Piece.surplus c)).sum := by
  rw [h.tally_eq hc, (pieced true script).sum_weight hc]

/-- **The text of the pieces keeps the code** exactly if no function is closed on its own line. -/
theorem Hoisted.kept_iff (h : Hoisted (pieces true script) output) : Kept script output ↔ ¬ HasOneLine script := by
  constructor
  · intro hkept hone
    have hpos := (pieced true script).sum_surplus_pos hone
    have htally := h.tally_pieces (Or.inl rfl)
    rw [hkept.opening] at htally
    omega
  · intro hone
    refine ⟨?_, ?_, h.outside_sublist, ?_⟩
    · rw [h.tally_pieces (Or.inl rfl), sum_surplus_eq_zero hone, Nat.add_zero]
    · rw [h.tally_pieces (Or.inr rfl), sum_surplus_eq_zero hone, Nat.add_zero]
    · intro x hx
      rw [h.count_eq hone hx, (pieced true script).count_outside hx]
      rfl

end

theorem hoist_flat (hbal : Balanced script.flatten) (hlegible : ∀ l ∈ script, Legible l) (hsteady : Steady script)
    (hflat : ¬ Nested script) (w : World) :
    ∃ output w', (hoist script).runIn w = (.ok output, w') ∧ Hoisted (pieces true script) output := by
  have hnests : ∀ p ∈ pieces true script, p.nests = false := by
    intro p hp
    rw [Bool.eq_false_iff]
    exact fun hnests => hflat ⟨p, hp, hnests⟩
  have hpieced := pieced true script
  exact (hpieced.puts_flat script.length hlegible hsteady hnests (hpieced.not_broken hlegible hbal.closing)).runs w

theorem hoist_nested (hbal : Balanced script.flatten) (hreadable : Readable script) (hnested : Nested script) (w : World) :
    ∃ output w', (hoist script).runIn w = (.ok output, w') ∧ tally '\x7d' output < tally '\x7d' script := by
  have hpieced := pieced true script
  have hsound := hpieced.not_broken (fun l hl => (hreadable l hl).1) hbal.closing
  cases script with
  | nil =>
    obtain ⟨p, hp, _⟩ := hnested
    rw [pieces] at hp
    cases hp
  | cons l rest => exact (hpieced.puts_loses rest.length hreadable hnested hsound).runs w

theorem not_hasOneLine (h : ∀ l ∈ script, Spread l) : ¬ HasOneLine script := by
  rintro ⟨x, hx, hone⟩
  match x, hone with
  | .oneLine l p, _ =>
    obtain ⟨hspread, hl, hs, _⟩ := (pieced true script).of_oneLine_mem Spread.readOn h hx
    exact hspread l suffix_rfl hl p hs

/-- **When taking functions out keeps the code**, for a balanced script in which every function has its own brace. If no
function is in the body of another, and no line has to be read together with the next one, then the pieces are put out
one by one, and the code is kept exactly if no function is closed on its own line. If no function is closed on its own
line, and no line ends in an open call, then the code is kept exactly if no function is in the body of another. -/
theorem hoist_kept_iff (script : List Line) (hbal : Balanced script.flatten) (hlegible : ∀ l ∈ script, Legible l)
    (w : World) :
    (Steady script → ¬ Nested script → ∃ output w', (hoist script).runIn w = (.ok output, w') ∧
      Hoisted (pieces true script) output ∧ (Kept script output ↔ ¬ HasOneLine script)) ∧
    ((∀ l ∈ script, Spread l ∧ ¬ LeavesOpen l) → ∃ output w', (hoist script).runIn w = (.ok output, w') ∧
      (Kept script output ↔ ¬ Nested script)) := by
  constructor
  · intro hsteady hflat
    obtain ⟨output, w', hrun, hput⟩ := hoist_flat hbal hlegible hsteady hflat w
    exact ⟨output, w', hrun, hput, hput.kept_iff⟩
  · -- a script that is not nested comes under the first part
    intro hspread
    by_cases hnested : Nested script
    · obtain ⟨output, w', hrun, hlt⟩ := hoist_nested hbal
        (fun l hl => ⟨hlegible l hl, hspread l hl⟩) hnested w
      refine ⟨output, w', hrun, fun hkept => ?_, fun hflat => absurd hnested hflat⟩
      have hclosing := hkept.closing
      omega
    · obtain ⟨output, w', hrun, hput⟩ := hoist_flat hbal hlegible
        (steady_of_not_leavesOpen fun l hl => (hspread l hl).2) hnested w
      refine ⟨output, w', hrun, fun _ => hnested, fun _ => hput.kept_iff.mpr ?_⟩
      exact not_hasOneLine fun l hl => (hspread l hl).1

def sideBySide : List Line :=
  ["n = 2;", "x.map(function(i) \x7b", "  return i;", "\x7d);", "y.map(", "  twice);", "z.map(function(j) \x7b",
    "  if (j) \x7b return n; \x7d", "\x7d);"].map String.toList

def oneInAnother : List Line :=
  ["x.map(function(i) \x7b", "i.map(function(j) \x7b", "  return j;", "\x7d);", "\x7d);"].map String.toList

theorem hoist_kept_iff_side_by_side :
    ((Balanced sideBySide.flatten ∧ (∀ l ∈ sideBySide, Legible l) ∧ Steady sideBySide ∧ ¬ Nested sideBySide ∧
        ¬ HasOneLine sideBySide) ∧
      ∃ output w', (hoist sideBySide).runIn {} = (.ok output, w') ∧ Kept sideBySide output) ∧
    ((Balanced oneInAnother.flatten ∧ (∀ l ∈ oneInAnother, Legible l) ∧
        (∀ l ∈ oneInAnother, Spread l ∧ ¬ LeavesOpen l) ∧ Nested oneInAnother) ∧
      ∃ output w', (hoist oneInAnother).runIn {} = (.ok output, w') ∧ ¬ Kept oneInAnother output) := by
  constructor
  · have hbal : Balanced sideBySide.flatten := by decide +kernel
    have hlegible : ∀ l ∈ sideBySide, Legible l := by decide +kernel
    have hsteady : Steady sideBySide := by decide +kernel
    have hflat : ¬ Nested sideBySide := by decide +kernel
    have hone : ¬ HasOneLine sideBySide := by decide +kernel
    obtain ⟨output, w', hrun, _, hkept⟩ := (hoist_kept_iff sideBySide hbal hlegible {}).1 hsteady hflat
    exact ⟨⟨hbal, hlegible, hsteady, hflat, hone⟩, output, w', hrun, hkept.mpr hone⟩
  · have hbal : Balanced oneInAnother.flatten := by decide +kernel
    have hlegible : ∀ l ∈ oneInAnother, Legible l := by decide +kernel
    have hspread : ∀ l ∈ oneInAnother, Spread l ∧ ¬ LeavesOpen l := by decide +kernel
    have hnested : Nested oneInAnother := by decide +kernel
    obtain ⟨output, w', hrun, hkept⟩ := (hoist_kept_iff oneInAnother hbal hlegible {}).2 hspread
    exact ⟨⟨hbal, hlegible, hspread, hnested⟩, output, w', hrun, fun h => hkept.mp h hnested⟩

def closedAtOnce : List Line := ["x.map(function(i) \x7b return i; \x7d)".toList]

/-- What stands in front of the brace of a function that is closed on its own line is put out twice. -/
theorem hoist_closed_at_once :
    Balanced closedAtOnce.flatten ∧ (∀ l ∈ closedAtOnce, Legible l) ∧ tally '\x7b' closedAtOnce = 1 ∧
    ∃ output w', (hoist closedAtOnce).runIn {} = (.ok output, w') ∧
      output = ["\n", "function func_aaa(i) \x7b return i; \x7d)", "x.map(function(i) \x7b return i; \x7d",
        "x.map(func_aaa)"].map String.toList ∧ tally '\x7b' output = 2 := by
  refine ⟨by decide +kernel, by decide +kernel, by decide +kernel, _, _, rfl, ?_, ?_⟩
  · decide +kernel
  · decide +kernel

end RemoteSensing.Script
