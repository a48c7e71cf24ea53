import RemoteSensing.Proofs.Script.Brace
import RemoteSensing.Script.Block

/-!
The pieces of a script.
-/

namespace RemoteSensing.Script

open Line List RemoteSensing.Text

variable {whole : Bool} {c : Char} {l last s : Line} {P : Line → Prop} {behind body lines : List Line}

/-- A piece of a script. -/
inductive Piece where
  | plain (whole : Bool) (l : Line)
  | oneLine (l : Line) (position : Nat)
  | block (head : Line) (body : List Line) (last : Line) (position : Nat)
  | broken (l : Line)

def closesCall (s : Line) : Bool := trim s == ")".toList || trim s == ");".toList

/-- The line that is read on when a text stands behind the closing brace of a function. -/
def readOn (s : Line) : Line := if closesCall s then [] else trim s

/-- The pieces of a script; `whole` tells whether the first line is one of the script or what is left of one. -/
def pieces (whole : Bool) : List Line → List Piece
  | [] => []
  | l :: rest =>
    if passesFunction l then
      match spanOf l rest with
      | some (0, p) => .oneLine l p :: pieces true rest
      | some (k + 1, p) =>
        .block l (rest.take k) (rest.getD k []) p ::
          (if k < rest.length then pieces false (readOn ((rest.getD k []).drop (p + 1)) :: rest.drop (k + 1)) else [])
      | none => .broken l :: pieces true rest
    else .plain whole l :: pieces true rest
termination_by lines => lines.length
decreasing_by
  all_goals simp only [length_cons, length_drop]
  all_goals omega

def Piece.nests : Piece → Bool
  | .block _ body _ _ => body.any passesFunction
  | _ => false

def Piece.isOneLine : Piece → Bool
  | .oneLine .. => true
  | _ => false

def outside (ps : List Piece) : List Line :=
  ps.filterMap fun p => match p with
    | .plain true l => some l
    | _ => none

/-- The pieces of a script, one by one. -/
inductive Pieced : Bool → List Line → List Piece → Prop where
  | nil {whole : Bool} : Pieced whole [] []
  | plain {whole : Bool} {l : Line} {rest : List Line} {ps : List Piece} (hl : passesFunction l = false)
    (h : Pieced true rest ps) : Pieced whole (l :: rest) (.plain whole l :: ps)
  | oneLine {whole : Bool} {l : Line} {rest : List Line} {ps : List Piece} {p : Nat} (hl : passesFunction l = true)
    (hs : spanOf l rest = some (0, p)) (h : Pieced true rest ps) : Pieced whole (l :: rest) (.oneLine l p :: ps)
  | block {whole : Bool} {l last : Line} {body behind : List Line} {ps : List Piece} {p : Nat}
    (hl : passesFunction l = true) (hs : spanOf l (body ++ last :: behind) = some (body.length + 1, p))
    (hlast : '\x7d' ∈ last.take (p + 1)) (h : Pieced false (readOn (last.drop (p + 1)) :: behind) ps) :
    Pieced whole (l :: (body ++ last :: behind)) (.block l body last p :: ps)
  | broken {whole : Bool} {l : Line} {rest : List Line} {ps : List Piece} (hl : passesFunction l = true)
    (hs : spanOf l rest = none) (h : Pieced true rest ps) : Pieced whole (l :: rest) (.broken l :: ps)

theorem pieced (whole : Bool) (lines : List Line) : Pieced whole lines (pieces whole lines) := by
  fun_induction pieces whole lines with
  | case1 => exact .nil
  | case2 whole l rest hl p hs ih => exact .oneLine hl hs ih
  | case3 whole l rest hl k p hs ih =>
    obtain ⟨body, a, b, behind, rfl, rfl, hp⟩ := spanOf_further hs
    have hbrace : '\x7d' ∈ (a ++ '\x7d' :: b).take (p + 1) := by
      rw [← hp, take_append, Nat.add_sub_cancel_left]
      simp
    have hlast : (body ++ (a ++ '\x7d' :: b) :: behind).getD body.length [] = a ++ '\x7d' :: b := by
      rw [getD_eq_getElem?_getD, getElem?_append_right (Nat.le_refl _), Nat.sub_self]
      rfl
    have hbehind : (body ++ (a ++ '\x7d' :: b) :: behind).drop (body.length + 1) = behind := by
      rw [drop_append, drop_eq_nil_of_le (by omega), Nat.add_sub_cancel_left]
      rfl
    have hlt : body.length < (body ++ (a ++ '\x7d' :: b) :: behind).length := by
      rw [length_append, length_cons]
      omega
    rw [hlast, hbehind] at ih
    rw [if_pos hlt, take_left, hlast, hbehind]
    exact .block hl hs hbrace (ih hlt)
  | case4 whole l rest hl hs ih => exact .broken hl hs ih
  | case5 whole l rest hl ih => exact .plain (by simpa using hl) ih

def Carries (s : Line) : Prop := ∃ a b, s = a ++ "function".toList ++ b ∧ '\x7b' ∈ b

def Legible (l : Line) : Prop := ∀ s, s <:+ l → passesFunction s = true → Carries s

def LeavesOpen (l : Line) : Prop := ".map(".toList <:+ Chars.trimRight l

def beginsFunction (l : Line) : Bool := starts (dense (trim l)) "function("

/-- A call that is left open goes on in the next line, which does not begin with a function and closes no brace. -/
def Steady : List Line → Prop
  | [] => True
  | l :: rest =>
    (LeavesOpen l → ∃ next ∈ rest.head?, beginsFunction next = false ∧ '\x7d' ∉ next) ∧ Steady rest

def Spread (l : Line) : Prop := ∀ s, s <:+ l → passesFunction s = true → ∀ p, spanOf s [] ≠ some (0, p)

/-! Whether a line is legible, and so on, can be computed: there are only so many ends of a line. -/

theorem carries_iff :
    Carries s ↔ ∃ i ∈ range s.length, "function".toList <+: s.drop i ∧ '\x7b' ∈ s.drop (i + 8) := by
  constructor
  · rintro ⟨a, b, rfl, hb⟩
    refine ⟨a.length, by simp, ?_, ?_⟩
    · rw [append_assoc, drop_left]
      exact prefix_append _ _
    · have hlen : (a ++ "function".toList).length = a.length + 8 := by simp
      rwa [← hlen, drop_left]
  · rintro ⟨i, _, ⟨b, hb⟩, hmem⟩
    refine ⟨s.take i, b, by rw [append_assoc, hb, take_append_drop], ?_⟩
    rwa [← drop_drop, ← hb, drop_left' (by decide)] at hmem

theorem spread_iff :
    Spread l ↔ ∀ s ∈ l.tails, passesFunction s = true → (spanOf s []).all (fun e => e.1 != 0) = true := by
  simp only [Spread, mem_tails]
  refine forall_congr' fun s => imp_congr_right fun _ => imp_congr_right fun _ => ?_
  cases spanOf s [] with
  | none => simp
  | some e =>
    obtain ⟨k, p⟩ := e
    simp

instance (s : Line) : Decidable (Carries s) := decidable_of_iff _ carries_iff.symm

instance (l : Line) : Decidable (Legible l) :=
  decidable_of_iff (∀ s ∈ l.tails, passesFunction s = true → Carries s) (by simp only [Legible, mem_tails])

instance (l : Line) : Decidable (Spread l) := decidable_of_iff _ spread_iff.symm

instance (l : Line) : Decidable (LeavesOpen l) := inferInstanceAs (Decidable (_ <:+ _))

instance Steady.instDecidable : (lines : List Line) → Decidable (Steady lines)
  | [] => isTrue trivial
  | l :: rest =>
    have : Decidable (Steady rest) := Steady.instDecidable rest
    inferInstanceAs (Decidable
      ((LeavesOpen l → ∃ next ∈ rest.head?, beginsFunction next = false ∧ '\x7d' ∉ next) ∧ Steady rest))

theorem has_append {sub : String} (h : has s sub = true) (r : Line) : has (s ++ r) sub = true := by
  rw [has, Chars.contains_iff] at h ⊢
  exact h.trans (prefix_append s r).isInfix

theorem passesFunction_append (h : passesFunction s = true) (r : Line) : passesFunction (s ++ r) = true := by
  have hdense : dense (s ++ r) = dense s ++ dense r := filter_append s r
  rw [passesFunction, Bool.or_eq_true, Bool.or_eq_true] at h ⊢
  rw [hdense]
  rcases h with (h | h) | h
  · exact Or.inl (Or.inl (has_append h _))
  · exact Or.inl (Or.inr (has_append h _))
  · exact Or.inr (has_append h _)

theorem isBlank_brace (hc : c = '\x7b' ∨ c = '\x7d') : isBlank c = false := by
  rcases hc with rfl | rfl <;> decide

theorem count_blanks (hc : c = '\x7b' ∨ c = '\x7d') (h : ∀ x ∈ s, isBlank x = true) : s.count c = 0 := by
  rw [count_eq_zero]
  intro hmem
  cases (isBlank_brace hc).symm.trans (h c hmem)

theorem Carries.mem (h : Carries s) : '\x7b' ∈ s := by
  obtain ⟨a, b, rfl, hb⟩ := h
  exact mem_append_right _ hb

theorem Carries.has (h : Carries s) : ∃ i, Chars.find? "function".toList s = some i := by
  obtain ⟨a, b, rfl, -⟩ := h
  exact Option.isSome_iff_exists.mp (Chars.contains_iff.mpr ⟨a, b, rfl⟩)

theorem Carries.of_append_blank {b : Line} (h : Carries (s ++ b)) (hb : ∀ c ∈ b, isBlank c = true) : Carries s := by
  obtain ⟨a, r, hs, hr⟩ := h
  obtain ⟨x, y, rfl⟩ := append_of_mem hr
  have hnot : '\x7b' ∉ b := count_eq_zero.mp (count_blanks (Or.inl rfl) hb)
  -- the blanks begin behind the brace, since it is not one of them
  rw [← append_assoc] at hs
  rcases append_eq_append_iff.mp hs with ⟨m, _, hm⟩ | ⟨m, hm, hy⟩
  · exact absurd (by rw [hm]; simp) hnot
  · cases m with
    | nil => exact absurd (by rw [← nil_append b, ← hy]; exact mem_cons_self) hnot
    | cons c m =>
      rw [cons_append, cons.injEq] at hy
      refine ⟨a, x ++ c :: m, by rw [hm, append_assoc (a ++ _)], ?_⟩
      rw [← hy.1]
      simp

theorem spanOf_append {p : Nat} (h : spanOf s [] = some (0, p)) (r : Line) : spanOf (s ++ r) [] = some (0, p) := by
  obtain ⟨b, hb⟩ := find_of_spanOf h
  obtain ⟨a, tail, rfl, rfl, hdrop⟩ := drop_of_find hb
  rw [spanOf, hb] at h
  simp only [hdrop, scanLine_open] at h
  rw [spanOf, Chars.find?_append hb, append_assoc, cons_append]
  simp only [drop_left, scanLine_open]
  rcases scanLine_cases (Nat.le_refl 1) tail with ⟨x, y, rfl, -, hscan⟩ | ⟨d, -, -, hscan⟩
  · rw [hscan] at h
    rwa [append_assoc, cons_append, hscan]
  · rw [hscan] at h
    cases h

theorem leavesOpen_of_suffix {v : Line} (h : ".map(".toList ++ v <:+ l) (hv : ∀ c ∈ v, isBlank c = true) :
    LeavesOpen l := by
  obtain ⟨a, ha⟩ := h
  refine ⟨a, ?_⟩
  rw [← ha, ← append_assoc, Chars.trimRight_append_blank hv,
    show a ++ ".map(".toList = (a ++ ".map".toList) ++ ['('] by simp, Chars.trimRight_concat (by decide)]

theorem not_leavesOpen_nil : ¬ LeavesOpen [] := by
  decide

section

variable {l last : Line} {rest body behind : List Line}

theorem steady_of_not_leavesOpen (h : ∀ l ∈ rest, ¬ LeavesOpen l) : Steady rest := by
  induction rest with
  | nil => trivial
  | cons l rest ih =>
    exact ⟨fun hopen => absurd hopen (h l mem_cons_self), ih fun x hx => h x (mem_cons_of_mem l hx)⟩

theorem Steady.left (h : Steady (body ++ last :: behind)) (hlast : '\x7d' ∈ last) : Steady body := by
  induction body with
  | nil => trivial
  | cons l rest ih =>
    refine ⟨?_, ih h.2⟩
    intro hopen
    obtain ⟨next, hnext, hbegins, hclosing⟩ := h.1 hopen
    cases rest with
    | nil =>
      cases hnext
      exact absurd hlast hclosing
    | cons x rest => exact ⟨next, hnext, hbegins, hclosing⟩

theorem Steady.right (h : Steady (body ++ rest)) : Steady rest := by
  induction body with
  | nil => exact h
  | cons l body ih => exact ih h.2

theorem Steady.blanked (h : Steady rest) (n : Nat) : Steady (replicate n [] ++ rest) := by
  induction n with
  | zero => exact h
  | succ n ih => exact ⟨fun hopen => absurd hopen not_leavesOpen_nil, ih⟩

end

theorem suffix_readOn {u : Line} (hs : s <:+ l) (hu : u <:+ readOn s) (hne : u ≠ []) :
    ∃ b, (∀ c ∈ b, isBlank c = true) ∧ u ++ b <:+ l := by
  unfold readOn at hu
  split at hu
  · exact absurd (suffix_nil.mp hu) hne
  · obtain ⟨b, hb, hsuffix⟩ := Chars.suffix_of_suffix_trim hu
    exact ⟨b, hb, hsuffix.trans hs⟩

theorem ne_nil_of_passesFunction (h : passesFunction s = true) : s ≠ [] := by
  rintro rfl
  revert h
  decide

theorem Legible.readOn (h : Legible l) (hs : s <:+ l) : Legible (readOn s) := by
  intro u hu hpass
  obtain ⟨b, hb, hsuffix⟩ := suffix_readOn hs hu (ne_nil_of_passesFunction hpass)
  exact (h _ hsuffix (passesFunction_append hpass b)).of_append_blank hb

theorem LeavesOpen.of_readOn (hs : s <:+ l) (h : LeavesOpen (readOn s)) : LeavesOpen l := by
  obtain ⟨v, hv, hvblank⟩ := Chars.trimRight_append (readOn s)
  have hu : ".map(".toList ++ v <:+ readOn s := by
    obtain ⟨a, ha⟩ := h
    exact ⟨a, by rw [← append_assoc, ha, ← hv]⟩
  obtain ⟨b, hb, a, ha⟩ := suffix_readOn hs hu (by simp)
  refine leavesOpen_of_suffix (v := v ++ b) ⟨a, ha⟩ ?_
  intro c hc
  rcases mem_append.mp hc with hc | hc
  · exact hvblank c hc
  · exact hb c hc

theorem Steady.readOn (h : Steady (last :: behind)) (hs : s <:+ last) : Steady (readOn s :: behind) :=
  ⟨fun hopen => h.1 (hopen.of_readOn hs), h.2⟩

theorem Spread.readOn (h : Spread l) (hs : s <:+ l) : Spread (readOn s) := by
  intro u hu hpass p hspan
  obtain ⟨b, hb, hsuffix⟩ := suffix_readOn hs hu (ne_nil_of_passesFunction hpass)
  exact h _ hsuffix (passesFunction_append hpass b) p (spanOf_append hspan b)

theorem forall_readOn (hP : ∀ {l s : Line}, P l → s <:+ l → P (readOn s)) (h : ∀ x ∈ l :: (body ++ last :: behind), P x)
    (p : Nat) : ∀ x ∈ readOn (last.drop (p + 1)) :: behind, P x := by
  intro x hx
  rcases mem_cons.mp hx with rfl | hx
  · exact hP (h last (by simp)) (drop_suffix _ _)
  · exact h x (by simp [hx])

theorem count_of_closesCall (hc : c = '\x7b' ∨ c = '\x7d') (hs : closesCall s = true) : s.count c = 0 := by
  rw [closesCall, Bool.or_eq_true, beq_iff_eq, beq_iff_eq] at hs
  rw [← Chars.count_trim (isBlank_brace hc)]
  show (trim s).count c = 0
  rcases hc with rfl | rfl <;> rcases hs with hs | hs <;> rw [hs] <;> decide

theorem count_readOn (hc : c = '\x7b' ∨ c = '\x7d') (s : Line) : (readOn s).count c = s.count c := by
  unfold readOn
  split
  · rename_i h
    rw [count_of_closesCall hc h]
    rfl
  · exact Chars.count_trim (isBlank_brace hc) s

theorem Closing.readOn (hs : s <:+ last) (h : Closing (l :: (body ++ last :: behind)).flatten) :
    Closing (readOn s :: behind).flatten := by
  have htext : last ++ behind.flatten <:+ (l :: (body ++ last :: behind)).flatten :=
    ⟨l ++ body.flatten, by simp⟩
  rw [flatten_cons]
  -- an end of the text lies behind the line, or has an end of the line in front
  intro t ht
  rcases suffix_or_suffix_of_suffix ht (suffix_append _ behind.flatten) with hsuffix | ⟨u, rfl⟩
  · exact h t ((hsuffix.trans (suffix_append last _)).trans htext)
  · have hu : u <:+ Script.readOn s := by
      obtain ⟨a, ha⟩ := ht
      rw [← append_assoc] at ha
      exact ⟨a, append_cancel_right ha⟩
    by_cases hne : u = []
    · rw [hne, nil_append]
      exact h _ ((suffix_append last _).trans htext)
    · obtain ⟨b, hb, a, ha⟩ := suffix_readOn hs hu hne
      have hend : u ++ b ++ behind.flatten <:+ last ++ behind.flatten :=
        ⟨a, by rw [← append_assoc, ha]⟩
      have hle := h _ (hend.trans htext)
      simp only [count_append, count_blanks (Or.inl rfl) hb, count_blanks (Or.inr rfl) hb] at hle ⊢
      omega

def Piece.weight (c : Char) : Piece → Nat
  | .plain _ l => l.count c
  | .oneLine l _ => l.count c
  | .block head body last p => head.count c + tally c body + (last.take (p + 1)).count c
  | .broken l => l.count c

namespace Pieced

variable {ps : List Piece}

theorem of_oneLine_mem (h : Pieced whole lines ps)
    (hP : ∀ {l s : Line}, P l → s <:+ l → P (readOn s)) (hlines : ∀ x ∈ lines, P x)
    {p : Nat} (hmem : Piece.oneLine l p ∈ ps) :
    P l ∧ passesFunction l = true ∧ spanOf l [] = some (0, p) ∧ '\x7b' ∈ l.take (p + 1) := by
  induction h with
  | nil => cases hmem
  | plain hx _ ih =>
    cases hmem with
    | tail _ hmem => exact ih (fun y hy => hlines y (mem_cons_of_mem _ hy)) hmem
  | oneLine hx hs _ ih =>
    cases hmem with
    | head => exact ⟨hlines l mem_cons_self, hx, spanOf_own hs⟩
    | tail _ hmem => exact ih (fun y hy => hlines y (mem_cons_of_mem _ hy)) hmem
  | block hx hs _ _ ih =>
    cases hmem with
    | tail _ hmem => exact ih (forall_readOn hP hlines _) hmem
  | broken hx hs _ ih =>
    cases hmem with
    | tail _ hmem => exact ih (fun y hy => hlines y (mem_cons_of_mem _ hy)) hmem

theorem sum_weight (h : Pieced whole lines ps) (hc : c = '\x7b' ∨ c = '\x7d') :
    (ps.map (Piece.weight c)).sum = tally c lines := by
  induction h with
  | nil => rfl
  | plain hl _ ih =>
    rw [map_cons, sum_cons, ih, tally_cons]
    rfl
  | oneLine hl hs _ ih =>
    rw [map_cons, sum_cons, ih, tally_cons]
    rfl
  | @block whole l last body behind ps p hl hs _ _ ih =>
    have hlast : (last.take (p + 1)).count c + (last.drop (p + 1)).count c = last.count c := by
      rw [← count_append, take_append_drop]
    rw [map_cons, sum_cons, ih, tally_cons, count_readOn hc, tally_cons, tally_append, tally_cons]
    show l.count c + tally c body + (last.take (p + 1)).count c + _ = _
    omega
  | broken hl hs _ ih =>
    rw [map_cons, sum_cons, ih, tally_cons]
    rfl

theorem not_broken (h : Pieced whole lines ps) (hlines : ∀ l ∈ lines, Legible l) (hclosing : Closing lines.flatten) (x : Line) :
    Piece.broken x ∉ ps := by
  induction h with
  | nil => exact not_mem_nil
  | @plain _ l _ _ hl _ ih =>
    rw [mem_cons, not_or]
    exact ⟨by rintro ⟨⟩, ih (fun y hy => hlines y (mem_cons_of_mem l hy)) (hclosing.suffix ⟨l, rfl⟩)⟩
  | @oneLine _ l _ _ _ hl hs _ ih =>
    rw [mem_cons, not_or]
    exact ⟨by rintro ⟨⟩, ih (fun y hy => hlines y (mem_cons_of_mem l hy)) (hclosing.suffix ⟨l, rfl⟩)⟩
  | block hl hs _ _ ih =>
    rw [mem_cons, not_or]
    exact ⟨by rintro ⟨⟩, ih (forall_readOn Legible.readOn hlines _) (hclosing.readOn (drop_suffix _ _))⟩
  | broken hl hs _ ih =>
    -- the line has an opening brace, and in this text that is closed
    obtain ⟨e, he⟩ := hclosing.spanOf_isSome (hlines _ mem_cons_self _ suffix_rfl hl).mem
    rw [he] at hs
    cases hs

end Pieced

end RemoteSensing.Script
