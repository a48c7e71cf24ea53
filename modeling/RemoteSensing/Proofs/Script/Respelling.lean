import RemoteSensing.Proofs.Text.Chars
import RemoteSensing.Script.Line

/-!
Texts that respelling leaves alone. Each character has a weight, chosen so that every replacement but three makes a text
lighter. So in a text that comes out as it went in only those three can have taken place, and two of them undo each other.
-/

namespace RemoteSensing.Script

open List Chars Line RemoteSensing.Chars

variable {s : Line} {m : String}

@[simp] theorem respellAll_nil (l : Line) : respellAll [] l = l := rfl

@[simp] theorem respellAll_cons (r : String × String) (rs : List (String × String)) (l : Line) :
    respellAll (r :: rs) l = respellAll rs (replace l r.1 r.2) := rfl

theorem respellAll_append (rs rs' : List (String × String)) (l : Line) :
    respellAll (rs ++ rs') l = respellAll rs' (respellAll rs l) := foldl_append

theorem respellAll_eq_self {rs : List (String × String)} {l : Line} (hne : ∀ r ∈ rs, r.1.toList ≠ [])
    (h : ∀ r ∈ rs, ¬ r.1.toList <:+: l) : respellAll rs l = l := by
  induction rs with
  | nil => rfl
  | cons r rs ih =>
    have hr : replace l r.1 r.2 = l :=
      replace_of_absent (hne r mem_cons_self) _ (h r mem_cons_self)
    rw [respellAll_cons, hr]
    exact ih (fun x hx => hne x (mem_cons_of_mem r hx)) fun x hx => h x (mem_cons_of_mem r hx)

def Lightens (g : Char → Int) (r : String × String) : Prop :=
  r.1.toList ≠ [] ∧ total g r.2.toList ≤ total g r.1.toList

instance (g : Char → Int) (r : String × String) : Decidable (Lightens g r) :=
  inferInstanceAs (Decidable (_ ∧ _))

section Weights

variable {g : Char → Int} {rs : List (String × String)}

theorem total_respellAll_le (h : ∀ r ∈ rs, Lightens g r) (l : Line) : total g (respellAll rs l) ≤ total g l := by
  induction rs generalizing l with
  | nil => exact Int.le_refl _
  | cons r rs ih =>
    obtain ⟨hne, hle⟩ := h r mem_cons_self
    exact (ih (fun x hx => h x (mem_cons_of_mem r hx)) _).trans (total_replace_le g hne hle l)

/-- **What has taken place in a text that has not become lighter**: the replacements that `q` picks out, if all others
make a text lighter. -/
theorem respellAll_filter {q : String × String → Bool} {l : Line} (hlight : ∀ r ∈ rs, Lightens g r)
    (hstrict : ∀ r ∈ rs, q r = false → total g r.2.toList < total g r.1.toList)
    (h : total g l ≤ total g (respellAll rs l)) :
    respellAll rs l = respellAll (rs.filter q) l ∧
      ∀ a r b, rs = a ++ r :: b → q r = false → ¬ r.1.toList <:+: respellAll (a.filter q) l := by
  induction rs generalizing l with
  | nil => exact ⟨rfl, fun a r b hsplit => absurd hsplit (by simp)⟩
  | cons r rs ih =>
    obtain ⟨hne, hle⟩ := hlight r mem_cons_self
    have hlight' : ∀ x ∈ rs, Lightens g x := fun x hx => hlight x (mem_cons_of_mem r hx)
    have hstrict' := fun x hx => hstrict x (mem_cons_of_mem r hx)
    rw [respellAll_cons] at h ⊢
    have hfirst : total g (replace l r.1 r.2) ≤ total g l := total_replace_le g hne hle l
    have hrest := total_respellAll_le hlight' (replace l r.1 r.2)
    obtain ⟨hsame, habsent⟩ := ih hlight' hstrict' (hfirst.trans h)
    cases hq : q r with
    | true =>
      refine ⟨by rw [filter_cons_of_pos hq]; exact hsame, ?_⟩
      intro a x b hsplit hx
      cases a with
      | nil =>
        cases hsplit
        exact absurd (hq.symm.trans hx) (by decide)
      | cons y a =>
        cases hsplit
        rw [filter_cons_of_pos hq]
        exact habsent a x b rfl hx
    | false =>
      have hnot : ¬ r.1.toList <:+: l :=
        absent_of_total_le g hne (hstrict r mem_cons_self hq) (h.trans hrest)
      have hl : replace l r.1 r.2 = l := replace_of_absent hne _ hnot
      rw [hl] at hsame habsent ⊢
      refine ⟨by rw [filter_cons_of_neg (by simp [hq])]; exact hsame, ?_⟩
      intro a x b hsplit hx
      cases a with
      | nil =>
        cases hsplit
        exact hnot
      | cons y a =>
        cases hsplit
        rw [filter_cons_of_neg (by simp [hq])]
        exact habsent a x b rfl hx

end Weights

def spellingTable (m : String) : List (String × String) :=
  ("//", "#") :: respellings ++ ("Map.", m ++ ".") :: laterRespellings

def respelled (m : String) (s : Line) : Line := respellAll (spellingTable m) s

def sumSpellings : List (String × String) := [(".concat(", "+"), (",", "+"), (")", "")]

theorem respellConcat_eq (l : Line) :
    respellConcat l = if has l "concat" then respellAll sumSpellings l else l := rfl

def fixedSpellings : List (String × String) :=
  ("//", "#") :: respellings ++ laterRespellings ++ ("!", "not ") :: sumSpellings

theorem mem_spellingTable {r : String × String} (h : r ∈ spellingTable m) :
    r = ("Map.", m ++ ".") ∨ r ∈ ("//", "#") :: respellings ++ laterRespellings := by
  simp only [spellingTable, mem_append, mem_cons] at h ⊢
  tauto

def IsName (m : String) : Prop := ∀ c ∈ m.toList, Text.isWord c = true

theorem IsName.not_mem {c : Char} (hm : IsName m) (hc : Text.isWord c = false ∧ c ≠ '.') : c ∉ (m ++ ".").toList := by
  rw [String.toList_append, mem_append]
  rintro (hmem | hmem)
  · exact absurd (hc.1.symm.trans (hm c hmem)) (by decide)
  · exact hc.2 (by simpa using hmem)

/-- Weights under which no replacement makes a text heavier. -/
structure Scale (g : Char → Int) : Prop where
  lightens : ∀ r ∈ fixedSpellings, Lightens g r
  word : ∀ c, Text.isWord c = true → g c ≤ 0
  map : total g "Map".toList = 0

namespace Scale

variable {g : Char → Int} (h : Scale g) {m : String} (hm : IsName m)

include h

theorem total_name_le (hm : IsName m) : total g m.toList ≤ 0 := by
  have hsum : ∀ l : List Char, (∀ c ∈ l, Text.isWord c = true) → total g l ≤ 0 := by
    intro l hl
    induction l with
    | nil => exact Int.le_refl 0
    | cons c r ih =>
      have hc := h.word c (hl c mem_cons_self)
      have hr := ih fun x hx => hl x (mem_cons_of_mem c hx)
      rw [total_cons]
      omega
  exact hsum m.toList hm

theorem lightens_each (hm : IsName m) {r : String × String} (hr : r = ("Map.", m ++ ".") ∨ r ∈ fixedSpellings) :
    Lightens g r := by
  rcases hr with rfl | hr
  · have hname := h.total_name_le hm
    have hmap := h.map
    have hsplit : "Map.".toList = "Map".toList ++ ".".toList := by decide
    have hne : "Map.".toList ≠ [] := by decide
    refine ⟨hne, ?_⟩
    rw [String.toList_append, hsplit, total_append, total_append]
    omega
  · exact h.lightens r hr

theorem lightens_table (hm : IsName m) : ∀ r ∈ spellingTable m, Lightens g r :=
  fun _ hr => h.lightens_each hm ((mem_spellingTable hr).imp_right (mem_append_left _))

end Scale

def Coupled (s : Line) : Prop := ∀ a b, s = a ++ ".not".toList ++ b → "Null".toList <+: b

theorem coupled_cons {c : Char} {r : Line} (h : ¬ ".not".toList <+: c :: r) : Coupled (c :: r) ↔ Coupled r := by
  constructor
  · intro hs a b hr
    exact hs (c :: a) b (by rw [hr]; rfl)
  · intro hr a b hs
    cases a with
    | nil => exact absurd ⟨b, hs.symm⟩ h
    | cons x a =>
      rw [cons_append, cons_append, cons.injEq] at hs
      exact hr a b hs.2

theorem coupled_not_append (b : Line) : Coupled (".not".toList ++ b) ↔ "Null".toList <+: b ∧ Coupled b := by
  have hrest : Coupled ("not".toList ++ b) ↔ Coupled b := by
    show Coupled ('n' :: 'o' :: 't' :: b) ↔ _
    rw [coupled_cons (by simp), coupled_cons (by simp), coupled_cons (by simp)]
  constructor
  · intro h
    refine ⟨h [] b rfl, hrest.mp fun a b' hb' => h ('.' :: a) b' ?_⟩
    show '.' :: ("not".toList ++ b) = _
    rw [hb']
    rfl
  · rintro ⟨hnull, hb⟩ a b' hs
    cases a with
    | nil =>
      obtain rfl : b = b' := by simpa using hs
      exact hnull
    | cons x a =>
      have htail : "not".toList ++ b = a ++ ".not".toList ++ b' := by
        exact (cons.inj hs).2
      exact hrest.mpr hb a b' htail

/-- **When the two words undo each other**: the second one is not there, and what is made of the first one is the second. -/
theorem undone_iff (s : Line) :
    Line.replace (Line.replace s ".not" ".Not") "NotNull" "notNull" = s ↔ ¬ "NotNull".toList <:+: s ∧ Coupled s := by
  have hdot : ∀ (w r : Line), '.' ∉ w → (w <+: Line.replace r ".not" ".Not" → w <+: r) :=
    fun w r hw h => prefix_of_prefix_replace (by decide) hw h
  have hnot : ".not".toList ≠ [] := by decide
  have hnull : "NotNull".toList ≠ [] := by decide
  unfold Line.replace at *
  induction s using occurrence_induction hnot with
  | nil =>
    refine ⟨fun _ => ⟨by simp, fun a b h => ?_⟩, fun _ => rfl⟩
    exact absurd h (by simp)
  | found b ih =>
    have hinfix : "NotNull".toList <:+: ".not".toList ++ b ↔ "NotNull".toList <:+: b := by
      simp [infix_cons_iff]
    rw [replace_found hnot, coupled_not_append, hinfix]
    have hpass : ∀ t, replace "NotNull".toList "notNull".toList (".Not".toList ++ t) =
        '.' :: replace "NotNull".toList "notNull".toList ("Not".toList ++ t) :=
      fun t => replace_append_of_apart (h := ".".toList) hnull (by decide) _ _
    rw [hpass]
    by_cases hb : "Null".toList <+: b
    · obtain ⟨b', rfl⟩ := hb
      -- behind the pair, all goes on as behind its last letters
      rw [replace_append_of_apart hnot (by decide)] at ih ⊢
      rw [replace_append_of_apart hnull (by decide), append_cancel_left_eq] at ih
      have hfound : replace "NotNull".toList "notNull".toList
          ("Not".toList ++ ("Null".toList ++ replace ".not".toList ".Not".toList b')) =
          "notNull".toList ++ replace "NotNull".toList "notNull".toList
            (replace ".not".toList ".Not".toList b') := replace_found hnull _ _
      rw [hfound]
      have hcancel : ∀ t, '.' :: ("notNull".toList ++ t) = ".not".toList ++ ("Null".toList ++ b') ↔ t = b' := by
        intro t
        show ".notNull".toList ++ t = ".notNull".toList ++ b' ↔ _
        exact append_right_inj _
      rw [hcancel]
      refine Iff.trans ih (and_congr_right fun _ => ?_)
      exact ⟨fun h => ⟨prefix_append _ _, h⟩, fun h => h.2⟩
    · have hno : ¬ "NotNull".toList <+: "Not".toList ++ replace ".not".toList ".Not".toList b := by
        intro hpre
        exact hb (hdot _ b (by decide) ((prefix_append_right_inj "Not".toList).mp hpre))
      rw [show "Not".toList = 'N' :: "ot".toList from by decide, cons_append] at hno ⊢
      rw [replace_pass hnull _ hno]
      constructor
      · intro h
        exact absurd h (by simp)
      · rintro ⟨-, h, -⟩
        exact absurd h hb
  | pass c r hpre ih =>
    rw [replace_pass hnot _ hpre, infix_cons_iff, coupled_cons hpre]
    have hsplit : "NotNull".toList = 'N' :: "otNull".toList := by decide
    by_cases hstart : "NotNull".toList <+: c :: r
    · -- the second word is respelled, and its first letter with it
      have hstart' : "NotNull".toList <+: c :: replace ".not".toList ".Not".toList r := by
        rw [hsplit, cons_prefix_cons] at hstart ⊢
        exact ⟨hstart.1, prefix_replace hnot (by decide) _ hstart.2⟩
      obtain ⟨t, ht⟩ := hstart'
      obtain ⟨u, hu⟩ := hstart
      rw [← ht, replace_found hnull, ← hu]
      constructor
      · intro h
        exact absurd h (by simp)
      · rintro ⟨h, -⟩
        exact absurd (Or.inl (prefix_append _ u)) h
    · have hstart' : ¬ "NotNull".toList <+: c :: replace ".not".toList ".Not".toList r := by
        rw [hsplit, cons_prefix_cons] at hstart ⊢
        exact fun h => hstart ⟨h.1, hdot _ r (by decide) h.2⟩
      rw [replace_pass hnull _ hstart', cons.injEq, or_iff_right hstart]
      exact (and_iff_right rfl).trans ih

def revived (r : String × String) : Bool := [".not", "NotNull", "Map."].contains r.1

def heft : Char → Int
  | '.' | '\\' => 10
  | '/' => 5
  | ' ' | '=' | '!' | ',' | ')' => 1
  | 'T' | 'F' | 'o' | 'A' | 'm' | 'i' | '_' | '*' => -1
  | 'O' => -2
  | _ => 0

theorem lightens_heft : ∀ r ∈ fixedSpellings,
    Lightens heft r ∧ (revived r = false → total heft r.2.toList < total heft r.1.toList) := by
  decide +kernel

theorem scale_heft : Scale heft := by
  refine ⟨fun r hr => (lightens_heft r hr).1, fun c hc => ?_, by decide⟩
  unfold heft
  split
  all_goals first
    | exact absurd hc (by decide)
    | decide

theorem heft_lt (m : String) : ∀ r ∈ spellingTable m, revived r = false →
    total heft r.2.toList < total heft r.1.toList := by
  intro r hr hrevived
  rcases mem_spellingTable hr with rfl | hr
  · cases hrevived
  · exact (lightens_heft r (mem_append_left _ hr)).2 hrevived

def earlyWords : List (String × String) := ("//", "#") :: respellings.take 7

def middleWords : List (String × String) := (respellings.drop 8).take 4

def lateWords : List (String × String) := respellings.drop 13

theorem spellingTable_eq (m : String) :
    spellingTable m = earlyWords ++ (".not", ".Not") :: (middleWords ++ ("NotNull", "notNull") ::
      (lateWords ++ ("Map.", m ++ ".") :: laterRespellings)) := rfl

/-- A text without words that are respelled. -/
structure Unspelled (m : String) (s : Line) : Prop where
  words : ∀ r ∈ ("//", "#") :: respellings ++ laterRespellings, r.1 ≠ ".not" → ¬ r.1.toList <:+: s
  coupled : Coupled s
  map : "Map.".toList <:+: s → m = "Map"

/-- The first word of the pair has its letter raised, and the second one has it lowered again. -/
def Raised (a b : Char) : Prop := a = b ∨ a = 'n' ∧ b = 'N'

theorem raised_replace (s : Line) : List.Forall₂ Raised s (replace s ".not" ".Not") := by
  refine forall₂_replace (fun c => Or.inl rfl) (by decide) ?_ s
  exact .cons (.inl rfl) (.cons (.inr ⟨rfl, rfl⟩) (.cons (.inl rfl) (.cons (.inl rfl) .nil)))

theorem lowered_replace (s : Line) : List.Forall₂ (flip Raised) s (replace s "NotNull" "notNull") := by
  refine forall₂_replace (fun c => Or.inl rfl) (by decide) ?_ s
  exact .cons (.inr ⟨rfl, rfl⟩) (.cons (.inl rfl) (.cons (.inl rfl) (.cons (.inl rfl) (.cons (.inl rfl)
    (.cons (.inl rfl) (.cons (.inl rfl) .nil))))))

theorem Raised.eq_left {w : Line} (hw : 'n' ∉ w) : ∀ a ∈ w, ∀ b, Raised a b → a = b := by
  rintro a ha b (rfl | ⟨rfl, -⟩)
  · rfl
  · exact absurd ha hw

theorem Raised.eq_right {w : Line} (hw : 'N' ∉ w) : ∀ b ∈ w, ∀ a, Raised a b → b = a := by
  rintro b hb a (rfl | ⟨-, rfl⟩)
  · rfl
  · exact absurd hb hw

theorem infix_middle {r : String × String} (hr : r ∈ middleWords) :
    r.1.toList <:+: replace s ".not" ".Not" ↔ r.1.toList <:+: s := by
  have hletters : ∀ r ∈ middleWords, 'N' ∉ r.1.toList ∧ ('n' ∉ r.1.toList ∨ Clear r.1.toList ".not".toList) := by
    decide +kernel
  obtain ⟨hupper, hlower⟩ := hletters r hr
  constructor
  · exact infix_of_forall₂ (raised_replace s).flip (Raised.eq_right hupper)
  · rcases hlower with hlower | hclear
    · exact infix_of_forall₂ (raised_replace s) (Raised.eq_left hlower)
    · exact infix_replace (by decide) hclear _

theorem dot_not_mem (hm : IsName m) : '.' ∉ m.toList := fun h => absurd (hm '.' h) (by decide)

theorem map_of_replace (hm : IsName m)
    (h : Line.replace (Line.replace (Line.replace s ".not" ".Not") "NotNull" "notNull") "Map." (m ++ ".") = s)
    (hoccurs : "Map.".toList <:+: Line.replace (Line.replace s ".not" ".Not") "NotNull" "notNull") : m = "Map" := by
  obtain ⟨a, b, hsplit, hreplace⟩ := replace_first (by decide) (m ++ ".").toList hoccurs
  rw [Line.replace.eq_1 _ "Map.", hreplace] at h
  -- where the map was, it is
  have hmiddle : "Map.".toList <+: (Line.replace s ".not" ".Not").drop a.length := by
    refine prefix_of_forall₂ (forall₂_drop a.length (lowered_replace _).flip) (Raised.eq_left (by decide)) ?_
    rw [hsplit, drop_left]
    exact prefix_append _ b
  have hstart : "Map.".toList <+: s.drop a.length :=
    prefix_of_forall₂ (forall₂_drop a.length (raised_replace s).flip) (Raised.eq_right (by decide)) hmiddle
  rw [← h, drop_left, String.toList_append, append_assoc] at hstart
  obtain ⟨u, hu⟩ := hstart
  have hcut : "Map".toList ++ '.' :: u = m.toList ++ '.' :: replace "Map.".toList (m.toList ++ ".".toList) b := hu
  have hpre : "Map".toList <+: m.toList :=
    prefix_of_prefix_append_cons (c := '.') (by decide) ⟨'.' :: u, hcut⟩
  have hpre' : m.toList <+: "Map".toList := prefix_of_prefix_append_cons (dot_not_mem hm) ⟨_, hcut.symm⟩
  exact (String.toList_inj.mp (hpre.eq_of_length_le hpre'.length_le)).symm

theorem replace_self {w : String} (hw : w.toList ≠ []) (s : Line) : Line.replace s w w = s := by
  unfold Line.replace
  induction s using occurrence_induction hw with
  | nil => exact replace_nil hw _
  | found b ih => rw [replace_found hw, ih]
  | pass c r hpre ih => rw [replace_pass hw _ hpre, ih]

theorem forall_words_iff {P : String × String → Prop} :
    (∀ r ∈ ("//", "#") :: respellings ++ laterRespellings, r.1 ≠ ".not" → P r) ↔
      (∀ r ∈ earlyWords, P r) ∧ (∀ r ∈ middleWords, P r) ∧ P ("NotNull", "notNull") ∧ (∀ r ∈ lateWords, P r) ∧
        ∀ r ∈ laterRespellings, P r := by
  have hparts : ("//", "#") :: respellings ++ laterRespellings = earlyWords ++ (".not", ".Not") :: (middleWords ++
      ("NotNull", "notNull") :: (lateWords ++ laterRespellings)) := rfl
  have hother : ∀ r ∈ earlyWords ++ (middleWords ++ ("NotNull", "notNull") :: (lateWords ++ laterRespellings)),
      r.1 ≠ ".not" := by decide
  rw [hparts]
  simp only [forall_mem_append, forall_mem_cons] at hother ⊢
  obtain ⟨hearly, hmiddle, hnull, hlate, hlater⟩ := hother
  constructor
  · rintro ⟨h1, -, h2, h3, h4, h5⟩
    exact ⟨fun r hr => h1 r hr (hearly r hr), fun r hr => h2 r hr (hmiddle r hr), h3 hnull,
      fun r hr => h4 r hr (hlate r hr), fun r hr => h5 r hr (hlater r hr)⟩
  · rintro ⟨h1, h2, h3, h4, h5⟩
    exact ⟨fun r hr _ => h1 r hr, fun h => absurd rfl h, fun r hr _ => h2 r hr, fun _ => h3, fun r hr _ => h4 r hr,
      fun r hr _ => h5 r hr⟩

theorem respelled_eq (m : String) (s : Line) :
    respelled m s = respellAll laterRespellings (replace (respellAll lateWords (replace (respellAll middleWords
      (replace (respellAll earlyWords s) ".not" ".Not")) "NotNull" "notNull")) "Map." (m ++ ".")) := by
  rw [respelled, spellingTable_eq, respellAll_append, respellAll_cons, respellAll_append, respellAll_cons,
    respellAll_append, respellAll_cons]

theorem words_ne_nil : ∀ rs ∈ [earlyWords, middleWords, lateWords, laterRespellings], ∀ r ∈ rs, r.1.toList ≠ [] := by
  decide +kernel

/-- **Texts that respelling leaves alone.** -/
theorem respelled_eq_self_iff (hm : IsName m) : respelled m s = s ↔ Unspelled m s := by
  constructor
  · intro h
    obtain ⟨hsame, habsent⟩ := respellAll_filter (q := revived) (scale_heft.lightens_table hm) (heft_lt m)
      (l := s) (Int.le_of_eq (congrArg (total heft) h.symm))
    -- the words of each group are gone when their turn comes
    have hgroup : ∀ a group b before, spellingTable m = a ++ (group ++ b) → a.filter revived = before →
        (∀ r ∈ group, revived r = false) → ∀ r ∈ group, ¬ r.1.toList <:+: respellAll before s := by
      rintro a group b before htable rfl hgroup r hr
      obtain ⟨x, y, rfl⟩ := append_of_mem hr
      have hx : x.filter revived = [] := by
        rw [filter_eq_nil_iff]
        intro r' hr'
        simp [hgroup r' (mem_append_left _ hr')]
      have h := habsent (a ++ x) r (y ++ b) (by simp [htable]) (hgroup r hr)
      rwa [filter_append, hx, append_nil] at h
    have hearly := hgroup [] earlyWords _ [] (spellingTable_eq m) rfl (by decide)
    have hmiddle := hgroup (earlyWords ++ [(".not", ".Not")]) middleWords _ [(".not", ".Not")]
      (by rw [spellingTable_eq, append_assoc]; rfl) rfl (by decide)
    have hlate := hgroup (earlyWords ++ [(".not", ".Not")] ++ middleWords ++ [("NotNull", "notNull")]) lateWords _
      [(".not", ".Not"), ("NotNull", "notNull")] (by rw [spellingTable_eq]; simp only [append_assoc]; rfl) rfl
      (by decide)
    have hlater := hgroup (earlyWords ++ [(".not", ".Not")] ++ middleWords ++ [("NotNull", "notNull")] ++ lateWords ++
      [("Map.", m ++ ".")]) laterRespellings [] [(".not", ".Not"), ("NotNull", "notNull"), ("Map.", m ++ ".")]
      (by rw [spellingTable_eq]; simp only [append_assoc]; rfl) rfl (by decide)
    have hrevived : (spellingTable m).filter revived =
        [(".not", ".Not"), ("NotNull", "notNull"), ("Map.", m ++ ".")] := rfl
    have hstages := hsame.symm.trans h
    rw [hrevived] at hstages
    rw [hstages] at hlater
    rw [respellAll_cons, respellAll_cons, respellAll_cons, respellAll_nil] at hstages
    rw [respellAll_cons, respellAll_cons, respellAll_nil] at hlate
    -- the name of the map changes nothing, so the pair does not either
    have hpair : replace (replace s ".not" ".Not") "NotNull" "notNull" = s := by
      by_cases hoccurs : "Map.".toList <:+: replace (replace s ".not" ".Not") "NotNull" "notNull"
      · rw [map_of_replace hm hstages hoccurs] at hstages
        exact (replace_self (by decide) _).symm.trans hstages
      · exact (replace_of_absent (by decide) _ hoccurs).symm.trans hstages
    obtain ⟨hnull, hcoupled⟩ := (undone_iff s).mp hpair
    have hmap : "Map.".toList <:+: s → m = "Map" := fun hoccurs => map_of_replace hm hstages (by rw [hpair]; exact hoccurs)
    rw [hpair] at hlate
    refine ⟨forall_words_iff.mpr ⟨hearly, fun r hr hoccurs => ?_, hnull, hlate, hlater⟩, hcoupled, hmap⟩
    exact hmiddle r hr ((infix_middle hr).mpr hoccurs)
  · intro h
    obtain ⟨hearly, hmiddle, hnull, hlate, hlater⟩ := forall_words_iff.mp h.words
    have hmap : replace s "Map." (m ++ ".") = s := by
      by_cases hoccurs : "Map.".toList <:+: s
      · rw [h.map hoccurs]
        exact replace_self (by decide) s
      · exact replace_of_absent (by decide) _ hoccurs
    rw [respelled_eq, respellAll_eq_self (words_ne_nil _ (by simp)) hearly,
      respellAll_eq_self (words_ne_nil _ (by simp)) fun r hr hoccurs => hmiddle r hr ((infix_middle hr).mp hoccurs),
      (undone_iff s).mpr ⟨hnull, h.coupled⟩, respellAll_eq_self (words_ne_nil _ (by simp)) hlate, hmap,
      respellAll_eq_self (words_ne_nil _ (by simp)) hlater]

end RemoteSensing.Script
