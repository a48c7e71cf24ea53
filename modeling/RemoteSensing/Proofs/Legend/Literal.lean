import RemoteSensing.Proofs.Text.Chars
import Mathlib.Algebra.Order.BigOperators.Group.List
import Mathlib.Algebra.Order.Group.Nat
import Mathlib.Data.List.Perm.Subperm

/-!
Dictionary literals of texts, as they stand in the scripts that a legend is pasted into. A literal can spell its entries
in many ways. Weights of characters tell the plain way from all others: every escape costs more than it gives.
-/

namespace RemoteSensing.Legend.Literal

open List

variable {raw : Bool} {es : List (List Char × List Char)}

/-- Means nothing special behind a backslash: the backslash stands for itself. -/
def Ordinary (c : Char) : Prop :=
  c ∉ ['\n', '\\', '\'', '"', 'a', 'b', 'f', 'n', 'r', 't', 'v', '0', '1', '2', '3', '4', '5', '6', '7', 'x', 'N', 'u', 'U']

instance : DecidablePred Ordinary := fun _ => instDecidableNot

def letters : List (Char × Char) :=
  [('\\', '\\'), ('\'', '\''), ('"', '"'), ('a', '\x07'), ('b', '\x08'), ('f', '\x0c'), ('n', '\n'), ('r', '\r'), ('t', '\t'),
    ('v', '\x0b')]

def octalDigits : List Char := ['0', '1', '2', '3', '4', '5', '6', '7']

def hexDigits : List Char :=
  octalDigits ++ ['8', '9', 'a', 'b', 'c', 'd', 'e', 'f', 'A', 'B', 'C', 'D', 'E', 'F']

def number (base : ℕ) (ds : List Char) : ℕ :=
  ds.foldl (fun n d => base * n + (if d.isDigit then d.toNat - 48 else d.toLower.toNat - 87)) 0

/-- The marks that may stand before the quotes, and whether backslashes are then left alone. -/
def marks : List (List Char × Bool) := [([], false), (['u'], false), (['U'], false), (['r'], true), (['R'], true)]

section Grammar

-- characters by their names
variable (names : List Char → Option Char)

/-- A backslash and what belongs to it, the characters that it stands for, and the rest. -/
inductive Escape : List Char → List Char → List Char → Prop
  | joined (t : List Char) : Escape ('\\' :: '\n' :: t) [] t
  | letter {c d : Char} (h : (c, d) ∈ letters) (t : List Char) : Escape ('\\' :: c :: t) [d] t
  | octal {d : Char} {ds t : List Char} (hds : ∀ e ∈ d :: ds, e ∈ octalDigits)
      (hlength : ds.length = 2 ∨ ds.length < 2 ∧ ∀ e ∈ t.head?, e ∉ octalDigits) :
      Escape ('\\' :: d :: (ds ++ t)) [Char.ofNat (number 8 (d :: ds))] t
  | coded {mark : Char} {ds : List Char} (hmark : (mark, ds.length) ∈ [('x', 2), ('u', 4), ('U', 8)])
      (hds : ∀ e ∈ ds, e ∈ hexDigits) (hvalid : (number 16 ds).isValidChar) (t : List Char) :
      Escape ('\\' :: mark :: (ds ++ t)) [Char.ofNat (number 16 ds)] t
  | named {name : List Char} {c : Char} (h : names name = some c) (hname : '\x7d' ∉ name) (t : List Char) :
      Escape ('\\' :: 'N' :: '\x7b' :: (name ++ '\x7d' :: t)) [c] t

/-- A text up to its closing quotes, and the rest behind them. -/
inductive Body (raw : Bool) (stop : List Char) : List Char → List Char → List Char → Prop
  | closed (r : List Char) : Body raw stop (stop ++ r) [] r
  | char {c : Char} {t x r : List Char} (hslash : c ≠ '\\') (hline : c = '\n' → stop.length = 3) (hstop : ¬ stop <+: c :: t)
      (h : Body raw stop t x r) : Body raw stop (c :: t) (c :: x) r
  | slash {c : Char} {t x r : List Char} (hc : Ordinary c) (h : Body raw stop (c :: t) (c :: x) r) :
      Body raw stop ('\\' :: c :: t) ('\\' :: c :: x) r
  | verbatim {c : Char} {t x r : List Char} (hraw : raw = true) (h : Body raw stop t x r) :
      Body raw stop ('\\' :: c :: t) ('\\' :: c :: x) r
  | escape {t d u x r : List Char} (hraw : raw = false) (he : Escape names t d u) (h : Body raw stop u x r) :
      Body raw stop t (d ++ x) r

/-- A text with its quotes. -/
inductive Quoted : List Char → List Char → List Char → Prop
  | short {mark : List Char} {raw : Bool} {q : Char} {t x r : List Char} (hmark : (mark, raw) ∈ marks)
      (hq : q = '\'' ∨ q = '"') (hshort : ¬ [q, q] <+: t) (h : Body names raw [q] t x r) : Quoted (mark ++ q :: t) x r
  | long {mark : List Char} {raw : Bool} {q : Char} {t x r : List Char} (hmark : (mark, raw) ∈ marks)
      (hq : q = '\'' ∨ q = '"') (h : Body names raw [q, q, q] t x r) : Quoted (mark ++ q :: q :: q :: t) x r

/-- What may stand between texts and signs, and what follows it. -/
inductive Gap : List Char → List Char → Prop
  | done (t : List Char) : Gap t t
  | blank {c : Char} {t r : List Char} (hc : c ∈ [' ', '\t', '\n', '\x0c']) (h : Gap t r) : Gap (c :: t) r
  | joined {t r : List Char} (h : Gap t r) : Gap ('\\' :: '\n' :: t) r
  | remark {u t r : List Char} (hu : '\n' ∉ u) (h : Gap ('\n' :: t) r) : Gap ('#' :: (u ++ '\n' :: t)) r
  | lastRemark {u : List Char} (hu : '\n' ∉ u) : Gap ('#' :: u) []

/-- Texts in a row are one text. -/
inductive Row : List Char → List Char → List Char → Prop
  | one {t x r : List Char} (h : Quoted names t x r) : Row t x r
  | more {t x u v y r : List Char} (h : Quoted names t x u) (hgap : Gap u v) (hrest : Row v y r) : Row t (x ++ y) r

/-- A key or a value. -/
inductive Operand : List Char → List Char → List Char → Prop
  | row {t x r : List Char} (h : Row names t x r) : Operand t x r
  | parens {t u x v r : List Char} (hopen : Gap t u) (h : Operand u x v) (hclose : Gap v (')' :: r)) : Operand ('(' :: t) x r

inductive Entry : List Char → List Char × List Char → List Char → Prop
  | mk {t u u' v r key value : List Char} (hkey : Operand names t key u) (hcolon : Gap u (':' :: u')) (hgap : Gap u' v)
      (hvalue : Operand names v value r) : Entry t (key, value) r

/-- The entries up to the closing brace. A comma may stand behind the last one. -/
inductive Entries : List Char → List (List Char × List Char) → List Char → Prop
  | none {t r : List Char} (hclose : Gap t ('\x7d' :: r)) : Entries t [] r
  | last {t u v r : List Char} {e : List Char × List Char} (hgap : Gap t u) (he : Entry names u e v)
      (hclose : Gap v ('\x7d' :: r)) : Entries t [e] r
  | cons {t u v v' r : List Char} {e : List Char × List Char} {es : List (List Char × List Char)} (hgap : Gap t u)
      (he : Entry names u e v) (hcomma : Gap v (',' :: v')) (hes : Entries v' es r) : Entries t (e :: es) r

/-- The text is a dictionary literal with these entries. -/
structure Denotes (t : List Char) (es : List (List Char × List Char)) : Prop where
  parts : ∃ u r, Gap t ('\x7b' :: u) ∧ Entries names u es r ∧ Gap r []

end Grammar

def valueOf (es : List (List Char × List Char)) (key : List Char) : Option (List Char) :=
  (es.reverse.find? (·.1 == key)).map (·.2)

def Stays : List Char → Prop
  | [] => True
  | c :: r => (c = '\\' → ∃ d ∈ r.head?, Ordinary d) ∧ Stays r

instance decidableKept : DecidablePred Stays
  | [] => .isTrue trivial
  | c :: r =>
    have := decidableKept r
    inferInstanceAs (Decidable ((c = '\\' → ∃ d ∈ r.head?, Ordinary d) ∧ Stays r))

/-- A text that means itself between single quotes. -/
structure Clean (x : List Char) : Prop where
  quote : '\'' ∉ x
  kept : Stays x

instance : DecidablePred Clean := fun x =>
  decidable_of_iff ('\'' ∉ x ∧ Stays x) ⟨fun h => ⟨h.1, h.2⟩, fun h => ⟨h.quote, h.kept⟩⟩

def weight (c : Char) : ℕ := if c ∈ [' ', '\t', '\n'] then 0 else if c = '\'' then 4 else if c = '"' then 5 else 3

theorem weight_le (c : Char) : weight c ≤ 5 := by
  unfold weight
  split_ifs <;> omega

def load (t : List Char) : ℕ := (t.map weight).sum

@[simp] theorem load_nil : load [] = 0 := rfl

@[simp] theorem load_cons (c : Char) (t : List Char) : load (c :: t) = weight c + load t := rfl

@[simp] theorem load_append (a b : List Char) : load (a ++ b) = load a + load b := by
  simp [load]

section Costs

variable {names : List Char → Option Char} {t x r : List Char}

theorem three_le_weight {c : Char} (hc : c ∉ [' ', '\t', '\n']) : 3 ≤ weight c := by
  unfold weight
  split_ifs <;> omega

/-- **An escape costs more than it gives.** -/
theorem Escape.lt (h : Escape names t x r) : load x + load r < load t := by
  have hslash : weight '\\' = 3 := by decide
  cases h with
  | joined =>
    rw [load_nil, load_cons, load_cons, hslash]
    omega
  | @letter c d hd =>
    have hc : 3 ≤ weight c := by
      simp only [letters, mem_cons, Prod.mk.injEq, not_mem_nil, or_false] at hd
      rcases hd with ⟨rfl, -⟩ | ⟨rfl, -⟩ | ⟨rfl, -⟩ | ⟨rfl, -⟩ | ⟨rfl, -⟩ | ⟨rfl, -⟩ |
        ⟨rfl, -⟩ | ⟨rfl, -⟩ | ⟨rfl, -⟩ | ⟨rfl, -⟩ <;>
        decide
    have hvalue := weight_le d
    rw [load_cons, load_nil, load_cons, load_cons, hslash]
    omega
  | @octal d ds _ hds =>
    have hall : ∀ e ∈ octalDigits, e ∉ [' ', '\t', '\n'] := by decide
    have hd : 3 ≤ weight d := three_le_weight (hall d (hds d mem_cons_self))
    have hvalue := weight_le (Char.ofNat (number 8 (d :: ds)))
    rw [load_cons, load_nil, load_cons, load_cons, load_append, hslash]
    omega
  | @coded mark ds hmark =>
    have hm : 3 ≤ weight mark := by
      simp only [mem_cons, Prod.mk.injEq, not_mem_nil, or_false] at hmark
      rcases hmark with ⟨rfl, -⟩ | ⟨rfl, -⟩ | ⟨rfl, -⟩ <;> decide
    have hvalue := weight_le (Char.ofNat (number 16 ds))
    rw [load_cons, load_nil, load_cons, load_cons, load_append, hslash]
    omega
  | @named name c =>
    have hvalue := weight_le c
    have hn : weight 'N' = 3 := by decide
    simp only [load_cons, load_nil, load_append, hslash, hn]
    omega

theorem Body.le {stop : List Char} (h : Body names raw stop t x r) : load x + load stop + load r ≤ load t := by
  induction h with
  | closed => simp
  | char _ _ _ _ ih =>
    rw [load_cons, load_cons]
    omega
  | slash _ _ ih =>
    rw [load_cons '\\', load_cons '\\']
    omega
  | verbatim _ _ ih =>
    simp only [load_cons] at ih ⊢
    omega
  | escape _ he _ ih =>
    have hlt := he.lt
    rw [load_append]
    omega

theorem Body.clean (h : Body names false ['\''] t x r) (hload : load x + 4 + load r = load t) : Clean x := by
  induction h with
  | closed => exact ⟨by simp, trivial⟩
  | @char c _ _ _ hslash _ hstop _ ih =>
    rw [load_cons, load_cons] at hload
    have hx := ih (by omega)
    refine ⟨?_, fun heq => absurd heq hslash, hx.kept⟩
    rw [mem_cons, not_or]
    refine ⟨fun heq => hstop ?_, hx.quote⟩
    rw [← heq]
    exact (prefix_cons_inj '\'').mpr nil_prefix
  | @slash c _ x _ hc _ ih =>
    rw [load_cons '\\', load_cons '\\'] at hload
    have hx := ih (by omega)
    refine ⟨?_, fun _ => ⟨c, rfl, hc⟩, hx.kept⟩
    rw [mem_cons, not_or]
    exact ⟨by decide, hx.quote⟩
  | verbatim hraw => cases hraw
  | escape _ he hrest =>
    have hlt := he.lt
    have hle := hrest.le
    have hquote : load ['\''] = 4 := by decide
    rw [load_append] at hload
    omega

/-- What a text costs: two quotes at least, and more if it is not written as it is. -/
structure Pays (t x r : List Char) : Prop where
  le : load x + 8 + load r ≤ load t
  clean : load x + 8 + load r = load t → Clean x

theorem load_mark {mark : List Char} (h : (mark, raw) ∈ marks) : mark = [] ∧ raw = false ∨ 3 ≤ load mark := by
  simp only [marks, mem_cons, Prod.mk.injEq, not_mem_nil, or_false] at h
  rcases h with ⟨rfl, rfl⟩ | ⟨rfl, -⟩ | ⟨rfl, -⟩ | ⟨rfl, -⟩ | ⟨rfl, -⟩
  · exact .inl ⟨rfl, rfl⟩
  · exact .inr (by decide)
  · exact .inr (by decide)
  · exact .inr (by decide)
  · exact .inr (by decide)

theorem Quoted.pays (h : Quoted names t x r) : Pays t x r := by
  cases h with
  | @short mark raw q t _ _ hmark hq _ h =>
    have hle := h.le
    simp only [load_cons, load_nil] at hle
    rcases hq with rfl | rfl
    · have hquote : weight '\'' = 4 := by decide
      refine ⟨by simp only [load_append, load_cons]; omega, fun heq => ?_⟩
      simp only [load_append, load_cons] at heq
      rcases load_mark hmark with ⟨rfl, rfl⟩ | hload
      · exact h.clean (by simp only [load_nil] at heq; omega)
      · omega
    · have hquote : weight '"' = 5 := by decide
      refine ⟨by simp only [load_append, load_cons]; omega, fun heq => ?_⟩
      simp only [load_append, load_cons] at heq
      omega
  | @long mark raw q t _ _ hmark hq h =>
    have hle := h.le
    have hquote : 4 ≤ weight q := by rcases hq with rfl | rfl <;> decide
    refine ⟨?_, fun heq => ?_⟩
    · simp only [load_append, load_cons]
      omega
    · simp only [load_append, load_cons] at heq
      omega

theorem Gap.le (h : Gap t r) : load r ≤ load t := by
  induction h with
  | done => exact Nat.le_refl _
  | blank _ _ ih =>
    rw [load_cons]
    omega
  | joined _ ih =>
    rw [load_cons, load_cons]
    omega
  | remark _ _ ih =>
    rw [load_cons] at ih
    simp only [load_cons, load_append]
    omega
  | lastRemark => exact Nat.zero_le _

theorem Row.pays (h : Row names t x r) : Pays t x r := by
  induction h with
  | one h => exact h.pays
  | more h hgap _ ih =>
    have hfirst := h.pays.le
    have hbetween := hgap.le
    have hrest := ih.le
    refine ⟨?_, fun heq => ?_⟩
    · rw [load_append]
      omega
    · rw [load_append] at heq
      omega

theorem Operand.pays (h : Operand names t x r) : Pays t x r := by
  induction h with
  | row h => exact h.pays
  | parens hopen _ hclose ih =>
    have hparen : weight '(' = 3 := by decide
    have hbefore := hopen.le
    have hrest := ih.le
    have hbehind := hclose.le
    rw [load_cons] at hbehind
    refine ⟨?_, fun heq => ?_⟩
    · rw [load_cons]
      omega
    · rw [load_cons] at heq
      omega

def price (e : List Char × List Char) : ℕ := load e.1 + load e.2 + 22

theorem Entry.pays {e : List Char × List Char} (h : Entry names t e r) :
    price e + load r ≤ load t + 3 ∧ (price e + load r = load t + 3 → Clean e.1 ∧ Clean e.2) := by
  obtain ⟨hkey, hcolon, hgap, hvalue⟩ := h
  have hsign : weight ':' = 3 := by decide
  have hfirst := hkey.pays.le
  have hbefore := hcolon.le
  have hbehind := hgap.le
  have hsecond := hvalue.pays.le
  rw [load_cons] at hbefore
  refine ⟨?_, fun heq => ⟨hkey.pays.clean ?_, hvalue.pays.clean ?_⟩⟩
  · simp only [price]
    omega
  · simp only [price] at heq
    omega
  · simp only [price] at heq
    omega

/-- **A literal weighs what its entries cost at least,** and more if one of them is not written as it is. -/
theorem Entries.pays (h : Entries names t es r) :
    (es.map price).sum + load r ≤ load t ∧
      ((es.map price).sum + load r = load t → ∀ e ∈ es, Clean e.1 ∧ Clean e.2) := by
  have hbrace : weight '\x7d' = 3 := by decide
  have hsign : weight ',' = 3 := by decide
  induction h with
  | none hclose =>
    have hle := hclose.le
    rw [load_cons] at hle
    refine ⟨?_, fun _ e he => absurd he not_mem_nil⟩
    rw [map_nil, sum_nil]
    omega
  | last hgap he hclose =>
    have hbefore := hgap.le
    have hbehind := hclose.le
    obtain ⟨hle, hclean⟩ := he.pays
    rw [load_cons] at hbehind
    rw [map_singleton, sum_singleton]
    refine ⟨by omega, fun heq e he => ?_⟩
    rw [mem_singleton.mp he]
    exact hclean (by omega)
  | cons hgap he hcomma _ ih =>
    have hbefore := hgap.le
    have hbehind := hcomma.le
    obtain ⟨hle, hclean⟩ := he.pays
    obtain ⟨hrest, hrestClean⟩ := ih
    rw [load_cons] at hbehind
    rw [map_cons, sum_cons]
    refine ⟨by omega, fun heq => ?_⟩
    rw [forall_mem_cons]
    exact ⟨hclean (by omega), hrestClean (by omega)⟩

/-- **Nothing is left to spend.** If a literal has all entries of a list and weighs no more than they cost, they are written as
they are. -/
theorem Entries.clean {wanted : List (List Char × List Char)} (h : Entries names t es r) (hnodup : wanted.Nodup)
    (hwanted : wanted ⊆ es) (hload : load t ≤ (wanted.map price).sum) : ∀ e ∈ wanted, Clean e.1 ∧ Clean e.2 := by
  obtain ⟨hle, hclean⟩ := h.pays
  have hsum : (wanted.map price).sum ≤ (es.map price).sum := by
    obtain ⟨ws, hperm, hsub⟩ := Nodup.subperm hnodup hwanted
    rw [← (hperm.map price).sum_eq]
    exact (hsub.map price).sum_le_sum fun n _ => Nat.zero_le n
  intro e he
  exact hclean (by omega) e (hwanted he)

end Costs

section Writing

variable (names : List Char → Option Char) {x : List Char}

theorem Body.of_clean (hx : Clean x) (hline : '\n' ∉ x) (r : List Char) : Body names false ['\''] (x ++ '\'' :: r) x r := by
  induction x with
  | nil => exact .closed r
  | cons c x ih =>
    obtain ⟨hquote, hslash, hkept⟩ := hx
    rw [mem_cons, not_or] at hquote hline
    have hrest := ih ⟨hquote.2, hkept⟩ hline.2
    by_cases hc : c = '\\'
    · obtain ⟨d, hd, hordinary⟩ := hslash hc
      obtain ⟨y, rfl⟩ : ∃ y, x = d :: y := head?_eq_some_iff.mp hd
      rw [hc]
      exact .slash hordinary hrest
    · refine .char hc (fun heq => absurd heq.symm hline.1) (fun hpre => ?_) hrest
      obtain ⟨heq, -⟩ := cons_prefix_cons.mp hpre
      exact hquote.1 heq

theorem Quoted.of_clean (hx : Clean x) (hline : '\n' ∉ x) {r : List Char} (hr : r.head? ≠ some '\'') :
    Quoted names ('\'' :: (x ++ '\'' :: r)) x r := by
  have hshort : ¬ ['\'', '\''] <+: x ++ '\'' :: r := by
    intro hpre
    cases x with
    | nil =>
      obtain ⟨-, hnext⟩ := cons_prefix_cons.mp hpre
      obtain ⟨u, hu⟩ := hnext
      rw [← hu] at hr
      exact hr rfl
    | cons c x =>
      obtain ⟨heq, -⟩ := cons_prefix_cons.mp hpre
      exact hx.quote (heq ▸ mem_cons_self)
  exact .short mem_cons_self (.inl rfl) hshort (.of_clean names hx hline r)

end Writing

theorem mem_of_valueOf {key value : List Char} (h : valueOf es key = some value) : (key, value) ∈ es := by
  obtain ⟨e, hfound, rfl⟩ := Option.map_eq_some_iff.mp h
  have hkey : e.1 = key := by simpa using find?_some hfound
  rw [← hkey]
  exact mem_reverse.mp (mem_of_find?_eq_some hfound)

end RemoteSensing.Legend.Literal
