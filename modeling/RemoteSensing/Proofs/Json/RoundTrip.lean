import RemoteSensing.Proofs.Json.Number
import RemoteSensing.Proofs.Session.Run
import RemoteSensing.Proofs.Value.Fields

/-!
Writing JSON and reading it again.
-/

namespace RemoteSensing.Json

open List RemoteSensing.Text

variable {v : Data} {cs r : List Char} {t : String}

/-- Data that JSON has a text for and that is read as it was: no tuples and boxes, no key twice. -/
inductive Plain : Data → Prop
  | null : Plain .null
  | bool (b : Bool) : Plain (.bool b)
  | int (i : ℤ) : Plain (.int i)
  | real (x : Float) : Plain (.real x)
  | str (s : String) : Plain (.str s)
  | list {items : List Data} (hitems : ∀ v ∈ items, Plain v) : Plain (.list items)
  | record {fields : Fields} (hkeys : (fields.map (·.1)).Nodup) (hfields : ∀ f ∈ fields, Plain f.2) :
    Plain (.record fields)

def StartsValue (cs : List Char) : Prop :=
  ∃ c r, cs = c :: r ∧ (c.isDigit = true ∨ c ∈ ['-', 'n', 't', 'f', 'N', 'I', '"', '[', '\x7b'])

theorem StartsValue.exists_ne {cs : List Char} (h : StartsValue cs) : ∃ c r, cs = c :: r ∧
    ∀ d, d.isDigit = false → d ∉ ['-', 'n', 't', 'f', 'N', 'I', '"', '[', '\x7b'] → c ≠ d := by
  obtain ⟨c, r, hcs, hc⟩ := h
  refine ⟨c, r, hcs, ?_⟩
  rintro d hdigit hmem rfl
  rcases hc with hc | hc
  · rw [hdigit] at hc
    cases hc
  · exact hmem hc

theorem skipSpace_of_ne {c : Char} (hblank : c ≠ ' ') (hline : c ≠ '\n') (hreturn : c ≠ '\r') (htab : c ≠ '\t') (pos : ℕ)
    (r : List Char) : skipSpace pos (c :: r) = (pos, c :: r) := by
  rw [skipSpace, if_neg (by simp [hblank, hline, hreturn, htab])]

theorem skipSpace_value (h : StartsValue cs) (pos : ℕ) (rest : List Char) :
    skipSpace pos (cs ++ rest) = (pos, cs ++ rest) := by
  obtain ⟨c, r, rfl, hne⟩ := h.exists_ne
  exact skipSpace_of_ne (hne ' ' rfl (by decide)) (hne '\n' rfl (by decide)) (hne '\r' rfl (by decide))
    (hne '\t' rfl (by decide)) pos (r ++ rest)

theorem skipSpace_blank_value (h : StartsValue cs) (pos : ℕ) (rest : List Char) :
    skipSpace pos (' ' :: (cs ++ rest)) = (pos + 1, cs ++ rest) := by
  rw [skipSpace, if_pos (by simp), skipSpace_value h]

/-- The text of a value: it is written, at any level, and it is read as the value wherever it stands. -/
structure Written (v : Data) (t : String) : Prop where
  write_eq : ∀ level, write {} level v = .ok t
  starts : StartsValue t.toList
  scan_eq : ∀ fuel pos rest, t.length ≤ fuel → Ends rest → Reads (scanValue fuel pos (t.toList ++ rest)) v rest

theorem StartsValue.length_pos (h : StartsValue t.toList) : 0 < t.length := by
  obtain ⟨c, r, hcs, -⟩ := h
  rw [← String.length_toList, hcs]
  exact Nat.succ_pos _

/-- A value is scanned with fuel, as its text is not empty. -/
theorem written_of_scan (hwrite : ∀ level, write {} level v = .ok t) (hstarts : StartsValue t.toList)
    (hscan : ∀ fuel pos rest, t.length ≤ fuel + 1 → Ends rest → Reads (scanValue (fuel + 1) pos (t.toList ++ rest)) v rest) :
    Written v t := by
  refine ⟨hwrite, hstarts, fun fuel pos rest hfuel hrest => ?_⟩
  have hpos := hstarts.length_pos
  obtain ⟨fuel, rfl⟩ : ∃ k, fuel = k + 1 := ⟨fuel - 1, by omega⟩
  exact hscan fuel pos rest hfuel hrest

theorem written_atom (hwrite : ∀ level, write {} level v = .ok t) (h : Atom v t.toList) : Written v t := by
  obtain ⟨c, r, hcs, hc⟩ := h.starts
  have hstarts : StartsValue t.toList := ⟨c, r, hcs, hc.imp_right (mem_append_left ['"', '[', '\x7b'])⟩
  refine written_of_scan hwrite hstarts fun fuel pos rest _ hrest => ?_
  have hatom := h.scan hrest pos
  have hne {d : Char} (hdigit : d.isDigit = false) (hmem : d ∉ ['-', 'n', 't', 'f', 'N', 'I']) : c ≠ d := by
    rintro rfl
    rcases hc with hc | hc
    · rw [hdigit] at hc
      cases hc
    · exact hmem hc
  rw [hcs, cons_append] at hatom ⊢
  rw [scanValue]
  · exact hatom
  all_goals
    intro r' heq
    exact hne rfl (by decide) (cons.inj heq).1

theorem startsValue_jsonQuoted (s : String) : StartsValue (jsonQuoted true s).toList :=
  ⟨'"', _, toList_jsonQuoted true s, .inr (by decide)⟩

theorem written_str (s : String) : Written (.str s) (jsonQuoted true s) := by
  refine written_of_scan (fun _ => by rw [write]) (startsValue_jsonQuoted s) fun fuel pos rest _ _ => ?_
  obtain ⟨p, hread⟩ := scanText_jsonQuoted pos (pos + 1) s rest
  rw [toList_jsonQuoted, tail_cons] at hread
  rw [toList_jsonQuoted, cons_append, scanValue, hread]
  exact ⟨p, rfl⟩

theorem ends_of_mem {c : Char} (hc : c ∈ [',', ']', '\x7d']) (r : List Char) : Ends (c :: r) := by
  rintro d ⟨⟩
  simpa using hc

section Parts

variable {α A : Type} {scanner : ℕ → A → ℕ → List Char → Except Problem (Found Data)} {close : Char} {finish : A → Data}
  {put : A → α → A} {text : α → String}

/-- A part of a list or of a record: it starts as a value does, and it is put to what is collected, whether it is the last one
or another one follows. -/
structure Part (scanner : ℕ → A → ℕ → List Char → Except Problem (Found Data)) (close : Char) (finish : A → Data)
    (put : A → A) (t : String) : Prop where
  starts : StartsValue t.toList
  last : ∀ fuel acc pos rest, t.length ≤ fuel →
    Reads (scanner (fuel + 1) acc pos (t.toList ++ close :: rest)) (finish (put acc)) rest
  more : ∀ fuel acc pos next rest, t.length ≤ fuel → StartsValue next → ∃ p,
    scanner (fuel + 1) acc pos (t.toList ++ ',' :: ' ' :: (next ++ rest)) = scanner fuel (put acc) p (next ++ rest)

def joined (text : α → String) : List α → String
  | [] => ""
  | x :: r => ", " ++ text x ++ joined text r

theorem reads_parts {x : α} {r : List α} (h : ∀ y ∈ x :: r, Part scanner close finish (put · y) (text y)) {fuel : ℕ}
    (acc : A) (pos : ℕ) (rest : List Char) (hfuel : (text x).length + (joined text r).length < fuel) :
    Reads (scanner fuel acc pos ((text x).toList ++ ((joined text r).toList ++ close :: rest)))
      (finish ((x :: r).foldl put acc)) rest := by
  obtain ⟨fuel, rfl⟩ : ∃ k, fuel = k + 1 := ⟨fuel - 1, by omega⟩
  induction r generalizing x fuel acc pos with
  | nil => exact (h x mem_cons_self).last fuel acc pos rest (by omega)
  | cons y r ih =>
    have hnext : (joined text (y :: r)).toList ++ close :: rest =
        ',' :: ' ' :: ((text y).toList ++ ((joined text r).toList ++ close :: rest)) := by
      simp [joined]
    have hlength : (joined text (y :: r)).length = 2 + (text y).length + (joined text r).length := by
      rw [joined, String.length_append, String.length_append]
      rfl
    have hparts : ∀ z ∈ y :: r, Part scanner close finish (put · z) (text z) := fun z hz => h z (mem_cons_of_mem x hz)
    obtain ⟨p, hmore⟩ := (h x mem_cons_self).more fuel acc pos _ ((joined text r).toList ++ close :: rest) (by omega)
      (hparts y mem_cons_self).starts
    obtain ⟨fuel, rfl⟩ : ∃ k, fuel = k + 1 := ⟨fuel - 1, by omega⟩
    rw [hnext, hmore]
    exact ih hparts (put acc x) p fuel (by omega)

theorem toList_enclosed (level : ℕ) (opening closing : Char) (content : String) :
    (Style.enclosed {} level (String.singleton opening) content (String.singleton closing)).toList =
      opening :: (content.toList ++ [closing]) := by
  have hbreak (n : ℕ) : (({} : Style).lineBreak n).toList = [] := rfl
  simp [Style.enclosed, hbreak]

theorem written_parts {opening : Char} {start : A} (put : A → α → A) (x : α) (r : List α)
    (hwrite : ∀ level, write {} level v =
      .ok (Style.enclosed {} 0 (String.singleton opening) (text x ++ joined text r) (String.singleton close)))
    (hopening : opening ∈ ['[', '\x7b'])
    (hopen : ∀ fuel pos next rest, StartsValue next → ∃ p,
      scanValue (fuel + 1) pos (opening :: (next ++ rest)) = scanner fuel start p (next ++ rest))
    (h : ∀ y ∈ x :: r, Part scanner close finish (put · y) (text y)) (hv : finish ((x :: r).foldl put start) = v) :
    Written v (Style.enclosed {} 0 (String.singleton opening) (text x ++ joined text r) (String.singleton close)) := by
  have hlist := toList_enclosed 0 opening close (text x ++ joined text r)
  have hstarts : opening ∈ ['-', 'n', 't', 'f', 'N', 'I'] ++ ['"', '[', '\x7b'] :=
    mem_append_right _ (mem_cons_of_mem _ hopening)
  refine written_of_scan hwrite ⟨opening, _, hlist, .inr hstarts⟩ fun fuel pos rest hfuel _ => ?_
  rw [← String.length_toList, hlist, length_cons, length_append, String.length_toList, String.length_append,
    length_singleton] at hfuel
  obtain ⟨p, hscan⟩ := hopen fuel pos _ ((joined text r).toList ++ close :: rest) (h x mem_cons_self).starts
  rw [hlist, cons_append, String.toList_append, append_assoc, append_assoc, singleton_append, hscan, ← hv]
  exact reads_parts h start p rest (by omega)

end Parts

section Steps

variable {fuel pos after : ℕ}

/-- What stands after an element: the end of the list, or a comma and the next element. -/
def afterItem (fuel : ℕ) (items : List Data) : ℕ × List Char → Except Problem (Found Data)
  | (pos, ']' :: r) => .ok (.list items.reverse, pos + 1, r)
  | (pos, ',' :: r) =>
    let (pos, r) := skipSpace (pos + 1) r
    scanItems fuel items pos r
  | (pos, _) => stop "Expecting ',' delimiter" pos

theorem scanItems_step {acc : List Data} (h : scanValue fuel pos cs = .ok (v, after, r)) :
    scanItems (fuel + 1) acc pos cs = afterItem fuel (v :: acc) (skipSpace after r) := by
  rw [scanItems, h]
  rfl

theorem part_item (hv : Written v t) : Part scanItems ']' (fun acc => .list acc.reverse) (v :: ·) t := by
  refine ⟨hv.starts, fun fuel acc pos rest hfuel => ?_, fun fuel acc pos next rest hfuel hnext => ?_⟩
  · obtain ⟨p, hscan⟩ := hv.scan_eq fuel pos _ hfuel (ends_of_mem (c := ']') (by decide) rest)
    rw [scanItems_step hscan]
    exact ⟨_, rfl⟩
  · obtain ⟨p, hscan⟩ := hv.scan_eq fuel pos _ hfuel (ends_of_mem (c := ',') (by decide) (' ' :: (next ++ rest)))
    have hcomma (r : List Char) : skipSpace p (',' :: r) = (p, ',' :: r) := rfl
    rw [scanItems_step hscan, hcomma, afterItem, skipSpace_blank_value hnext]
    exact ⟨_, rfl⟩

/-- What stands after a field: the end of the record, or a comma and the next field. -/
def afterField (fuel : ℕ) (fields : Fields) : ℕ × List Char → Except Problem (Found Data)
  | (pos, '\x7d' :: r) => .ok (.record fields, pos + 1, r)
  | (pos, ',' :: r) =>
    let (pos, r) := skipSpace (pos + 1) r
    scanFields fuel fields pos r
  | (pos, _) => stop "Expecting ',' delimiter" pos

theorem scanFields_step (hv : Written v t) (hfuel : t.length ≤ fuel) (key : String) (acc : Fields) (pos : ℕ)
    {rest : List Char} (hrest : Ends rest) :
    ∃ p, scanFields (fuel + 1) acc pos ((jsonQuoted true key ++ ": " ++ t).toList ++ rest) =
      afterField fuel (Value.insert key v acc) (skipSpace p rest) := by
  have hcolon (p : ℕ) (r : List Char) : skipSpace p (':' :: r) = (p, ':' :: r) := rfl
  have hlist : (jsonQuoted true key ++ ": " ++ t).toList ++ rest =
      '"' :: ((jsonQuoted true key).toList.tail ++ ':' :: ' ' :: (t.toList ++ rest)) := by
    simp [toList_jsonQuoted]
  obtain ⟨p, hkey⟩ := scanText_jsonQuoted pos (pos + 1) key (':' :: ' ' :: (t.toList ++ rest))
  obtain ⟨q, hscan⟩ := hv.scan_eq fuel (p + 1 + 1) rest hfuel hrest
  rw [hlist, scanFields, hkey]
  simp only [bind, Except.bind, pure, Except.pure, hcolon, skipSpace_blank_value hv.starts, hscan]
  exact ⟨q, rfl⟩

theorem part_field (hv : Written v t) (key : String) :
    Part scanFields '\x7d' .record (Value.insert key v) (jsonQuoted true key ++ ": " ++ t) := by
  have hlength : t.length ≤ (jsonQuoted true key ++ ": " ++ t).length := by
    rw [String.length_append]
    omega
  refine ⟨⟨'"', _, by rw [String.toList_append, String.toList_append, toList_jsonQuoted]; rfl, .inr (by decide)⟩,
    fun fuel acc pos rest hfuel => ?_, fun fuel acc pos next rest hfuel hnext => ?_⟩
  · obtain ⟨p, hstep⟩ := scanFields_step hv (hlength.trans hfuel) key acc pos (ends_of_mem (c := '\x7d') (by decide) rest)
    rw [hstep]
    exact ⟨_, rfl⟩
  · obtain ⟨p, hstep⟩ :=
      scanFields_step hv (hlength.trans hfuel) key acc pos (ends_of_mem (c := ',') (by decide) (' ' :: (next ++ rest)))
    have hcomma (r : List Char) : skipSpace p (',' :: r) = (p, ',' :: r) := rfl
    rw [hstep, hcomma, afterField, skipSpace_blank_value hnext]
    exact ⟨_, rfl⟩

/-- Behind an opening bracket the first part is read, if there is one. -/
theorem scanValue_open {next : List Char} (hnext : StartsValue next) (rest : List Char) :
    scanValue (fuel + 1) pos ('[' :: (next ++ rest)) = scanItems fuel [] (pos + 1) (next ++ rest) ∧
      scanValue (fuel + 1) pos ('\x7b' :: (next ++ rest)) = scanFields fuel [] (pos + 1) (next ++ rest) := by
  obtain ⟨c, cs, rfl, hne⟩ := hnext.exists_ne
  rw [scanValue, scanValue, skipSpace_value hnext]
  constructor
  · split
    · rename_i heq
      exact absurd (cons.inj (Prod.mk.inj heq).2).1 (hne ']' rfl (by decide))
    · rename_i heq
      obtain ⟨rfl, rfl⟩ := Prod.mk.inj heq
      rfl
  · split
    · rename_i heq
      exact absurd (cons.inj (Prod.mk.inj heq).2).1 (hne '\x7d' rfl (by decide))
    · rename_i heq
      obtain ⟨rfl, rfl⟩ := Prod.mk.inj heq
      rfl

end Steps

theorem written_list {items : List Data} (h : ∀ v ∈ items, ∃ t, Written v t) : ∃ t, Written (.list items) t := by
  choose! text htext using h
  cases items with
  | nil => exact ⟨"[]", written_of_scan (fun _ => by rw [write]) ⟨'[', [']'], rfl, .inr (by decide)⟩ fun _ _ _ _ _ => ⟨_, rfl⟩⟩
  | cons x r =>
    have hitems : ∀ {r : List Data}, (∀ v ∈ r, Written v (text v)) → ∀ level, writeItems {} level r = .ok (joined text r) := by
      intro r hr level
      induction r with
      | nil => rw [writeItems, joined]
      | cons y r ih =>
        rw [writeItems, (hr y mem_cons_self).write_eq, ih fun v hv => hr v (mem_cons_of_mem y hv)]
        rfl
    refine ⟨_, written_parts (fun acc v => v :: acc) x r (fun level => ?_) (by decide)
      (fun fuel pos next rest hnext => ⟨_, (scanValue_open hnext rest).1⟩) (fun v hv => part_item (htext v hv)) ?_⟩
    · rw [write, (htext x mem_cons_self).write_eq, hitems fun v hv => htext v (mem_cons_of_mem x hv)]
      rfl
    · rw [foldl_flip_cons_eq_append', append_nil, reverse_reverse]

theorem written_record {fields : Fields} (hkeys : (fields.map (·.1)).Nodup)
    (h : ∀ f ∈ fields, ∃ t, Written f.2 t) : ∃ t, Written (.record fields) t := by
  choose! text htext using h
  cases fields with
  | nil =>
    exact ⟨"\x7b\x7d", written_of_scan (fun _ => by rw [write]) ⟨'\x7b', ['\x7d'], rfl,
      .inr (by decide)⟩ fun _ _ _ _ _ => ⟨_, rfl⟩⟩
  | cons f r =>
    have hfields : ∀ {r : Fields}, (∀ f ∈ r, Written f.2 (text f)) →
        ∀ level, writeFields {} level r = .ok (joined (fun f => jsonQuoted true f.1 ++ ": " ++ text f) r) := by
      intro r hr level
      induction r with
      | nil => rw [writeFields, joined]
      | cons g r ih =>
        rw [writeFields, (hr g mem_cons_self).write_eq, ih fun f hf => hr f (mem_cons_of_mem g hf)]
        exact congrArg Except.ok (by simp [Style.separator, Style.key, Style.lineBreak, joined, String.append_assoc])
    refine ⟨_, written_parts (fun acc f => Value.insert f.1 f.2 acc) f r (fun level => ?_) (by decide)
      (fun fuel pos next rest hnext => ⟨_, (scanValue_open hnext rest).2⟩) (fun f hf => part_field (htext f hf) f.1) ?_⟩
    · rw [write, (htext f mem_cons_self).write_eq, hfields fun g hg => htext g (mem_cons_of_mem f hg)]
      rfl
    · rw [Value.foldl_insert Prod.fst Prod.snd (by exact hkeys), nil_append, map_id'' fun _ => rfl]

theorem Plain.written (h : Plain v) : ∃ t, Written v t := by
  induction h with
  | null => exact ⟨"null", written_atom (fun _ => by rw [write]) ⟨⟨'n', _, rfl, by decide⟩, fun _ _ => ⟨_, rfl⟩⟩⟩
  | bool b =>
    cases b with
    | true => exact ⟨"true", written_atom (fun _ => by rw [write]; rfl) ⟨⟨'t', _, rfl, by decide⟩, fun _ _ => ⟨_, rfl⟩⟩⟩
    | false => exact ⟨"false", written_atom (fun _ => by rw [write]; rfl) ⟨⟨'f', _, rfl, by decide⟩, fun _ _ => ⟨_, rfl⟩⟩⟩
  | int i => exact ⟨toString i, written_atom (fun _ => by rw [write]) (atom_int i)⟩
  | real x => exact ⟨realText x, written_atom (fun _ => by rw [write]) (atom_real x)⟩
  | str s => exact ⟨_, written_str s⟩
  | list _ ih => exact written_list ih
  | record hkeys _ ih => exact written_record hkeys ih

theorem Written.read_eq (h : Written v t) : read t = .ok v := by
  have hscan : scan t.toList = .ok v := by
    have hskip := skipSpace_value h.starts 0 []
    obtain ⟨p, hvalue⟩ := h.scan_eq (2 * t.toList.length + 2) 0 [] (by rw [String.length_toList]; omega) nofun
    rw [append_nil] at hskip hvalue
    obtain ⟨c, r, hcs, hne⟩ := h.starts.exists_ne
    have hbom : ¬ (t.toList.head? == some (Char.ofNat 0xFEFF)) = true := by
      rw [hcs, List.head?_cons, beq_iff_eq]
      intro heq
      exact hne (Char.ofNat 0xFEFF) rfl (by decide) (Option.some.inj heq)
    rw [scan, if_neg hbom, hskip]
    simp only [bind, Except.bind, hvalue, skipSpace]
    rfl
  rw [read, hscan]

/-- **Plain data that is written and read again is the same.** -/
theorem read_line (h : Plain v) : ∃ t, line v = .ok t ∧ read t = .ok v := by
  obtain ⟨t, ht⟩ := h.written
  exact ⟨t, ht.write_eq 0, ht.read_eq⟩

theorem plain_of_scanNumber {negative : Bool} {start pos after : ℕ}
    (h : scanNumber negative start pos cs = .ok (v, after, r)) : Plain v := by
  unfold scanNumber at h
  simp only at h
  split at h
  · cases h
  · split at h
    · cases h
      exact .real _
    · split at h
      · cases h
        exact .int _
      · cases h
        exact .real _

theorem plain_of_scanAtom {pos after : ℕ} (h : scanAtom pos cs = .ok (v, after, r)) : Plain v := by
  unfold scanAtom at h
  simp only at h
  split at h
  · rename_i found hfound
    cases h
    obtain ⟨w, hw, hafter⟩ := List.exists_of_findSome?_eq_some hfound
    obtain ⟨r', -, heq⟩ := Option.map_eq_some_iff.mp hafter
    rw [← (Prod.mk.inj heq).1]
    simp only [mem_cons, not_mem_nil, or_false] at hw
    rcases hw with rfl | rfl | rfl | rfl | rfl | rfl
    · exact .null
    · exact .bool true
    · exact .bool false
    · exact .real _
    · exact .real _
    · exact .real _
  · split at h
    · exact plain_of_scanNumber h
    · exact plain_of_scanNumber h

theorem plain_of_scan (fuel : ℕ) :
    (∀ {pos after cs r v}, scanValue fuel pos cs = .ok (v, after, r) → Plain v) ∧
      (∀ {acc pos after cs r v}, (∀ x ∈ acc, Plain x) → scanItems fuel acc pos cs = .ok (v, after, r) → Plain v) ∧
      (∀ {acc pos after cs r v}, (acc.map (·.1)).Nodup → (∀ f ∈ acc, Plain f.2) →
        scanFields fuel acc pos cs = .ok (v, after, r) → Plain v) := by
  induction fuel with
  | zero =>
    refine ⟨?_, ?_, ?_⟩
    · intro pos after cs r v h
      cases h
    · intro acc pos after cs r v _ h
      cases h
    · intro acc pos after cs r v _ _ h
      cases h
  | succ fuel ih =>
    obtain ⟨hvalue, hitems, hfields⟩ := ih
    have hempty : (([] : Fields).map (·.1)).Nodup := nodup_nil
    refine ⟨?_, ?_, ?_⟩
    · intro pos after cs r v h
      rw [scanValue.eq_def] at h
      simp only at h
      split at h
      · obtain ⟨⟨s, p, r'⟩, -, heq⟩ := bind_eq_ok.mp h
        cases heq
        exact .str s
      · split at h
        · cases h
          exact .list fun _ hv => absurd hv not_mem_nil
        · exact hitems (fun _ hx => absurd hx not_mem_nil) h
      · split at h
        · cases h
          exact .record nodup_nil fun _ hf => absurd hf not_mem_nil
        · exact hfields hempty (fun _ hf => absurd hf not_mem_nil) h
      · exact plain_of_scanAtom h
    · intro acc pos after cs r v hacc h
      obtain ⟨⟨x, p, r'⟩, hx, h⟩ := bind_eq_ok.mp h
      have hmore : ∀ y ∈ x :: acc, Plain y := by
        intro y hy
        rcases List.mem_cons.mp hy with rfl | hy
        · exact hvalue hx
        · exact hacc y hy
      simp only at h
      split at h
      · cases h
        exact .list fun y hy => hmore y (List.mem_reverse.mp hy)
      · exact hitems hmore h
      · cases h
    · intro acc pos after cs r v hkeys hacc h
      rw [scanFields.eq_def] at h
      simp only at h
      split at h
      · obtain ⟨⟨key, p, r'⟩, -, h⟩ := bind_eq_ok.mp h
        split at h
        · obtain ⟨⟨x, p', r''⟩, hx, h⟩ := bind_eq_ok.mp h
          have hmore : ∀ f ∈ Value.insert key x acc, Plain f.2 := by
            intro f hf
            rcases Value.mem_insert hf with hf | rfl
            · exact hacc f hf
            · exact hvalue hx
          have hnodup : ((Value.insert key x acc).map (·.1)).Nodup := Value.insert_keys_nodup hkeys
          split at h
          · cases h
            exact .record hnodup hmore
          · exact hfields hnodup hmore h
          · cases h
        · cases h
      · cases h

/-- **What is read is plain.** -/
theorem plain_of_read {s : String} (h : read s = .ok v) : Plain v := by
  rw [read] at h
  split at h
  · rename_i w hscan
    cases h
    unfold scan at hscan
    split at hscan
    · cases hscan
    · simp only at hscan
      obtain ⟨⟨x, p, r⟩, hx, hscan⟩ := bind_eq_ok.mp hscan
      split at hscan
      · cases hscan
        exact (plain_of_scan _).1 hx
      · cases hscan
  · cases h

end RemoteSensing.Json
