import RemoteSensing.Proofs.Legend.File

/-!
Class tables that are given as a text.
-/

namespace RemoteSensing.Legend.Table

open List Value Chars
open String (ofList)
open Text (isBlank)

/-- A cell that keeps its text: in one column and one line, with no blank at either end. -/
structure Trimmed (x : List Char) : Prop where
  plain : Single x
  first : ∃ c r, x = c :: r ∧ isBlank c = false
  last : ∃ r c, x = r ++ [c] ∧ isBlank c = false

structure Columns.Trimmed (c : Columns) : Prop where
  value : Table.Trimmed c.value
  colour : Table.Trimmed c.colour
  description : Table.Trimmed c.description

def Columns.key (c : Columns) : String := ofList (c.value ++ ' ' :: c.description)

theorem Trimmed.trim_eq {x : List Char} (h : Trimmed x) : trim x = x := by
  obtain ⟨c, r, hfirst, hc⟩ := h.first
  obtain ⟨r', d, hlast, hd⟩ := h.last
  have hleft : trimLeft x = x := by rw [hfirst, trimLeft, dropWhile_cons_of_neg (by simp [hc])]
  rw [trim, hleft, hlast, Chars.trimRight_concat hd]

namespace Columns

variable {c : Columns} {cs : List Columns}

theorem Trimmed.proper (h : c.Trimmed) : c.Proper := ⟨h.value.plain, h.colour.plain, h.description.plain⟩

theorem Trimmed.row_eq (h : c.Trimmed) : c.row.label = c.key ∧ c.row.colour = ofList c.colour := by
  rw [row, h.value.trim_eq, h.colour.trim_eq, h.description.trim_eq, ClassRow.label, key, ← String.toList_inj]
  exact ⟨by simp, rfl⟩

theorem join_lines_last (hc : c.Trimmed) (hcs : ∀ c ∈ cs, c.Trimmed) :
    ∃ r d, join ['\n'] ((c :: cs).map line) = r ++ [d] ∧ isBlank d = false := by
  induction cs generalizing c with
  | nil =>
    obtain ⟨r, d, hlast, hd⟩ := hc.description.last
    exact ⟨c.value ++ '\t' :: (c.colour ++ '\t' :: r), d, by simp [join, line, hlast], hd⟩
  | cons c' cs ih =>
    obtain ⟨r, d, hlast, hd⟩ := ih (hcs c' mem_cons_self) fun x hx => hcs x (mem_cons_of_mem c' hx)
    exact ⟨c.line ++ ['\n'] ++ r, d, by rw [map_cons, join_cons (by simp), hlast, ← append_assoc], hd⟩

end Columns

theorem split_lines {cs : List Columns} (hne : cs ≠ []) (hcs : ∀ c ∈ cs, c.Trimmed) :
    split ['\n'] (join ['\n'] (cs.map Columns.line)) = cs.map Columns.line := by
  refine Chars.split_join (by simp) (by simpa using hne) (forall_mem_map.mpr fun c hc => ?_)
  rw [singleton_infix_iff]
  exact (hcs c hc).proper.feed_not_mem

/-- The line that is dropped unseen is the first one that is not blank. -/
theorem tail_lines {before first rest after : List Char} {r : List Char} {d : Char}
    (hbefore : ∀ c ∈ before, isBlank c = true) (hafter : ∀ c ∈ after, isBlank c = true) (hline : '\n' ∉ first)
    (hfirst : ∃ c ∈ first, isBlank c = false) (hrest : rest = r ++ [d]) (hd : isBlank d = false) :
    (split ['\n'] (trim (before ++ (first ++ '\n' :: rest) ++ after))).tail = split ['\n'] rest := by
  have hstart : trimLeft (before ++ (first ++ '\n' :: rest)) = trimLeft first ++ '\n' :: rest := by
    rw [trimLeft, dropWhile_append_of_pos hbefore, dropWhile_append, if_neg, trimLeft]
    obtain ⟨c, hc, hblank⟩ := hfirst
    rw [List.isEmpty_iff, dropWhile_eq_nil_iff]
    exact fun h => Bool.false_ne_true (hblank.symm.trans (h c hc))
  have hwhole : trim (before ++ (first ++ '\n' :: rest) ++ after) = trimLeft first ++ '\n' :: rest := by
    rw [Chars.trim_append_blank hafter, trim, hstart, hrest, ← cons_append, ← append_assoc, Chars.trimRight_concat hd]
  rw [hwhole, Chars.split_append fun h => hline ((Chars.trimLeft_suffix first).subset h), tail_cons]

/-- The header, with or without a title over it. -/
def heading : Option (List Char) → List Char
  | none => tableHeader
  | some title => title ++ '\n' :: tableHeader

def classText (title : Option (List Char)) (cs : List Columns) : List Char :=
  heading title ++ '\n' :: join ['\n'] (cs.map Columns.line)

variable {before after : List Char} {title : Option (List Char)} {c : Columns} {cs : List Columns}

theorem classLines_eq (hbefore : ∀ c ∈ before, isBlank c = true) (hafter : ∀ c ∈ after, isBlank c = true)
    (htitle : ∀ t ∈ title, '\n' ∉ t ∧ ∃ c ∈ t, isBlank c = false) (hcs : ∀ x ∈ c :: cs, x.Trimmed)
    (hheader : c.line ≠ tableHeader) :
    classLines (before ++ classText title (c :: cs) ++ after) = .ok ((c :: cs).map Columns.line) := by
  have hsplit := split_lines (cons_ne_nil c cs) hcs
  obtain ⟨r, d, hlast, hd⟩ := Columns.join_lines_last (hcs c mem_cons_self) fun x hx => hcs x (mem_cons_of_mem c hx)
  have hfeed : '\n' ∉ tableHeader := by decide
  cases title with
  | none =>
    rw [classLines, classText, heading, tail_lines hbefore hafter hfeed (by decide) hlast hd, hsplit]
    simp [hheader]
  | some t =>
    obtain ⟨hline, hfirst⟩ := htitle t rfl
    have hrest : tableHeader ++ '\n' :: join ['\n'] ((c :: cs).map Columns.line) = (tableHeader ++ '\n' :: r) ++ [d] := by
      rw [hlast, append_assoc, cons_append]
    rw [classLines, classText, heading, append_assoc t, cons_append, tail_lines hbefore hafter hline hfirst hrest hd,
      Chars.split_append hfeed, hsplit]
    simp

/-- **Class tables are read as they stand.** A table of one or more rows under its header, with or without a line of title
above and with any blanks around the whole, gives the colour of each row under its value and description, in the order of
the rows. The first row may not be the header once more. -/
theorem class_table_read (before after : List Char) (title : Option (List Char)) (c : Columns) (cs : List Columns)
    (hbefore : ∀ c ∈ before, isBlank c = true) (hafter : ∀ c ∈ after, isBlank c = true)
    (htitle : ∀ t ∈ title, '\n' ∉ t ∧ ∃ c ∈ t, isBlank c = false) (hcs : ∀ x ∈ c :: cs, x.Trimmed)
    (hheader : c.line ≠ tableHeader) (hkeys : ((c :: cs).map Columns.key).Nodup) :
    readCommand.Answers [.str (ofList (before ++ classText title (c :: cs) ++ after))]
      (.record ((c :: cs).map fun c => (c.key, .str (ofList c.colour)))) := by
  have hread : classes (before ++ classText title (c :: cs) ++ after) = .ok ((c :: cs).map Columns.row) := by
    rw [classes, classLines_eq hbefore hafter htitle hcs hheader]
    show ((c :: cs).map Columns.line).mapM readRow = _
    rw [List.mapM_map]
    exact mapM_eq_ok fun x hx => by simpa using readRow_line (hcs x hx).proper (.inl rfl)
  have hlegend : legendOf ((c :: cs).map Columns.row) = (c :: cs).map fun c => (c.key, ofList c.colour) := by
    rw [legendOf, foldl_insert ClassRow.label ClassRow.colour, nil_append, map_map]
    · exact map_congr_left fun x hx => Prod.ext (hcs x hx).row_eq.1 (hcs x hx).row_eq.2
    · rw [map_map, map_nil, nil_append]
      exact (map_congr_left fun x hx => (hcs x hx).row_eq.1) ▸ hkeys
  intro w
  obtain ⟨a, hbind, ha⟩ : ∃ a, readCommand.bind [.str (ofList (before ++ classText title (c :: cs) ++ after))] [] = .ok a ∧
      a "ee_class_table" = .str (ofList (before ++ classText title (c :: cs) ++ after)) := ⟨_, rfl, rfl⟩
  rw [Command.call, hbind]
  show (readCommand.run a).runIn w = _
  simp only [readCommand, ha, strOf, bind, Except.bind, String.toList_ofList, hread, hlegend, map_map]
  rfl

def ice : Columns := ⟨['1'], ['f', '0'], "sea ice".toList⟩

def rock : Columns := ⟨['2'], ['0', 'f'], "rock".toList⟩

theorem class_table_read_titled : readCommand.Answers [.str "\n Ground\nValue\tColor\tDescription\n1\tf0\tsea ice\n2\t0f\trock \n"]
    (.record [("1 sea ice", .str "f0"), ("2 rock", .str "0f")]) := by
  have hone : ∀ x : Char, Single [x] → isBlank x = false → Trimmed [x] :=
    fun x hx hblank => ⟨hx, ⟨x, [], rfl, hblank⟩, [], x, rfl, hblank⟩
  have hice : ice.Trimmed := ⟨hone _ (by decide) rfl, ⟨by decide, ⟨'f', _, rfl, rfl⟩, ['f'], '0', rfl, rfl⟩,
    ⟨by decide, ⟨'s', _, rfl, rfl⟩, "sea ic".toList, 'e', rfl, rfl⟩⟩
  have hrock : rock.Trimmed := ⟨hone _ (by decide) rfl, ⟨by decide, ⟨'0', _, rfl, rfl⟩, ['0'], 'f', rfl, rfl⟩,
    ⟨by decide, ⟨'r', _, rfl, rfl⟩, "roc".toList, 'k', rfl, rfl⟩⟩
  have htitle : ∀ t ∈ some "Ground".toList, '\n' ∉ t ∧ ∃ c ∈ t, isBlank c = false := by
    rintro _ ⟨⟩
    exact ⟨by decide, 'G', by decide, rfl⟩
  exact class_table_read ['\n', ' '] [' ', '\n'] (some "Ground".toList) ice [rock] (by decide) (by decide) htitle
    (by simp [hice, hrock]) (by decide) (by decide)

end RemoteSensing.Legend.Table
