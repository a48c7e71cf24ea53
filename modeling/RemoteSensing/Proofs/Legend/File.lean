import RemoteSensing.Legend.Page
import RemoteSensing.Proofs.Legend.Literal
import RemoteSensing.Proofs.Path
import RemoteSensing.Proofs.Session.Files
import Mathlib.Data.List.Induction

/-!
Legend files.
-/

namespace RemoteSensing.Legend.Table

open List Session Value Chars Literal
open String (ofList toList toList_append toList_ofList toList_inj)

def entries (rows : List ClassRow) : List (List Char × List Char) := rows.map fun c => (c.label.toList, c.colour.toList)

def listed (rows : List ClassRow) : List (List Char × List Char) :=
  (legendOf rows).map fun kv => (kv.1.toList, kv.2.toList)

variable {rows : List ClassRow} {es : List (List Char × List Char)} {b k u : List Char} {e : List Char × List Char}

theorem legendOf_concat (rows : List ClassRow) (c : ClassRow) :
    legendOf (rows ++ [c]) = insert c.label c.colour (legendOf rows) := by
  rw [legendOf, foldl_append]
  rfl

theorem legendOf_ne_nil (h : rows ≠ []) : legendOf rows ≠ [] := by
  intro hnil
  rw [← dropLast_concat_getLast h, legendOf_concat] at hnil
  have hlookup : ∀ (c : ClassRow) (kvs : List (String × String)),
      Value.lookup c.label (insert c.label c.colour kvs) ≠ none := by
    intro c kvs
    simp
  exact hlookup _ _ (by rw [hnil]; rfl)

theorem lookup_legendOf (rows : List ClassRow) (k : String) :
    (Value.lookup k (legendOf rows)).map toList = valueOf (entries rows) k.toList := by
  induction rows using reverseRecOn with
  | nil => rfl
  | append_singleton rows c ih =>
    have hreverse : (entries (rows ++ [c])).reverse = (c.label.toList, c.colour.toList) :: (entries rows).reverse := by
      simp [entries]
    rw [legendOf_concat, valueOf, hreverse]
    by_cases hk : c.label = k
    · rw [hk, lookup_insert_self, find?_cons_of_pos (by simp)]
      rfl
    · rw [lookup_insert_of_ne hk, ih, find?_cons_of_neg (by simpa [toList_inj] using hk)]
      rfl

theorem nodup_legendOf (rows : List ClassRow) : ((legendOf rows).map (·.1)).Nodup := by
  induction rows using reverseRecOn with
  | nil => exact nodup_nil
  | append_singleton rows c ih =>
    rw [legendOf_concat]
    exact insert_keys_nodup ih

theorem nodup_keys_listed (rows : List ClassRow) : ((listed rows).map (·.1)).Nodup := by
  have hkeys : (listed rows).map (·.1) = ((legendOf rows).map (·.1)).map toList := by
    simp [listed]
  rw [hkeys]
  exact (nodup_legendOf rows).map fun a b => toList_inj.mp

theorem valueOf_eq_some_iff (hes : (es.map (·.1)).Nodup) {c : List Char} : valueOf es k = some c ↔ (k, c) ∈ es := by
  constructor
  · exact Literal.mem_of_valueOf
  · intro hmem
    obtain ⟨e, hfound⟩ : ∃ e, es.reverse.find? (·.1 == k) = some e := by
      rw [← Option.isSome_iff_exists, find?_isSome]
      exact ⟨(k, c), mem_reverse.mpr hmem, by simp⟩
    have hkey : e.1 = k := by simpa using find?_some hfound
    have he : e ∈ es := mem_reverse.mp (mem_of_find?_eq_some hfound)
    have heq : e = (k, c) := inj_on_of_nodup_map hes he hmem hkey
    rw [valueOf, hfound, heq]
    rfl

theorem mem_listed_iff {c : List Char} : (k, c) ∈ listed rows ↔ valueOf (entries rows) k = some c := by
  have hkey := lookup_legendOf rows (ofList k)
  rw [toList_ofList] at hkey
  rw [← hkey]
  constructor
  · intro h
    obtain ⟨kv, hkv, heq⟩ := mem_map.mp h
    obtain ⟨rfl, rfl⟩ := Prod.mk.inj heq
    rw [String.ofList_toList, (lookup_eq_some_iff (nodup_legendOf rows)).mpr hkv]
    rfl
  · intro h
    obtain ⟨c', hc', rfl⟩ := Option.map_eq_some_iff.mp h
    exact mem_map.mpr ⟨_, mem_of_lookup hc', by simp⟩

theorem valueOf_listed (rows : List ClassRow) : valueOf (listed rows) = valueOf (entries rows) := by
  funext k
  refine Option.ext fun c => ?_
  rw [valueOf_eq_some_iff (nodup_keys_listed rows), mem_listed_iff]

def line (e : List Char × List Char) : List Char :=
  '\t' :: '\'' :: (e.1 ++ '\'' :: ':' :: ' ' :: '\'' :: (e.2 ++ ['\'']))

def body (es : List (List Char × List Char)) (e : List Char × List Char) : List Char :=
  es.flatMap (fun e => line e ++ [',', '\n']) ++ (line e ++ ['\n', '\x7d', '\n'])

theorem toList_fileEntry (kv : String × String) : (fileEntry kv).toList = line (kv.1.toList, kv.2.toList) ++ [',', '\n'] := by
  have hopen : "\t'".toList = ['\t', '\''] := by decide
  have hbetween : "': '".toList = ['\'', ':', ' ', '\''] := by decide
  have hclose : "',\n".toList = ['\'', ',', '\n'] := by decide
  simp [fileEntry, line, toList_append, hopen, hbetween, hclose]

theorem toList_withoutMark (kv : String × String) :
    (withoutMark (fileEntry kv)).toList = line (kv.1.toList, kv.2.toList) ++ ['\n'] := by
  have hfeed : "\n".toList = ['\n'] := by decide
  have htrim : trimRight (line (kv.1.toList, kv.2.toList) ++ [',', '\n']) = line (kv.1.toList, kv.2.toList) ++ [','] := by
    have hcut := trimRight_append_blank (b := ['\n']) (by decide) (line (kv.1.toList, kv.2.toList) ++ [','])
    rw [append_assoc] at hcut
    exact hcut.trans (trimRight_concat (by decide) _)
  rw [withoutMark, toList_fileEntry, htrim, dropLast_concat, toList_append, toList_ofList, hfeed]

theorem toList_fileText (kvs : List (String × String)) (kv : String × String) :
    (fileText (kvs ++ [kv])).toList = '\x7b' :: '\n' ::
      body (kvs.map fun kv => (kv.1.toList, kv.2.toList)) (kv.1.toList, kv.2.toList) := by
  have hopen : "\x7b\n".toList = ['\x7b', '\n'] := by decide
  have hclose : "\x7d\n".toList = ['\x7d', '\n'] := by decide
  have hinit : ("\x7b\n" :: (kvs ++ [kv]).map fileEntry).dropLast = "\x7b\n" :: kvs.map fileEntry := by
    rw [map_append, map_singleton, ← cons_append, dropLast_concat]
  have hlast : ("\x7b\n" :: (kvs ++ [kv]).map fileEntry).getLastD "" = fileEntry kv := by
    rw [map_append, map_singleton, ← cons_append, getLastD_concat]
  have hlines : (kvs.map fileEntry).flatMap toList =
      (kvs.map fun kv => (kv.1.toList, kv.2.toList)).flatMap fun e => line e ++ [',', '\n'] := by
    rw [flatMap_map, flatMap_map]
    exact flatMap_congr fun kv _ => toList_fileEntry kv
  rw [fileText]
  simp only [hinit, hlast]
  rw [toList_append, String.toList_join, flatMap_append, flatMap_cons, hlines, flatMap_singleton,
    toList_withoutMark, hopen, hclose, body]
  simp

theorem load_line (e : List Char × List Char) : load (line e) + 3 = price e := by
  have hquote : Literal.weight '\'' = 4 := by decide
  have hcolon : Literal.weight ':' = 3 := by decide
  have htab : Literal.weight '\t' = 0 := by decide
  have hblank : Literal.weight ' ' = 0 := by decide
  simp only [line, price, Literal.load_cons, Literal.load_append, Literal.load_nil, hquote, hcolon, htab, hblank]
  omega

/-- **The text weighs what its entries cost.** -/
theorem load_body (es : List (List Char × List Char)) (e : List Char × List Char) :
    load (body es e) = ((es ++ [e]).map price).sum := by
  have hend : load ['\n', '\x7d', '\n'] = 3 := by decide
  have hcomma : load [',', '\n'] = 3 := by decide
  induction es with
  | nil =>
    have hline := load_line e
    rw [body, flatMap_nil, nil_append, Literal.load_append, hend, nil_append, map_singleton,
      sum_singleton]
    omega
  | cons e' es ih =>
    have hline := load_line e'
    have hcut : body (e' :: es) e = line e' ++ [',', '\n'] ++ body es e := by
      simp [body]
    rw [hcut, Literal.load_append, Literal.load_append, hcomma, ih, cons_append, map_cons, sum_cons]
    omega

/-- An entry that can be written as it is. -/
structure Quotable (e : List Char × List Char) : Prop where
  key : Clean e.1
  value : Clean e.2
  inLine : '\n' ∉ e.1 ∧ '\n' ∉ e.2

section Reading

variable (names : List Char → Option Char)

theorem entry_line (he : Quotable e) {r : List Char} (hr : r.head? ≠ some '\'') :
    ∃ u, Gap (line e ++ r) u ∧ Entry names u e r := by
  have hkey := Literal.Quoted.of_clean names he.key he.inLine.1 (r := ':' :: ' ' :: '\'' :: (e.2 ++ '\'' :: r)) (by simp)
  have hvalue := Literal.Quoted.of_clean names he.value he.inLine.2 hr
  refine ⟨_, .blank (by simp) (.done _), ?_⟩
  have hentry : Entry names _ (e.1, e.2) r :=
    .mk (.row (.one hkey)) (.done _) (.blank (by simp) (.done _)) (.row (.one hvalue))
  simpa using hentry

theorem entries_body (hes : ∀ e' ∈ es ++ [e], Quotable e') : Entries names ('\n' :: body es e) (es ++ [e]) ['\n'] := by
  induction es with
  | nil =>
    obtain ⟨u, hgap, hentry⟩ := entry_line names (hes e (by simp)) (r := ['\n', '\x7d', '\n']) (by simp)
    exact .last (.blank (by simp) hgap) hentry (.blank (by simp) (.done _))
  | cons e' es ih =>
    have hrest := ih fun x hx => hes x (mem_cons_of_mem e' hx)
    obtain ⟨u, hgap, hentry⟩ := entry_line names (hes e' (by simp)) (r := ',' :: '\n' :: body es e) (by simp)
    have hcut : body (e' :: es) e = line e' ++ ',' :: '\n' :: body es e := by
      simp [body]
    rw [hcut]
    exact .cons (.blank (by simp) hgap) hentry (.done _) hrest

def ReadsBack (text : List Char) (rows : List ClassRow) : Prop :=
  ∃ es, Denotes names text es ∧ valueOf es = valueOf (entries rows)

variable {names}

theorem gap_of_brace {v : List Char} (h : Gap ('\x7b' :: u) ('\x7b' :: v)) : u = v := by
  cases h with
  | done => rfl
  | blank hc => simp at hc

theorem brace_mem_of_gap {t : List Char} (h : Gap t ('\x7b' :: u)) : '\x7b' ∈ t := by
  generalize hr : '\x7b' :: u = r at h
  induction h with
  | done => exact hr ▸ mem_cons_self
  | blank _ _ ih => exact mem_cons_of_mem _ (ih hr)
  | joined _ ih => exact mem_cons_of_mem _ (mem_cons_of_mem _ (ih hr))
  | remark _ _ ih => exact mem_cons_of_mem _ (mem_append_right _ (ih hr))
  | lastRemark => cases hr

theorem not_readsBack_nil (rows : List ClassRow) : ¬ ReadsBack names (fileText []).toList rows := by
  rintro ⟨es, ⟨u, r, hopen, -⟩, -⟩
  have hbrace := brace_mem_of_gap hopen
  revert hbrace
  decide

theorem exists_layout (hrows : rows ≠ []) :
    ∃ es e, listed rows = es ++ [e] ∧ (fileText (legendOf rows)).toList = '\x7b' :: '\n' :: body es e := by
  obtain ⟨kvs, kv, hkvs⟩ : ∃ kvs kv, legendOf rows = kvs ++ [kv] :=
    ⟨_, _, (dropLast_concat_getLast (legendOf_ne_nil hrows)).symm⟩
  refine ⟨kvs.map fun kv => (kv.1.toList, kv.2.toList), (kv.1.toList, kv.2.toList), ?_, ?_⟩
  · rw [listed, hkvs, map_append, map_singleton]
  · rw [hkvs, toList_fileText]

theorem clean_of_readsBack (hreads : ReadsBack names (fileText (legendOf rows)).toList rows) {c : List Char}
    (hc : valueOf (entries rows) k = some c) : Clean k ∧ Clean c := by
  have hrows : rows ≠ [] := by
    rintro rfl
    cases hc
  obtain ⟨es, e, hlisted, htext⟩ := exists_layout hrows
  obtain ⟨read, ⟨u, r, hopen, hentries, -⟩, hvalue⟩ := hreads
  rw [htext] at hopen
  rw [← gap_of_brace hopen] at hentries
  have hsub : listed rows ⊆ read := by
    rintro ⟨k', c'⟩ hmem
    rw [mem_listed_iff, ← hvalue] at hmem
    exact Literal.mem_of_valueOf hmem
  have hload : load ('\n' :: body es e) ≤ ((listed rows).map price).sum := by
    have hfeed : Literal.weight '\n' = 0 := by decide
    rw [Literal.load_cons, load_body, hfeed, hlisted]
    omega
  exact hentries.clean (Nodup.of_map _ (nodup_keys_listed rows)) hsub hload (k, c) (mem_listed_iff.mpr hc)

theorem readsBack_of_clean (hline : ∀ c ∈ rows, '\n' ∉ c.label.toList ∧ '\n' ∉ c.colour.toList) (hrows : rows ≠ [])
    (hclean : ∀ k c, valueOf (entries rows) k = some c → Clean k ∧ Clean c) :
    ReadsBack names (fileText (legendOf rows)).toList rows := by
  obtain ⟨es, e, hlisted, htext⟩ := exists_layout hrows
  have hwritable : ∀ x ∈ es ++ [e], Quotable x := by
    rw [← hlisted]
    rintro ⟨k, c⟩ hmem
    rw [mem_listed_iff] at hmem
    obtain ⟨hk, hc⟩ := hclean k c hmem
    obtain ⟨row, hrow, heq⟩ := mem_map.mp (Literal.mem_of_valueOf hmem)
    obtain ⟨rfl, rfl⟩ := Prod.mk.inj heq
    exact ⟨hk, hc, hline row hrow⟩
  refine ⟨es ++ [e], ⟨'\n' :: body es e, ['\n'], ?_, entries_body names hwritable, .blank (by simp) (.done [])⟩, ?_⟩
  · rw [htext]
    exact .done _
  · rw [← hlisted, valueOf_listed]

/-- **When a legend file can be read back**: there is a class, and labels and colours mean themselves between quotes. -/
theorem readsBack_iff (hline : ∀ c ∈ rows, '\n' ∉ c.label.toList ∧ '\n' ∉ c.colour.toList) :
    ReadsBack names (fileText (legendOf rows)).toList rows ↔
      rows ≠ [] ∧ ∀ k c, valueOf (entries rows) k = some c → Clean k ∧ Clean c := by
  constructor
  · intro hreads
    refine ⟨?_, fun k c hc => clean_of_readsBack hreads hc⟩
    rintro rfl
    exact not_readsBack_nil [] hreads
  · rintro ⟨hrows, hclean⟩
    exact readsBack_of_clean hline hrows hclean

end Reading

/-- The three columns of a class. -/
structure Columns where
  value : List Char
  colour : List Char
  description : List Char

namespace Columns

def line (c : Columns) : List Char := c.value ++ '\t' :: (c.colour ++ '\t' :: c.description)

def row (c : Columns) : ClassRow :=
  ⟨ofList (trim c.value), ofList (trim c.colour), ofList (trim c.description)⟩

end Columns

def Single (x : List Char) : Prop := '\t' ∉ x ∧ '\n' ∉ x

/-- All columns are plain. -/
structure Columns.Proper (c : Columns) : Prop where
  value : Single c.value
  colour : Single c.colour
  description : Single c.description

/-- A table with a header line; there may be a line end behind its last line. -/
def tableText (header : List Char) (cs : List Columns) (ended : Bool) : List Char :=
  join ['\n'] (header :: cs.map Columns.line) ++ if ended then ['\n'] else []

variable {c : Columns} {cs : List Columns} {header : List Char}

theorem Columns.Proper.feed_not_mem (hc : c.Proper) : '\n' ∉ c.line := by
  obtain ⟨⟨-, hvalue⟩, ⟨-, hcolour⟩, ⟨-, hdescription⟩⟩ := hc
  simp [Columns.line, hvalue, hcolour, hdescription]

theorem Columns.line_ne_nil (c : Columns) : c.line ≠ [] := by
  simp [Columns.line]

theorem readRow_line (hc : c.Proper) (hb : b = [] ∨ b = ['\n']) : readRow (c.line ++ b) = .ok c.row := by
  have hblank : ∀ x ∈ b, Text.isBlank x = true := by
    rcases hb with rfl | rfl
    · simp
    · decide
  have hlast : '\t' ∉ c.description ++ b := by
    rw [mem_append, not_or]
    refine ⟨hc.description.1, ?_⟩
    rcases hb with rfl | rfl
    · simp
    · decide
  have hcells : split ['\t'] (c.line ++ b) = [c.value, c.colour, c.description ++ b] := by
    rw [Columns.line, append_assoc, cons_append, split_append hc.value.1, append_assoc, cons_append,
      split_append hc.colour.1, split_of_not_mem hlast]
  rw [readRow, hcells]
  simp only [map_cons, map_nil, trim_append_blank hblank]
  rfl

theorem readRow_lines (hc : c.Proper) (hcs : ∀ c ∈ cs, c.Proper) (hb : b = [] ∨ b = ['\n']) :
    Forall₂ (fun l row => readRow l = .ok row)
      (lines (join ['\n'] ((c :: cs).map Columns.line) ++ b)) ((c :: cs).map Columns.row) := by
  induction cs generalizing c with
  | nil =>
    have hlines : lines (c.line ++ b) = [c.line ++ b] := by
      rcases hb with rfl | rfl
      · rw [append_nil, lines_of_not_mem hc.feed_not_mem c.line_ne_nil]
      · exact linesFrom_append hc.feed_not_mem [] []
    rw [map_singleton, join, hlines]
    exact .cons (readRow_line hc hb) .nil
  | cons c' cs ih =>
    have hrest := ih (hcs c' mem_cons_self) fun x hx => hcs x (mem_cons_of_mem c' hx)
    have hlines : ∀ r, lines (c.line ++ ['\n'] ++ r) = (c.line ++ ['\n']) :: lines r := by
      intro r
      rw [append_assoc]
      exact linesFrom_append hc.feed_not_mem [] r
    rw [map_cons, join_cons (by simp), append_assoc, hlines]
    exact .cons (readRow_line hc (.inr rfl)) hrest

theorem readRow_table (hheader : '\n' ∉ header) (hcs : ∀ c ∈ cs, c.Proper) (ended : Bool) :
    Forall₂ (fun l row => readRow l = .ok row) (lines (tableText header cs ended)).tail (cs.map Columns.row) := by
  have hlines : ∀ r, lines (header ++ '\n' :: r) = (header ++ ['\n']) :: lines r :=
    linesFrom_append hheader []
  have hb : (if ended then ['\n'] else []) = [] ∨ (if ended then ['\n'] else []) = ['\n'] := by
    cases ended
    · exact .inl rfl
    · exact .inr rfl
  rw [tableText]
  generalize (if ended then ['\n'] else []) = b at hb ⊢
  cases cs with
  | nil =>
    have hnone : (lines (header ++ b)).tail = [] := by
      rcases hb with rfl | rfl
      · by_cases hempty : header = []
        · rw [hempty]
          rfl
        · rw [append_nil, lines_of_not_mem hheader hempty]
          rfl
      · rw [hlines]
        rfl
    rw [map_nil, join, hnone]
    exact .nil
  | cons c cs =>
    rw [join_cons (by simp), append_assoc, append_assoc, singleton_append, hlines]
    exact readRow_lines (hcs c mem_cons_self) (fun x hx => hcs x (mem_cons_of_mem c hx)) hb

theorem feed_not_mem_row (hcs : ∀ c ∈ cs, c.Proper) {row : ClassRow} (hrow : row ∈ cs.map Columns.row) :
    '\n' ∉ row.label.toList ∧ '\n' ∉ row.colour.toList := by
  obtain ⟨c, hc, rfl⟩ := mem_map.mp hrow
  have htrim : ∀ {x : List Char}, Single x → '\n' ∉ trim x := fun hx h => hx.2 (trim_subset _ h)
  have hvalue := htrim (hcs c hc).value
  have hdescription := htrim (hcs c hc).description
  refine ⟨?_, ?_⟩
  · simp [Columns.row, ClassRow.label, toList_append, hvalue, hdescription]
  · rw [Columns.row, toList_ofList]
    exact htrim (hcs c hc).colour

/-- The table stands in a file. The ends of its lines can be of any kind. -/
structure Holds (d : Disk) (source : String) (header : List Char) (cs : List Columns) (ended : Bool) : Prop where
  path : checkPath source = .ok ()
  plain : Text.endsWith source "/" = false
  file : ∃ b, Value.lookup (Path.absolute source) d.files = some b ∧
    (Text.plainNewlines b.toText).toList = tableText header cs ended
  header : '\n' ∉ header
  columns : ∀ c ∈ cs, c.Proper

theorem runIn_mapM {α β : Type} {f : α → Except Fault β} {as : List α} {bs : List β}
    (h : Forall₂ (fun a b => f a = .ok b) as bs) (w : World) :
    (as.mapM fun a => (liftM (f a) : Session β)).runIn w = (.ok bs, w) := by
  induction h with
  | nil => rw [mapM_nil, runIn_pure]
  | cons ha _ ih => rw [mapM_cons, ha, runIn_liftM_ok, runIn_bind_of_ok ih, runIn_pure]

variable {source target : String} {ended : Bool} {w : World} {d : Disk}

def tellAbsent (source : String) : Session Unit := do
  let there ← pathExists source
  unless there do print "The class table does not exist."

theorem call_convertTable (source target : String) :
    convertTableCommand.call [.str source, .str target] [] = (do
      tellAbsent source
      secureFolder (Path.folder (Path.absolute target))
      let text ← readText source
      let rows ← (lines text.toList).tail.mapM fun l => (liftM (readRow l) : Session ClassRow)
      writeText (Path.absolute target) (fileText (legendOf rows))
      pure .null) := by
  have hcall : convertTableCommand.call [.str source, .str target] [] =
      convertTable source target >>= fun _ => pure (null : Data) := rfl
  rw [hcall]
  unfold convertTable tellAbsent secureFolder
  simp only [bind_assoc]
  refine bind_congr fun known => ?_
  cases known <;> simp only [bind_assoc, pure_bind, if_true, if_false, Bool.false_eq_true]
  · refine bind_congr fun _ => bind_congr fun there => ?_
    cases there <;> simp only [bind_assoc, pure_bind, if_true, if_false, Bool.false_eq_true]
  · refine bind_congr fun there => ?_
    cases there <;> simp only [bind_assoc, pure_bind, if_true, if_false, Bool.false_eq_true]

theorem runIn_tellAbsent (source : String) (w : World) : ∃ u, (tellAbsent source).runIn w = (.ok (), u) ∧ u.disk = w.disk := by
  unfold tellAbsent
  rw [runIn_bind_of_ok (runIn_pathExists source w)]
  split
  · exact ⟨w, rfl, rfl⟩
  · exact ⟨_, runIn_print _ w, rfl⟩

theorem runIn_convertTable (htable : Holds w.disk source header cs ended)
    (hfolder : Secured w.disk (Path.folder (Path.absolute target)) d) (hplace : Placeable d (Path.absolute target)) :
    ∃ v, (convertTableCommand.call [.str source, .str target]).runIn w = (.ok .null, v) ∧
      Value.lookup (Path.absolute target) v.disk.files = some (.text (fileText (legendOf (cs.map Columns.row)))) := by
  obtain ⟨b, hfile, htext⟩ := htable.file
  obtain ⟨u, htell, hu⟩ := runIn_tellAbsent source w
  have hread : (readText source).runIn { u with disk := d } = (.ok (Text.plainNewlines b.toText), { u with disk := d }) := by
    refine runIn_readText htable.path htable.plain ?_
    rw [hfolder.files, hfile]
  have hrows := readRow_table htable.header htable.columns ended
  rw [← htext] at hrows
  have hwrite := runIn_writeText (w := { u with disk := d }) hplace (fileText (legendOf (cs.map Columns.row)))
  rw [call_convertTable, runIn_bind_of_ok htell, runIn_bind_of_ok (hfolder u hu), runIn_bind_of_ok hread,
    runIn_bind_of_ok (runIn_mapM hrows _), runIn_bind_of_ok hwrite, runIn_pure]
  refine ⟨_, rfl, ?_⟩
  rw [Path.absolute_absolute]
  exact Disk.lookup_write _ _ _

/-- **When a legend file can be read back.** The conversion of a class table always ends well. What it writes is a
dictionary literal with a colour for each label, that of the last class with the label, exactly if there is a class and all
labels and colours in the legend are clean. -/
theorem legend_file_reads_back_iff (names : List Char → Option Char) (htable : Holds w.disk source header cs ended)
    (hfolder : Secured w.disk (Path.folder (Path.absolute target)) d) (hplace : Placeable d (Path.absolute target)) :
    ∃ v text, (convertTableCommand.call [.str source, .str target]).runIn w = (.ok .null, v) ∧
      Value.lookup (Path.absolute target) v.disk.files = some (.text text) ∧
      (ReadsBack names text.toList (cs.map Columns.row) ↔
        cs ≠ [] ∧ ∀ k c, valueOf (entries (cs.map Columns.row)) k = some c → Clean k ∧ Clean c) := by
  obtain ⟨v, hrun, hfile⟩ := runIn_convertTable htable hfolder hplace
  refine ⟨v, _, hrun, hfile, ?_⟩
  rw [readsBack_iff fun row hrow => feed_not_mem_row htable.columns hrow, Ne, map_eq_nil_iff]

def shelf (table : String) : Disk := { files := [("<TMP>/table.txt", .text table)] }

theorem holds_shelf {table : String} (htable : (Text.plainNewlines table).toList = tableText header cs ended)
    (hheader : '\n' ∉ header) (hcs : ∀ c ∈ cs, c.Proper) : Holds (shelf table) "table.txt" header cs ended :=
  ⟨rfl, rfl, ⟨.text table, rfl, htable⟩, hheader, hcs⟩

theorem secured_shelf (table : String) : Secured (shelf table) (Path.folder (Path.absolute "legend.txt")) (shelf table) :=
  secured_of_exists (by decide) rfl

theorem placeable_shelf (table : String) : Placeable (shelf table) (Path.absolute "legend.txt") :=
  ⟨rfl, rfl, rfl, rfl, rfl⟩

instance : DecidablePred Single := fun _ => instDecidableAnd

instance : DecidablePred Columns.Proper := fun c =>
  decidable_of_iff (Single c.value ∧ Single c.colour ∧ Single c.description)
    ⟨fun h => ⟨h.1, h.2.1, h.2.2⟩, fun h => ⟨h.value, h.colour, h.description⟩⟩

def fields : List Columns :=
  [⟨['1'], ['r', 'e', 'd'], ['o', 'a', 'k']⟩, ⟨['2'], ['t', 'a', 'n', ' '], ['"', '\\', 'd', '"']⟩,
    ⟨['1'], ['t', 'a', 'n'], ['o', 'a', 'k', ' ']⟩]

theorem holds_fields :
    Holds (shelf "h\n1\tred\toak\n2\ttan \t\"\\d\"\n1\ttan\toak \n") "table.txt" ['h'] fields true :=
  holds_shelf (by decide) (by decide) (by decide)

theorem legend_file_reads_back_fields :
    ∃ v text, (convertTableCommand.call [.str "table.txt", .str "legend.txt"]).runIn
        { disk := shelf "h\n1\tred\toak\n2\ttan \t\"\\d\"\n1\ttan\toak \n" } = (.ok .null, v) ∧
      Value.lookup "<TMP>/legend.txt" v.disk.files = some (.text text) ∧
      ReadsBack (fun _ => none) text.toList (fields.map Columns.row) := by
  obtain ⟨v, text, hrun, hfile, hreads⟩ := legend_file_reads_back_iff (w := { disk := shelf _ }) (fun _ => none)
    holds_fields (secured_shelf _) (placeable_shelf _)
  refine ⟨v, text, hrun, hfile, hreads.mpr ⟨by decide, fun k c hc => ?_⟩⟩
  have hall : ∀ e ∈ entries (fields.map Columns.row), Clean e.1 ∧ Clean e.2 := by decide
  exact hall (k, c) (Literal.mem_of_valueOf hc)

/-- Neither a label with a quote in it nor a table without a class gives a file that can be read back. -/
theorem legend_file_unreadable :
    (∃ v text, (convertTableCommand.call [.str "table.txt", .str "legend.txt"]).runIn { disk := shelf "h\n1\tred\tit's\n" } =
        (.ok .null, v) ∧ Value.lookup "<TMP>/legend.txt" v.disk.files = some (.text text) ∧
        ∀ names, ¬ ReadsBack names text.toList [⟨"1", "red", "it's"⟩]) ∧
    ∃ v, (convertTableCommand.call [.str "table.txt", .str "legend.txt"]).runIn { disk := shelf "h\n" } = (.ok .null, v) ∧
      Value.lookup "<TMP>/legend.txt" v.disk.files = some (.text "\n\x7d\n") ∧
      ∀ names, ¬ ReadsBack names "\n\x7d\n".toList [] := by
  have hquoted : Holds (shelf "h\n1\tred\tit's\n") "table.txt" ['h'] [⟨['1'], ['r', 'e', 'd'], ['i', 't', '\'', 's']⟩] true :=
    holds_shelf (by decide) (by decide) (by decide)
  have hempty : Holds (shelf "h\n") "table.txt" ['h'] [] true := holds_shelf (by decide) (by decide) (by decide)
  refine ⟨?_, ?_⟩
  · obtain ⟨v, hrun, hfile⟩ := runIn_convertTable (w := { disk := shelf _ }) hquoted (secured_shelf _) (placeable_shelf _)
    refine ⟨v, _, hrun, hfile, fun names hreads => ?_⟩
    have hclean := clean_of_readsBack (k := "1 it's".toList) (c := "red".toList) hreads (by decide)
    exact absurd hclean.1 (by decide)
  · obtain ⟨v, hrun, hfile⟩ := runIn_convertTable (w := { disk := shelf _ }) hempty (secured_shelf _) (placeable_shelf _)
    exact ⟨v, hrun, hfile, fun names => not_readsBack_nil []⟩

end RemoteSensing.Legend.Table
