import RemoteSensing.Proofs.Json.Breaks
import RemoteSensing.Proofs.Path
import RemoteSensing.Proofs.Session.Files
import RemoteSensing.Script.Notebook

/-!
Sources that are downloaded.
-/

namespace RemoteSensing.Script.Download

open List Session Chars RemoteSensing.Path Json
open Chars (split join)
open Json (Bare encoded lineBreak)
open Text (jsonQuoted)
open String (ofList append_empty toList_append)

variable {p s page : String}

def Source (s : String) : Prop := ∀ c ∈ s.toList, c = '\n' ∨ Bare c

/-- JSON on one line. -/
structure Compact (style : Style) : Prop where
  indent : style.indent = none
  afterKey : style.afterKey.toList = [':'] ∨ style.afterKey.toList = [':', ' ']

def Answer (style : Style) (p s page : String) : Prop :=
  write style 0 (.record [(p, .str s)] : Data) = .ok page

variable {ascii : Bool} {style : Style} {rest : List String} {path : String} {w : World}

theorem toList_page (hstyle : Compact style) (h : Answer style p s page) :
    page.toList = '\x7b' :: '"' :: (encoded style.ascii p.toList ++
      '"' :: (style.afterKey.toList ++ '"' :: (encoded style.ascii s.toList ++ ['"', '\x7d']))) := by
  have hpage : page = style.enclosed 0 "\x7b" (style.key p ++ jsonQuoted style.ascii s ++ "") "\x7d" := (Except.ok.inj h).symm
  have hopen : "\x7b".toList = ['\x7b'] := by decide
  have hclose : "\x7d".toList = ['\x7d'] := by decide
  rw [hpage]
  simp only [Style.enclosed, Style.key, Style.lineBreak, hstyle.indent, append_empty,
    toList_append, toList_jsonQuoted, hopen, hclose]
  simp

def middle (t : List Char) : List (List Char) := (split lineBreak t).tail.dropLast

variable {t a b : List Char} {as bs : List (List Char)}

theorem middle_eq (ht : split lineBreak t = as ++ [a]) : middle t = as.tail := by
  rw [middle, ← tail_dropLast, ht, dropLast_concat]

theorem split_quote {x : List Char} (hs : split lineBreak x = as ++ [a]) (ht : split lineBreak t = b :: bs) :
    split lineBreak (x ++ '"' :: t) = as ++ (a ++ '"' :: b) :: bs :=
  split_cut (by decide) (by decide) hs ht

theorem middle_opened {x : List Char} (hx : ¬ lineBreak <:+: x) (t : List Char) : middle (x ++ '"' :: t) = middle t := by
  have hfirst : split lineBreak x = [] ++ [x] := Chars.split_of_absent x hx
  obtain ⟨b, bs, ht⟩ := exists_cons_of_ne_nil (Chars.split_ne_nil (d := lineBreak) (by decide) t)
  rw [middle, middle, split_quote hfirst ht, ht]
  rfl

theorem middle_key (hp : split lineBreak (encoded ascii p.toList) = as ++ [a]) :
    middle (jsonQuoted ascii p).toList = as.tail := by
  have hclosed : split lineBreak (encoded ascii p.toList ++ ['"']) = as ++ [a ++ ['"']] := split_quote hp Chars.split_nil
  rw [Json.toList_jsonQuoted]
  exact (middle_opened (x := []) (by decide) _).trans (middle_eq hclosed)

/-- **What is kept of an answer.** The first line of the source stands in one part with the end of the module path, and the
last line in one part with the end of the answer. -/
theorem middle_page (hstyle : Compact style) (h : Answer style p s page) (hs : Source s)
    (hp : split lineBreak (encoded style.ascii p.toList) = as ++ [a]) (hlines : split ['\n'] s.toList = b :: bs) :
    middle page.toList =
      if bs = [] then as.tail else (as ++ (a ++ '"' :: (style.afterKey.toList ++ '"' :: b)) :: bs.dropLast).tail := by
  have hsource : split lineBreak (encoded style.ascii s.toList) = b :: bs := by
    rw [Json.split_encoded_source style.ascii hs, hlines]
  have hafter : split lineBreak style.afterKey.toList = [] ++ [style.afterKey.toList] := by
    rcases hstyle.afterKey with hkey | hkey
    · rw [hkey]
      decide
    · rw [hkey]
      decide
  have hend : split lineBreak ['\x7d'] = [['\x7d']] := by decide
  rw [toList_page hstyle h]
  refine (middle_opened (x := ['\x7b']) (by decide) _).trans ?_
  by_cases hbs : bs = []
  · have hlast : split lineBreak (encoded style.ascii s.toList) = [] ++ [b] := by rw [hsource, hbs, nil_append]
    rw [if_pos hbs]
    exact middle_eq (split_quote hp (split_quote hafter (split_quote hlast hend)))
  · obtain ⟨ls, l, rfl⟩ : ∃ ls l, bs = ls ++ [l] := ⟨_, _, (dropLast_concat_getLast hbs).symm⟩
    have hlast : split lineBreak (encoded style.ascii s.toList) = (b :: ls) ++ [l] := hsource
    have hwhole := split_quote hp (split_quote hafter (split_quote hlast hend))
    rw [if_neg hbs, dropLast_concat]
    refine middle_eq (a := l ++ ['"', '\x7d']) (hwhole.trans ?_)
    rw [append_assoc]
    rfl

def unescaped (q : Line) : Line := Line.replace (Line.replace (Line.replace q "\\\"" "\"") "\\\\" "\n") "\\r" ""

def recovered (t : List Char) : List Char := ((middle t).map unescaped).flatMap (· ++ ['\n'])

def lineTexts (t : List Char) : List (List Char) := (lines t).map (filter (· != '\n'))

theorem embeddedLines_eq (t : List Char) : embeddedLines t = (middle t).map unescaped := by
  rfl

theorem unescaped_eq (q : Line) : unescaped q = replace ['\\', 'r'] []
    (replace ['\\', '\\'] ['\n'] (replace ['\\', '"'] ['"'] q)) := by
  rfl

theorem replace_escape {q : Line} (hq : '\\' ∉ q) (x : Char) (new : List Char) : Chars.replace ['\\', x] new q = q :=
  Chars.replace_of_absent (by simp) new fun h => hq (h.subset (by simp))

theorem unescaped_of_plain {q : Line} (hq : '\\' ∉ q) : unescaped q = q := by
  rw [unescaped_eq, replace_escape hq, replace_escape hq, replace_escape hq]

theorem unescaped_append {r : Line} (hr : '\\' ∉ r) (q : Line) : unescaped (q ++ ':' :: r) = unescaped q ++ ':' :: r := by
  rw [unescaped_eq, unescaped_eq, Chars.replace_append_cons (by simp) (by decide), replace_escape hr,
    Chars.replace_append_cons (by simp) (by decide), replace_escape hr, Chars.replace_append_cons (by simp) (by decide),
    replace_escape hr]

theorem mem_lineTexts {x : Char} (hx : x ≠ '\n') : (∃ l ∈ lineTexts t, x ∈ l) ↔ x ∈ t := by
  have hmem : x ∈ (Chars.lines t).flatten ↔ x ∈ t := by rw [Chars.flatten_lines]
  rw [← hmem, mem_flatten, lineTexts]
  simp [hx]

theorem lineTexts_flatMap {ls : List (List Char)} (hls : ∀ l ∈ ls, '\n' ∉ l) : lineTexts (ls.flatMap (· ++ ['\n'])) = ls := by
  rw [lineTexts, flatMap_def, Chars.lines_flatten hls, map_map]
  refine (map_congr_left fun l hl => ?_).trans (map_id ls)
  have hfilter : l.filter (· != '\n') = l :=
    List.filter_eq_self.mpr fun c hc => bne_iff_ne.mpr fun heq => hls l hl (heq ▸ hc)
  simp [hfilter]

theorem lineTexts_eq_nil_iff : lineTexts t = [] ↔ t = [] := by
  rw [lineTexts, map_eq_nil_iff]
  constructor
  · intro h
    rw [← Chars.flatten_lines t, h]
    rfl
  · rintro rfl
    rfl

theorem Source.quote_not_mem (hs : Source s) : '"' ∉ s.toList := fun h => by
  rcases hs _ h with heq | hplain
  · revert heq
    decide
  · exact hplain.2.2.1 rfl

theorem Source.slash_not_mem (hs : Source s) : '\\' ∉ s.toList := fun h => by
  rcases hs _ h with heq | hplain
  · revert heq
    decide
  · exact hplain.2.2.2 rfl

section Recovered

variable (hstyle : Compact style) (hpage : Answer style p s page) (hs : Source s)
include hstyle hpage hs

theorem quote_mem_recovered {a' : List Char} (hp : split lineBreak (encoded style.ascii p.toList) = a' :: as ++ [a])
    (hlines : split ['\n'] s.toList = b :: bs) (hbs : bs ≠ []) : '"' ∈ recovered page.toList := by
  have hb : '\\' ∉ b := fun h => hs.slash_not_mem (Chars.mem_of_mem_split (by simp) (hlines ▸ mem_cons_self) h)
  obtain ⟨blank, hkey, hblank⟩ : ∃ blank, style.afterKey.toList = ':' :: blank ∧ '\\' ∉ blank := by
    rcases hstyle.afterKey with hkey | hkey
    · exact ⟨[], hkey, by simp⟩
    · exact ⟨[' '], hkey, by decide⟩
  have hrest : '\\' ∉ blank ++ '"' :: b := by simp [hblank, hb]
  have hmiddle := middle_page hstyle hpage hs hp hlines
  rw [if_neg hbs, hkey, cons_append, tail_cons, cons_append] at hmiddle
  rw [recovered, hmiddle]
  refine mem_flatMap.mpr ⟨unescaped (a ++ '"' :: ':' :: (blank ++ '"' :: b)), mem_map_of_mem (by simp), ?_⟩
  have hcut : a ++ '"' :: ':' :: (blank ++ '"' :: b) = (a ++ ['"']) ++ ':' :: (blank ++ '"' :: b) := by simp
  rw [hcut, unescaped_append hrest]
  simp

theorem recovered_eq (hp : split lineBreak (encoded style.ascii p.toList) = [] ++ [a]) :
    recovered page.toList = (split ['\n'] s.toList).tail.dropLast.flatMap (· ++ ['\n']) := by
  obtain ⟨b, bs, hlines⟩ := exists_cons_of_ne_nil (split_ne_nil (d := ['\n']) (by simp) s.toList)
  have hmiddle : middle page.toList = bs.dropLast := by
    rw [middle_page hstyle hpage hs hp hlines]
    by_cases hbs : bs = []
    · rw [if_pos hbs, hbs]
      rfl
    · rw [if_neg hbs]
      rfl
  have hplain : bs.dropLast.map unescaped = bs.dropLast := by
    refine (map_congr_left fun l hl => ?_).trans (map_id _)
    have hpart : l ∈ split ['\n'] s.toList := hlines ▸ mem_cons_of_mem b (mem_of_mem_dropLast hl)
    exact unescaped_of_plain fun h => hs.slash_not_mem (mem_of_mem_split (by simp) hpart h)
  rw [recovered, hmiddle, hplain, hlines, tail_cons]

theorem lineTexts_recovered (hp : split lineBreak (encoded style.ascii p.toList) = [] ++ [a]) :
    lineTexts (recovered page.toList) = (split ['\n'] s.toList).tail.dropLast := by
  rw [recovered_eq hstyle hpage hs hp]
  refine lineTexts_flatMap fun l hl hfeed => ?_
  obtain ⟨x, y, rfl⟩ := append_of_mem hfeed
  exact absent_of_mem_split (by simp) (mem_of_mem_tail (mem_of_mem_dropLast hl)) ⟨x, y, by simp⟩

theorem length_recovered_lt (hp : split lineBreak (encoded style.ascii p.toList) = [] ++ [a]) (hne : s.toList ≠ []) :
    (lineTexts (recovered page.toList)).length < (lineTexts s.toList).length := by
  have hlines : s.toList.count '\n' ≤ (lineTexts s.toList).length := by
    rw [lineTexts, length_map]
    exact count_le_length_lines s.toList
  have hsome : 0 < (lineTexts s.toList).length := length_pos_iff.mpr fun h => hne (lineTexts_eq_nil_iff.mp h)
  rw [lineTexts_recovered hstyle hpage hs hp, length_dropLast, length_tail, length_split]
  omega

/-- **When the file holds the source.** The lines of the file are those of the source only if the source has no line feed,
and then they come from the module path. -/
theorem lineTexts_recovered_iff : lineTexts (recovered page.toList) = lineTexts s.toList ↔
    '\n' ∉ s.toList ∧ lineTexts (recovered (jsonQuoted style.ascii p).toList) = lineTexts s.toList := by
  obtain ⟨b, bs, hlines⟩ := exists_cons_of_ne_nil (split_ne_nil (d := ['\n']) (by simp) s.toList)
  obtain ⟨as, a, hp⟩ : ∃ as a, split lineBreak (encoded style.ascii p.toList) = as ++ [a] :=
    ⟨_, _, (dropLast_concat_getLast (split_ne_nil (by decide) _)).symm⟩
  have hcount : s.toList.count '\n' = bs.length := by
    have hlength := length_split '\n' s.toList
    rw [hlines, length_cons] at hlength
    omega
  by_cases hbs : bs = []
  · have hfeed : '\n' ∉ s.toList := count_eq_zero.mp (by rw [hcount, hbs, length_nil])
    have hsame : recovered page.toList = recovered (jsonQuoted style.ascii p).toList := by
      rw [recovered, recovered, middle_key hp, middle_page hstyle hpage hs hp hlines, if_pos hbs]
    rw [hsame]
    exact (and_iff_right hfeed).symm
  · have hfeed : '\n' ∈ s.toList := count_pos_iff.mp (by rw [hcount]; exact length_pos_iff.mpr hbs)
    refine iff_of_false (fun heq => ?_) fun h => h.1 hfeed
    cases as with
    | nil =>
      have hlt := length_recovered_lt hstyle hpage hs hp (ne_nil_of_mem hfeed)
      rw [heq] at hlt
      omega
    | cons a' as =>
      -- a quote in a line of the file would be one in the source
      have hquote := quote_mem_recovered hstyle hpage hs hp hlines hbs
      rw [← mem_lineTexts (by decide), heq, mem_lineTexts (by decide)] at hquote
      exact hs.quote_not_mem hquote

end Recovered

/-- A module path without a line feed, and without a backslash that is taken for the start of one. -/
def OneLine (p : String) : Prop := '\n' ∉ p.toList ∧ ¬ lineBreak <:+: p.toList

def fileFor (url : String) : Option String → String
  | none => here ++ "/" ++ base url ++ ".js"
  | some t => if Text.endsWith t "js" then t else t ++ ".js"

def arguments (url : String) (target : Option String) : List Data := .str url :: (target.map Value.str).toList

def keep (source path : String) : Session Unit := do
  try writeText (path ++ "on") (← openPage source)
  catch _ => reject .general "The URL is invalid. Please double check the URL."

def extract (path : String) : Session Unit := do
  writeText path ""
  let kept ← readText (path ++ "on")
  let lines := (lines kept.toList).flatMap embeddedLines
  writeText path (ofList (lines.flatMap fun l => l ++ ['\n']))
  removeFile (path ++ "on")

theorem call_download (url : String) (target : Option String) :
    downloadAppCommand.call (arguments url target) [] = (do
      let source ← sourceAddress url
      print ("The json url: " ++ source)
      secureFolder (folder (fileFor url target))
      keep source (fileFor url target)
      extract (fileFor url target)
      print ("The JavaScript is saved at: " ++ fileFor url target)
      pure .null) := by
  have hcall : downloadAppCommand.call (arguments url target) [] =
      downloadApp url (target.elim .null .str) >>= fun _ => pure (Value.null : Data) := by
    cases target <;> rfl
  rw [hcall]
  unfold downloadApp secureFolder keep extract
  cases target with
  | none =>
    simp only [bind_assoc, pure_bind, Option.elim, fileFor]
    generalize here ++ "/" ++ base url ++ ".js" = path
    refine bind_congr fun source => bind_congr fun _ => bind_congr fun there => ?_
    cases there <;> simp only [bind_assoc, pure_bind, if_true, if_false, Bool.false_eq_true]
  | some t =>
    have hstr : (liftM (Value.strOf (.str t : Data) "endswith") : Session String) = pure t := rfl
    simp only [bind_assoc, pure_bind, Option.elim, hstr, fileFor]
    generalize (if Text.endsWith t "js" = true then t else t ++ ".js") = path
    refine bind_congr fun source => bind_congr fun _ => bind_congr fun there => ?_
    cases there <;> simp only [bind_assoc, pure_bind, if_true, if_false, Bool.false_eq_true]

theorem ends_fileFor (url : String) (target : Option String) : ∃ q, fileFor url target = q ++ "js" := by
  cases target with
  | none => exact ⟨here ++ "/" ++ base url ++ ".", by rw [String.append_assoc]; rfl⟩
  | some t =>
    by_cases hends : Text.endsWith t "js" = true
    · obtain ⟨q, hq⟩ := isSuffixOf_iff_suffix.mp hends
      refine ⟨ofList q, ?_⟩
      rw [fileFor, if_pos hends, ← String.toList_inj, toList_append, String.toList_ofList, hq]
    · exact ⟨t ++ ".", by rw [fileFor, if_neg hends, String.append_assoc]; rfl⟩

def Lettered (s : String) : Prop := s.toList.getLast? = some 's' ∨ s.toList.getLast? = some 'n'

theorem lettered_append (a : String) {e : String} (he : e = "" ∨ e = "on") : Lettered (a ++ "js" ++ e) := by
  have hlast : ∀ (x y : String) (c : Char), y.toList.getLast? = some c → (x ++ y).toList.getLast? = some c := by
    intro x y c hy
    rw [toList_append, getLast?_append, hy]
    rfl
  rcases he with rfl | rfl
  · rw [append_empty]
    exact .inl (hlast a "js" 's' (by decide))
  · exact .inr (hlast (a ++ "js") "on" 'n' (by decide))

theorem Lettered.ne {t : String} (hs : Lettered s)
    (ht : t.toList.getLast? ≠ some 's' ∧ t.toList.getLast? ≠ some 'n') : s ≠ t := by
  rintro rfl
  exact hs.elim ht.1 ht.2

theorem kept_apart {q : String} (h : path = q ++ "js") : absolute (path ++ "on") ≠ absolute path := by
  obtain ⟨head, hhead, hq⟩ := eq_behind q
  have hslash : ∀ {e : String}, e = "" ∨ e = "on" → '/' ∉ (base q ++ "js" ++ e).toList := by
    intro e he
    rw [toList_append, toList_append, mem_append, mem_append]
    rintro ((hbase | hjs) | hon)
    · exact slash_not_mem_base q hbase
    · revert hjs
      decide
    · rcases he with rfl | rfl
      · cases hon
      · revert hon
        decide
  have hbase : base path = base q ++ "js" := by
    have hplain := hslash (.inl rfl)
    rw [append_empty] at hplain
    have hbehind := base_behind hhead hplain
    rwa [← String.append_assoc, ← hq, ← h] at hbehind
  have hname : ∀ {e : String}, e = "" ∨ e = "on" → Name (base path ++ e) := by
    intro e he
    rw [hbase]
    have hend := lettered_append (base q) he
    exact ⟨hslash he, hend.ne (by decide), hend.ne (by decide), hend.ne (by decide)⟩
  have hhere : ∀ {e : String}, e = "" ∨ e = "on" → path ++ e ≠ here := by
    intro e he
    rw [h]
    exact (lettered_append q he).ne (by decide)
  have hkept := absolute_file (hname (.inr rfl)) (hhere (.inr rfl))
  have hfile := absolute_file (hname (.inl rfl)) (hhere (.inl rfl))
  rw [append_empty, append_empty] at hfile
  rw [hkept, hfile]
  intro heq
  have hlength := congrArg String.length heq
  unfold child at hlength
  split at hlength
  · simp at hlength
  · simp at hlength

theorem runIn_keep (h : Placeable w.disk (path ++ "on")) (hpages : w.pages = page :: rest) (source : String) :
    ∃ v, (keep source path).runIn w = (.ok (), v) ∧ v.disk = w.disk.write (absolute (path ++ "on")) (.text page) := by
  obtain ⟨u, hopen, hu⟩ : ∃ u, (openPage source).runIn w = (.ok page, u) ∧ u.disk = w.disk := by
    unfold openPage
    rw [runIn_bind_of_ok (runIn_modify _ w), runIn_bind_of_ok (runIn_get _), hpages]
    exact ⟨_, rfl, rfl⟩
  rw [← hu] at h ⊢
  refine ⟨{ u with disk := u.disk.write (absolute (path ++ "on")) (.text page) }, ?_, rfl⟩
  unfold keep
  rw [runIn_tryCatch, runIn_bind_of_ok hopen, runIn_writeText h]

theorem runIn_extract (hplace : Placeable w.disk path) (hkept : Placeable w.disk (path ++ "on"))
    (hapart : absolute (path ++ "on") ≠ absolute path)
    (hfile : Value.lookup (absolute (path ++ "on")) w.disk.files = some (.text page))
    (hline : ∀ c ∈ page.toList, c ≠ '\n' ∧ c ≠ '\r') (hne : page.toList ≠ []) :
    ∃ v, (extract path).runIn w = (.ok (), v) ∧
      Value.lookup (absolute path) v.disk.files = some (.text (ofList (recovered page.toList))) := by
  have hplain : Text.plainNewlines (Body.text page).toText = page := by
    show Text.plainNewlines page = page
    rw [Text.plainNewlines, plainNewlines_of_not_mem fun h => (hline _ h).2 rfl, String.ofList_toList]
  have hlines : (lines page.toList).flatMap embeddedLines = (middle page.toList).map unescaped := by
    rw [lines_of_not_mem (fun h => (hline _ h).1 rfl) hne, flatMap_singleton, embeddedLines_eq]
  have hfound : ∀ {d : Disk} (b : Body), Value.lookup (absolute (path ++ "on")) d.files = some (.text page) →
      Value.lookup (absolute (path ++ "on")) (d.write (absolute path) b).files = some (.text page) := by
    intro d b hd
    rw [Disk.lookup_write_of_ne (Ne.symm hapart), hd]
  have hrun : (extract path).runIn w = (.ok (), { w with
      disk := ((w.disk.write (absolute path) (.text "")).write (absolute path)
        (.text (ofList (recovered page.toList)))).remove (absolute (path ++ "on")) }) := by
    unfold extract
    rw [runIn_bind_of_ok (runIn_writeText hplace ""),
      runIn_bind_of_ok (runIn_readText hkept.path hkept.plain (hfound _ hfile)), hplain]
    simp only [hlines]
    rw [runIn_bind_of_ok (runIn_writeText (hplace.write _ _) _),
      runIn_removeFile hkept.named (hfound _ (hfound _ hfile))]
    rfl
  refine ⟨_, hrun, ?_⟩
  rw [Disk.lookup_remove_of_ne (Ne.symm hapart), Disk.lookup_write]

/-- The folder of the file is there or can be made; the file and the answer can then be written into it. -/
def Ready (d : Disk) (path : String) : Prop :=
  ∃ d', Secured d (folder path) d' ∧ Placeable d' path ∧ Placeable d' (path ++ "on")

theorem runIn_download {url source : String} {target : Option String} (haddress : sourceAddress url = .ok source)
    (hready : Ready w.disk (fileFor url target)) (hpages : w.pages = page :: rest)
    (hline : ∀ c ∈ page.toList, c ≠ '\n' ∧ c ≠ '\r') (hne : page.toList ≠ []) :
    ∃ v, (downloadAppCommand.call (arguments url target)).runIn w = (.ok .null, v) ∧
      Value.lookup (absolute (fileFor url target)) v.disk.files =
        some (.text (ofList (recovered page.toList))) := by
  obtain ⟨d, hfolder, hplace, hkept⟩ := hready
  obtain ⟨q, hq⟩ := ends_fileFor url target
  obtain ⟨u, htell, hdisk, hqueue⟩ : ∃ u, (print ("The json url: " ++ source)).runIn w = (.ok (), u) ∧
      u.disk = w.disk ∧ u.pages = page :: rest := ⟨_, runIn_print _ w, rfl, hpages⟩
  obtain ⟨u', hkeep, hu'⟩ := runIn_keep (w := { u with disk := d }) hkept hqueue source
  obtain ⟨v, hextract, hv⟩ := runIn_extract (w := u') (by rw [hu']; exact hplace.write _ _)
    (by rw [hu']; exact hkept.write _ _) (kept_apart hq) (by rw [hu']; exact Disk.lookup_write _ _ _) hline hne
  rw [call_download, haddress, runIn_liftM_ok, runIn_bind_of_ok htell,
    runIn_bind_of_ok (hfolder u hdisk), runIn_bind_of_ok hkeep, runIn_bind_of_ok hextract,
    runIn_bind_of_ok (runIn_print _ v), runIn_pure]
  exact ⟨_, rfl, hv⟩

theorem in_line_page {style : Style} (hstyle : Compact style) (h : Answer style p s page) :
    (∀ c ∈ page.toList, c ≠ '\n' ∧ c ≠ '\r') ∧ page.toList ≠ [] := by
  have hencoded : ∀ {cs : List Char}, ∀ c ∈ encoded style.ascii cs, c ≠ '\n' ∧ c ≠ '\r' := by
    intro cs c hc
    obtain ⟨x, -, hx⟩ := mem_flatMap.mp hc
    exact (spelled_jsonChar style.ascii x).in_line hx
  have hkey : ∀ c ∈ style.afterKey.toList, c ≠ '\n' ∧ c ≠ '\r' := by
    rcases hstyle.afterKey with hkey | hkey
    · rw [hkey]
      simp
    · rw [hkey]
      simp
  rw [toList_page hstyle h]
  refine ⟨fun c hc => ?_, by simp⟩
  simp only [mem_cons, mem_append, not_mem_nil, or_false] at hc
  rcases hc with rfl | rfl | hc | rfl | hc | rfl | hc | rfl | rfl
  · decide
  · decide
  · exact hencoded c hc
  · decide
  · exact hkey c hc
  · decide
  · exact hencoded c hc
  · decide
  · decide

/-- **What a download makes of a source.** The run ends well. The lines of the file are those of the source only if the
source has no line feed and the pieces of the module path happen to be its lines. For a module path on one line, the file
holds what stands between the first and the last line feed of the source: its first line is never there. -/
theorem source_recovered_iff {w : World} {url source p s page : String} {target : Option String} {rest : List String}
    {style : Json.Style} (haddress : sourceAddress url = .ok source) (hready : Ready w.disk (fileFor url target))
    (hstyle : Compact style) (hpage : Answer style p s page) (hpages : w.pages = page :: rest) (hs : Source s) :
    ∃ v text, (downloadAppCommand.call (arguments url target)).runIn w = (.ok .null, v) ∧
      Value.lookup (Path.absolute (fileFor url target)) v.disk.files = some (.text text) ∧
      (lineTexts text.toList = lineTexts s.toList ↔
        '\n' ∉ s.toList ∧ lineTexts (recovered (Text.jsonQuoted style.ascii p).toList) = lineTexts s.toList) ∧
      (OneLine p → text.toList = (Chars.split ['\n'] s.toList).tail.dropLast.flatMap (· ++ ['\n']) ∧
        ((lineTexts s.toList).Sublist (lineTexts text.toList) ↔ s = "")) := by
  obtain ⟨hline, hne⟩ := in_line_page hstyle hpage
  obtain ⟨v, hrun, hfile⟩ := runIn_download haddress hready hpages hline hne
  refine ⟨v, _, hrun, hfile, ?_, ?_⟩
  · rw [String.toList_ofList]
    exact lineTexts_recovered_iff hstyle hpage hs
  · intro hp
    have hsplit : Chars.split lineBreak (encoded style.ascii p.toList) = [] ++ [encoded style.ascii p.toList] :=
      Chars.split_of_absent _ (Json.absent_encoded style.ascii hp.1 hp.2)
    rw [String.toList_ofList]
    refine ⟨recovered_eq hstyle hpage hs hsplit, fun hsub => ?_, ?_⟩
    · by_contra hsome
      have hlt := length_recovered_lt hstyle hpage hs hsplit (by simpa using hsome)
      have hle := hsub.length_le
      omega
    · rintro rfl
      exact nil_sublist _

theorem fileFor_app : fileFor "https://a.app/view/map" none = "<TMP>/map.js" := by decide

theorem ready_app : Ready {} (fileFor "https://a.app/view/map" none) := by
  exact ⟨{}, secured_of_exists rfl rfl, ⟨rfl, rfl, rfl, rfl, rfl⟩, ⟨rfl, rfl, rfl, rfl, rfl⟩⟩

theorem address_app : sourceAddress "https://a.app/view/map" = .ok "https://a.app/javascript/map-modules.json" := by decide

theorem compact_default : Compact {} := ⟨rfl, .inr (by decide)⟩

theorem source_two_lines : Source "a;\nb;\n" := by
  unfold Source Bare
  decide

theorem source_recovered_two_lines : ∃ page, Answer {} "users/a" "a;\nb;\n" page ∧
    ∃ v text, (downloadAppCommand.call (arguments "https://a.app/view/map" none)).runIn { pages := [page] } = (.ok .null, v) ∧
      Value.lookup "<TMP>/map.js" v.disk.files = some (.text text) ∧ text.toList = ['b', ';', '\n'] ∧
      ¬ (lineTexts "a;\nb;\n".toList).Sublist (lineTexts text.toList) := by
  obtain ⟨page, hpage⟩ : ∃ page, Answer {} "users/a" "a;\nb;\n" page := ⟨_, rfl⟩
  obtain ⟨v, text, hrun, hfile, -, hone⟩ :=
    source_recovered_iff (w := { pages := [page] }) address_app ready_app compact_default hpage rfl source_two_lines
  obtain ⟨htext, hsub⟩ := hone ⟨by decide, by decide⟩
  refine ⟨page, hpage, v, text, hrun, ?_, htext.trans (by decide), fun h => ?_⟩
  · rw [← hfile, fileFor_app]
    rfl
  · exact absurd (hsub.mp h) (by decide)

theorem download_loses_first_line : ∃ page v, Answer {} "users/a" "a;\nb;\n" page ∧
    (downloadAppCommand.call (arguments "https://a.app/view/map" none)).runIn { pages := [page] } = (.ok .null, v) ∧
    Value.lookup "<TMP>/map.js" v.disk.files = some (.text "b;\n") := by
  obtain ⟨page, hpage⟩ : ∃ page, Answer {} "users/a" "a;\nb;\n" page := ⟨_, rfl⟩
  obtain ⟨hline, hne⟩ := in_line_page compact_default hpage
  obtain ⟨v, hrun, hfile⟩ := runIn_download (w := { pages := [page] }) address_app ready_app rfl hline hne
  have hsplit : Chars.split lineBreak (encoded true "users/a".toList) = [] ++ [encoded true "users/a".toList] := by decide
  have hpath : Path.absolute (fileFor "https://a.app/view/map" none) = "<TMP>/map.js" := by
    rw [fileFor_app]
    decide
  rw [recovered_eq compact_default hpage source_two_lines hsplit, hpath] at hfile
  exact ⟨page, v, hpage, hrun, hfile.trans (congrArg (some ∘ Body.text) (by decide))⟩

end RemoteSensing.Script.Download
