import RemoteSensing.Catalog.Search
import RemoteSensing.Proofs.Json.RoundTrip
import RemoteSensing.Proofs.Text.Chars

/-!
A search with keywords is a conjunction. The lists found for the keywords are intersected as texts, so it has to be shown
that writing an entry out and reading it back loses nothing.
-/

namespace RemoteSensing.Catalog

open List Session Value Json

variable {content : String → List Data} {source key keyword s : String} {links keys keywords later : List String}
  {types : Option (List String)} {entry : Data} {w : World}

def textAt (entry : Data) (key : String) : Option String := match entry with
  | .record fields => match Value.lookup key fields with
    | some (.str s) => some s
    | _ => none
  | _ => none

def dateAt (entry : Data) (key : String) : String := (textAt entry key).getD "Unknown"

/-- Entries with texts where the search expects them: an identifier that is no expression, a type, dates if there are any,
and the searched fields. -/
structure Searchable (keys : List String) (entry : Data) : Prop where
  id : ∃ s, textAt entry "id" = some s ∧ ¬ "ee.".toList <:+: s.toList
  type : ∃ s, textAt entry "type" = some s
  dates : ∀ key ∈ ["start_date", "end_date"], ∃ s, entry.getD key "Unknown" = .ok (.str s)
  keys : ∀ key ∈ keys, ∃ s, textAt entry key = some s

/-- Entries with texts where the search looks at them. -/
structure Readable (keys : List String) (types : Option (List String)) (entry : Data) : Prop where
  id : ∃ s, textAt entry "id" = some s
  type : ∀ given, types = some given → given ≠ [] → ∃ s, textAt entry "type" = some s
  dates : ∀ key ∈ ["start_date", "end_date"], ∃ s, entry.getD key "Unknown" = .ok (.str s)
  keys : ∀ key ∈ keys, ∃ s, textAt entry key = some s

theorem Searchable.readable (h : Searchable keys entry) :
    Readable keys types entry := by
  obtain ⟨s, hs, -⟩ := h.id
  exact ⟨⟨s, hs⟩, fun _ _ _ => h.type, h.dates, h.keys⟩

/-- What a search asks of an entry: every keyword is a part of a searched field, and the type is one of those given, if
any are. -/
structure Selected (keys : List String) (types : Option (List String)) (keywords : List String) (entry : Data) : Prop where
  keywords : ∀ keyword ∈ keywords, ∃ key ∈ keys, ∃ s, textAt entry key = some s ∧ keyword.toList <:+: s.toList
  type : ∀ given, types = some given → given ≠ [] → ∃ type ∈ given, textAt entry "type" = some type

theorem Selected.mono {more : List String} (h : Selected keys types more entry)
    (hsub : keywords ⊆ more) : Selected keys types keywords entry :=
  ⟨fun keyword hkeyword => h.keywords keyword (hsub hkeyword), h.type⟩

theorem selected_congr {others : List String} (h : ∀ keyword, keyword ∈ others ↔ keyword ∈ keywords) :
    Selected keys types others entry ↔ Selected keys types keywords entry :=
  ⟨fun hs => hs.mono fun k hk => (h k).mpr hk, fun hs => hs.mono fun k hk => (h k).mp hk⟩

/-- An entry as it is returned: the dates are put together, and the identifier is also given with underscores. -/
def completed (entry : Data) : Data := match entry with
  | .record fields => .record (insert "uid" (.str (Text.replace ((textAt entry "id").getD "") "/" "_"))
      (insert "dates" (.str (dateAt entry "start_date" ++ " - " ++ dateAt entry "end_date")) fields))
  | v => v

theorem record_of_textAt (h : textAt entry key = some s) :
    ∃ fields, entry = .record fields ∧ Value.lookup key fields = some (.str s) := by
  unfold textAt at h
  split at h
  · rename_i fields
    split at h
    · rename_i t hlookup
      cases h
      exact ⟨fields, rfl, hlookup⟩
    · cases h
  · cases h

theorem item_of_textAt (h : textAt entry key = some s) : entry.item key = .ok (.str s) := by
  obtain ⟨fields, rfl, hlookup⟩ := record_of_textAt h
  rw [Value.item, hlookup]

theorem getD_eq_dateAt (h : ∃ s, entry.getD key "Unknown" = .ok (.str s)) (hrecord : ∃ fields, entry = .record fields) :
    entry.getD key "Unknown" = .ok (.str (dateAt entry key)) := by
  obtain ⟨fields, rfl⟩ := hrecord
  obtain ⟨s, hs⟩ := h
  rw [hs]
  rw [Value.getD] at hs
  cases hlookup : Value.lookup key fields with
  | none =>
    rw [hlookup] at hs
    cases hs
    rw [dateAt, textAt, hlookup]
    rfl
  | some v =>
    rw [hlookup, Option.getD_some] at hs
    cases hs
    rw [dateAt, textAt, hlookup]
    rfl

theorem entryId_plain (h : ¬ "ee.".toList <:+: s.toList) : entryId (.str s) = .ok s := by
  have hplain : Text.contains s "ee." = false := by
    rw [Text.contains, Bool.eq_false_iff, Ne, Chars.contains_iff]
    exact h
  have hhas : (str s : Data).has "ee." = .ok false := by
    rw [has, hplain]
  rw [entryId, hhas]
  rfl

theorem entryId_marked (h : "ee.".toList <:+: s.toList) (hquote : '\'' ∉ s.toList) : ∃ e, entryId (.str s) = .error e := by
  have hhas : (str s : Data).has "ee." = .ok true := by
    rw [has, Text.contains, Chars.contains_iff.mpr h]
  have hnone := Chars.find?_eq_none_iff.mpr hquote
  rw [entryId, hhas]
  simp only [Value.strOf, bind, Except.bind, if_true, hnone]
  exact ⟨_, rfl⟩

/-- What is left to do for an entry when its identifier is known. -/
def finish (entry : Data) (id : String) : Except Fault Data := do
  let entry ← entry.setItem "dates" (.str (dateAt entry "start_date" ++ " - " ++ dateAt entry "end_date"))
  let entry ← entry.setItem "id" (.str id)
  entry.setItem "uid" (.str (Text.replace id "/" "_"))

section Complete

variable (h : Readable keys types entry) (hid : textAt entry "id" = some s)

include h hid

theorem complete_of_id : complete entry = entryId (.str s) >>= finish entry := by
  obtain ⟨fields, rfl, -⟩ := record_of_textAt hid
  have hstart := getD_eq_dateAt (h.dates "start_date" (by simp)) ⟨fields, rfl⟩
  have hstop := getD_eq_dateAt (h.dates "end_date" (by simp)) ⟨fields, rfl⟩
  rw [complete, hstart, hstop, item_of_textAt hid]
  rfl

theorem complete_eq (hplain : ¬ "ee.".toList <:+: s.toList) : complete entry = .ok (completed entry) := by
  rw [complete_of_id h hid, entryId_plain hplain]
  obtain ⟨fields, rfl, hlookup⟩ := record_of_textAt hid
  -- the identifier is set to what it is
  have hkeep (dates : Data) : insert "id" (.str s) (insert "dates" dates fields) = insert "dates" dates fields := by
    apply Value.insert_self
    rw [Value.lookup_insert_of_ne (by decide), hlookup]
  rw [completed, hid, ← hkeep]
  rfl

theorem complete_marked (hmark : "ee.".toList <:+: s.toList) (hquote : '\'' ∉ s.toList) : ∃ e, complete entry = .error e := by
  obtain ⟨e, he⟩ := entryId_marked hmark hquote
  rw [complete_of_id h hid, he]
  exact ⟨e, rfl⟩

end Complete

def givenTypes : Option (List String) → Data
  | none => .null
  | some types => strs types

def mentions (keys : List String) (keyword : String) (entry : Data) : Bool :=
  keys.any fun key => (textAt entry key).any fun s => Text.contains s keyword

def allowed (types : Option (List String)) (entry : Data) : Bool := match types with
  | none => true
  | some [] => true
  | some given => (textAt entry "type").any given.contains

variable {entries : List Data}

theorem anyField_eq (h : ∀ key ∈ keys, ∃ s, textAt entry key = some s) :
    anyField (fun field => field.holds (.str keyword)) entry (keys.map .str) = .ok (mentions keys keyword entry) := by
  induction keys with
  | nil => rfl
  | cons key keys ih =>
    obtain ⟨s, hs⟩ := h key mem_cons_self
    have hsubscript : entry.subscript (.str key) = .ok (.str s) := item_of_textAt hs
    have hholds : (str s : Data).holds (.str keyword) = .ok (Text.contains s keyword) := rfl
    have hcons : mentions (key :: keys) keyword entry = (Text.contains s keyword || mentions keys keyword entry) := by
      rw [mentions, any_cons, hs]
      rfl
    rw [map_cons, anyField, hsubscript, hcons]
    show (do if ← (str s : Data).holds (.str keyword) then pure true else _) = _
    rw [hholds]
    cases Text.contains s keyword with
    | true => rfl
    | false => exact ih fun key hkey => h key (mem_cons_of_mem _ hkey)

theorem holds_type (given : List String) (type : String) :
    (strs given : Data).holds (.str type) = .ok (given.contains type) := by
  show (list (given.map .str) : Data).has type = _
  rw [has, any_map, contains_eq_any_beq]
  congr 2
  funext s
  exact Bool.beq_comm

theorem truthy_givenTypes (types : Option (List String)) :
    (givenTypes types).truthy = true ↔ ∃ given, types = some given ∧ given ≠ [] := by
  cases types with
  | none => simp [givenTypes, Value.truthy]
  | some given => cases given <;> simp [givenTypes, strs, Value.truthy]

theorem filterM_types (hentries : ∀ entry ∈ entries, Readable keys types entry) :
    (if (givenTypes types).truthy then
        entries.filterM fun entry => do ((givenTypes types).holds (← entry.item "type") : Except Fault Bool)
      else pure entries : Session (List Data)) = pure (entries.filter (allowed types)) := by
  by_cases htypes : (givenTypes types).truthy = true
  · rw [if_pos htypes]
    obtain ⟨given, rfl, hne⟩ := (truthy_givenTypes types).mp htypes
    apply filterM_eq_pure
    intro entry hentry
    obtain ⟨s, hs⟩ := (hentries entry hentry).type given rfl hne
    have hallowed : allowed (some given) entry = given.contains s := by
      cases given with
      | nil => exact absurd rfl hne
      | cons t ts => exact congrArg (Option.any (t :: ts).contains) hs
    have hlift (x : Data) : (liftM (Except.ok x : Except Fault Data) : Session Data) = pure x := rfl
    rw [item_of_textAt hs, hlift, pure_bind, givenTypes, holds_type, hallowed]
    rfl
  · rw [if_neg htypes]
    have hall : ∀ entry ∈ entries, allowed types entry = true := by
      intro entry _
      cases types with
      | none => rfl
      | some given =>
        cases given with
        | nil => rfl
        | cons t ts => exact absurd ((truthy_givenTypes _).mpr ⟨t :: ts, rfl, cons_ne_nil _ _⟩) htypes
    rw [filter_eq_self.mpr hall]

theorem mentions_iff : mentions keys keyword entry = true ↔
    ∃ key ∈ keys, ∃ s, textAt entry key = some s ∧ keyword.toList <:+: s.toList := by
  simp only [mentions, any_eq_true, Option.any_eq_true, Text.contains, Chars.contains_iff]

theorem allowed_iff : allowed types entry = true ↔
    ∀ given, types = some given → given ≠ [] → ∃ type ∈ given, textAt entry "type" = some type := by
  cases types with
  | none => simp [allowed]
  | some given =>
    cases given with
    | nil => simp [allowed]
    | cons t ts =>
      simp only [allowed, Option.any_eq_true, contains_iff_mem]
      constructor
      · rintro ⟨s, hs, hmem⟩ given hgiven -
        cases hgiven
        exact ⟨s, hmem, hs⟩
      · intro h
        obtain ⟨s, hmem, hs⟩ := h _ rfl (cons_ne_nil t ts)
        exact ⟨s, hs, hmem⟩

/-- The replies that wait hold, for one request after another, the catalogue of the link that is asked for. -/
def Serves (content : String → List Data) : List String → List (Except String Reply) → Prop
  | [], _ => True
  | link :: links, .ok reply :: replies =>
    read reply.body.toText = .ok (.list (content link)) ∧ Serves content links replies
  | _ :: _, _ => False

theorem serves_cons {link : String} {replies : List (Except String Reply)} (h : Serves content (link :: later) replies) :
    ∃ reply rest, replies = .ok reply :: rest ∧
      read reply.body.toText = .ok (.list (content link)) ∧ Serves content later rest := by
  rcases replies with _ | ⟨_ | reply, rest⟩
  · exact absurd h id
  · exact absurd h id
  · exact ⟨reply, rest, rfl, h⟩

theorem runIn_fetchJson {link : String} (h : Serves content (link :: later) w.replies) :
    ∃ v, (fetchJson link).runIn w = (.ok (.list (content link)), v) ∧ Serves content later v.replies := by
  obtain ⟨reply, rest, hreplies, hread, hserves⟩ := serves_cons h
  rcases runIn_fetch link w with ⟨page, rest', hpage, hfetch⟩ | ⟨hnone, -⟩
  · cases hreplies.symm.trans hpage
    refine ⟨w.after [link], ?_, by simpa [World.after, hreplies] using hserves⟩
    rw [fetchJson, runIn_bind_of_ok hfetch, Session.readReply, hread, runIn_pure]
  · exact absurd hreplies (hnone reply rest)

theorem truthy_of_textAt (h : textAt entry key = some s) : entry.truthy = true := by
  obtain ⟨fields, rfl, hlookup⟩ := record_of_textAt h
  cases fields with
  | nil => cases hlookup
  | cons f r => rfl

def lookAt (keys : List String) (keyword : String) (entry : Data) (found : List Data) : Session (ForInStep (List Data)) := do
  let keys ← ((strs keys : Data).elements : Except Fault (List Data))
  if (← (anyField (fun field => field.holds (.str keyword)) entry keys : Except Fault Bool)) && entry.truthy then
    pure (.yield (found ++ [entry]))
  else pure (.yield found)

theorem lookAt_eq (h : Readable keys types entry) (found : List Data) :
    lookAt keys keyword entry found = pure (.yield (found ++ [entry].filter (mentions keys keyword))) := by
  obtain ⟨id, hid⟩ := h.id
  have hlift {α : Type} (x : α) : (liftM (Except.ok x : Except Fault α) : Session α) = pure x := rfl
  have hkeys : (strs keys : Data).elements = .ok (keys.map .str) := rfl
  rw [lookAt, hkeys, hlift, pure_bind, anyField_eq h.keys, hlift, pure_bind, truthy_of_textAt hid, Bool.and_true]
  by_cases hhit : mentions keys keyword entry = true
  · rw [if_pos hhit, filter_cons_of_pos hhit, filter_nil]
  · rw [if_neg hhit, filter_cons_of_neg hhit, filter_nil, append_nil]

theorem forIn_lookAt (hentries : ∀ entry ∈ entries, Readable keys types entry) (found : List Data) :
    (forIn entries found (lookAt keys keyword) : Session (List Data)) =
      pure (found ++ entries.filter (mentions keys keyword)) := by
  induction entries generalizing found with
  | nil => simp
  | cons entry rest ih =>
    rw [forIn_cons, lookAt_eq (hentries entry mem_cons_self), pure_bind]
    dsimp only
    rw [ih fun e he => hentries e (mem_cons_of_mem entry he), append_assoc, ← filter_append, singleton_append]

def lookInto (keys : List String) (keyword : String) (link : String) (found : List Data) : Session (ForInStep (List Data)) := do
  let entries ← ((← fetchJson link).elements : Except Fault (List Data))
  let found ← forIn entries found (lookAt keys keyword)
  pure (.yield found)

theorem runIn_lookInto {link : String} (hentries : ∀ entry ∈ content link, Readable keys types entry)
    (hserves : Serves content (link :: later) w.replies) (found : List Data) :
    ∃ v, (lookInto keys keyword link found).runIn w =
      (.ok (.yield (found ++ (content link).filter (mentions keys keyword))), v) ∧ Serves content later v.replies := by
  obtain ⟨v, hfetch, hv⟩ := runIn_fetchJson hserves
  refine ⟨v, ?_, hv⟩
  have helements : (list (content link)).elements = .ok (content link) := rfl
  rw [lookInto, runIn_bind_of_ok hfetch, helements, runIn_liftM_ok, forIn_lookAt hentries, pure_bind,
    runIn_pure]

def matching (content : String → List Data) (links keys : List String) (types : Option (List String)) (keyword : String) :
    List Data := ((links.flatMap content).filter (mentions keys keyword)).filter (allowed types)

/-- The query of a search whose keywords are no patterns. -/
def plainQuery (source : String) (types : Option (List String)) (keys : List String) : Query :=
  ⟨false, .str source, givenTypes types, strs keys⟩

theorem find_eq (source : String) (types : Option (List String)) (keys : List String) (keyword : String) :
    (plainQuery source types keys).find (.str keyword) = (do
      let links ← (catalogues (.str source) : Except Fault (List String))
      let found ← forIn links [] (lookInto keys keyword)
      if (givenTypes types).truthy then
        found.filterM fun entry => do ((givenTypes types).holds (← entry.item "type") : Except Fault Bool)
      else pure found) := rfl

theorem runIn_find (hlinks : catalogues (.str source) = .ok links)
    (hentries : ∀ entry ∈ links.flatMap content, Readable keys types entry)
    (hserves : Serves content (links ++ later) w.replies) :
    ∃ v, ((plainQuery source types keys).find (.str keyword)).runIn w =
      (.ok (matching content links keys types keyword), v) ∧ Serves content later v.replies := by
  -- every link of the source takes one reply
  obtain ⟨v, hrun, hv⟩ := runIn_forIn (fun rest (v : World) => Serves content (rest ++ later) v.replies) _
    (fun link hlink _ found _ hserves =>
      runIn_lookInto (forall_mem_flatMap.mp hentries link hlink) hserves found) hserves []
  have hfound : links.foldl (fun found link => found ++ (content link).filter (mentions keys keyword)) [] =
      (links.flatMap content).filter (mentions keys keyword) := by
    rw [foldl_append_eq_append, nil_append, ← flatMap_def, filter_flatMap]
  refine ⟨v, ?_, hv⟩
  rw [find_eq, hlinks, runIn_liftM_ok, runIn_bind_of_ok hrun, hfound,
    filterM_types fun entry hentry => hentries entry (mem_of_mem_filter hentry), runIn_pure, matching]

theorem inEvery_spec {lists : List (List String)} (hne : lists ≠ []) :
    ∃ common, inEvery lists = .ok common ∧ (∀ s, s ∈ common ↔ ∀ texts ∈ lists, s ∈ texts) ∧ common.Pairwise (· < ·) := by
  obtain ⟨first, others, rfl⟩ := exists_cons_of_ne_nil hne
  refine ⟨_, rfl, ?_, ?_⟩
  · intro s
    simp only [mem_mergeSort, mem_filter, mem_eraseDups, all_eq_true, contains_iff_mem,
      forall_mem_cons]
  · have hnodup : first.eraseDups.Nodup := (pairwise_eraseDups (pairwise_of_forall fun _ _ => trivial)).imp And.right
    exact (sortedLE_mergeSort.pairwise.and (nodup_mergeSort.mpr (hnodup.filter _))).imp fun h => lt_of_le_of_ne h.1 h.2

def jsonText (entry : Data) : String := match line entry with
  | .ok s => s
  | .error _ => ""

def readBack (s : String) : Data := match read s with
  | .ok entry => entry
  | .error _ => .null

theorem line_jsonText (h : Plain entry) : line entry = .ok (jsonText entry) := by
  obtain ⟨t, hline, -⟩ := Json.read_line h
  rw [jsonText, hline]

theorem read_jsonText (h : Plain entry) : read (jsonText entry) = .ok entry := by
  obtain ⟨t, hline, hread⟩ := Json.read_line h
  rw [jsonText, hline, hread]

theorem readBack_jsonText (h : Plain entry) : readBack (jsonText entry) = entry := by
  rw [readBack, read_jsonText h]

theorem plain_of_serves {replies : List (Except String Reply)} (h : Serves content later replies) :
    ∀ link ∈ later, ∀ entry ∈ content link, Plain entry := by
  induction later generalizing replies with
  | nil => exact fun _ hlink => absurd hlink not_mem_nil
  | cons first later ih =>
    obtain ⟨reply, rest, -, hread, hserves⟩ := serves_cons h
    refine forall_mem_cons.mpr ⟨?_, ih hserves⟩
    cases Json.plain_of_read hread with
    | list hitems => exact hitems

theorem serves_plain (h : ∀ link, ∀ entry ∈ content link, Plain entry) (links : List String) :
    Serves content links (links.map fun link => .ok { body := .text (jsonText (.list (content link))) }) := by
  induction links with
  | nil => trivial
  | cons link links ih => exact ⟨read_jsonText (.list (h link)), ih⟩

section Search

/-- The requests that a search makes: every catalogue of the source once for each keyword. -/
def requests (links keywords : List String) : List String := keywords.flatMap fun _ => links

def TextBefore (a b : Data) : Prop := ∃ s t, line a = .ok s ∧ line b = .ok t ∧ s < t

/-- What the search does with one keyword: the texts of what it finds are kept. -/
def collect (q : Query) (keyword : Data) (texts : List (List String)) : Session (ForInStep (List (List String))) := do
  let found ← q.find keyword
  let ts ← found.mapM fun entry => (line entry : Except Fault String)
  pure (.yield (texts ++ [ts]))

def restore (s : String) : Session Data := match read s with
  | .ok entry => (complete entry : Except Fault Data)
  | .error m => throw (.badJson m)

theorem search_eq (q : Query) (keywords : List String) : q.search (strs keywords) = (do
    let texts ← forIn (keywords.map str : List Data) [] (collect q)
    let common ← (inEvery texts : Except Fault (List String))
    common.mapM restore) := rfl

variable (hlinks : catalogues (.str source) = .ok links) (hentries : ∀ entry ∈ links.flatMap content, Readable keys types entry)
  (hplain : ∀ entry ∈ links.flatMap content, Plain entry)

theorem mem_matching : entry ∈ matching content links keys types keyword ↔
    entry ∈ links.flatMap content ∧ mentions keys keyword entry = true ∧ allowed types entry = true := by
  rw [matching, mem_filter, mem_filter, and_assoc]

include hlinks hentries hplain

theorem runIn_collect {more : List String} (hserves : Serves content (links ++ more) w.replies)
    (texts : List (List String)) :
    ∃ v, (collect (plainQuery source types keys) (.str keyword) texts).runIn w =
      (.ok (.yield (texts ++ [(matching content links keys types keyword).map jsonText])), v) ∧
        Serves content more v.replies := by
  obtain ⟨v, hfind, hv⟩ := runIn_find hlinks hentries hserves
  have hlines : ((matching content links keys types keyword).mapM fun entry => (line entry : Except Fault String) : Session _) =
      pure ((matching content links keys types keyword).map jsonText) := by
    apply mapM_eq_pure
    intro entry hentry
    rw [line_jsonText (hplain entry (mem_matching.mp hentry).1)]
    rfl
  refine ⟨v, ?_, hv⟩
  rw [collect, runIn_bind_of_ok hfind, hlines, pure_bind, runIn_pure]

theorem runIn_collectAll (hserves : Serves content (requests links keywords) w.replies) :
    ∃ v, (forIn (keywords.map str : List Data) [] (collect (plainQuery source types keys)) :
      Session (List (List String))).runIn w =
      (.ok (keywords.map fun keyword => (matching content links keys types keyword).map jsonText), v) := by
  rw [forIn_map]
  obtain ⟨v, hrun, -⟩ := runIn_forIn (fun left (v : World) => Serves content (requests links left) v.replies) _
    (fun _ _ _ texts _ hserves => runIn_collect hlinks hentries hplain hserves texts) hserves []
  refine ⟨v, ?_⟩
  rw [hrun, foldl_append_eq_append, nil_append, ← flatMap_def, ← map_eq_flatMap]

omit hlinks hentries in
theorem found_by_every (hne : keywords ≠ []) (s : String) :
    (∀ keyword ∈ keywords, s ∈ (matching content links keys types keyword).map jsonText) ↔
      ∃ entry ∈ links.flatMap content, jsonText entry = s ∧ Selected keys types keywords entry := by
  constructor
  · intro h
    obtain ⟨first, rest, hkeywords⟩ := exists_cons_of_ne_nil hne
    obtain ⟨entry, hmatch, htext⟩ := mem_map.mp (h first (by rw [hkeywords]; exact mem_cons_self))
    obtain ⟨hmem, -, htype⟩ := mem_matching.mp hmatch
    refine ⟨entry, hmem, htext, ⟨fun keyword hkeyword => ?_, allowed_iff.mp htype⟩⟩
    obtain ⟨other, hother, hsame⟩ := mem_map.mp (h keyword hkeyword)
    obtain ⟨hmem', hmentions, -⟩ := mem_matching.mp hother
    -- two entries with the same text are the same
    have heq : other = entry := by
      rw [← readBack_jsonText (hplain other hmem'), hsame, ← htext, readBack_jsonText (hplain entry hmem)]
    rw [heq] at hmentions
    exact mentions_iff.mp hmentions
  · rintro ⟨entry, hmem, rfl, hselected⟩ keyword hkeyword
    apply mem_map_of_mem
    exact mem_matching.mpr ⟨hmem, mentions_iff.mpr (hselected.keywords keyword hkeyword), allowed_iff.mpr hselected.type⟩

theorem runIn_search (hne : keywords ≠ []) (hserves : Serves content (requests links keywords) w.replies) :
    ∃ (found : List Data) (v : World),
      ((plainQuery source types keys).search (strs keywords)).runIn w =
        ((found.map jsonText).mapM restore).runIn v ∧
      (∀ entry, entry ∈ found ↔ entry ∈ links.flatMap content ∧ Selected keys types keywords entry) ∧
      found.Pairwise TextBefore := by
  obtain ⟨u, hcollect⟩ := runIn_collectAll hlinks hentries hplain hserves
  have hlists : (keywords.map fun keyword => (matching content links keys types keyword).map jsonText) ≠ [] := by simpa using hne
  obtain ⟨common, hcommon, hmem, hsorted⟩ := inEvery_spec hlists
  -- the texts that are left, as those of entries
  have hentry : ∀ s ∈ common, ∃ entry ∈ links.flatMap content, s = jsonText entry ∧ readBack s = entry ∧
      Selected keys types keywords entry := by
    intro s hs
    obtain ⟨entry, hmem, rfl, hselected⟩ := (found_by_every hplain hne s).mp (forall_mem_map.mp ((hmem s).mp hs))
    exact ⟨entry, hmem, rfl, readBack_jsonText (hplain entry hmem), hselected⟩
  refine ⟨common.map readBack, u, ?_, ?_, ?_⟩
  · have hback : (common.map readBack).map jsonText = common := by
      rw [map_map]
      refine (map_congr_left fun s hs => ?_).trans (map_id common)
      obtain ⟨entry, -, rfl, hback, -⟩ := hentry s hs
      exact congrArg jsonText hback
    rw [search_eq, runIn_bind_of_ok hcollect, hcommon, runIn_liftM_ok, hback]
  · intro entry
    rw [mem_map]
    constructor
    · rintro ⟨s, hs, rfl⟩
      obtain ⟨entry, hmem, -, hback, hselected⟩ := hentry s hs
      rw [hback]
      exact ⟨hmem, hselected⟩
    · rintro ⟨hlisted, hselected⟩
      have hevery := (found_by_every hplain hne _).mpr ⟨entry, hlisted, rfl, hselected⟩
      exact ⟨jsonText entry, (hmem _).mpr (forall_mem_map.mpr hevery), readBack_jsonText (hplain entry hlisted)⟩
  · rw [pairwise_map]
    refine hsorted.imp_of_mem ?_
    intro s t hs ht hlt
    obtain ⟨a, ha, rfl, hs, -⟩ := hentry s hs
    obtain ⟨b, hb, rfl, ht, -⟩ := hentry t ht
    rw [hs, ht]
    exact ⟨_, _, line_jsonText (hplain a ha), line_jsonText (hplain b hb), hlt⟩

end Search

theorem TextBefore.asymm {a b : Data} (hab : TextBefore a b) : ¬ TextBefore b a := by
  obtain ⟨s, t, hs, ht, hlt⟩ := hab
  rintro ⟨t', s', ht', hs', hlt'⟩
  rw [hs] at hs'
  rw [ht] at ht'
  cases hs'
  cases ht'
  exact lt_asymm hlt hlt'

instance : Std.Antisymm TextBefore := ⟨fun _ _ hab hba => absurd hba hab.asymm⟩

theorem nodup_of_ordered {found : List Data} (h : found.Pairwise TextBefore) : found.Nodup := by
  refine h.imp ?_
  rintro a b hab rfl
  exact hab.asymm hab

theorem ordered_ext {found others : List Data} (h : found.Pairwise TextBefore) (hothers : others.Pairwise TextBefore)
    (hmem : ∀ entry, entry ∈ others ↔ entry ∈ found) : others = found := by
  have hperm : others.Perm found := (perm_ext_iff_of_nodup (nodup_of_ordered hothers) (nodup_of_ordered h)).mpr hmem
  exact hperm.eq_of_pairwise (fun a b _ _ hab hba => absurd hba hab.asymm) hothers h

theorem ordered_sublist {found fewer : List Data} (h : found.Pairwise TextBefore) (hfewer : fewer.Pairwise TextBefore)
    (hsub : fewer ⊆ found) : fewer.Sublist found :=
  sublist_of_subperm_of_pairwise (subperm_of_subset (nodup_of_ordered hfewer) hsub) hfewer h

def keywordSearch (source : String) (types : Option (List String)) (keys keywords : List String) : Session Data :=
  searchCataloguesCommand.call [strs keywords, .bool false, .str source, givenTypes types, strs keys] []

theorem keywordSearch_eq (source : String) (types : Option (List String)) (keys keywords : List String) :
    keywordSearch source types keys keywords =
      searchCatalogues (plainQuery source types keys) (strs keywords) := by
  rfl

def answered : Except Fault (List Data) → Data
  | .ok found => .list found
  | .error _ => .null

theorem runIn_mapM_ok {texts : List String} {answer : List Data} {v w : World}
    (h : (texts.mapM restore).runIn w = (.ok answer, v)) : ∀ s ∈ texts, ∃ a u u', (restore s).runIn u = (.ok a, u') := by
  induction texts generalizing answer v w with
  | nil => exact fun _ hs => absurd hs not_mem_nil
  | cons t rest ih =>
    rw [mapM_cons] at h
    obtain ⟨a, u, hfirst, h⟩ := runIn_bind_ok.mp h
    obtain ⟨more, u', hrest, -⟩ := runIn_bind_ok.mp h
    intro s hs
    rcases mem_cons.mp hs with rfl | hs
    · exact ⟨a, w, u, hfirst⟩
    · exact ih hrest s hs

section Found

variable (hlinks : catalogues (.str source) = .ok links) (hne : keywords ≠ [])
  (hserves : Serves content (requests links keywords) w.replies)

include hlinks hne hserves

theorem runIn_found (hentries : ∀ entry ∈ links.flatMap content, Readable keys types entry) :
    ∃ found : List Data,
      ((∀ entry ∈ found, ∀ id, textAt entry "id" = some id → ¬ "ee.".toList <:+: id.toList) →
        ((keywordSearch source types keys keywords).runIn w).1 = .ok (.list (found.map completed))) ∧
      (∀ answer, ((keywordSearch source types keys keywords).runIn w).1 = .ok (.list answer) →
        ∀ entry ∈ found, ∃ a, complete entry = .ok a) ∧
      (∀ entry, entry ∈ found ↔ entry ∈ links.flatMap content ∧ Selected keys types keywords entry) ∧
      found.Pairwise TextBefore := by
  have hplain : ∀ entry ∈ links.flatMap content, Plain entry := by
    obtain ⟨first, rest, hkeywords⟩ := exists_cons_of_ne_nil hne
    refine forall_mem_flatMap.mpr fun link hlink => plain_of_serves hserves link ?_
    rw [requests, hkeywords, flatMap_cons]
    exact mem_append_left _ hlink
  obtain ⟨found, v, hrun, hmem, hordered⟩ := runIn_search hlinks hentries hplain hne hserves
  have hlisted : ∀ entry ∈ found, entry ∈ links.flatMap content := fun entry hentry => ((hmem entry).mp hentry).1
  have hrestore : ∀ entry ∈ found, restore (jsonText entry) = liftM (complete entry) := by
    intro entry hentry
    rw [restore, read_jsonText (hplain entry (hlisted entry hentry))]
  have hanswer : ((keywordSearch source types keys keywords).runIn w).1 =
      .ok (answered (((found.map jsonText).mapM restore).runIn v).1) := by
    rw [keywordSearch_eq, searchCatalogues]
    rw [Session.runIn_tryCatch, runIn_bind, hrun]
    rcases ((found.map jsonText).mapM restore).runIn v with ⟨_ | _, _⟩ <;> rfl
  refine ⟨found, ?_, ?_, hmem, hordered⟩
  · intro hids
    have hcompleted : (found.map jsonText).mapM restore = (pure (found.map completed) : Session (List Data)) := by
      rw [mapM_map]
      apply mapM_eq_pure
      intro entry hentry
      obtain ⟨id, hid⟩ := (hentries entry (hlisted entry hentry)).id
      rw [Function.comp, hrestore entry hentry,
        complete_eq (hentries entry (hlisted entry hentry)) hid (hids entry hentry id hid)]
      rfl
    rw [hanswer, hcompleted, runIn_pure]
    rfl
  · intro answer hlist entry hentry
    rw [hanswer] at hlist
    rcases hall : ((found.map jsonText).mapM restore).runIn v with ⟨_ | _, _⟩
    · rw [hall] at hlist
      cases hlist
    · obtain ⟨a, u, u', hone⟩ := runIn_mapM_ok hall _ (mem_map_of_mem hentry)
      rw [hrestore entry hentry, runIn_liftM] at hone
      exact ⟨a, congrArg Prod.fst hone⟩

theorem runIn_keywords (hentries : ∀ link ∈ links, ∀ entry ∈ content link, Searchable keys entry) :
    ∃ found : List Data, ((keywordSearch source types keys keywords).runIn w).1 = .ok (.list (found.map completed)) ∧
      (∀ entry, entry ∈ found ↔ (∃ link ∈ links, entry ∈ content link) ∧ Selected keys types keywords entry) ∧
      found.Pairwise TextBefore := by
  rw [← forall_mem_flatMap] at hentries
  obtain ⟨found, hrun, -, hmem, hordered⟩ :=
    runIn_found hlinks hne hserves fun entry hentry => (hentries entry hentry).readable
  refine ⟨found, hrun ?_, fun entry => by rw [hmem, mem_flatMap], hordered⟩
  intro entry hentry id hid
  obtain ⟨id', hid', hplain⟩ := (hentries entry ((hmem entry).mp hentry).1).id
  cases hid.symm.trans hid'
  exact hplain

end Found

/-- **A search selects the entries in which every keyword occurs**, and whose type is allowed: each text once, in the order of
the texts. The same keywords in another order, or repeated, give the same, and further keywords only leave entries out. -/
theorem keyword_search_selects (hlinks : catalogues (.str source) = .ok links)
    (hentries : ∀ link ∈ links, ∀ entry ∈ content link, Searchable keys entry) (types : Option (List String))
    (hne : keywords ≠ []) {w : World} (hserves : Serves content (requests links keywords) w.replies) :
    ∃ found : List Data, ((keywordSearch source types keys keywords).runIn w).1 = .ok (.list (found.map completed)) ∧
      (∀ entry, entry ∈ found ↔ (∃ link ∈ links, entry ∈ content link) ∧ Selected keys types keywords entry) ∧
      found.Pairwise TextBefore ∧
      (∀ (others : List String) (u : World), (∀ keyword, keyword ∈ others ↔ keyword ∈ keywords) →
        Serves content (requests links others) u.replies →
        ((keywordSearch source types keys others).runIn u).1 = .ok (.list (found.map completed))) ∧
      ∀ (more : List String) (u : World), keywords ⊆ more → Serves content (requests links more) u.replies →
        ∃ fewer : List Data, fewer.Sublist found ∧
          ((keywordSearch source types keys more).runIn u).1 = .ok (.list (fewer.map completed)) := by
  obtain ⟨found, hrun, hmem, hordered⟩ := runIn_keywords hlinks hne hserves hentries
  obtain ⟨first, hfirst⟩ := exists_mem_of_ne_nil keywords hne
  refine ⟨found, hrun, hmem, hordered, ?_, ?_⟩
  · intro others u hsame hothers
    obtain ⟨found', hrun', hmem', hordered'⟩ :=
      runIn_keywords hlinks (ne_nil_of_mem ((hsame first).mpr hfirst)) hothers hentries
    have heq : found' = found := by
      apply ordered_ext hordered hordered'
      intro entry
      rw [hmem', hmem, selected_congr hsame]
    rw [hrun', heq]
  · intro more u hsub hmore
    obtain ⟨fewer, hrun', hmem', hordered'⟩ := runIn_keywords hlinks (ne_nil_of_mem (hsub hfirst)) hmore hentries
    refine ⟨fewer, ordered_sublist hordered hordered' ?_, hrun'⟩
    intro entry hentry
    obtain ⟨hlink, hselected⟩ := (hmem' entry).mp hentry
    exact (hmem entry).mpr ⟨hlink, hselected.mono hsub⟩

def rain : Data := .record [("id", "MAP/RAIN"), ("type", "image"), ("title", "pluie d'\u00e9t\u00e9"), ("scale", 0.1)]

def snow : Data := .record [("id", "MAP/SNOW"), ("type", "image"), ("title", "neige"), ("start_date", "2000-01-01")]

def weather (link : String) : List Data := if link = officialCatalogue then [snow, rain] else [rain]

def weatherReply (link : String) : Except String Reply := .ok { body := .text (jsonText (.list (weather link))) }

def weatherWorld : World :=
  { replies := [officialCatalogue, communityCatalogue, officialCatalogue, communityCatalogue].map weatherReply }

theorem plain_rain : Plain rain := .record (by decide) (by simp [Plain.str, show Plain (0.1 : Data) from .real _])

theorem plain_snow : Plain snow := .record (by decide) (by simp [Plain.str])

theorem mem_weather {link : String} (h : entry ∈ weather link) : entry = snow ∨ entry = rain := by
  unfold weather at h
  split at h
  · simpa only [mem_cons, not_mem_nil, or_false] using h
  · exact Or.inr (mem_singleton.mp h)

theorem plain_weather (link : String) (entry : Data) (h : entry ∈ weather link) : Plain entry := by
  rcases mem_weather h with rfl | rfl
  · exact plain_snow
  · exact plain_rain

theorem searchable_weather (link : String) (entry : Data) (h : entry ∈ weather link) : Searchable ["id", "title"] entry := by
  have hboth {P : String → Prop} {a b : String} (ha : P a) (hb : P b) : ∀ key ∈ [a, b], P key :=
    forall_mem_cons.mpr ⟨ha, forall_mem_singleton.mpr hb⟩
  rcases mem_weather h with rfl | rfl
  · exact ⟨⟨"MAP/SNOW", rfl, by decide +kernel⟩, ⟨_, rfl⟩, hboth ⟨_, rfl⟩ ⟨_, rfl⟩, hboth ⟨_, rfl⟩ ⟨_, rfl⟩⟩
  · exact ⟨⟨"MAP/RAIN", rfl, by decide +kernel⟩, ⟨_, rfl⟩, hboth ⟨_, rfl⟩ ⟨_, rfl⟩, hboth ⟨_, rfl⟩ ⟨_, rfl⟩⟩

/-- An entry of both catalogues is found once, and the one that lacks a keyword is not found. -/
theorem keyword_search_selects_rain : ∃ found : List Data,
    ((keywordSearch "all" (some ["image"]) ["id", "title"] ["RAIN", "MAP"]).runIn weatherWorld).1 =
      .ok (.list (found.map completed)) ∧
      rain ∈ found ∧ snow ∉ found ∧ found.Pairwise TextBefore := by
  have hlinks : catalogues (.str "all") = .ok [officialCatalogue, communityCatalogue] := rfl
  have hserves : Serves weather (requests [officialCatalogue, communityCatalogue] ["RAIN", "MAP"]) weatherWorld.replies :=
    serves_plain plain_weather _
  obtain ⟨found, hrun, hmem, hordered, -⟩ := keyword_search_selects hlinks (fun link _ => searchable_weather link)
    (some ["image"]) (by decide) hserves
  refine ⟨found, hrun, ?_, ?_, hordered⟩
  · refine (hmem rain).mpr ⟨⟨communityCatalogue, by simp, ?_⟩, ?_, ?_⟩
    · have hother : communityCatalogue ≠ officialCatalogue := by decide +kernel
      rw [weather, if_neg hother]
      exact mem_singleton_self rain
    · intro keyword hkeyword
      have hid : textAt rain "id" = some "MAP/RAIN" := rfl
      simp only [mem_cons, not_mem_nil, or_false] at hkeyword
      rcases hkeyword with rfl | rfl <;> exact ⟨"id", by simp, _, hid, by decide +kernel⟩
    · intro given hgiven _
      cases hgiven
      exact ⟨"image", by simp, rfl⟩
  · intro hsnow
    obtain ⟨key, hkey, s, hs, hpart⟩ := ((hmem snow).mp hsnow).2.keywords "RAIN" (by simp)
    have hid : textAt snow "id" = some "MAP/SNOW" := rfl
    have htitle : textAt snow "title" = some "neige" := rfl
    simp only [mem_cons, not_mem_nil, or_false] at hkey
    rcases hkey with rfl | rfl
    · rw [hid] at hs
      cases hs
      exact absurd hpart (by decide +kernel)
    · rw [htitle] at hs
      cases hs
      exact absurd hpart (by decide +kernel)

theorem textAt_completed (entry : Data) : textAt (completed entry) "id" = textAt entry "id" := by
  unfold completed
  split
  · simp only [textAt, Value.lookup_insert_of_ne (show "uid" ≠ "id" by decide),
      Value.lookup_insert_of_ne (show "dates" ≠ "id" by decide)]
  · rfl

/-- **A search returns all entries that it selects exactly when no mark is in their identifiers.** For identifiers without
quotes, a single one with the mark of an expression makes the whole search return nothing. -/
theorem selected_returned_iff (hlinks : catalogues (.str source) = .ok links) {types : Option (List String)}
    (hentries : ∀ entry ∈ links.flatMap content, Readable keys types entry)
    (hquote : ∀ entry ∈ links.flatMap content, ∀ id, textAt entry "id" = some id → '\'' ∉ id.toList)
    (hne : keywords ≠ []) {w : World} (hserves : Serves content (requests links keywords) w.replies) :
    (∃ answer, ((keywordSearch source types keys keywords).runIn w).1 = .ok (.list answer) ∧
      ∀ entry ∈ links.flatMap content, Selected keys types keywords entry →
        ∃ a ∈ answer, a = completed entry ∧ textAt a "id" = textAt entry "id") ↔
    ∀ entry ∈ links.flatMap content, Selected keys types keywords entry →
      ∀ id, textAt entry "id" = some id → ¬ "ee.".toList <:+: id.toList := by
  obtain ⟨found, hcompleted, hall, hmem, -⟩ := runIn_found hlinks hne hserves hentries
  constructor
  · rintro ⟨answer, hanswer, -⟩ entry hlisted hselected id hid hmark
    obtain ⟨a, ha⟩ := hall answer hanswer entry ((hmem entry).mpr ⟨hlisted, hselected⟩)
    obtain ⟨e, he⟩ := complete_marked (hentries entry hlisted) hid hmark (hquote entry hlisted id hid)
    cases ha.symm.trans he
  · intro hmarks
    refine ⟨found.map completed, hcompleted fun entry hentry => ?_, fun entry hlisted hselected => ?_⟩
    · obtain ⟨hlisted, hselected⟩ := (hmem entry).mp hentry
      exact hmarks entry hlisted hselected
    · exact ⟨completed entry, mem_map_of_mem ((hmem entry).mpr ⟨hlisted, hselected⟩), rfl, textAt_completed entry⟩

def lee : Data := .record [("id", "users/lee.smith/RAIN")]

def survey (_ : String) : List Data := [rain, lee]

def surveyWorld : World := { replies := [.ok { body := .text (jsonText (.list (survey officialCatalogue))) }] }

theorem readable_survey : ∀ entry ∈ [officialCatalogue].flatMap survey, Readable ["id"] none entry ∧
    ∀ id, textAt entry "id" = some id → '\'' ∉ id.toList := by
  intro entry hentry
  simp only [survey, flatMap_cons, flatMap_nil, append_nil, mem_cons, not_mem_nil, or_false] at hentry
  rcases hentry with rfl | rfl
  all_goals
    refine ⟨⟨⟨_, rfl⟩, nofun, ?_, forall_mem_singleton.mpr ⟨_, rfl⟩⟩, ?_⟩
    · exact forall_mem_cons.mpr ⟨⟨_, rfl⟩, forall_mem_singleton.mpr ⟨_, rfl⟩⟩
    · rintro _ ⟨⟩
      decide +kernel

theorem serves_survey (keyword : String) : Serves survey (requests [officialCatalogue] [keyword]) surveyWorld.replies := by
  refine serves_plain (fun _ => forall_mem_cons.mpr ⟨plain_rain, forall_mem_singleton.mpr ?_⟩) _
  exact .record (by decide) (forall_mem_singleton.mpr (.str _))

theorem selected_id {id : String} (hid : textAt entry "id" = some id) :
    Selected ["id"] none [keyword] entry ↔ keyword.toList <:+: id.toList := by
  constructor
  · intro h
    obtain ⟨key, hkey, s, hs, hpart⟩ := h.keywords keyword (mem_singleton_self keyword)
    rw [mem_singleton.mp hkey, hid] at hs
    cases hs
    exact hpart
  · exact fun hpart => ⟨forall_mem_singleton.mpr ⟨"id", mem_singleton_self _, id, hid, hpart⟩, nofun⟩

/-- A keyword that only one entry has: that entry is returned, although the other one has the mark. -/
theorem selected_returned_survey : ∃ answer,
    ((keywordSearch "ee" none ["id"] ["MAP"]).runIn surveyWorld).1 = .ok (.list answer) ∧ completed rain ∈ answer := by
  have hlinks : catalogues (.str "ee") = .ok [officialCatalogue] := rfl
  have hiff := selected_returned_iff hlinks (fun entry h => (readable_survey entry h).1)
    (fun entry h => (readable_survey entry h).2) (cons_ne_nil "MAP" []) (serves_survey "MAP")
  obtain ⟨answer, hanswer, hall⟩ := hiff.mpr (by
    refine forall_mem_cons.mpr ⟨fun _ id hid => ?_, forall_mem_singleton.mpr fun hselected _ _ _ => ?_⟩
    · cases hid
      decide +kernel
    · exact absurd ((selected_id rfl).mp hselected) (by decide +kernel))
  obtain ⟨a, ha, rfl, -⟩ := hall rain mem_cons_self ((selected_id rfl).mpr (by decide +kernel))
  exact ⟨answer, hanswer, ha⟩

/-- A keyword of both: the entry without the mark is selected too, but nothing is returned. -/
theorem mark_hides_rain : Selected ["id"] none ["RAIN"] rain ∧
    ∀ answer, ((keywordSearch "ee" none ["id"] ["RAIN"]).runIn surveyWorld).1 ≠ .ok (.list answer) := by
  refine ⟨(selected_id rfl).mpr (by decide +kernel), fun answer hanswer => ?_⟩
  have hlinks : catalogues (.str "ee") = .ok [officialCatalogue] := rfl
  have hlee : lee ∈ [officialCatalogue].flatMap survey := mem_cons_of_mem _ mem_cons_self
  obtain ⟨hread, hquote⟩ := readable_survey lee hlee
  obtain ⟨found, -, hall, hmem, -⟩ :=
    runIn_found hlinks (cons_ne_nil "RAIN" []) (serves_survey "RAIN") fun entry h => (readable_survey entry h).1
  obtain ⟨a, ha⟩ := hall answer hanswer lee ((hmem lee).mpr ⟨hlee, (selected_id rfl).mpr (by decide +kernel)⟩)
  obtain ⟨e, he⟩ := complete_marked hread rfl (by decide +kernel) (hquote _ rfl)
  cases ha.symm.trans he

end RemoteSensing.Catalog
