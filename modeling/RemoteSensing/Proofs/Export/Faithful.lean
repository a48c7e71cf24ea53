import RemoteSensing.Proofs.Export.Local

/-!
Which files an export leaves alone. The archive is unpacked beside the target and its file renamed, so what matters is
which names the archive and the folder share.
-/

namespace RemoteSensing.Export

open Disk List Session RemoteSensing.Path

open String (toList_append toList_inj)

variable {w v : World} {filename path : String} {entries : List (String × String)}

variable {moves : List (String × String)} {ending out : String}

variable {d : Disk}

/-- What the endings of the parts have in common. -/
structure Ending (e : String) : Prop where
  slashless : '/' ∉ e.toList
  length : e.toList.length = 4
  last : e.toList.getLast? ≠ here.toList.getLast?

theorem ending_of_mem {e : String} (h : e ∈ shapeEndings) : Ending e := by
  have hall : ∀ x ∈ shapeEndings, '/' ∉ x.toList ∧ x.toList.length = 4 ∧ x.toList.getLast? ≠ here.toList.getLast? := by
    decide
  obtain ⟨hslash, hlength, hlast⟩ := hall e h
  exact ⟨hslash, hlength, hlast⟩

variable {e e' m m' : String}

theorem Ending.name (he : Ending e) (hm : '/' ∉ m.toList) : Name (m ++ e) := by
  have hlength : 4 ≤ (m ++ e).toList.length := by
    rw [toList_append, length_append, he.length]
    omega
  refine ⟨?_, ?_, ?_, ?_⟩
  · rw [toList_append, mem_append, not_or]
    exact ⟨hm, he.slashless⟩
  all_goals
    intro heq
    rw [heq] at hlength
    exact absurd hlength (by decide)

theorem Ending.ne_here (he : Ending e) (m : String) : m ++ e ≠ here := by
  intro heq
  have hlast : (m ++ e).toList.getLast? = e.toList.getLast? := by
    rw [toList_append, getLast?_append]
    cases hempty : e.toList.getLast? with
    | none =>
      have hlength := he.length
      rw [getLast?_eq_none_iff.mp hempty] at hlength
      cases hlength
    | some c => rfl
  rw [heq] at hlast
  exact he.last hlast.symm

theorem Ending.append_inj (he : Ending e) (he' : Ending e') (h : m ++ e = m' ++ e') : m = m' ∧ e = e' := by
  have hlist : m.toList ++ e.toList = m'.toList ++ e'.toList := by
    rw [← toList_append, h, toList_append]
  obtain ⟨hm, hends⟩ := append_inj' hlist (he.length.trans he'.length.symm)
  exact ⟨toList_inj.mp hm, toList_inj.mp hends⟩

theorem slots_of_children {old new folder : String} {endings : List String} (hnodup : endings.Nodup)
    (hendings : ∀ e ∈ endings, Ending e) (hm : '/' ∉ m.toList) (hm' : '/' ∉ m'.toList)
    (hold : ∀ e ∈ endings, absolute (old ++ e) = child folder (m ++ e))
    (hnew : ∀ e ∈ endings, absolute (new ++ e) = child folder (m' ++ e)) :
    Slots (shapeMoves old new endings) := by
  constructor
  · intro move hmove
    obtain ⟨e, he, rfl⟩ := mem_map.mp hmove
    simp only [hold e he, hnew e he]
    by_cases hsame : m = m'
    · exact .inl (by rw [hsame])
    · refine .inr (apart_child folder ((hendings e he).name hm).slashless ((hendings e he).name hm').slashless ?_)
      exact fun heq => hsame ((hendings e he).append_inj (hendings e he) heq).1
  · rw [shapeMoves, pairwise_map]
    refine Pairwise.imp_of_mem ?_ hnodup
    intro e e' he he' hne p hp
    have hapart : ∀ x y : String, '/' ∉ x.toList → '/' ∉ y.toList →
        Apart (child folder (x ++ e)) (child folder (y ++ e')) := by
      intro x y hx hy
      refine apart_child folder ((hendings e he).name hx).slashless ((hendings e' he').name hy).slashless ?_
      exact fun heq => hne ((hendings e he).append_inj (hendings e' he') heq).2
    simp only [hold e he, hnew e he, hold e' he', hnew e' he'] at hp ⊢
    rcases hp with hp | hp
    · exact ⟨hapart m m hm hm p hp, hapart m m' hm hm' p hp⟩
    · exact ⟨hapart m' m hm' hm p hp, hapart m' m' hm' hm' p hp⟩

theorem Unpacked.name {ending name : String} (h : Unpacked w filename entries ending d name) :
    '/' ∉ name.toList ∧ ∃ s, name = s ++ ending := by
  have hmem : name ∈ d.namesIn (absolute (around filename)) :=
    (w.listing.perm _).subset (mem_of_find?_eq_some h.first)
  have hends := find?_some h.first
  constructor
  · obtain ⟨p, -, rfl⟩ := mem_map.mp hmem
    exact slash_not_mem_base p
  · obtain ⟨s, hs⟩ := isSuffixOf_iff_suffix.mp hends
    refine ⟨String.ofList s, ?_⟩
    rw [← toList_inj, toList_append, String.toList_ofList, hs]

def Dotted (s : String) : Prop := s.toList.all (· == '.') = true

theorem not_dotted_shp (s : String) : ¬ Dotted (s ++ ".shp") := by
  intro h
  have hletter := all_eq_true.mp h 's' (by simp)
  exact absurd hletter (by decide)

theorem splitExtension_shp {q s : String} (hq : q = "" ∨ ∃ head, q = head ++ "/") (hs : '/' ∉ s.toList) :
    (Dotted s ∧ (splitExtension (q ++ (s ++ ".shp"))).1 = q ++ (s ++ ".shp")) ∨
      (¬ Dotted s ∧ (splitExtension (q ++ (s ++ ".shp"))).1 = q ++ s) := by
  have hname : s ++ "." ++ "shp" = s ++ ".shp" := by rw [String.append_assoc]; rfl
  have hslash : '/' ∉ (s ++ "." ++ "shp").toList := by
    rw [hname]
    exact ((ending_of_mem (by decide)).name hs).slashless
  have hsplit := splitExtension_fst (by decide) hq hslash
  rw [hname] at hsplit
  rw [hsplit]
  by_cases hdotted : Dotted s
  · exact .inl ⟨hdotted, if_pos hdotted⟩
  · exact .inr ⟨hdotted, if_neg hdotted⟩

theorem around_ne (filename : String) : around filename ≠ "" := by
  unfold around
  split
  · decide
  · rename_i hfolder
    simpa using hfolder

theorem absolute_old {name : String} (h : Unpacked w filename entries ".shp" d name) :
    ∃ m, '/' ∉ m.toList ∧ ¬ Dotted m ∧ ∀ e, Ending e →
      absolute ((splitExtension (join (around filename) name)).1 ++ e) =
        child (absolute (around filename)) (m ++ e) := by
  obtain ⟨hslash, s, rfl⟩ := h.name
  have hs : '/' ∉ s.toList := by
    rw [toList_append, mem_append, not_or] at hslash
    exact hslash.1
  have hshp : Ending ".shp" := ending_of_mem (by decide)
  obtain ⟨q, hq, hjoin⟩ := join_relative (around filename)
  have hchild : ∀ m, '/' ∉ m.toList → ∀ e, Ending e →
      absolute (q ++ m ++ e) = child (absolute (around filename)) (m ++ e) := by
    intro m hm e he
    have hrelative := isAbsolute_name (he.name hm) (he.ne_here m)
    rw [String.append_assoc, ← hjoin _ hrelative, absolute_join (he.name hm) (he.ne_here m) (around_ne filename)]
  rw [hjoin _ (isAbsolute_name (hshp.name hs) (hshp.ne_here s))]
  rcases splitExtension_shp hq hs with ⟨-, hold⟩ | ⟨hdotted, hold⟩
  · -- the ending was not cut off, so it is in the stem and brings letters with it
    rw [hold]
    exact ⟨s ++ ".shp", hslash, not_dotted_shp s, hchild _ hslash⟩
  · rw [hold]
    exact ⟨s, hs, hdotted, hchild s hs⟩

theorem absolute_result (filename : String) (he : Ending e) : absolute (filename ++ e) =
    child (absolute (around filename)) (base filename ++ e) :=
  absolute_file (he.name (slash_not_mem_base filename)) (he.ne_here filename)

theorem absolute_new (filename : String) : ∃ b, '/' ∉ b.toList ∧
      (b = base filename ∨ Dotted (base filename) ∧ b = base filename ++ ".shp") ∧ ∀ e, Ending e →
        absolute ((splitExtension (filename ++ ".shp")).1 ++ e) =
          child (absolute (around filename)) (b ++ e) := by
  have hshp : Ending ".shp" := ending_of_mem (by decide)
  have hbase := slash_not_mem_base filename
  obtain ⟨q, hq, hp⟩ := eq_behind filename
  have hsplit := splitExtension_shp hq hbase
  rw [← String.append_assoc, ← hp] at hsplit
  rcases hsplit with ⟨hdotted, hnew⟩ | ⟨-, hnew⟩
  · rw [hnew]
    have hlonger : '/' ∉ (base filename ++ ".shp").toList := (hshp.name hbase).slashless
    refine ⟨_, hlonger, .inr ⟨hdotted, rfl⟩, fun e he => ?_⟩
    have hname := he.name hlonger
    have hhere := he.ne_here (filename ++ ".shp")
    rw [String.append_assoc] at hname hhere ⊢
    rw [String.append_assoc]
    exact absolute_file hname hhere
  · rw [hnew]
    exact ⟨_, hbase, .inl rfl, fun e he => absolute_result filename he⟩

def imageMoves (filename name : String) : List (String × String) :=
  [(absolute (join (around filename) name), absolute (filename ++ ".tif"))]

section Moved

variable {name : String}

theorem movedAll_image (h : Unpacked w filename entries ".tif" d name)
    (hrename : d.rename (absolute (join (around filename) name)) (absolute (filename ++ ".tif")) =
      .ok v.disk) :
    MovedAll d v.disk (imageMoves filename name) := by
  have htif : Ending ".tif" := ⟨by decide, by decide, by decide⟩
  obtain ⟨hslash, s, rfl⟩ := h.name
  have hs : '/' ∉ s.toList := by
    rw [toList_append, mem_append, not_or] at hslash
    exact hslash.1
  have hbase := slash_not_mem_base filename
  have hold := absolute_join (htif.name hs) (htif.ne_here s) (around_ne filename)
  have hnew := absolute_result filename htif
  refine movedAll_single ?_ (by rw [if_pos (exists_of_rename hrename)]; exact hrename)
  simp only [hold, hnew]
  by_cases hsame : s = base filename
  · exact .inl (by rw [hsame])
  · exact .inr (apart_child _ (htif.name hs).slashless (htif.name hbase).slashless
      fun heq => hsame (htif.append_inj htif heq).1)

theorem movedAll_table (h : Unpacked w filename entries ".shp" d name)
    (hmoves : moveAll (tableMoves filename name) d = .ok v.disk) :
    MovedAll d v.disk (tableMoves filename name) ∧
      ((∃ m ∈ tableMoves filename name, m.2 = absolute (filename ++ ".shp")) ∨
        ∀ m ∈ tableMoves filename name, ¬ Under m.1 (absolute (filename ++ ".shp")) ∧
          ¬ Under m.2 (absolute (filename ++ ".shp"))) := by
  have hendings : ∀ e ∈ shapeEndings, Ending e := fun e => ending_of_mem
  have hpart : ".shp" ∈ shapeEndings := by decide
  have hshp := hendings ".shp" hpart
  have hbase := slash_not_mem_base filename
  obtain ⟨m, hm, hpoints, hold⟩ := absolute_old h
  obtain ⟨b, hb, hstem, hnew⟩ := absolute_new filename
  refine ⟨movedAll_of_moveAll hmoves (slots_of_children (by decide) hendings hm hb
    (fun e he => hold e (hendings e he)) fun e he => hnew e (hendings e he)), ?_⟩
  rw [absolute_result filename hshp]
  rcases hstem with rfl | ⟨hdotted, rfl⟩
  · exact .inl ⟨_, mem_shapeMoves hpart, by rw [← hnew ".shp" hshp]⟩
  · -- the stem that is renamed has letters and the new stem has the ending twice: neither gives the result's name
    refine .inr fun move hmove => ?_
    obtain ⟨e, hmem, rfl⟩ := mem_map.mp hmove
    have he := hendings e hmem
    have hout : '/' ∉ (base filename ++ ".shp").toList := (hshp.name hbase).slashless
    simp only [hold e he, hnew e he]
    constructor
    · intro hunder
      refine apart_child _ (he.name hm).slashless hout (fun heq => ?_) _ hunder (.inl rfl)
      exact hpoints ((he.append_inj hshp heq).1 ▸ hdotted)
    · intro hunder
      refine apart_child _ (he.name hb).slashless hout (fun heq => ?_) _ hunder (.inl rfl)
      have hlength := congrArg String.length (he.append_inj hshp heq).1
      simp at hlength

end Moved

def source (moves : List (String × String)) (d : Disk) (p : String) : String :=
  match moves.find? fun m => m.2 == p && d.exists? m.1 with
  | some m => m.1
  | none => p

theorem lookup_source {d' : Disk} (h : MovedAll d d' moves)
    (hout : (∃ m ∈ moves, m.2 = out) ∨ ∀ m ∈ moves, ¬ Under m.1 out ∧ ¬ Under m.2 out) :
    Value.lookup out d'.files = Value.lookup (source moves d out) d.files := by
  unfold source
  cases hfind : moves.find? fun m => m.2 == out && d.exists? m.1 with
  | some m =>
    have hm := find?_some hfind
    simp only [Bool.and_eq_true, beq_iff_eq] at hm
    have hdelivered := h.delivered m (mem_of_find?_eq_some hfind)
    rwa [if_pos hm.2, hm.1] at hdelivered
  | none =>
    -- a renaming to the result that is not made leaves what was there before the export
    rcases hout with ⟨m, hm, rfl⟩ | helsewhere
    · have hex : ¬ d.exists? m.1 = true := by
        simpa using find?_eq_none.mp hfind m hm
      have hdelivered := h.delivered m hm
      rwa [if_neg hex] at hdelivered
    · exact (h.elsewhere out helsewhere).1

/-- The names that an export uses: that of the archive, those of its results and those of the archive's members. -/
def ownNames (filename path : String) (entries moves : List (String × String)) : List String :=
  archivePath filename :: absolute path :: (moves.map (·.2) ++ members filename entries)

/-- The result has the content, and every file that the caller had under another name is still there. -/
structure Faithful (w v : World) (own : List String) (out content : String) : Prop where
  delivered : Value.lookup out v.disk.files = some (.text content)
  kept : ∀ p b, Value.lookup p w.disk.files = some b → p ∉ own → Value.lookup p v.disk.files = some b

/-- What is renamed to the result has the content, and no renaming carries a file of the caller away. -/
structure Intact (w : World) (d : Disk) (moves : List (String × String)) (own : List String) (out content : String) :
    Prop where
  content : Value.lookup (source moves d out) d.files = some (.text content)
  spared : ∀ m ∈ moves, m.1 ≠ m.2 → d.exists? m.1 = true →
    ∀ p b, Value.lookup p w.disk.files = some b → d.Carries m.1 p → p ∈ own

theorem Unpacked.lookup {name p : String} (h : Unpacked w filename entries ending d name)
    (harchive : p ≠ archivePath filename) (hmember : p ∉ members filename entries) :
    Value.lookup p d.files = Value.lookup p w.disk.files := by
  obtain ⟨e, he, rfl⟩ := h.unpacked
  have hentry : ∀ entry ∈ entries, p ≠ absolute (Session.entryPath (around filename) entry.1) :=
    fun entry hentry heq => hmember (heq ▸ mem_map_of_mem hentry)
  rw [lookup_remove_of_ne harchive, Session.lookup_unpackAll he hentry, lookup_write_of_ne harchive.symm]

/-- **When an export is faithful** can be told from the disk as the archive was unpacked to it. -/
theorem faithful_iff {name : String} (h : Unpacked w filename entries ending d name) (hmoved : MovedAll d v.disk moves)
    (hout : (∃ m ∈ moves, m.2 = absolute path) ∨
      ∀ m ∈ moves, ¬ Under m.1 (absolute path) ∧ ¬ Under m.2 (absolute path)) (content : String) :
    Faithful w v (ownNames filename path entries moves) (absolute path) content ↔
      Intact w d moves (ownNames filename path entries moves) (absolute path) content := by
  have hforeign : ∀ p, p ∉ ownNames filename path entries moves →
      p ≠ archivePath filename ∧ (∀ m ∈ moves, p ≠ m.2) ∧ p ∉ members filename entries := by
    intro p hp
    simp only [ownNames, mem_cons, mem_append, not_or] at hp
    obtain ⟨harchive, -, hnew, hmember⟩ := hp
    exact ⟨harchive, fun m hm heq => hnew (heq ▸ mem_map_of_mem hm), hmember⟩
  constructor
  · rintro ⟨hdelivered, hkept⟩
    refine ⟨by rw [← lookup_source hmoved hout, hdelivered], fun m hm hne hex p b hp hcarried => ?_⟩
    -- a file of the caller that is carried away is nowhere on the disk that is left
    by_contra hown
    have hgone := hmoved.gone m hm hne hex p hcarried
    rw [hkept p b hp hown] at hgone
    cases hgone
  · rintro ⟨hcontent, hspared⟩
    refine ⟨by rw [lookup_source hmoved hout, hcontent], fun p b hp hown => ?_⟩
    obtain ⟨harchive, hnew, hmember⟩ := hforeign p hown
    refine hmoved.kept p b (by rw [h.lookup harchive hmember, hp]) fun m hm => ⟨hnew m hm, fun hex => ?_⟩
    by_cases hsame : m.1 = m.2
    · exact .inl hsame
    · exact .inr fun hcarried => hown (hspared m hm hsame hex p b hp hcarried)

theorem sound_of_own {own : List String} {content : String}
    (hcontent : Value.lookup (source moves d out) d.files = some (.text content))
    (hown : ∀ m ∈ moves, d.exists? m.1 = true → d.hasFile m.1 = true ∧ m.1 ∈ own) : Intact w d moves own out content := by
  refine ⟨hcontent, fun m hm _ hex p b _ hcarried => ?_⟩
  obtain ⟨hfile, hmem⟩ := hown m hm hex
  rcases hcarried with rfl | ⟨hnone, -⟩
  · exact hmem
  · rw [hfile] at hnone
    cases hnone

/-- **When an export leaves other files alone.** An image or a table that is exported as shapes is downloaded as an archive
with one member of the kind, and the export tells a path. Let `d` be the disk once the archive is unpacked and removed,
and `name` the first name with the ending in the folder's listing, whatever its order. The result is the archive's member
and all other files are kept exactly when the file that is renamed to the result has the content of the member, and
nothing that is renamed is, or holds, a file that the caller had under another name than those of the export. -/
theorem exports_faithful_iff {a : Arguments} {reply : Reply} {rest : List (Except String Reply)}
    (hname : a "filename" = .str filename) (hreply : w.replies = .ok reply :: rest)
    (hbody : reply.body = .archive entries) (hpath : path ≠ "") :
    (∀ member content, entries.filter (Text.endsWith ·.1 ".tif") = [(member, content)] →
      (imageToFileCommand.run a).runIn w = (.ok (.str path), v) →
      path = filename ++ ".tif" ∧ ∃ d name, Unpacked w filename entries ".tif" d name ∧
        (Faithful w v (ownNames filename path entries (imageMoves filename name)) (Path.absolute path) content ↔
          Intact w d (imageMoves filename name) (ownNames filename path entries (imageMoves filename name))
            (Path.absolute path) content)) ∧
    (∀ member content, entries.filter (Text.endsWith ·.1 ".shp") = [(member, content)] →
      ∀ format, a "file_format" = .str format → Text.upper format = "SHP" →
      (tableToFileCommand.run a).runIn w = (.ok (.str path), v) →
      path = filename ++ ".shp" ∧ ∃ d name, Unpacked w filename entries ".shp" d name ∧
        (Faithful w v (ownNames filename path entries (tableMoves filename name)) (Path.absolute path) content ↔
          Intact w d (tableMoves filename name) (ownNames filename path entries (tableMoves filename name))
            (Path.absolute path) content)) := by
  constructor
  · intro member content _ hrun
    obtain ⟨p, u, hexport, htold⟩ := runIn_bind_ok.mp hrun
    cases htold
    rw [hname] at hexport
    obtain ⟨rfl, d, name, hunpacked, hrename⟩ := imageToFile_eq_ok hreply hbody (orTell_eq_ok hexport hpath) hpath
    refine ⟨rfl, d, name, hunpacked, ?_⟩
    exact faithful_iff hunpacked (movedAll_image hunpacked hrename) (.inl ⟨_, mem_cons_self, rfl⟩) content
  · intro member content _ format hformat hshp hrun
    obtain ⟨p, u, hexport, htold⟩ := runIn_bind_ok.mp hrun
    cases htold
    rw [hname, hformat] at hexport
    obtain ⟨rfl, d, name, hunpacked, hmoves⟩ := tableToFile_eq_ok hshp hreply hbody (orTell_eq_ok hexport hpath) hpath
    obtain ⟨hmoved, hout⟩ := movedAll_table hunpacked hmoves
    exact ⟨rfl, d, name, hunpacked, faithful_iff hunpacked hmoved hout content⟩

def offering (listing : Listing) (files : List (String × Body)) (entries : List (String × String)) : World where
  answers := [.ok (.record [("type", "Point")])]
  replies := [.ok { body := .archive entries }]
  disk := { files }
  listing

/-- Beside another image, the archive's own one is found if the folder tells what is new first. A table takes its parts
along, and another part stays. -/
theorem exports_faithful_iff_newest :
    (∃ v, (imageToFileCommand.call [.object .image "img", "out", .object .geometry "roi"]).runIn
        (offering ⟨List.reverse, reverse_perm⟩ [("<TMP>/old.tif", .text "OLD")] [("d.tif", "NEW")]) = (.ok "out.tif", v) ∧
      Value.lookup "<TMP>/out.tif" v.disk.files = some (.text "NEW") ∧
      Value.lookup "<TMP>/old.tif" v.disk.files = some (.text "OLD")) ∧
    (∃ v, (tableToFileCommand.call [.object .featureCollection "fc", "out", "shp"]).runIn
        (offering default [("<TMP>/e.dbf", .text "OLD")] [("d.dbf", "ROWS"), ("d.shp", "NEW")]) = (.ok "out.shp", v) ∧
      Value.lookup "<TMP>/out.shp" v.disk.files = some (.text "NEW") ∧
      Value.lookup "<TMP>/e.dbf" v.disk.files = some (.text "OLD")) := by
  have htif : "out.tif" ≠ "" := by decide
  have hshp : "out.shp" ≠ "" := by decide
  constructor
  · obtain ⟨v, hrun⟩ : ∃ v, (imageToFileCommand.call [.object .image "img", "out", .object .geometry "roi"]).runIn
        (offering ⟨List.reverse, reverse_perm⟩ [("<TMP>/old.tif", .text "OLD")] [("d.tif", "NEW")]) =
          (.ok "out.tif", v) := ⟨_, rfl⟩
    refine ⟨v, hrun, ?_⟩
    obtain ⟨-, d, name, ⟨⟨e, he, rfl⟩, hfirst⟩, hiff⟩ := (exports_faithful_iff
      (a := ⟨[("image", .object .image "img"), ("filename", "out"), ("region", .object .geometry "roi"), ("scale", 30),
        ("crs", "EPSG:4326"), ("file_format", "GeoTIFF")], []⟩)
      (by rfl) (by rfl) (by rfl) htif).1 "d.tif" "NEW" (by rfl) hrun
    cases he
    cases hfirst
    have hfaithful := hiff.mpr (sound_of_own rfl (by decide))
    exact ⟨hfaithful.delivered, hfaithful.kept _ _ rfl (by decide)⟩
  · obtain ⟨v, hrun⟩ : ∃ v, (tableToFileCommand.call [.object .featureCollection "fc", "out", "shp"]).runIn
        (offering default [("<TMP>/e.dbf", .text "OLD")] [("d.dbf", "ROWS"), ("d.shp", "NEW")]) = (.ok "out.shp", v) := ⟨_, rfl⟩
    refine ⟨v, hrun, ?_⟩
    obtain ⟨-, d, name, ⟨⟨e, he, rfl⟩, hfirst⟩, hiff⟩ := (exports_faithful_iff
      (a := ⟨[("feature_collection", .object .featureCollection "fc"), ("filename", "out"), ("file_format", "shp")], []⟩)
      (by rfl) (by rfl) (by rfl) hshp).2 "d.shp" "NEW" (by rfl) "shp" rfl rfl hrun
    cases he
    cases hfirst
    have hfaithful := hiff.mpr (sound_of_own rfl (by decide))
    exact ⟨hfaithful.delivered, hfaithful.kept _ _ rfl (by decide)⟩

/-- The first image that is told takes the result's name though the archive's own one lies deeper. A part that has the
stem of the archive's table by chance is taken along. -/
theorem other_files_taken : (∃ v, (imageToFileCommand.call [.object .image "img", "out", .object .geometry "roi"]).runIn
        (offering default [("<TMP>/old.tif", .text "OLD")] [("sub/d.tif", "NEW")]) = (.ok "out.tif", v) ∧
      Value.lookup "<TMP>/out.tif" v.disk.files = some (.text "OLD") ∧ Value.lookup "<TMP>/old.tif" v.disk.files = none) ∧
    (∃ v, (tableToFileCommand.call [.object .featureCollection "fc", "out", "shp"]).runIn
        (offering default [("<TMP>/d.dbf", .text "OLD")] [("d.shp", "NEW")]) = (.ok "out.shp", v) ∧
      Value.lookup "<TMP>/out.shp" v.disk.files = some (.text "NEW") ∧
      Value.lookup "<TMP>/d.dbf" v.disk.files = none) :=
  ⟨⟨_, rfl, rfl, rfl⟩, _, rfl, rfl, rfl⟩

end RemoteSensing.Export
