import RemoteSensing.Export.Task
import RemoteSensing.Proofs.Session.Disk

/-!
What exporting into a file does to the disk: up to the reply nothing, then what unpacking the archive does, then the
renamings.
-/

namespace RemoteSensing.Export

open Session RemoteSensing.Path

variable {w v : World} {filename : String} {entries : List (String × String)}

variable {endings : List String} {s : Session String} {format : String} {α : Type}

/-- The disk, the order of listings and the replies that wait are as they were. -/
structure Untouched (w v : World) : Prop where
  disk : v.disk = w.disk
  listing : v.listing = w.listing
  replies : v.replies = w.replies

theorem Untouched.trans {u : World} (h : Untouched w v) (h' : Untouched v u) : Untouched w u :=
  ⟨h'.disk.trans h.disk, h'.listing.trans h.listing, h'.replies.trans h.replies⟩

theorem untouched_bind {β : Type} {s : Session α} {f : α → Session β} (hs : ∀ w, Untouched w (s.runIn w).2)
    (hf : ∀ a w, Untouched w ((f a).runIn w).2) (w : World) : Untouched w ((s >>= f).runIn w).2 :=
  runIn_bind_keeps (R := Untouched) Untouched.trans hs hf w

theorem untouched_submit (x : Data) (w : World) : Untouched w ((submit x).runIn w).2 := by
  rw [submit, runIn_bind_of_ok (runIn_get w)]
  cases verify w.refusals x <;> exact ⟨rfl, rfl, rfl⟩

theorem untouched_address (x : Data) (method : String) (args : List Data) (w : World) :
    Untouched w ((address x method args).runIn w).2 :=
  untouched_bind (untouched_submit _) (fun _ _ => ⟨rfl, rfl, rfl⟩) w

theorem untouched_info (x : Data) (w : World) : Untouched w ((info x).runIn w).2 := by
  refine untouched_bind (untouched_submit _) (fun e => untouched_bind (fun _ => ⟨rfl, rfl, rfl⟩) fun _ w => ?_) w
  rw [nextAnswer, runIn_bind_of_ok (runIn_get w)]
  rcases w.answers with _ | ⟨a, _ | ⟨b, rest⟩⟩
  · exact ⟨rfl, rfl, rfl⟩
  · cases a <;> exact ⟨rfl, rfl, rfl⟩
  · cases a <;> exact ⟨rfl, rfl, rfl⟩

theorem orTell_eq_ok {what : String} {d a : α} {s : Session α} (h : (Session.orTell what d s).runIn w = (.ok a, v))
    (hne : a ≠ d) : s.runIn w = (.ok a, v) := by
  rw [Session.runIn_orTell] at h
  rcases hs : s.runIn w with ⟨r, u⟩
  rw [hs] at h
  cases r with
  | ok b => exact h
  | error e =>
    cases h
    exact absurd rfl hne

def archivePath (filename : String) : String := absolute (filename ++ ".zip")

def members (filename : String) (entries : List (String × String)) : List String :=
  entries.map fun e => absolute (Session.entryPath (around filename) e.1)

/-- The disk once the archive is unpacked and removed, and the first name with the ending that the folder tells. -/
structure Unpacked (w : World) (filename : String) (entries : List (String × String)) (ending : String) (d : Disk)
    (name : String) : Prop where
  unpacked : ∃ e, unpackAll (around filename) entries (w.disk.write (archivePath filename) (.archive entries)) = .ok e ∧
    d = e.remove (archivePath filename)
  first : (w.listing.tell (d.namesIn (absolute (around filename)))).find? (Text.endsWith · ending) = some name

/-- The disk with the files of an archive in place of the archive, or else the disk where unpacking ends in a fault. -/
def unpackedFrom (d : Disk) (filename : String) : Body → Except Disk Disk
  | .archive entries =>
    let written := d.write (archivePath filename) (.archive entries)
    match unpackAll (around filename) entries written with
    | .ok e => .ok (e.remove (archivePath filename))
    | .error _ => .error (unpackedUpTo (around filename) entries written)
  | body => .error (d.write (archivePath filename) body)

theorem unpackBeside_cases (filename : String) (body : Body) (w : World) :
    (¬ Placeable w.disk (filename ++ ".zip") ∧ ∃ e, (unpackBeside (.str filename) body).runIn w = (.error e, w)) ∨
    Placeable w.disk (filename ++ ".zip") ∧
      ((∃ d e, unpackedFrom w.disk filename body = .error d ∧
        (unpackBeside (.str filename) body).runIn w = (.error e, { w with disk := d })) ∨
      ∃ d, unpackedFrom w.disk filename body = .ok d ∧
        (unpackBeside (.str filename) body).runIn w = (.ok (around filename), { w with disk := d })) := by
  by_cases hplace : Placeable w.disk (filename ++ ".zip")
  · refine .inr ⟨hplace, ?_⟩
    have hstored : Value.lookup (archivePath filename) (w.disk.write (archivePath filename) body).files = some body :=
      Disk.lookup_write _ _ _
    have hwrite := runIn_bind_of_ok (runIn_writeBody hplace body) (β := String)
    cases body with
    | text s => exact .inl ⟨_, _, rfl, hwrite _⟩
    | bytes s => exact .inl ⟨_, _, rfl, hwrite _⟩
    | picture s => exact .inl ⟨_, _, rfl, hwrite _⟩
    | archive entries =>
      -- a caller's name that is a text, and a body that is an archive, leave these steps
      have hsteps : unpackBeside (.str filename) (.archive entries) = (do
          writeBody (filename ++ ".zip") (.archive entries)
          let _ ← unpackArchive (filename ++ ".zip") (around filename)
          removeFile (filename ++ ".zip")
          pure (around filename)) := rfl
      have hunpack := runIn_unpackArchive (hplace.write _ _) hstored (around filename)
        (w := { w with disk := w.disk.write (archivePath filename) (.archive entries) })
      rw [hsteps, hwrite, unpackedFrom]
      cases hall : unpackAll (around filename) entries (w.disk.write (archivePath filename) (.archive entries)) with
      | error e =>
        rw [hall] at hunpack
        exact .inl ⟨_, e, rfl, runIn_bind_of_error hunpack _⟩
      | ok d =>
        rw [hall, unpackedUpTo_of_ok hall] at hunpack
        obtain ⟨b, hb⟩ := Option.isSome_iff_exists.mp
          (isSome_unpackAll hall (Option.isSome_iff_exists.mpr ⟨_, hstored⟩))
        refine .inr ⟨_, rfl, (runIn_bind_of_ok hunpack _).trans ?_⟩
        exact runIn_bind_of_ok (runIn_removeFile hplace.named (w := { w with disk := d }) hb) _
  · obtain ⟨e, hwrite⟩ := runIn_writeBody_failed hplace body
    exact .inl ⟨hplace, e, runIn_bind_of_error hwrite _⟩

theorem runIn_firstEnding (folder ending : String) (w : World) : (firstEnding? folder ending).runIn w =
    (.ok ((w.listing.tell (w.disk.namesIn (absolute folder))).find? (Text.endsWith · ending)), w) := rfl

/-- A session that comes to nothing: it ends in a fault, or its result is the empty text. -/
def Fruitless (s : Session String) (w : World) : Prop := ∀ path, (s.runIn w).1 = .ok path → path = ""

theorem Fruitless.of_error {e : Fault} (h : s.runIn w = (.error e, v)) : Fruitless s w := by
  intro path hpath
  rw [h] at hpath
  cases hpath

theorem Fruitless.of_empty (h : s.runIn w = (.ok "", v)) : Fruitless s w := by
  intro path hpath
  rw [h] at hpath
  exact (Except.ok.inj hpath).symm

/-- What is done with the first name that has an ending. -/
def placing (ending complaint : String) (finish : String → String → Session String) (folder : String) : Session String := do
  match ← firstEnding? folder ending with
  | some name => finish folder name
  | none =>
    print complaint
    pure ""

def downloading (address : Session String) (complaint : Int → String) (store : Body → Session String) : Session String := do
  let url ← address
  let reply ← fetch url
  if reply.status ≠ 200 then
    print (complaint reply.status)
    return ""
  store reply.body

/-- The server gives an address, and the reply to the request there is of use. -/
def Brought (address : Session String) (w : World) (body : Body) : Prop :=
  ∃ url u reply rest, address.runIn w = (.ok url, u) ∧ w.replies = .ok reply :: rest ∧ reply.status = 200 ∧ reply.body = body

section Downloading

variable {address : Session String} {complaint : Int → String} {store : Body → Session String} {body : Body}

theorem Brought.unique {other : Body} (h : Brought address w body) (h' : Brought address w other) : other = body := by
  obtain ⟨_, _, reply, rest, -, hreply, -, rfl⟩ := h
  obtain ⟨_, _, reply', rest', -, hreply', -, rfl⟩ := h'
  rw [hreply] at hreply'
  cases hreply'
  rfl

theorem downloading_cases (haddress : ∀ w, Untouched w (address.runIn w).2) (w : World) :
    ((∀ body, ¬ Brought address w body) ∧ Fruitless (downloading address complaint store) w ∧
      ((downloading address complaint store).runIn w).2.disk = w.disk) ∨
    ∃ body u, Brought address w body ∧ u.disk = w.disk ∧ u.listing = w.listing ∧
      (downloading address complaint store).runIn w = (store body).runIn u := by
  have huntouched := haddress w
  rcases hrun : address.runIn w with ⟨e | url, u⟩
  · rw [hrun] at huntouched
    have hfailed : (downloading address complaint store).runIn w = (.error e, u) := runIn_bind_of_error hrun _
    refine .inl ⟨?_, .of_error hfailed, by rw [hfailed]; exact huntouched.disk⟩
    rintro body ⟨url, u', reply, rest, hok, -⟩
    rw [hrun] at hok
    cases hok
  · rw [hrun] at huntouched
    rcases runIn_fetch url u with ⟨reply, rest, hreply, hfetch⟩ | ⟨hnone, e, hfetch⟩
    · rw [huntouched.replies] at hreply
      have hgot : (downloading address complaint store).runIn w = (if reply.status ≠ 200 then do
            print (complaint reply.status)
            pure ""
          else store reply.body).runIn (u.after [url]) := by
        rw [downloading, runIn_bind_of_ok hrun, runIn_bind_of_ok hfetch]
      by_cases hstatus : reply.status = 200
      · rw [if_neg (not_not.mpr hstatus)] at hgot
        exact .inr ⟨reply.body, u.after [url], ⟨url, u, reply, rest, hrun, hreply, hstatus, rfl⟩, huntouched.disk,
          huntouched.listing, hgot⟩
      · rw [if_pos hstatus] at hgot
        refine .inl ⟨?_, .of_empty hgot, by rw [hgot]; exact huntouched.disk⟩
        rintro body ⟨_, _, reply', rest', -, hreply', hgood, -⟩
        rw [hreply] at hreply'
        cases hreply'
        exact hstatus hgood
    · have hfailed : (downloading address complaint store).runIn w = (.error e, u.after [url]) := by
        rw [downloading, runIn_bind_of_ok hrun, runIn_bind_of_error hfetch]
      refine .inl ⟨?_, .of_error hfailed, by rw [hfailed]; exact huntouched.disk⟩
      rintro body ⟨_, _, reply, rest, -, hreply, -⟩
      exact hnone reply rest (huntouched.replies.trans hreply)

/-- Where a path is told, the archive was brought and unpacked, and a name was found. -/
theorem downloading_eq_ok {ending told path : String} {finish : String → String → Session String} {reply : Reply}
    {rest : List (Except String Reply)} (haddress : ∀ w, Untouched w (address.runIn w).2)
    (hreply : w.replies = .ok reply :: rest) (hbody : reply.body = .archive entries)
    (h : (downloading address complaint fun body => unpackBeside (.str filename) body >>= placing ending told finish).runIn w =
      (.ok path, v)) (hpath : path ≠ "") :
    ∃ u name, Unpacked w filename entries ending u.disk name ∧ (finish (around filename) name).runIn u = (.ok path, v) := by
  rcases downloading_cases haddress w with ⟨-, hfruitless, -⟩ | ⟨body, u, hbrought, hdisk, hlisting, hrun⟩
  · exact absurd (hfruitless path (by rw [h])) hpath
  · obtain ⟨_, _, reply', rest', -, hreply', -, rfl⟩ := hbrought
    rw [hreply] at hreply'
    cases hreply'
    rw [hrun, hbody] at h
    obtain ⟨folder, u', hunpack, h⟩ := runIn_bind_ok.mp h
    rcases unpackBeside_cases filename (.archive entries) u with ⟨-, e, hbad⟩ | ⟨-, ⟨d, e, -, hbad⟩ | ⟨d, hd, hgood⟩⟩
    · rw [hbad] at hunpack
      cases hunpack
    · rw [hbad] at hunpack
      cases hunpack
    · rw [hgood] at hunpack
      cases hunpack
      rw [placing, runIn_bind_of_ok (runIn_firstEnding _ _ _)] at h
      rw [hlisting] at h
      split at h
      · rename_i name hname
        refine ⟨_, name, ⟨?_, hname⟩, h⟩
        rw [hdisk, unpackedFrom] at hd
        split at hd
        · rename_i e he
          cases hd
          exact ⟨e, he, rfl⟩
        · cases hd
      · cases h
        exact absurd rfl hpath

end Downloading

def imageAddress (image region size crs format : Data) : Session String := do
  let image ← submit (image.call "clip" [region])
  let outline ← info region
  address image "getDownloadURL"
    [.record [("scale", size), ("crs", crs), ("region", outline), ("format", format)]]

theorem untouched_imageAddress (image region size crs format : Data) (w : World) :
    Untouched w ((imageAddress image region size crs format).runIn w).2 :=
  untouched_bind (untouched_submit _) (fun _ => untouched_bind (untouched_info _) fun _ => untouched_address _ _ _) w

def placeImage (filename folder name : String) : Session String := do
  rename (join folder name) (filename ++ ".tif")
  announceFile "Image" (filename ++ ".tif")

theorem imageToFile_eq (image region size crs format : Data) (filename : String) :
    imageToFile image (.str filename) region size crs format = downloading (imageAddress image region size crs format)
      (fun s => "Error downloading image: " ++ toString s) fun body => unpackBeside (.str filename) body >>=
        placing ".tif" "Error: No .tif file found in downloaded archive" (placeImage filename) := by
  simp only [imageToFile, downloading, imageAddress, bind_assoc]
  rfl

variable {path : String} {reply : Reply} {rest : List (Except String Reply)}

/-- **An image that is exported**: the first name with the ending is changed. -/
theorem imageToFile_eq_ok {image region size crs format : Data} (hreply : w.replies = .ok reply :: rest)
    (hbody : reply.body = .archive entries)
    (h : (imageToFile image (.str filename) region size crs format).runIn w = (.ok path, v)) (hpath : path ≠ "") :
    path = filename ++ ".tif" ∧ ∃ d name, Unpacked w filename entries ".tif" d name ∧
      d.rename (absolute (join (around filename) name)) (absolute path) = .ok v.disk := by
  rw [imageToFile_eq] at h
  obtain ⟨u, name, hunpacked, h⟩ := downloading_eq_ok (untouched_imageAddress _ _ _ _ _) hreply hbody h hpath
  rw [placeImage] at h
  rcases rename_cases (join (around filename) name) (filename ++ ".tif") u with
    ⟨d, hd, hrename⟩ | ⟨m, e, -, hrename⟩
  · rw [runIn_bind_of_ok hrename] at h
    cases h
    exact ⟨rfl, u.disk, name, hunpacked, hd⟩
  · rw [runIn_bind_of_error hrename] at h
    cases h

def shapeMoves (old new : String) (endings : List String) : List (String × String) :=
  endings.map fun e => (absolute (old ++ e), absolute (new ++ e))

theorem mem_shapeMoves {old new e : String} (he : e ∈ endings) :
    (absolute (old ++ e), absolute (new ++ e)) ∈ shapeMoves old new endings := List.mem_map.mpr ⟨e, he, rfl⟩

/-- The disk once the renamings up to one that fails are made. -/
def movedUpTo : List (String × String) → Disk → Disk
  | [], d => d
  | m :: r, d => if d.exists? m.1 then (d.rename m.1 m.2).toOption.elim d (movedUpTo r) else movedUpTo r d

theorem runIn_renameParts (old new : String) (hendings : ∀ e ∈ endings, e ≠ "") (w : World) :
    ∃ r, (renameParts old new endings).runIn w = (r, { w with disk := movedUpTo (shapeMoves old new endings) w.disk }) ∧
      (r = .ok () → Disk.moveAll (shapeMoves old new endings) w.disk =
        .ok (movedUpTo (shapeMoves old new endings) w.disk)) := by
  induction endings generalizing w with
  | nil => exact ⟨_, rfl, fun _ => rfl⟩
  | cons e r ih =>
    have hrest := fun x hx => hendings x (List.mem_cons_of_mem e hx)
    have hnamed : (old ++ e).isEmpty = false := by
      have he := hendings e List.mem_cons_self
      simp [he]
    have hthere : (pathExists (old ++ e)).runIn w = (.ok (w.disk.exists? (absolute (old ++ e))), w) := by
      rw [runIn_pathExists, hnamed]
      rfl
    -- asking whether a part is there and renaming it are the two halves of one step of `moveAll`
    rw [renameParts, runIn_bind_of_ok hthere, shapeMoves, List.map_cons, movedUpTo, Disk.moveAll, ← shapeMoves]
    by_cases hex : w.disk.exists? (absolute (old ++ e)) = true
    · rw [if_pos hex, if_pos hex, if_pos hex]
      rcases rename_cases (old ++ e) (new ++ e) w with ⟨d, hd, hrename⟩ | ⟨m, f, hm, hrename⟩
      · rw [runIn_bind_of_ok hrename, hd]
        exact ih hrest { w with disk := d }
      · rw [runIn_bind_of_error hrename, hm]
        exact ⟨_, rfl, by rintro ⟨⟩⟩
    · rw [if_neg hex, if_neg hex, if_neg hex]
      exact ih hrest w

theorem ne_empty_of_mem_shapeEndings : ∀ e ∈ shapeEndings, e ≠ "" := by decide

def tableMoves (filename name : String) : List (String × String) :=
  shapeMoves (splitExtension (join (around filename) name)).1
    (splitExtension (filename ++ ".shp")).1 shapeEndings

def placeTable (filename folder name : String) : Session String := do
  renameParts (splitExtension (join folder name)).1 (splitExtension (filename ++ ".shp")).1 shapeEndings
  announceFile "Vector data" (filename ++ ".shp")

theorem tableToFile_eq (collection : Data) (filename : String) (hformat : Text.upper format = "SHP") :
    tableToFile collection (.str filename) (.str format) = downloading (address collection "getDownloadURL" [.str "shp"])
      (fun s => "Error downloading vector data: " ++ toString s) fun body => unpackBeside (.str filename) body >>=
        placing ".shp" "Error: No .shp file found in downloaded archive" (placeTable filename) := by
  have hname : (liftM ((Value.str format : Data).strOf "upper") : Session String) = pure format := rfl
  rw [tableToFile, hname, pure_bind]
  simp only [hformat]
  rfl

/-- **A table that is exported**: the parts that go with the first name with the ending are renamed. -/
theorem tableToFile_eq_ok {collection : Data} (hformat : Text.upper format = "SHP")
    (hreply : w.replies = .ok reply :: rest) (hbody : reply.body = .archive entries)
    (h : (tableToFile collection (.str filename) (.str format)).runIn w = (.ok path, v)) (hpath : path ≠ "") :
    path = filename ++ ".shp" ∧ ∃ d name, Unpacked w filename entries ".shp" d name ∧
      Disk.moveAll (tableMoves filename name) d = .ok v.disk := by
  rw [tableToFile_eq collection filename hformat] at h
  obtain ⟨u, name, hunpacked, h⟩ := downloading_eq_ok (untouched_address _ _ _) hreply hbody h hpath
  obtain ⟨_, u', hparts, h⟩ := runIn_bind_ok.mp h
  obtain ⟨r, hrun, hmoves⟩ := runIn_renameParts _ _ ne_empty_of_mem_shapeEndings u
  rw [hrun] at hparts
  cases hparts
  cases h
  exact ⟨rfl, u.disk, name, hunpacked, hmoves rfl⟩

end RemoteSensing.Export
