import RemoteSensing.Proofs.Export.Faithful

/-!
What a failed export leaves behind.
-/

namespace RemoteSensing.Export

open Session RemoteSensing.Path

variable {w v : World} {filename : String} {complaint format : String}

def SameFiles (d d' : Disk) : Prop := ∀ p, Value.lookup p d'.files = Value.lookup p d.files

/-- The disk after a body was stored: where it cannot be unpacked, that is the end; else `left` says what becomes of the
files from the archive. -/
def leftBehind (left : Listing → Disk → Disk) (listing : Listing) (d : Disk) (filename : String) (body : Body) : Disk :=
  match unpackedFrom d filename body with
  | .ok e => left listing e
  | .error e => e

/-- An archive that is brought and can be written is all that decides what a fruitless session changes. -/
theorem downloading_keeps_iff {address : Session String} {complaint : Int → String} {rest : String → Session String}
    {left : Listing → Disk → Disk} (haddress : ∀ w, Untouched w (address.runIn w).2)
    (hleft : ∀ u, Fruitless (rest (around filename)) u →
      ((rest (around filename)).runIn u).2.disk = left u.listing u.disk)
    (hfruitless : Fruitless (downloading address complaint fun body => unpackBeside (.str filename) body >>= rest) w) :
    SameFiles w.disk
        ((downloading address complaint fun body => unpackBeside (.str filename) body >>= rest).runIn w).2.disk ↔
      ∀ body, Brought address w body → Placeable w.disk (filename ++ ".zip") →
        SameFiles w.disk (leftBehind left w.listing w.disk filename body) := by
  unfold Fruitless at hfruitless
  rcases downloading_cases haddress w with ⟨hnone, -, hdisk⟩ | ⟨body, u, hbrought, hdisk, hlisting, hrun⟩
  · rw [hdisk]
    exact iff_of_true (fun _ => rfl) fun body hbody => absurd hbody (hnone body)
  · rw [hrun] at hfruitless ⊢
    rw [← hdisk, ← hlisting]
    rcases unpackBeside_cases filename body u with ⟨hplace, e, hbad⟩ | ⟨hplace, hcases⟩
    · rw [runIn_bind_of_error hbad]
      exact iff_of_true (fun _ => rfl) fun _ _ h => absurd h hplace
    · have hbehind : ((unpackBeside (.str filename) body >>= rest).runIn u).2.disk =
          leftBehind left u.listing u.disk filename body := by
        rw [leftBehind]
        rcases hcases with ⟨d, e, hd, hbad⟩ | ⟨d, hd, hgood⟩
        · rw [runIn_bind_of_error hbad, hd]
        · rw [runIn_bind_of_ok hgood] at hfruitless ⊢
          rw [hd]
          exact hleft { u with disk := d } hfruitless
      rw [hbehind]
      refine ⟨fun h other hother _ => ?_, fun h => h body hbrought hplace⟩
      rw [hbrought.unique hother]
      exact h

theorem append_ne_empty {s : String} (h : s ≠ "") (filename : String) : filename ++ s ≠ "" := by simp [h]

/-- An image that is not renamed stays as it was unpacked. -/
theorem placing_image (u : World)
    (h : Fruitless (placing ".tif" complaint (placeImage filename) (around filename)) u) :
    ((placing ".tif" complaint (placeImage filename) (around filename)).runIn u).2.disk = u.disk := by
  unfold Fruitless at h
  rw [placing, runIn_bind_of_ok (runIn_firstEnding _ _ _)] at h ⊢
  cases hfound : (u.listing.tell (u.disk.namesIn (absolute (around filename)))).find? (Text.endsWith · ".tif") with
  | none => rfl
  | some name =>
    rw [hfound] at h
    rcases rename_cases (join (around filename) name) (filename ++ ".tif") u with
      ⟨d, hd, hrename⟩ | ⟨m, e, -, hrename⟩
    · have htold : ((placeImage filename (around filename) name).runIn u).1 = .ok (filename ++ ".tif") := by
        rw [placeImage, runIn_bind_of_ok hrename]
        rfl
      exact absurd (h _ htold) (append_ne_empty (by decide) filename)
    · show ((placeImage filename (around filename) name).runIn u).2.disk = u.disk
      rw [placeImage, runIn_bind_of_error hrename]

/-- Of a table the parts up to one that cannot be renamed get their new names. -/
def tableLeft (filename : String) (listing : Listing) (d : Disk) : Disk :=
  match (listing.tell (d.namesIn (absolute (around filename)))).find? (Text.endsWith · ".shp") with
  | some name => movedUpTo (tableMoves filename name) d
  | none => d

theorem placing_table (u : World) :
    ((placing ".shp" complaint (placeTable filename) (around filename)).runIn u).2.disk =
      tableLeft filename u.listing u.disk := by
  rw [placing, runIn_bind_of_ok (runIn_firstEnding _ _ _), tableLeft]
  cases (u.listing.tell (u.disk.namesIn (absolute (around filename)))).find? (Text.endsWith · ".shp") with
  | none => rfl
  | some name =>
    obtain ⟨r, hparts, -⟩ := runIn_renameParts (Path.splitExtension (join (around filename) name)).1
      (Path.splitExtension (filename ++ ".shp")).1 ne_empty_of_mem_shapeEndings u
    dsimp only
    rw [placeTable, tableMoves]
    cases r with
    | error e => rw [runIn_bind_of_error hparts]
    | ok _ =>
      rw [runIn_bind_of_ok hparts]
      rfl

theorem ending_ne_empty {word ending : String} (h : vectorFormat? format = some (word, ending)) : ending ≠ "" := by
  unfold vectorFormat? at h
  split_ifs at h <;> cases h <;> decide

/-- A table in one file is not unpacked: it is written last, or it is not. -/
theorem tableToFile_disk {collection : Data} (hformat : Text.upper format ≠ "SHP")
    (h : Fruitless (tableToFile collection (.str filename) (.str format)) w) :
    ((tableToFile collection (.str filename) (.str format)).runIn w).2.disk = w.disk := by
  have hname : (liftM ((Value.str format : Data).strOf "upper") : Session String) = pure format := rfl
  unfold Fruitless at h
  rcases hvector : vectorFormat? (Text.upper format) with _ | ⟨word, ending⟩
  · rw [tableToFile, hname, pure_bind]
    simp only [hvector]
    rfl
  · have hsteps : tableToFile collection (.str filename) (.str format) =
        downloading (address collection "getDownloadURL" [.str word])
          (fun s => "Error downloading vector data: " ++ toString s) (fun body => do
            writeBody (filename ++ ending) body
            announceFile "Vector data" (filename ++ ending)) := by
      rw [tableToFile, hname, pure_bind]
      simp only [hvector, hformat]
      rfl
    rw [hsteps] at h ⊢
    rcases downloading_cases (untouched_address _ _ _) w with ⟨-, -, hdisk⟩ | ⟨body, u, -, hdisk, -, hrun⟩
    · exact hdisk
    · rw [hrun] at h ⊢
      by_cases hplace : Placeable u.disk (filename ++ ending)
      · rw [runIn_bind_of_ok (runIn_writeBody hplace body)] at h
        exact absurd (h _ rfl) (append_ne_empty (ending_ne_empty hvector) filename)
      · obtain ⟨e, hwrite⟩ := runIn_writeBody_failed hplace body
        rw [runIn_bind_of_error hwrite]
        exact hdisk

theorem orTell_fruitless {what : String} {s : Session String}
    (h : (do pure (.str (← orTell what "" s)) : Session Data).runIn w = (.ok (.str ""), v)) :
    Fruitless s w ∧ v.disk = (s.runIn w).2.disk := by
  obtain ⟨path, u, h, hpath⟩ := runIn_bind_ok.mp h
  cases hpath
  rw [runIn_orTell] at h
  unfold Fruitless
  rcases hs : s.runIn w with ⟨e | path, u⟩
  · rw [hs] at h
    cases h
    exact ⟨nofun, rfl⟩
  · rw [hs] at h
    cases h
    exact ⟨fun _ hpath => (Except.ok.inj hpath).symm, rfl⟩

/-- **What a failed export changes.** An export that tells the empty path leaves every file as it was, if no archive was
brought or it cannot be written. Otherwise it leaves the disk that unpacking the archive gives, whole or up to a fault,
and for a table the renamings up to one that fails; so all is as it was exactly when that disk has the same files. Other
forms of a table leave nothing. -/
theorem failed_export_keeps_files_iff {a : Arguments} (hname : a "filename" = .str filename) :
    ((imageToFileCommand.run a).runIn w = (.ok (.str ""), v) →
      (SameFiles w.disk v.disk ↔
        ∀ body, Brought (imageAddress (a "image") (a "region") (a "scale") (a "crs") (a "file_format")) w body →
          Placeable w.disk (filename ++ ".zip") →
          SameFiles w.disk (leftBehind (fun _ d => d) w.listing w.disk filename body))) ∧
    ∀ format, a "file_format" = .str format → (tableToFileCommand.run a).runIn w = (.ok (.str ""), v) →
      (SameFiles w.disk v.disk ↔ (Text.upper format = "SHP" →
        ∀ body, Brought (address (a "feature_collection") "getDownloadURL" [.str "shp"]) w body →
          Placeable w.disk (filename ++ ".zip") →
          SameFiles w.disk (leftBehind (tableLeft filename) w.listing w.disk filename body))) := by
  constructor
  · intro hrun
    obtain ⟨hfruitless, hdisk⟩ := orTell_fruitless hrun
    rw [hname, imageToFile_eq] at hfruitless hdisk
    rw [hdisk]
    exact downloading_keeps_iff (untouched_imageAddress _ _ _ _ _) placing_image hfruitless
  · intro format hformat hrun
    obtain ⟨hfruitless, hdisk⟩ := orTell_fruitless hrun
    rw [hname, hformat] at hfruitless hdisk
    rw [hdisk]
    by_cases hshp : Text.upper format = "SHP"
    · rw [tableToFile_eq _ _ hshp] at hfruitless ⊢
      rw [downloading_keeps_iff (untouched_address _ _ _) (fun u _ => placing_table u) hfruitless]
      exact (imp_iff_right hshp).symm
    · rw [tableToFile_disk hshp hfruitless]
      exact iff_of_true (fun _ => rfl) fun h => absurd h hshp

def refusing : World :=
  { offering default [("<TMP>/old.tif", .text "OLD")] [] with replies := [.ok { status := 404, body := .text "" }] }

def occupied : World :=
  { offering default [] [("d.shp", "NEW")] with disk := Disk.makeFolder {} "<TMP>/out.zip" }

/-- A request that is refused leaves nothing, nor does an archive where a folder has its name. -/
theorem failed_export_keeps_files :
    (∃ v, (imageToFileCommand.call [.object .image "img", "out", .object .geometry "roi"]).runIn refusing = (.ok "", v) ∧
      SameFiles refusing.disk v.disk) ∧
    ∃ v, (tableToFileCommand.call [.object .featureCollection "fc", "out", "shp"]).runIn occupied = (.ok "", v) ∧
      SameFiles occupied.disk v.disk := by
  constructor
  · refine ⟨_, rfl, ?_⟩
    refine ((failed_export_keeps_files_iff
      (a := ⟨[("image", .object .image "img"), ("filename", "out"), ("region", .object .geometry "roi"), ("scale", 30),
        ("crs", "EPSG:4326"), ("file_format", "GeoTIFF")], []⟩) rfl).1 rfl).mpr ?_
    rintro body ⟨_, _, reply, rest, -, hreply, hstatus, -⟩
    cases hreply
    cases hstatus
  · refine ⟨_, rfl, ?_⟩
    refine ((failed_export_keeps_files_iff
      (a := ⟨[("feature_collection", .object .featureCollection "fc"), ("filename", "out"), ("file_format", "shp")], []⟩)
      rfl).2 "shp" rfl rfl).mpr ?_
    intro _ body _ hplace
    exact absurd hplace.free (by decide)

/-- A reply that is no archive stays on the disk under the name of one. -/
theorem failed_export_leaves_archive :
    ∃ v, (imageToFileCommand.call [.object .image "img", "out", .object .geometry "roi"]).runIn
        { offering default [] [] with replies := [.ok { body := .text "busy" }] } = (.ok "", v) ∧
      Value.lookup "<TMP>/out.zip" v.disk.files = some (.text "busy") := ⟨_, rfl, rfl⟩

end RemoteSensing.Export
