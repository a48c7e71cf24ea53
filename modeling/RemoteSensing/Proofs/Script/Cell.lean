import RemoteSensing.Proofs.Script.Outcome

/-!
What converting a cell leaves on the disk.
-/

namespace RemoteSensing.Script

open Disk Value RemoteSensing.Path

open Session (runIn_bind_of_ok Placeable readText writeText removeFile runIn_bind_of_error print runIn_readText)

def snippetSource : String := here ++ "/snippet.js"

def snippetTarget : String := here ++ "/snippet.py"

theorem absolute_source : absolute snippetSource = snippetSource := by decide

theorem absolute_target : absolute snippetTarget = snippetTarget := by decide

theorem folder_source : folder snippetSource = here := by decide

theorem folder_target : folder snippetTarget = here := by decide

theorem absolute_here : absolute here = here := by decide

theorem source_ne_target : snippetSource ≠ snippetTarget := by decide

/-- The working directory is there, and it has neither of the two files. -/
structure Vacant (d : Disk) : Prop where
  folder : d.hasFolder here = true
  source : d.exists? snippetSource = false
  target : d.exists? snippetTarget = false

def keyed (script : String) : String := String.ofList (quoteBareKeys 0 script.toList)

def noted (script : String) (w : World) : World :=
  { w with disk := w.disk.write snippetSource (.text (keyed script)) }

def cellOptions (own showMap : Bool) (map : String) : Options where
  desktopMap := false
  ownMap := own
  showMap := showMap
  map := .str map

theorem sound_cellOptions (own showMap : Bool) (map : String) : (cellOptions own showMap map).Sound :=
  ⟨rfl, ⟨map, rfl⟩, Or.inl rfl⟩

namespace Vacant

variable {d : Disk} (h : Vacant d)

include h

theorem lookup_source : lookup snippetSource d.files = none := by
  have hfile := h.source
  rw [exists?, Bool.or_eq_false_iff, hasFile] at hfile
  simpa using hfile.1

theorem lookup_target : lookup snippetTarget d.files = none := by
  have hfile := h.target
  rw [exists?, Bool.or_eq_false_iff, hasFile] at hfile
  simpa using hfile.1

theorem placeable_source : Placeable d snippetSource where
  path := by rfl
  named := by decide
  free := by rw [absolute_source]; exact (Bool.or_eq_false_iff.mp h.source).2
  folder := by rw [absolute_source, folder_source]; exact h.folder
  plain := by decide

theorem placeable_target : Placeable d snippetTarget where
  path := by rfl
  named := by decide
  free := by rw [absolute_target]; exact (Bool.or_eq_false_iff.mp h.target).2
  folder := by rw [absolute_target, folder_target]; exact h.folder
  plain := by decide

theorem placeable_target_write (b : Body) : Placeable (d.write snippetSource b) snippetTarget := by
  obtain ⟨hpath, hnamed, hfree, hfolder, hplain⟩ := h.placeable_target
  exact ⟨hpath, hnamed, hfree, hfolder, hplain⟩

theorem remove_both (b c : Body) :
    (((d.write snippetSource b).write snippetTarget c).remove snippetSource).remove snippetTarget = d := by
  have hsource := h.lookup_source
  have htarget := h.lookup_target
  have hwritten : insert snippetTarget c (insert snippetSource b d.files) =
      d.files ++ (snippetSource, b) :: [(snippetTarget, c)] := by
    rw [Value.insert_of_lookup_none (by rw [lookup_insert_of_ne source_ne_target, htarget]),
      Value.insert_of_lookup_none hsource, List.append_assoc]
    rfl
  have hkeptsource : d.files.filter (fun f => f.1 != snippetSource) = d.files :=
    congrArg files (remove_of_lookup_none hsource)
  have hkepttarget : d.files.filter (fun f => f.1 != snippetTarget) = d.files :=
    congrArg files (remove_of_lookup_none htarget)
  simp only [remove, write, hwritten, List.filter_append, hkeptsource, hkepttarget]
  simp [source_ne_target.symm]

end Vacant

def cellScript (script : String) : List Line := Chars.lines (Text.plainNewlines (keyed script)).toList

def Converts (o : Options) (script : String) (w : World) : Prop :=
  (∀ e, ¬ Raises o "" (cellScript script) (noted script w) e) ∧
    ∀ i l, ¬ Refused o "" (cellScript script) (noted script w) i l

/-- What is done once the piece of script is converted: the result is read, and both files are removed. -/
def collect (importLibrary : Bool) : Session (List Line) := do
  let lines := cellLines (Chars.lines (← readText snippetTarget).toList)
  removeFile snippetSource
  removeFile snippetTarget
  pure (if importLibrary then "import ee\n".toList :: lines else lines)

theorem convertCell_eq (o : Options) (ee : Bool) (script : String) :
    convertCell o ee script = writeText snippetSource (keyed script) >>= fun _ =>
      convertFile o snippetSource snippetTarget >>= fun _ => collect ee := by
  rfl

section Cell

variable {w : World} (hvacant : Vacant w.disk)

include hvacant

theorem runIn_noted (script : String) :
    (writeText snippetSource (keyed script)).runIn w = (.ok (), noted script w) := by
  rw [Session.runIn_writeText hvacant.placeable_source, absolute_source]
  rfl

theorem readText_noted (script : String) :
    (readText (absolute snippetSource)).runIn (noted script w) =
      (.ok (Text.plainNewlines (keyed script)), noted script w) := by
  have hfile : lookup (absolute snippetSource) (noted script w).disk.files = some (.text (keyed script)) := by
    exact lookup_write w.disk snippetSource _
  have hread := runIn_readText hvacant.placeable_source.path hvacant.placeable_source.plain hfile
  exact hread

theorem runIn_collect {v : World} {b c : Body} (hv : v.disk = (w.disk.write snippetSource b).write snippetTarget c)
    (ee : Bool) : ∃ ls u, (collect ee).runIn v = (.ok ls, u) ∧ u.disk = w.disk := by
  have htarget : lookup (absolute snippetTarget) v.disk.files = some c := by
    rw [absolute_target, hv]
    exact lookup_write _ snippetTarget c
  have hsource : lookup (absolute snippetSource) v.disk.files = some b := by
    rw [absolute_source, hv]
    exact (lookup_insert_of_ne source_ne_target.symm).trans (lookup_write w.disk snippetSource b)
  have hread := runIn_readText hvacant.placeable_target.path hvacant.placeable_target.plain htarget
  have hfirst := Session.runIn_removeFile hvacant.placeable_source.named hsource
  have hleft : lookup (absolute snippetTarget) (v.disk.remove (absolute snippetSource)).files = some c := by
    exact (lookup_remove_of_ne source_ne_target.symm).trans htarget
  have hsecond := Session.runIn_removeFile (w := { v with disk := v.disk.remove (absolute snippetSource) })
    hvacant.placeable_target.named hleft
  have hrun : ∃ ls, (collect ee).runIn v = (.ok ls,
      { v with disk := (v.disk.remove (absolute snippetSource)).remove (absolute snippetTarget) }) := by
    unfold collect
    rw [runIn_bind_of_ok hread, runIn_bind_of_ok hfirst, runIn_bind_of_ok hsecond]
    exact ⟨_, rfl⟩
  obtain ⟨ls, hls⟩ := hrun
  refine ⟨ls, _, hls, ?_⟩
  rw [hv, absolute_source, absolute_target, hvacant.remove_both]

variable (own showMap ee : Bool) (map script : String)

/-- **What converting a cell comes to.** -/
theorem convertCell_cases :
    (¬ Converts (cellOptions own showMap map) script w ∧
        ∃ e v, (convertCell (cellOptions own showMap map) ee script).runIn w = (.error e, v) ∧
          v.disk = (noted script w).disk) ∨
      (Converts (cellOptions own showMap map) script w ∧
        ∃ ls v, (convertCell (cellOptions own showMap map) ee script).runIn w = (.ok ls, v) ∧ v.disk = w.disk) := by
  have hsound := sound_cellOptions own showMap map
  have hheading : headingOf (cellOptions own showMap map) (absolute snippetSource) = "" := rfl
  have hplaced : placed (noted script w).disk snippetTarget = snippetTarget := placed_of_isAbsolute _ rfl
  rw [convertCell_eq, runIn_bind_of_ok (runIn_noted hvacant script), convertFile_eq hsound, bind_assoc,
    runIn_bind_of_ok (Session.runIn_get _), hplaced, bind_assoc, runIn_bind_of_ok (readText_noted hvacant script), bind_assoc,
    hheading]
  obtain ⟨r, v, hrun, hdisk, hraises, hrefused, -⟩ :=
    convertScript_cases hsound (absolute snippetSource) "" (cellScript script) (noted script w)
  have hplace : Placeable v.disk snippetTarget := by
    rw [hdisk]
    exact hvacant.placeable_target_write _
  rcases r with e | _ | cs
  · refine Or.inl ⟨fun h => h.1 e ((hraises e).mp rfl), e, v, ?_, hdisk⟩
    exact runIn_bind_of_error hrun _
  · -- nothing was converted, so that there is no second file to read
    have habsent : lookup (absolute snippetTarget) v.disk.files = none := by
      rw [hdisk, absolute_target]
      exact (lookup_insert_of_ne source_ne_target).trans hvacant.lookup_target
    obtain ⟨i, l, h⟩ := hrefused.mp rfl
    refine Or.inl ⟨fun hc => hc.2 i l h, .noFile snippetTarget, v, ?_, hdisk⟩
    rw [← cellScript, runIn_bind_of_ok hrun]
    exact runIn_bind_of_error (Session.runIn_readText_absent hplace habsent) _
  · have hfolder : v.disk.exists? (absolute (folder snippetTarget)) = true := by
      rw [hdisk, folder_target, absolute_here, exists?, Bool.or_eq_true]
      exact Or.inr hvacant.folder
    have hstore := runIn_store hplace (by rw [folder_target]; decide) hfolder (String.ofList cs)
    obtain ⟨ls, u, hcollect, hu⟩ := runIn_collect hvacant (b := .text (keyed script)) (c := .text (String.ofList cs))
      (v := { v with disk := v.disk.write (absolute snippetTarget) (.text (String.ofList cs)) })
      (by rw [absolute_target, hdisk]; rfl) ee
    have hconverts : Converts (cellOptions own showMap map) script w :=
      ⟨fun e h => (nomatch (hraises e).mpr h), fun i l h => (nomatch hrefused.mpr ⟨i, l, h⟩)⟩
    refine Or.inr ⟨hconverts, ls, u, ?_, hu⟩
    rw [← cellScript, runIn_bind_of_ok hrun]
    rw [bind_assoc, runIn_bind_of_ok hstore]
    exact hcollect

def cellRequest : List Data := [.str script, .bool false, .bool ee, .bool own, .bool showMap, .str map]

omit hvacant in
theorem call_cellRequest :
    cellCommand.call (cellRequest own showMap ee map script) [] =
      tryCatch (convertCell (cellOptions own showMap map) ee script >>= fun ls => pure (linesValue ls))
        (fun e => print e.message >>= fun _ => pure .null) := by
  unfold Command.call
  show tryCatch (convertCell ⟨false, (bool own : Data).truthy, (bool showMap : Data).truthy, .str map, .null⟩
    (bool ee : Data).truthy script >>= fun ls => pure (linesValue ls)) _ = _
  rw [truthy_bool, truthy_bool, truthy_bool]
  rfl

/-- **What a cell leaves on the disk.** Whatever the piece of script and the flags, the call returns, and the second file is
not there. The first one is not there either exactly if the conversion gives a text; then the disk is as it was and the
lines are returned. Otherwise nothing is returned and the first file stays. -/
theorem cell_files_removed_iff :
    (((cellCommand.call (cellRequest own showMap ee map script)).runIn w).2.disk.hasFile snippetSource = false ↔
      Converts (cellOptions own showMap map) script w) ∧
    ((cellCommand.call (cellRequest own showMap ee map script)).runIn w).2.disk.hasFile snippetTarget = false ∧
    (Converts (cellOptions own showMap map) script w →
      ((cellCommand.call (cellRequest own showMap ee map script)).runIn w).2.disk = w.disk ∧
      ∃ ls, ((cellCommand.call (cellRequest own showMap ee map script)).runIn w).1 = .ok (linesValue ls)) ∧
    (¬ Converts (cellOptions own showMap map) script w →
      ((cellCommand.call (cellRequest own showMap ee map script)).runIn w).1 = .ok .null) := by
  rw [call_cellRequest, Session.runIn_tryCatch]
  rcases convertCell_cases hvacant own showMap ee map script with
    ⟨hnot, e, v, hrun, hdisk⟩ | ⟨hconverts, ls, v, hrun, hdisk⟩
  · rw [runIn_bind_of_error hrun]
    have hstays : v.disk.hasFile snippetSource = true := by
      rw [hasFile, hdisk]
      exact congrArg Option.isSome (lookup_write w.disk snippetSource _)
    have htarget : v.disk.hasFile snippetTarget = false := by
      rw [hasFile, hdisk]
      exact congrArg Option.isSome ((lookup_insert_of_ne source_ne_target).trans hvacant.lookup_target)
    refine ⟨⟨fun h => ?_, fun h => absurd h hnot⟩, htarget, fun h => absurd h hnot, fun _ => rfl⟩
    exact absurd (hstays.symm.trans h) (by decide)
  · rw [runIn_bind_of_ok hrun]
    have hgone : ∀ {p}, lookup p w.disk.files = none → v.disk.hasFile p = false := by
      intro p hp
      rw [hasFile, hdisk, hp]
      rfl
    exact ⟨⟨fun _ => hconverts, fun _ => hgone hvacant.lookup_source⟩, hgone hvacant.lookup_target,
      fun _ => ⟨hdisk, ls, rfl⟩, fun h => absurd hconverts h⟩

end Cell

theorem cell_files_removed_iff_record :
    Vacant ({} : World).disk ∧ Converts (cellOptions false true "m") "var a = \x7bmin: 0\x7d;" {} ∧
      ((cellCommand.call (cellRequest false true true "m" "var a = \x7bmin: 0\x7d;")).runIn {}).2.disk =
        ({} : World).disk := by
  have hvacant : Vacant ({} : World).disk := ⟨rfl, rfl, rfl⟩
  have h := cell_files_removed_iff hvacant false true true "m" "var a = \x7bmin: 0\x7d;"
  have hconverts := h.1.mp (by rfl)
  exact ⟨hvacant, hconverts, (h.2.2.1 hconverts).1⟩

theorem cell_trailing_comma :
    ((cellCommand.call (cellRequest false true true "m" "a,")).runIn {}).1 = .ok .null ∧
      ((cellCommand.call (cellRequest false true true "m" "a,")).runIn {}).2.disk.files =
        [("<TMP>/snippet.js", .text "a,")] := by
  exact ⟨by rfl, by rfl⟩

end RemoteSensing.Script
