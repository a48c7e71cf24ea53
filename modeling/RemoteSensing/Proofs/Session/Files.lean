import RemoteSensing.Proofs.Session.Run
import RemoteSensing.Proofs.Value.Fields

/-!
How files are read, written and removed.
-/

namespace RemoteSensing

open Value RemoteSensing.Path

variable {d : Disk} {entries : List (String × String)} {p q target : String} {entry : String × String}

namespace Disk

@[simp] theorem lookup_write (d : Disk) (p : String) (b : Body) : lookup p (d.write p b).files = some b :=
  Value.lookup_insert_self

theorem lookup_write_of_ne (h : p ≠ q) (b : Body) :
    lookup q (d.write p b).files = lookup q d.files := Value.lookup_insert_of_ne h

theorem lookup_remove (d : Disk) (p q : String) :
    lookup q (d.remove p).files = if q = p then none else lookup q d.files := by
  show lookup q (d.files.filter fun f => f.1 != p) = _
  induction d.files with
  | nil => simp [lookup]
  | cons f r ih =>
    obtain ⟨k, b⟩ := f
    by_cases hk : k = p
    · rw [List.filter_cons_of_neg (by simp [hk]), ih, hk]
      by_cases hq : q = p
      · rw [if_pos hq, if_pos hq]
      · rw [if_neg hq, if_neg hq, lookup, if_neg (Ne.symm hq)]
    · rw [List.filter_cons_of_pos (by simp [hk]), lookup, ih, lookup]
      by_cases hq : k = q
      · rw [if_pos hq, if_pos hq, if_neg (hq ▸ hk)]
      · rw [if_neg hq, if_neg hq]

theorem lookup_remove_of_ne (h : q ≠ p) : lookup q (d.remove p).files = lookup q d.files := by
  rw [lookup_remove, if_neg h]

theorem remove_of_lookup_none (h : lookup p d.files = none) : d.remove p = d := by
  have hkeep : d.files.filter (fun f => f.1 != p) = d.files := by
    refine List.filter_eq_self.mpr fun f hf => bne_iff_ne.mpr fun heq => ?_
    exact Value.lookup_eq_none.mp h (heq ▸ List.mem_map_of_mem hf)
  unfold remove
  rw [hkeep]

@[simp] theorem files_makeFolder (d : Disk) (p : String) : (d.makeFolder p).files = d.files := rfl

theorem checkFolder_eq_ok {folder : String} : d.checkFolder p folder = .ok () ↔ d.hasFolder folder = true := by
  unfold checkFolder
  cases hfolder : d.hasFolder folder with
  | true => simp
  | false =>
    simp only [Bool.false_eq_true, if_false, iff_false]
    split
    · exact fun h => nomatch h
    · exact fun h => nomatch h

end Disk

namespace Session

/-- A file can be written at the path. -/
structure Placeable (d : Disk) (p : String) : Prop where
  path : checkPath p = .ok ()
  named : p.isEmpty = false
  free : d.hasFolder (absolute p) = false
  folder : d.hasFolder (Path.folder (absolute p)) = true
  plain : Text.endsWith p "/" = false

variable {p : String} {b : Body} {w v : World}

theorem checkWritable_eq_ok {d : Disk} : checkWritable d p = .ok () ↔ Placeable d p := by
  unfold checkWritable
  constructor
  · intro h
    obtain ⟨_, hpath, h⟩ := bind_eq_ok.mp h
    cases hnamed : p.isEmpty with
    | true =>
      rw [hnamed] at h
      cases h
    | false =>
      cases hfree : d.hasFolder (absolute p) with
      | true =>
        simp only [hnamed, hfree] at h
        cases h
      | false =>
        simp only [hnamed, hfree, if_false, Bool.false_eq_true] at h
        obtain ⟨_, hfolder, h⟩ := bind_eq_ok.mp h
        cases hplain : Text.endsWith p "/" with
        | true =>
          rw [hplain] at h
          cases h
        | false => exact ⟨hpath, hnamed, hfree, Disk.checkFolder_eq_ok.mp hfolder, hplain⟩
  · intro h
    simp only [h.path, h.named, h.free, Disk.checkFolder_eq_ok.mpr h.folder, h.plain]
    rfl

theorem runIn_writeBody (h : Placeable w.disk p) (b : Body) :
    (writeBody p b).runIn w = (.ok (), { w with disk := w.disk.write (absolute p) b }) := by
  unfold writeBody
  rw [runIn_bind_of_ok (runIn_get w), checkWritable_eq_ok.mpr h, runIn_liftM_ok, runIn_modify]

theorem runIn_writeText (h : Placeable w.disk p) (s : String) :
    (writeText p s).runIn w = (.ok (), { w with disk := w.disk.write (absolute p) (.text s) }) :=
  runIn_writeBody h (.text s)

theorem runIn_readBody (hpath : checkPath p = .ok ()) (hplain : Text.endsWith p "/" = false)
    (hfile : lookup (absolute p) w.disk.files = some b) : (readBody p).runIn w = (.ok b, w) := by
  unfold readBody bodyAt
  simp only [runIn_bind, runIn_liftM, runIn_get, hpath, hfile, hplain]
  rfl

theorem runIn_readText (hpath : checkPath p = .ok ()) (hplain : Text.endsWith p "/" = false)
    (hfile : lookup (absolute p) w.disk.files = some b) :
    (readText p).runIn w = (.ok (Text.plainNewlines b.toText), w) := by
  unfold readText readRaw
  simp only [runIn_bind, runIn_readBody hpath hplain hfile, runIn_pure]

theorem runIn_readText_absent (h : Placeable w.disk p) (hfile : lookup (absolute p) w.disk.files = none) :
    (readText p).runIn w = (.error (.noFile p), w) := by
  unfold readText readRaw readBody bodyAt
  simp only [runIn_bind, runIn_liftM, runIn_get, h.path, hfile, h.named, h.free, Disk.checkFolder, h.folder]
  rfl

theorem runIn_removeFile (hnamed : p.isEmpty = false)
    (hfile : lookup (absolute p) w.disk.files = some b) :
    (removeFile p).runIn w = (.ok (), { w with disk := w.disk.remove (absolute p) }) := by
  unfold removeFile isFile
  simp only [runIn_bind, runIn_get, runIn_pure, Disk.hasFile, hfile, hnamed]
  rfl

theorem runIn_writeBody_failed (h : ¬ Placeable w.disk p) (b : Body) : ∃ e, (writeBody p b).runIn w = (.error e, w) := by
  cases hwritable : checkWritable w.disk p with
  | ok _ => exact absurd (checkWritable_eq_ok.mp hwritable) h
  | error e =>
    unfold writeBody
    rw [runIn_bind_of_ok (runIn_get w), hwritable]
    exact ⟨e, rfl⟩

theorem writeBody_eq_ok (h : (writeBody p b).runIn w = (.ok (), v)) :
    Placeable w.disk p ∧ v = { w with disk := w.disk.write (absolute p) b } := by
  by_cases hplace : Placeable w.disk p
  · rw [runIn_writeBody hplace b] at h
    exact ⟨hplace, (Prod.mk.inj h).2.symm⟩
  · obtain ⟨e, hrun⟩ := runIn_writeBody_failed hplace b
    rw [hrun] at h
    cases h

theorem rename_cases (old new : String) (w : World) :
    (∃ d, w.disk.rename (absolute old) (absolute new) = .ok d ∧
      (rename old new).runIn w = (.ok (), { w with disk := d })) ∨
    ∃ m e, w.disk.rename (absolute old) (absolute new) = .error m ∧ (rename old new).runIn w = (.error e, w) := by
  unfold rename
  rw [runIn_bind_of_ok (runIn_get w)]
  cases w.disk.rename (absolute old) (absolute new) with
  | error m => exact .inr ⟨m, _, rfl, rfl⟩
  | ok d => exact .inl ⟨d, rfl, rfl⟩

theorem Placeable.write {d : Disk} (h : Placeable d p) (q : String) (b : Body) : Placeable (d.write q b) p :=
  ⟨h.path, h.named, h.free, h.folder, h.plain⟩

def secureFolder (f : String) : Session Unit := do
  let there ← pathExists f
  unless there do makeFolder f

/-- The folder is there or can be made, which changes the disk from `d` to `d'`. -/
def Secured (d : Disk) (f : String) (d' : Disk) : Prop :=
  ∀ w : World, w.disk = d → (secureFolder f).runIn w = (.ok (), { w with disk := d' })

variable {f : String} {d d' : Disk}

theorem runIn_pathExists (f : String) (w : World) :
    (pathExists f).runIn w = (.ok (!f.isEmpty && w.disk.exists? (absolute f)), w) := rfl

theorem secured_of_exists (hnamed : f.isEmpty = false) (h : d.exists? (absolute f) = true) : Secured d f d := by
  intro w hw
  subst hw
  have hthere : (!f.isEmpty && w.disk.exists? (absolute f)) = true := by rw [hnamed, h]; rfl
  unfold secureFolder
  rw [runIn_bind_of_ok (runIn_pathExists f w), hthere]
  rfl

theorem makeFolder_eq_ok (h : (makeFolder f).runIn w = (.ok (), v)) : v.disk.files = w.disk.files := by
  unfold makeFolder at h
  split at h
  · obtain ⟨_, _, hfault, -⟩ := runIn_bind_ok.mp h
    cases hfault
  · obtain ⟨_, u, hpath, h⟩ := runIn_bind_ok.mp h
    rw [runIn_liftM] at hpath
    obtain ⟨-, rfl⟩ := Prod.mk.inj hpath
    rw [runIn_bind_of_ok (runIn_get w)] at h
    by_cases hthere : w.disk.exists? (absolute f) = true
    · rw [if_pos hthere] at h
      cases h
    · rw [if_neg hthere] at h
      cases hblocked : blockedBy? w.disk (absolute f) with
      | some q =>
        rw [hblocked] at h
        cases h
      | none =>
        rw [hblocked] at h
        cases h
        exact Disk.files_makeFolder _ _

theorem Secured.files (h : Secured d f d') : d'.files = d.files := by
  have hrun := h { disk := d } rfl
  unfold secureFolder at hrun
  rw [runIn_bind_of_ok (runIn_pathExists f _)] at hrun
  split at hrun
  · have hsame : d = d' := congrArg World.disk (Prod.mk.inj hrun).2
    rw [hsame]
  · exact makeFolder_eq_ok hrun

def unpackAll (target : String) : List (String × String) → Disk → Except Fault Disk
  | [], d => .ok d
  | entry :: r, d => unpackEntry target d entry >>= unpackAll target r

/-- An entry makes a folder, or a file. -/
theorem unpackEntry_cases {d d' : Disk} (h : unpackEntry target d entry = .ok d') :
    d'.files = d.files ∨ d'.files = Value.insert (absolute (entryPath target entry.1)) (.text entry.2) d.files := by
  unfold unpackEntry at h
  simp only at h
  split at h
  · cases h
  · split at h
    · split at h
      · cases h
      · cases h
        exact .inl (Disk.files_makeFolder d _)
    · split at h
      · cases h
      · cases h
        exact .inr (by rw [Disk.place, Disk.write, Disk.files_makeFolder])

theorem lookup_unpackEntry {d d' : Disk} (h : unpackEntry target d entry = .ok d')
    (hq : q ≠ absolute (entryPath target entry.1)) : lookup q d'.files = lookup q d.files := by
  rcases unpackEntry_cases h with hfiles | hfiles
  · rw [hfiles]
  · rw [hfiles, Value.lookup_insert_of_ne (Ne.symm hq)]

theorem lookup_unpackAll {d d' : Disk} (h : unpackAll target entries d = .ok d')
    (hq : ∀ entry ∈ entries, q ≠ absolute (entryPath target entry.1)) :
    lookup q d'.files = lookup q d.files := by
  induction entries generalizing d with
  | nil =>
    cases h
    rfl
  | cons entry r ih =>
    obtain ⟨e, he, h⟩ := bind_eq_ok.mp h
    rw [ih h fun x hx => hq x (List.mem_cons_of_mem entry hx), lookup_unpackEntry he (hq entry List.mem_cons_self)]

/-- No file goes away by unpacking. -/
theorem isSome_unpackAll {d d' : Disk} (h : unpackAll target entries d = .ok d')
    (hq : (lookup q d.files).isSome = true) : (lookup q d'.files).isSome = true := by
  induction entries generalizing d with
  | nil =>
    cases h
    exact hq
  | cons entry r ih =>
    obtain ⟨e, he, h⟩ := bind_eq_ok.mp h
    refine ih h ?_
    by_cases hpath : q = absolute (entryPath target entry.1)
    · rcases unpackEntry_cases he with hfiles | hfiles
      · rw [hfiles]
        exact hq
      · rw [hfiles, hpath, Value.lookup_insert_self]
        rfl
    · rw [lookup_unpackEntry he hpath]
      exact hq

/-- The disk once the entries up to one that cannot be unpacked are. -/
def unpackedUpTo (target : String) : List (String × String) → Disk → Disk
  | [], d => d
  | entry :: r, d => (unpackEntry target d entry).toOption.elim d (unpackedUpTo target r)

theorem unpackedUpTo_of_ok {d d' : Disk} (h : unpackAll target entries d = .ok d') :
    unpackedUpTo target entries d = d' := by
  induction entries generalizing d with
  | nil =>
    cases h
    rfl
  | cons entry r ih =>
    obtain ⟨e, he, h⟩ := bind_eq_ok.mp h
    rw [unpackedUpTo, he]
    exact ih h

theorem runIn_unpackEntries (target : String) (entries : List (String × String)) (w : World) :
    (unpackEntries target entries).runIn w = ((unpackAll target entries w.disk).map fun _ => (),
      { w with disk := unpackedUpTo target entries w.disk }) := by
  induction entries generalizing w with
  | nil => rfl
  | cons entry r ih =>
    rw [unpackEntries, unpackAll, unpackedUpTo, runIn_bind_of_ok (runIn_get w)]
    cases unpackEntry target w.disk entry with
    | error e => rfl
    | ok d => exact ih { w with disk := d }

theorem runIn_unpackArchive (hplace : Placeable w.disk p)
    (hfile : lookup (absolute p) w.disk.files = some (.archive entries)) (target : String) :
    (unpackArchive p target).runIn w = ((unpackAll target entries w.disk).map fun _ => entries.map (·.1),
      { w with disk := unpackedUpTo target entries w.disk }) := by
  rw [unpackArchive, runIn_bind_of_ok (runIn_readBody hplace.path hplace.plain hfile)]
  rw [runIn_bind, runIn_unpackEntries]
  cases unpackAll target entries w.disk <;> rfl

end Session

end RemoteSensing
