import RemoteSensing.Proofs.Path
import RemoteSensing.Proofs.Session.Files

/-!
Moving files and folders.
-/

namespace RemoteSensing.Disk

open List

def Under (root p : String) : Prop := p = root ∨ inside root p = true

def Apart (a b : String) : Prop := ∀ p, Under a p → ¬ Under b p

theorem inside_iff {root p : String} : inside root p = true ↔ ∃ r, p = root ++ "/" ++ r := by
  rw [inside, Text.startsWith, isPrefixOf_iff_prefix]
  constructor
  · rintro ⟨r, hr⟩
    refine ⟨String.ofList r, ?_⟩
    rw [← String.toList_inj, String.toList_append, String.toList_ofList, hr]
  · rintro ⟨r, rfl⟩
    exact ⟨r.toList, (String.toList_append).symm⟩

theorem append_slash_ne (a r : String) : a ++ "/" ++ r ≠ a := by
  rw [String.append_assoc]
  intro heq
  have hlength := congrArg String.length heq
  simp at hlength

theorem takeWhile_of_under {q a p : String} (ha : '/' ∉ a.toList) (h : Under (q ++ a) p) :
    ∃ t, p = q ++ t ∧ t.toList.takeWhile (· != '/') = a.toList := by
  have hname : ∀ c ∈ a.toList, (c != '/') = true := fun c hc => bne_iff_ne.mpr fun heq => ha (heq ▸ hc)
  rcases h with rfl | hin
  · refine ⟨a, rfl, ?_⟩
    rw [takeWhile_eq_self_iff.mpr hname]
  · -- the slash behind the name is where the name ends
    obtain ⟨r, rfl⟩ := inside_iff.mp hin
    refine ⟨a ++ "/" ++ r, by simp only [String.append_assoc], ?_⟩
    rw [String.toList_append, String.toList_append, append_assoc, takeWhile_append_of_pos hname]
    simp

theorem apart_child {a b : String} (folder : String) (ha : '/' ∉ a.toList) (hb : '/' ∉ b.toList) (hne : a ≠ b) :
    Apart (Path.child folder a) (Path.child folder b) := by
  obtain ⟨q, hq⟩ : ∃ q, ∀ m, Path.child folder m = q ++ m := by
    unfold Path.child
    split
    · exact ⟨"/", fun m => rfl⟩
    · exact ⟨folder ++ "/", fun m => rfl⟩
  rw [hq, hq]
  intro p hpa hpb
  obtain ⟨t, rfl, ht⟩ := takeWhile_of_under ha hpa
  obtain ⟨u, hu, hub⟩ := takeWhile_of_under hb hpb
  rw [← (String.append_right_inj q).mp hu, ht] at hub
  exact hne (String.toList_inj.mp hub)

variable {old new p : String}

theorem movedTo_old : movedTo old new old = new := if_pos (beq_self_eq_true old)

theorem movedTo_inside (r : String) : movedTo old new (old ++ "/" ++ r) = new ++ "/" ++ r := by
  unfold movedTo
  rw [if_neg (by simpa using append_slash_ne old r), if_pos (inside_iff.mpr ⟨r, rfl⟩)]
  simp [← String.toList_inj]

theorem movedTo_of_not_under (h : ¬ Under old p) : movedTo old new p = p := by
  unfold movedTo
  rw [if_neg (by simpa using fun heq => h (.inl heq)), if_neg fun hin => h (.inr hin)]

theorem under_movedTo (h : Under old p) : Under new (movedTo old new p) ∧ (movedTo old new p = new → p = old) := by
  rcases h with rfl | hin
  · rw [movedTo_old]
    exact ⟨.inl rfl, fun _ => rfl⟩
  · obtain ⟨r, rfl⟩ := inside_iff.mp hin
    rw [movedTo_inside]
    exact ⟨.inr (inside_iff.mpr ⟨r, rfl⟩), fun heq => absurd heq (append_slash_ne new r)⟩

theorem movedTo_eq_iff {q : String} (hold : ¬ Under old p) (hnew : ¬ Under new p) : movedTo old new q = p ↔ q = p := by
  by_cases hq : Under old q
  · constructor
    · intro heq
      exact absurd (heq ▸ (under_movedTo hq).1) hnew
    · rintro rfl
      exact absurd hq hold
  · rw [movedTo_of_not_under hq]

variable {d d' : Disk} {b : Body}

/-- Renaming takes the file along: it has the name, or there is no file of the name and it lies in the folder. -/
def Carries (d : Disk) (old p : String) : Prop := p = old ∨ d.hasFile old = false ∧ inside old p = true

theorem Carries.under (h : d.Carries old p) : Under old p := h.imp id (·.2)

theorem hasFile_eq_false : d.hasFile p = false ↔ Value.lookup p d.files = none := by
  rw [hasFile, Option.isSome_eq_false_iff, Option.isNone_iff_eq_none]

/-- **What renaming can do**: it moves a file, it leaves a folder where it is, or it moves a folder to where nothing
is. -/
theorem rename_cases (h : d.rename old new = .ok d') :
    (∃ b, Value.lookup old d.files = some b ∧ d.hasFolder new = false ∧ d' = (d.remove old).write new b) ∨
    (Value.lookup old d.files = none ∧ d.hasFolder old = true ∧ old = new ∧ d' = d) ∨
    (Value.lookup old d.files = none ∧ d.hasFolder old = true ∧ old ≠ new ∧ d.hasFile new = false ∧
      (∀ q ∈ d.paths, inside new q = false) ∧ d' = d.moveFolder old new) := by
  unfold rename at h
  split at h
  · cases h
  · split at h
    · rename_i b hb
      split at h
      · cases h
      · rename_i hfolder
        cases h
        exact .inl ⟨b, hb, by simpa using hfolder, rfl⟩
    · rename_i hnone
      split at h
      · cases h
      · rename_i hold
        have hold : d.hasFolder old = true := by simpa using hold
        split at h
        · rename_i hsame
          cases h
          exact .inr (.inl ⟨hnone, hold, by simpa using hsame, rfl⟩)
        · rename_i hother
          split at h
          · cases h
          · rename_i hfile
            split at h
            · cases h
            · split at h
              · cases h
              · rename_i hpaths
                cases h
                refine .inr (.inr ⟨hnone, hold, by simpa using hother, by simpa using hfile, fun q hq => ?_, rfl⟩)
                simpa using fun hin => hpaths (any_eq_true.mpr ⟨q, hq, hin⟩)

theorem exists_of_rename (h : d.rename old new = .ok d') : d.exists? old = true := by
  rw [exists?, Bool.or_eq_true]
  rcases rename_cases h with ⟨b, hb, -⟩ | ⟨-, hfolder, -⟩ | ⟨-, hfolder, -⟩
  · exact .inl (by rw [hasFile, hb, Option.isSome_some])
  · exact .inr hfolder
  · exact .inr hfolder

theorem lookup_moveFolder (hold : ¬ Under old p) (hnew : ¬ Under new p) :
    Value.lookup p (d.moveFolder old new).files = Value.lookup p d.files :=
  Value.lookup_map_key fun _ => movedTo_eq_iff hold hnew

theorem lookup_moveFolder_eq_none (h : ∀ q ∈ d.files.map (·.1), movedTo old new q ≠ p) :
    Value.lookup p (d.moveFolder old new).files = none := by
  rw [Value.lookup_eq_none]
  intro hmem
  obtain ⟨e, he, rfl⟩ := mem_map.mp hmem
  obtain ⟨f, hf, rfl⟩ := mem_map.mp he
  exact h f.1 (mem_map_of_mem hf) rfl

theorem hasFolder_moveFolder (hold : ¬ Under old p) (hnew : ¬ Under new p) :
    (d.moveFolder old new).hasFolder p = d.hasFolder p := by
  have hmem : p ∈ (d.folders.filter (· != new)).map (movedTo old new) ↔ p ∈ d.folders := by
    simp only [mem_map, movedTo_eq_iff hold hnew, exists_eq_right, mem_filter, bne_iff_ne, and_iff_left_iff_imp]
    exact fun _ heq => hnew (.inl heq)
  have hcontains : (d.moveFolder old new).folders.contains p = d.folders.contains p := by
    rw [Bool.eq_iff_iff, contains_iff_mem, contains_iff_mem]
    exact hmem
  rw [hasFolder, hcontains, hasFolder]

/-- The effects of renaming on files. -/
structure Moved (d d' : Disk) (old new : String) : Prop where
  elsewhere : ∀ p, ¬ Under old p → ¬ Under new p →
    Value.lookup p d'.files = Value.lookup p d.files ∧ d'.hasFolder p = d.hasFolder p
  delivered : Value.lookup new d'.files = Value.lookup old d.files
  gone : old ≠ new → ∀ p, d.Carries old p → Value.lookup p d'.files = none
  kept : ∀ p b, Value.lookup p d.files = some b → p ≠ new → old = new ∨ ¬ d.Carries old p →
    Value.lookup p d'.files = some b

theorem moved_file (hb : Value.lookup old d.files = some b) : Moved d ((d.remove old).write new b) old new where
  elsewhere := by
    intro p hold hnew
    have hpold : p ≠ old := fun heq => hold (.inl heq)
    have hpnew : new ≠ p := fun heq => hnew (.inl heq.symm)
    refine ⟨?_, rfl⟩
    rw [lookup_write_of_ne hpnew, lookup_remove_of_ne hpold]
  delivered := by rw [lookup_write, hb]
  gone := by
    intro hne p hp
    have hfile : d.hasFile old = true := by rw [hasFile, hb, Option.isSome_some]
    rcases hp with rfl | ⟨hnone, -⟩
    · rw [lookup_write_of_ne (Ne.symm hne), lookup_remove, if_pos rfl]
    · rw [hfile] at hnone
      cases hnone
  kept := by
    intro p b' hp hpnew hcarried
    have hpold : p ≠ old := by
      rintro rfl
      rcases hcarried with rfl | hcarried
      · exact hpnew rfl
      · exact hcarried (.inl rfl)
    rw [lookup_write_of_ne (Ne.symm hpnew), lookup_remove_of_ne hpold, hp]

theorem moved_folder (hapart : Apart old new) (hold : Value.lookup old d.files = none)
    (hnew : d.hasFile new = false) (hfree : ∀ q ∈ d.paths, inside new q = false) :
    Moved d (d.moveFolder old new) old new where
  elsewhere := fun p hpold hpnew => ⟨lookup_moveFolder hpold hpnew, hasFolder_moveFolder hpold hpnew⟩
  delivered := by
    -- only what is called `old` could come to be called `new`, and that is a folder
    rw [hold]
    refine lookup_moveFolder_eq_none fun q hq heq => ?_
    by_cases hunder : Under old q
    · exact Value.lookup_eq_none.mp hold ((under_movedTo hunder).2 heq ▸ hq)
    · rw [movedTo_of_not_under hunder] at heq
      exact Value.lookup_eq_none.mp (hasFile_eq_false.mp hnew) (heq ▸ hq)
  gone := by
    intro _ p hp
    refine lookup_moveFolder_eq_none fun q _ heq => ?_
    by_cases hunder : Under old q
    · exact hapart p hp.under (heq ▸ (under_movedTo hunder).1)
    · rw [movedTo_of_not_under hunder] at heq
      exact hunder (heq ▸ hp.under)
  kept := by
    intro p b hp hpnew hcarried
    have hmem : p ∈ d.paths := mem_append_left _ (mem_append_left _ (mem_map_of_mem (Value.mem_of_lookup hp)))
    have hpold : ¬ Under old p := by
      rintro (rfl | hin)
      · rw [hold] at hp
        cases hp
      · rcases hcarried with rfl | hcarried
        · exact hapart old (.inl rfl) (.inl rfl)
        · exact hcarried (.inr ⟨hasFile_eq_false.mpr hold, hin⟩)
    -- the folder was moved to where nothing is, so `p` is not in its way
    have hpunder : ¬ Under new p := by
      rintro (heq | hin)
      · exact hpnew heq
      · rw [hfree p hmem] at hin
        cases hin
    rw [lookup_moveFolder hpold hpunder, hp]

/-- **One renaming.** -/
theorem moved_of_rename (h : d.rename old new = .ok d') (hapart : old = new ∨ Apart old new) : Moved d d' old new := by
  rcases rename_cases h with ⟨b, hb, -, rfl⟩ | ⟨hnone, -, rfl, rfl⟩ | ⟨hnone, -, hne, hfile, hfree, rfl⟩
  · exact moved_file hb
  · exact ⟨fun p _ _ => ⟨rfl, rfl⟩, rfl, fun hne => absurd rfl hne, fun p b hp _ _ => hp⟩
  · exact moved_folder (hapart.resolve_left hne) hnone hfile hfree

/-- Rename what is there, one after another: each pair has the old name and the new one. -/
def moveAll : List (String × String) → Disk → Except String Disk
  | [], d => .ok d
  | m :: r, d => if d.exists? m.1 then d.rename m.1 m.2 >>= moveAll r else moveAll r d

def Clear (m n : String × String) : Prop := ∀ p, Under m.1 p ∨ Under m.2 p → ¬ Under n.1 p ∧ ¬ Under n.2 p

/-- Renamings that do not get into each other's way. -/
structure Slots (moves : List (String × String)) : Prop where
  each : ∀ m ∈ moves, m.1 = m.2 ∨ Apart m.1 m.2
  clear : moves.Pairwise Clear

/-- The effects of several renamings on files. -/
structure MovedAll (d d' : Disk) (moves : List (String × String)) : Prop where
  elsewhere : ∀ p, (∀ m ∈ moves, ¬ Under m.1 p ∧ ¬ Under m.2 p) →
    Value.lookup p d'.files = Value.lookup p d.files ∧ d'.hasFolder p = d.hasFolder p
  delivered : ∀ m ∈ moves, Value.lookup m.2 d'.files =
    if d.exists? m.1 = true then Value.lookup m.1 d.files else Value.lookup m.2 d.files
  gone : ∀ m ∈ moves, m.1 ≠ m.2 → d.exists? m.1 = true → ∀ p, d.Carries m.1 p → Value.lookup p d'.files = none
  kept : ∀ p b, Value.lookup p d.files = some b →
    (∀ m ∈ moves, p ≠ m.2 ∧ (d.exists? m.1 = true → m.1 = m.2 ∨ ¬ d.Carries m.1 p)) → Value.lookup p d'.files = some b

variable {e : Disk} {m : String × String} {r : List (String × String)}

theorem movedAll_single (hapart : m.1 = m.2 ∨ Apart m.1 m.2)
    (h : if d.exists? m.1 = true then d.rename m.1 m.2 = .ok e else e = d) : MovedAll d e [m] := by
  by_cases hex : d.exists? m.1 = true
  · rw [if_pos hex] at h
    obtain ⟨helsewhere, hdelivered, hgone, hkept⟩ := moved_of_rename h hapart
    constructor
    · simpa using helsewhere
    · simpa [hex] using hdelivered
    · simpa [hex] using hgone
    · simpa [hex] using hkept
  · rw [if_neg hex] at h
    subst h
    exact ⟨fun p _ => ⟨rfl, rfl⟩, by simp [hex], by simp [hex], fun p b hp _ => hp⟩

theorem MovedAll.same_of_clear {n : String × String} (h : MovedAll d e [m]) (hclear : Clear m n) :
    (e.exists? n.1 = d.exists? n.1 ∧ ∀ p, e.Carries n.1 p ↔ d.Carries n.1 p) ∧
      Value.lookup n.1 e.files = Value.lookup n.1 d.files ∧ Value.lookup n.2 e.files = Value.lookup n.2 d.files := by
  have hmiss : ∀ p, Under n.1 p ∨ Under n.2 p → ∀ k ∈ [m], ¬ Under k.1 p ∧ ¬ Under k.2 p := by
    intro p hp k hk
    obtain rfl := mem_singleton.mp hk
    rw [← not_or]
    intro hunder
    obtain ⟨hfirst, hsecond⟩ := hclear p hunder
    exact hp.elim hfirst hsecond
  obtain ⟨hfile, hfolder⟩ := h.elsewhere n.1 (hmiss n.1 (.inl (.inl rfl)))
  have hhas : e.hasFile n.1 = d.hasFile n.1 := by rw [hasFile, hfile, hasFile]
  refine ⟨⟨?_, fun p => ?_⟩, hfile, (h.elsewhere n.2 (hmiss n.2 (.inr (.inl rfl)))).1⟩
  · rw [exists?, hhas, hfolder, exists?]
  · rw [Carries, hhas, Carries]

theorem MovedAll.cons (hone : MovedAll d e [m]) (hrest : MovedAll e d' r) (hclear : ∀ n ∈ r, Clear m n) :
    MovedAll d d' (m :: r) := by
  have hmiss : ∀ p, Under m.1 p ∨ Under m.2 p → ∀ n ∈ r, ¬ Under n.1 p ∧ ¬ Under n.2 p := fun p hp n hn => hclear n hn p hp
  constructor
  · intro p hp
    obtain ⟨hfile, hfolder⟩ := hone.elsewhere p fun k hk => hp k (mem_singleton.mp hk ▸ mem_cons_self)
    obtain ⟨hfile', hfolder'⟩ := hrest.elsewhere p fun n hn => hp n (mem_cons_of_mem m hn)
    exact ⟨hfile'.trans hfile, hfolder'.trans hfolder⟩
  · intro n hn
    rcases mem_cons.mp hn with rfl | hn
    · rw [(hrest.elsewhere n.2 (hmiss n.2 (.inr (.inl rfl)))).1]
      exact hone.delivered n mem_cons_self
    · obtain ⟨⟨hexists, -⟩, hfirst, hsecond⟩ := hone.same_of_clear (hclear n hn)
      rw [hrest.delivered n hn, hexists, hfirst, hsecond]
  · -- what the first renaming takes away cannot come back: the others have nothing to do with its place
    intro n hn hne hex p hp
    rcases mem_cons.mp hn with rfl | hn
    · rw [(hrest.elsewhere p (hmiss p (.inl hp.under))).1]
      exact hone.gone n mem_cons_self hne hex p hp
    · obtain ⟨⟨hexists, hcarries⟩, -⟩ := hone.same_of_clear (hclear n hn)
      exact hrest.gone n hn hne (hexists.trans hex) p ((hcarries p).mpr hp)
  · intro p b hp hall
    have hfirst : Value.lookup p e.files = some b :=
      hone.kept p b hp fun k hk => hall k (mem_singleton.mp hk ▸ mem_cons_self)
    refine hrest.kept p b hfirst fun n hn => ?_
    obtain ⟨⟨hexists, hcarries⟩, -⟩ := hone.same_of_clear (hclear n hn)
    obtain ⟨hne, hcarried⟩ := hall n (mem_cons_of_mem m hn)
    refine ⟨hne, fun hex => ?_⟩
    rw [hcarries]
    exact hcarried (hexists.symm.trans hex)

/-- **Several renamings.** The induction is on the renamings that are left; those before them are clear of them. -/
theorem movedAll_of_moveAll {moves : List (String × String)} (h : moveAll moves d = .ok d') (hslots : Slots moves) :
    MovedAll d d' moves := by
  induction moves generalizing d with
  | nil =>
    cases h
    constructor <;> simp
  | cons m r ih =>
    obtain ⟨hclear, hpairwise⟩ := pairwise_cons.mp hslots.clear
    have hrest : Slots r := ⟨fun n hn => hslots.each n (mem_cons_of_mem m hn), hpairwise⟩
    -- the disk between the first renaming, made or not, and the others
    have hstep : ∃ e, (if d.exists? m.1 = true then d.rename m.1 m.2 = .ok e else e = d) ∧ moveAll r e = .ok d' := by
      rw [moveAll] at h
      by_cases hex : d.exists? m.1 = true
      · rw [if_pos hex] at h
        obtain ⟨e, he, h⟩ := bind_eq_ok.mp h
        exact ⟨e, by rw [if_pos hex]; exact he, h⟩
      · rw [if_neg hex] at h
        exact ⟨d, by rw [if_neg hex], h⟩
    obtain ⟨e, hone, h⟩ := hstep
    exact (movedAll_single (hslots.each m mem_cons_self) hone).cons (ih h hrest) hclear

end RemoteSensing.Disk
