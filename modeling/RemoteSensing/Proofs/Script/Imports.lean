import RemoteSensing.Proofs.Script.Inert
import RemoteSensing.Script.Notebook

/-!
The imports of a converted script, and a script without them.
-/

namespace RemoteSensing.Script

open Line List Session
open Chars (plainNewlines plainNewlines_append plainNewlines_cons)

theorem newline_reached {o : Options} {start q : Progress} {k : Nat} (hstart : start.output.getLast? = some '\n')
    (h : reached o start k = .ok (some q)) : q.output.getLast? = some '\n' := by
  refine reached_keeps (P := fun p => p.output.getLast? = some '\n') (fun _ hstep => ?_) rfl hstart (Nat.zero_le k) h
  obtain ⟨p', l', rfl, -⟩ := lineStep_eq_putOut hstep
  unfold putOut
  split <;> exact getLast?_concat

def importedAbove (lines : List Line) : List Line :=
  "import ee ".toList :: if usesMath lines then ["import math".toList] else []

def imported (lines : List Line) : List Char :=
  ((importedAbove lines).map (· ++ ['\n'])).flatten ++ "from ee_plugin import Map".toList

theorem imported_prefix_preamble (lines : List Line) : imported lines <+: preamble {} lines := by
  refine ⟨"\n\n".toList, ?_⟩
  rw [imported, importedAbove, preamble]
  cases usesMath lines <;> rfl

/-- **What a conversion writes**: the imports, the lines of the script, and the map. -/
theorem convertScript_eq_imported {path : String} {lines : List Line} {w v : World} {cs : List Char}
    (hnew : isConverted lines = false) (h : (convertScript {} path "" lines).runIn w = (.ok (some cs), v)) :
    ∃ r, cs = imported lines ++ (r ++ ['m']) ∧ '\n' ∈ r := by
  rcases hhoist : (hoist (unindent lines)).runIn w with ⟨e | hoisted, u⟩
  · unfold convertScript at h
    rw [hnew, if_neg Bool.false_ne_true] at h
    rw [runIn_bind_of_error hhoist] at h
    cases h
  · obtain ⟨t, hrun, -⟩ := convertScript_reached sound_default path "" lines w hnew hhoist
    rw [hrun] at h
    obtain ⟨found, hend, hcs⟩ := map_eq_ok.mp (congrArg Prod.fst h)
    obtain ⟨p, rfl, rfl⟩ := Option.map_eq_some_iff.mp hcs
    have hprefix : imported lines <+: p.output := by
      have hsplit : imported lines = (imported lines).dropLast ++ ['p'] := by
        rw [imported, dropLast_append_of_ne_nil (by decide), append_assoc]
        rfl
      rw [hsplit]
      refine reached_keeps (P := fun p => _ <+: p.output) (prefix_lineStep (by decide)) rfl ?_ (Nat.zero_le _) hend
      rw [← hsplit, begun_output]
      exact imported_prefix_preamble lines
    have hlast : p.output.getLast? = some '\n' := by
      refine newline_reached ?_ hend
      obtain ⟨a, ha⟩ := preamble_eq {} lines
      rw [begun_output, ha]
      exact getLast?_concat
    obtain ⟨r, hr⟩ := hprefix
    refine ⟨r, by rw [← hr, append_assoc]; rfl, ?_⟩
    rw [← hr, imported, append_assoc, getLast?_append, getLast?_append] at hlast
    cases hlastr : r.getLast? with
    | none => simp [hlastr] at hlast
    | some c =>
      have hc : c = '\n' := by simpa [hlastr] using hlast
      exact hc ▸ mem_of_getLast? hlastr

theorem plainNewlines_concat {c : Char} (hc : c ≠ '\n' ∧ c ≠ '\r') (s : List Char) :
    plainNewlines (s ++ [c]) = plainNewlines s ++ [c] := by
  fun_induction plainNewlines s with
  | case1 => exact plainNewlines_append (a := [c]) (by simp [hc.2.symm]) []
  | case2 r ih => exact congrArg ('\n' :: ·) ih
  | case3 r hr ih =>
    rw [cons_append, plainNewlines, ih]
    · rfl
    · intro r' heq
      cases r with
      | nil => exact hc.1 (cons.inj heq).1
      | cons x r => exact hr r (by rw [(cons.inj heq).1])
  | case4 x r hx hx' ih =>
    rw [cons_append, plainNewlines_cons hx', ih, cons_append]

theorem newline_mem_plainNewlines {s : List Char} (h : '\n' ∈ s) : '\n' ∈ plainNewlines s := by
  fun_induction plainNewlines s with
  | case1 => exact h
  | case2 r ih => exact mem_cons_self
  | case3 r hr ih => exact mem_cons_self
  | case4 c r hc hc' ih =>
    rcases mem_cons.mp h with rfl | h
    · exact mem_cons_self
    · exact mem_cons_of_mem c (ih h)

theorem skipBlank_eq_ok {ls : List Line} (h : ∃ l ∈ ls, trim l ≠ []) :
    ∃ blanks l rest, skipBlank ls = .ok (l :: rest) ∧ ls = blanks ++ l :: rest ∧ (∀ b ∈ blanks, trim b = []) ∧
      trim l ≠ [] := by
  induction ls with
  | nil => simp at h
  | cons l r ih =>
    by_cases hl : trim l = []
    · obtain ⟨blanks, k, rest, hskip, hr, hblanks, hk⟩ := ih (by simpa [hl] using h)
      refine ⟨l :: blanks, k, rest, ?_, by rw [hr, cons_append], by simpa [hl] using hblanks, hk⟩
      rw [skipBlank, hl]
      exact hskip
    · refine ⟨[], l, r, ?_, rfl, by simp, hl⟩
      rw [skipBlank, if_neg (by simpa using hl)]

theorem store_eq_ok {target s : String} {w v : World} (h : (store target s).runIn w = (.ok (), v)) :
    (readText target).runIn v = (.ok (Text.plainNewlines s), v) := by
  obtain ⟨there, u, -, h⟩ := runIn_bind_ok.mp h
  have hwrite : ∃ u', (writeText target s).runIn u' = (.ok (), v) := by
    cases there with
    | true => exact ⟨u, h⟩
    | false =>
      obtain ⟨_, u', -, h⟩ := runIn_bind_ok.mp h
      exact ⟨u', h⟩
  obtain ⟨u', h⟩ := hwrite
  obtain ⟨hplaceable, rfl⟩ := writeBody_eq_ok h
  exact runIn_readText (b := .text s) hplaceable.path hplaceable.plain (Disk.lookup_write _ _ _)

theorem afterImport_append {m : String} {above : List Line} (h : ∀ l ∈ above,
    has l "from ee_plugin import Map" = false ∧ has l (m ++ " = geemap.Map()") = false) (r : List Line) :
    afterImport m (above ++ r) = afterImport m r := by
  induction above with
  | nil => rfl
  | cons l above ih =>
    obtain ⟨hl, habove⟩ := forall_mem_cons.mp h
    rw [cons_append, afterImport, hl.1, hl.2]
    exact ih habove

theorem afterImport_imported (lines : List Line) {r : List Char} (hr : '\n' ∈ r) (hlast : r.getLast? = some 'm') :
    ∃ above imp blanks l rest, afterImport "m" (Chars.lines (imported lines ++ r)) = .ok (some (l :: rest)) ∧
      Chars.lines (imported lines ++ r) = above ++ imp :: (blanks ++ l :: rest) ∧
      (∀ k ∈ above, k = "import ee \n".toList ∨ k = "import math\n".toList) ∧
      "from ee_plugin import Map".toList <+: imp ∧ (∀ b ∈ blanks, trim b = []) ∧ trim l ≠ [] := by
  obtain ⟨x, y, rfl, hx⟩ := eq_append_cons_of_mem hr
  have hlines : Chars.lines (imported lines ++ (x ++ '\n' :: y)) =
      (importedAbove lines).map (· ++ ['\n']) ++ ("from ee_plugin import Map".toList ++ x ++ ['\n']) :: Chars.lines y := by
    have hfirst : '\n' ∉ "from ee_plugin import Map".toList ++ x := by
      rw [mem_append, not_or]
      exact ⟨by decide, hx⟩
    rw [imported, append_assoc, Chars.lines_flatten_append, ← append_assoc "from ee_plugin import Map".toList]
    · exact congrArg (_ ++ ·) (Chars.linesFrom_append hfirst [] y)
    · rw [importedAbove]
      cases usesMath lines <;> decide
  have habove : ∀ k ∈ (importedAbove lines).map (· ++ ['\n']), k = "import ee \n".toList ∨ k = "import math\n".toList := by
    rw [importedAbove]
    cases usesMath lines <;> decide
  -- the last line has a character that is not blank
  obtain ⟨k, hk, hmap⟩ : ∃ k ∈ Chars.lines y, 'm' ∈ k := by
    rw [← mem_flatten, Chars.flatten_lines]
    rw [getLast?_append, getLast?_cons] at hlast
    cases hy : y.getLast? with
    | none => simp [hy] at hlast
    | some c =>
      have hc : c = 'm' := by simpa [hy] using hlast
      exact hc ▸ mem_of_getLast? hy
  have hvisible : trim k ≠ [] := fun h => absurd (trim_eq_nil_iff.mp h 'm' hmap) (by decide)
  obtain ⟨blanks, l, rest, hskip, hy, hblanks, hl⟩ := skipBlank_eq_ok ⟨k, hk, hvisible⟩
  have hfound : has ("from ee_plugin import Map".toList ++ x ++ ['\n']) "from ee_plugin import Map" = true := by
    exact Chars.contains_iff.mpr (prefix_append _ _).isInfix
  refine ⟨_, _, blanks, l, rest, ?_, by rw [hlines, hy], habove, ?_, hblanks, hl⟩
  · rw [hlines, afterImport_append, afterImport, hfound, if_pos rfl, hskip]
    · rfl
    · intro k hk
      rcases habove k hk with rfl | rfl <;> decide
  · exact prefix_append _ _

theorem call_afterImport (target : String) :
    afterImportCommand.call [.str target] [] = linesOfFile target >>= fun ls =>
      (liftM (afterImport "m" ls) : Session (Option (List Line))) >>= fun found =>
        match found with
        | some r => pure (linesValue r)
        | none => pure .null := rfl

/-- **The imports are left out.** When a script that imports nothing yet is converted, what is read back of the file that
was written, without its imports, is always there: it begins with a line that is not blank, and above it there are only
the imports and blank lines. -/
theorem imports_left_out {source target script text : String} {w v : World}
    (hread : (readText (Path.absolute source)).runIn w = (.ok script, w))
    (hnew : ∀ l ∈ Chars.lines script.toList, trim l ≠ "import ee".toList)
    (hrun : (convertCommand.call (request {} source target)).runIn w = (.ok (.str text), v)) :
    ∃ above imp blanks l rest,
      (afterImportCommand.call [.str (placed w.disk target)]).runIn v = (.ok (linesValue (l :: rest)), v) ∧
      Chars.lines (Text.plainNewlines text).toList = above ++ imp :: (blanks ++ l :: rest) ∧
      (∀ k ∈ above, k = "import ee \n".toList ∨ k = "import math\n".toList) ∧
      "from ee_plugin import Map".toList <+: imp ∧ (∀ b ∈ blanks, trim b = []) ∧ trim l ≠ [] := by
  have hconverted : isConverted (Chars.lines script.toList) = false := by
    rw [isConverted, any_eq_false]
    simpa using hnew
  rw [call_request, convertFile_eq sound_default, bind_assoc, runIn_bind_of_ok (runIn_get w), bind_assoc,
    runIn_bind_of_ok hread, bind_assoc] at hrun
  obtain ⟨found, u, hscript, hrun⟩ := runIn_bind_ok.mp hrun
  cases found with
  | none => cases hrun
  | some cs =>
    dsimp only at hrun
    rw [bind_assoc] at hrun
    obtain ⟨_, u', hstore, hrun⟩ := runIn_bind_ok.mp hrun
    cases hrun
    obtain ⟨r, rfl, hr⟩ := convertScript_eq_imported hconverted hscript
    -- the imports have no carriage returns, so they are read as they were written
    have hplain : (Text.plainNewlines (String.ofList (imported (Chars.lines script.toList) ++ (r ++ ['m'])))).toList =
        imported (Chars.lines script.toList) ++ (plainNewlines r ++ ['m']) := by
      rw [Text.plainNewlines, String.toList_ofList, String.toList_ofList, plainNewlines_append,
        plainNewlines_concat (by decide)]
      rw [imported, importedAbove]
      cases usesMath (Chars.lines script.toList) <;> decide
    obtain ⟨above, imp, blanks, l, rest, hafter, hlines⟩ := afterImport_imported (Chars.lines script.toList)
      (r := plainNewlines r ++ ['m']) (mem_append_left _ (newline_mem_plainNewlines hr)) getLast?_concat
    refine ⟨above, imp, blanks, l, rest, ?_, by rw [hplain]; exact hlines⟩
    rw [← hplain] at hafter
    rw [call_afterImport, linesOfFile, bind_assoc, runIn_bind_of_ok (store_eq_ok hstore), pure_bind, hafter]
    rfl

theorem imports_left_out_chain :
    (readText (Path.absolute "in.js")).runIn (deskWith ".b") = (.ok ".b", deskWith ".b") ∧
    (∀ l ∈ Chars.lines ".b".toList, trim l ≠ "import ee".toList) ∧
    ∃ v, (convertCommand.call (request {} "in.js" "<TMP>/out.py")).runIn (deskWith ".b") =
        (.ok (.str "import ee \nfrom ee_plugin import Map \\\n.b\nm"), v) ∧
      ∃ l rest, (afterImportCommand.call [.str "<TMP>/out.py"]).runIn v = (.ok (linesValue (l :: rest)), v) ∧
        trim l ≠ [] := by
  have hread : (readText (Path.absolute "in.js")).runIn (deskWith ".b") = (.ok ".b", deskWith ".b") := rfl
  have hnew : ∀ l ∈ Chars.lines ".b".toList, trim l ≠ "import ee".toList := by decide
  obtain ⟨v, hrun⟩ : ∃ v, (convertCommand.call (request {} "in.js" "<TMP>/out.py")).runIn (deskWith ".b") =
      (.ok (.str "import ee \nfrom ee_plugin import Map \\\n.b\nm"), v) := ⟨_, rfl⟩
  obtain ⟨_, _, _, l, rest, hafter, -, -, -, -, hl⟩ := imports_left_out hread hnew hrun
  exact ⟨hread, hnew, v, hrun, l, rest, hafter, hl⟩

end RemoteSensing.Script
