import RemoteSensing.DecisionTree
import RemoteSensing.Proofs.Path
import RemoteSensing.Proofs.Session.Files

/-!
Listings that are kept in a file and listings that are kept in an asset.
-/

namespace RemoteSensing

open List Value Chars Session RemoteSensing.Path Kind Text

variable {s : List Char} {listings : List String} {w : World}

namespace Chars

theorem replace_replace_char {a b : Char} (hb : b ∉ s) : replace [b] [a] (replace [a] [b] s) = s := by
  rw [replace_char, replace_char, map_map]
  refine (map_congr_left fun c hc => ?_).trans (map_id s)
  have hcb : c ≠ b := fun heq => hb (heq ▸ hc)
  by_cases hca : c = a
  · simp [hca]
  · simp [hca, hcb]

theorem trim_line (hfirst : ∀ c ∈ s.head?, isBlank c = false) (hlast : ∀ c ∈ s.getLast?, isBlank c = false) :
    trim (s ++ ['\n']) = s := by
  cases s with
  | nil => decide
  | cons c r =>
    have hc : isBlank c = false := hfirst c (by simp)
    have hleft : trimLeft (c :: r ++ ['\n']) = c :: r ++ ['\n'] := by
      rw [trimLeft, cons_append, dropWhile_cons_of_neg (by simp [hc])]
    have hne : c :: r ≠ [] := cons_ne_nil c r
    have hcut := dropLast_concat_getLast hne
    have hblank : isBlank ((c :: r).getLast hne) = false := hlast _ (getLast_mem_getLast? hne)
    rw [trim, hleft, trimRight_append_blank (by decide), ← hcut, trimRight_concat hblank]

end Chars

namespace DecisionTree

/-- A listing that comes back as it was from a line of its own. -/
structure Keepable (listing : String) : Prop where
  signless : '#' ∉ listing.toList
  returnless : '\r' ∉ listing.toList
  first : ∀ c ∈ listing.toList.head?, isBlank c = true → c = '\n'
  last : ∀ c ∈ listing.toList.getLast?, isBlank c = true → c = '\n'

theorem toList_oneLine (l : String) : (oneLine l).toList = l.toList.map fun c => if c = '\n' then '#' else c := by
  rw [oneLine, Text.replace, String.toList_ofList]
  exact replace_char '\n' '#' l.toList

theorem newline_not_mem_oneLine (l : String) : '\n' ∉ (oneLine l).toList := by
  rw [toList_oneLine, mem_map]
  rintro ⟨c, -, hc⟩
  by_cases h : c = '\n'
  · rw [if_pos h] at hc
    cases hc
  · rw [if_neg h] at hc
    exact h hc

variable {l : String}

theorem Keepable.not_blank {c : Char} (h : isBlank c = true → c = '\n') : isBlank (if c = '\n' then '#' else c) = false := by
  by_cases hc : c = '\n'
  · rw [if_pos hc]
    decide
  · rw [if_neg hc, Bool.eq_false_iff]
    exact fun hblank => hc (h hblank)

theorem Keepable.trim_line (h : Keepable l) : Chars.trim ((oneLine l).toList ++ ['\n']) = (oneLine l).toList := by
  rw [toList_oneLine]
  refine Chars.trim_line ?_ ?_
  · intro c hc
    rw [head?_map] at hc
    obtain ⟨x, hx, rfl⟩ := Option.map_eq_some_iff.mp hc
    exact not_blank (h.first x hx)
  · intro c hc
    rw [getLast?_map] at hc
    obtain ⟨x, hx, rfl⟩ := Option.map_eq_some_iff.mp hc
    exact not_blank (h.last x hx)

theorem Keepable.return_not_mem (h : Keepable l) : '\r' ∉ (oneLine l).toList := by
  rw [toList_oneLine, mem_map]
  rintro ⟨c, hmem, hc⟩
  by_cases hfeed : c = '\n'
  · rw [if_pos hfeed] at hc
    cases hc
  · rw [if_neg hfeed] at hc
    exact h.returnless (hc ▸ hmem)

theorem Keepable.restored (h : Keepable l) : Text.replace (oneLine l) "#" "\n" = l := by
  have hline : (oneLine l).toList = replace ['\n'] ['#'] l.toList := String.toList_ofList
  have hback : replace ['#'] ['\n'] (replace ['\n'] ['#'] l.toList) = l.toList :=
    replace_replace_char h.signless
  rw [← String.toList_inj, Text.replace, String.toList_ofList, hline]
  exact hback

theorem toList_stored (listings : List String) :
    (stored listings).toList = ((listings.map fun l => (oneLine l).toList).map (· ++ ['\n'])).flatten := by
  have hflat : ∀ parts : List (List Char), intercalate [] parts = parts.flatten := by
    intro parts
    induction parts with
    | nil => rfl
    | cons p r ih =>
      rw [flatten_cons, ← ih]
      cases r with
      | nil => simp
      | cons q r' => rw [intercalate_cons_cons, append_nil]
  have hline : String.toList ∘ (fun l => oneLine l ++ "\n") = (· ++ ['\n']) ∘ fun l => (oneLine l).toList := by
    funext l
    rw [Function.comp_apply, String.toList_append]
    rfl
  rw [stored, Text.join, String.toList_intercalate, map_map, map_map, hline]
  exact hflat _

/-- **A file that keeps listings has their lines.** -/
theorem storedLines_stored (h : ∀ l ∈ listings, Keepable l) :
    storedLines (Text.plainNewlines (stored listings)) = listings.map oneLine := by
  have hreturn : '\r' ∉ (stored listings).toList := by
    rw [toList_stored, mem_flatten]
    rintro ⟨line, hline, hmem⟩
    rw [map_map] at hline
    obtain ⟨l, hl, rfl⟩ := mem_map.mp hline
    have hmem : '\r' ∈ (oneLine l).toList := by simpa using hmem
    exact (h l hl).return_not_mem hmem
  have hplain : Text.plainNewlines (stored listings) = stored listings := by
    rw [Text.plainNewlines, plainNewlines_of_not_mem hreturn, String.ofList_toList]
  have hlines : Chars.lines (stored listings).toList =
      (listings.map fun l => (oneLine l).toList).map (· ++ ['\n']) := by
    rw [toList_stored, lines_flatten]
    intro k hk
    obtain ⟨l, -, rfl⟩ := mem_map.mp hk
    exact newline_not_mem_oneLine l
  rw [hplain, storedLines, Text.lines, hlines, map_map, map_map, map_map]
  refine map_congr_left fun l hl => ?_
  simp only [Function.comp_apply]
  rw [Text.trim, String.toList_ofList, (h l hl).trim_line, String.ofList_toList]

def handOver (features : List Data) : Session Data := do
  let _ ← submit nowhere
  let handed ← features.mapM fun f => submit f
  submit (featureCollection.make [.list handed])

def exportCollection (asset description collection : Data) : Session Data := do
  let task ← submit (.static .exports ["table", "toAsset"] []
    [("collection", collection), ("description", description), ("assetId", asset)])
  start task
  pure .null

def features (listings : List String) : List Data := listings.map fun l => listingFeature (oneLine l)

theorem call_export (listings : List String) (asset description : Data) :
    exportCommand.call [.list (listings.map .str), asset, description] [] =
      handOver (features listings) >>= exportCollection asset description := by
  have hcall : exportCommand.call [.list (listings.map .str), asset, description] [] = (do
      let _ ← submit nowhere
      let handed ← (listings.map str).mapM fun t => do
        submit (listingFeature (← (oneLineOf t : Except Fault String)))
      let collection ← submit (featureCollection.make [.list handed])
      exportCollection asset description collection) := rfl
  have hline : (fun t : Data => do submit (listingFeature (← (oneLineOf t : Except Fault String)))) ∘ str =
      (fun f => submit f) ∘ fun l => listingFeature (oneLine l) := rfl
  rw [hcall, handOver, features, mapM_map, mapM_map, hline]
  simp only [bind_assoc]

theorem runIn_read {q content : String} (hread : (readText q).runIn w = (.ok content, w)) :
    (readCommand.call [.str q]).runIn w =
      (handOver ((storedLines content).map listingFeature) >>= fun c => submit (ofFeatures c)).runIn w := by
  have hattempt : (attempt (readText q)).runIn w = (.ok (.ok content), w) := by
    rw [attempt, runIn_tryCatch, runIn_bind_of_ok hread, runIn_pure]
  -- the attempt is looked at, and a content is handed over
  obtain ⟨next, hcall, hnext⟩ : ∃ next : Except Fault String → Session Data,
      readCommand.call [.str q] [] = attempt (readText q) >>= next ∧ next (.ok content) = (do
        let _ ← submit nowhere
        let handed ← (storedLines content).mapM fun l => submit (listingFeature l)
        let collection ← submit (featureCollection.make [.list handed])
        submit (ofFeatures collection)) := ⟨_, rfl, rfl⟩
  rw [hcall, runIn_bind_of_ok hattempt, hnext, handOver, mapM_map]
  simp only [bind_assoc]
  rfl

theorem call_write (listings : List String) (p : String) :
    writeCommand.call [.list (listings.map .str), .str p] [] = (do
      writeText (absolute p) ""
      writeText (absolute p) (stored listings)
      pure .null) := by
  obtain ⟨a, hbind, htrees, hpath⟩ : ∃ a, writeCommand.bind [.list (listings.map .str), .str p] [] = .ok a ∧
      a "trees" = .list (listings.map .str) ∧ a "out_csv" = .str p := ⟨_, rfl, rfl, rfl⟩
  have hlift : ∀ {α : Type} (x : α), (liftM (Except.ok x : Except Fault α) : Session α) = pure x := fun _ => rfl
  have htexts : ((listings.map str).mapM fun t : Data => (liftM (t.strOf "replace") : Session String)) =
      pure listings := by
    -- with `id`, for `mapM_pure` to find the function that is mapped
    have hpure : ((fun t : Data => (liftM (t.strOf "replace") : Session String)) ∘ str) = fun l => pure (id l) := rfl
    rw [mapM_map, hpure, mapM_pure, map_id]
  rw [Command.call, hbind]
  simp only [writeCommand, htrees, hpath, pathOf, elements, hlift, pure_bind]
  rw [htexts]
  simp only [pure_bind]

def writtenTo (p : String) (listings : List String) (w : World) : World :=
  { w with disk := (w.disk.write (absolute p) (.text "")).write (absolute p) (.text (stored listings)) }

theorem runIn_write {p : String} (h : Placeable w.disk (absolute p)) (listings : List String) :
    (writeCommand.call [.list (listings.map .str), .str p]).runIn w = (.ok .null, writtenTo p listings w) := by
  have hagain : Placeable (w.disk.write (absolute p) (.text "")) (absolute p) :=
    ⟨h.path, h.named, h.free, h.folder, h.plain⟩
  have hfirst := runIn_writeText h ""
  rw [absolute_absolute] at hfirst
  rw [call_write, runIn_bind_of_ok hfirst]
  refine (runIn_bind_of_ok (runIn_writeText ?_ _) _).trans ?_
  · exact hagain
  · rw [runIn_pure, absolute_absolute]
    rfl

theorem lookup_writtenTo (p : String) (listings : List String) (w : World) :
    Value.lookup (absolute p) (writtenTo p listings w).disk.files = some (.text (stored listings)) :=
  Disk.lookup_write _ _ _

theorem verifyAll_eq_ok {xs : List Data} (h : ∀ x ∈ xs, verify [] x = .ok ()) : verifyAll [] xs = .ok () := by
  induction xs with
  | nil => rw [verifyAll]
  | cons x r ih =>
    rw [verifyAll, h x mem_cons_self]
    exact ih fun y hy => h y (mem_cons_of_mem x hy)

theorem verify_feature {f : Data} (h : f ∈ features listings) : verify [] f = .ok () := by
  obtain ⟨l, -, rfl⟩ := mem_map.mp h
  rfl

def collected (listings : List String) : Data := featureCollection.make [.list (features listings)]

theorem verify_collected (listings : List String) : verify [] (collected listings) = .ok () := by
  have hfeatures : verifyAll [] (features listings) = .ok () := verifyAll_eq_ok fun f hf => verify_feature hf
  have hlist : verifyAll [] [.list (features listings)] = .ok () := by
    rw [verifyAll, verify, hfeatures]
    rfl
  show verify [] (.construct .featureCollection [.list (features listings)] []) = .ok ()
  rw [verify, hlist]
  rfl

theorem runIn_handOver (hw : w.refusals = []) (listings : List String) :
    (handOver (features listings)).runIn w = (.ok (collected listings), w) := by
  have hmap : ∀ fs : List Data, (∀ f ∈ fs, verify [] f = .ok ()) →
      (fs.mapM fun f => submit f).runIn w = (.ok fs, w) := by
    intro fs hfs
    induction fs with
    | nil => rfl
    | cons f r ih =>
      rw [mapM_cons, runIn_bind_of_ok (runIn_submit hw (hfs f mem_cons_self)),
        runIn_bind_of_ok (ih fun g hg => hfs g (mem_cons_of_mem f hg))]
      rfl
  rw [handOver, runIn_bind_of_ok (runIn_submit hw rfl),
    runIn_bind_of_ok (hmap _ fun f hf => verify_feature hf)]
  exact runIn_submit hw (verify_collected listings)

theorem verify_ofFeatures (listings : List String) : verify [] (ofFeatures (collected listings)) = .ok () := by
  have hlines : verify [] ((collected listings).call "aggregate_array" ["tree"]) = .ok () := by
    rw [call, verify, verify_collected]
    rfl
  have hrestored : verify [] (((collected listings).call "aggregate_array" ["tree"]).call "map"
      [each 1 fun x => (string.make [x]).call "replace" ["#", "\n", "g"]]) = .ok () := by
    rw [call, verify, hlines]
    rfl
  rw [ofFeatures, ensemble, fn, verify, verifyAll, hrestored]
  rfl

/-- **A file and an asset keep the same listings.** Listings that can be kept are written to any file that can be
written. Opened under a name `q` for it, the file hands over to the server the features that exporting the listings
hands over: as many, in the same order and with the same texts. A server that refuses nothing makes a classifier of
their collection. Putting line feeds in the place of number signs, which is what the classifier asks for, gives the
listings back. -/
theorem stored_listings_agree {listings : List String} (hkeep : ∀ l ∈ listings, Keepable l) {p q : String} {w : World}
    (hplace : Session.Placeable w.disk (Path.absolute p)) (hfile : Path.absolute q = Path.absolute p)
    (hpath : Session.checkPath q = .ok ()) (hplain : Text.endsWith q "/" = false) :
    (writeCommand.call [.list (listings.map .str), .str p]).runIn w = (.ok .null, writtenTo p listings w) ∧
    (readCommand.call [.str q]).runIn (writtenTo p listings w) =
      (handOver (features listings) >>= fun c => Session.submit (ofFeatures c)).runIn (writtenTo p listings w) ∧
    (∀ asset description, exportCommand.call [.list (listings.map .str), asset, description] [] =
      handOver (features listings) >>= exportCollection asset description) ∧
    (w.refusals = [] → (readCommand.call [.str q]).runIn (writtenTo p listings w) =
      (.ok (ofFeatures (collected listings)), writtenTo p listings w)) ∧
    listings.map (fun l => Text.replace (oneLine l) "#" "\n") = listings := by
  have hwritten : Value.lookup (Path.absolute q) (writtenTo p listings w).disk.files = some (.text (stored listings)) := by
    rw [hfile, lookup_writtenTo]
  have hrun := runIn_read (Session.runIn_readText hpath hplain hwritten)
  rw [Body.toText] at hrun
  rw [storedLines_stored hkeep, map_map] at hrun
  refine ⟨runIn_write hplace listings, hrun, fun asset description => call_export listings asset description, ?_, ?_⟩
  · intro hnone
    have hrefusals : (writtenTo p listings w).refusals = [] := hnone
    rw [hrun]
    refine (runIn_bind_of_ok (runIn_handOver hrefusals listings) _).trans ?_
    exact runIn_submit hrefusals (verify_ofFeatures listings)
  · refine (map_congr_left fun l hl => ?_).trans (map_id listings)
    exact (hkeep l hl).restored

/-- A listing of two lines, one without any line and one of line feeds alone are kept in a file of the working
directory. -/
theorem stored_listings_agree_blank :
    (readCommand.call [.str "./trees.csv"]).runIn (writtenTo "trees.csv" ["1) root 9\n2) *", "", "\n\n"] {}) =
      (.ok (ofFeatures (collected ["1) root 9\n2) *", "", "\n\n"])),
        writtenTo "trees.csv" ["1) root 9\n2) *", "", "\n\n"] {}) := by
  have hkeep : ∀ l ∈ ["1) root 9\n2) *", "", "\n\n"], Keepable l := by
    have hlines : Keepable "1) root 9\n2) *" := ⟨by decide, by decide, by decide, by decide⟩
    have hempty : Keepable "" := ⟨by decide, by decide, by decide, by decide⟩
    have hfeeds : Keepable "\n\n" := ⟨by decide, by decide, by decide, by decide⟩
    simpa using ⟨hlines, hempty, hfeeds⟩
  have hplace : Placeable ({} : World).disk (Path.absolute "trees.csv") :=
    ⟨by decide, by decide, by decide, by decide, by decide⟩
  have hfile : Path.absolute "./trees.csv" = Path.absolute "trees.csv" := by decide
  exact (stored_listings_agree hkeep hplace hfile (by decide) (by decide)).2.2.2.1 rfl

end DecisionTree

end RemoteSensing
