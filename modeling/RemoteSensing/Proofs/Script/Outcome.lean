import RemoteSensing.Proofs.Script.Conversion
import RemoteSensing.Proofs.Script.Flat
import RemoteSensing.Proofs.Session.Files

/-!
What the conversion of a file comes to.
-/

namespace RemoteSensing.Script

open Value String Session RemoteSensing.Session RemoteSensing.Path

variable {o : Options} {target : String} {w : World}

/-- Options of which the library asks nothing impossible: one map at most, and texts where texts are put in. -/
structure Options.Sound (o : Options) : Prop where
  oneMap : (o.desktopMap && o.ownMap) = false
  map : ∃ s, o.map = .str s
  repository : o.repository = .null ∨ ∃ s, o.repository = .str s

def headingOf (o : Options) (path : String) : String :=
  match published o path with
  | .ok s => s
  | .error _ => ""

def lastLine (o : Options) : List Char :=
  match ending o with
  | .ok l => l
  | .error _ => []

namespace Options.Sound

variable {o : Options} (h : o.Sound)

include h

theorem published_eq (path : String) : published o path = .ok (headingOf o path) := by
  have hok : ∃ s, published o path = .ok s := by
    unfold published
    rcases h.repository with hnull | ⟨s, hs⟩
    · rw [hnull]
      exact ⟨_, rfl⟩
    · rw [hs]
      exact ⟨_, rfl⟩
  obtain ⟨s, hs⟩ := hok
  rw [headingOf, hs]

theorem ending_eq : ending o = .ok (lastLine o) := by
  have hok : ∃ l, ending o = .ok l := by
    unfold ending
    obtain ⟨s, hs⟩ := h.map
    rw [hs]
    cases o.showMap with
    | true => exact ⟨_, rfl⟩
    | false => exact ⟨_, rfl⟩
  obtain ⟨l, hl⟩ := hok
  rw [lastLine, hl]

end Options.Sound

def begun (o : Options) (heading : String) (lines hoisted : List Line) : Progress where
  lines := hoisted
  output := (heading ++ "import ee \n" ++ (if usesMath lines then "import math\n" else "") ++ imports o ++ "\n").toList

def Reaches (o : Options) (heading : String) (lines : List Line) (w : World) (i : Nat) (p : Progress) : Prop :=
  isConverted lines = false ∧ ∃ hoisted v, (hoist (unindent lines)).runIn w = (.ok hoisted, v) ∧ i < hoisted.length ∧
    reached o (begun o heading lines hoisted) i = .ok (some p)

/-- Why a conversion goes wrong. -/
inductive Raises (o : Options) (heading : String) (lines : List Line) (w : World) : Fault → Prop where
  | cutOff (hnew : isConverted lines = false) (hcut : CutOff (unindent lines) w) :
      Raises o heading lines w (.outOfRange "list")
  | snag {i : Nat} {p : Progress} {e : Fault} (hreaches : Reaches o heading lines w i p) (hsnag : Snag o p i e) :
      Raises o heading lines w e

/-- Line `i`, which is read as `l`, is reached and is a function without a brace. -/
def Refused (o : Options) (heading : String) (lines : List Line) (w : World) (i : Nat) (l : Line) : Prop :=
  ∃ p, Reaches o heading lines w i p ∧ l = bare (p.lines.getD i []) ∧ Unopened p i l

theorem Refused.unique {heading : String} {lines : List Line} {i i' : Nat} {l l' : Line}
    (h : Refused o heading lines w i l) (h' : Refused o heading lines w i' l') : i = i' ∧ l = l' := by
  obtain ⟨p, ⟨-, hoisted, v, hhoist, hi, hreached⟩, hl, hunopened⟩ := h
  obtain ⟨p', ⟨-, hoisted', v', hhoist', hi', hreached'⟩, hl', hunopened'⟩ := h'
  rw [hhoist] at hhoist'
  cases hhoist'
  -- behind the line on which it ends, no line is reached
  have hends : ∀ {j k q q' m}, j < k → k < hoisted.length →
      reached o (begun o heading lines hoisted) j = .ok (some q) → m = bare (q.lines.getD j []) → Unopened q j m →
      reached o (begun o heading lines hoisted) k ≠ .ok (some q') := by
    rintro j k q q' m hjk hk hq rfl hnot hq'
    rw [(reached_none_iff (show k ≤ hoisted.length from Nat.le_of_lt hk)).mpr ⟨j, q, hjk, hq, hnot⟩] at hq'
    cases hq'
  rcases Nat.lt_trichotomy i i' with hlt | rfl | hlt
  · exact absurd hreached' (hends hlt hi' hreached hl hunopened)
  · rw [hreached] at hreached'
    cases hreached'
    exact ⟨rfl, hl.trans hl'.symm⟩
  · exact absurd hreached (hends hlt hi hreached' hl' hunopened')

section Script

variable {o : Options} (hsound : o.Sound) (path heading : String) (lines : List Line) (w : World)

include hsound

theorem convertScript_reached (hnew : isConverted lines = false) {hoisted : List Line} {v : World}
    (hhoist : (hoist (unindent lines)).runIn w = (.ok hoisted, v)) :
    ∃ t, (convertScript o path heading lines).runIn w =
        ((reached o (begun o heading lines hoisted) hoisted.length).map (Option.map fun p => p.output ++ lastLine o),
          { v with printed := v.printed ++ t }) ∧
      (reached o (begun o heading lines hoisted) hoisted.length = .ok none → ∃ i p u, i < hoisted.length ∧
        reached o (begun o heading lines hoisted) i = .ok (some p) ∧ lineStep o p i = .ok none ∧
        t = u ++ unclosedReport path i (bare (p.lines.getD i []))) := by
  obtain ⟨t, htells, hreport⟩ := convertLines_tells o path (begun o heading lines hoisted) hoisted.length
  refine ⟨t, ?_, hreport⟩
  unfold convertScript
  rw [hsound.ending_eq, hnew, if_neg (by decide)]
  rw [runIn_bind_of_ok hhoist]
  change (convertLines o path _ (begun o heading lines hoisted) >>= _).runIn v = _
  rw [runIn_bind, htells v]
  rcases reached o (begun o heading lines hoisted) hoisted.length with e | _ | p <;> rfl

/-- **What the conversion of a script comes to.** -/
theorem convertScript_cases : ∃ r v, (convertScript o path heading lines).runIn w = (r, v) ∧ v.disk = w.disk ∧
    (∀ e, r = .error e ↔ Raises o heading lines w e) ∧ (r = .ok none ↔ ∃ i l, Refused o heading lines w i l) ∧
    ∀ i l, Refused o heading lines w i l → ∃ t, v.printed = w.printed ++ t ++ unclosedReport path i l := by
  cases hconverted : isConverted lines with
  | true =>
    have hnone : ∀ {i p}, ¬ Reaches o heading lines w i p := fun h => absurd (hconverted.symm.trans h.1) (by decide)
    unfold convertScript
    rw [hsound.ending_eq, hconverted]
    refine ⟨_, w, rfl, rfl, fun e => ⟨nofun, ?_⟩, ⟨nofun, ?_⟩, ?_⟩
    · rintro (⟨hnew, -⟩ | ⟨hreach, -⟩)
      · exact absurd (hconverted.symm.trans hnew) (by decide)
      · exact absurd hreach hnone
    · rintro ⟨i, l, p, hreach, -⟩
      exact absurd hreach hnone
    · rintro i l ⟨p, hreach, -⟩
      exact absurd hreach hnone
  | false =>
    have hkeep := hoist_keepsDisk (unindent lines) w
    rcases hoist_cases (unindent lines) w with ⟨hcut, v, hhoist⟩ | ⟨hcut, hoisted, v, hhoist⟩
    · -- no line is reached
      rw [hhoist] at hkeep
      have hnone : ∀ {i p}, ¬ Reaches o heading lines w i p := by
        rintro i p ⟨-, hoisted, v', hrun, -⟩
        rw [hhoist] at hrun
        cases hrun
      have hrun : (convertScript o path heading lines).runIn w = (.error (.outOfRange "list"), v) := by
        unfold convertScript
        rw [hconverted, if_neg (by decide)]
        exact runIn_bind_of_error hhoist _
      refine ⟨_, v, hrun, hkeep.1, fun e => ⟨?_, ?_⟩, ⟨nofun, ?_⟩, ?_⟩
      · rintro ⟨⟩
        exact .cutOff hconverted hcut
      · rintro (⟨-, -⟩ | ⟨hreach, -⟩)
        · rfl
        · exact absurd hreach hnone
      · rintro ⟨i, l, p, hreach, -⟩
        exact absurd hreach hnone
      · rintro i l ⟨p, hreach, -⟩
        exact absurd hreach hnone
    · rw [hhoist] at hkeep
      obtain ⟨hdisk, t, ht⟩ := hkeep
      have hreaches : ∀ {i p}, Reaches o heading lines w i p ↔
          i < hoisted.length ∧ reached o (begun o heading lines hoisted) i = .ok (some p) := by
        intro i p
        constructor
        · rintro ⟨-, hoisted', v', hrun, hi⟩
          rw [hhoist] at hrun
          cases hrun
          exact hi
        · exact fun h => ⟨hconverted, hoisted, v, hhoist, h⟩
      -- both conditions are those of a run over all lines
      have hall : hoisted.length ≤ (begun o heading lines hoisted).lines.length := Nat.le_refl _
      have hrefused : reached o (begun o heading lines hoisted) hoisted.length = .ok none ↔
          ∃ i l, Refused o heading lines w i l := by
        rw [reached_none_iff hall]
        constructor
        · rintro ⟨i, p, hi, hreached, hunopened⟩
          exact ⟨i, _, p, hreaches.mpr ⟨hi, hreached⟩, rfl, hunopened⟩
        · rintro ⟨i, l, p, hreach, rfl, hunopened⟩
          obtain ⟨hi, hreached⟩ := hreaches.mp hreach
          exact ⟨i, p, hi, hreached, hunopened⟩
      obtain ⟨u, hrun, hreport⟩ := convertScript_reached hsound path heading lines w hconverted hhoist
      refine ⟨_, _, hrun, hdisk, fun e => ?_, ?_, fun i l h => ?_⟩
      · rw [map_eq_error, reached_error_iff hall]
        constructor
        · rintro ⟨i, p, hi, hreached, hsnag⟩
          exact .snag (hreaches.mpr ⟨hi, hreached⟩) hsnag
        · rintro (⟨-, hcut'⟩ | ⟨hreach, hsnag⟩)
          · exact absurd hcut' hcut
          · obtain ⟨hi, hreached⟩ := hreaches.mp hreach
            exact ⟨_, _, hi, hreached, hsnag⟩
      · rw [← hrefused, map_eq_ok]
        simp
      · obtain ⟨i', p, u', hi, hreached, hstep, rfl⟩ := hreport (hrefused.mpr ⟨i, l, h⟩)
        have hunopened := (lineStep_none_iff (by rw [length_reached hreached]; exact hi)).mp hstep
        obtain ⟨rfl, rfl⟩ := h.unique ⟨p, hreaches.mpr ⟨hi, hreached⟩, rfl, hunopened⟩
        refine ⟨t ++ u', ?_⟩
        rw [ht]
        simp only [append_assoc]

end Script

def store (target text : String) : Session Unit := do
  let there ← pathExists (folder target)
  unless there do makeFolder (folder target)
  writeText target text

/-- Whatever the text, it can be written where a result for this target goes. -/
def Writable (d : Disk) (target : String) : Prop :=
  ∀ (s : String) (w : World), w.disk = d → ∃ v, (store (placed d target) s).runIn w = (.ok (), v) ∧
    lookup (absolute (placed d target)) v.disk.files = some (.text s)

theorem placed_of_isAbsolute (d : Disk) (h : isAbsolute target = true) : placed d target = target := by
  rw [placed, Path.join, if_pos h]
  exact ite_self target

theorem runIn_store (h : Placeable w.disk target) (hnamed : (folder target).isEmpty = false)
    (hfolder : w.disk.exists? (absolute (folder target)) = true) (s : String) :
    (store target s).runIn w = (.ok (), { w with disk := w.disk.write (absolute target) (.text s) }) := by
  have hthere : (pathExists (folder target)).runIn w = (.ok true, w) := by
    unfold pathExists
    rw [hnamed]
    simp only [runIn_bind, runIn_get, runIn_pure, hfolder, Bool.not_false, Bool.and_self]
  unfold store
  rw [runIn_bind_of_ok hthere]
  exact runIn_writeText h s

theorem writable_of_placeable {d : Disk} (h : Placeable d target) (habsolute : isAbsolute target = true)
    (hnamed : (folder target).isEmpty = false) (hfolder : d.exists? (absolute (folder target)) = true) :
    Writable d target := by
  intro s w hw
  subst hw
  rw [placed_of_isAbsolute _ habsolute]
  exact ⟨_, runIn_store h hnamed hfolder s, Disk.lookup_write _ _ _⟩

theorem convertFile_eq (hsound : o.Sound) (source target : String) :
    convertFile o source target = get >>= fun w => readText (absolute source) >>= fun text =>
      convertScript o (absolute source) (headingOf o (absolute source)) (Chars.lines text.toList) >>= fun r =>
        match r with
        | none => pure none
        | some cs => store (placed w.disk target) (ofList cs) >>= fun _ => pure (some (ofList cs)) := by
  unfold convertFile store
  simp only [hsound.oneMap, hsound.published_eq]
  refine bind_congr fun w => ?_
  show (pure (headingOf o (absolute source)) >>= _ : Session (Option String)) = _
  rw [pure_bind]
  refine bind_congr fun text => bind_congr fun r => ?_
  cases r with
  | none => rfl
  | some cs =>
    dsimp only
    rw [bind_assoc]
    refine bind_congr fun there => ?_
    cases there with
    | true => rfl
    | false => exact (bind_assoc _ _ _).symm

def request (o : Options) (source target : String) : List Data :=
  [.str source, .str target, .bool o.desktopMap, o.repository, .bool o.showMap, .bool o.ownMap, o.map]

def bound (o : Options) (source target : String) : Arguments :=
  ⟨[("in_file", .str source), ("out_file", .str target), ("use_qgis", .bool o.desktopMap),
    ("github_repo", o.repository), ("show_map", .bool o.showMap), ("import_geemap", .bool o.ownMap), ("Map", o.map)], []⟩

theorem truthy_bool (b : Bool) : (bool b : Data).truthy = b := by
  cases b <;> rfl

theorem optionsOf_bound (o : Options) (source target : String) :
    optionsOf (bound o source target) ((bound o source target).get "show_map").truthy = o := by
  obtain ⟨desktopMap, ownMap, showMap, map, repository⟩ := o
  show Options.mk (bool desktopMap : Data).truthy (bool ownMap : Data).truthy
    (bool showMap : Data).truthy map repository = _
  rw [truthy_bool, truthy_bool, truthy_bool]

theorem call_request (o : Options) (source target : String) :
    convertCommand.call (request o source target) [] = convertFile o source target >>= fun r =>
      match r with
      | some s => pure (.str s)
      | none => pure .null := by
  unfold Command.call
  show (pure (bound o source target) >>= _ : Session Data) = _
  exact congrArg (fun p => (convertFile p source target >>= fun r =>
    match r with
    | some s => pure (.str s)
    | none => pure .null : Session Data)) (optionsOf_bound o source target)

def Delivered (target : String) (run : Except Fault Data × World) : Prop :=
  ∃ s, run.1 = .ok (.str s) ∧ lookup (absolute target) run.2.disk.files = some (.text s)

/-- The call gives nothing, leaves the disk as it was, and has printed a report on line `i` last. -/
def Reported (path : String) (i : Nat) (l : Line) (w : World) (run : Except Fault Data × World) : Prop :=
  run.1 = .ok .null ∧ run.2.disk = w.disk ∧ ∃ t, run.2.printed = w.printed ++ t ++ unclosedReport path i l

section Call

variable {o : Options} {source target text : String} {w : World}

def answered : Option (List Char) → Data
  | some cs => .str (ofList cs)
  | none => .null

/-- **What a call comes to**, for a file that can be read and one that can be written. -/
theorem call_eq (hsound : o.Sound) (hread : (readText (absolute source)).runIn w = (.ok text, w))
    (hwrite : Writable w.disk target) {r : Except Fault (Option (List Char))} {v : World}
    (hrun : (convertScript o (absolute source) (headingOf o (absolute source)) (Chars.lines text.toList)).runIn w = (r, v))
    (hdisk : v.disk = w.disk) :
    ∃ u, (convertCommand.call (request o source target)).runIn w = (r.map answered, u) ∧
      (∀ cs, r = .ok (some cs) → lookup (absolute (placed w.disk target)) u.disk.files = some (.text (ofList cs))) ∧
      (r = .ok none → u = v) := by
  rw [call_request, convertFile_eq hsound, bind_assoc, runIn_bind_of_ok (runIn_get w), bind_assoc,
    runIn_bind_of_ok hread, bind_assoc]
  rcases r with e | _ | cs
  · exact ⟨v, runIn_bind_of_error hrun _, nofun, nofun⟩
  · exact ⟨v, runIn_bind_of_ok hrun _, nofun, fun _ => rfl⟩
  · obtain ⟨u, hstore, hfile⟩ := hwrite (ofList cs) v hdisk
    refine ⟨u, ?_, ?_, nofun⟩
    · rw [runIn_bind_of_ok hrun]
      rw [bind_assoc, runIn_bind_of_ok hstore]
      rfl
    · rintro cs ⟨⟩
      exact hfile

/-- **When a conversion has an answer.** For every text: the call gives a text and writes it where results for the target
go, or reports a function without a brace and gives nothing, exactly if no line that is reached has a snag and the script
is not cut off. If it has no answer then the call ends in the fault of the snag. -/
theorem convert_answers_iff (hsound : o.Sound)
    (hread : (Session.readText (Path.absolute source)).runIn w = (.ok text, w)) (hwrite : Writable w.disk target) :
    ((Delivered (placed w.disk target) ((convertCommand.call (request o source target)).runIn w) ∨
        ∃ i l, Reported (Path.absolute source) i l w ((convertCommand.call (request o source target)).runIn w)) ↔
      ¬ ∃ e, Raises o (headingOf o (Path.absolute source)) (Chars.lines text.toList) w e) ∧
    ∀ e, ((convertCommand.call (request o source target)).runIn w).1 = .error e ↔
      Raises o (headingOf o (Path.absolute source)) (Chars.lines text.toList) w e := by
  obtain ⟨r, v, hrun, hdisk, hraises, hrefused, hreport⟩ := convertScript_cases hsound (absolute source)
    (headingOf o (absolute source)) (Chars.lines text.toList) w
  obtain ⟨u, hcall, hfile, hsame⟩ := call_eq hsound hread hwrite hrun hdisk
  simp only [hcall, ← hraises]
  refine ⟨?_, fun e => map_eq_error⟩
  rcases r with e | _ | cs
  · refine iff_of_false ?_ fun h => h ⟨e, rfl⟩
    rintro (⟨s, hs, -⟩ | ⟨i, l, hs, -⟩)
    · cases hs
    · cases hs
  · obtain ⟨i, l, h⟩ := hrefused.mp rfl
    obtain rfl := hsame rfl
    exact iff_of_true (.inr ⟨i, l, rfl, hdisk, hreport i l h⟩) (by rintro ⟨e, ⟨⟩⟩)
  · exact iff_of_true (.inl ⟨_, rfl, hfile cs rfl⟩) (by rintro ⟨e, ⟨⟩⟩)

def deskWith (script : String) : World := { disk := { files := [("<TMP>/in.js", .text script)] } }

theorem sound_default : Options.Sound {} := ⟨rfl, ⟨"m", rfl⟩, Or.inl rfl⟩

theorem readText_deskWith (script : String) :
    (readText (absolute "in.js")).runIn (deskWith script) =
      (.ok (Text.plainNewlines script), deskWith script) := by
  rfl

theorem writable_deskWith (script : String) : Writable (deskWith script).disk "<TMP>/out.py" :=
  writable_of_placeable ⟨rfl, rfl, rfl, rfl, rfl⟩ rfl rfl rfl

/-- A comma at the end of the last line has the converter look at the line below, which is not there. -/
theorem convert_answers_iff_comma :
    Options.Sound {} ∧ Writable (deskWith "a,").disk "<TMP>/out.py" ∧
      Raises {} "" ["a,".toList] (deskWith "a,") (.outOfRange "list") ∧
      ¬ (Delivered "<TMP>/out.py" ((convertCommand.call (request {} "in.js" "<TMP>/out.py")).runIn (deskWith "a,")) ∨
        ∃ i l, Reported "<TMP>/in.js" i l (deskWith "a,")
          ((convertCommand.call (request {} "in.js" "<TMP>/out.py")).runIn (deskWith "a,"))) := by
  have h := convert_answers_iff sound_default (readText_deskWith "a,") (writable_deskWith "a,")
  have hraises : Raises {} "" ["a,".toList] (deskWith "a,") (.outOfRange "list") := (h.2 _).mp rfl
  exact ⟨sound_default, writable_deskWith "a,", hraises, fun hanswer => h.1.mp hanswer ⟨_, hraises⟩⟩

theorem convert_trailing_comma :
    ((convertCommand.call (request {} "in.js" "<TMP>/out.py")).runIn (deskWith "a,")).1 =
      .error (.outOfRange "list") := by
  rfl

/-- **When a conversion is refused.** For every text: the call gives nothing exactly if it reaches a line that opens a
function for which there is no brace. Then it leaves the disk as it was, and reports this line. A function with a brace on
its line is never refused, whether or not the brace is closed. -/
theorem convert_refuses_iff (hsound : o.Sound)
    (hread : (Session.readText (Path.absolute source)).runIn w = (.ok text, w)) (hwrite : Writable w.disk target) :
    (((convertCommand.call (request o source target)).runIn w).1 = .ok .null ↔
      ∃ i l, Refused o (headingOf o (Path.absolute source)) (Chars.lines text.toList) w i l) ∧
    (∀ i l, Refused o (headingOf o (Path.absolute source)) (Chars.lines text.toList) w i l →
      Reported (Path.absolute source) i l w ((convertCommand.call (request o source target)).runIn w)) ∧
    ∀ (p : Progress) (i : Nat), '\x7b' ∈ p.lines.getD i [] → bare (p.lines.getD i []) = p.lines.getD i [] →
      ¬ Unopened p i (bare (p.lines.getD i [])) := by
  have hown : ∀ (p : Progress) (i : Nat), '\x7b' ∈ p.lines.getD i [] → bare (p.lines.getD i []) = p.lines.getD i [] →
      ¬ Unopened p i (bare (p.lines.getD i [])) := by
    rintro p i hbrace hbare ⟨-, hnot | hdisplaced⟩
    · rw [hbare] at hnot
      exact hnot hbrace
    · exact not_displaced hbare.symm hdisplaced
  obtain ⟨r, v, hrun, hdisk, -, hrefused, hreport⟩ := convertScript_cases hsound (absolute source)
    (headingOf o (absolute source)) (Chars.lines text.toList) w
  obtain ⟨u, hcall, -, hsame⟩ := call_eq hsound hread hwrite hrun hdisk
  rw [hcall, ← hrefused]
  refine ⟨?_, fun i l h => ?_, hown⟩
  · rcases r with e | _ | cs <;> simp [Except.map, answered]
  · obtain rfl := hrefused.mpr ⟨i, l, h⟩
    obtain rfl := hsame rfl
    exact ⟨rfl, hdisk, hreport i l h⟩

theorem convert_refuses_iff_brace_below :
    Options.Sound {} ∧ Writable (deskWith "function f()\n\x7b\x7d").disk "<TMP>/out.py" ∧
      ∃ i l, Refused {} "" ["function f()\n".toList, "\x7b\x7d".toList] (deskWith "function f()\n\x7b\x7d") i l ∧
        Reported "<TMP>/in.js" i l (deskWith "function f()\n\x7b\x7d")
          ((convertCommand.call (request {} "in.js" "<TMP>/out.py")).runIn (deskWith "function f()\n\x7b\x7d")) := by
  have h := convert_refuses_iff sound_default (readText_deskWith "function f()\n\x7b\x7d")
    (writable_deskWith "function f()\n\x7b\x7d")
  obtain ⟨i, l, hrefused⟩ := h.1.mp rfl
  exact ⟨sound_default, writable_deskWith _, i, l, hrefused, h.2.1 i l hrefused⟩

theorem convert_unclosed_function :
    ((convertCommand.call (request {} "in.js" "<TMP>/out.py")).runIn (deskWith "function f() \x7b")).1 =
      .ok (.str "import ee \nfrom ee_plugin import Map\n\ndef f():\nm") := by
  rfl

end Call

end RemoteSensing.Script
