import Mathlib.Data.List.Induction
import Mathlib.Tactic.SplitIfs
import RemoteSensing.Legend.Page
import RemoteSensing.Proofs.Session.Run
import RemoteSensing.Proofs.Value.Fields

/-!
The style that legends share.
-/

namespace RemoteSensing.Legend

open List String Session Value

variable {style : Fields} {place : String} {a : Arguments} {w : World}

variable {front : Fields} {ps : List String}

def shared (ps : List String) : Fields := ps.foldl (fun style p => fullStyle p style) []

def Starts (style front : Fields) : Prop := ∃ rest, style = front ++ ("position", .str "fixed") :: rest

theorem starts_setDefault (h : Starts style front) (k v : String) : Starts (setDefault k v style) front := by
  obtain ⟨rest, rfl⟩ := h
  unfold setDefault
  split
  · exact ⟨rest, rfl⟩
  · rename_i hk
    rw [Option.not_isSome_iff_eq_none] at hk
    rw [Value.insert_of_lookup_none hk]
    exact ⟨rest ++ [(k, .str v)], by simp⟩

theorem starts_erase (h : Starts style front) {k : String} (hk : "position" ≠ k) :
    Starts (erase k style) (erase k front) := by
  obtain ⟨rest, rfl⟩ := h
  induction front with
  | nil => exact ⟨erase k rest, if_neg hk⟩
  | cons e front ih =>
    rw [cons_append, erase, erase]
    split
    · exact ⟨rest, rfl⟩
    · obtain ⟨rest', hrest⟩ := ih
      exact ⟨rest', by rw [hrest]; rfl⟩

def remnants : List Fields :=
  [[], [("bottom", .str "20px")], [("bottom", .str "5px")], [("top", .str "5px")], [("left", .str "5px")],
    [("right", .str "5px")]]

def Mixed (style : Fields) : Prop := ∃ front ∈ remnants, Starts style front

theorem erase_remnants (h : front ∈ remnants) (k : String) : erase k front ∈ remnants := by
  simp only [remnants, mem_cons, not_mem_nil, or_false] at h
  rcases h with rfl | rfl | rfl | rfl | rfl | rfl
  · exact .head _
  all_goals
    simp only [erase, remnants]
    split <;> simp

theorem mixed_fullStyle (h : Mixed style) (p : String) : Mixed (fullStyle p style) := by
  have hdefault : ∀ style k v, Mixed style → Mixed (setDefault k v style) :=
    fun style k v ⟨front, hfront, h⟩ => ⟨front, hfront, starts_setDefault h k v⟩
  have herase : ∀ style k, "position" ≠ k → Mixed style → Mixed (erase k style) :=
    fun style k hk ⟨front, hfront, h⟩ => ⟨_, erase_remnants hfront k, starts_erase h hk⟩
  have hplace : Mixed (setPlace p style) := by
    unfold setPlace
    split_ifs <;>
      exact herase _ _ (by decide) (herase _ _ (by decide) (hdefault _ _ _ (hdefault _ _ _ h)))
  exact hdefault _ _ _ (hdefault _ _ _ (hdefault _ _ _ (hdefault _ _ _ (hdefault _ _ _ (hdefault _ _ _ hplace)))))

theorem mem_places (h : place ∈ places) :
    place = "topleft" ∨ place = "topright" ∨ place = "bottomleft" ∨ place = "bottomright" := by
  simpa [places] using h

theorem fullStyle_twice (h : place ∈ places) : fullStyle place (fullStyle place []) = fullStyle place [] := by
  obtain rfl | rfl | rfl | rfl := mem_places h <;> rfl

theorem mixed_second {p q : String} (hp : p ∈ places) (hq : q ∈ places) (h : q ≠ p) : Mixed (fullStyle q (fullStyle p [])) := by
  obtain rfl | rfl | rfl | rfl := mem_places hp <;> obtain rfl | rfl | rfl | rfl := mem_places hq <;>
    first
    | exact absurd rfl h
    | exact ⟨[], .head _, _, rfl⟩
    | exact ⟨[("bottom", .str "20px")], by simp [remnants], _, rfl⟩
    | exact ⟨[("bottom", .str "5px")], by simp [remnants], _, rfl⟩
    | exact ⟨[("top", .str "5px")], by simp [remnants], _, rfl⟩
    | exact ⟨[("left", .str "5px")], by simp [remnants], _, rfl⟩
    | exact ⟨[("right", .str "5px")], by simp [remnants], _, rfl⟩

theorem shared_cases (h : ∀ p ∈ ps, p ∈ places) (hne : ps ≠ []) :
    (∃ p ∈ places, (∀ q ∈ ps, q = p) ∧ shared ps = fullStyle p []) ∨ (∃ p ∈ ps, ∃ q ∈ ps, q ≠ p) ∧ Mixed (shared ps) := by
  induction ps using List.reverseRecOn with
  | nil => exact absurd rfl hne
  | append_singleton ps q ih =>
    have hq : q ∈ places := h q (by simp)
    have hstep : shared (ps ++ [q]) = fullStyle q (shared ps) := by simp [shared]
    rw [hstep]
    by_cases hps : ps = []
    · exact .inl ⟨q, hq, by simp [hps], by rw [hps]; rfl⟩
    rcases ih (fun p hp => h p (by simp [hp])) hps with ⟨p, hp, hall, hshared⟩ | ⟨⟨p, hp, q', hq', hne'⟩, hmixed⟩
    · rw [hshared]
      by_cases hqp : q = p
      · subst hqp
        exact .inl ⟨q, hq, by simpa [or_imp, forall_and] using hall, fullStyle_twice hq⟩
      · obtain ⟨r, hr⟩ := exists_mem_of_ne_nil ps hps
        exact .inr ⟨⟨r, by simp [hr], q, by simp, fun heq => hqp (heq.trans (hall r hr))⟩, mixed_second hp hq hqp⟩
    · exact .inr ⟨⟨p, by simp [hp], q', by simp [hq'], hne'⟩, mixed_fullStyle hmixed q⟩

def ruleText (style : Fields) : String :=
  join (style.map fun kv => "              " ++ Text.replace kv.1 "_" "-" ++ ": " ++ kv.2.display ++ ";\n")

theorem remnants_text : ∀ p ∈ places, ∀ front ∈ remnants,
    ¬ (ruleText (front ++ [("position", .str "fixed")])).toList <+: (ruleText ((fullStyle p []).take 2)).toList ∧
      ¬ (ruleText ((fullStyle p []).take 2)).toList <+: (ruleText (front ++ [("position", .str "fixed")])).toList := by
  decide +kernel

theorem ruleText_append (s t : Fields) : ruleText (s ++ t) = ruleText s ++ ruleText t := by
  simp [ruleText, join_append]

theorem text_ne_of_mixed (h : Mixed style) (hp : place ∈ places) : ruleText style ≠ ruleText (fullStyle place []) := by
  obtain ⟨front, hfront, rest, rfl⟩ := h
  intro heq
  obtain ⟨hfirst, hsecond⟩ := remnants_text _ hp _ hfront
  have hsplit : front ++ ("position", .str "fixed") :: rest = front ++ [("position", .str "fixed")] ++ rest := by simp
  rw [hsplit, ruleText_append, ← take_append_drop 2 (fullStyle place []), ruleText_append (List.take 2 _)] at heq
  have hlist := congrArg toList heq
  rw [toList_append, toList_append] at hlist
  have hother := prefix_append (ruleText ((fullStyle place []).take 2)).toList
    (ruleText ((fullStyle place []).drop 2)).toList
  rw [← hlist] at hother
  exact ( prefix_or_prefix_of_prefix (prefix_append _ _) hother).elim hfirst hsecond

/-- **The style of a first legend** is found again exactly when every legend was at the same place. -/
theorem text_shared_iff (h : ∀ q ∈ ps, q ∈ places) (hp : place ∈ places) :
    ruleText (fullStyle place (shared ps)) = ruleText (fullStyle place []) ↔ ∀ q ∈ ps, q = place := by
  have hstep : shared (ps ++ [place]) = fullStyle place (shared ps) := by simp [shared]
  have hall : ∀ q ∈ ps ++ [place], q ∈ places := by simpa [or_imp, forall_and, hp] using h
  rw [← hstep]
  rcases shared_cases hall (by simp) with ⟨p, -, hsame, hshared⟩ | ⟨⟨p, hpm, q, hqm, hne⟩, hmixed⟩
  · obtain rfl : place = p := hsame place (by simp)
    exact iff_of_true (by rw [hshared]) fun q hq => hsame q (by simp [hq])
  · refine iff_of_false (text_ne_of_mixed hmixed hp) fun hsame => hne ?_
    have hplace : ∀ r ∈ ps ++ [place], r = place := by simpa [or_imp, forall_and] using hsame
    rw [hplace p hpm, hplace q hqm]

section Sessions

variable {α β : Type}

def Told (P : α → Prop) (s : Session α) : Prop := ∃ t r, Tells s t r ∧ ∀ x, r = .ok x → P x

theorem Told.pure {P : α → Prop} {x : α} (h : P x) : Told P (pure x : Session α) :=
  ⟨"", .ok x, Tells.pure x, fun _ hx => Except.ok.inj hx ▸ h⟩

theorem Told.liftM (x : Except Fault α) : Told (fun _ => True) (liftM x : Session α) :=
  ⟨"", x, Tells.liftM x, fun _ _ => trivial⟩

theorem Told.throw {P : α → Prop} (e : Fault) : Told P (throw e : Session α) :=
  ⟨"", .error e, fun w => by rw [runIn_throw, append_empty], fun _ h => by cases h⟩

theorem Told.bind {P : α → Prop} {Q : β → Prop} {s : Session α} {f : α → Session β} (hs : Told P s)
    (hf : ∀ x, P x → Told Q (f x)) : Told Q (s >>= f) := by
  obtain ⟨t, r, htells, hr⟩ := hs
  cases r with
  | error e => exact ⟨t, .error e, htells.bind_error, fun _ h => by cases h⟩
  | ok x =>
    obtain ⟨u, r, hrest, hr'⟩ := hf x (hr x rfl)
    exact ⟨t ++ u, r, htells.bind hrest, hr'⟩

theorem Told.print_bind {P : β → Prop} (m : String) {f : Unit → Session β} (h : Told P (f ())) :
    Told P (print m >>= f) :=
  Told.bind ⟨_, _, Tells.print m, fun _ _ => trivial⟩ fun _ (_ : True) => h

def KeepsStyle (s : Session α) : Prop := ∀ w, (s.runIn w).2.legendStyle = w.legendStyle

theorem KeepsStyle.liftM (x : Except Fault α) : KeepsStyle (liftM x : Session α) := fun w => by rw [runIn_liftM]

theorem KeepsStyle.bind {s : Session α} {f : α → Session β} (hs : KeepsStyle s) (hf : ∀ x, KeepsStyle (f x)) :
    KeepsStyle (s >>= f) :=
  runIn_bind_keeps (R := fun w v : World => v.legendStyle = w.legendStyle) (fun h h' => h'.trans h) hs hf

end Sessions

theorem told_labelsOf (v : Data) : Told (fun _ => True) (labelsOf v) := by
  unfold labelsOf
  split
  · exact .pure trivial
  · exact .pure trivial
  · exact .print_bind _ (.pure trivial)

theorem told_colourTexts (xs : List Data) : Told (fun _ => True) (colourTexts xs) := by
  unfold colourTexts
  split
  · split
    · exact .pure trivial
    · exact .print_bind _ (.pure trivial)
  · exact .pure trivial

theorem told_coloursOf (v : Data) : Told (fun _ => True) (coloursOf v) := by
  unfold coloursOf
  split
  · exact .pure trivial
  · split
    · exact .bind (told_colourTexts _) fun _ _ => .pure trivial
    · refine .bind (.liftM _) fun _ _ => ?_
      split
      · exact .pure trivial
      · refine .bind (.liftM _) fun _ _ => ?_
        split
        · exact .pure trivial
        · exact .print_bind _ (.pure trivial)
  · exact .print_bind _ (.pure trivial)

theorem told_entriesOf (labels colours : List Data) (record name : Data) :
    Told (fun _ => True) (entriesOf labels colours record name) := by
  refine .bind (.liftM _) fun _ _ => ?_
  split
  all_goals
    dsimp only
    split
    · exact .print_bind _ (.pure trivial)
    · split <;> first
        | exact .pure trivial
        | exact .bind (told_colourTexts _) fun _ _ => .pure trivial
        | exact .print_bind _ (.pure trivial)

theorem told_contentOf (a : Arguments) :
    Told (fun c : Option (String × List Data × List Data) => ∀ x, c = some x → x.1 ∈ places) (contentOf a) := by
  refine .bind (told_labelsOf _) fun labels _ => ?_
  split
  · refine .bind (told_coloursOf _) fun colours _ => ?_
    split
    · split
      · exact .print_bind _ (.pure (by simp))
      · refine .bind (told_entriesOf _ _ _ _) fun entries _ => ?_
        split
        · split
          · split
            · exact .pure fun x hx => by
                cases hx
                simpa using ‹places.contains _ = true›
            · exact .throw _
          · exact .throw _
        · exact .pure (by simp)
    · exact .pure (by simp)
  · exact .pure (by simp)

def place? (a : Arguments) : Option String :=
  match ((contentOf a).runIn default).1 with
  | .ok (some (place, _, _)) => some place
  | _ => none

theorem draw_cases (h : a "style" = sharedStyle) :
    (place? a = none ∧ ∃ t r, Tells (draw a) t r ∧ ∀ page, r ≠ .ok (.str page)) ∨
      ∃ p ∈ places, ∃ labels colours t, place? a = some p ∧ ∀ w, (draw a).runIn w =
        (deliver (a "output") (pageOf a labels colours (fullStyle p w.legendStyle))).runIn
          { w with printed := w.printed ++ t, legendStyle := fullStyle p w.legendStyle } := by
  obtain ⟨t, r, htells, hr⟩ := told_contentOf a
  have hrun : ((contentOf a).runIn default).1 = r := by rw [htells]
  unfold place?
  rw [hrun]
  match r with
  | .error e => exact .inl ⟨rfl, t, .error e, htells.bind_error, nofun⟩
  | .ok none => exact .inl ⟨rfl, t, .ok .null, htells.bind_pure rfl, nofun⟩
  | .ok (some (p, labels, colours)) =>
    refine .inr ⟨p, hr _ rfl _ rfl, labels, colours, t, rfl, fun w => ?_⟩
    rw [draw, runIn_bind_of_ok (htells w)]
    simp only [h, sharedStyle]
    rw [runIn_bind_of_ok (runIn_get _), runIn_bind_of_ok (runIn_modify _ _)]

theorem runIn_writeText_of (p s : String) (w : World) :
    ∃ d, (writeText p s).runIn w = (checkWritable w.disk p, { w with disk := d }) := by
  unfold writeText writeBody
  rw [runIn_bind_of_ok (runIn_get w)]
  cases checkWritable w.disk p with
  | error e => exact ⟨w.disk, rfl⟩
  | ok _ => exact ⟨_, rfl⟩

theorem keepsStyle_deliver (output : Data) (page : Except Fault String) : KeepsStyle (deliver output page) := by
  refine .bind (.liftM _) fun page => ?_
  split
  · exact fun _ => rfl
  · refine .bind (.liftM _) fun p => .bind (fun w => ?_) fun _ _ => rfl
    obtain ⟨d, hd⟩ := runIn_writeText_of p page w
    rw [hd]

def after (w : World) (calls : List Arguments) : World := calls.foldl (fun w a => ((drawCommand.run a).runIn w).2) w

/-- **What calls leave behind** is the style of the legends that they drew. -/
theorem legendStyle_after {calls : List Arguments} (h : ∀ b ∈ calls, b "style" = sharedStyle) (w : World) :
    (after w calls).legendStyle = (calls.filterMap place?).foldl (fun style p => fullStyle p style) w.legendStyle := by
  induction calls generalizing w with
  | nil => rfl
  | cons b calls ih =>
    rw [forall_mem_cons] at h
    refine (ih h.2 ((draw b).runIn w).2).trans ?_
    rcases draw_cases h.1 with ⟨hplace, t, r, htells, -⟩ | ⟨p, -, labels, colours, t, hplace, hdraw⟩
    · rw [filterMap_cons_none hplace, htells]
    · rw [filterMap_cons_some hplace, foldl_cons, hdraw, keepsStyle_deliver]

theorem pageOf_cases (a : Arguments) (labels colours : List Data) (h : (a "draggable").truthy = false) :
    (∃ e, ∀ style, pageOf a labels colours style = .error e) ∨
      ∃ head tail, ∀ style, pageOf a labels colours style = .ok (head ++ ruleText style ++ tail) := by
  unfold pageOf
  split
  · rename_i title _
    simp only [h]
    cases hentries : (labels.zip colours).mapM fun e => fixedEntry (a "opacity") e.1 e.2 with
    | error e =>
      refine .inl ⟨e, fun style => ?_⟩
      show ((labels.zip colours).mapM fun e => fixedEntry (a "opacity") e.1 e.2) >>= _ = _
      rw [hentries]
      rfl
    | ok entries =>
      refine .inr ⟨pageText pageHead,
        titled title pageTitle ++ pageText pageList ++ String.join entries ++ pageText pageTail, fun style => ?_⟩
      show ((labels.zip colours).mapM fun e => fixedEntry (a "opacity") e.1 e.2) >>= _ = _
      rw [hentries]
      simp only [← String.append_assoc]
      rfl
  · exact .inl ⟨_, fun _ => rfl⟩

theorem deliver_error (output : Data) (e : Fault) (w : World) : ((deliver output (.error e)).runIn w).1 = .error e := rfl

theorem deliver_null (page : String) (w : World) : ((deliver .null (.ok page)).runIn w).1 = .ok (.str page) := rfl

theorem deliver_file {output : Data} (h : output ≠ .null) : ∃ r : Disk → Except Fault Data,
    (∀ page w, ((deliver output (.ok page)).runIn w).1 = r w.disk) ∧ ∀ d page, r d ≠ .ok (.str page) := by
  refine ⟨fun d => output.pathOf >>= fun p => checkWritable d p >>= fun _ => .ok .null, fun page w => ?_, ?_⟩
  · rw [deliver, runIn_bind_of_ok (runIn_liftM (.ok page) w)]
    split
    · exact absurd rfl h
    · cases output.pathOf with
      | error e => rfl
      | ok p =>
        obtain ⟨d, hd⟩ := runIn_writeText_of p page w
        rw [runIn_bind_of_ok (runIn_liftM (.ok p) w)]
        show _ = (checkWritable w.disk p >>= fun _ => (.ok .null : Except Fault Data))
        cases hc : checkWritable w.disk p with
        | error e =>
          rw [hc] at hd
          rw [runIn_bind_of_error hd]
          rfl
        | ok _ =>
          rw [hc] at hd
          rw [runIn_bind_of_ok hd]
          rfl
  · intro d page hpage
    obtain ⟨_, -, hpage⟩ := bind_eq_ok.mp hpage
    obtain ⟨_, -, hpage⟩ := bind_eq_ok.mp hpage
    cases hpage

/-- **What legends remember of each other.** After any calls without a style of their own, a call gives what it would give
first, unless it gives a page and some legend before it was at another place; then it gives another page. -/
theorem draw_eq_fresh_iff {calls : List Arguments} (hw : w.legendStyle = []) (hcalls : ∀ b ∈ calls, b "style" = sharedStyle)
    (hstyle : a "style" = sharedStyle) (hfixed : (a "draggable").truthy = false) :
    ((drawCommand.run a).runIn (after w calls)).1 =
        ((drawCommand.run a).runIn { after w calls with legendStyle := [] }).1 ↔
      (∃ page, ((drawCommand.run a).runIn { after w calls with legendStyle := [] }).1 = .ok (.str page)) →
        ∀ b ∈ calls, place? b = none ∨ place? b = place? a := by
  have hafter : (after w calls).legendStyle = shared (calls.filterMap place?) := by
    rw [legendStyle_after hcalls, hw]
    rfl
  have hplaces : ∀ q ∈ calls.filterMap place?, q ∈ places := by
    intro q hq
    obtain ⟨b, hb, hbq⟩ := List.mem_filterMap.mp hq
    rcases draw_cases (hcalls b hb) with ⟨hnone, -⟩ | ⟨p, hp, -, -, -, hsome, -⟩
    · rw [hnone] at hbq
      cases hbq
    · rw [hsome] at hbq
      cases hbq
      exact hp
  show ((draw a).runIn _).1 = ((draw a).runIn _).1 ↔ ((∃ page, ((draw a).runIn _).1 = _) → _)
  rcases draw_cases hstyle with ⟨-, t, r, htells, hr⟩ | ⟨p, hp, labels, colours, t, hplace, hdraw⟩
  · rw [htells, htells]
    exact iff_of_true rfl fun ⟨page, hpage⟩ => absurd hpage (hr page)
  rw [hdraw, hdraw, hplace]
  rcases pageOf_cases a labels colours hfixed with ⟨e, herror⟩ | ⟨head, tail, hpage⟩
  · rw [herror, herror, deliver_error, deliver_error]
    exact iff_of_true rfl fun ⟨page, hpage⟩ => by cases hpage
  rw [hpage, hpage]
  by_cases houtput : a "output" = .null
  · rw [houtput]
    have hall : (∀ b ∈ calls, place? b = none ∨ place? b = some p) ↔ ∀ q ∈ calls.filterMap place?, q = p := by
      simp only [mem_filterMap, forall_exists_index, and_imp]
      constructor
      · intro h q b hb hq
        rcases h b hb with hb | hb <;> rw [hb] at hq <;> cases hq
        rfl
      · intro h b hb
        cases hq : place? b with
        | none => exact .inl rfl
        | some q => exact .inr (by rw [h q b hb hq])
    rw [hall, ← text_shared_iff hplaces hp, ← hafter, deliver_null, deliver_null]
    simp only [Except.ok.injEq, Value.str.injEq, String.append_left_inj, String.append_right_inj, exists_eq', true_imp_iff]
  · obtain ⟨r, hr, hnone⟩ := deliver_file houtput
    rw [hr, hr]
    exact iff_of_true rfl fun ⟨page, hpage⟩ => absurd hpage (hnone _ page)

def fixedAt (place : String) : Arguments :=
  ⟨[("title", .str "Legend"), ("opacity", .real 1.0), ("position", .str place), ("draggable", .bool false),
    ("style", sharedStyle)], []⟩

theorem draw_eq_fresh_iff_topleft :
    let calls := [fixedAt "topleft", fixedAt "middle", fixedAt "topleft"]
    ((drawCommand.run (fixedAt "topleft")).runIn (after {} calls)).1 =
      ((drawCommand.run (fixedAt "topleft")).runIn { after {} calls with legendStyle := [] }).1 := by
  refine (draw_eq_fresh_iff rfl ?_ rfl rfl).mpr fun _ => ?_
  · simp only [forall_mem_cons]
    exact ⟨rfl, rfl, rfl, nofun⟩
  · simp only [forall_mem_cons]
    exact ⟨.inr trivial, .inl rfl, .inr trivial, nofun⟩

/-- A legend at the bottom left moves the legend at the bottom right that comes after it. -/
theorem page_moved_by_earlier :
    let page : Except Fault Data → String := fun r => match r with
      | .ok (.str s) => s
      | _ => ""
    page ((drawCommand.run (fixedAt "bottomright")).runIn (after {} [fixedAt "bottomleft"])).1 ≠
      page ((drawCommand.run (fixedAt "bottomright")).runIn {}).1 := by
  decide +kernel

end RemoteSensing.Legend
