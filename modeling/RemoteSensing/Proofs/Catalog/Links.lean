import RemoteSensing.Catalog.Drive
import RemoteSensing.Proofs.Session.Run
import RemoteSensing.Proofs.Text.Chars

/-!
Addresses of shared files.
-/

namespace RemoteSensing.Catalog

open List Chars Session

variable {marks : List (List Char)} {m s t : List Char} {id : String}

theorem tokenBehind_eq_none (h : ¬ m <+: s) : tokenBehind s m = none := by
  have hpre : m.isPrefixOf s = false := by
    rw [Bool.eq_false_iff]
    exact fun hpre => h <| isPrefixOf_iff_prefix.mp hpre
  rw [tokenBehind, hpre]
  rfl

theorem tokenBehind_eq_some (h : tokenBehind s m = some t) : (t ≠ [] ∧ ∀ c ∈ t, isTokenChar c = true) ∧
    ∃ rest, s = m ++ (t ++ rest) ∧ ∀ c ∈ rest.head?, isTokenChar c = false := by
  rw [tokenBehind] at h
  split at h
  · rename_i hfound
    cases h
    rw [Bool.and_eq_true] at hfound
    obtain ⟨behind, rfl⟩ := isPrefixOf_iff_prefix.mp hfound.1
    refine ⟨⟨by simpa using hfound.2, fun c hc => mem_takeWhile_imp hc⟩, behind.dropWhile isTokenChar, ?_, ?_⟩
    · rw [drop_left, takeWhile_append_dropWhile]
    · intro c hc
      have hstop := head?_dropWhile_not isTokenChar behind
      rw [hc] at hstop
      exact hstop
  · cases h

theorem tokenAfter_pass {c : Char} {r : List Char} (h : ∀ m ∈ marks, ¬ m <+: c :: r) :
    tokenAfter marks (c :: r) = tokenAfter marks r := by
  have hnone : marks.findSome? (tokenBehind (c :: r)) = none :=
    findSome?_eq_none_iff.mpr fun m hm => tokenBehind_eq_none (h m hm)
  rw [tokenAfter, hnone]

theorem tokenAfter_append {fixed : List Char} (h : ∀ m ∈ marks, Apart fixed m) (s : List Char) :
    tokenAfter marks (fixed ++ s) = tokenAfter marks s := by
  induction fixed with
  | nil => rfl
  | cons c r ih =>
    rw [cons_append, tokenAfter_pass fun m hm => (h m hm).not_starts s]
    exact ih fun m hm => (h m hm).tail

theorem tokenAfter_eq_some (h : tokenAfter marks s = some t) :
    (t ≠ [] ∧ ∀ c ∈ t, isTokenChar c = true) ∧ ∃ m ∈ marks, m ++ t <:+: s := by
  induction s with
  | nil => cases h
  | cons c r ih =>
    rw [tokenAfter] at h
    split at h
    · rename_i u hu
      cases h
      obtain ⟨m, hmarks, hm⟩ := exists_of_findSome?_eq_some hu
      obtain ⟨htoken, rest, hs, -⟩ := tokenBehind_eq_some hm
      exact ⟨htoken, m, hmarks, [], rest, by rw [hs, nil_append, append_assoc]⟩
    · obtain ⟨htoken, m, hmarks, hinfix⟩ := ih h
      exact ⟨htoken, m, hmarks, infix_cons hinfix⟩

theorem infix_of_infix_append {c : Char} {t a b : List Char} (hc : c ∉ a) (h : c :: t <:+: a ++ b) : c :: t <:+: b := by
  induction a with
  | nil => exact h
  | cons x r ih =>
    rw [mem_cons, not_or] at hc
    rcases infix_cons_iff.mp h with hpre | hinfix
    · exact absurd (cons_prefix_cons.mp hpre).1 hc.1
    · exact ih hc.2 hinfix

theorem tokenAfter_absent {s : List Char} (h : ∀ m ∈ marks, ¬ m <:+: s) : tokenAfter marks s = none := by
  induction s with
  | nil => rfl
  | cons c r ih =>
    rw [tokenAfter_pass fun m hm hpre => h m hm hpre.isInfix]
    exact ih fun m hm hinfix => h m hm (infix_cons hinfix)

theorem takeWhile_bounded {t rest : List Char} (htoken : ∀ c ∈ t, isTokenChar c = true)
    (hrest : ∀ c ∈ rest.head?, isTokenChar c = false) : (t ++ rest).takeWhile isTokenChar = t := by
  have hstop : rest.takeWhile isTokenChar = [] := by
    cases rest with
    | nil => rfl
    | cons c r => simp [hrest c rfl]
  rw [takeWhile_append_of_pos htoken, hstop, append_nil]

section Token

variable {id rest : List Char} (hne : id ≠ []) (htoken : ∀ c ∈ id, isTokenChar c = true)
  (hrest : ∀ c ∈ rest.head?, isTokenChar c = false)

include hne htoken hrest in
theorem tokenBehind_bounded (m : List Char) : tokenBehind (m ++ (id ++ rest)) m = some id := by
  have hpre : m.isPrefixOf (m ++ (id ++ rest)) = true := isPrefixOf_iff_prefix.mpr (prefix_append m _)
  simp [tokenBehind, hpre, takeWhile_bounded htoken hrest, hne]

include hne htoken hrest in
theorem tokenAfter_bounded {m : List Char} (hm : m ≠ []) (others : List (List Char))
    (hothers : ∀ x ∈ others, ¬ x <+: m ++ (id ++ rest)) (more : List (List Char)) :
    tokenAfter (others ++ m :: more) (m ++ (id ++ rest)) = some id := by
  have hfound : (others ++ m :: more).findSome? (tokenBehind (m ++ (id ++ rest))) = some id := by
    rw [findSome?_append, findSome?_eq_none_iff.mpr fun x hx => tokenBehind_eq_none (hothers x hx), findSome?_cons,
      tokenBehind_bounded hne htoken hrest m]
    rfl
  cases m with
  | nil => exact absurd rfl hm
  | cons c r =>
    rw [cons_append] at hfound ⊢
    rw [tokenAfter, hfound]

include htoken in
theorem not_infix_token {head t : List Char} {c : Char} (hc : isTokenChar c = false) (habsent : ¬ c :: t <:+: rest) :
    ¬ head ++ c :: t <:+: id ++ rest := by
  intro h
  have hmem : c ∉ id := fun hmem => by
    rw [htoken c hmem] at hc
    cases hc
  exact habsent (infix_of_infix_append hmem ((suffix_append head (c :: t)).isInfix.trans h))

include hne htoken hrest in
/-- **An identifier that is given as a parameter**, with no path in front of it or behind it. -/
theorem fileId?_parameter {address : String} {server mark : List Char}
    (haddress : address.toList = server ++ (mark ++ (id ++ rest))) (hserver : "drive.google.com".toList <:+: server)
    (hfixed : ∀ m ∈ ["/file/d/".toList, "?id=".toList, "&id=".toList], Apart server m)
    (hmark : mark ∈ ["?id=".toList, "&id=".toList]) (hpath : ¬ "/file/d/".toList <:+: rest) :
    fileId? address = some (String.ofList id) := by
  have hcontains : Text.contains address "drive.google.com" = true := by
    rw [Text.contains, contains_iff, haddress]
    exact hserver.trans (prefix_append _ _).isInfix
  have hnone : tokenAfter ["/file/d/".toList] address.toList = none := by
    have hapart : ∀ m ∈ ["?id=".toList, "&id=".toList], Apart m "/file/d/".toList := by decide +kernel
    rw [haddress, tokenAfter_append (by simpa using hfixed _ mem_cons_self),
      tokenAfter_append (by simpa using hapart mark hmark)]
    have hslash : ¬ [] ++ '/' :: "file/d/".toList <:+: id ++ rest := not_infix_token htoken (by decide) hpath
    refine tokenAfter_absent fun m hm => ?_
    obtain rfl := mem_singleton.mp hm
    exact hslash
  have hsome : tokenAfter ["?id=".toList, "&id=".toList] address.toList = some id := by
    rw [haddress, tokenAfter_append fun m hm => hfixed m (mem_cons_of_mem _ hm)]
    rcases mem_pair.mp hmark with rfl | rfl
    · exact tokenAfter_bounded hne htoken hrest (by decide) [] (by simp) _
    · refine tokenAfter_bounded hne htoken hrest (by decide) ["?id=".toList] ?_ []
      intro x hx hpre
      obtain rfl := mem_singleton.mp hx
      exact absurd (cons_prefix_cons.mp hpre).1 (by decide)
  rw [fileId?, hcontains]
  simp only [hnone, hsome]
  rfl

end Token

theorem fileId?_eq_some {address : String} (h : fileId? address = some id) :
    id.toList ≠ [] ∧ ∀ c ∈ id.toList, isTokenChar c = true := by
  rw [fileId?] at h
  split at h
  · cases h
  · obtain ⟨t, ht, rfl⟩ := Option.map_eq_some_iff.mp h
    rw [String.toList_ofList]
    cases hpath : tokenAfter ["/file/d/".toList] address.toList with
    | some u =>
      rw [hpath] at ht
      cases ht
      exact (tokenAfter_eq_some hpath).1
    | none =>
      rw [hpath] at ht
      exact (tokenAfter_eq_some ht).1

/-- **The identifier of a download address is the one that it was made of.** -/
theorem fileId?_downloadAddress (hne : id.toList ≠ []) (htoken : ∀ c ∈ id.toList, isTokenChar c = true) :
    fileId? (downloadAddress id) = some id := by
  have hcut : "https://drive.google.com/uc?export=download&id=".toList =
      "https://drive.google.com/uc?export=download".toList ++ "&id=".toList := by decide +kernel
  have haddress : (downloadAddress id).toList =
      "https://drive.google.com/uc?export=download".toList ++ ("&id=".toList ++ (id.toList ++ [])) := by
    rw [append_nil id.toList, ← append_assoc, ← hcut]
    exact String.toList_append
  have h := fileId?_parameter hne htoken (by simp) haddress (by decide +kernel) (by decide +kernel) (by simp)
    (by decide)
  rwa [String.ofList_toList] at h

def found (answer : Option String) : Data := answer.elim .null .str

variable (u : String)

theorem fileIdOf_str : fileIdOf (.str u) = .ok (fileId? u) := by
  unfold fileIdOf
  by_cases hu : u = ""
  · subst hu
    rfl
  · have htruthy : (Value.str u : Data).truthy = true := by
      simp [Value.truthy, hu]
    rw [htruthy]
    rfl

theorem answers_found {c : Command} {x : Except Fault (Option String)} {answer : Option String}
    {next : Option String → Session Data} (hcall : c.call [.str u] [] = liftM x >>= next) (hx : x = .ok answer)
    (hnext : ∀ r, next r = pure (found r)) : c.Answers [.str u] (found answer) := by
  intro w
  rw [hcall, hx, runIn_liftM_ok, hnext, runIn_pure]

theorem fileId_answers : fileIdCommand.Answers [.str u] (found (fileId? u)) := by
  refine answers_found u rfl (fileIdOf_str u) ?_
  intro r
  cases r <;> rfl

theorem convertAddress_str : convertAddress (.str u) = .ok ((fileId? u).map downloadAddress) := by
  rw [convertAddress, fileIdOf_str]
  rfl

theorem convertAddress_answers :
    convertAddressCommand.Answers [.str u] (found ((fileId? u).map downloadAddress)) := by
  refine answers_found u rfl (convertAddress_str u) ?_
  intro r
  cases r <;> rfl

theorem validateAddress_answers : validateAddressCommand.Answers [.str u] (.bool (fileId? u).isSome) := fun _ => rfl

/-- **Converting an address is stable.** Converting gives an address exactly when the address is valid, and nothing
otherwise. An address that it gives has the identifier of the address that was converted, and is converted to
itself. -/
theorem converted_address_stable :
    ∃ answer : Option String,
      convertAddressCommand.Answers [.str u] (found answer) ∧
      validateAddressCommand.Answers [.str u] (.bool answer.isSome) ∧
      ∀ v, answer = some v →
        (∃ id, fileIdCommand.Answers [.str u] (.str id) ∧ fileIdCommand.Answers [.str v] (.str id)) ∧
        convertAddressCommand.Answers [.str v] (.str v) := by
  refine ⟨(fileId? u).map downloadAddress, convertAddress_answers u, ?_, ?_⟩
  · rw [Option.isSome_map]
    exact validateAddress_answers u
  · intro v hv
    obtain ⟨id, hid, rfl⟩ := Option.map_eq_some_iff.mp hv
    obtain ⟨hne, htoken⟩ := fileId?_eq_some hid
    have hsame := fileId?_downloadAddress hne htoken
    have hu := fileId_answers u
    have hv := fileId_answers (downloadAddress id)
    have hagain := convertAddress_answers (downloadAddress id)
    rw [hid] at hu
    rw [hsame] at hv hagain
    exact ⟨⟨id, hu, hv⟩, hagain⟩

/-- An address with both marks: the part of the path has priority, and the converted address keeps its identifier. -/
theorem converted_address_stable_both_marks :
    ∃ id, fileIdCommand.Answers [.str "https://drive.google.com/open?id=b/file/d/a-1/view"] (.str id) ∧
      fileIdCommand.Answers [.str (downloadAddress "a-1")] (.str id) := by
  obtain ⟨answer, hconvert, -, hstable⟩ :=
    converted_address_stable "https://drive.google.com/open?id=b/file/d/a-1/view"
  have hid : fileId? "https://drive.google.com/open?id=b/file/d/a-1/view" = some "a-1" := by decide +kernel
  have hother := convertAddress_answers "https://drive.google.com/open?id=b/file/d/a-1/view"
  rw [hid] at hother
  have hfound : found answer = .str (downloadAddress "a-1") :=
    Except.ok.inj (Prod.mk.inj ((hconvert {}).symm.trans (hother {}))).1
  cases answer with
  | none => cases hfound
  | some v =>
    have hv : v = downloadAddress "a-1" := Value.str.inj hfound
    rw [← hv]
    exact (hstable v rfl).1

/-! The forms of links that are handed out. -/

variable {marks : List (List Char)}

def linkForms : List String :=
  ["https://drive.google.com/file/d/", "https://drive.google.com/open?id=", "https://drive.google.com/uc?id="]

/-- What may stand behind the identifier of a link: it does not go on with the identifier, and holds no further link. -/
structure EndsLink (rest : String) : Prop where
  bounded : ∀ c ∈ rest.toList.head?, isTokenChar c = false
  no_path : Text.contains rest "/file/d/" = false
  no_drive : Text.contains rest "drive.google.com" = false

section Link

variable {form id rest : String}

theorem not_infix_of_contains {sub : String} (h : Text.contains rest sub = false) : ¬ sub.toList <:+: rest.toList := by
  intro hinfix
  rw [Text.contains, contains_iff.mpr hinfix] at h
  cases h

theorem form_absent (htoken : ∀ c ∈ id.toList, isTokenChar c = true) (hrest : EndsLink rest) (hform : form ∈ linkForms) :
    ¬ form.toList <:+: id.toList ++ rest.toList := by
  -- the colon is in no identifier, and the name of the server stands behind it
  have hcut : ∃ t, form.toList = "https".toList ++ ':' :: t ∧ "drive.google.com".toList <:+: ':' :: t := by
    simp only [linkForms, mem_cons, not_mem_nil, or_false] at hform
    rcases hform with rfl | rfl | rfl
    · exact ⟨"//drive.google.com/file/d/".toList, by decide +kernel, by decide +kernel⟩
    · exact ⟨"//drive.google.com/open?id=".toList, by decide +kernel, by decide +kernel⟩
    · exact ⟨"//drive.google.com/uc?id=".toList, by decide +kernel, by decide +kernel⟩
  obtain ⟨t, ht, hserver⟩ := hcut
  rw [ht]
  exact not_infix_token htoken (by decide) fun h => not_infix_of_contains hrest.no_drive (hserver.trans h)

theorem toList_link : (form ++ id ++ rest).toList = form.toList ++ (id.toList ++ rest.toList) := by
  rw [String.toList_append, String.toList_append, append_assoc]

theorem contains_link (hform : form ∈ linkForms) : Text.contains (form ++ id ++ rest) "drive.google.com" = true := by
  have hserver : ∀ f ∈ linkForms, "drive.google.com".toList <:+: f.toList := by decide +kernel
  rw [Text.contains, contains_iff, toList_link]
  exact (hserver form hform).trans (prefix_append _ _).isInfix

section Identifier

variable (hne : id.toList ≠ []) (htoken : ∀ c ∈ id.toList, isTokenChar c = true) (hrest : EndsLink rest)
include hne htoken hrest

/-- **The loose search** finds the identifier of a link. -/
theorem fileId?_link (hform : form ∈ linkForms) : fileId? (form ++ id ++ rest) = some id := by
  have hserver : Text.contains (form ++ id ++ rest) "drive.google.com" = true := contains_link hform
  simp only [linkForms, mem_cons, not_mem_nil, or_false] at hform
  rcases hform with rfl | hform
  · -- the path is found first, behind the name of the server
    have hcut : "https://drive.google.com/file/d/".toList = "https://drive.google.com".toList ++ "/file/d/".toList := by
      decide +kernel
    have hapart : ∀ m ∈ ["/file/d/".toList], Apart "https://drive.google.com".toList m := by decide +kernel
    have hfound : tokenAfter ["/file/d/".toList] ("/file/d/".toList ++ (id.toList ++ rest.toList)) = some id.toList :=
      tokenAfter_bounded hne htoken hrest.bounded (by decide) [] (by simp) []
    rw [fileId?, hserver, toList_link, hcut, append_assoc]
    simp only [tokenAfter_append hapart, hfound]
    simp
  · -- no path is found, so the parameter counts
    obtain ⟨server, hcut, hdrive, hfixed⟩ : ∃ server : List Char, form.toList = server ++ "?id=".toList ∧
        "drive.google.com".toList <:+: server ∧
        ∀ m ∈ ["/file/d/".toList, "?id=".toList, "&id=".toList], Apart server m := by
      rcases hform with rfl | rfl
      · exact ⟨"https://drive.google.com/open".toList, by decide +kernel, by decide +kernel, by decide +kernel⟩
      · exact ⟨"https://drive.google.com/uc".toList, by decide +kernel, by decide +kernel, by decide +kernel⟩
    have haddress : (form ++ id ++ rest).toList = server ++ ("?id=".toList ++ (id.toList ++ rest.toList)) := by
      rw [toList_link, hcut, append_assoc]
    have h := fileId?_parameter hne htoken hrest.bounded haddress hdrive hfixed (by simp)
      (not_infix_of_contains hrest.no_path)
    rwa [String.ofList_toList] at h

/-- **The anchored search** finds the identifier of a link: the forms that are tried before its own are not found. -/
theorem linkId?_link (hform : form ∈ linkForms) : linkId? (form ++ id ++ rest) = some id := by
  have hown : tokenAfter [form.toList] (form ++ id ++ rest).toList = some id.toList := by
    have hnonempty : ∀ f ∈ linkForms, f.toList ≠ [] := by decide +kernel
    rw [toList_link]
    exact tokenAfter_bounded hne htoken hrest.bounded (hnonempty form hform) [] (by simp) []
  have hother : ∀ f ∈ linkForms, f ≠ form → tokenAfter [f.toList] (form ++ id ++ rest).toList = none := by
    intro f hf hdiffer
    have hapart : ∀ f ∈ linkForms, ∀ g ∈ linkForms, f ≠ g → Apart g.toList f.toList := by decide +kernel
    rw [toList_link, tokenAfter_append (by simpa using hapart f hf form hform hdiffer)]
    exact tokenAfter_absent (by simpa using form_absent htoken hrest hf)
  have htried : ∀ forms : List String, form ∈ forms → (∀ f ∈ forms, f ∈ linkForms) →
      (forms.findSome? fun f => (tokenAfter [f.toList] (form ++ id ++ rest).toList).map String.ofList) = some id := by
    intro forms hmem hforms
    induction forms with
    | nil => cases hmem
    | cons f r ih =>
      rw [findSome?_cons]
      by_cases hdiffer : f = form
      · rw [hdiffer, hown]
        simp
      · rw [hother f (hforms f mem_cons_self) hdiffer]
        exact ih ((mem_cons.mp hmem).resolve_left (Ne.symm hdiffer)) fun g hg => hforms g (mem_cons_of_mem f hg)
  exact htried linkForms hform fun f hf => hf

end Identifier

theorem linkId_answers (address : String) : linkIdCommand.Answers [.str address] (found (linkId? address)) := by
  intro w
  obtain ⟨a, hbind, ha⟩ : ∃ a, linkIdCommand.bind [.str address] [] = .ok a ∧ a "url" = .str address := ⟨_, rfl, rfl⟩
  rw [Command.runIn_call hbind]
  simp only [linkIdCommand, ha]
  cases linkId? address <;> rfl

/-- **Both searches find the identifier of a link of any form that is handed out**, whatever stands behind it. -/
theorem link_forms_agree (hform : form ∈ linkForms) (hne : id ≠ "") (htoken : ∀ c ∈ id.toList, isTokenChar c = true)
    (hrest : EndsLink rest) :
    fileIdCommand.Answers [.str (form ++ id ++ rest)] (.str id) ∧
      linkIdCommand.Answers [.str (form ++ id ++ rest)] (.str id) := by
  have hchars : id.toList ≠ [] := fun h => hne (String.toList_eq_nil_iff.mp h)
  have hloose := fileId_answers (form ++ id ++ rest)
  have hanchored := linkId_answers (form ++ id ++ rest)
  rw [fileId?_link hchars htoken hrest hform] at hloose
  rw [linkId?_link hchars htoken hrest hform] at hanchored
  exact ⟨hloose, hanchored⟩

end Link

/-- A link whose suffix has a further parameter `id` and the beginning of a path. -/
theorem link_forms_agree_two_parameters :
    fileIdCommand.Answers [.str ("https://drive.google.com/uc?id=" ++ "a-1_B" ++ "&id=https://x/file/e/")] (.str "a-1_B") ∧
      linkIdCommand.Answers [.str ("https://drive.google.com/uc?id=" ++ "a-1_B" ++ "&id=https://x/file/e/")]
        (.str "a-1_B") := by
  have hrest : EndsLink "&id=https://x/file/e/" := ⟨by decide +kernel, by decide +kernel, by decide +kernel⟩
  exact link_forms_agree (by decide +kernel) (by decide +kernel) (by decide +kernel) hrest

end RemoteSensing.Catalog
