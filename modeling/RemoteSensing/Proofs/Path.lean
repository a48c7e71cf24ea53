import RemoteSensing.Path
import RemoteSensing.Proofs.Text.Lines

/-!
Paths.
-/

namespace RemoteSensing.Path

open List Text
open String (ofList toList_append toList_inj append_empty empty_append)

variable {parts : List String} {d m p q : String}

theorem split_slash (p : String) : split p "/" = (p.toList.splitOn '/').map ofList := by
  exact congrArg (map ofList) (Chars.split_char '/' p.toList)

@[simp] theorem split_ne_nil (p : String) : split p "/" ≠ [] := by
  simp [split_slash]

theorem split_append (a b : String) : split (a ++ "/" ++ b) "/" = split a "/" ++ split b "/" := by
  simp [split_slash, splitOn_append_cons_self]

theorem split_of_slashless (h : '/' ∉ m.toList) : split m "/" = [m] := by
  simp [split_slash, splitOn_eq_singleton h]

theorem join_split (p : String) : Text.join "/" (split p "/") = p := by
  rw [Text.join, split_slash, ← toList_inj, String.toList_intercalate, map_map]
  have hid : String.toList ∘ ofList = id := by
    simp
  rw [hid, map_id]
  exact intercalate_splitOn '/'

theorem split_join (hne : parts ≠ []) (h : ∀ m ∈ parts, '/' ∉ m.toList) :
    split (Text.join "/" parts) "/" = parts := by
  have hslash : "/".toList = ['/'] := rfl
  rw [split_slash, Text.join, String.toList_intercalate, hslash, splitOn_intercalate]
  · simp [Function.comp_def]
  · simpa using h
  · simpa using hne

theorem slash_not_mem (h : m ∈ split p "/") : '/' ∉ m.toList := by
  obtain ⟨part, hpart, rfl⟩ := mem_map.mp h
  rw [String.toList_ofList, ← singleton_infix_iff]
  exact Chars.absent_of_mem_split (by simp) hpart

/-- A part that leads on into a folder or to a file. -/
structure Name (m : String) : Prop where
  slashless : '/' ∉ m.toList
  proper : m ≠ "" ∧ m ≠ "." ∧ m ≠ ".."

variable {rooted : Bool} {done : List String}

theorem walk_name (h : Name m) : walk rooted done m = m :: done := by
  obtain ⟨hempty, hdot, hdots⟩ := h.proper
  unfold walk
  rw [if_neg (by simp [hempty, hdot]), if_neg (by simpa using hdots)]

theorem resolve_concat (h : Name m) (xs : List String) : resolve rooted (xs ++ [m]) = resolve rooted xs ++ [m] := by
  rw [resolve, foldl_append, foldl_cons, foldl_nil, walk_name h, reverse_cons, resolve]

theorem resolve_concat_empty (xs : List String) : resolve rooted (xs ++ [""]) = resolve rooted xs := by
  rw [resolve, foldl_append]
  rfl

/-- The parts that a walk has reached, the last one first: names, and below them the parts that go back from the
working directory. -/
def Stacked (rooted : Bool) : List String → Prop
  | [] => True
  | q :: d => '/' ∉ q.toList ∧ q ≠ "" ∧ q ≠ "." ∧ (q = ".." → rooted = false ∧ ∀ p ∈ d.head?, p = "..") ∧ Stacked rooted d

theorem Stacked.tail {d : List String} (h : Stacked rooted (q :: d)) : Stacked rooted d := h.2.2.2.2

theorem Stacked.walk (h : Stacked rooted done) (hp : '/' ∉ p.toList) : Stacked rooted (walk rooted done p) := by
  unfold Path.walk
  split
  · exact h
  · rename_i hkept
    obtain ⟨hempty, hdot⟩ : p ≠ "" ∧ p ≠ "." := by simpa using hkept
    split
    · rename_i hdots
      cases done with
      | nil =>
        cases rooted with
        | true => exact trivial
        | false => exact ⟨hp, hempty, hdot, fun _ => ⟨rfl, by simp⟩, trivial⟩
      | cons q d =>
        simp only [beq_iff_eq]
        split
        · rename_i hq
          have hrooted : rooted = false := (h.2.2.2.1 hq).1
          exact ⟨hp, hempty, hdot, fun _ => ⟨hrooted, by simp [hq]⟩, h⟩
        · exact h.tail
    · rename_i hdots
      exact ⟨hp, hempty, hdot, fun heq => absurd heq (by simpa using hdots), h⟩

theorem Stacked.foldl (h : Stacked rooted done) (hparts : ∀ m ∈ parts, '/' ∉ m.toList) :
    Stacked rooted (parts.foldl (Path.walk rooted) done) := by
  induction parts generalizing done with
  | nil => exact h
  | cons p r ih =>
    exact ih (h.walk (hparts p mem_cons_self)) fun m hm => hparts m (mem_cons_of_mem p hm)

theorem Stacked.resolve_reverse (h : Stacked rooted done) : resolve rooted done.reverse = done.reverse := by
  have hfold : done.reverse.foldl (Path.walk rooted) [] = done := by
    induction done with
    | nil => rfl
    | cons q d ih =>
      obtain ⟨hslash, hempty, hdot, hback, hd⟩ := h
      rw [reverse_cons, foldl_append, ih hd, foldl_cons, foldl_nil]
      by_cases hq : q = ".."
      · obtain ⟨hrooted, hhead⟩ := hback hq
        unfold Path.walk
        rw [if_neg (by simp [hempty, hdot]), if_pos (by simp [hq])]
        cases d with
        | nil => simp [hrooted]
        | cons p d' => simp [hhead p (by simp)]
      · exact walk_name ⟨hslash, hempty, hdot, hq⟩
  rw [resolve, hfold]

theorem Stacked.of_mem (h : Stacked rooted done) : ∀ m ∈ done, '/' ∉ m.toList ∧ m ≠ "" := by
  induction done with
  | nil => simp
  | cons q d ih =>
    intro m hm
    rcases mem_cons.mp hm with rfl | hm
    · exact ⟨h.1, h.2.1⟩
    · exact ih h.tail m hm

theorem stacked_resolve (hparts : ∀ m ∈ parts, '/' ∉ m.toList) : Stacked rooted (resolve rooted parts).reverse := by
  rw [resolve, reverse_reverse]
  have hstart : Stacked rooted [] := trivial
  exact hstart.foldl hparts

theorem resolve_resolve (rooted : Bool) (hparts : ∀ m ∈ parts, '/' ∉ m.toList) :
    resolve rooted (resolve rooted parts) = resolve rooted parts := by
  have hstack : Stacked rooted (resolve rooted parts).reverse := stacked_resolve hparts
  have hagain := hstack.resolve_reverse
  rwa [reverse_reverse] at hagain

theorem of_mem_resolve (rooted : Bool) (hparts : ∀ m ∈ parts, '/' ∉ m.toList) :
    ∀ m ∈ resolve rooted parts, '/' ∉ m.toList ∧ m ≠ "" := fun m hm =>
  (stacked_resolve hparts).of_mem m (mem_reverse.mpr hm)

theorem slash_not_mem_fromHere (hm : m ∈ fromHere (split p "/")) : '/' ∉ m.toList := by
  unfold fromHere at hm
  split at hm
  · exact slash_not_mem (mem_of_mem_tail hm)
  · exact slash_not_mem hm

theorem absolute_rooted (h : startsWith p "/" = true) :
    absolute p = "/" ++ Text.join "/" (resolve true (split p "/")) := by
  rw [absolute, if_pos h]

theorem absolute_relative (h : startsWith p "/" = false) :
    absolute p = Text.join "/" (here :: resolve false (fromHere (split p "/"))) := by
  rw [absolute, if_neg (by simp [h])]

theorem startsWith_eq (p : String) : startsWith p "/" = (p.toList.head? == some '/') := by
  rw [startsWith]
  cases p.toList with
  | nil => rfl
  | cons c r => simp [isPrefixOf, eq_comm]

theorem startsWith_append {a : String} (ha : a ≠ "") (b : String) : startsWith (a ++ b) "/" = startsWith a "/" := by
  rw [startsWith_eq, startsWith_eq, toList_append, head?_append]
  cases h : a.toList with
  | nil => exact absurd (String.toList_eq_nil_iff.mp h) ha
  | cons c r => rfl

theorem startsWith_slash (s : String) : startsWith ("/" ++ s) "/" = true := by
  rw [startsWith_eq, toList_append]
  rfl

theorem join_here (parts : List String) : ∃ s, Text.join "/" (here :: parts) = here ++ s := by
  cases parts with
  | nil => exact ⟨"", by rw [Text.join, String.intercalate_singleton, append_empty]⟩
  | cons p r => exact ⟨"/" ++ Text.join "/" (p :: r), by rw [Text.join, String.intercalate_cons_cons, String.append_assoc]; rfl⟩

theorem startsWith_here (s : String) : startsWith (here ++ s) "/" = false := by
  rw [startsWith_eq, toList_append]
  rfl

/-- **The path from a root is its own path from a root.** -/
theorem absolute_absolute (p : String) : absolute (absolute p) = absolute p := by
  cases hroot : startsWith p "/" with
  | true =>
    have hparts : ∀ m ∈ split p "/", '/' ∉ m.toList := fun m => slash_not_mem
    have hslash := of_mem_resolve true hparts
    have hagain := resolve_resolve true hparts
    rw [absolute_rooted hroot, absolute_rooted (startsWith_slash _)]
    generalize resolve true (split p "/") = parts at hslash hagain
    cases parts with
    | nil => rfl
    | cons m r =>
      have hsplit : split ("/" ++ Text.join "/" (m :: r)) "/" = "" :: m :: r := by
        have hcut := split_append "" (Text.join "/" (m :: r))
        rw [empty_append, split_join (by simp) fun k hk => (hslash k hk).1] at hcut
        exact hcut
      have hstay : resolve true ("" :: m :: r) = resolve true (m :: r) := rfl
      rw [hsplit, hstay, hagain]
  | false =>
    have hparts : ∀ m ∈ fromHere (split p "/"), '/' ∉ m.toList := fun m => slash_not_mem_fromHere
    have hslash := of_mem_resolve false hparts
    have hagain := resolve_resolve false hparts
    rw [absolute_relative hroot]
    generalize resolve false (fromHere (split p "/")) = parts at hslash hagain
    obtain ⟨s, hs⟩ := join_here parts
    have hsplit : split (Text.join "/" (here :: parts)) "/" = here :: parts := by
      refine split_join (by simp) ?_
      intro m hm
      rcases mem_cons.mp hm with rfl | hm
      · decide
      · exact (hslash m hm).1
    have hhere : fromHere (here :: parts) = parts := by simp [fromHere]
    rw [absolute_relative (by rw [hs]; exact startsWith_here s), hsplit, hhere, hagain]

def child (folder m : String) : String := if folder = "/" then "/" ++ m else folder ++ "/" ++ m

theorem join_concat (parts : List String) (m : String) :
    Text.join "/" (parts ++ [m]) = if parts = [] then m else Text.join "/" parts ++ "/" ++ m := by
  split
  · rename_i h
    rw [h, nil_append, Text.join, String.intercalate_singleton]
  · rename_i h
    rw [Text.join, String.intercalate_append_of_ne_nil h (by simp), String.intercalate_singleton, Text.join]

theorem join_ne_empty (hne : parts ≠ []) (h : ∀ m ∈ parts, m ≠ "") : Text.join "/" parts ≠ "" := by
  obtain ⟨m, r, rfl⟩ := exists_cons_of_ne_nil hne
  intro hempty
  have hm : m = "" := by
    cases r with
    | nil => simpa [Text.join] using hempty
    | cons q r' =>
      rw [Text.join, String.intercalate_cons_cons, String.append_assoc, String.append_eq_empty_iff] at hempty
      exact hempty.1
  exact h m mem_cons_self hm

theorem fromHere_append {xs : List String} (hne : xs ≠ []) (ys : List String) :
    fromHere (xs ++ ys) = fromHere xs ++ ys := by
  obtain ⟨x, r, rfl⟩ := exists_cons_of_ne_nil hne
  by_cases hx : x = here
  · simp [fromHere, hx]
  · simp [fromHere, hx]

theorem split_concat_slash (d : String) : split (d ++ "/") "/" = split d "/" ++ [""] := by
  have hcut := split_append d ""
  rw [append_empty] at hcut
  exact hcut

theorem absolute_concat_slash (hd : d ≠ "") : absolute (d ++ "/") = absolute d := by
  have hstart := startsWith_append hd "/"
  cases hroot : startsWith d "/" with
  | true => rw [absolute_rooted (hstart.trans hroot), absolute_rooted hroot, split_concat_slash, resolve_concat_empty]
  | false =>
    rw [absolute_relative (hstart.trans hroot), absolute_relative hroot, split_concat_slash,
      fromHere_append (split_ne_nil d), resolve_concat_empty]

theorem absolute_slash (hm : Name m) (d : String) : absolute (d ++ "/" ++ m) = child (absolute (d ++ "/")) m := by
  have hne : d ++ "/" ≠ "" := by simp
  have hstart := startsWith_append hne m
  have hsplit : split (d ++ "/" ++ m) "/" = split d "/" ++ [m] := by
    rw [split_append, split_of_slashless hm.slashless]
  cases hroot : startsWith (d ++ "/") "/" with
  | true =>
    have hsplits : ∀ k ∈ split d "/", '/' ∉ k.toList := fun k => slash_not_mem
    have hparts := of_mem_resolve true hsplits
    rw [absolute_rooted (hstart.trans hroot), absolute_rooted hroot, hsplit, split_concat_slash, resolve_concat hm,
      resolve_concat_empty, join_concat]
    generalize resolve true (split d "/") = parts at hparts
    by_cases hnil : parts = []
    · rw [if_pos hnil, hnil]
      rfl
    · have hother : "/" ++ Text.join "/" parts ≠ "/" := fun heq =>
        join_ne_empty hnil (fun k hk => (hparts k hk).2) (by simpa using congrArg String.toList heq)
      rw [if_neg hnil, child, if_neg hother]
      simp only [String.append_assoc]
  | false =>
    rw [absolute_relative (hstart.trans hroot), absolute_relative hroot, hsplit, split_concat_slash,
      fromHere_append (split_ne_nil d), fromHere_append (split_ne_nil d), resolve_concat hm, resolve_concat_empty]
    generalize resolve false (fromHere (split d "/")) = parts
    have hother : Text.join "/" (here :: parts) ≠ "/" := by
      intro heq
      obtain ⟨s, hs⟩ := join_here parts
      have hhere := startsWith_here s
      rw [← hs, heq] at hhere
      cases hhere
    rw [child, if_neg hother, ← cons_append, join_concat, if_neg (by simp)]

theorem startsWith_name (hm : Name m) : startsWith m "/" = false := by
  rw [startsWith_eq, beq_eq_false_iff_ne]
  exact fun hhead => hm.slashless (mem_of_mem_head? hhead)

theorem absolute_name (hm : Name m) (hhere : m ≠ here) : absolute m = child here m := by
  have hroot := startsWith_name hm
  have hresolve : resolve false [m] = [m] := resolve_concat hm []
  rw [absolute_relative hroot, split_of_slashless hm.slashless]
  simp only [fromHere, head?_cons, Option.some_beq_some, beq_iff_eq, if_neg hhere, hresolve]
  rfl

/-- The folder that the file with a path lies in; the working directory has no name of its own there. -/
def around (p : String) : String := if (folder p).isEmpty then "." else folder p

theorem absolute_slashes (hd : d ≠ "") (k : Nat) :
    absolute (d ++ ofList (replicate k '/')) = absolute d := by
  induction k with
  | zero => rw [replicate_zero, String.ofList_nil, append_empty]
  | succ k ih =>
    have hcut : ofList (replicate (k + 1) '/') = ofList (replicate k '/') ++ "/" := by
      rw [replicate_succ', String.ofList_append]
    rw [hcut, ← String.append_assoc, absolute_concat_slash (by simp [hd]), ih]

def withoutSlashes (s : String) : String := ofList (s.toList.reverse.dropWhile (· == '/')).reverse

theorem eq_append_slashes (s : String) : ∃ k, s = withoutSlashes s ++ ofList (replicate k '/') := by
  refine ⟨(s.toList.reverse.takeWhile (· == '/')).length, ?_⟩
  have hslashes : s.toList.reverse.takeWhile (· == '/') =
      replicate (s.toList.reverse.takeWhile (· == '/')).length '/' := by
    refine eq_replicate_of_mem fun c hc => ?_
    simpa using mem_takeWhile_imp hc
  rw [withoutSlashes, ← String.ofList_append, ← toList_inj, String.toList_ofList, ← reverse_inj,
    reverse_append, reverse_reverse, reverse_replicate, ← hslashes, takeWhile_append_dropWhile]

theorem folder_cases (p : String) :
    (p = base p ∧ folder p = "") ∨ ∃ head, p = head ++ "/" ++ base p ∧
      folder p = if (withoutSlashes head).isEmpty then head ++ "/" else withoutSlashes head := by
  have hlast : split p "/" = (split p "/").dropLast ++ [base p] := by
    rw [base, getLastD_eq_getLast?, getLast?_eq_some_getLast (split_ne_nil p), Option.getD_some,
      dropLast_concat_getLast]
  have hpath : p = Text.join "/" ((split p "/").dropLast ++ [base p]) := by
    rw [← hlast, join_split]
  have hlength : (split p "/").length = (split p "/").dropLast.length + 1 := by
    rw [hlast, length_append, length_singleton, ← hlast]
  rw [join_concat] at hpath
  by_cases hbare : (split p "/").dropLast = []
  · rw [if_pos hbare] at hpath
    refine .inl ⟨hpath, ?_⟩
    rw [folder, if_pos (by rw [hlength, hbare]; exact Nat.le_refl 1)]
  · rw [if_neg hbare] at hpath
    have hpos := length_pos_iff.mpr hbare
    refine .inr ⟨_, hpath, ?_⟩
    rw [folder, if_neg (by omega)]
    rfl

/-- **A file lies directly in its folder.** -/
theorem absolute_file {e : String} (hm : Name (base p ++ e)) (hhere : p ++ e ≠ here) :
    absolute (p ++ e) = child (absolute (around p)) (base p ++ e) := by
  rcases folder_cases p with ⟨hpath, hfolder⟩ | ⟨head, hpath, hfolder⟩
  · have haround : absolute (around p) = here := by
      rw [around, hfolder]
      decide
    rw [haround, ← hpath]
    rw [← hpath] at hm
    exact absolute_name hm hhere
  · have hcut : p ++ e = head ++ "/" ++ (base p ++ e) := by
      rw [← String.append_assoc, ← hpath]
    have hsame : absolute (head ++ "/") = absolute (around p) := by
      by_cases hkept : (withoutSlashes head).isEmpty = true
      · rw [around, hfolder, if_pos hkept, if_neg (by simp)]
      · have hne : withoutSlashes head ≠ "" := by simpa using hkept
        obtain ⟨k, hk⟩ := eq_append_slashes head
        have hhead : absolute head = absolute (withoutSlashes head) := by
          have hslashes := absolute_slashes hne k
          rwa [← hk] at hslashes
        have hheadne : head ≠ "" := by
          intro hempty
          rw [hempty] at hne
          exact hne (by decide)
        rw [around, hfolder, if_neg hkept, if_neg hkept, absolute_concat_slash hheadne, hhead]
    rw [hcut, absolute_slash hm, hsame]

theorem isAbsolute_name (hm : Name m) (hhere : m ≠ here) : isAbsolute m = false := by
  have hbelow : startsWith m (here ++ "/") = false := by
    rw [Bool.eq_false_iff]
    intro hpre
    have hstart := isPrefixOf_iff_prefix.mp hpre
    exact hm.slashless (hstart.subset (by decide))
  simp [isAbsolute, startsWith_name hm, hbelow, hhere]

theorem absolute_join (hm : Name m) (hhere : m ≠ here) (hd : d ≠ "") : absolute (join d m) = child (absolute d) m := by
  rw [join, if_neg (by simp [isAbsolute_name hm hhere])]
  by_cases hslash : Text.endsWith d "/" = true
  · obtain ⟨cs, hcs⟩ := isSuffixOf_iff_suffix.mp hslash
    have hcut : d = ofList cs ++ "/" := by
      rw [← toList_inj, toList_append, String.toList_ofList, hcs]
    rw [if_pos (by simp [hslash]), hcut, absolute_slash hm]
  · rw [if_neg (by simp [hd, hslash]), absolute_slash hm, absolute_concat_slash hd]

theorem base_slash (hm : '/' ∉ m.toList) (d : String) : base (d ++ "/" ++ m) = m := by
  rw [base, split_append, split_of_slashless hm]
  simp

theorem base_of_slashless (hm : '/' ∉ m.toList) : base m = m := by
  rw [base, split_of_slashless hm]
  rfl

theorem slash_not_mem_base (p : String) : '/' ∉ (base p).toList := by
  refine slash_not_mem (p := p) ?_
  rw [base, getLastD_eq_getLast?, getLast?_eq_some_getLast (split_ne_nil p), Option.getD_some]
  exact getLast_mem _

theorem join_relative (d : String) :
    ∃ q, (q = "" ∨ ∃ head, q = head ++ "/") ∧ ∀ m, isAbsolute m = false → join d m = q ++ m := by
  by_cases hslash : (d.isEmpty || Text.endsWith d "/") = true
  · refine ⟨d, ?_, fun m hm => by rw [join, hm, if_neg (by decide), if_pos hslash]⟩
    rcases Bool.or_eq_true_iff.mp hslash with hempty | hends
    · exact .inl (by simpa using hempty)
    · obtain ⟨cs, hcs⟩ := isSuffixOf_iff_suffix.mp hends
      refine .inr ⟨ofList cs, ?_⟩
      rw [← toList_inj, toList_append, String.toList_ofList, hcs]
  · exact ⟨d ++ "/", .inr ⟨d, rfl⟩, fun m hm => by rw [join, hm, if_neg (by decide), if_neg hslash]⟩

theorem base_behind (hq : q = "" ∨ ∃ head, q = head ++ "/") (hm : '/' ∉ m.toList) : base (q ++ m) = m := by
  rcases hq with rfl | ⟨head, rfl⟩
  · rw [empty_append, base_of_slashless hm]
  · exact base_slash hm head

theorem eq_behind (p : String) : ∃ q, (q = "" ∨ ∃ head, q = head ++ "/") ∧ p = q ++ base p := by
  rcases folder_cases p with ⟨hpath, -⟩ | ⟨head, hpath, -⟩
  · exact ⟨"", .inl rfl, by rw [empty_append]; exact hpath⟩
  · exact ⟨head ++ "/", .inr ⟨head, rfl⟩, hpath⟩

theorem splitExtension_fst {s x : String} (hx : '.' ∉ x.toList) (hq : q = "" ∨ ∃ head, q = head ++ "/")
    (hslash : '/' ∉ (s ++ "." ++ x).toList) :
    (splitExtension (q ++ (s ++ "." ++ x))).1 =
      if s.toList.all (· == '.') = true then q ++ (s ++ "." ++ x) else q ++ s := by
  have hbase := base_behind hq hslash
  generalize hp : q ++ (s ++ "." ++ x) = p at hbase
  have hname : (base p).toList = s.toList ++ '.' :: x.toList := by
    rw [hbase, toList_append, toList_append, append_assoc]
    rfl
  have htail : ((base p).toList.reverse.takeWhile (· != '.')).reverse = x.toList := by
    rw [hname, reverse_append, reverse_cons, append_assoc,
      takeWhile_append_of_pos (by simpa using fun c hc (heq : c = '.') => hx (heq ▸ hc))]
    simp
  have hlength : (base p).toList.length - x.toList.length - 1 = s.toList.length := by
    rw [hname, length_append, length_cons]
    omega
  have hstem : (base p).toList.take s.toList.length = s.toList := by rw [hname, take_left]
  have hcut : ofList (p.toList.take (p.length - x.toList.length - 1)) = q ++ s := by
    have hpath : p.toList = (q ++ s).toList ++ '.' :: x.toList := by
      rw [← hp, toList_append, toList_append, toList_append, toList_append, append_assoc,
        append_assoc]
      rfl
    have hkept : p.length - x.toList.length - 1 = (q ++ s).toList.length := by
      rw [← String.length_toList, hpath, length_append, length_cons]
      omega
    rw [hkept, hpath, take_left, String.ofList_toList]
  have hsome : (x.toList.length == (base p).toList.length) = false := by
    rw [beq_eq_false_iff_ne, hname, length_append, length_cons]
    omega
  unfold splitExtension
  simp only [htail, hlength, hstem, hcut, hsome, Bool.false_or]
  split <;> rfl

end RemoteSensing.Path
