import RemoteSensing.Proofs.Geo.Longitude
import RemoteSensing.Proofs.Text.Lines

/-!
Places in a text.
-/

namespace RemoteSensing.Geo

open List Session Text Value Decimal

/-- What stands between the commas of a text or, without a comma, between its blanks; nothing if it has neither. -/
def parts (s : String) : List String :=
  if contains s "," then split s ","
  else if contains s " " then split s " "
  else []

def Numeral (f : String) : Prop := (Decimal.read? f).isSome = true

def notNumber (field : String) : Fault := .wrongValue ("could not convert string to float: " ++ literal field)

variable {s : String} {w : World} {x y : Float} {f : String}

theorem two_le_length_split {sep : String} {c : Char} (hsep : sep.toList = [c]) (h : Text.contains s sep = true) :
    2 ≤ (split s sep).length := by
  have hmem : c ∈ s.toList := by
    rw [Text.contains, Chars.contains_iff, hsep] at h
    exact h.subset mem_cons_self
  have hcount : 0 < s.toList.count c := List.count_pos_iff.mpr hmem
  rw [split, length_map, hsep, Chars.length_split]
  omega

theorem parts_of_comma (h : contains s "," = true) : parts s = split s "," := if_pos h

theorem parts_of_blank (hcomma : contains s "," = false) (h : contains s " " = true) :
    parts s = split s " " := by
  rw [parts, hcomma, h, if_neg Bool.false_ne_true, if_pos rfl]

theorem parts_of_neither (hcomma : contains s "," = false) (hblank : contains s " " = false) :
    parts s = [] := by
  rw [parts, hcomma, hblank, if_neg Bool.false_ne_true, if_neg Bool.false_ne_true]

theorem two_le_length_parts (h : parts s ≠ []) : 2 ≤ (parts s).length := by
  cases hcomma : contains s "," with
  | true =>
    rw [parts_of_comma hcomma]
    exact two_le_length_split (c := ',') (by decide) hcomma
  | false =>
    cases hblank : contains s " " with
    | true =>
      rw [parts_of_blank hcomma hblank]
      exact two_le_length_split (c := ' ') (by decide) hblank
    | false => exact absurd (parts_of_neither hcomma hblank) h

theorem numbersIn_str (s : String) :
    numbersIn (.str s) = if parts s = [] then .ok none else ((parts s).mapM readNumber).map some := by
  have hsplit : ∀ {sep : String} {c : Char}, sep.toList = [c] → contains s sep = true → split s sep ≠ [] := by
    intro sep c hsep h hnil
    have htwo := two_le_length_split hsep h
    rw [hnil] at htwo
    simp at htwo
  have hmap : ∀ x : Except Fault (List Float), (x >>= fun xs => pure (some xs)) = x.map some := by
    intro x
    cases x <;> rfl
  unfold numbersIn
  simp only [has, strOf]
  cases hcomma : contains s "," with
  | true =>
    rw [parts_of_comma hcomma, if_neg (hsplit (c := ',') (by decide) hcomma), ← hmap]
    rfl
  | false =>
    cases hblank : contains s " " with
    | true =>
      rw [parts_of_blank hcomma hblank, if_neg (hsplit (c := ' ') (by decide) hblank), ← hmap]
      rfl
    | false =>
      rw [parts_of_neither hcomma hblank]
      rfl

theorem readNumber_ok (h : Numeral f) : ∃ x, readNumber f = .ok x := by
  obtain ⟨x, hx⟩ := Option.isSome_iff_exists.mp h
  exact ⟨x, by rw [readNumber, hx]⟩

theorem readNumber_error (h : ¬ Numeral f) : readNumber f = .error (notNumber f) := by
  rw [Numeral, Bool.not_eq_true, Option.isSome_eq_false_iff, Option.isNone_iff_eq_none] at h
  rw [readNumber, h]
  rfl

theorem mapM_readNumber (fs : List String) :
    ((∀ f ∈ fs, Numeral f) ∧ ∃ xs, xs.length = fs.length ∧ fs.mapM readNumber = .ok xs) ∨
      ∃ f ∈ fs, ¬ Numeral f ∧ fs.mapM readNumber = .error (notNumber f) := by
  induction fs with
  | nil => exact .inl ⟨by simp, [], rfl, rfl⟩
  | cons f fs ih =>
    by_cases hf : Numeral f
    · obtain ⟨x, hx⟩ := readNumber_ok hf
      rw [mapM_cons, hx]
      rcases ih with ⟨hall, xs, hlen, hxs⟩ | ⟨g, hg, hnot, herror⟩
      · rw [hxs]
        exact .inl ⟨by simpa using ⟨hf, hall⟩, x :: xs, by simp [hlen], rfl⟩
      · rw [herror]
        exact .inr ⟨g, mem_cons_of_mem f hg, hnot, rfl⟩
    · rw [mapM_cons, readNumber_error hf]
      exact .inr ⟨f, mem_cons_self, hf, rfl⟩

theorem numbersIn_cases (s : String) :
    (parts s = [] ∧ numbersIn (.str s) = .ok none) ∨
    ((∀ f ∈ parts s, Numeral f) ∧ ∃ lat lon rest, numbersIn (.str s) = .ok (some (lat :: lon :: rest))) ∨
    ∃ f ∈ parts s, ¬ Numeral f ∧ numbersIn (.str s) = .error (notNumber f) := by
  by_cases hnone : parts s = []
  · exact .inl ⟨hnone, by rw [numbersIn_str, if_pos hnone]⟩
  right
  rw [numbersIn_str, if_neg hnone]
  rcases mapM_readNumber (parts s) with ⟨hall, xs, hlen, hxs⟩ | ⟨f, hf, hnot, herror⟩
  · have htwo := two_le_length_parts hnone
    rw [← hlen] at htwo
    match xs, htwo with
    | lat :: lon :: rest, _ =>
      rw [hxs]
      exact .inl ⟨hall, lat, lon, rest, rfl⟩
  · rw [herror]
    exact .inr ⟨f, hf, hnot, rfl⟩

def Counts (y : Float) (d : ℤ) : Prop := Decimal.worth y = some (worthOfInt d)

theorem counts_of_decode {b : Decimal.Binary} {d : ℤ} (h : Decimal.decode y = .finite b) (hb : b.worth = d * 2 ^ 1074) :
    Counts y d := by
  unfold Counts Decimal.worth
  rw [h, Decimal.Decoded.worth, hb, worthOfInt]

theorem counts_latitude : Counts (-90) (-90) ∧ Counts 90 90 :=
  ⟨counts_of_decode (b := ⟨true, 90 * 2 ^ 46, -46, false⟩) rfl (by decide +kernel),
    counts_of_decode (b := ⟨false, 90 * 2 ^ 46, -46, false⟩) rfl (by decide +kernel)⟩

theorem counts_longitude : Counts (-180) (-180) ∧ Counts 180 180 :=
  ⟨counts_of_decode (b := ⟨true, 90 * 2 ^ 46, -45, false⟩) rfl (by decide +kernel),
    counts_of_decode (b := ⟨false, 90 * 2 ^ 46, -45, false⟩) rfl (by decide +kernel)⟩

theorem le_iff_atMost {d : ℤ} (hy : Counts y d) : x ≤ y ↔ (real x : Data).AtMost (.int d) := by
  have hle : (real x : Data).le (.int d) = .ok ((Num.real x).le (.int d)) := order_of_num rfl rfl _ _ _
  unfold Value.AtMost
  rw [hle, Except.ok.injEq, Num.le_iff, Decimal.le_iff, hy]
  rfl

theorem ge_iff_atMost {d : ℤ} (hx : Counts x d) : x ≤ y ↔ (int d : Data).AtMost (.real y) := by
  have hle : (int d : Data).le (.real y) = .ok ((Num.int d).le (.real y)) := order_of_num rfl rfl _ _ _
  unfold Value.AtMost
  rw [hle, Except.ok.injEq, Num.le_iff, Decimal.le_iff, hx]
  rfl

/-- **The globe is 90 degrees to the poles and 180 degrees to the other side.** A number that is not a number is nowhere. -/
theorem onGlobe_iff (lat lon : Float) : onGlobe lat lon = true ↔ Within 90 (.real lat) ∧ Within 180 (.real lon) := by
  unfold onGlobe Within
  simp only [Bool.and_eq_true, decide_eq_true_eq, ge_iff_le]
  rw [ge_iff_atMost counts_latitude.1, le_iff_atMost counts_latitude.2, ge_iff_atMost counts_longitude.1,
    le_iff_atMost counts_longitude.2]
  exact and_assoc

def pair (lat lon : Float) : Data := .tuple [.real lat, .real lon]

theorem call_isPlace (s : String) (w : World) :
    (isPlaceCommand.call [.str s]).runIn w = (isPlace (.str s) >>= fun b => pure (.bool b)).runIn w := rfl

theorem call_place (s : String) (w : World) :
    (placeCommand.call [.str s]).runIn w = (place? (.str s) >>= fun p =>
      match p with
      | some (lat, lon) => pure (pair lat lon)
      | none => pure .null).runIn w := rfl

variable {lat lon : Float} {rest : List Float} {e : Fault}

theorem isPlace_of_none (h : numbersIn (.str s) = .ok none) :
    ∃ v, (isPlaceCommand.call [.str s]).runIn w = (.ok (.bool false), v) := by
  rw [call_isPlace, isPlace, h]
  exact ⟨_, rfl⟩

theorem place_of_none (h : numbersIn (.str s) = .ok none) :
    ∃ v, (placeCommand.call [.str s]).runIn w = (.ok .null, v) := by
  rw [call_place, place?, h]
  exact ⟨_, rfl⟩

theorem isPlace_of_numbers (h : numbersIn (.str s) = .ok (some (lat :: lon :: rest))) :
    (isPlaceCommand.call [.str s]).runIn w = (.ok (.bool (onGlobe lat lon)), w) := by
  rw [call_isPlace, isPlace, h]
  rfl

theorem place_of_numbers (h : numbersIn (.str s) = .ok (some (lat :: lon :: rest))) :
    (placeCommand.call [.str s]).runIn w = (.ok (if onGlobe lat lon then pair lat lon else .null), w) := by
  have hplace : (place? (.str s)).runIn w = (.ok (if onGlobe lat lon then some (lat, lon) else none), w) := by
    rw [place?, h]
    rfl
  rw [call_place, runIn_bind_of_ok hplace]
  by_cases hglobe : onGlobe lat lon = true
  · rw [if_pos hglobe, if_pos hglobe]
    rfl
  · rw [if_neg hglobe, if_neg hglobe]
    rfl

theorem isPlace_of_error (h : numbersIn (.str s) = .error e) :
    (isPlaceCommand.call [.str s]).runIn w = (.error e, w) := by
  rw [call_isPlace, isPlace, h]
  rfl

theorem place_of_error (h : numbersIn (.str s) = .error e) :
    ∃ v, (placeCommand.call [.str s]).runIn w = (.ok .null, v) := by
  rw [call_place, place?, h]
  exact ⟨_, rfl⟩

/-- All that the two commands can do with a text: both find a place on the globe, both find none, or a field is no number
and only the reader says so quietly. -/
theorem runs_cases (s : String) (w : World) :
    ((∀ f ∈ parts s, Numeral f) ∧ ∃ lat lon, (Within 90 (.real lat) ∧ Within 180 (.real lon)) ∧
      (isPlaceCommand.call [.str s]).runIn w = (.ok (.bool true), w) ∧
      (placeCommand.call [.str s]).runIn w = (.ok (pair lat lon), w)) ∨
    ((∀ f ∈ parts s, Numeral f) ∧ ∃ u v,
      (isPlaceCommand.call [.str s]).runIn w = (.ok (.bool false), u) ∧
      (placeCommand.call [.str s]).runIn w = (.ok .null, v)) ∨
    ∃ f ∈ parts s, ¬ Numeral f ∧ ∃ v,
      (isPlaceCommand.call [.str s]).runIn w = (.error (notNumber f), w) ∧
      (placeCommand.call [.str s]).runIn w = (.ok .null, v) := by
  rcases numbersIn_cases s with ⟨hnone, h⟩ | ⟨hall, lat, lon, rest, h⟩ | ⟨f, hf, hnot, h⟩
  · obtain ⟨u, hcheck⟩ := isPlace_of_none h (w := w)
    obtain ⟨v, hread⟩ := place_of_none h (w := w)
    exact .inr (.inl ⟨by simp [hnone], u, v, hcheck, hread⟩)
  · have hcheck := isPlace_of_numbers h (w := w)
    have hread := place_of_numbers h (w := w)
    by_cases hglobe : onGlobe lat lon = true
    · rw [if_pos hglobe] at hread
      rw [hglobe] at hcheck
      exact .inl ⟨hall, lat, lon, (onGlobe_iff lat lon).mp hglobe, hcheck, hread⟩
    · rw [if_neg hglobe] at hread
      rw [Bool.not_eq_true] at hglobe
      rw [hglobe] at hcheck
      exact .inr (.inl ⟨hall, w, w, hcheck, hread⟩)
  · obtain ⟨v, hread⟩ := place_of_error h (w := w)
    exact .inr (.inr ⟨f, hf, hnot, v, isPlace_of_error h, hread⟩)

/-- **When the check and the reader agree.** The reader always gives a pair or nothing, a pair is on the globe, and where
the check gives an answer it is true exactly when there is a pair. But it gives an answer only if all parts are numbers:
else the conversion of a field ends it, where the reader gives nothing. -/
theorem place_check_agrees_iff (s : String) (w : World) :
    ((∃ b v, (isPlaceCommand.call [.str s]).runIn w = (.ok (.bool b), v)) ↔ ∀ f ∈ parts s, Numeral f) ∧
    ((∃ v, (isPlaceCommand.call [.str s]).runIn w = (.ok (.bool true), v)) ↔
      ∃ lat lon v, (placeCommand.call [.str s]).runIn w = (.ok (pair lat lon), v)) ∧
    (∃ x v, (placeCommand.call [.str s]).runIn w = (.ok x, v) ∧
      (x = .null ∨ ∃ lat lon, x = pair lat lon ∧ Within 90 (.real lat) ∧ Within 180 (.real lon))) ∧
    ((∃ f ∈ parts s, ¬ Numeral f) →
      (∃ f ∈ parts s, ¬ Numeral f ∧ (isPlaceCommand.call [.str s]).runIn w = (.error (notNumber f), w)) ∧
      ∃ v, (placeCommand.call [.str s]).runIn w = (.ok .null, v)) := by
  rcases runs_cases s w with ⟨hall, lat, lon, hglobe, hcheck, hread⟩ | ⟨hall, u, v, hcheck, hread⟩ |
    ⟨f, hf, hnot, v, hcheck, hread⟩
  · rw [hcheck, hread]
    refine ⟨⟨fun _ => hall, fun _ => ⟨true, w, rfl⟩⟩, ⟨fun _ => ⟨lat, lon, w, rfl⟩, fun _ => ⟨w, rfl⟩⟩,
      ⟨pair lat lon, w, rfl, .inr ⟨lat, lon, rfl, hglobe⟩⟩, ?_⟩
    rintro ⟨f, hf, hnot⟩
    exact absurd (hall f hf) hnot
  · rw [hcheck, hread]
    refine ⟨⟨fun _ => hall, fun _ => ⟨false, u, rfl⟩⟩, by simp [pair], ⟨.null, v, rfl, .inl rfl⟩, ?_⟩
    rintro ⟨f, hf, hnot⟩
    exact absurd (hall f hf) hnot
  · rw [hcheck, hread]
    refine ⟨⟨by simp, fun hall => absurd (hall f hf) hnot⟩, by simp [pair], ⟨.null, v, rfl, .inl rfl⟩, ?_⟩
    intro _
    exact ⟨⟨f, hf, hnot, rfl⟩, v, rfl⟩

theorem place_check_refuses_letters : isPlaceCommand.Refuses [.str "a,b"] (notNumber "a") ∧
    ∀ w, ∃ v, (placeCommand.call [.str "a,b"]).runIn w = (.ok .null, v) := by
  have hnumbers : numbersIn (.str "a,b") = .error (notNumber "a") := by decide +kernel
  exact ⟨fun w => isPlace_of_error hnumbers, fun w => place_of_error hnumbers⟩

end RemoteSensing.Geo
