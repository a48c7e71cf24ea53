import RemoteSensing.Basemap
import RemoteSensing.Proofs.Json.Number
import RemoteSensing.Proofs.Session.Run
import RemoteSensing.Proofs.Value.Order

/-!
Mosaics by list and by period.
-/

namespace RemoteSensing.Basemap

open Json List Text Value Nat Session

variable {year part i : ℤ} {n k width : ℕ} {key : String}

namespace Cycle

def lastMonth : Cycle → ℤ → ℤ
  | monthly, part => part
  | quarterly, part => 3 * part

def list : Cycle → MosaicList
  | monthly => .monthly
  | quarterly => .quarterly

def address (c : Cycle) (key : String) (year part : ℤ) : String :=
  mosaicAddress c.series (c.periodText (toString year) (toString part)) key

end Cycle

variable (c : Cycle) {today : Date}

/-- The period is over, and there was a mosaic of it: the first ones are of 2016. -/
structure Completed (today : Date) (year part : ℤ) : Prop where
  since : 2016 ≤ year
  within : 1 ≤ part ∧ part ≤ c.parts
  ended : year < today.year ∨ year = today.year ∧ c.lastMonth part < today.month

theorem ended_iff (hday : today.isValid = true) (part : ℤ) :
    c.lastMonth part < today.month ↔ part < c.current today := by
  simp only [Date.isValid, Bool.and_eq_true, decide_eq_true_eq] at hday
  cases c with
  | monthly => exact Iff.rfl
  | quarterly =>
    simp only [Cycle.lastMonth, Cycle.current]
    omega

def Before (a b : ℕ × ℕ) : Prop := a.1 < b.1 ∨ a.1 = b.1 ∧ a.2 < b.2

variable {first : ℕ}

theorem mem_yearsSince {year : ℕ} : year ∈ yearsSince first today ↔ first ≤ year ∧ (year : ℤ) ≤ today.year := by
  simp only [yearsSince, mem_map, mem_range]
  constructor
  · rintro ⟨n, hn, rfl⟩
    omega
  · rintro ⟨hfirst, hlast⟩
    exact ⟨year - first, by omega, by omega⟩

theorem mem_complete {year part : ℕ} : (year, part) ∈ c.complete first today ↔ first ≤ year ∧
    (1 ≤ part ∧ part ≤ c.parts) ∧ ((year : ℤ) < today.year ∨ (year : ℤ) = today.year ∧ part < c.current today) := by
  simp only [Cycle.complete, mem_flatMap, mem_filterMap, mem_map, mem_range, mem_yearsSince]
  constructor
  · rintro ⟨y, hy, p, ⟨n, hn, rfl⟩, hp⟩
    split at hp
    · cases hp
    · rename_i hlisted
      cases hp
      simp only [Bool.and_eq_true, decide_eq_true_eq, not_and, not_le] at hlisted
      refine ⟨hy.1, by omega, ?_⟩
      rcases lt_or_eq_of_le hy.2 with hlt | heq
      · exact .inl hlt
      · exact .inr ⟨heq, hlisted heq⟩
  · rintro ⟨hfirst, hpart, hended⟩
    refine ⟨year, ⟨hfirst, by omega⟩, part, ⟨part - 1, by omega, by omega⟩, ?_⟩
    rw [if_neg]
    simp only [Bool.and_eq_true, decide_eq_true_eq, not_and, not_le]
    omega

theorem pairwise_complete (first : ℕ) (today : Date) : (c.complete first today).Pairwise Before := by
  rw [Cycle.complete, pairwise_flatMap]
  constructor
  · intro year _
    rw [pairwise_filterMap, pairwise_map]
    refine pairwise_lt_range.imp ?_
    intro i j hij a ha b hb
    split at ha <;> cases ha
    split at hb <;> cases hb
    exact .inr ⟨rfl, by omega⟩
  · rw [yearsSince, pairwise_map]
    refine pairwise_lt_range.imp ?_
    intro i j hij a ha b hb
    obtain ⟨p, -, hp⟩ := mem_filterMap.mp ha
    obtain ⟨q, -, hq⟩ := mem_filterMap.mp hb
    split at hp <;> cases hp
    split at hq <;> cases hq
    exact .inl (by simp only; omega)

theorem mem_periods (hday : today.isValid = true) {year part : ℕ} :
    (year, part) ∈ c.complete 2016 today ↔ Completed c today year part := by
  rw [mem_complete]
  constructor
  · rintro ⟨hyear, hpart, hended⟩
    refine ⟨by omega, by omega, hended.imp_right fun h => ⟨h.1, (ended_iff c hday part).mpr (by omega)⟩⟩
  · rintro ⟨hyear, hpart, hended⟩
    refine ⟨by omega, by omega, hended.imp_right fun h => ⟨h.1, ?_⟩⟩
    exact_mod_cast (ended_iff c hday part).mp h.2

theorem addresses_eq (today : Date) (key : String) :
    c.list.addresses today key = (c.complete 2016 today).map fun q => c.address key q.1 q.2 := by
  cases c with
  | monthly => exact map_map
  | quarterly => exact map_map

theorem toList_zeroFill_int (i : ℤ) (width : ℕ) : ∃ k, (zeroFill (toString i) width).toList =
    signChars (decide (i < 0)) ++ (replicate k '0' ++ toDigits 10 i.natAbs) := by
  have htext := toList_toString_int i
  rw [chars_naturalNumeral] at htext
  refine ⟨width - (toString i).length, ?_⟩
  cases hsign : decide (i < 0) with
  | true =>
    rw [hsign] at htext
    have hminus : (toString i).toList = '-' :: toDigits 10 i.natAbs := htext
    simp only [zeroFill, hminus, String.toList_append, String.toList_ofList]
    rfl
  | false =>
    rw [hsign] at htext
    have hdigits : toString i = String.ofList (toDigits 10 i.natAbs) := String.toList_inj.mp (by
      rw [htext, String.toList_ofList]
      rfl)
    rw [hdigits, toList_zeroFill_toDigits (by decide) (by decide), String.length_ofList]
    rfl

theorem mem_zeroFill_int {d : Char} (h : d ∈ (zeroFill (toString i) width).toList) :
    d = '-' ∨ d.isDigit = true := by
  obtain ⟨k, hk⟩ := toList_zeroFill_int i width
  rw [hk] at h
  rcases mem_append.mp h with h | h
  · cases hsign : decide (i < 0) with
    | true =>
      rw [hsign] at h
      exact .inl (mem_singleton.mp h)
    | false =>
      rw [hsign] at h
      cases h
  · exact .inr (isDigit_of_mem_filled h)

theorem minus_ne_filled (cs : List Char) : '-' :: cs ≠ replicate k '0' ++ toDigits 10 n := by
  intro h
  have hdigit : Char.isDigit '-' = true := isDigit_of_mem_filled (by rw [← h]; exact mem_cons_self)
  cases hdigit

theorem zeroFill_int_inj {j : ℤ} (h : zeroFill (toString i) width = zeroFill (toString j) width) :
    i = j := by
  obtain ⟨k, hk⟩ := toList_zeroFill_int i width
  obtain ⟨l, hl⟩ := toList_zeroFill_int j width
  rw [h, hl] at hk
  by_cases hi : i < 0
  · by_cases hj : j < 0
    · rw [decide_eq_true hi, decide_eq_true hj] at hk
      have hvalue := congrArg digitsValue (append_cancel_left hk)
      rw [digitsValue_filled, digitsValue_filled] at hvalue
      omega
    · rw [decide_eq_true hi, decide_eq_false hj] at hk
      exact absurd hk.symm (minus_ne_filled _)
  · by_cases hj : j < 0
    · rw [decide_eq_false hi, decide_eq_true hj] at hk
      exact absurd hk (minus_ne_filled _)
    · rw [decide_eq_false hi, decide_eq_false hj] at hk
      have hvalue := congrArg digitsValue (append_cancel_left hk)
      rw [digitsValue_filled, digitsValue_filled] at hvalue
      omega

theorem zeroFill_zero (s : String) : zeroFill s 0 = s := by
  rw [zeroFill, Nat.zero_sub]
  split
  · rename_i h
    exact String.toList_inj.mp (by rw [h]; simp)
  · rename_i h
    exact String.toList_inj.mp (by rw [h]; simp)
  · exact String.empty_append

theorem partText_eq : ∃ width, ∀ part, c.partText part = zeroFill part width := by
  cases c with
  | monthly => exact ⟨2, fun _ => rfl⟩
  | quarterly => exact ⟨0, fun part => (zeroFill_zero part).symm⟩

theorem mosaicAddress_inj {series a b : String} (h : mosaicAddress series a key = mosaicAddress series b key) : a = b := by
  have hbehind := (String.append_left_inj _).mp ((String.append_left_inj key).mp h)
  exact (String.append_right_inj _).mp hbehind

/-- **The address of a mosaic tells its year and its part of the year**, since neither has the separator in it. -/
theorem address_inj {year' part' : ℤ} (h : c.address key year part = c.address key year' part') :
    year = year' ∧ part = part' := by
  obtain ⟨width, hwidth⟩ := partText_eq c
  have hseparator : ¬ (c.separator = '-' ∨ c.separator.isDigit = true) := by
    cases c <;> decide
  have hyear : ∀ i : ℤ, c.separator ∉ (toString i).toList := by
    intro i hmem
    rw [← zeroFill_zero (toString i)] at hmem
    exact hseparator (mem_zeroFill_int hmem)
  have hpart : c.separator ∉ (c.partText (toString part)).toList := by
    intro hmem
    rw [hwidth] at hmem
    exact hseparator (mem_zeroFill_int hmem)
  have hperiod := congrArg String.toList (mosaicAddress_inj h)
  rw [Cycle.periodText, Cycle.periodText, String.toList_append, String.toList_append,
    String.toList_append, String.toList_append, String.toList_singleton,
    append_assoc, append_assoc, singleton_append, singleton_append,
    append_cons_inj_of_notMem (hyear year) hpart] at hperiod
  have hparts : zeroFill (toString part) width = zeroFill (toString part') width := by
    rw [← hwidth, ← hwidth]
    exact String.toList_inj.mp hperiod.2.2
  exact ⟨Int.repr_injective (String.toList_inj.mp hperiod.1), zeroFill_int_inj hparts⟩

section Requests

variable {w : World} {apiKey token : Data}

/-- The key that is passed with a request, or found in the environment under the name that is passed. -/
inductive Provides (w : World) (key : String) : Data → Data → Prop
  | given (token : Data) : Provides w key (.str key) token
  | environment (name : String) (h : Value.lookup name w.environment = some key) : Provides w key .null (.str name)

theorem mosaicKey_run {a : Arguments} (h : Provides w key (a "api_key") (a "token_name")) :
    (mosaicKey a).runIn w = (.ok key, w) := by
  unfold mosaicKey
  generalize a "api_key" = apiKey at h
  generalize a "token_name" = token at h
  cases h with
  | given => rfl
  | environment name hname =>
    have hsetting : (Session.setting name).runIn w = (.ok (Value.lookup name w.environment), w) := rfl
    dsimp only
    rw [pure_bind, runIn_bind_of_ok hsetting, hname]
    rfl

theorem addresses_run (h : Provides w key apiKey token) :
    ((addressesCommand [c.list]).call [apiKey, token] []).runIn w = (.ok (strs (c.list.addresses w.today key)), w) := by
  obtain ⟨a, hbind, hkey, htoken⟩ : ∃ a, (addressesCommand [c.list]).bind [apiKey, token] [] = .ok a ∧
      a "api_key" = apiKey ∧ a "token_name" = token := ⟨_, rfl, rfl, rfl⟩
  have hrun : (mosaicKey a).runIn w = (.ok key, w) := mosaicKey_run (by rw [hkey, htoken]; exact h)
  rw [Command.runIn_call hbind]
  show SessionOn.runIn (mosaicKey a >>= _) w = _
  rw [runIn_bind_of_ok hrun]
  show (Except.ok (strs ([c.list].flatMap _)), w) = _
  rw [flatMap_singleton]

theorem compare_int (i j : ℤ) :
    (int i : Data).lt (.int j) = .ok (decide (i < j)) ∧ (int i : Data).gt (.int j) = .ok (decide (j < i)) ∧
      (int i : Data).ge (.int j) = .ok (decide (j ≤ i)) ∧ (int i : Data).same (.int j) = decide (i = j) := by
  refine ⟨rfl, rfl, congrArg Except.ok ?_, rfl⟩
  simp only [Num.le, Num.lt, Num.beq, ← Bool.decide_or, decide_eq_decide]
  omega

theorem checkPart_int (message : String) (parts : ℕ) (part : ℤ) : (do
    let low ← (int part : Data).lt 1
    let high ← if low then pure true else (int part : Data).gt (.int parts)
    if high then .error (.rejected .value message)) =
      if 1 ≤ part ∧ part ≤ parts then Except.ok () else .error (.rejected .value message) := by
  have hone : (1 : Data) = .int 1 := rfl
  rw [hone, (compare_int part 1).1, (compare_int part parts).2.1]
  by_cases hlow : part < 1
  · rw [decide_eq_true hlow, if_neg (by omega)]
    rfl
  · rw [decide_eq_false hlow]
    by_cases hhigh : parts < part
    · rw [decide_eq_true hhigh, if_neg (by omega)]
      rfl
    · rw [decide_eq_false hhigh, if_pos (by omega)]
      rfl

/-- What a check of a period lets through: there is no bound for the year from below. -/
def Allowed (parts currentYear current : ℕ) (year part : ℤ) : Prop :=
  (year < currentYear ∨ year = currentYear ∧ part < current) ∧ 1 ≤ part ∧ part ≤ parts

theorem checkPeriod_int (name : String) (parts currentYear current : ℕ) (year part : ℤ) :
    (Allowed parts currentYear current year part →
      checkPeriod name parts currentYear current (.int year) (.int part) = .ok ()) ∧
    (¬ Allowed parts currentYear current year part →
      ∃ message, checkPeriod name parts currentYear current (.int year) (.int part) = .error (.rejected .value message)) := by
  have hpart := checkPart_int (name ++ " must be between 1 and " ++ toString parts ++ ".") parts part
  unfold checkPeriod Allowed
  rw [(compare_int year currentYear).2.1, (compare_int year currentYear).2.2.2, (compare_int part current).2.2.1]
  by_cases hlater : (currentYear : ℤ) < year
  · rw [decide_eq_true hlater]
    exact ⟨fun h => by omega, fun _ => ⟨_, rfl⟩⟩
  · rw [decide_eq_false hlater]
    by_cases hyear : year = currentYear
    · rw [decide_eq_true hyear]
      by_cases hlate : (current : ℤ) ≤ part
      · rw [decide_eq_true hlate]
        exact ⟨fun h => by omega, fun _ => ⟨_, rfl⟩⟩
      · rw [decide_eq_false hlate]
        exact ⟨fun h => hpart.trans (if_pos h.2), fun h => ⟨_, hpart.trans (if_neg (by omega))⟩⟩
    · rw [decide_eq_false hyear]
      exact ⟨fun h => hpart.trans (if_pos h.2), fun h => ⟨_, hpart.trans (if_neg (by omega))⟩⟩

theorem found_run (read : Session String) (find : World → String → Except Fault String)
    (hread : read.runIn w = (.ok key, w)) : (do
      let key ← read
      let w ← get
      let url ← (find w key : Except Fault String)
      pure (.str url : Data) : Session Data).runIn w = ((find w key).map .str, w) := by
  have hget : (get : Session World).runIn w = (.ok w, w) := rfl
  rw [runIn_bind_of_ok hread, runIn_bind_of_ok hget]
  cases find w key <;> rfl

theorem find_run (h : Provides w key apiKey token) (year part : ℤ) :
    ((findCommand c).call [.int year, .int part, apiKey, token] []).runIn w =
      ((find c w.today key (.int year) (.int part)).map .str, w) := by
  obtain ⟨a, hbind, hyear, hpart, hkey⟩ : ∃ a, (findCommand c).bind [.int year, .int part, apiKey, token] [] = .ok a ∧
      a "year" = .int year ∧ a c.parameter = .int part ∧ Provides w key (a "api_key") (a "token_name") := by
    cases c <;> exact ⟨_, rfl, rfl, rfl, h⟩
  rw [Command.runIn_call hbind, ← hyear, ← hpart]
  exact found_run (mosaicKey a) (fun w key => find c w.today key (a "year") (a c.parameter)) (mosaicKey_run hkey)

theorem find_of_allowed (h : Allowed c.parts today.year.toNat (c.current today) year part) :
    find c today key (.int year) (.int part) = .ok (c.address key year part) := by
  rw [find, (checkPeriod_int c.partName c.parts today.year.toNat (c.current today) year part).1 h]
  rfl

theorem find_of_not_allowed (h : ¬ Allowed c.parts today.year.toNat (c.current today) year part) :
    ∃ message, find c today key (.int year) (.int part) = .error (.rejected .value message) := by
  obtain ⟨message, hcheck⟩ := (checkPeriod_int c.partName c.parts today.year.toNat (c.current today) year part).2 h
  rw [find, hcheck]
  exact ⟨message, rfl⟩

theorem completed_iff (hday : today.isValid = true) : Completed c today year part ↔
    2016 ≤ year ∧ Allowed c.parts today.year.toNat (c.current today) year part := by
  have hyear : (today.year.toNat : ℤ) = today.year := by
    simp only [Date.isValid, Bool.and_eq_true, decide_eq_true_eq] at hday
    omega
  rw [Allowed, hyear]
  constructor
  · rintro ⟨hsince, hwithin, hended⟩
    exact ⟨hsince, hended.imp_right fun h => ⟨h.1, (ended_iff c hday part).mp h.2⟩, hwithin⟩
  · rintro ⟨hsince, hended, hwithin⟩
    exact ⟨hsince, hwithin, hended.imp_right fun h => ⟨h.1, (ended_iff c hday part).mpr h.2⟩⟩

theorem address_mem_iff (hday : today.isValid = true) :
    c.address key year part ∈ c.list.addresses today key ↔ Completed c today year part := by
  rw [addresses_eq, mem_map]
  constructor
  · rintro ⟨⟨y, p⟩, hmem, haddress⟩
    obtain ⟨rfl, rfl⟩ := address_inj c haddress
    exact (mem_periods c hday).mp hmem
  · intro h
    have hyear : (year.toNat : ℤ) = year := Int.toNat_of_nonneg (by have := h.since; omega)
    have hpart : (part.toNat : ℤ) = part := Int.toNat_of_nonneg (by have := h.within; omega)
    refine ⟨(year.toNat, part.toNat), (mem_periods c hday).mpr (by rwa [hyear, hpart]), ?_⟩
    rw [hyear, hpart]

theorem nodup_addresses (today : Date) (key : String) : (c.list.addresses today key).Nodup := by
  rw [addresses_eq, nodup_iff_pairwise_ne, pairwise_map]
  refine (pairwise_complete c 2016 today).imp ?_
  intro a b hbefore heq
  obtain ⟨hyear, hpart⟩ := address_inj c heq
  rcases hbefore with h | h <;> omega

/-- A request agrees with a list: it gives the address if it is listed, and is refused otherwise. -/
structure Agrees (answer : Except Fault Data) (url : String) (urls : List String) : Prop where
  found : url ∈ urls → answer = .ok (.str url)
  refused : url ∉ urls → ∃ message, answer = .error (.rejected .value message)

theorem agrees_iff (hday : today.isValid = true) (year part : ℤ) :
    Agrees ((find c today key (.int year) (.int part)).map .str) (c.address key year part) (c.list.addresses today key) ↔
      ¬ (year < 2016 ∧ Allowed c.parts today.year.toNat (c.current today) year part) := by
  have hlisted : c.address key year part ∈ c.list.addresses today key ↔
      2016 ≤ year ∧ Allowed c.parts today.year.toNat (c.current today) year part :=
    (address_mem_iff c hday).trans (completed_iff c hday)
  constructor
  · rintro ⟨-, hrefused⟩ ⟨hearly, hallowed⟩
    obtain ⟨message, hmessage⟩ := hrefused fun hmem => by
      have hsince := (hlisted.mp hmem).1
      omega
    rw [find_of_allowed c hallowed] at hmessage
    cases hmessage
  · intro hlate
    constructor
    · intro hmem
      exact congrArg _ (find_of_allowed c (hlisted.mp hmem).2)
    · intro hmem
      have hrefused : ¬ Allowed c.parts today.year.toNat (c.current today) year part := by
        intro hallowed
        refine hmem (hlisted.mpr ⟨?_, hallowed⟩)
        by_contra hearly
        exact hlate ⟨by omega, hallowed⟩
      obtain ⟨message, hmessage⟩ := find_of_not_allowed c hrefused
      exact ⟨message, congrArg _ hmessage⟩

/-- **Requests agree with the lists, except for the parts of years before 2016.** A list holds the periods that are over
since January 2016, each once and in order. A request gives an address if it is listed and is refused if not; but asked for
a part of a year before 2016, which is never listed, it gives an address as well. -/
theorem requests_agree_iff (hday : w.today.isValid = true) (hyear : 2016 ≤ w.today.year) (h : Provides w key apiKey token) :
    ∃ periods : List (ℕ × ℕ), (∀ year part : ℕ, (year, part) ∈ periods ↔ Completed c w.today year part) ∧
      periods.Pairwise Before ∧
    ∃ urls : List String, urls = periods.map (fun q => c.address key q.1 q.2) ∧ urls.Nodup ∧
      ((addressesCommand [c.list]).call [apiKey, token] []).runIn w = (.ok (Value.strs urls), w) ∧
    ∀ year part : ℤ, ∃ answer, ((findCommand c).call [.int year, .int part, apiKey, token] []).runIn w = (answer, w) ∧
      (Agrees answer (c.address key year part) urls ↔ 2016 ≤ year ∨ part < 1 ∨ c.parts < part) ∧
      (year < 2016 → 1 ≤ part ∧ part ≤ c.parts →
        answer = .ok (.str (c.address key year part)) ∧ c.address key year part ∉ urls) := by
  refine ⟨c.complete 2016 w.today, fun year part => mem_periods c hday, pairwise_complete c 2016 w.today,
    c.list.addresses w.today key, addresses_eq c w.today key, nodup_addresses c w.today key, addresses_run c h, ?_⟩
  intro year part
  -- before 2016 a year is over, so all that is checked is the part
  have hearly : year < 2016 →
      (Allowed c.parts w.today.year.toNat (c.current w.today) year part ↔ 1 ≤ part ∧ part ≤ c.parts) := by
    intro hyear'
    rw [Allowed]
    omega
  refine ⟨_, find_run c h year part, ?_, ?_⟩
  · rw [agrees_iff c hday]
    constructor
    · intro hnot
      by_contra hpart
      exact hnot ⟨by omega, (hearly (by omega)).mpr (by omega)⟩
    · rintro hpart ⟨hyear', hallowed⟩
      have hwithin := (hearly hyear').mp hallowed
      omega
  · intro hyear' hwithin
    refine ⟨congrArg _ (find_of_allowed c ((hearly hyear').mpr hwithin)), fun hmem => ?_⟩
    have hsince := ((address_mem_iff c hday).mp hmem).since
    omega

end Requests

/-- On the first day of a quarter the quarter before is listed, and the key is found in the environment. -/
theorem requests_agree_iff_october :
    let w : World := { today := ⟨2023, 10, 1⟩, environment := [("KEY", "k")] }
    w.today.isValid = true ∧ Completed .quarterly w.today 2023 3 ∧ ¬ Completed .quarterly w.today 2023 4 ∧
      (byQuarterCommand.call [.int 2023, .int 3, .null, "KEY"]).runIn w =
        (.ok (.str (Cycle.quarterly.address "k" 2023 3)), w) := by
  intro w
  have hkey : Provides w "k" .null (.str "KEY") := .environment "KEY" rfl
  have hthird : Completed .quarterly w.today 2023 3 := ⟨by decide, by decide, .inr ⟨rfl, by decide⟩⟩
  have hfourth : ¬ Completed .quarterly w.today 2023 4 := by
    rintro ⟨-, -, h | h⟩
    · exact absurd h (by decide)
    · exact absurd h.2 (by decide)
  refine ⟨rfl, hthird, hfourth, ?_⟩
  obtain ⟨periods, hperiods, -, urls, hurls, -, -, hrequest⟩ := requests_agree_iff .quarterly rfl (by decide) hkey
  obtain ⟨answer, hrun, hagrees, -⟩ := hrequest 2023 3
  have hmem : Cycle.quarterly.address "k" 2023 3 ∈ urls := by
    rw [hurls]
    exact List.mem_map.mpr ⟨(2023, 3), (hperiods 2023 3).mpr hthird, rfl⟩
  rw [← (hagrees.mpr (.inl (by decide))).found hmem]
  exact hrun

theorem early_month_found :
    let w : World := { today := ⟨2024, 5, 15⟩ }
    (byMonthCommand.call [.int 2015, .int 3, "k"]).runIn w = (.ok (.str (Cycle.monthly.address "k" 2015 3)), w) ∧
      ∃ urls, ((addressesCommand [.monthly]).call ["k"] []).runIn w = (.ok (strs urls), w) ∧
        Cycle.monthly.address "k" 2015 3 ∉ urls := by
  intro w
  have hkey : Provides w "k" (.str "k") (.str "PLANET_API_KEY") := .given _
  have hallowed : Allowed 12 2024 5 2015 3 := ⟨.inl (by decide), by decide, by decide⟩
  have hfound : find .monthly w.today "k" (.int 2015) (.int 3) = .ok (Cycle.monthly.address "k" 2015 3) :=
    find_of_allowed .monthly hallowed
  refine ⟨?_, _, addresses_run .monthly hkey, fun hmem => ?_⟩
  · refine (find_run .monthly hkey 2015 3).trans ?_
    rw [hfound]
    rfl
  · exact absurd ((address_mem_iff .monthly rfl).mp hmem).since (by decide)

end RemoteSensing.Basemap
