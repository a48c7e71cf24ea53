import RemoteSensing.Text.Basic

/-!
Days and instants.
-/

namespace RemoteSensing

structure Date where
  year : Int
  month : Nat
  day : Nat
deriving DecidableEq, Repr, Inhabited

namespace Date

def isLeap (year : Int) : Bool :=
  year % 4 == 0 && (year % 100 != 0 || year % 400 == 0)

def monthLength (year : Int) (month : Nat) : Nat :=
  if month == 2 then (if isLeap year then 29 else 28)
  else if month == 4 || month == 6 || month == 9 || month == 11 then 30
  else 31

def isValid (d : Date) : Bool :=
  1 ≤ d.year && d.year ≤ 9999 && 1 ≤ d.month && d.month ≤ 12 && 1 ≤ d.day &&
    d.day ≤ monthLength d.year d.month

def toDays (d : Date) : Int :=
  let y := if d.month ≤ 2 then d.year - 1 else d.year
  let era := y / 400
  let yearOfEra := y % 400
  let shifted : Int := ((d.month + 9) % 12 : Nat)
  let dayOfYear := (153 * shifted + 2) / 5 + d.day - 1
  let dayOfEra := yearOfEra * 365 + yearOfEra / 4 - yearOfEra / 100 + dayOfYear
  era * 146097 + dayOfEra - 719468

def ofDays (n : Int) : Date :=
  let z := n + 719468
  let era := z / 146097
  let dayOfEra := z % 146097
  let yearOfEra := (dayOfEra - dayOfEra / 1460 + dayOfEra / 36524 - dayOfEra / 146096) / 365
  let dayOfYear := dayOfEra - (365 * yearOfEra + yearOfEra / 4 - yearOfEra / 100)
  let shifted := (5 * dayOfYear + 2) / 153
  let day := dayOfYear - (153 * shifted + 2) / 5 + 1
  let month := if shifted < 10 then shifted + 3 else shifted - 9
  let year := yearOfEra + era * 400
  ⟨if month ≤ 2 then year + 1 else year, month.toNat, day.toNat⟩

def weekday (d : Date) : Nat := ((d.toDays + 3) % 7).toNat

def text (d : Date) : String :=
  Text.zeroFill (toString d.year) 4 ++ "-" ++ Text.zeroFill (toString d.month) 2 ++ "-" ++
    Text.zeroFill (toString d.day) 2

end Date

structure Moment where
  micros : Int
  offset : Option Int
deriving DecidableEq, Repr, Inhabited

namespace Moment

def perDay : Int := 86400000000

def ofDate (d : Date) : Moment := ⟨d.toDays * perDay, some 0⟩

def shown (m : Moment) : Int := m.micros + (m.offset.getD 0) * 60000000

def date (m : Moment) : Date := Date.ofDays (m.shown / perDay)

def twoDigits (n : Int) : String := Text.zeroFill (toString n) 2

def timeText (m : Moment) : String :=
  let t := m.shown % perDay
  let seconds := t / 1000000
  let rest := t % 1000000
  twoDigits (seconds / 3600) ++ ":" ++ twoDigits (seconds / 60 % 60) ++ ":" ++ twoDigits (seconds % 60) ++
    (if rest == 0 then "" else "." ++ Text.zeroFill (toString rest) 6)

def offsetText (m : Moment) : String :=
  match m.offset with
  | none => ""
  | some o =>
    (if o < 0 then "-" else "+") ++ twoDigits (o.natAbs / 60 : Nat) ++ ":" ++ twoDigits (o.natAbs % 60 : Nat)

def text (m : Moment) : String := m.date.text ++ " " ++ m.timeText ++ m.offsetText

end Moment

def weekdayNames : List String := ["Monday", "Tuesday", "Wednesday", "Thursday", "Friday", "Saturday", "Sunday"]

def monthNames : List String :=
  ["January", "February", "March", "April", "May", "June", "July", "August", "September", "October", "November",
    "December"]

def shortName (name : String) : String := String.ofList (name.toList.take 3)

structure Clock where
  date : Date
  hour : Nat := 0
  minute : Nat := 0
  second : Nat := 0
  nano : Nat := 0
  offset : Option Int := none
  zone : String := ""
deriving Repr, Inhabited

namespace Clock

def complaint? (c : Clock) : Option String :=
  if c.date.year < 1 || 9999 < c.date.year then some ("year " ++ toString c.date.year ++ " is out of range")
  else if c.date.month < 1 || 12 < c.date.month then some "month must be in 1..12"
  else if !c.date.isValid then some "day is out of range for month"
  else if 23 < c.hour then some "hour must be in 0..23"
  else if 59 < c.minute then some "minute must be in 0..59"
  else if 59 < c.second then some "second must be in 0..59"
  else none

def twoDigits (n : Nat) : String := Text.zeroFill (toString n) 2

def offsetDigits (c : Clock) : String :=
  match c.offset with
  | none => ""
  | some o => (if o < 0 then "-" else "+") ++ twoDigits (o.natAbs / 60) ++ twoDigits (o.natAbs % 60)

def nanos (c : Clock) : Int :=
  let seconds : Int := ((c.hour * 60 + c.minute) * 60 + c.second : Nat)
  (c.date.toDays * 86400 + seconds - c.offset.getD 0 * 60) * 1000000000 + c.nano

end Clock

structure Stamp where
  nanos : Int
  offset : Option Int := none
deriving Repr, DecidableEq, Inhabited

namespace Stamp

def fits (s : Stamp) : Bool := decide (-Int.pow 2 63 < s.nanos) && decide (s.nanos < Int.pow 2 63)

def ofClock (c : Clock) : Stamp := ⟨c.nanos, c.offset⟩

def text (s : Stamp) : String :=
  let m : Moment := ⟨s.nanos / 1000, s.offset⟩
  let rest := (s.nanos % 1000).toNat
  if rest = 0 then m.text
  else
    let micros := (m.shown % 1000000).toNat
    let whole : Moment := ⟨m.micros - micros, s.offset⟩
    whole.date.text ++ " " ++ whole.timeText ++ "." ++ Text.zeroFill (toString (micros * 1000 + rest)) 9 ++
      whole.offsetText

end Stamp

end RemoteSensing

/-!
Dates in the international order: year, month and day, then hour, minute and second, each part as far as it is known.
-/

namespace RemoteSensing.Iso

structure Progress where
  clock : Clock
  format : String
  rest : List Char

def small? (oneAllowed : Bool) (cs : List Char) : Option (Nat × Bool × List Char) :=
  let value (c : Char) : Nat := c.toNat - 48
  match cs with
  | a :: b :: r =>
    if !a.isDigit then none
    else if b.isDigit then some (10 * value a + value b, true, r)
    else if oneAllowed then some (value a, false, b :: r) else none
  | [a] => if a.isDigit && oneAllowed then some (value a, false, []) else none
  | [] => none

def zone? (p : Progress) : Option Progress :=
  let finish (offset : Int) (rest : List Char) : Option Progress :=
    if rest.all Char.isWhitespace then
      some ⟨{ p.clock with offset := some offset }, p.format ++ "%z", []⟩
    else none
  let signed (negative : Bool) (rest : List Char) : Option Progress := do
    let (hours, _, rest) ← small? true rest
    let (minutes, rest) ← match rest with
      | [] => some (0, [])
      | ':' :: r => (small? true r).map fun x => (x.1, x.2.2)
      | r => if r.all Char.isWhitespace then none else (small? true r).map fun x => (x.1, x.2.2)
    if 24 ≤ hours || 60 ≤ minutes then none
    let offset : Int := (hours * 60 + minutes : Nat)
    finish (if negative then -offset else offset) rest
  match p.rest.dropWhile Char.isWhitespace with
  | [] => some { p with rest := [] }
  | 'Z' :: r => finish 0 r
  | '-' :: r => signed true r
  | '+' :: r => signed false r
  | _ => none

def fraction? (p : Progress) : Option Progress :=
  match p.rest with
  | '.' :: r =>
    let digits := (r.takeWhile Char.isDigit).take 18
    let nine := (digits ++ List.replicate 9 '0').take 9
    let nano := nine.foldl (fun n c => 10 * n + (c.toNat - 48)) 0
    zone? ⟨{ p.clock with nano := nano }, p.format ++ ".%f", r.drop digits.length⟩
  | _ => zone? p

def second? (separated : Bool) (p : Progress) : Option Progress := do
  let (n, _, rest) ← small? separated p.rest
  if 60 ≤ n then none
  fraction? ⟨{ p.clock with second := n }, p.format ++ "%S", rest⟩

def minute? (separated : Bool) (p : Progress) : Option Progress := do
  let (n, _, rest) ← small? separated p.rest
  if 60 ≤ n then none
  let p : Progress := ⟨{ p.clock with minute := n }, p.format ++ "%M", rest⟩
  match rest with
  | [] => some p
  | ':' :: r => if separated then second? true { p with format := p.format ++ ":", rest := r } else zone? p
  | c :: _ => if c.isDigit && !separated then second? false p else zone? p

def hour? (p : Progress) : Option Progress := do
  let (n, full, rest) ← small? true p.rest
  if 24 ≤ n then none
  let p : Progress := ⟨{ p.clock with hour := n }, p.format ++ "%H", rest⟩
  match rest with
  | [] => if full then some p else none
  | ':' :: r => minute? true { p with format := p.format ++ ":", rest := r }
  | c :: _ => if c.isDigit then minute? false p else if full then zone? p else none

def day? (separated : Bool) (p : Progress) : Option Progress := do
  let (n, _, rest) ← small? separated p.rest
  let date := { p.clock.date with day := n }
  if n < 1 || Date.monthLength date.year date.month < n then none
  let p : Progress := ⟨{ p.clock with date := date }, p.format ++ "%d", rest⟩
  match rest with
  | [] => some p
  | c :: r => if c == 'T' || c == ' ' then hour? { p with format := p.format.push c, rest := r } else none

def month? (separator : Option Char) (p : Progress) : Option Progress := do
  let (n, _, rest) ← small? separator.isSome p.rest
  if n < 1 || 12 < n then none
  let p : Progress :=
    ⟨{ p.clock with date := { p.clock.date with month := n } }, p.format ++ "%m", rest⟩
  match separator, rest with
  | none, [] => none
  | some _, [] => some p
  | none, _ => day? false p
  | some s, c :: r => if c == s then day? true { p with format := p.format.push s, rest := r } else none

def read? (s : String) : Option (Clock × String) := do
  let cs := s.toList.dropWhile Char.isWhitespace
  let digits := cs.take 4
  if digits.length < 4 || !digits.all Char.isDigit then none
  let year : Nat := digits.foldl (fun n c => 10 * n + (c.toNat - 48)) 0
  let p : Progress := ⟨{ date := ⟨year, 1, 1⟩ }, "%Y", cs.drop 4⟩
  let p ← match p.rest with
    | [] => some p
    | c :: r =>
      if c.isDigit then month? none p
      else if ['-', '.', '/', '\\', ' '].contains c then
        month? (some c) { p with format := p.format.push c, rest := r }
      else none
  pure (p.clock, p.format)

end RemoteSensing.Iso
