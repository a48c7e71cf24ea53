import RemoteSensing.Calendar
import RemoteSensing.Decimal.Notation

/-!
Dates and times as people write them: "Jan 5 2020", "1/2/2020", "5 January 2020 10:30 pm".
-/

namespace RemoteSensing.Written

open Text

inductive Run where
  | none
  | word
  | number
  | dottedWord
  | dottedNumber

def isLetter (c : Char) : Bool := isAlphanumeric c && (decimal? c).isNone

def isDigit (c : Char) : Bool := (decimal? c).isSome

def cutAtPoints : List Char → List Char → List String
  | acc, [] => if acc.isEmpty then [] else [String.ofList acc.reverse]
  | acc, c :: r =>
    if c == '.' || c == ',' then
      (if acc.isEmpty then [] else [String.ofList acc.reverse]) ++ String.singleton c :: cutAtPoints [] r
    else cutAtPoints (c :: acc) r

def finished (run : Run) (letters : Bool) (token : List Char) : List String :=
  let cs := token.reverse
  let odd := letters || 1 < cs.count '.' || token.head? == some '.' || token.head? == some ','
  match run with
  | .none => []
  | .word | .number => [String.ofList cs]
  | .dottedWord => if odd then cutAtPoints [] cs else [String.ofList cs]
  | .dottedNumber =>
    if odd then cutAtPoints [] cs
    else [String.ofList (if cs.contains '.' then cs else cs.map fun c => if c == ',' then '.' else c)]

/-- What a token is when `c` is added to it, or nothing if `c` ends it. -/
def grown? (token : List Char) (c : Char) : Run → Option Run
  | .none => none
  | .word => if isLetter c then some .word else if c == '.' then some .dottedWord else none
  | .number =>
    if isDigit c then some .number
    else if c == '.' || (c == ',' && 2 ≤ token.length) then some .dottedNumber else none
  | .dottedWord =>
    if c == '.' || isLetter c then some .dottedWord
    else if isDigit c && token.head? == some '.' then some .dottedNumber else none
  | .dottedNumber =>
    if c == '.' || isDigit c then some .dottedNumber
    else if isLetter c && token.head? == some '.' then some .dottedWord else none

def split (run : Run) (letters : Bool) (token : List Char) : List Char → List String
  | [] => finished run letters token
  | c :: r =>
    let letters := letters || run matches .word | .dottedWord
    match grown? token c run with
    | some run => split run letters (c :: token) r
    | none =>
      finished run letters token ++
        if isLetter c then split .word false [c] r
        else if isDigit c then split .number false [c] r
        else (if isBlank c then " " else String.singleton c) :: split .none false [] r

def tokens (s : String) : List String := split .none false [] (s.toList.filter fun c => c.toNat ≠ 0)

def position? (forms : List (List String)) (word : String) : Option Nat :=
  forms.findIdx? fun fs => fs.contains (lower word)

def weekday? : String → Option Nat :=
  position? (weekdayNames.map fun n => [lower (shortName n), lower n])

def month? (word : String) : Option Nat :=
  (position? (monthNames.map fun n =>
    [lower (shortName n), lower n] ++ if n == "September" then ["sept"] else []) word).map (· + 1)

def unit? : String → Option Nat :=
  position? [["h", "hour", "hours"], ["m", "minute", "minutes"], ["s", "second", "seconds"]]

def half? : String → Option Nat := position? [["am", "a"], ["pm", "p"]]

def isJump (word : String) : Bool :=
  [" ", ".", ",", ";", "-", "/", "'", "at", "on", "and", "ad", "m", "t", "of", "st", "nd", "rd", "th"].contains
    (lower word)

def universalNames : List String := ["UTC", "GMT", "Z", "z"]

structure Number where
  digits : Nat
  places : Nat

def Number.whole (n : Number) : Nat := n.digits / Nat.pow 10 n.places

def Number.sixtieths? (n : Number) : Option Nat :=
  let rest := n.digits % Nat.pow 10 n.places
  if rest = 0 then none else some (60 * rest / Nat.pow 10 n.places)

def natOf? (s : String) : Option Nat :=
  if s.isEmpty then none
  else s.toList.foldlM (fun n c => (decimal? c).map fun d => 10 * n + d) 0

def number? (s : String) : Option Number :=
  match Text.split s "." with
  | [a] => (natOf? a).map fun n => ⟨n, 0⟩
  | [a, b] => (natOf? (a ++ b)).map fun n => ⟨n, b.length⟩
  | _ => none

def seconds? (s : String) : Option (Nat × Nat) :=
  match Text.split s "." with
  | [a] => (natOf? a).map fun n => (n, 0)
  | [a, b] => do
    let micros := String.ofList ((b.toList ++ List.replicate 6 '0').take 6)
    pure (← natOf? a, ← natOf? micros)
  | _ => none

inductive Label where
  | year
  | month
deriving DecidableEq

structure Parts where
  values : List Nat := []
  yearAt : Option Nat := none
  monthAt : Option Nat := none
  century : Bool := false

namespace Parts

def add (p : Parts) (value : Nat) (long : Bool) (label : Option Label := none) : Option Parts :=
  if long && label == some .month then none
  else
    let here := p.values.length
    let q := { p with values := p.values ++ [value], century := p.century || long }
    match if long then some Label.year else label with
    | some .year => if p.yearAt.isSome then none else some { q with yearAt := some here }
    | some .month => if p.monthAt.isSome then none else some { q with monthAt := some here }
    | none => some q

def addText (p : Parts) (s : String) (label : Option Label := none) : Option Parts := do
  p.add (← natOf? s) (decide (2 < s.length)) label

def addNumber (p : Parts) (n : Number) : Option Parts :=
  let above := decide (100 * Nat.pow 10 n.places < n.digits)
  p.add n.whole above

def couldBeDay (p : Parts) (n : Number) : Bool :=
  let unit := Nat.pow 10 n.places
  let most := match p.monthAt, p.yearAt with
    | none, _ => 31
    | some m, none => Date.monthLength 2000 (p.values.getD m 1)
    | some m, some y => Date.monthLength (p.values.getD y 1) (p.values.getD m 1)
  unit ≤ n.digits && n.digits ≤ most * unit

def resolve (p : Parts) : Option (Option Nat × Option Nat × Option Nat) :=
  let year := p.yearAt.map fun i => p.values.getD i 0
  let month := p.monthAt.map fun i => p.values.getD i 0
  let known := p.yearAt.toList.length + p.monthAt.toList.length
  match p.values with
  | [] => some (none, none, none)
  | [a] =>
    if known = 1 then some (year, month, none)
    else if 31 < a then some (some a, none, none) else some (none, none, some a)
  | [a, b] =>
    if known = 2 then some (year, month, none)
    else
      match p.monthAt with
      | some i =>
        let other := if i = 0 then b else a
        if 31 < other then some (some other, month, none) else some (none, month, some other)
      | none =>
        if 31 < a then some (some a, some b, none)
        else if 31 < b then some (some b, some a, none)
        else some (none, some a, some b)
  | [a, b, c] =>
    match p.yearAt, p.monthAt with
    | some i, some j =>
      some (year, month, some ([a, b, c].getD (3 - i - j) 0))
    | _, some 0 => if 31 < b then some (some b, some a, some c) else some (some c, some a, some b)
    | _, some 1 => if 31 < a then some (some a, some b, some c) else some (some c, some b, some a)
    | _, some _ => if 31 < b then some (some b, some c, some a) else some (some a, some c, some b)
    | yearAt, none =>
      if 31 < a || yearAt == some 0 then some (some a, some b, some c)
      else if 12 < a then some (some c, some b, some a)
      else some (some c, some a, some b)
  | _ => none

end Parts

structure Found where
  parts : Parts := {}
  hour : Option Nat := none
  minute : Option Nat := none
  second : Option Nat := none
  micro : Option Nat := none
  weekday : Option Nat := none
  zone : Option String := none
  offset : Option Int := none

def hourIn (half hour : Nat) : Nat :=
  if hour < 12 && half = 1 then hour + 12 else if hour = 12 && half = 0 then 0 else hour

def Found.setUnit (f : Found) (text : String) (unit : Nat) : Option Found := do
  let n ← number? text
  match unit with
  | 0 => pure { f with hour := some n.whole, minute := n.sixtieths?.or f.minute }
  | 1 => pure { f with minute := some n.whole, second := n.sixtieths? }
  | 2 =>
    let (s, m) ← seconds? text
    pure { f with second := some s, micro := some m }
  | _ => pure f

def unitPlace? (ts : Array String) (i : Nat) : Option Nat :=
  let unitAt (j : Nat) : Bool := (ts[j]?.bind unit?).isSome
  let blankAt (j : Nat) : Bool := ts[j]? == some " "
  if unitAt (i + 1) then some (i + 1)
  else if blankAt (i + 1) && unitAt (i + 2) then some (i + 2)
  else if 0 < i && unitAt (i - 1) then some (i - 1)
  else if 1 < i && i + 1 = ts.size && blankAt (i - 1) && unitAt (i - 2) then some (i - 2)
  else none

def cut? (s : String) (first last : Nat) : Option Nat := natOf? (String.ofList ((s.toList.take last).drop first))

def separated (ts : Array String) (i : Nat) (text : String) (f : Found) : Option (Found × Nat) := do
  let mark := ts[i + 1]?
  let parts ← f.parts.addText text
  match ts[i + 2]? with
  | none => pure ({ f with parts := parts }, i + 1)
  | some second =>
    if isJump second then pure ({ f with parts := parts }, i + 1)
    else
      let parts ←
        if second.toList.all isDigit then parts.addText second
        else do parts.add (← month? second) false (some .month)
      if ts[i + 3]? == mark && mark.isSome then
        let third ← ts[i + 4]?
        let parts ← match month? third with
          | some m => parts.add m false (some .month)
          | none => parts.addText third
        pure ({ f with parts := parts }, i + 4)
      else pure ({ f with parts := parts }, i + 2)

def takeNumber (ts : Array String) (i : Nat) (text : String) (f : Found) : Option (Found × Nat) := do
  let value ← number? text
  let length := text.length
  let next := ts[i + 1]?
  let nextIsUnit := (next.bind unit?).isSome
  if f.parts.values.length = 3 && (length = 2 || length = 4) && f.hour.isNone &&
      (next.isNone || (next != some ":" && !nextIsUnit)) then
    let hour ← cut? text 0 2
    if length = 4 then pure ({ f with hour := some hour, minute := some (← cut? text 2 4) }, i)
    else pure ({ f with hour := some hour }, i)
  else if length = 6 || (6 < length && Text.find? text "." == some 6) then
    if f.parts.values.isEmpty && !contains text "." then
      let parts ← f.parts.add (← cut? text 0 2) false
      let parts ← parts.add (← cut? text 2 4) false
      let parts ← parts.add (← cut? text 4 6) false
      pure ({ f with parts := parts }, i)
    else
      let (s, m) ← seconds? (String.ofList (text.toList.drop 4))
      pure ({ f with hour := some (← cut? text 0 2), minute := some (← cut? text 2 4), second := some s,
                     micro := some m }, i)
  else if length = 8 || length = 12 || length = 14 then
    let parts ← f.parts.add (← cut? text 0 4) true (some .year)
    let parts ← parts.add (← cut? text 4 6) false
    let parts ← parts.add (← cut? text 6 8) false
    let f := { f with parts := parts }
    if length = 8 then pure (f, i)
    else
      let f := { f with hour := some (← cut? text 8 10), minute := some (← cut? text 10 12) }
      if length = 12 then pure (f, i) else pure ({ f with second := some (← cut? text 12 14) }, i)
  else
    match unitPlace? ts i with
    | some j =>
      let unit ← ts[j]?.bind unit?
      pure (← f.setUnit text (if i < j then unit else unit + 1), max i j)
    | none =>
      if next == some ":" && i + 2 < ts.size then
        let minutes ← number? (ts.getD (i + 2) "")
        let f := { f with hour := some value.whole, minute := some minutes.whole, second := minutes.sixtieths? }
        if ts[i + 3]? == some ":" && i + 4 < ts.size then
          let (s, m) ← seconds? (ts.getD (i + 4) "")
          pure ({ f with second := some s, micro := some m }, i + 4)
        else pure (f, i + 2)
      else if next == some "-" || next == some "/" || next == some "." then separated ts i text f
      else if next.all isJump then
        match ts[i + 2]?.bind half? with
        | some half => pure ({ f with hour := some (hourIn half value.whole) }, i + 2)
        | none => pure ({ f with parts := ← f.parts.addNumber value }, i + 1)
      else
        match next.bind half? with
        | some half =>
          if value.digits < 24 * Nat.pow 10 value.places then
            pure ({ f with hour := some (hourIn half value.whole) }, i + 1)
          else if f.parts.couldBeDay value then pure ({ f with parts := ← f.parts.addNumber value }, i)
          else none
        | none => if f.parts.couldBeDay value then pure ({ f with parts := ← f.parts.addNumber value }, i) else none

def takeMonth (ts : Array String) (i month : Nat) (f : Found) : Option (Found × Nat) := do
  let parts ← f.parts.add month false (some .month)
  match ts[i + 1]? with
  | none => pure ({ f with parts := parts }, i)
  | some mark =>
    if mark == "-" || mark == "/" then
      let parts ← parts.addText (← ts[i + 2]?)
      if ts[i + 3]? == some mark then
        pure ({ f with parts := ← parts.addText (← ts[i + 4]?) }, i + 4)
      else pure ({ f with parts := parts }, i + 2)
    else if i + 4 < ts.size && mark == " " && ts[i + 3]? == some " " &&
        (ts[i + 2]?).any (fun t => lower t == "of") then
      let year := ts.getD (i + 4) ""
      if year.toList.all isDigit then
        pure ({ f with parts := ← parts.addText year (some .year) }, i + 4)
      else pure ({ f with parts := parts }, i + 4)
    else pure ({ f with parts := parts }, i)

def couldBeZone (f : Found) (offset : Option Int) (word : String) : Bool :=
  f.hour.isSome && f.zone.isNone && offset.isNone && decide (word.length ≤ 5) &&
    (word.toList.all Char.isUpper || universalNames.contains word)

def takeOffset (ts : Array String) (i : Nat) (negative : Bool) (f : Found) : Option (Found × Nat) := do
  let digits ← ts[i + 1]?
  let (hours, minutes, i) ←
    if digits.length = 4 then do pure (← cut? digits 0 2, ← cut? digits 2 4, i)
    else if ts[i + 2]? == some ":" then do pure (← natOf? digits, ← natOf? (← ts[i + 3]?), i + 2)
    else if digits.length ≤ 2 then do pure (← natOf? digits, 0, i)
    else none
  let seconds : Int := (hours * 3600 + minutes * 60 : Nat)
  let f := { f with offset := some (if negative then -seconds else seconds) }
  let name := ts.getD (i + 4) ""
  if i + 5 < ts.size && isJump (ts.getD (i + 2) "") && ts[i + 3]? == some "(" && ts[i + 5]? == some ")" &&
      3 ≤ name.length && couldBeZone f none name then
    pure ({ f with zone := some name }, i + 5)
  else pure (f, i + 1)

def walk : Nat → Array String → Nat → Found → Option Found
  | 0, _, _, f => some f
  | fuel + 1, ts, i, f =>
    match ts[i]? with
    | none => some f
    | some t =>
      if (Decimal.read? t).isSome then do
        let (f, j) ← takeNumber ts i t f
        walk fuel ts (j + 1) f
      else
        match weekday? t, month? t with
        | some d, _ => walk fuel ts (i + 1) { f with weekday := some d }
        | none, some m => do
          let (f, j) ← takeMonth ts i m f
          walk fuel ts (j + 1) f
        | none, none =>
          match half? t with
          | some half =>
            match f.hour with
            | some h => if h ≤ 12 then walk fuel ts (i + 1) { f with hour := some (hourIn half h) } else none
            | none => none
          | none =>
            if couldBeZone f f.offset t then
              let next := ts.getD (i + 1) ""
              if next == "+" || next == "-" then
                let ts := ts.set! (i + 1) (if next == "+" then "-" else "+")
                let zone := if universalNames.any (fun n => lower n == lower t) then none else some t
                walk fuel ts (i + 1) { f with zone := zone }
              else walk fuel ts (i + 1) { f with zone := some t }
            else if f.hour.isSome && (t == "+" || t == "-") then do
              let (f, j) ← takeOffset ts i (t == "-") f
              walk fuel ts (j + 1) f
            else if isJump t then walk fuel ts (i + 1) f
            else none

def presentYear : Nat := 2025

def fullYear (year : Nat) (century : Bool) : Nat :=
  if 100 ≤ year || century then year
  else
    let y := year + presentYear / 100 * 100
    if presentYear + 50 ≤ y then y - 100 else if y + 50 < presentYear then y + 100 else y

structure Result where
  year : Option Nat
  month : Option Nat
  day : Option Nat
  found : Found

def find? (s : String) : Option Result := do
  let ts := tokens s
  let f ← walk (ts.length + 1) ts.toArray 0 {}
  let (year, month, day) ← f.parts.resolve
  let f :=
    if (f.offset == some 0 && f.zone.isNone) || f.zone == some "Z" || f.zone == some "z" then
      { f with zone := some "UTC", offset := some 0 }
    else if (f.zone.any fun z => universalNames.any fun n => lower n == lower z) then
      { f with offset := some 0 }
    else f
  pure ⟨year.map fun y => fullYear y f.parts.century, month, day, f⟩

def Result.isEmpty (r : Result) : Bool :=
  r.year.isNone && r.month.isNone && r.day.isNone && r.found.hour.isNone && r.found.minute.isNone &&
    r.found.second.isNone && r.found.micro.isNone

def Result.clock (r : Result) (default : Date) : Clock :=
  let date : Date := ⟨((r.year.map Int.ofNat).getD default.year), r.month.getD default.month, r.day.getD default.day⟩
  let date := match r.found.weekday, r.day with
    | some w, none => Date.ofDays (date.toDays + (((w : Int) - date.weekday) % 7))
    | _, _ => date
  { date := date, hour := r.found.hour.getD 0, minute := r.found.minute.getD 0, second := r.found.second.getD 0,
    nano := r.found.micro.getD 0 * 1000, offset := r.found.offset.map (· / 60),
    zone := if r.found.offset.isSome then r.found.zone.getD "" else "" }

end RemoteSensing.Written
