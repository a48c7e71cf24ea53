import RemoteSensing.Calendar.Written
import RemoteSensing.Fault

/-!
Formats of dates.
-/

namespace RemoteSensing.Format

open Text

inductive Piece where
  | directive (letter : Char)
  | blanks
  | literal (c : Char)
deriving Repr, DecidableEq

def pieces : List Char → List Piece
  | [] => []
  | '%' :: c :: r => .directive c :: pieces r
  | c :: r =>
    if isBlank c then
      match pieces r with
      | .blanks :: ps => .blanks :: ps
      | ps => .blanks :: ps
    else .literal c :: pieces r

structure Fields where
  clock : Clock := { date := ⟨1900, 1, 1⟩ }
  half : Option Nat := none
  twelve : Bool := false

abbrev Ways (α : Type) := List Char → List (α × List Char)

def digit (low high : Nat) : Ways Nat := fun cs =>
  match cs with
  | c :: r =>
    match decimal? c with
    | some d => if low ≤ d && d ≤ high then [(d, r)] else []
    | none => []
  | [] => []

def twoOf (low high low' high' : Nat) : Ways Nat := fun cs =>
  (digit low high cs).flatMap fun a => (digit low' high' a.2).map fun b => (10 * a.1 + b.1, b.2)

def orElse {α : Type} (a b : Ways α) : Ways α := fun cs => a cs ++ b cs

def nameOf (names : List String) : Ways Nat := fun cs =>
  let sorted := names.zipIdx.mergeSort fun a b => b.1.length ≤ a.1.length
  sorted.filterMap fun n =>
    let k := n.1.length
    if lower (String.ofList (cs.take k)) == lower n.1 then some (n.2, cs.drop k) else none

def offset : Ways Int := fun cs =>
  match cs with
  | 'Z' :: r => [(0, r)]
  | c :: r =>
    if c == '+' || c == '-' then
      (twoOf 0 9 0 9 r).flatMap fun h =>
        let rest := match h.2 with
          | ':' :: t => t
          | t => t
        (twoOf 0 5 0 9 rest).map fun m =>
          let o : Int := (h.1 * 60 + m.1 : Nat)
          (if c == '-' then -o else o, m.2)
    else []
  | [] => []

def directive (letter : Char) (f : Fields) : Ways Fields :=
  let c := f.clock
  let with_ {α : Type} (ways : Ways α) (set : α → Fields) : Ways Fields := fun cs =>
    (ways cs).map fun w => (set w.1, w.2)
  let month : Ways Nat := orElse (twoOf 1 1 0 2) (orElse (twoOf 0 0 1 9) (digit 1 9))
  match letter with
  | 'Y' => with_ (fun cs => (twoOf 0 9 0 9 cs).flatMap fun a => (twoOf 0 9 0 9 a.2).map fun b =>
        (100 * a.1 + b.1, b.2))
      fun (n : Nat) => { f with clock := { c with date := { c.date with year := n } } }
  | 'm' => with_ month fun n => { f with clock := { c with date := { c.date with month := n } } }
  | 'd' =>
    let blankDay : Ways Nat := fun cs => match cs with
      | ' ' :: r => digit 1 9 r
      | _ => []
    with_ (orElse (twoOf 3 3 0 1) (orElse (twoOf 1 2 0 9) (orElse (twoOf 0 0 1 9) (orElse (digit 1 9) blankDay))))
      fun n => { f with clock := { c with date := { c.date with day := n } } }
  | 'H' => with_ (orElse (twoOf 2 2 0 3) (orElse (twoOf 0 1 0 9) (digit 0 9)))
      fun n => { f with clock := { c with hour := n } }
  | 'I' => with_ month fun n => { f with clock := { c with hour := n }, twelve := true }
  | 'M' => with_ (orElse (twoOf 0 5 0 9) (digit 0 9)) fun n => { f with clock := { c with minute := n } }
  | 'S' => with_ (orElse (twoOf 6 6 0 1) (orElse (twoOf 0 5 0 9) (digit 0 9)))
      fun n => { f with clock := { c with second := n } }
  | 'f' => fun cs =>
    let digits := (cs.takeWhile Char.isDigit).take 9
    (List.range digits.length).reverse.map fun i =>
      let nine := (digits.take (i + 1) ++ List.replicate 9 '0').take 9
      let nano := nine.foldl (fun n d => 10 * n + (d.toNat - 48)) 0
      ({ f with clock := { c with nano := nano } }, cs.drop (i + 1))
  | 'B' => with_ (nameOf monthNames) fun n => { f with clock := { c with date := { c.date with month := n + 1 } } }
  | 'b' => with_ (nameOf (monthNames.map shortName))
      fun n => { f with clock := { c with date := { c.date with month := n + 1 } } }
  | 'A' => with_ (nameOf weekdayNames) fun _ => f
  | 'a' => with_ (nameOf (weekdayNames.map shortName)) fun _ => f
  | 'p' => with_ (nameOf ["am", "pm"]) fun n => { f with half := some n }
  | 'z' => with_ offset fun o => { f with clock := { c with offset := some o } }
  | 'Z' => with_ (nameOf ["UTC", "GMT"]) fun _ => { f with clock := { c with offset := some 0 } }
  | _ => fun _ => []

def ways : List Piece → Fields → Ways Fields
  | [], f => fun cs => [(f, cs)]
  | .directive l :: ps, f => fun cs => (directive l f cs).flatMap fun w => ways ps w.1 w.2
  | .blanks :: ps, f => fun cs =>
    let n := (cs.takeWhile isBlank).length
    (List.range n).reverse.flatMap fun i => ways ps f (cs.drop (i + 1))
  | .literal l :: ps, f => fun cs =>
    match cs with
    | c :: r => if smallOf c == smallOf l then ways ps f r else []
    | [] => []

def Fields.toClock (f : Fields) : Clock :=
  if f.twelve then
    let h := f.clock.hour
    { f.clock with hour := if f.half == some 1 then (if h = 12 then 12 else h + 12) else if h = 12 then 0 else h }
  else f.clock

def isIso (format : String) : Bool :=
  let heads := ["-", "/", " ", "\\", ".", ""].flatMap fun s =>
    let date := "%Y" ++ s ++ "%m" ++ s ++ "%d"
    (if s.isEmpty then [] else ["%Y" ++ s ++ "%m"]) ++ date :: ["T", " ", "|"].flatMap fun t =>
      let time := date ++ t ++ "%H:%M:%S"
      [date ++ t ++ "%H", date ++ t ++ "%H:%M", time, time ++ "%z", time ++ ".%f", time ++ ".%f%z"]
  ("%Y" :: heads).contains format

def read (format s : String) : Except Fault Clock := do
  if let some (clock, used) := Iso.read? s then
    if isIso format && used == format then return clock
  match (ways (pieces format.toList) {} s.toList).head? with
  | none => throw (.wrongValue ("time data \"" ++ s ++ "\" doesn't match format \"" ++ format ++ "\""))
  | some (fields, rest) =>
    unless rest.isEmpty do
      throw (.wrongValue ("unconverted data remains when parsing with format \"" ++ format ++ "\": \"" ++
        String.ofList rest ++ "\""))
    let clock := fields.toClock
    match { clock with second := min clock.second 59 }.complaint? with
    | some m => throw (.wrongValue m)
    | none => pure clock

def spelled (c : Clock) (letter : Char) : String :=
  match letter with
  | 'Y' => toString c.date.year
  | 'm' => Clock.twoDigits c.date.month
  | 'd' => Clock.twoDigits c.date.day
  | 'H' => Clock.twoDigits c.hour
  | 'I' => Clock.twoDigits (if c.hour % 12 = 0 then 12 else c.hour % 12)
  | 'M' => Clock.twoDigits c.minute
  | 'S' => Clock.twoDigits c.second
  | 'f' => zeroFill (toString (c.nano / 1000)) 6
  | 'B' => monthNames.getD (c.date.month - 1) ""
  | 'b' => shortName (monthNames.getD (c.date.month - 1) "")
  | 'A' => weekdayNames.getD c.date.weekday ""
  | 'a' => shortName (weekdayNames.getD c.date.weekday "")
  | 'p' => if c.hour < 12 then "AM" else "PM"
  | 'z' => c.offsetDigits
  | 'Z' => c.zone
  | _ => ""

def write (c : Clock) : List Char → String
  | [] => ""
  | '%' :: l :: r => spelled c l ++ write c r
  | d :: r => String.singleton d ++ write c r

inductive Aspect where
  | year
  | month
  | day
  | hour
  | minute
  | second
  | micro
  | zone
  | weekday
  | half
deriving DecidableEq

def candidates : List (List Aspect × String × Nat) :=
  [([.year, .month, .day, .hour, .minute, .second], "%Y%m%d%H%M%S", 0),
    ([.year, .month, .day, .hour, .minute], "%Y%m%d%H%M", 0), ([.year, .month, .day, .hour], "%Y%m%d%H", 0),
    ([.year, .month, .day], "%Y%m%d", 0), ([.hour, .minute, .second], "%H%M%S", 0),
    ([.hour, .minute], "%H%M", 0), ([.year], "%Y", 0), ([.hour], "%H", 2), ([.month], "%B", 0),
    ([.month], "%b", 0), ([.month], "%m", 2), ([.day], "%d", 2), ([.minute], "%M", 2), ([.second], "%S", 2),
    ([.second, .micro], "%S.%f", 0), ([.zone], "%z", 0), ([.zone], "%Z", 0), ([.weekday], "%a", 0),
    ([.weekday], "%A", 0), ([.half], "%p", 0)]

def filled (token : String) (width : Nat) : String :=
  match split token "." with
  | [a, b] =>
    match Written.natOf? a, Written.natOf? b with
    | some n, some _ => Clock.twoDigits n ++ "." ++ String.ofList ((b.toList ++ List.replicate 6 '0').take 6)
    | _, _ => zeroFill token width
  | _ => zeroFill token width

structure Guess where
  tokens : List (String × Option String)
  told : List Aspect := []

def Guess.try_ (g : Guess) (c : Clock) (candidate : List Aspect × String × Nat) : Guess :=
  let (aspects, format, width) := candidate
  if aspects.any g.told.contains || (c.offset.isNone && aspects == [.zone]) then g
  else
    let text := write c format.toList
    match g.tokens.findIdx? fun t => t.2.isNone && filled t.1 width == text with
    | some i => ⟨g.tokens.set i (text, some format), g.told ++ aspects⟩
    | none => g

def joinedOffset (c : Clock) (ts : List String) : List String :=
  if c.offset.isNone then ts
  else
    let isSign (t : String) : Bool := t == "+" || t == "-"
    let last (k : Nat) : String := (ts.reverse.getD (k - 1) "")
    let keep (k : Nat) : List String := ts.take (ts.length - k) ++ [c.offsetDigits]
    if last 1 == "Z" then keep 1
    else if 1 < ts.length && isSign (last 2) then keep 2
    else if 3 < ts.length && isSign (last 4) then keep 4
    else ts

def guess? (present : Date) (s : String) : Option String := do
  let result ← Written.find? s
  if result.isEmpty then none
  let clock := result.clock present
  if clock.complaint?.isSome then none
  let start : Guess := { tokens := (joinedOffset clock (Written.tokens s)).map fun t => (t, none) }
  let g := candidates.foldl (fun g c => g.try_ clock c) start
  let isDate := [Aspect.year, .month, .day].all g.told.contains
  let directives := g.tokens.map (·.2)
  let isMonth := directives == [some "%Y", none, some "%m"] && (g.tokens.map (·.1))[1]? == some "-"
  unless isDate || directives == [some "%Y"] || isMonth do none
  -- a number that is left over means that the guess is wrong
  if g.tokens.any fun t => t.2.isNone && (Decimal.read? t.1).isSome then none
  let parts := g.tokens.map fun t => t.2.getD t.1
  let parts := if parts.contains "%p" then
      match parts.idxOf? "%H" with
      | some i => parts.set i "%I"
      | none => parts
    else parts
  let format := String.join parts
  let read ← (read format s).toOption
  unless (Stamp.ofClock read).fits do none
  if write clock format.toList == String.join (g.tokens.map (·.1)) then some format else none

end RemoteSensing.Format
