import RemoteSensing.Command

/-!
Periods of the calendar.
-/

namespace RemoteSensing

open Session Text

inductive Period where
  | year
  | quarter
  | month
  | week
  | other
deriving DecidableEq, Repr

namespace Period

def ofName (s : String) : Period :=
  if s = "year" then .year else if s = "quarter" then .quarter else if s = "month" then .month
  else if s = "week" then .week else .other

def digitWithin? (low high : Nat) (c : Char) : Option Nat :=
  if c.isDigit then
    let n := c.toNat - '0'.toNat
    if low ≤ n ∧ n ≤ high then some n else none
  else none

def month? : List Char → Option Nat
  | ['1', c] => (digitWithin? 0 2 c).map (10 + ·)
  | ['0', c] | [c] => digitWithin? 1 9 c
  | _ => none

def day? : List Char → Option Nat
  | ['1', c] => (decimal? c).map (10 + ·)
  | ['2', c] => (decimal? c).map (20 + ·)
  | ['3', c] => (digitWithin? 0 1 c).map (30 + ·)
  | ['0', c] | [' ', c] | [c] => digitWithin? 1 9 c
  | _ => none

def year? (cs : List Char) : Option Nat := do
  let digits ← cs.mapM decimal?
  pure (digits.foldl (fun n d => 10 * n + d) 0)

def readDate? (s : String) : Option Date :=
  match s.toList with
  | a :: b :: c :: d :: '-' :: rest =>
    match rest.dropWhile (· ≠ '-') with
    | '-' :: day => do
      let date : Date := ⟨← year? [a, b, c, d], ← month? (rest.takeWhile (· ≠ '-')), ← day? day⟩
      if date.isValid then some date else none
    | _ => none
  | _ => none

def mondayOf (d : Date) : Date := Date.ofDays (d.toDays - d.weekday)

def plainText (d : Date) : String :=
  toString d.year ++ "-" ++ zeroFill (toString d.month) 2 ++ "-" ++ zeroFill (toString d.day) 2

def quarterMonth (month : Int) : Int := (month - 1) / 3 * 3 + 1

def start (p : Period) (date : String) : Except Fault String :=
  match p with
  | .year => .ok (sliceTo date 4 ++ "-01-01")
  | .month => .ok (sliceTo date 7 ++ "-01")
  | .quarter => do
    let month ← match readInt? 10 (slice date 5 7) with
      | some m => pure m
      | none => throw (.wrongValue ("invalid literal for int() with base 10: " ++
          literal (slice date 5 7)))
    pure (sliceTo date 5 ++ zeroFill (toString (quarterMonth month)) 2 ++ "-01")
  | .week =>
    match readDate? date with
    | some d => .ok (plainText (mondayOf d))
    | none => .error (.wrongValue ("time data " ++ literal date ++ " does not match format '%Y-%m-%d'"))
  | .other => .ok date

def startOf (p : Period) (date : Data) : Except Fault Data :=
  match p, date with
  | .other, v => .ok v
  | p, .str s => (p.start s).map Value.str
  | _, v => .error (.wrongType ("'" ++ v.typeName ++ "' object is not subscriptable"))

def sequence (start stop unit format step : Data) : Session Data := do
  let period := match unit with
    | .str s => ofName s
    | _ => .other
  let start ← period.startOf start
  let first ← submit (Kind.date.make [start])
  let last ← submit (Kind.date.make [stop])
  let counted := if period = .quarter then .str "month" else unit
  let distance := Kind.number.make [last.call "difference" [first, counted]]
  let numbers ←
    if period = .quarter then
      let count ← submit (distance.call "divide" [3] |>.call "toInt")
      submit (Kind.list.fn "sequence" [0, count.call "multiply" [3], 3])
    else
      let count ← submit (distance.call "toInt")
      let all ← submit (Kind.list.fn "sequence" [0, count])
      if ← step.gt 1 then
        submit (all.call "slice" [0, all.call "size", step])
      else pure all
  submit (numbers.call "map" [Value.each 1 fun n =>
    first.call "advance" [n, counted] |>.call "format" [format]])

def sequenceCommand : Command where
  parameters := ["start", "end", "unit", opt "date_format" "YYYY-MM-dd", opt "step" 1]
  run a := sequence (a "start") (a "end") (a "unit") (a "date_format") (a "step")

end Period

end RemoteSensing
