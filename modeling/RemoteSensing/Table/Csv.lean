import RemoteSensing.Calendar.Format
import RemoteSensing.Table.Basic
import RemoteSensing.Value.Rounding

/-!
What the fields of a text file stand for.
-/

namespace RemoteSensing.Field

def emptyWords : List String :=
  ["", "#N/A", "#N/A N/A", "#NA", "-1.#IND", "-1.#QNAN", "-NaN", "-nan", "1.#IND", "1.#QNAN", "<NA>", "N/A",
    "NA", "NULL", "NaN", "None", "n/a", "nan", "null"]

def isEmpty (s : String) : Bool := emptyWords.contains s

def isBlank (c : Char) : Bool := c == ' ' || (9 ≤ c.toNat && c.toNat ≤ 13)

def signed : List Char → Bool × List Char
  | '-' :: r => (true, r)
  | '+' :: r => (false, r)
  | r => (false, r)

def digitsValue (ds : List Char) : Nat := ds.foldl (fun n c => 10 * n + (c.toNat - 48)) 0

inductive Whole where
  | value (i : Int)
  | tooLarge
  | malformed

def wholeIn (low high : Int) (s : String) : Whole :=
  let (negative, r) := signed (s.toList.dropWhile isBlank)
  let digits := r.takeWhile Char.isDigit
  let i : Int := if negative then -(digitsValue digits : Int) else digitsValue digits
  if digits.isEmpty then .malformed
  else if i < low || high < i then .tooLarge
  else if ((r.dropWhile Char.isDigit).dropWhile isBlank).isEmpty then .value i
  else .malformed

inductive Wholes where
  | values (xs : List Data)
  | others
  | texts

def unsignedColumn (fields : List String) (acc : List Data := []) (mixed : Bool := false) : Wholes :=
  match fields with
  | [] => if mixed then .texts else .values acc.reverse
  | s :: r =>
    if isEmpty s || (signed (s.toList.dropWhile isBlank)).1 then unsignedColumn r acc true
    else
      match wholeIn 0 (Int.pow 2 64 - 1) s with
      | .value i => unsignedColumn r (.int i :: acc) mixed
      | .tooLarge => .texts
      | .malformed => .others

def wholeColumn (fields : List String) : Wholes :=
  go fields []
where
  go : List String → List Data → Wholes
    | [], acc =>
      let xs := acc.reverse
      .values (if xs.any Value.isNull then xs.map Table.toFraction else xs)
    | s :: r, acc =>
      if isEmpty s then go r (.null :: acc)
      else
        match wholeIn (-Int.pow 2 63) (Int.pow 2 63 - 1) s with
        | .value i => go r (.int i :: acc)
        | .tooLarge => unsignedColumn fields
        | .malformed => .others

def countedDigits : Nat := 17

def spelled (ds : List Char) : Float := ds.foldl (fun x c => x * 10.0 + Float.ofNat (c.toNat - 48)) 0.0

def scaled (x : Float) (exponent : Int) : Float :=
  let power (n : Nat) : Float := Decimal.toFloat 1 n
  if 308 < exponent then if x == 0.0 then 0.0 else x * Decimal.infinity
  else if 0 < exponent then x * power exponent.toNat
  else if exponent < -616 then 0.0
  else if exponent < -308 then x / power (-308 - exponent).toNat / power 308
  else x / power (-exponent).toNat

def exponent (cs : List Char) : Int × List Char :=
  match cs with
  | c :: r =>
    let (negative, t) := signed r
    let digits := (t.takeWhile Char.isDigit).take countedDigits
    if (c == 'e' || c == 'E') && !digits.isEmpty then
      let n : Int := digitsValue digits
      (if negative then -n else n, t.drop digits.length)
    else (0, cs)
  | [] => (0, [])

def decimals (room : Nat) (cs : List Char) : List Char × List Char :=
  match cs with
  | '.' :: r =>
    let all := r.takeWhile Char.isDigit
    let counted := all.take room
    (counted, if counted.length < room then r.drop counted.length else r.drop all.length)
  | r => ([], r)

def infinite? (s : String) : Option Float :=
  let word := String.ofList (s.toList.map Char.toLower)
  if ["inf", "+inf", "infinity", "+infinity"].contains word then some Decimal.infinity
  else if ["-inf", "-infinity"].contains word then some (-Decimal.infinity)
  else none

def fraction? (s : String) : Option Float :=
  let (negative, r) := signed (s.toList.dropWhile isBlank)
  let whole := r.takeWhile Char.isDigit
  let counted := whole.take countedDigits
  let (after, rest) := decimals (countedDigits - counted.length) (r.drop whole.length)
  let (e, rest) := exponent rest
  let magnitude := spelled (counted ++ after)
  let shift : Int := (whole.length - counted.length : Nat) - (after.length : Nat) + e
  let x := scaled (if negative then -magnitude else magnitude) shift
  if (counted ++ after).isEmpty || !(rest.dropWhile isBlank).isEmpty || x.isInf then infinite? s else some x

def truth? (s : String) : Option Bool :=
  let word := String.ofList (s.toList.map Char.toLower)
  if word == "true" then some true else if word == "false" then some false else none

def readAll (read : String → Option Data) (fields : List String) : Option (List Data) :=
  fields.mapM fun s => if isEmpty s then some Table.gap else read s

def texts (fields : List String) : List Data := fields.map fun s => if isEmpty s then Table.gap else .str s

def column (fields : List String) : List Data :=
  match wholeColumn fields with
  | .values xs => xs
  | .texts => texts fields
  | .others =>
    match readAll (fun s => (fraction? s).map Value.real) fields with
    | some xs => xs
    | none => (readAll (fun s => (truth? s).map Value.bool) fields).getD (texts fields)

end RemoteSensing.Field

/-!
Tables in files of comma-separated values.
-/

namespace RemoteSensing.Csv

def isGap (v : Data) : Bool := v.isNull || v.isNotANumber

def fieldText (v : Data) : String := if isGap v then "" else v.display

def quotedField (s : String) : String :=
  if s.toList.any fun c => c == ',' || c == '"' || c == '\n' then
    "\"" ++ Text.replace s "\"" "\"\"" ++ "\""
  else s

def line (fields : List String) : String :=
  match fields with
  | [""] => "\"\"\n"
  | fs => Text.join "," (fs.map quotedField) ++ "\n"

def write (indexName : Option String) (t : Table) : String :=
  let lead (s : String) : List String := if indexName.isSome then [s] else []
  let header := line (lead (indexName.getD "") ++ t.names.map fieldText)
  let body := (List.range t.height).map fun i =>
    line (lead (fieldText (t.index.getD i .null)) ++ t.columns.map fun c => fieldText (c.2.getD i .null))
  header ++ String.join body

inductive Place where
  | start
  | plain
  | quoted
  | closing

structure Record where
  line : Nat
  fields : List String

structure Progress where
  field : List Char := []
  fields : List String := []
  records : List Record := []
  ended : Nat := 0

namespace Progress

def take (p : Progress) (c : Char) : Progress := { p with field := c :: p.field }

def endField (p : Progress) : Progress :=
  { p with field := [], fields := String.ofList p.field.reverse :: p.fields }

def endRecord (p : Progress) : Progress :=
  let q := p.endField
  { q with fields := [], records := ⟨q.ended + 1, q.fields.reverse⟩ :: q.records, ended := q.ended + 1 }

def endLine (p : Progress) : Progress :=
  if p.fields.isEmpty && p.field.all (fun c => c == ' ' || c == '\t') then
    { p with field := [], ended := p.ended + 1 }
  else p.endRecord

end Progress

def scan : Place → Progress → List Char → Except Fault Progress
  | .quoted, p, [] => .error (.raggedRow
      ("Error tokenizing data. C error: EOF inside string starting at row " ++ toString p.ended))
  | .closing, p, [] => .ok p.endRecord
  | _, p, [] => .ok p.endLine
  | .quoted, p, c :: r => if c == '"' then scan .closing p r else scan .quoted (p.take c) r
  | .closing, p, '\r' :: '\n' :: r => scan .start p.endRecord r
  | .closing, p, c :: r =>
    if c == '"' then scan .quoted (p.take c) r
    else if c == ',' then scan .start p.endField r
    else if c == '\n' || c == '\r' then scan .start p.endRecord r
    else scan .plain (p.take c) r
  | .start, p, '"' :: r => scan .quoted p r
  | _, p, '\r' :: '\n' :: r => scan .start p.endLine r
  | _, p, c :: r =>
    if c == ',' then scan .start p.endField r
    else if c == '\n' || c == '\r' then scan .start p.endLine r
    else scan .plain (p.take c) r

def records (s : String) : Except Fault (List Record) := do
  let cs := match s.toList with
    | c :: r => if c.toNat = 0xFEFF then r else c :: r
    | [] => []
  pure (← scan .start {} cs).records.reverse

def freeName (header : List String) (counts : List (String × Nat)) (name : String) :
    Nat → Nat → String × Nat
  | 0, n => (name ++ "." ++ toString n, n)
  | fuel + 1, n =>
    let candidate := name ++ "." ++ toString n
    if header.contains candidate then freeName header counts name fuel (n + 1)
    else
      match (Value.lookup candidate counts).getD 0 with
      | 0 => (candidate, n)
      | m => freeName header counts name fuel m

def nameColumn (state : List String × List (String × Nat)) (i : Nat) : List String × List (String × Nat) :=
  let (header, counts) := state
  let name := header.getD i ""
  match (Value.lookup name counts).getD 0 with
  | 0 => (header, Value.insert name 1 counts)
  | n =>
    let (free, last) := freeName header counts name (2 * header.length + 2) n
    (header.set i free, Value.insert free 1 (Value.insert name (last + 1) counts))

def headerNames (header : List String) : List String :=
  let named := header.zipIdx.map fun h => if h.1.isEmpty then "Unnamed: " ++ toString h.2 else h.1
  let places := List.range header.length
  let given := places.filter fun i => header.getD i "" != ""
  let bare := places.filter fun i => header.getD i "" == ""
  ((given ++ bare).foldl nameColumn (named, [])).1

def read (s : String) : Except Fault Table := do
  match ← records s with
  | [] => throw .noColumns
  | header :: rows =>
    let names := headerNames header.fields
    let lead := match rows with
      | first :: _ => first.fields.length - header.fields.length
      | [] => 0
    let width := header.fields.length + lead
    if let some r := (rows.drop 1).find? fun r => width < r.fields.length then
      throw (.raggedRow ("Error tokenizing data. C error: Expected " ++ toString width ++ " fields in line " ++
        toString r.line ++ ", saw " ++ toString r.fields.length ++ "\n"))
    let column (j : Nat) : List Data := Field.column (rows.map fun r => r.fields.getD j "")
    let index := if lead = 0 then Table.counted rows.length else column (lead - 1)
    pure ⟨index, names.zipIdx.map fun n => (.str n.1, column (n.2 + lead))⟩

end RemoteSensing.Csv

/-!
Columns of instants.
-/

namespace RemoteSensing.Table

def isNoInstant (s : String) : Bool := ["", "NaT", "nat", "NAT", "nan", "NaN", "NAN"].contains s

def atPlace (message : String) (i : Nat) : String := message ++ ", at position " ++ toString i

def stampOf (clock : Clock) (shown : String) : Except Fault Stamp :=
  let s := Stamp.ofClock clock
  if s.fits then .ok s else .error (.wrongValue ("Out of bounds nanosecond timestamp: " ++ shown))

def looksLikeDate (s : String) : Bool :=
  if Text.startsWith s "0" then true
  else if ["a", "A", "m", "M", "p", "P", "t", "T"].contains s then false
  else match Field.fraction? s with
    | some x => 1000 ≤ x
    | none => true

def delimited? (s : String) : Except Fault (Option Clock) :=
  let isMark (c : Char) : Bool := [' ', '-', '.', '/', '\\'].contains c
  let cs := s.toList
  let number (first length : Nat) : Option Nat := Written.natOf? (String.ofList ((cs.drop first).take length))
  let markAt (i : Nat) : Bool := (cs[i]?).any isMark
  let numbers : Option (Nat × Nat × Nat) :=
    if cs.length = 10 && markAt 2 && markAt 5 then do pure (← number 0 2, ← number 3 2, ← number 6 4)
    else if cs.length = 9 && markAt 1 && markAt 4 then do pure (← number 0 1, ← number 2 2, ← number 5 4)
    else if cs.length = 9 && markAt 2 && markAt 4 then do pure (← number 0 2, ← number 3 1, ← number 5 4)
    else if cs.length = 8 && markAt 1 && markAt 3 then do pure (← number 0 1, ← number 2 1, ← number 4 4)
    else if cs.length = 7 && markAt 2 && cs[2]? != some '.' then do pure (← number 0 2, 1, ← number 3 4)
    else none
  match numbers with
  | none => .ok none
  | some (month, day, year) =>
    if year < 1000 then .ok none
    else
      let (month, day) := if 12 < month && cs.length ≠ 7 then (day, month) else (month, day)
      let clock : Clock := { date := ⟨year, month, day⟩ }
      if 1 ≤ month && month ≤ 12 && 1 ≤ day && day ≤ 31 then
        match clock.complaint? with
        | some m => .error (.wrongValue m)
        | none => .ok (some clock)
      else .error (.wrongValue ("Invalid date specified (" ++ toString month ++ "/" ++ toString day ++ ")"))

def quarter? (s : String) : Except Fault (Option Clock) :=
  let cs := (Text.upper s).toList
  let n := cs.length
  let number (ds : List Char) : Option Nat := Written.natOf? (String.ofList ds)
  let read : Option (Nat × Nat) := do
    let i ← cs.findIdx? (· == 'Q')
    let dashAt (j : Nat) : Bool := cs[j]? == some '-'
    if i = 1 then
      let quarter ← number (cs.take 1)
      if n = 4 || (n = 5 && dashAt 2) then do pure (2000 + (← number (cs.drop (n - 2))), quarter)
      else if n = 6 || (n = 7 && dashAt 2) then do pure (← number (cs.drop (n - 4)), quarter)
      else none
    else if i = 2 || i = 3 then
      if n = 4 || (n = 5 && dashAt (i - 1)) then do
        pure (2000 + (← number (cs.take 2)), ← number (cs.drop (n - 1)))
      else none
    else if i = 4 || i = 5 then
      if n = 6 || (n = 7 && dashAt (i - 1)) then do pure (← number (cs.take 4), ← number (cs.drop (n - 1)))
      else none
    else none
  if n < 4 || 7 < n then .ok none
  else
    match read with
    | none => .ok none
    | some (year, quarter) =>
      if quarter < 1 || 4 < quarter then
        .error (.wrongValue ("Incorrect quarterly string is given, quarter must be between 1 and 4: " ++
          String.ofList cs))
      else .ok (some { date := ⟨year, 3 * quarter - 2, 1⟩ })

def abbreviated? (s : String) : Except Fault (Option Clock) := do
  if s.length = 4 then
    if let some year := Written.natOf? s then
      if 1 ≤ year then return some { date := ⟨year, 1, 1⟩ }
  if let some c ← quarter? s then return some c
  pure (["%Y-%m", "%b %Y", "%b-%Y"].findSome? fun f =>
    match (Format.ways (Format.pieces f.toList) {} s.toList).head? with
    | some (fields, []) => some { fields.clock with date := { fields.clock.date with day := 1 } }
    | _ => none)

def readAlone (s : String) : Except Fault (Option Stamp) := do
  if isNoInstant s then return none
  if let some (clock, _) := Iso.read? s then return some (← stampOf clock s)
  unless looksLikeDate s do
    throw (.wrongValue ("Given date string \"" ++ s ++ "\" not likely a datetime"))
  let shown (c : Clock) : String := ({ nanos := c.nanos } : Stamp).text
  if let some c ← delimited? s then return some (← stampOf c (shown c))
  if let some c ← abbreviated? s then return some (← stampOf c (shown c))
  match Written.find? s with
  | none => throw (.wrongValue ("Unknown datetime string format, unable to parse: " ++ s))
  | some r =>
    if r.isEmpty then throw (.wrongValue ("Unable to parse datetime string: " ++ s))
    let c := r.clock ⟨1, 1, 1⟩
    match c.complaint? with
    | some m => throw (.wrongValue (m ++ ": " ++ s))
    | none => pure (some (← stampOf c (shown c)))

def formatAdvice : String :=
  ". You might want to try:\n    - passing \x60format\x60 if your strings have a consistent format;\n" ++
    "    - passing \x60format='ISO8601'\x60 if your strings are all ISO8601 but not necessarily in exactly the " ++
    "same format;\n    - passing \x60format='mixed'\x60, and the format will be inferred for each element " ++
    "individually. You might want to use \x60dayfirst\x60 alongside this."

def isBare (v : Data) : Bool :=
  match v with
  | .null => true
  | .real x => x.isNaN
  | .str s => isNoInstant s
  | _ => false

def readFormatted (format : String) (i : Nat) (v : Data) : Except Fault (Option Stamp) := do
  if isBare v then return none
  let s := v.display
  match Format.read format s with
  | .error e => throw (.wrongValue (atPlace e.message i ++ formatAdvice))
  | .ok clock =>
    let stamp := Stamp.ofClock clock
    if stamp.fits then pure (some stamp)
    else throw (.wrongValue (atPlace ("Out of bounds nanosecond timestamp: " ++ s) i))

def ofNanos (n : Int) (i : Nat) : Except Fault (Option Stamp) :=
  if n = -Int.pow 2 63 then .ok none
  else if (⟨n, none⟩ : Stamp).fits then .ok (some ⟨n, none⟩)
  else .error (.overflow (atPlace "Python int too large to convert to C long" i))

def readCell (i : Nat) (v : Data) : Except Fault (Option Stamp) :=
  if isBare v then .ok none
  else
    match v with
    | .str s =>
      match readAlone s with
      | .ok r => .ok r
      | .error e => .error (.wrongValue (atPlace e.message i))
    | .int n => ofNanos n i
    | .real x => do ofNanos (← Value.truncated x) i
    | v => .error (.wrongType (atPlace (v.className ++ " is not convertible to datetime") i))

def readInstants (cells : List Data) : Except Fault (List (Option Stamp)) := do
  if !cells.isEmpty && cells.all isTruth then
    throw (.wrongType "dtype bool cannot be converted to datetime64[ns]")
  let format := match cells.find? fun v => !isBare v with
    | some (.str s) => Format.guess? ⟨2000, 1, 1⟩ s
    | _ => none
  cells.zipIdx.mapM fun c => match format with
    | some f => readFormatted f c.2 c.1
    | none => readCell c.2 c.1

def instantCell : Option Stamp → Data
  | some s => .str s.text
  | none => "NaT"

def notAfter : Option Stamp → Option Stamp → Bool
  | some s, some t => s.nanos ≤ t.nanos
  | some _, none => true
  | none, some _ => false
  | none, none => true

def inTimeOrder (t : Table) (name : Data) : Except Fault Table := do
  let instants ← readInstants (← t.column name)
  let order := (instants.zipIdx.mergeSort fun x y => notAfter x.1 y.1).map (·.2)
  let arranged (xs : List Data) : List Data := order.map fun i => xs.getD i .null
  pure ⟨arranged t.index, t.columns.map fun c =>
    (c.1, arranged (if c.1.same name then instants.map instantCell else c.2))⟩

end RemoteSensing.Table
