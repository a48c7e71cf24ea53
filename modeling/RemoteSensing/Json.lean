import RemoteSensing.Value.Number

/-!
JSON: reading and writing.
-/

namespace RemoteSensing.Json

structure Problem where
  what : String
  position : Nat
deriving DecidableEq, Repr, Inhabited

def Problem.place (p : Problem) (s : List Char) : Nat × Nat :=
  let before := s.take p.position
  let line := before.count '\n' + 1
  let column := (before.reverse.takeWhile (· != '\n')).length + 1
  (line, column)

def Problem.message (p : Problem) (s : List Char) : String :=
  let (line, column) := p.place s
  p.what ++ ": line " ++ toString line ++ " column " ++ toString column ++ " (char " ++
    toString p.position ++ ")"

abbrev Found (α : Type) := α × Nat × List Char

def stop {α : Type} (what : String) (position : Nat) : Except Problem α := .error ⟨what, position⟩

def skipSpace : Nat → List Char → Nat × List Char
  | pos, [] => (pos, [])
  | pos, c :: r =>
    if c = ' ' || c = '\n' || c = '\r' || c = '\t' then skipSpace (pos + 1) r else (pos, c :: r)

def hex? (c : Char) : Option Nat := if c.toNat < 0x80 then Text.digitValue? 16 c else none

def hex4? (a b c d : Char) : Option Nat := do
  let a ← hex? a
  let b ← hex? b
  let c ← hex? c
  let d ← hex? d
  pure (((a * 16 + b) * 16 + c) * 16 + d)

def escape? : Char → Option Char
  | '"' => some '"'
  | '\\' => some '\\'
  | '/' => some '/'
  | 'b' => some '\x08'
  | 'f' => some '\x0c'
  | 'n' => some '\n'
  | 'r' => some '\r'
  | 't' => some '\t'
  | _ => none

/-- One half of a surrogate pair is no character by itself. It is kept as one of the last private characters, which
stand for nothing else here. -/
def unitChar (n : Nat) : Char :=
  if 0xD800 ≤ n && n < 0xE000 then Char.ofNat (n + 0x102000) else Char.ofNat n

def pairChar (high low : Nat) : Char :=
  Char.ofNat (0x10000 + (high - 0xD800) * 0x400 + (low - 0xDC00))

def scanText (start : Nat) (acc : List Char) (pos : Nat) : List Char → Except Problem (Found String)
  | [] => stop "Unterminated string starting at" start
  | '"' :: r => .ok (String.ofList acc.reverse, pos + 1, r)
  | '\\' :: 'u' :: a :: b :: c :: d :: '\\' :: 'u' :: e :: f :: g :: h :: x :: r =>
    match hex4? a b c d with
    | none => stop "Invalid \\uXXXX escape" (pos + 1)
    | some n =>
      match hex4? e f g h with
      | some m =>
        if 0xD800 ≤ n && n < 0xDC00 && 0xDC00 ≤ m && m < 0xE000 then
          scanText start (pairChar n m :: acc) (pos + 12) (x :: r)
        else scanText start (unitChar n :: acc) (pos + 6) ('\\' :: 'u' :: e :: f :: g :: h :: x :: r)
      | none => scanText start (unitChar n :: acc) (pos + 6) ('\\' :: 'u' :: e :: f :: g :: h :: x :: r)
  | '\\' :: 'u' :: a :: b :: c :: d :: x :: r =>
    match hex4? a b c d with
    | none => stop "Invalid \\uXXXX escape" (pos + 1)
    | some n => scanText start (unitChar n :: acc) (pos + 6) (x :: r)
  | '\\' :: 'u' :: _ => stop "Invalid \\uXXXX escape" (pos + 1)
  | ['\\'] => stop "Unterminated string starting at" start
  | '\\' :: c :: r =>
    match escape? c with
    | some e => scanText start (e :: acc) (pos + 2) r
    | none => stop "Invalid \\escape" pos
  | c :: r =>
    if c.toNat < 0x20 then stop "Invalid control character at" pos
    else scanText start (c :: acc) (pos + 1) r
termination_by cs => cs.length

def spanDigits (cs : List Char) : List Char × List Char :=
  (cs.takeWhile Char.isDigit, cs.dropWhile Char.isDigit)

def digitsValue (cs : List Char) : Nat :=
  cs.foldl (fun n c => n * 10 + (c.toNat - '0'.toNat)) 0

def spanFraction : List Char → List Char × List Char
  | '.' :: r =>
    match spanDigits r with
    | ([], _) => ([], '.' :: r)
    | (ds, rest) => (ds, rest)
  | cs => ([], cs)

def spanExponent (cs : List Char) : Option (Nat × Int × List Char) :=
  let mark := cs.head? == some 'e' || cs.head? == some 'E'
  if !mark then none
  else
    match cs.drop 1 with
    | '+' :: r =>
      match spanDigits r with
      | ([], _) => none
      | (ds, rest) => some (2 + ds.length, digitsValue ds, rest)
    | '-' :: r =>
      match spanDigits r with
      | ([], _) => none
      | (ds, rest) => some (2 + ds.length, -(digitsValue ds : Int), rest)
    | r =>
      match spanDigits r with
      | ([], _) => none
      | (ds, rest) => some (1 + ds.length, digitsValue ds, rest)

def scanNumber (negative : Bool) (start pos : Nat) (cs : List Char) : Except Problem (Found Data) :=
  let whole : Option (List Char × List Char) :=
    match cs with
    | '0' :: r => some (['0'], r)
    | c :: r => if c.isDigit then some (spanDigits (c :: r)) else none
    | [] => none
  match whole with
  | none => stop "Expecting value" start
  | some (ds, rest) =>
    let (fraction, rest) := spanFraction rest
    let pos := pos + ds.length + (if fraction.isEmpty then 0 else fraction.length + 1)
    match spanExponent rest with
    | some (n, e, rest) =>
      let x := Decimal.toFloat (digitsValue (ds ++ fraction)) (e - fraction.length)
      .ok (.real (if negative then -x else x), pos + n, rest)
    | none =>
      if fraction.isEmpty then
        .ok (.int (if negative then -(digitsValue ds : Int) else digitsValue ds), pos, rest)
      else
        let x := Decimal.toFloat (digitsValue (ds ++ fraction)) (-(fraction.length : Int))
        .ok (.real (if negative then -x else x), pos, rest)

def after? (word : String) (cs : List Char) : Option (List Char) :=
  if word.toList.isPrefixOf cs then some (cs.drop word.length) else none

def scanAtom (pos : Nat) (cs : List Char) : Except Problem (Found Data) :=
  let words : Fields :=
    [("null", .null), ("true", .bool true), ("false", .bool false), ("NaN", .real (0.0 / 0.0)),
      ("Infinity", .real (1.0 / 0.0)), ("-Infinity", .real (-1.0 / 0.0))]
  match words.findSome? fun w => (after? w.1 cs).map fun r => (w.2, pos + w.1.length, r) with
  | some found => .ok found
  | none =>
    match cs with
    | '-' :: r => scanNumber true pos (pos + 1) r
    | cs => scanNumber false pos pos cs

mutual

def scanValue : Nat → Nat → List Char → Except Problem (Found Data)
  | 0, pos, _ => stop "Expecting value" pos
  | fuel + 1, pos, cs =>
    match cs with
    | '"' :: r => do
      let (s, pos, r) ← scanText pos [] (pos + 1) r
      pure (.str s, pos, r)
    | '[' :: r =>
      match skipSpace (pos + 1) r with
      | (pos, ']' :: r) => .ok (.list [], pos + 1, r)
      | (pos, r) => scanItems fuel [] pos r
    | '\x7b' :: r =>
      match skipSpace (pos + 1) r with
      | (pos, '\x7d' :: r) => .ok (.record [], pos + 1, r)
      | (pos, r) => scanFields fuel [] pos r
    | cs => scanAtom pos cs

def scanItems : Nat → List Data → Nat → List Char → Except Problem (Found Data)
  | 0, _, pos, _ => stop "Expecting value" pos
  | fuel + 1, acc, pos, cs => do
    let (v, pos, r) ← scanValue fuel pos cs
    match skipSpace pos r with
    | (pos, ']' :: r) => pure (.list (v :: acc).reverse, pos + 1, r)
    | (pos, ',' :: r) =>
      let (pos, r) := skipSpace (pos + 1) r
      scanItems fuel (v :: acc) pos r
    | (pos, _) => stop "Expecting ',' delimiter" pos

def scanFields : Nat → Fields → Nat → List Char → Except Problem (Found Data)
  | 0, _, pos, _ => stop "Expecting value" pos
  | fuel + 1, acc, pos, cs =>
    match cs with
    | '"' :: r => do
      let (key, pos, r) ← scanText pos [] (pos + 1) r
      match skipSpace pos r with
      | (pos, ':' :: r) => do
        let (pos, r) := skipSpace (pos + 1) r
        let (v, pos, r) ← scanValue fuel pos r
        let acc := Value.insert key v acc
        match skipSpace pos r with
        | (pos, '\x7d' :: r) => pure (.record acc, pos + 1, r)
        | (pos, ',' :: r) =>
          let (pos, r) := skipSpace (pos + 1) r
          scanFields fuel acc pos r
        | (pos, _) => stop "Expecting ',' delimiter" pos
      | (pos, _) => stop "Expecting ':' delimiter" pos
    | _ => stop "Expecting property name enclosed in double quotes" pos

end

def scan (cs : List Char) : Except Problem Data := do
  if cs.head? == some (Char.ofNat 0xFEFF) then
    stop "Unexpected UTF-8 BOM (decode using utf-8-sig)" 0
  else
    let (pos, r) := skipSpace 0 cs
    let (v, pos, r) ← scanValue (2 * cs.length + 2) pos r
    match skipSpace pos r with
    | (_, []) => pure v
    | (pos, _) => stop "Extra data" pos

def read (s : String) : Except String Data :=
  match scan s.toList with
  | .ok v => .ok v
  | .error p => .error (p.message s.toList)

/-!
Writing JSON.
-/

variable {ν : Type} [Scalar ν]

structure Style where
  indent : Option String := none
  afterItem : String := ", "
  afterKey : String := ": "
  ascii : Bool := true

namespace Style

def lineBreak (s : Style) (level : Nat) : String :=
  match s.indent with
  | some t => "\n" ++ String.join (List.replicate level t)
  | none => ""

def separator (s : Style) (level : Nat) : String := s.afterItem ++ s.lineBreak level

def enclosed (s : Style) (level : Nat) (opening content closing : String) : String :=
  opening ++ s.lineBreak (level + 1) ++ content ++ s.lineBreak level ++ closing

def key (s : Style) (k : String) : String := Text.jsonQuoted s.ascii k ++ s.afterKey

end Style

def realText (x : ν) : String :=
  let s := Scalar.text x
  if s == "nan" then "NaN" else if s == "inf" then "Infinity" else if s == "-inf" then "-Infinity" else s

mutual

def write (s : Style) (level : Nat) : Value ν → Except Fault String
  | .null => .ok "null"
  | .bool b => .ok (if b then "true" else "false")
  | .int i => .ok (toString i)
  | .real x => .ok (realText x)
  | .str t => .ok (Text.jsonQuoted s.ascii t)
  | .list [] => .ok "[]"
  | .tuple [] => .ok "[]"
  | .record [] => .ok "\x7b\x7d"
  | .box [] => .ok "\x7b\x7d"
  | .list (x :: r) => do
    let first ← write s (level + 1) x
    let rest ← writeItems s (level + 1) r
    pure (s.enclosed level "[" (first ++ rest) "]")
  | .tuple (x :: r) => do
    let first ← write s (level + 1) x
    let rest ← writeItems s (level + 1) r
    pure (s.enclosed level "[" (first ++ rest) "]")
  | .record ((k, x) :: r) => do
    let first ← write s (level + 1) x
    let rest ← writeFields s (level + 1) r
    pure (s.enclosed level "\x7b" (s.key k ++ first ++ rest) "\x7d")
  | .box ((k, x) :: r) => do
    let first ← write s (level + 1) x
    let rest ← writeFields s (level + 1) r
    pure (s.enclosed level "\x7b" (s.key k ++ first ++ rest) "\x7d")
  | v => .error (.wrongType ("Object of type " ++ v.typeName ++ " is not JSON serializable"))

def writeItems (s : Style) (level : Nat) : List (Value ν) → Except Fault String
  | [] => .ok ""
  | x :: r => do
    let first ← write s level x
    let rest ← writeItems s level r
    pure (s.separator level ++ first ++ rest)

def writeFields (s : Style) (level : Nat) : Fields (Value ν) → Except Fault String
  | [] => .ok ""
  | (k, x) :: r => do
    let first ← write s level x
    let rest ← writeFields s level r
    pure (s.separator level ++ s.key k ++ first ++ rest)

end

def line (v : Value ν) : Except Fault String := write {} 0 v

/-!
Options for writing JSON: an indent, separators, what is escaped, the order of keys, and whether the fractions that JSON
has no numbers for are allowed.
-/

variable {ν : Type} [Scalar ν]

mutual

def ordered : Value ν → Value ν
  | .list xs => .list (orderedItems xs)
  | .tuple xs => .tuple (orderedItems xs)
  | .record fs => .record ((orderedFields fs).mergeSort fun a b => decide (a.1 ≤ b.1))
  | .box fs => .box ((orderedFields fs).mergeSort fun a b => decide (a.1 ≤ b.1))
  | v => v

def orderedItems : List (Value ν) → List (Value ν)
  | [] => []
  | x :: r => ordered x :: orderedItems r

def orderedFields : Fields (Value ν) → Fields (Value ν)
  | [] => []
  | (k, x) :: r => (k, ordered x) :: orderedFields r

end

mutual

def unwritable? : Value ν → Option String
  | .real x => if ["nan", "inf", "-inf"].contains (Scalar.text x) then some (Scalar.text x) else none
  | .list xs => unwritableItem? xs
  | .tuple xs => unwritableItem? xs
  | .record fs => unwritableField? fs
  | .box fs => unwritableField? fs
  | _ => none

def unwritableItem? : List (Value ν) → Option String
  | [] => none
  | x :: r => (unwritable? x).or (unwritableItem? r)

def unwritableField? : Fields (Value ν) → Option String
  | [] => none
  | (_, x) :: r => (unwritable? x).or (unwritableField? r)

end

def optionNames : List String :=
  ["skipkeys", "ensure_ascii", "check_circular", "allow_nan", "cls", "separators", "default", "sort_keys"]

def indentText (indent : Value ν) : Except Fault (Option String) :=
  let blanks (i : Int) : Except Fault (Option String) := .ok (some (String.ofList (List.replicate i.toNat (Char.ofNat 32))))
  match indent with
  | .null => .ok none
  | .str s => .ok (some s)
  | .int i => blanks i
  | .bool b => blanks (if b then 1 else 0)
  | v => .error (.wrongType ("can't multiply sequence by non-int of type '" ++ v.typeName ++ "'"))

def separatorTexts (indented : Bool) (given : Value ν) : Except Fault (String × String) :=
  match given with
  | .null => .ok (if indented then "," else ", ", ": ")
  | v => do
    match ← v.unpack 2 with
    | [.str a, .str b] => pure (a, b)
    | [a, .str _] =>
      throw (.wrongType (if indented then "unsupported operand type(s) for +: '" ++ a.typeName ++ "' and 'str'"
        else "make_encoder() argument 6 must be str, not " ++ a.typeName))
    | [_, b] =>
      throw (.wrongType (if indented then "sequence item 3: expected str instance, " ++ b.typeName ++ " found"
        else "make_encoder() argument 5 must be str, not " ++ b.typeName))
    | _ => throw (.wrongValue "separators")

def writeWith (indent : Value ν) (options : Fields (Value ν)) (v : Value ν) : Except Fault String := do
  let option (name : String) (default : Value ν) : Value ν := (Value.lookup name options).getD default
  if (Value.lookup "obj" options).isSome then
    throw (.wrongType "dumps() got multiple values for argument 'obj'")
  let maker := option "cls" .null
  unless maker.isNull do throw (.wrongType ("'" ++ maker.typeName ++ "' object is not callable"))
  if let some (name, _) := options.find? fun o => !optionNames.contains o.1 then
    throw (.wrongType ("JSONEncoder.__init__() got an unexpected keyword argument '" ++ name ++ "'"))
  let (afterItem, afterKey) ← separatorTexts (!indent.isNull) (option "separators" .null)
  let style : Style := ⟨← indentText indent, afterItem, afterKey, (option "ensure_ascii" (.bool true)).truthy⟩
  unless (option "allow_nan" (.bool true)).truthy do
    if let some word := unwritable? v then
      throw (.wrongValue ("Out of range float values are not JSON compliant" ++
        if indent.isNull then "" else ": " ++ word))
  write style 0 (if (option "sort_keys" (.bool false)).truthy then ordered v else v)

end RemoteSensing.Json
