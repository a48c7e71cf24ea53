import RemoteSensing.Remote.Call
import RemoteSensing.Value.Number

/-!
Tables.
-/

namespace RemoteSensing

structure Table where
  index : List Data
  columns : List (Data × List Data)
deriving Inhabited

namespace Table

def gap : Data := .real (0.0 / 0.0)

def counted (n : Nat) : List Data := (List.range n).map fun (i : Nat) => .int i

def empty : Table := ⟨[], []⟩

def toValue (t : Table) : Data := .table t.index t.columns

inductive Content where
  | whole
  | unsigned
  | fraction
  | truth
  | any
deriving DecidableEq, Repr

def isWhole : Data → Bool
  | .int _ => true
  | _ => false

def isFraction : Data → Bool
  | .real _ => true
  | _ => false

def isTruth : Data → Bool
  | .bool _ => true
  | _ => false

def truthDifference : Fault :=
  .wrongType ("numpy boolean subtract, the \x60-\x60 operator, is not supported, use the " ++
    "bitwise_xor, the \x60^\x60 operator, or the logical_xor function instead.")

def isWide : Data → Bool
  | .int i => decide (Int.pow 2 63 ≤ i)
  | _ => false

def isNegative : Data → Bool
  | .int i => decide (i < 0)
  | _ => false

def isOversized : Data → Bool
  | .int i => decide (Int.pow 2 64 ≤ i) || decide (i < -Int.pow 2 63)
  | _ => false

def isTooWide (xs : List Data) : Bool := xs.any isOversized || (xs.any isWide && xs.any isNegative)

def contentOf (xs : List Data) : Content :=
  if xs.all isWhole then if isTooWide xs then .any else if xs.any isWide then .unsigned else .whole
  else if xs.all isFraction then .fraction
  else if xs.all isTruth then .truth
  else .any

def toFraction : Data → Data
  | .int i => .real ((Decimal.ofInt? i).getD Decimal.infinity)
  | .null => gap
  | v => v

def unify (xs : List Data) : List Data :=
  let numeric := xs.all fun x => isWhole x || isFraction x || x.isNull
  if xs.all isWhole || isTooWide (xs.takeWhile fun x => !x.isNull) then xs
  else if numeric && xs.any (fun x => isWhole x || isFraction x) then xs.map toFraction
  else xs

def commonContent (contents : List Content) : Content :=
  if contents.all (· == .whole) then .whole
  else if contents.all (· == .unsigned) then .unsigned
  else if contents.all (· == .truth) then .truth
  else if contents.all fun c => [.whole, .unsigned, .fraction].contains c then .fraction
  else .any

def ofContent (c : Content) (v : Data) : Data :=
  match c with
  | .fraction => toFraction v
  | _ => v

def cells? : Data → Option (List Data)
  | .list xs | .tuple xs => some xs
  | .grid (.list xs) => some xs
  | _ => none

def commonHeight (columns : List (Data × Data)) : Except Fault Nat :=
  match columns.filterMap fun c => (cells? c.2).map List.length with
  | [] =>
    if columns.isEmpty then .ok 0
    else .error (.wrongValue "If using all scalar values, you must pass an index")
  | n :: r =>
    if r.any (· ≠ n) then .error (.wrongValue "All arrays must be of the same length")
    else if columns.any fun c => c.2.isRecord then
      .error (.wrongValue "Mixing dicts with non-Series may lead to ambiguous ordering.")
    else .ok n

def ofColumns (columns : List (Data × Data)) : Except Fault Table := do
  let n ← commonHeight columns
  let cells := columns.map fun c => unify ((cells? c.2).getD (List.replicate n c.2))
  pure ⟨counted n, (unify (columns.map (·.1))).zip cells⟩

def labelsOf (v : Data) : Except Fault (List Data) := do
  match v with
  | .list _ | .tuple _ | .record _ | .box _ | .grid _ =>
    let xs ← v.elements
    -- lists of one length are labels of several parts
    let lengths := xs.filterMap fun x => match x with
      | .list ys => some ys.length
      | _ => none
    if xs.length = lengths.length && lengths.all (· == lengths.headD 0) then
      pure (xs.map fun x => match x with
        | .list ys => .tuple ys
        | x => x)
    else pure (unify xs)
  | v => throw (.wrongType ("Index(...) must be called with a collection of some kind, " ++ v.literal ++
      " was passed"))

def unionKeys (rows : List Fields) : List String :=
  (rows.flatMap fun r => r.map (·.1)).eraseDups

def ofFields (rows : List Fields) : Table :=
  ⟨counted rows.length, (unionKeys rows).map fun k =>
    (.str k, unify (rows.map fun r => (Value.lookup k r).getD gap))⟩

def ofLists (rows : List (List Data)) : Table :=
  let width := rows.foldl (fun n r => max n r.length) 0
  ⟨counted rows.length, (List.range width).map fun (j : Nat) =>
    (.int j, unify (rows.map fun r => r.getD j .null))⟩

def ofRows (rows : List Data) : Except Fault Table :=
  match rows with
  | [] => .ok empty
  | .record _ :: _ | .box _ :: _ => do pure (ofFields (← rows.mapM fun r => r.fieldsOf "keys"))
  | .list _ :: _ | .tuple _ :: _ => do
    for r in rows do
      unless r.isNull do
        let _ ← r.len
    pure (ofLists (← rows.mapM fun r => r.elements))
  | _ => .ok ⟨counted rows.length, [(.int 0, unify rows)]⟩

def names (t : Table) : List Data := t.columns.map (·.1)

def hasColumn (t : Table) (name : Data) : Bool := name.memberOf t.names

def column? (t : Table) (name : Data) : Option (List Data) :=
  (t.columns.find? fun c => c.1.same name).map (·.2)

def column (t : Table) (name : Data) : Except Fault (List Data) :=
  match t.column? name with
  | some xs => .ok xs
  | none => .error (match name with | .str k => .missingKey k | v => .missingName v.literal)

def dropColumn (t : Table) (name : Data) : Table :=
  { t with columns := t.columns.filter fun c => !c.1.same name }

def height (t : Table) : Nat := t.index.length

def content (t : Table) : Content := commonContent (t.columns.map fun c => contentOf c.2)

def row (t : Table) (i : Nat) : List (Data × Data) :=
  t.columns.map fun c => (c.1, ofContent t.content (c.2.getD i .null))

def rows (t : Table) : List (List (Data × Data)) := (List.range t.height).map t.row

def ofValue (v : Data) (member : String) : Except Fault Table :=
  match v with
  | .table index columns => .ok ⟨index, columns⟩
  | v => .error (.noMember v.typeName member)

end Table

end RemoteSensing

/-!
Labels of rows and columns, as messages show them, and the choice of columns by their labels.
-/

namespace RemoteSensing.Table

def labelKind (labels : List Data) : String :=
  match contentOf labels with
  | .whole => "int64"
  | .unsigned => "uint64"
  | .fraction => "float64"
  | .truth => "bool"
  | .any => "object"

def labelText (label : Data) : String :=
  match label with
  | .str s => "'" ++ Text.replace (Text.replace (Text.replace s "\t" "\\t") "\r" "\\r") "\n" "\\n" ++ "'"
  | v => v.display

def listingWidth : Nat := 80

def labelBreak : String := "\n       "

def inkLength (s : String) : Nat := (s.toList.reverse.dropWhile Char.isWhitespace).length

def withoutTail (s : String) : String := String.ofList (s.toList.reverse.dropWhile Char.isWhitespace).reverse

def extendLine (width : Nat) (state : String × String) (word : String) : String × String :=
  let (done, line) := state
  if width ≤ inkLength line + inkLength word then (done ++ withoutTail line, labelBreak ++ word)
  else (done, line ++ word)

def rightAligned (width : Nat) (s : String) : String :=
  String.ofList (List.replicate (width - s.length) ' ') ++ s

def labelList (labels : List Data) : String :=
  let words := labels.map labelText
  let cut := decide (100 < labels.length)
  if words.length ≤ 2 then "[" ++ Text.join ", " words ++ "], "
  else
    let (head, tail) := if cut then (words.take 10, words.drop (words.length - 10)) else ([], words)
    let fits (ws : List String) : Bool := (Text.join ", " ws).length < listingWidth
    let longest := ((head ++ tail).map String.length).foldl max 0
    let align : String → String :=
      if labels.all (fun l => l.isStr) || (!cut && fits tail) then id else rightAligned longest
    let add (state : String × String) (word : String) := extendLine listingWidth state (align word ++ ", ")
    let state := head.foldl add ("", labelBreak)
    let state := if cut then (state.1 ++ withoutTail state.2 ++ labelBreak ++ "...", labelBreak) else state
    let state := tail.dropLast.foldl add state
    let (done, line) := extendLine (listingWidth - 2) state (align (tail.getLast?.getD ""))
    let all := done ++ line ++ "],"
    let ending := if listingWidth < all.length then "\n      " else " "
    "[" ++ String.ofList (all.toList.drop labelBreak.length) ++ ending

def labelListing (labels : List Data) : String :=
  let count := if 100 < labels.length then ", length=" ++ toString labels.length else ""
  "Index(" ++ labelList labels ++ "dtype='" ++ labelKind labels ++ "'" ++ count ++ ")"

def sameNumbers (labels : List Data) : List Data :=
  if labels.all isTruth || !(labels.all fun l => isWhole l || isFraction l || isTruth l) then labels
  else
    let numbers := labels.map fun l => match l with
      | .bool b => .int (if b then 1 else 0)
      | l => l
    if numbers.any isFraction then numbers.map toFraction else numbers

def marked (t : Table) (marks : List Data) : Except Fault Table :=
  if marks.length ≠ t.height then
    .error (.wrongValue ("Item wrong length " ++ toString marks.length ++ " instead of " ++
      toString t.height ++ "."))
  else
    let keep (xs : List Data) : List Data := ((xs.zip marks).filter fun x => x.2.same (.bool true)).map (·.1)
    .ok ⟨keep t.index, t.columns.map fun c => (c.1, keep c.2)⟩

def select (t : Table) (wanted : List Data) : Except Fault Table :=
  let wanted := sameNumbers wanted
  let missing := wanted.filter fun w => !t.hasColumn w
  if !wanted.isEmpty && wanted.all isTruth then t.marked wanted
  else if !wanted.isEmpty && missing.length == wanted.length then
    .error (.missingKey ("None of [" ++ labelListing wanted ++ "] are in the [columns]"))
  else if !missing.isEmpty then
    let distinct := missing.foldl (fun acc m => if m.memberOf acc then acc else acc ++ [m]) []
    .error (.missingKey ("[" ++ Text.join ", " (distinct.map Value.literal) ++ "] not in index"))
  else .ok { t with columns := wanted.flatMap fun w => t.columns.filter fun c => c.1.same w }

def hasTwins : List Data → Bool
  | [] => false
  | l :: r => l.memberOf r || hasTwins r

def sortedColumns (t : Table) : Except Fault Table := do
  let mut ordered := true
  for pair in t.names.zip (t.names.drop 1) do
    if ← pair.2.lt pair.1 then ordered := false
  if !ordered && hasTwins t.names then throw (.wrongValue "cannot reindex on an axis with duplicate labels")
  pure { t with columns := t.columns.mergeSort fun a b => (a.1.le b.1).toOption.getD true }

end RemoteSensing.Table
