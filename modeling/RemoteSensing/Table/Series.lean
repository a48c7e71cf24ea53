import RemoteSensing.Command
import RemoteSensing.Table.Basic

/-!
Tables of series.
-/

namespace RemoteSensing.Table

def seriesLabels (n : Nat) : List String :=
  (List.range n).map fun i => "y" ++ Text.zeroFill (toString (i + 1)) (toString n).length

def flipped (rows : List (List Data)) : List (List Data) :=
  match rows with
  | [] => []
  | first :: _ => (List.range first.length).map fun j => rows.map fun r => r.getD j .null

def sameKind (xs : List Data) : List Data := if xs.any isFraction then xs.map toFraction else xs

def axesExchanged (v : Data) : Except Fault Data :=
  match v with
  | .list xs | .tuple xs =>
    if xs.all fun x => (cells? x).isNone then .ok (.grid (.list (sameKind xs)))
    else
      let rows := xs.filterMap cells?
      let width := (rows.head?.map List.length).getD 0
      if rows.length ≠ xs.length || rows.any (·.length ≠ width) then
        .error (.wrongValue "setting an array element with a sequence.")
      else .ok (.grid (.list ((flipped rows).map Value.list)))
  | _ => .error (.outOfRange "array")

def putColumn (name cells : Data) : List (Data × Data) → List (Data × Data)
  | [] => [(name, cells)]
  | (n, c) :: r => if n.same name then (n, cells) :: r else (n, c) :: putColumn name cells r

def xValues (first x : Data) : Except Fault Data :=
  if x.isNull then do pure (.list ((List.range (← first.len)).map fun (i : Nat) => .int (i + 1))) else pure x

def seriesOf (y first : Data) : Except Fault (List Data) :=
  match y, first with
  | .grid _, _ => .ok [y]
  | _, .list _ => y.elements
  | _, _ => .ok [y]

def seriesNames (labels : Data) (count : Nat) : Except Fault (List Data) := do
  let names ←
    if labels.isNull then pure ((seriesLabels count).map Value.str)
    else do
      let _ ← labels.len
      labels.elements
  if names.length ≠ count then
    throw (.rejected .value "The length of y_labels must match the length of y_values.")
  names.forM Value.checkKey
  pure names

def seriesColumns (y x labels xLabel : Data) : Except Fault (List (Data × Data)) := do
  let first ← y.nth 0
  let x ← xValues first x
  xLabel.checkKey
  let series ← seriesOf y first
  let names ← seriesNames labels series.length
  pure ((names.zip series).foldl (fun acc c => putColumn c.1 c.2 acc) [(xLabel, x)])

inductive Cast where
  | fraction
  | whole
  | truth
  | text
  | any

def castNamed? (kind : Data) : Except Fault (Option Cast) :=
  match kind with
  | .null => .ok none
  | .str s =>
    if ["float", "float64", "f8", "d", "double", "<f8", "f"].contains s then .ok (some .fraction)
    else if ["int", "int64", "i8", "l", "<i8", "i", "int32", "i4"].contains s then .ok (some .whole)
    else if ["bool", "?", "b1", "bool_"].contains s then .ok (some .truth)
    else if ["str", "U", "string"].contains s then .ok (some .text)
    else if ["object", "O"].contains s then .ok (some .any)
    else .error (.wrongType ("data type '" ++ s ++ "' not understood"))
  | v => .error (.wrongType ("Cannot interpret '" ++ v.display ++ "' as a data type"))

def castCell (cast : Cast) (v : Data) : Except Fault Data :=
  match cast with
  | .fraction => if v.isNull then .ok gap else do pure (.real (← v.toReal))
  | .whole =>
    match v with
    | .real x => do
      let i ← v.toWhole
      if (Value.int i : Data).same (.real x) then pure (.int i)
      else throw (.wrongValue "Trying to coerce float values to integers")
    | v => do pure (.int (← v.toWhole))
  | .truth => .ok (.bool v.truthy)
  | .text => .ok (if v.isNull then v else .str v.display)
  | .any => .ok v

def castColumn (cast : Option Cast) (cells : List Data) : Except Fault (List Data) :=
  match cast with
  | none => .ok (unify cells)
  | some c => cells.mapM (castCell c)

structure Layout where
  rows : Option (List Data) := none
  columns : Option (List Data) := none
  cast : Option Cast := none

def Layout.ofOptions (options : Fields) : Except Fault Layout := do
  if let some (name, _) := options.find? fun o => !(["index", "columns", "dtype", "copy"].contains o.1) then
    throw (.wrongType ("DataFrame.__init__() got an unexpected keyword argument '" ++ name ++ "'"))
  let option (name : String) : Data := (Value.lookup name options).getD .null
  let labels (v : Data) : Except Fault (Option (List Data)) :=
    if v.isNull then .ok none else (labelsOf v).map some
  let cast ← castNamed? (option "dtype")
  pure ⟨← labels (option "index"), ← labels (option "columns"), cast⟩

def checkFlat (columns : List (Data × Data)) : Except Fault Unit :=
  let rectangular := columns.any fun c => match c.2 with
    | .grid (.list (.list _ :: _)) => true
    | _ => false
  if rectangular then .error (.wrongValue "Per-column arrays must each be 1-dimensional") else .ok ()

def fillColumn (cast : Option Cast) (n : Nat) (cells : Data) : Except Fault (List Data) := do
  let xs := match cells? cells with
    | some [x] => List.replicate n x
    | some xs => xs
    | none => List.replicate n cells
  if xs.length ≠ n then
    throw (.wrongValue ("Length of values (" ++ toString xs.length ++ ") does not match length of index (" ++
      toString n ++ ")"))
  castColumn cast xs

def laidOut (columns : List (Data × Data)) (layout : Layout) : Except Fault Table := do
  let names := layout.columns.getD (unify (columns.map (·.1)))
  names.forM Value.checkKey
  let present := match layout.columns with
    | none => columns
    | some wanted => columns.filter fun c => c.1.memberOf wanted && !c.2.isNull
  checkFlat present
  let index ← match layout.rows with
    | some ls => pure ls
    | none => if layout.columns.isSome && present.isEmpty then pure [] else do
        pure (counted (← commonHeight present))
  match layout.columns with
  | none => pure ⟨index, names.zip (← columns.mapM fun c => fillColumn layout.cast index.length c.2)⟩
  | some wanted =>
    let cells ← wanted.mapM fun w =>
      match present.find? fun c => c.1.same w with
      | some c => fillColumn layout.cast index.length c.2
      | none => pure (List.replicate index.length gap)
    pure ⟨index, wanted.zip cells⟩

def seriesTable (y x labels xLabel axis : Data) (options : Fields) : Except Fault Table := do
  let y ← if axis.same 0 then axesExchanged y else pure y
  let columns ← seriesColumns y x labels xLabel
  laidOut columns (← Layout.ofOptions options)

def seriesCommand : Command where
  parameters := ["y_values", opt "x_values", opt "y_labels", opt "x_label" "x", opt "axis" 1]
  open_ := true
  run a := do
    let remote (v : Data) : Session Data :=
      if v.isAnyKind [.array, .list] then Session.info v else pure v
    let y ← remote (a "y_values")
    let x ← remote (a "x_values")
    pure (← seriesTable y x (a "y_labels") (a "x_label") (a "axis") a.rest).toValue

/-!
Reshaping tables: turning rows into columns, and spreading a column over several ones.
-/

def transposed (t : Table) (label : Data) : Except Fault Table := do
  let labels ← t.column label
  let rest := t.dropColumn label
  let cells := (List.range t.height).map fun i =>
    rest.columns.map fun c => ofContent rest.content (c.2.getD i .null)
  pure ⟨rest.names, labels.zip cells⟩

def transposeCommand : Command where
  parameters := ["df", "label_col", opt "index_name", opt "indexes"]
  run a := do
    let t ← Table.ofValue (a "df") "columns"
    let label := a "label_col"
    label.checkKey
    unless t.hasColumn label do
      Session.reject .value ("Column '" ++ label.display ++ "' not found in DataFrame")
    let u ← t.transposed label
    if (a "index_name").truthy then (a "index_name").checkKey
    if (a "indexes").truthy then
      if (← (a "indexes").len) ≠ u.height then
        Session.reject .value
          "Length of custom indexes must match the number of rows in the transposed DataFrame"
      pure (Table.toValue { u with index := ← (labelsOf (a "indexes") : Except Fault (List Data)) })
    else pure u.toValue

def isUnlabelled (v : Data) : Bool := v.isNull || v.isNotANumber

def sameLabel (a b : Data) : Bool := (isUnlabelled a && isUnlabelled b) || a.same b

def labelLe (a b : Data) : Bool :=
  match a.num?, b.num? with
  | some x, some y => x.le y
  | some _, none => true
  | none, some _ => false
  | none, none =>
    match a, b with
    | .str s, .str t => !decide (t < s)
    | _, _ => true

def sortedLabels (xs : List Data) : List Data :=
  let present := xs.filter fun x => !isUnlabelled x
  let distinct := present.foldl (fun acc x => if x.memberOf acc then acc else acc ++ [x]) []
  (if present.length < xs.length then [gap] else []) ++ distinct.mergeSort labelLe

def namesIn : Data → List Data
  | .list xs => xs
  | v => [v]

def labelling (t : Table) (name : Data) : Except Fault (List Data) := do
  let cells ← (namesIn name).mapM t.column
  match cells with
  | [xs] =>
    xs.forM Value.checkKey
    pure xs
  | _ => throw (.wrongValue "Length mismatch")

def pivot (t : Table) (index columns values : Data) : Except Fault Table := do
  let rowCells ← t.labelling index
  let columnCells ← t.labelling columns
  let indexName := (namesIn index).headD .null
  if indexName.same ((namesIn columns).headD .null) then
    throw (.wrongValue ("The name " ++ indexName.display ++ " occurs multiple times, use a level number"))
  let rowLabels := sortedLabels rowCells
  let columnLabels := sortedLabels columnCells
  let places := rowCells.zip columnCells
  let spread (name : Data → Data) (valueCells : List Data) : Except Fault (List (Data × List Data)) := do
    let find (r c : Data) : List Data :=
      ((places.zip valueCells).filter fun e => sameLabel e.1.1 r && sameLabel e.1.2 c).map (·.2)
    if rowLabels.any fun r => columnLabels.any fun c => 1 < (find r c).length then
      throw (.wrongValue "Index contains duplicate entries, cannot reshape")
    let complete := rowLabels.all fun r => columnLabels.all fun c => !(find r c).isEmpty
    let kind := contentOf valueCells
    let kind := if !complete && (kind == .whole || kind == .unsigned) then .fraction else kind
    pure (columnLabels.map fun c =>
      (name c, rowLabels.map fun r => ofContent kind ((find r c).head?.getD gap)))
  let cells ← match values with
    | .list names => names.flatMapM fun v => do
        spread (fun c => .str (Value.literal (.tuple [v, c]))) (← t.column v)
    | v => do
      let valueCells ← t.column v
      if indexName.memberOf columnLabels then
        throw (.wrongValue ("cannot insert " ++ indexName.display ++ ", already exists"))
      spread (fun c => .str c.display) valueCells
  pure ⟨counted rowLabels.length, (index, rowLabels) :: cells⟩

def pivotCommand : Command where
  parameters := ["df", "index", "columns", "values"]
  run a := do
    let t ← Table.ofValue (a "df") "pivot"
    pure (← t.pivot (a "index") (a "columns") (a "values")).toValue

end RemoteSensing.Table
