import RemoteSensing.Command

/-!
Decision trees: fitted trees, their listing as text, and its storage.
-/

namespace RemoteSensing.DecisionTree

structure Node where
  left : Int
  right : Int
  feature : Int
  threshold : Float
  impurity : Float
  samples : Int
deriving Inhabited

def Node.isLeaf (n : Node) : Bool := n.left == n.right

structure Fitted where
  nodes : List Node
  seen : Data
deriving Inhabited

inductive Outcome where
  | label (v : Data)
  | number (x : Float)
deriving Inhabited

def wholes (v : Data) (key : String) : Except Fault (List Int) := do
  (← (← v.item key).elements).mapM fun x => x.toWhole

def fractions (v : Data) (key : String) : Except Fault (List Float) := do
  (← (← v.item key).elements).mapM fun x => x.toReal

def unequal : Fault := .wrongValue "All arrays must be of the same length"

def Fitted.ofValue (v : Data) : Except Fault Fitted := do
  let count ← (← v.item "node_count").toWhole
  let left ← wholes v "left"
  let right ← wholes v "right"
  let feature ← wholes v "feature"
  let threshold ← fractions v "threshold"
  let impurity ← fractions v "impurity"
  let samples ← wholes v "samples"
  let lengths := [left.length, right.length, feature.length, threshold.length, impurity.length, samples.length]
  unless lengths.all fun n => (n : Int) == count do throw unequal
  let nodes := (List.range left.length).map fun i =>
    (⟨left.getD i 0, right.getD i 0, feature.getD i 0, threshold.getD i 0, impurity.getD i 0,
      samples.getD i 0⟩ : Node)
  pure ⟨nodes, ← v.item "value"⟩

def squeezed : Nat → Data → Data
  | depth + 1, .list [x] => squeezed depth x
  | depth + 1, .list xs => .list (xs.map (squeezed depth))
  | _, v => v

def numbersIn (v : Data) : List Float :=
  (Value.leaves 8 v).map fun x => match x.num? with
    | some n => (n.toReal.toOption).getD 0
    | none => 0

def rowsOf (v : Data) : List (List Float) := (Value.rowsOf v).map numbersIn

def largestFrom (best : Float) (place : Nat) : Nat → List Float → Nat
  | _, [] => place
  | i, x :: r => if best < x then largestFrom x i (i + 1) r else largestFrom best place (i + 1) r

def largest : List Float → Nat
  | [] => 0
  | x :: r => largestFrom x 0 1 r

def notColumn : Fault := .wrongValue "Per-column arrays must each be 1-dimensional"

def ascending (xs : List Nat) : List Nat := (xs.mergeSort (· ≤ ·)).eraseDups

def labelled (labels : Data) (winners : List Nat) : Except Fault (List Outcome) := do
  let table ← (ascending winners).zipIdx.mapM fun w => do pure (w.1, ← labels.nth w.2)
  pure (winners.map fun w => .label (((table.find? fun t => t.1 == w).map (·.2)).getD .null))

def classes (labels seen : Data) (count : Nat) : Except Fault (List Outcome) :=
  match Value.shape 8 seen with
  | [_, _] =>
    let winners := (rowsOf seen).map largest
    if labels.isNull then .ok (winners.map fun (w : Nat) => .label (.int w)) else labelled labels winners
  | _ :: _ :: _ => .error (if labels.isNull then notColumn else .wrongType "unhashable type: 'numpy.ndarray'")
  | _ =>
    if labels.isNull then .ok (List.replicate count (.label (.int (largest (numbersIn seen)))))
    else do
      let _ ← labels.nth 0
      .error (.wrongType "'numpy.int64' object is not iterable")

def estimates (seen : Data) (count : Nat) : Except Fault (List Outcome) :=
  let rounded := (numbersIn seen).map fun x => Outcome.number (Statistic.scaledRound 6 x)
  match Value.shape 8 seen with
  | [] => .ok (List.replicate count (rounded.headD default))
  | [_] => .ok rounded
  | _ => .error notColumn

def shares (seen : Data) : Except Fault (List Outcome) :=
  let shape := Value.shape 8 seen
  match shape.getLast? with
  | none => .error (.outOfRange "tuple")
  | some n =>
    if n ≠ 2 then .error (.rejected .value
      ("shape mismatch: outputs from trees = \x7braw_vals.shape[-1]\x7d classes, currently probability outputs " ++
        "is support for binary classifications"))
    else match shape with
      | [_] => .error .noAxis
      | [_, _] => .ok ((rowsOf seen).map fun r =>
          .number (Statistic.scaledRound 6 (r.getD 1 0 / (r.getD 0 0 + r.getD 1 0))))
      | _ => .error notColumn

inductive Mode where
  | classification
  | regression
  | probability
deriving DecidableEq, Repr, Inhabited

def Mode.ofName (name seen : Data) : Except Fault Mode :=
  match name with
  | .str "INFER" =>
    match Value.shape 8 seen with
    | [_, _] => .ok .classification
    | [_] => .ok .regression
    | _ => .error (.rejected .runtime
        ("Could not infer the output type from the estimator, please explicitly provide the output_mode "))
  | .str "CLASSIFICATION" => .ok .classification
  | .str "REGRESSION" => .ok .regression
  | .str "PROBABILITY" => .ok .probability
  | .str "MULTIPROBABILITY" => .error (.rejected .unsupported
      ("Currently multiprobability output is not support, please choose one of the following output modes: " ++
        "['CLASSIFIATION', 'REGRESSION', 'PROBABILITY' or 'INFER']"))
  | _ => .error (.rejected .runtime "could not understand estimator type and parse out the values")

def Fitted.outcomes (t : Fitted) (labels mode : Data) : Except Fault (List Outcome) := do
  let seen := squeezed 8 t.seen
  let found ← match ← Mode.ofName mode seen with
    | .classification => classes labels seen t.nodes.length
    | .regression => estimates seen t.nodes.length
    | .probability => shares seen
  if found.length = t.nodes.length then pure found else throw unequal

/-!
The listing of a tree, as the server reads it.
-/

inductive Way where
  | left
  | right
deriving DecidableEq, Repr, Inhabited

def Way.sign : Way → String
  | .left => "<="
  | .right => ">"

structure Row where
  place : Nat
  depth : Nat
  leaf : Bool
  node : Node
  outcome : Outcome
  feature : Data
  way : Way := .left
deriving Inhabited

def descend (nodes : List Node) : Nat → Nat → Int → Except Fault (List (Nat × Nat))
  | 0, _, _ => .error .endless
  | fuel + 1, depth, i => do
    let n ← Value.elementAt "index" nodes i
    let place := (if i < 0 then i + nodes.length else i).toNat
    if n.isLeaf then pure [(place, depth)]
    else
      let right ← descend nodes fuel (depth + 1) n.right
      let left ← descend nodes fuel (depth + 1) n.left
      pure ((place, depth) :: right ++ left)

def depthOf (reached : List (Nat × Nat)) (place : Nat) : Option Nat :=
  (reached.reverse.find? fun r => r.1 == place).map (·.2)

def rowsFor (t : Fitted) (features : List Data) (outcomes : List Outcome) : Except Fault (List Row) := do
  let reached ← descend t.nodes t.nodes.length 0 0
  pure (((t.nodes.zip (outcomes.zip features)).zipIdx).map fun e =>
    let depth? := depthOf reached e.2
    { place := if depth?.isSome then e.2 else 0, depth := depth?.getD 0, leaf := depth?.isSome && e.1.1.isLeaf,
      node := e.1.1, outcome := e.1.2.1, feature := e.1.2.2 })

def wayTo (rows : List Row) (place : Nat) : Option Row :=
  ((rows.take place).filter fun r => r.node.right == (place : Int)).getLast?.map fun r => { r with way := .right }

def table (rows : List Row) : List Row :=
  rows.zipIdx.flatMap fun e => (wayTo rows e.2).toList ++ [e.1]

def lastAtDepth (rows : List Row) (position depth : Nat) : Option Nat :=
  (((rows.take position).zipIdx).filter fun e => e.1.way == .left && e.1.depth == depth).getLast?.map (·.2)

def numberOf (rows : List Row) (position : Nat) (previous : Option Nat) (depth : Nat) (numbers : List Nat) :
    Except Fault Nat :=
  if position = 0 then .ok 2
  else
    let last := numbers.getD (position - 1) 0
    match previous with
    | none => .ok (last * 2)
    | some p =>
      if depth < p then
        match lastAtDepth rows position depth with
        | some i => .ok (numbers.getD i 0 + 1)
        | none => .error (.outOfRange "index")
      else if p < depth then .ok (last * 2)
      else .ok (last + 1)

def rowOf (rows : List Row) (place : Int) : Except Fault (Row × Nat) :=
  match rows.zipIdx.find? fun e => e.1.way == .left && (e.1.place : Int) == place with
  | some e => .ok e
  | none => .error (.outOfRange "single positional indexer")

def shownFor (rows : List Row) (deepest position : Nat) (r : Row) : Except Fault (Row × Bool) := do
  if r.depth + 1 = deepest then
    match rows[position + 1]? with
    | some next => pure (next, true)
    | none => throw (.outOfRange "single positional indexer")
  else
    let (left, i) ← rowOf rows r.node.left
    if left.leaf && position < i && r.way == .left then pure (left, true)
    else
      let (right, j) ← rowOf rows r.node.right
      if right.leaf && position < j && r.way == .right then pure (right, true) else pure (r, false)

def Row.outcomeText (r : Row) : Except Fault String :=
  match r.outcome, r.way with
  | .number x, _ => .ok (Decimal.natural x)
  | .label (.int i), _ => .ok (toString i)
  | .label v, .left => do pure (toString (← v.toWhole))
  | .label v, .right => do pure (toString (← (Value.str v.display).toWhole))

def line (rows : List Row) (deepest position number : Nat) (r : Row) : Except Fault String := do
  let (shown, ends) ← shownFor rows deepest position r
  let outcome ← shown.outcomeText
  pure (Text.times (r.depth + 1) "  " ++ toString number ++ ") " ++ r.feature.display ++ " " ++ r.way.sign ++ " " ++
    Decimal.fixed 6 r.node.threshold ++ " " ++ toString shown.node.samples ++ " " ++
    Decimal.fixed 4 shown.node.impurity ++ " " ++ outcome ++ (if ends then " *\n" else "\n"))

def linesFrom (rows : List Row) (deepest : Nat) :
    Nat → Option Nat → List Nat → List Row → Except Fault (List String)
  | _, _, _, [] => .ok []
  | position, previous, numbers, r :: rest => do
    if r.node.isLeaf then
      match numbers.getLast? with
      | some n => linesFrom rows deepest (position + 1) previous (numbers ++ [n]) rest
      | none => .error (.unassigned "cnt")
    else
      let number ← numberOf rows position previous r.depth numbers
      let first ← line rows deepest position number r
      let others ← linesFrom rows deepest (position + 1) (some r.depth) (numbers ++ [number]) rest
      pure (first :: others)

def lines (rows : List Row) : Except Fault (List String) :=
  linesFrom rows (rows.foldl (fun d r => max d r.depth) 0) 0 none [] rows

def rootLine (t : Fitted) : String :=
  "1) root " ++ toString ((t.nodes.head?.map (·.samples)).getD 0) ++ " 9999 9999 (" ++
    Decimal.natural (Statistic.sum (t.nodes.map (·.impurity))) ++ ")\n"

def Fitted.listing (t : Fitted) (names labels mode : Data) : Except Fault String := do
  let features ← t.nodes.mapM fun n => names.nth n.feature
  let outcomes ← t.outcomes labels mode
  let rows ← rowsFor t features outcomes
  pure (rootLine t ++ Text.join "" (← lines (table rows)))

def listingCommand : Command where
  parameters := ["estimator", "feature_names", opt "labels", opt "output_mode" "INFER"]
  run a := do
    let t ← Fitted.ofValue (a "estimator")
    pure (.str (← t.listing (a "feature_names") (a "labels") (a "output_mode")))

/-!
Keeping listings of trees.
-/

open Session

def oneLine (listing : String) : String := Text.replace listing "\n" "#"

def oneLineOf (v : Data) : Except Fault String := do pure (oneLine (← v.strOf "replace"))

def nowhere : Data := Kind.geometry.fn "Point" [.list [0, 0]]

def listingFeature (listing : String) : Data := Kind.feature.make [nowhere, .record [("tree", .str listing)]]

def ensemble (listings : Data) : Data := Kind.classifier.fn "decisionTreeEnsemble" [listings]

def ofFeatures (features : Data) : Data :=
  ensemble ((features.call "aggregate_array" ["tree"]).call "map"
    [Value.each 1 fun x => (Kind.string.make [x]).call "replace" ["#", "\n", "g"]])

def storedLines (content : String) : List String := (Text.lines content).map Text.trim

def stored (listings : List String) : String := Text.join "" (listings.map fun l => oneLine l ++ "\n")

def ensembleCommand : Command where
  parameters := ["trees"]
  run a := do
    let listings ← (← (a "trees").elements).mapM fun t => submit (Kind.string.make [t])
    submit (ensemble (.list listings))

def ofFeaturesCommand : Command where
  parameters := ["fc"]
  run a := submit (ofFeatures (a "fc"))

def exportCommand : Command where
  parameters := ["trees", "asset_id", opt "description" "geemap_rf_export"]
  run a := do
    let _ ← submit nowhere
    let features ← (← (a "trees").elements).mapM fun t => do
      submit (listingFeature (← oneLineOf t))
    let collection ← submit (Kind.featureCollection.make [.list features])
    let task ← submit (.static .exports ["table", "toAsset"] []
      [("collection", collection), ("description", a "description"), ("assetId", a "asset_id")])
    Session.start task
    pure .null

def writeCommand : Command where
  parameters := ["trees", "out_csv"]
  run a := do
    let path := Path.absolute (← (a "out_csv").pathOf)
    writeText path ""
    let listings ← (← (a "trees").elements).mapM fun t => (t.strOf "replace" : Except Fault String)
    writeText path (stored listings)
    pure .null

def readCommand : Command where
  parameters := ["in_csv"]
  run a := do
    let path ← (a "in_csv").pathOf
    match ← attempt (readText path) with
    | .error (.noFile _) =>
      print (path ++ " could not be found.")
      pure .null
    | .error e => throw e
    | .ok content =>
      let _ ← submit nowhere
      let features ← (storedLines content).mapM fun l => submit (listingFeature l)
      let collection ← submit (Kind.featureCollection.make [.list features])
      submit (ofFeatures collection)

end RemoteSensing.DecisionTree
