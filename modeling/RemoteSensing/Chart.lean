import RemoteSensing.Command
import RemoteSensing.Table.Csv

/-!
Charts of time series: a value of every image of a collection over a region, drawn over the date of the image.
-/

namespace RemoteSensing.Chart

open Session Value

structure Axes where
  title : String
  xLabel : String
  yLabel : String
  bars : Nat := 0
  lines : List (List Data × List Data) := []
deriving Inhabited

def Axes.toValue (c : Axes) : Data :=
  .record [("title", .str c.title), ("xlabel", .str c.xLabel), ("ylabel", .str c.yLabel), ("bars", .int c.bars),
    ("lines", .list (c.lines.map fun l => .list [.list l.1, .list l.2]))]

def microsOf (seconds : Float) : Except Fault Int := do
  if seconds.isNaN then throw (.wrongValue "Invalid value NaN (not a number)")
  if seconds.abs ≥ 9223372036854775808 then
    throw (.overflow "timestamp out of range for platform time_t")
  let whole ← Value.truncated seconds
  let rest ← Value.nearestInt ((seconds - Float.ofInt whole) * 1000000)
  pure (whole * 1000000 + rest)

def instant (seconds : Float) : Except Fault Moment := do
  let m : Moment := ⟨← microsOf seconds, none⟩
  for d in [m.date, Date.ofDays (m.micros / Moment.perDay - 1)] do
    if d.year < 1 || 9999 < d.year then
      throw (.wrongValue ("year " ++ toString d.year ++ " is out of range"))
  pure m

def valueOf (band region reducer size image : Data) : Session Data := do
  let reduced (r : Data) : Session Data := do
    let selected ← submit (image.call "select" [band])
    let r ← submit r
    submit (selected.call "reduceRegion" [] [("reducer", r), ("geometry", region), ("scale", size),
      ("maxPixels", 1e9)])
  let value ←
    if reducer.isText "mean" then do pure (some (← reduced (Kind.reducer.fn "mean")))
    else if reducer.isText "median" then do pure (some (← reduced (Kind.reducer.fn "median")))
    else pure none
  let date ← submit (image.call "date")
  match value with
  | none => throw (.unassigned "value")
  | some v => submit (Kind.feature.make [.null, .record [("date", date), ("value", v.call "get" [band])]])

def point? (feature : Data) : Except Fault (Option (Moment × Data)) := do
  let properties ← feature.item "properties"
  let value ← properties.item "value"
  if value.isNull then pure none
  else
    let seconds ← (← (← properties.item "date").item "value").div 1000
    pure (some (← instant (← seconds.toReal), value))

def points (answer : Data) : Except Fault (List (Moment × Data)) := do
  let found ← (← (← answer.item "features").elements).mapM point?
  pure ((found.filterMap id).mergeSort fun p q => p.1.micros ≤ q.1.micros)

def checkDrawable (values : List Data) : Except Fault Unit :=
  match values with
  | .str _ :: _ => values.forM fun v => do
      v.checkKey
      unless v.isStr do
        throw (.wrongType ("'value' must be an instance of str or bytes, not a " ++ v.typeName))
  | _ => values.forM fun v => match v with
      | .list _ => throw (.wrongValue "setting an array element with a sequence.")
      | v => do
        let _ ← v.toReal

def charted (m : Moment) : Data := .moment ⟨m.micros / 1000 * 1000, m.offset⟩

def series (images region band reducer size : Data) : Session (List Axes) := do
  let features ← mapEach 1 images (valueOf band region reducer size)
  let answer ← info features
  let ps ← points answer
  let values := Table.unify (ps.map (·.2))
  orTell "Error creating time series chart: " [{ title := "", xLabel := "", yLabel := "" }] do
    checkDrawable values
    pure [{ title := band.display ++ " Time Series", xLabel := "Date",
            yLabel := band.display ++ " (" ++ reducer.display ++ ")",
            lines := [(ps.map fun p => charted p.1, values)] }]

def seriesCommand : Command where
  parameters := ["image_collection", "region", opt "band" "NDVI", opt "reducer" "mean", opt "scale" 30]
  run a := do
    let charts ← orTell "Error creating time series chart: " []
      (series (a "image_collection") (a "region") (a "band") (a "reducer") (a "scale"))
    pure (.list (charts.map Axes.toValue))

/-!
Histograms of a band: values sampled in a region, drawn in fifty bars, and a few statistics of them in print.
-/

def sampledValues (image region band size pixels : Data) : Session Data := do
  let sample ← submit ((image.call "select" [band]).call "sample" []
    [("region", region), ("scale", size), ("numPixels", pixels), ("dropNulls", true)])
  info (sample.call "aggregate_array" [band])

def barCount : Nat := 50

def unmeasurable : Fault :=
  .wrongType ("ufunc 'isfinite' not supported for the input types, and the inputs could not be safely coerced " ++
    "to any supported types according to the casting rule ''safe''")

def checkRange (xs : List Data) : Except Fault Unit := do
  if xs.any Table.isOversized then throw unmeasurable
  if xs.all Table.isTruth && !(xs.all fun x => x.same (xs.headD .null)) then
    throw Table.truthDifference
  let numbers ← xs.mapM toReal
  match numbers.filter fun x => !x.isNaN with
  | [] => unless numbers.isEmpty do throw (.wrongValue "autodetected range of [nan, nan] is not finite")
  | x :: r =>
    let low := r.foldl (fun best y => if y < best then y else best) x
    let high := r.foldl (fun best y => if best < y then y else best) x
    if low.isInf || high.isInf then
      throw (.wrongValue ("supplied range of [" ++ (real low : Data).display ++ ", " ++
        (real high : Data).display ++ "] is not finite"))

def isSingle (v : Data) : Bool :=
  match v with
  | .null | .bool _ | .int _ | .real _ | .str _ => true
  | _ => false

def checkSet (xs : List Data) : Except Fault Unit := do
  if xs.any isStr && !(xs.any fun x => x.isNull || Table.isOversized x) then pure ()
  else if xs.all isNumber then checkRange xs
  else
    let lowest ← match xs with
      | [] => pure .null
      | x :: r => r.foldlM (fun (best : Data) y => do pure (if ← best.le y then best else y)) x
    let _ ← lowest.lt (.real Decimal.infinity)
    throw unmeasurable

def barsOf (data : Data) : Except Fault Nat := do
  if isSingle data && !data.isNull then
    checkSet [data]
    return barCount
  let _ ← data.len
  let xs ← data.elements
  if xs.all isSingle then
    checkSet xs
    pure barCount
  else
    xs.forM fun x => match x with
      | .list ys | .tuple ys => checkSet ys
      | x => checkSet [x]
    pure (barCount * xs.length)

def textWidth (v : Data) : Nat :=
  match v with
  | .str s => max 1 s.length
  | .bool _ => 5
  | .int _ => 21
  | _ => 32

def measurable (data : Data) : Except Fault (List Float) := do
  let xs ← match data with
    | .record _ | .box _ => throw (.wrongType "unsupported operand type(s) for /: 'dict' and 'int'")
    | v => if isSingle v then pure [v] else v.elements
  if xs.any isStr then
    let kind (n : Nat) : String := "dtype('<U" ++ toString n ++ "')"
    let width := (xs.map textWidth).foldl max 1
    throw (.wrongType ("the resolved dtypes are not compatible with add.reduce. Resolved (" ++ kind width ++ ", " ++
      kind width ++ ", " ++ kind (2 * width) ++ ")"))
  let rows := xs.filterMap Table.cells?
  if rows.isEmpty then xs.mapM toReal
  else if rows.length = xs.length && rows.all (·.length == (rows.headD []).length) then
    rows.flatten.mapM toReal
  else
    throw (.wrongValue ("setting an array element with a sequence. The requested array has an inhomogeneous " ++
      "shape after 1 dimensions. The detected shape was (" ++ toString xs.length ++ ",) + inhomogeneous part."))

def tellStatistics (band data : Data) : Session Unit := do
  let tell (name : String) (x : Float) : Session Unit :=
    print ("  " ++ name ++ ": " ++ Decimal.fixed 4 x)
  print ("Statistics for " ++ band.display ++ ":")
  print ("  Count: " ++ toString (← data.len))
  let xs ← measurable data
  tell "Mean" (Statistic.mean xs)
  tell "Std" (Statistic.deviation xs)
  match xs with
  | [] => throw (.wrongValue "zero-size array to reduction operation minimum which has no identity")
  | x :: r =>
    tell "Min" (r.foldl (fun best y => if y < best then y else best) x)
    tell "Max" (r.foldl (fun best y => if best < y then y else best) x)

def bandHistogram (image region band size pixels : Data) : Session (List Axes) := do
  match ← attempt (sampledValues image region band size pixels) with
  | .error e =>
    print ("Error creating histogram: " ++ e.message)
    pure []
  | .ok data =>
    match barsOf data with
    | .error e =>
      print ("Error creating histogram: " ++ e.message)
      pure [{ title := "", xLabel := "", yLabel := "" }]
    | .ok bars =>
      let chart : Axes := { title := "Histogram of " ++ band.display, xLabel := band.display ++ " Values",
                            yLabel := "Frequency", bars := bars }
      orTell "Error creating histogram: " [chart] do
        tellStatistics band data
        pure [chart]

def bandHistogramCommand : Command where
  parameters := ["image", "region", "band", opt "scale" 30, opt "max_pixels" 1e6]
  run a := do
    let charts ← bandHistogram (a "image") (a "region") (a "band") (a "scale") (a "max_pixels")
    pure (.list (charts.map Axes.toValue))

/-!
Histograms of a property of features.
-/

def isHollow : Data → Bool
  | .null | .str "" | .list [] | .tuple [] | .record [] | .box [] => true
  | _ => false

def numberIn (s : String) (position : Nat) : Except Fault Data :=
  let place := " at position " ++ toString position
  match Field.fraction? s with
  | none => .error (.wrongValue ("Unable to parse string \"" ++ s ++ "\"" ++ place))
  | some x =>
    match Text.readInt? 10 s with
    | none => .ok (.real x)
    | some i =>
      if i < -Int.pow 2 63 || Int.pow 2 64 ≤ i then .error (.wrongValue ("Integer out of range." ++ place))
      else .ok (.int i)

def numberOf (x : Data) (position : Nat) : Except Fault Data :=
  if isHollow x then .ok Table.gap
  else
    match x with
    | .str s => numberIn s position
    | .int i =>
      if (Decimal.ofInt? i).isNone then .error (.overflow "int too large to convert to float") else .ok x
    | .real _ | .bool _ => .ok x
    | _ => .error (.wrongType ("Invalid object type at position " ++ toString position))

def numeric (xs : List Data) : Except Fault (List Data) := do
  let column := Table.unify xs
  if Table.contentOf column != .any then return column
  let parsed ← column.zipIdx.mapM fun x => numberOf x.1 x.2
  let gaps := parsed.any isNotANumber
  let within := parsed.filter fun x => !Table.isOversized x
  if within.any Table.isWide && (gaps || within.any Table.isNegative) then pure column
  else
    let numbers := parsed.map fun x => match x with
      | .bool b => .int (if b then 1 else 0)
      | x => x
    pure (if numbers.any (fun x => Table.isFraction x || Table.isOversized x) then numbers.map Table.toFraction
      else numbers)

def extremeOf (f : List Data → Except Fault Data) (xs : List Data) : Except Fault Data :=
  match xs.filter fun x => !x.isNotANumber && !x.isNull with
  | [] => .ok Table.gap
  | ys => f ys

def distance (content : Table.Content) (low high : Data) : Except Fault Data := do
  match content, ← (if content == .truth then pure .null else high.sub low) with
  | .truth, _ => throw Table.truthDifference
  | .whole, .int i => pure (.int (i.bmod (Nat.pow 2 64)))
  | _, d => pure d

def logCeiling (v : Data) : Except Fault Int := do
  if !v.isNumber then throw (.wrongType ("must be real number, not " ++ v.typeName))
  let x ← v.toReal
  if x ≤ 0.0 then throw (.wrongValue "math domain error")
  truncated (Float.ceil (Float.log2 x))

def powerOfTwo (e : Int) : Data :=
  if 0 ≤ e then .int (Int.pow 2 e.toNat) else .real (Float.pow 2.0 (Float.ofInt e))

def nextPower (v : Data) : Except Fault Data := do pure (powerOfTwo (← logCeiling v))

def grow (least : Data) : Nat → Data → Except Fault Data
  | 0, width => .ok width
  | fuel + 1, width => do
    if ← width.lt least then grow least fuel (← width.mul 2) else pure width

def widened (initial least : Data) : Except Fault Data := do
  if least.truthy then
    if ← least.lt initial then grow initial 2200 least else pure least
  else pure initial

def measured (measure : Bool) (a b : Data) : Except Fault Data := do
  if measure then
    let x ← a.toReal
    let y ← b.toReal
    pure (.real (x / y))
  else a.div b

def floorOf (v : Data) : Except Fault Data := do
  match v with
  | .int i => pure (.int i)
  | v => pure (.int (← truncated (Float.floor (← v.toReal))))

def ceilingOf (v : Data) : Except Fault Data := do
  match v with
  | .int i => pure (.int i)
  | v => pure (.int (← truncated (Float.ceil (← v.toReal))))

def replaceFirst (old new : Data) : List Data → Except Fault (List Data)
  | [] => .error (.wrongValue (old.literal ++ " is not in list"))
  | x :: r => if x.same old then .ok (new :: r) else (replaceFirst old new r).map (x :: ·)

def binned (values : List Data) (low high range : Data) (measure : Bool) (buckets least : Data) :
    Except Fault (List Data × Data) := do
  let initial ←
    if buckets.truthy then do ceilingOf (← measured measure range (← nextPower buckets))
    else do nextPower (← measured measure range 256)
  let width ← widened initial least
  let half ← width.div 2
  let first ← (← (← floorOf (← measured measure low width)).mul width).sub half
  let last ← (← (← ceilingOf (← measured measure high width)).mul width).add half
  let values ← if ← first.lt low then pure (values ++ [first]) else replaceFirst low first values
  let values ← if ← last.gt high then pure (values ++ [last]) else replaceFirst high last values
  pure (values, ← floorOf (← (← last.sub first).div width))

def setProperty (target name : String) (v : Data) : Session Unit :=
  trace (target ++ "." ++ name ++ " = " ++ v.text)

def draw (values : List Data) (bins : Data) (options : Fields) : Session Unit := do
  let option (k : String) (default : Data) : Data := (lookup k options).getD default
  let given (k : String) : Bool := (lookup k options).isSome
  trace ("plt.figure(title=" ++ (option "title" "").text ++ ")")
  if given "width" then setProperty "fig.layout" "width" (option "width" .null)
  if given "height" then setProperty "fig.layout" "height" (option "height" .null)
  let x := option "x_label" ""
  let y := option "y_label" ""
  let axes : Data := .record [("count", .record [("label", y)]), ("sample", .record [("label", x)])]
  trace ("plt.hist(sample=" ++ (list values).text ++ ", bins=" ++ bins.text ++
    ", axes_options=" ++ axes.text ++ ")")
  if given "colors" then setProperty "hist" "colors" (option "colors" .null)
  setProperty "hist" "stroke" (option "stroke" "#ffffff00")
  setProperty "hist" "stroke_width" (option "stroke_width" 0)
  let labels := if given "x_label" && given "y_label" then ", labels=" ++ (list [x, y]).text else ""
  trace ("hist.tooltip = Tooltip(fields=[\"midpoint\", \"count\"]" ++ labels ++ ")")

def propertyValues (collection property : Data) : Session (List Data) := do
  match ← info (collection.call "aggregate_array" [property]) with
  | .list xs => (numeric xs : Except Fault _)
  | .record fs | .box fs => (numeric (fs.map (·.2)) : Except Fault _)
  | .null => pure []
  | v => (numeric [v] : Except Fault _)

def histogram (a : Arguments) : Session Data := do
  let values ← propertyValues (a "features") (a "property")
  let content := Table.contentOf values
  let (low, high, range) ←
    match lookup "ylim" a.rest with
    | some limits => do
      let low ← limits.nth 0
      let high ← limits.nth 1
      pure (low, high, ← high.sub low)
    | none => do
      let low ← extremeOf minimum values
      let high ← extremeOf maximum values
      pure (low, high, ← distance content low high)
  let measure := (lookup "ylim" a.rest).isNone && content != .any
  let (values, bins) ←
    binned values low high range measure (a "max_buckets") (a "min_bucket_width")
  draw values bins a.rest
  if (a "show").truthy then
    trace "plt.show()"
    pure .null
  else pure (.object .computed "hist")

def histogramCommand : Command where
  parameters := ["features", "property", opt "max_buckets", opt "min_bucket_width", opt "show" true]
  open_ := true
  run a := do
    let features := a "features"
    let property := a "property"
    unless features.isKind .featureCollection do
      reject .general "features must be an ee.FeatureCollection"
    let names ← info ((features.call "first").call "propertyNames")
    unless ← names.holds property do
      reject .general ("property " ++ property.display ++ " not found. Available properties: " ++
        (← names.joined ", "))
    try histogram a
    catch e => throw (e.restated .general)

end RemoteSensing.Chart
