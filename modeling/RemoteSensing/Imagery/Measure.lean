import RemoteSensing.Command

/-!
Measuring an image: its cells, dates and properties, the values that occur in it, and its statistics over a region. All
of it is computed on the server.
-/

namespace RemoteSensing.Imagery

open Kind Session Text

def described (parameters : List Parameter) (describe : Arguments → Data) : Command where
  parameters := parameters
  run a := submit (describe a)

def scale (image : Data) : Data := image.call "select" [0] |>.call "projection" |>.call "nominalScale"

def cellSize (image : Data) : Session Data := do
  let bands ← submit (image.call "bandNames")
  let scales ← submit (bands.call "map" [Value.each 1 fun b =>
    image.call "select" [.list [b]] |>.call "projection" |>.call "nominalScale"])
  let several ← submit (scales.call "distinct" |>.call "size" |>.call "gt" [1])
  let names ← info bands
  submit (algorithms.fn "If"
    [several, dictionary.fn "fromLists" [names, scales], scales.call "get" [0]])

def instant (image : Data) (property : String) : Data := Kind.date.make [image.call "get" [.str property]]

def dateOf (image format : Data) : Data := (instant image "system:time_start").call "format" [format]

def cellSizeCommand : Command where
  parameters := ["img"]
  run a := cellSize (a "img")

def scaleCommand : Command := described ["img"] fun a => scale (a "img")

def bandNamesCommand : Command := described ["img"] fun a => (a "img").call "bandNames"

def dateFormat : Parameter := opt "date_format" "YYYY-MM-dd"

def dateCommand : Command :=
  described ["img", dateFormat] fun a => dateOf (a "img") (a "date_format")

def datesCommand : Command :=
  described ["img_col", dateFormat] fun a =>
    (a "img_col").call "aggregate_array" ["system:time_start"]
      |>.call "map" [Value.each 1 fun d => (Kind.date.make [d]).call "format" [a "date_format"]]

def tellNoImage : Session Unit := print "The input object must be an ee.Image"

def properties (image format : Data) : Session Data := do
  let keys ← submit (image.call "propertyNames" |>.call "remove" ["system:footprint"]
    |>.call "remove" ["system:bands"])
  let values ← submit (keys.call "map" [Value.each 1 fun p => image.call "get" [p]])
  let props ← submit (dictionary.fn "fromLists" [keys, values])
  let names ← info keys
  let size ← cellSize image
  let props ← submit (props.call "set" ["NOMINAL_SCALE", size])
  let exact : Data := "YYYY-MM-dd HH:mm:ss"
  let props ←
    if ← names.has "system:time_start" then
      let date ← submit (dateOf image format)
      let start ← submit (dateOf image exact)
      let stop ← submit (algorithms.fn "If"
        [(list.make [image.call "propertyNames"]).call "contains" ["system:time_end"],
          (instant image "system:time_end").call "format" [exact], start])
      let props ← submit (props.call "set" ["system:time_start", start])
      let props ← submit (props.call "set" ["system:time_end", stop])
      submit (props.call "set" ["IMAGE_DATE", date])
    else pure props
  if ← names.has "system:asset_size" then
    let bytes ← submit ((number.make [image.call "get" ["system:asset_size"]]).call "divide" [1e6]
      |>.call "format" |>.call "cat" [string.make [" MB"]])
    submit (props.call "set" ["system:asset_size", bytes])
  else pure props

def propertiesCommand : Command where
  parameters := ["img", dateFormat]
  run a := do
    if (a "img").isKind .image then properties (a "img") (a "date_format")
    else
      tellNoImage
      pure .null

def extentOf (image region size : Data) : Session (Data × Data) := do
  let region ← if region.isNull then submit (image.call "geometry") else pure region
  let size ← if size.isNull then submit (scale image) else pure size
  pure (region, size)

def reduced (reducer : String) (image region size : Data) : Session Data := do
  let (region, size) ← extentOf image region size
  submit (image.call "reduceRegion" [] [("reducer", Kind.reducer.fn reducer), ("geometry", region),
    ("scale", size), ("maxPixels", 1e12), ("bestEffort", true)])

def regionParameters : List Parameter := ["img", opt "region", opt "scale"]

def reducedCommand (reducer : String) : Command where
  parameters := regionParameters
  run a := reduced reducer (a "img") (a "region") (a "scale")

def statisticsCommand : Command where
  parameters := regionParameters
  run a := do
    if (a "img").isKind .image then
      let results ← ["min", "max", "mean", "stdDev", "sum"].mapM fun r =>
        reduced r (a "img") (a "region") (a "scale")
      let results ← submit (list.make [.list results])
      submit (dictionary.fn "fromLists" [.strs ["min", "max", "mean", "std", "sum"], results])
    else
      tellNoImage
      pure .null

def area (image region size denominator : Data) : Session Data := do
  let (region, size) ← extentOf image region size
  let cells ← submit (image.call "unmask" |>.call "neq" [Kind.image.make [0]]
    |>.call "multiply" [Kind.image.fn "pixelArea"] |>.call "divide" [denominator])
  submit (cells.call "reduceRegion" [] [("geometry", region), ("reducer", Kind.reducer.fn "sum"),
    ("scale", size), ("maxPixels", 1e12)])

def areaCommand : Command where
  parameters := regionParameters ++ [opt "denominator" 1.0]
  run a := area (a "img") (a "region") (a "scale") (a "denominator")

def histogram (image region size : Data) (more : Fields) : Session Data := do
  let region ←
    if region.isNull then
      let box ← submit (image.call "geometry" |>.call "bounds")
      submit (featureCollection.make [.list [feature.make [box]]])
    else if region.isKind .geometry then
      submit (featureCollection.make [.list [feature.make [region]]])
    else if region.isKind .featureCollection then pure region
    else reject .value "region must be an ee.Geometry or ee.FeatureCollection"
  let size ← if size.isNull then submit ((scale image).call "multiply" [10]) else pure size
  let named := Value.insertAll more
    [("scale", size), ("reducer", Kind.reducer.fn "frequencyHistogram"), ("collection", region)]
  let counts ← submit (image.call "reduceRegions" [] named)
  submit (dictionary.make [(counts.call "first").call "get" ["histogram"]])

def occurring (image region size : Data) (more : Fields := []) : Session Data := do
  submit ((← histogram image region size more).call "keys")

def occurringCommand : Command where
  parameters := regionParameters ++ [opt "return_hist" false]
  open_ := true
  run a := do
    if (a "return_hist").truthy then histogram (a "img") (a "region") (a "scale") a.rest
    else occurring (a "img") (a "region") (a "scale") a.rest

def valueReducers : List (String × String) :=
  [("MEAN", "mean"), ("MAXIMUM", "max"), ("MEDIAN", "median"), ("MINIMUM", "min"), ("MODE", "mode"),
    ("STD", "stdDev"), ("MIN_MAX", "minMax"), ("SUM", "sum"), ("VARIANCE", "variance")]

/-!
Reducers by name.
-/

def reservedWords : List String :=
  ["and", "as", "assert", "async", "await", "break", "class", "continue", "def", "del", "elif", "else", "except",
    "finally", "for", "from", "global", "if", "import", "in", "is", "lambda", "nonlocal", "not", "or", "pass",
    "raise", "return", "try", "while", "with", "yield", "None", "True", "False"]

def isName (s : String) : Bool := isIdentifier s && !reservedWords.contains s

def isPath (s : String) : Bool := (split s ".").all fun part => isName (trim part)

def partOf (s : String) : String × Bool :=
  let s := trim s
  if endsWith s "()" then (trim (sliceTo s (s.length - 2)), true) else (s, false)

def chained (parts : List (String × Bool)) : Data :=
  let uncalled := parts.takeWhile fun p => !p.2
  let path := uncalled.map (·.1) ++ ((parts.drop uncalled.length).take 1).map (·.1)
  (parts.drop (uncalled.length + 1)).foldl (fun v p => v.call p.1) (.static .reducer path [] [])

def reducerNamed (s : String) : Except Fault Data :=
  let s := trim s
  let parts := (split s ".").map partOf
  if parts.all fun p => isName p.1 then
    if parts.getLast?.any (·.2) then .error (.wrongType "'Reducer' object is not callable")
    else .ok (chained parts)
  else if isPath ((split s "(").headD "") && endsWith s ")" then
    .error (.wrongType "'Reducer' object is not callable")
  else .error .badExpression

end RemoteSensing.Imagery
