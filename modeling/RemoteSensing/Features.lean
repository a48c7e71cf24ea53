import RemoteSensing.Export.Download
import RemoteSensing.Imagery.Measure

/-!
Features on the server: their areas and centres, their geometry as data, and the box around them.
-/

namespace RemoteSensing.Features

open Session Value

def areaCommand (property : String) (divisor : Option Data := none) : Command :=
  Imagery.described ["fc"] fun a =>
    (a "fc").call "map" [Value.each 1 fun f =>
      let area := f.call "area" [1]
      let area := match divisor with
        | some d => area.call "divide" [d]
        | none => area
      f.call "set" [.record [(property, area.call "round")]]]

def withoutGeometryCommand : Command :=
  Imagery.described ["fc"] fun a => (a "fc").call "select" [.strs [".*"], .null, false]

def centresCommand : Command where
  parameters := ["ee_object"]
  run a := do
    unless (a "ee_object").isKind .featureCollection do
      reject .type "The input must be an Earth Engine FeatureCollection."
    let centres ← submit ((a "ee_object").call "map" [Value.each 1 fun f =>
      Kind.feature.make [f.call "geometry" |>.call "centroid" [0.001], f.call "toDictionary"]])
    submit (centres.call "map" [Value.each 1 fun f =>
      let coordinate (i : Nat) : Data := f.call "geometry" |>.call "coordinates" |>.call "get" [.int i]
      f.call "set" [.record [("longitude", coordinate 0), ("latitude", coordinate 1)]]])

def toData (object filename indent : Data) (options : Fields) : Session Data := do
  if object.isAnyKind [.geometry, .feature, .featureCollection] then
    let v ← info object
    if filename.isNull then return v
    let path := Path.absolute (← filename.pathOf)
    unless ← pathExists (Path.folder path) do makeFolder (Path.folder path)
    writeText path ""
    let s ← Json.writeWith indent options v
    writeText path (s ++ "\n")
  else print "Could not convert the Earth Engine object to geojson"
  pure .null

def toDataCommand : Command where
  parameters := ["ee_object", opt "filename", opt "indent" 2]
  open_ := true
  run a := do
    try toData (a "ee_object") (a "filename") (a "indent") a.rest
    catch e => throw (e.restated .general)

def boxCommand : Command where
  parameters := ["ee_object"]
  run a := do
    let object := a "ee_object"
    let geometry ←
      if object.isAnyKind [.image, .feature, .featureCollection] then submit (object.call "geometry")
      else if object.isKind .geometry then pure object
      else
        reject .general
          "The ee_object must be an ee.Image, ee.Feature, ee.FeatureCollection or ee.Geometry object."
    let answer ← info (geometry.call "bounds")
    let corner (corners : Data) (i j : Int) : Except Fault Data := do (← corners.nth i).nth j
    let box : Except Fault Data := do
      let corners ← (← answer.item "coordinates").nth 0
      pure (.list [← corner corners 0 0, ← corner corners 0 1, ← corner corners 1 0, ← corner corners 2 1])
    box

def roundedBox (positions places : Data) : Except Fault Data := do
  let ps ← positions.elements
  let xs ← ps.mapM fun p => p.nth 0
  let ys ← ps.mapM fun p => p.nth 1
  let west ← (← Value.minimum xs).round places
  let east ← (← Value.maximum xs).round places
  let south ← (← Value.minimum ys).round places
  let north ← (← Value.maximum ys).round places
  pure (.list [west, south, east, north])

def roundedBoxCommand : Command where
  parameters := ["geometry", opt "decimals" 4]
  run a := do
    let geometry ←
      if (a "geometry").isKind .featureCollection then submit ((a "geometry").call "geometry")
      else pure (a "geometry")
    if geometry.isNull then return .null
    unless geometry.isKind .geometry do reject .value "geometry must be an ee.Geometry."
    let answer ← info (geometry.call "bounds" |>.call "coordinates")
    let box : Except Fault Data := do roundedBox (← answer.nth 0) (a "decimals")
    box

/-!
Statistics of a property over the features of a collection, as a whole or group by group.
-/

def summaries : List String := ["min", "max", "mean", "median", "sum", "stdDev", "variance"]

def summaryReducer? (word : Data) : Session (Option (String × Data)) := do
  let word := Text.lower (← word.strOf "lower")
  if summaries.contains word then
    for s in summaries do
      let _ ← submit (Kind.reducer.fn s)
    pure (some (word, Kind.reducer.fn word))
  else
    print ("The stats type must be one of the following: " ++ Text.join "," summaries)
    pure none

def columnCommand : Command where
  parameters := ["collection", "column", "stats_type"]
  run a := do
    match ← summaryReducer? (a "stats_type") with
    | some (_, reducer) =>
      submit ((a "collection").call "reduceColumns" []
        [("selectors", .list [a "column"]), ("reducer", reducer)])
    | none => pure .null

def groupsCommand : Command where
  parameters := ["collection", "column", "group", "group_name", "stats_type", opt "return_dict" true]
  run a := do
    match ← summaryReducer? (a "stats_type") with
    | some (word, reducer) =>
      let stats ← submit ((a "collection").call "reduceColumns" []
        [("selectors", .list [a "column", a "group"]),
          ("reducer", reducer.call "group" [] [("groupField", 1), ("groupName", a "group_name")])])
      let results ← submit (Kind.list.make [(Kind.dictionary.make [stats]).call "get" ["groups"]])
      if (a "return_dict").truthy then
        let part (key : Data) : Data :=
          results.call "map" [Value.each 1 fun g => (Kind.dictionary.make [g]).call "get" [key]]
        let keys ← submit (part (a "group_name"))
        let values ← submit (part (.str word))
        submit (Kind.dictionary.fn "fromLists" [keys, values])
      else pure results
    | none => pure .null

mutual

def unwritten? : Data → Option String
  | .real x => if x.isNaN then some "nan" else if x.isInf then some "inf" else none
  | .list xs => unwrittenAmong? xs
  | .tuple xs => unwrittenAmong? xs
  | .record fs => unwrittenUnder? fs
  | .box fs => unwrittenUnder? fs
  | _ => none

def unwrittenAmong? : List Data → Option String
  | [] => none
  | x :: r => (unwritten? x).or (unwrittenAmong? r)

def unwrittenUnder? : Fields → Option String
  | [] => none
  | f :: r => (unwritten? f.2).or (unwrittenUnder? r)

end

def expressionValue (s : String) : Except Fault Data :=
  match Text.trim s with
  | "None" => .ok .null
  | "True" => .ok (.bool true)
  | "False" => .ok (.bool false)
  | e =>
    if Text.isIdentifier e then .error (.unknownName e)
    else match Text.readInt? 10 e, Decimal.read? e with
      | some i, _ => .ok (.int i)
      | none, some x => .ok (.real x)
      | none, none => .error .badExpression

def readBack (v : Data) : Except Fault Data :=
  match v with
  | .str s => expressionValue s
  | v =>
    match unwritten? v with
    | some word => .error (.unknownName word)
    | none => .ok v

def allCommand : Command where
  parameters := ["collection", "column"]
  run a := do
    let answer ← info ((a "collection").call "aggregate_stats" [a "column"])
    readBack answer

/-!
Styles of features.
-/

def firstPropertyNames (collection : Data) : Session Data :=
  info ((Kind.feature.make [collection.call "first"]).call "propertyNames")

def distinctValues (collection column : Data) : Data :=
  collection.call "aggregate_array" [column] |>.call "distinct" |>.call "sort"

def opacityDigits (opacity : Data) : Except Fault String := do
  let n ← (← opacity.mul 255).toWhole
  let digits := Text.hexDigits n.natAbs
  pure (Text.zeroFill (if n < 0 then "x" ++ digits else digits) 2)

def paletteColours (palette values : Data) : Session (List Data) := do
  match palette with
  | .box _ =>
    try (do (← palette.item "default").elements : Except Fault (List Data))
    catch e =>
      print "The provided palette is invalid."
      throw (e.restated .general)
  | .tuple xs | .list xs => pure xs
  | .record fs =>
    let known ← info values
    let colours : Except Fault (List Data) := do
      let known ← known.elements
      unless fs.all (fun f => (str f.1).memberOf known) do
        throw (.rejected .value ("The keys of the palette must contain the following elements: " ++
          (← joined ", " (.list known))))
      known.mapM palette.subscript
    colours
  | _ => reject .type "The palette must be a list."

def paint (a : Arguments) : Session Data := do
  let collection := a "ee_object"
  let column := a "column"
  unless collection.isKind .featureCollection do
    reject .type "The ee_object must be an ee.FeatureCollection."
  let names ← firstPropertyNames collection
  let values ← submit (distinctValues collection column)
  unless ← names.holds column do
    reject .value
      ("The column name must of one of " ++ (← names.joined ", "))
  let palette ← paletteColours (a "palette") values
  let filled ← (palette.mapM fun c => do
    pure (.str (Text.trim (← c.strOf "strip") ++ (← opacityDigits (a "fillColorOpacity")))) :
      Except Fault (List Data))
  let colours ← submit (Kind.list.make [.list filled])
  let numbered ← submit (collection.call "map" [each 1 fun f =>
    f.call "set" [.record [("styleIndex", values.call "indexOf" [f.call "get" [column]])]]])
  let step ← submit (values.call "size" |>.call "divide" [colours.call "size"] |>.call "ceil")
  mapEach 1 numbered fun f => do
    let line ← (a "color").add (.str (← opacityDigits (a "colorOpacity")))
    let part := (Kind.number.make [f.call "get" ["styleIndex"]]).call "divide" [step]
    submit (f.call "set" [.record [("style", .record
      [("color", line), ("pointSize", a "pointSize"), ("pointShape", a "pointShape"), ("width", a "width"),
        ("lineType", a "lineType"),
        ("fillColor", colours.call "get" [(Kind.number.make [part]).call "floor"])])]])

def paintCommand : Command where
  parameters := ["ee_object", "column", "palette", opt "color" "000000", opt "colorOpacity" 1.0,
    opt "pointSize" 3, opt "pointShape" "circle", opt "width" 1, opt "lineType" "solid",
    opt "fillColorOpacity" 0.66]
  run := paint

def spread (n : Nat) (single : Data → Bool) (refusal : String) (v : Data) : Session Data :=
  if single v then pure (.list (List.replicate n v))
  else if v.isList then pure v
  else reject .value refusal

def styledValues (collection column labels : Data) : Session (Data × Data) := do
  match labels with
  | .null => pure (collection, ← info (distinctValues collection column))
  | .list _ =>
    pure (← submit (collection.call "filter" [Kind.filter.fn "inList" [column, labels]]), labels)
  | _ => reject .value "labels must be a list."

def lineColours (n : Nat) (v : Data) : Session Data := do
  if v.isStr then pure (.list (List.replicate n v))
  else
    if (← v.len) ≠ n then
      reject .value "labels and color must be the same length."
    if v.isList then pure v else reject .value "color must be a string or a list."

def styles (labels : List Data) (settings : Fields) : Except Fault Data := do
  let looks ← labels.zipIdx.mapM fun l => do
    let look ← settings.mapM fun s => do pure (s.1, ← s.2.nth l.2)
    l.1.checkKey
    pure (record look)
  pure (.record (← pairUp labels looks))

def style (a : Arguments) : Session Data := do
  unless (a "collection").isKind .featureCollection do
    reject .value "collection must be an ee.FeatureCollection."
  let column ← match a "column" with
    | .str s => pure s
    | _ => reject .value "column must be a string."
  let names ← firstPropertyNames (a "collection")
  unless ← names.has column do
    reject .value (column ++ " is not a property name of the collection. It must be one of " ++
      (← names.joined ",") ++ ".")
  let (collection, labels) ← styledValues (a "collection") (.str column) (a "labels")
  let n ← labels.len
  let colour ← lineColours n (a "color")
  let pointSize ← spread n isInt "pointSize must be an integer or a list." (a "pointSize")
  let pointShape ← spread n isStr "pointShape must be a string or a list." (a "pointShape")
  let width ← spread n isInt "width must be an integer or a list." (a "width")
  let fill ←
    if (a "fillColor").isNull then pure colour
    else spread n isStr "fillColor must be a list." (a "fillColor")
  unless (a "neighborhood").isInt do reject .value "neighborhood must be an integer."
  let line ← spread n isStr "lineType must be a string or list." (a "lineType")
  let settings := [("color", colour), ("pointSize", pointSize), ("pointShape", pointShape), ("width", width),
    ("fillColor", fill), ("lineType", line)]
  let byValue ← (do styles (← labels.elements) settings : Except Fault Data)
  let byValue ← submit (Kind.dictionary.make [byValue])
  let result ← submit (collection.call "map" [each 1 fun f =>
    f.call "set" ["style", byValue.call "get" [f.call "get" [.str column]]]])
  if (a "return_fc").truthy then pure result
  else submit (result.call "style" []
    [("styleProperty", "style"), ("neighborhood", a "neighborhood")])

def styleCommand : Command where
  parameters := ["collection", "column", opt "labels", opt "color" "black", opt "pointSize" 3,
    opt "pointShape" "circle", opt "width" 2, opt "fillColor", opt "lineType" "solid",
    opt "neighborhood" 5, opt "return_fc" false]
  run := style

/-!
Grids of rectangles: strips of equal latitude or longitude, cells of both, and grids that cover a region.
-/

def sides : List Parameter :=
  [opt "west" (.int (-180)), opt "east" 180, opt "south" (.int (-85)), opt "north" 85]

def strips (low high step : Data) : Session Data := do
  let last ← high.sub step
  submit (Kind.list.fn "sequence" [low, last, step])

def upper (low step : Data) : Data := (Kind.number.make [low]).call "add" [step]

def cell (west south east north : Data) : Data :=
  (Kind.feature.make [Kind.geometry.fn "BBox" [west, south, east, north]]).call "set"
    [.record [("south", south), ("west", west), ("north", north), ("east", east)]]

def latitudeGridCommand : Command where
  parameters := [opt "step" 1.0] ++ sides
  run a := do
    let lows ← strips (a "south") (a "north") (a "step")
    submit (Kind.featureCollection.make [lows.call "map" [Value.each 1 fun low =>
      cell (a "west") low (a "east") (upper low (a "step"))]])

def longitudeGridCommand : Command where
  parameters := [opt "step" 1.0] ++ sides
  run a := do
    let lows ← strips (a "west") (a "east") (a "step")
    submit (Kind.featureCollection.make [lows.call "map" [Value.each 1 fun low =>
      cell low (a "south") (upper low (a "step")) (a "north")]])

def cells (height width west east south north : Data) : Session Data := do
  let longitudes ← strips west east width
  let latitudes ← strips south north height
  submit ((Kind.featureCollection.make [latitudes.call "map" [Value.each 1 fun lat =>
    Kind.featureCollection.make [longitudes.call "map" [Value.each 2 fun lon =>
      cell lon lat (upper lon width) (upper lat height)]]]]).call "flatten")

def cellsCommand : Command where
  parameters := [opt "lat_step" 1.0, opt "lon_step" 1.0] ++ sides
  run a := cells (a "lat_step") (a "lon_step") (a "west") (a "east") (a "south") (a "north")

def net (a : Arguments) : Session Data := do
  if (a "data").isStr then
    reject .library
      "geopandas is not installed. Please install it before proceeding. https://geopandas.org"
  let region ←
    if (a "data").isAnyKind [.featureCollection, .feature] then submit ((a "data").call "geometry")
    else if (a "data").isKind .geometry then pure (a "data")
    else
      reject .value
        "data must be a string, ee.FeatureCollection, ee.Feature, or ee.Geometry."
  let answer ← info (region.call "bounds" |>.call "coordinates")
  let corner (i j : Int) : Except Fault Data := do (← (← answer.nth 0).nth i).nth j
  let layout : Except Fault (Data × Data × Data × Data × Data × Data) := do
    let west ← corner 0 0
    let east ← corner 1 0
    let south ← corner 0 1
    let north ← corner 2 1
    let counted := !(a "rows").isNull && !(a "cols").isNull
    let height ← if counted then (← north.sub south).div (a "rows") else pure (a "v_interval")
    let width ← if counted then (← east.sub west).div (a "cols") else pure (a "h_interval")
    let east ← east.add (← (a "delta").mul width)
    let north ← north.add (← (a "delta").mul height)
    pure (height, width, west, east, south, north)
  let (height, width, west, east, south, north) ← layout
  let grid ← cells height width west east south north
  let grid ←
    if (a "intersect").truthy then submit (grid.call "filterBounds" [region]) else pure grid
  if (a "output").isNull then pure grid
  else
    Export.downloadTable grid (a "output")
    pure .null

def netCommand : Command where
  parameters := ["data", opt "h_interval" 1.0, opt "v_interval" 1.0, opt "rows", opt "cols",
    opt "delta" 1.0, opt "intersect" true, opt "output"]
  open_ := true
  run := net

def coveringGridCommand : Command where
  parameters := ["ee_object", "scale", opt "proj"]
  run a := do
    let object := a "ee_object"
    let geometry ←
      if object.isAnyKind [.featureCollection, .image] then submit (object.call "geometry")
      else if object.isKind .geometry then pure object
      else reject .value "ee_object must be an ee.FeatureCollection, ee.Image, or ee.Geometry"
    let proj ←
      if (a "proj").isNull then submit (geometry.call "projection") else pure (a "proj")
    submit (geometry.call "coveringGrid" [proj, a "scale"])

end RemoteSensing.Features

/-!
Wetlands and watersheds of the United States: the wetlands of a subbasin, their colours and short names, and
the subbasins and watersheds by number or region.
-/

namespace RemoteSensing.Features.Wetland

open Kind Session

def inSubbasin (subbasin : Data) (withoutRivers : Bool) (narrow : Data → Data) : Session Data := do
  let start ← Value.add "users/wqs/NWI-HU8/HU8_" subbasin
  let path ← start.add "_Wetlands"
  let found ← submit (narrow (featureCollection.make [path]))
  if withoutRivers then
    submit (found.call "filter"
      [filter.fn "notEquals" [] [("leftField", "WETLAND_TY"), ("rightValue", "Riverine")]])
  else pure found

def findCommand : Command where
  parameters := ["HUC08_Id", opt "exclude_riverine" true]
  run a := inSubbasin (a "HUC08_Id") (a "exclude_riverine").truthy id

def filterCommand : Command where
  parameters := ["HUC08_Id", "region", opt "exclude_riverine" true]
  run a := inSubbasin (a "HUC08_Id") (a "exclude_riverine").truthy fun fc =>
    fc.call "filterBounds" [a "region"]

def unitsInCommand (collection : String) : Command :=
  Imagery.described ["region"] fun a =>
    (featureCollection.make [.str collection]).call "filterBounds" [a "region"]

def unitCommand (collection property parameter : String) : Command :=
  Imagery.described [parameter] fun a =>
    (featureCollection.make [.str collection]).call "filter"
      [filter.fn "eq" [.str property, a parameter]]

def subbasins : String := "USGS/WBD/2017/HUC08"

def watersheds : String := "USGS/WBD/2017/HUC10"

def colours : List (String × Nat × Nat × Nat) :=
  [("Freshwater Emergent Wetland", 127, 195, 28), ("Freshwater Forested/Shrub Wetland", 0, 136, 55),
    ("Freshwater Pond", 104, 140, 192), ("Lake", 19, 0, 124), ("Riverine", 1, 144, 191)]

def coloured (wetlands : Data) (i : Nat) (type : String) (r g b : Nat) : Session Data := do
  let found := wetlands.call "filter" [filter.fn "eq" ["WETLAND_TY", .str type]]
  let found ← submit (if i = 0 then featureCollection.make [found] else found)
  submit (found.call "map" [Value.each 1 fun f =>
    f.call "set" ["R", .int r] |>.call "set" ["G", .int g] |>.call "set" ["B", .int b]])

def paintCommand : Command where
  parameters := ["fc"]
  run a := do
    let parts ← colours.zipIdx.mapM fun c => coloured (a "fc") c.2 c.1.1 c.1.2.1 c.1.2.2.1 c.1.2.2.2
    let merged := match parts with
      | first :: rest => rest.foldl (fun acc p => acc.call "merge" [p]) first
      | [] => .null
    let all ← submit (featureCollection.make [merged])
    let base ← submit (image.make.call "byte")
    let painted (property : String) : Data := base.call "paint" [all, .str property]
    submit ((painted "R").call "addBands" [(painted "G").call "addBands" [painted "B"]])

def shortNames : Fields :=
  [("Freshwater Emergent Wetland", "Emergent"), ("Freshwater Forested/Shrub Wetland", "Forested"),
    ("Estuarine and Marine Wetland", "Estuarine"), ("Freshwater Pond", "Pond"), ("Lake", "Lake"),
    ("Riverine", "Riverine"), ("Estuarine and Marine Deepwater", "Deepwater"), ("Other", "Other")]

def shortenCommand : Command where
  parameters := ["names"]
  run a := do
    let names ← submit (dictionary.make [.record shortNames])
    submit ((list.make [a "names"]).call "map" [Value.each 1 fun n => names.call "get" [n]])

end RemoteSensing.Features.Wetland
