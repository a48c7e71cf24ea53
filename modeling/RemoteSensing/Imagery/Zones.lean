import RemoteSensing.Export.Download
import RemoteSensing.Imagery.Measure
import RemoteSensing.Table.GeoJson

/-!
Statistics zone by zone.
-/

namespace RemoteSensing.Imagery

open Session Value

def zoneFormats : List String := ["csv", "geojson", "kml", "kmz", "shp"]

def orTell (ok : Bool) (complaint : String) : Session Bool := do
  unless ok do print complaint
  pure ok

def knownFormat (path : String) : Session Bool :=
  orTell (zoneFormats.contains (Path.extension (Path.base path)))
    ("The file type must be one of the following: " ++ Text.join ", " zoneFormats)

def asImage? (raster : Data) : Session (Option Data) := do
  let raster ← if raster.isKind .imageCollection then submit (raster.call "toBands") else pure raster
  let ok ← orTell (raster.isKind .image) "The input raster must be an ee.Image."
  pure (if ok then some raster else none)

def areFeatures (zones : Data) : Session Bool :=
  orTell (zones.isKind .featureCollection) "The input zone data must be an ee.FeatureCollection."

def bucketLimits : List String := ["hist_min", "hist_max", "hist_steps"]

def zoneReducers (more : Fields) (limits : List Data) : Except Fault Fields := do
  let r (name : String) : Data := Kind.reducer.fn name
  let given (key : String) : Data := (lookup key more).getD .null
  let narrowest ←
    if (lookup "min_bucket_width" more).isSome then (record more).item "min_bucket" else pure .null
  let plainMean := (r "mean").call "unweighted"
  let countAnd (other : Data) : Data := (r "count").call "combine" [other] [("sharedInputs", true)]
  pure [("COUNT", r "count"), ("MEAN", r "mean"), ("MEAN_UNWEIGHTED", plainMean), ("MAXIMUM", r "max"),
    ("MEDIAN", r "median"), ("MINIMUM", r "min"), ("MODE", r "mode"), ("STD", r "stdDev"),
    ("MIN_MAX", r "minMax"), ("SUM", r "sum"), ("VARIANCE", r "variance"),
    ("HIST", Kind.reducer.fn "histogram" [] [("maxBuckets", given "max_buckets"),
      ("minBucketWidth", narrowest), ("maxRaw", given "max_raw")]),
    ("FIXED_HIST", Kind.reducer.fn "fixedHistogram" limits),
    ("COMBINED_COUNT_MEAN", countAnd (r "mean")), ("COMBINED_COUNT_MEAN_UNWEIGHTED", countAnd plainMean)]

def zoneReducer? (statistic : Data) (more : Fields) : Session (Option Data) := do
  let standard : List Data := [1.0, 100.0, 10]
  let name? := match statistic with
    | .str s => some (Text.upper s)
    | _ => none
  let given := bucketLimits.filterMap fun k => lookup k more
  let _ ← zoneReducers more standard
  if name? == some "FIXED_HIST" && given.length < 3 then
    print ("To use fixedHistogram, please provide these three parameters: " ++
      "hist_min, hist_max, and hist_steps.")
    return none
  let limits := if name? == some "FIXED_HIST" then given else standard
  let reducers ← zoneReducers more limits
  let _ ← submit (.list (reducers.map (·.2)))
  match name? with
  | some name =>
    match lookup name reducers with
    | some r => pure (some r)
    | none =>
      print ("The statistics type must be one of the following: " ++
        Text.join ", " (reducers.map (·.1)))
      pure none
  | none =>
    if statistic.isKind .reducer then pure (some statistic)
    else reject .value "statistics_type must be either a string or ee.Reducer."

def coarseScale (image size : Data) : Session Data := do
  if size.isNull then submit (image.call "projection" |>.call "nominalScale" |>.call "multiply" [10])
  else pure size

def statisticOf (a : Arguments) : Data := (lookup "statistics_type" a.rest).getD (a "stat_type")

def resultPath (given : Data) (standard : String) : Except Fault String := do
  if given.isNull then pure (Path.join Path.here standard) else pure (Path.absolute (← given.pathOf))

/-- The statistics of the zones, computed and then returned or stored. -/
def delivered (a : Arguments) (message path : String) (compute : Session Data) : Session Data := do
  try
    if (a "verbose").truthy then print message
    let result ← compute
    if (a "return_fc").truthy then return result
    Export.downloadTable result (.str path)
    pure .null
  catch e => throw (e.restated .general)

def zoneStatistics (a : Arguments) : Session Data := do
  let some image ← asImage? (a "in_value_raster") | return .null
  let zones := a "in_zone_vector"
  unless ← areFeatures zones do return .null
  let path ← resultPath (a "out_file_path") "zonal_stats.csv"
  unless ← knownFormat path do return .null
  let more := erase "statistics_type" a.rest
  let some reducer ← zoneReducer? (statisticOf a) more | return .null
  let size ← coarseScale image (a "scale")
  delivered a "Computing statistics ..." path (submit (image.call "reduceRegions" [] [("collection", zones),
    ("reducer", reducer), ("scale", size), ("crs", a "crs"), ("tileScale", a "tile_scale")]))

def resultParameters : List Parameter :=
  [opt "return_fc" false, opt "verbose" true, opt "timeout" 300, opt "proxies"]

def zoneStatisticsCommand : Command where
  parameters := (["in_value_raster", "in_zone_vector", opt "out_file_path", opt "stat_type" "MEAN",
    opt "scale", opt "crs", opt "tile_scale" 1.0] : List Parameter) ++ resultParameters
  open_ := true
  run := zoneStatistics

def className (number : Data) : Data := (Kind.string.make ["Class_"]).call "cat" [(Kind.number.make [number]).call "format"]

def classAreas (names statistic places : Data) (zone : Data) : Session Data := do
  let groups ← submit (Kind.list.make [zone.call "get" ["groups"]])
  let entry (g : Data) (key : Data) : Data := (Kind.dictionary.make [g]).call "get" [key]
  let keys ← submit (groups.call "map" [each 2 fun g => className (entry g "group")])
  let format : Data := .str ("%." ++ places.display ++ "f")
  let values ← submit (groups.call "map" [each 2 fun g =>
    Kind.number.fn "parse" [(Kind.number.make [entry g "sum"]).call "format" [format]]])
  let total ← submit ((Kind.list.make [values]).call "reduce" [Kind.reducer.fn "sum"])
  let areas ← mapEach 2 names fun name => do
    let area ← submit (Kind.algorithms.fn "If"
      [keys.call "contains" [name], values.call "get" [keys.call "indexOf" [name]], 0])
    submit (Kind.algorithms.fn "If"
      [(Kind.string.make [statistic]).call "compareTo" [Kind.string.make ["SUM"]],
        (Kind.number.make [area]).call "divide" [Kind.number.make [total]], area])
  let attributes ← submit (Kind.dictionary.fn "fromLists" [names, areas])
  let attributes ← submit (attributes.call "set" ["Class_sum", total])
  submit (zone.call "set" [attributes] |>.call "set" ["groups", .null])

def withClassAreas (a : Arguments) (image zones band statistic size : Data) : Session Data := do
  let geometry ← submit (zones.call "geometry")
  let counts ← submit (image.call "reduceRegion" [Kind.reducer.fn "frequencyHistogram"]
    [("geometry", geometry), ("scale", size), ("crs", a "crs"), ("crsTransform", a "crs_transform"),
      ("bestEffort", a "best_effort"), ("maxPixels", a "max_pixels"), ("tileScale", a "tile_scale")])
  let classes ← submit ((Kind.dictionary.make [counts.call "get" [band]]).call "keys"
    |>.call "map" [each 1 fun v => Kind.number.fn "parse" [v]] |>.call "sort")
  let names ← submit (classes.call "map" [each 1 className])
  let areas ← submit ((Kind.image.fn "pixelArea").call "divide" [a "denominator"]
    |>.call "addBands" [image])
  let grouped ← submit (areas.call "reduceRegions" [] [("collection", zones),
    ("reducer", (Kind.reducer.fn "sum").call "group" [] [("groupField", 1), ("groupName", "group")]),
    ("scale", size)])
  mapEach 1 grouped (classAreas names statistic (a "decimal_places"))

def wholeBand? (image : Data) : Session (Option Data) := do
  let count ← info (image.call "bandNames" |>.call "size")
  unless ← orTell (count.same 1) "The input image can only have one band." do return none
  let band ← submit (image.call "bandNames" |>.call "get" [0])
  let type ← info (image.call "bandTypes" |>.call "get" [band])
  unless ← orTell ((← type.get "precision").isText "int") "The input image band must be integer type." do
    return none
  pure (some band)

def classAreasByZone (a : Arguments) : Session Data := do
  let some image ← asImage? (a "in_value_raster") | return .null
  let zones := a "in_zone_vector"
  let some band ← wholeBand? image | return .null
  unless ← areFeatures zones do return .null
  let path ← resultPath (a "out_file_path") "zonal_stats_by_group.csv"
  unless ← knownFormat path do return .null
  Export.ensureFolder (Path.folder path)
  let statistic := statisticOf a
  -- the name of a statistic, in capitals, is never an object of the server
  let name ← if statistic.kind?.isSome then pure "" else (statistic.strOf "upper" : Except Fault String)
  unless ← orTell (["SUM", "PERCENTAGE"].contains (Text.upper name))
      "The statistics type can only be one of SUM, PERCENTAGE" do return .null
  let size ← coarseScale image (a "scale")
  delivered a "Computing ... " path (withClassAreas a image zones band statistic size)

def classAreasByZoneCommand : Command where
  parameters := (["in_value_raster", "in_zone_vector", opt "out_file_path", opt "stat_type" "SUM",
    opt "decimal_places" 0, opt "denominator" 1.0, opt "scale", opt "crs", opt "crs_transform",
    opt "best_effort" true, opt "max_pixels" 1e7, opt "tile_scale" 1.0] : List Parameter) ++ resultParameters
  open_ := true
  run := classAreasByZone

def valueReducer (statistic : Data) : Session Data := do
  let _ ← submit (.list (valueReducers.map fun r => Kind.reducer.fn r.2))
  let refusal := "reducer must be one of: " ++ Text.join ", " (valueReducers.map (·.1))
  match statistic with
  | .str s =>
    match lookup (Text.upper s) valueReducers with
    | some r => pure (Kind.reducer.fn r)
    | none => reject .value refusal
  | v => if v.isKind .reducer then pure v else reject .value refusal

def byValue (a : Arguments) : Session Table := do
  let region ←
    if (a "region").isNull || (a "region").isKind .geometry then pure (a "region")
    else if (a "region").isKind .featureCollection then submit ((a "region").call "geometry")
    else reject .value "region must be an ee.Geometry or ee.FeatureCollection"
  let size ← if (a "scale").isNull then submit (scale (a "image")) else pure (a "scale")
  let reducer ← valueReducer (a "reducer")
  let values ← occurring (a "zones") region .null
  let values ← submit (values.call "map" [each 1 fun v => Kind.number.fn "parse" [v]])
  let results ← mapEach 1 values fun v => do
    let image ← submit ((a "image").call "updateMask" [(a "zones").call "eq" [Kind.number.make [v]]])
    let stat ← submit (image.call "reduceRegion" [] (insertAll a.rest
      [("reducer", reducer), ("scale", size), ("geometry", region), ("bestEffort", a "bestEffort")]))
    submit ((Kind.image.make).call "set" [.record [("zone", v)]]
      |>.call "set" [.record [("stat", stat.call "values" |>.call "get" [0])]])
  let results ← submit (Kind.imageCollection.make [results])
  let zones ← info (results.call "aggregate_array" ["zone"])
  let stats ← info (results.call "aggregate_array" ["stat"])
  let labels ← match a "labels" with
    | .list ls =>
      let n ← zones.len
      pure (if ls.length = n then [(str "label", a "labels")] else [])
    | _ => pure []
  Table.ofColumns ([(.str "zone", zones)] ++ labels ++ [(.str "stat", stats)])

def saveTable (path : Data) (index : Option String) (t : Table) : Session Unit := do
  match path with
  | .str p =>
    let folder := Path.folder (Path.absolute p)
    unless p.isEmpty || (← get).disk.hasFolder folder do
      throw (.unwritable ("Cannot save file into a non-existent directory: '" ++ folder ++ "'"))
    writeText p (Csv.write index t)
  | v => throw (.wrongValue ("Invalid file path or buffer object type: " ++ v.className))

def byValueCommand : Command where
  parameters := ["image", "zones", opt "out_csv", opt "labels", opt "region", opt "scale",
    opt "reducer" "MEAN", opt "bestEffort" true]
  open_ := true
  run a := do
    let t ← byValue a
    match a "out_csv" with
    | .null => pure t.toValue
    | path =>
      let _ ← Folder.checkFile path
      saveTable path none t
      pure path

def shares (areas : List Data) : Except Fault (List Float × List Float) := do
  let plain := areas.filterMap fun x => match x with
    | .int i => some i
    | .bool b => some (if b then 1 else 0)
    | _ => none
  let total := plain.foldr (· + ·) 0
  let whole ← match Table.contentOf areas with
    | .whole => (int (total.bmod (Nat.pow 2 64)) : Data).toReal
    | .unsigned => (int (total % Int.pow 2 64) : Data).toReal
    | .truth => (int total : Data).toReal
    | .fraction => do
      let xs ← areas.mapM toReal
      pure (Statistic.sum (xs.map fun x => if x.isNaN then 0.0 else x))
    | .any =>
      let whole ← Value.total areas
      let parts ← areas.mapM fun x => do (← x.div whole).toReal
      return (← areas.mapM toReal, parts)
  let xs ← areas.mapM toReal
  pure (xs, xs.map (· / whole))

def placesFor (decimals : Data) : Except Fault (String → Option Int) :=
  let small (n : Int) : Except Fault Int :=
    if n.natAbs < Nat.pow 2 31 then .ok n else .error (.overflow "Python int too large to convert to C int")
  match decimals with
  | .int n => do
    let n ← small n
    pure fun _ => some n
  | .record fs | .box fs => do
    let places ← fs.mapM fun f => match f.2 with
      | .int n => do pure (f.1, ← small n)
      | _ => throw (.wrongType "Values in decimals must be integers")
    pure fun name => lookup name places
  | _ => .error (.wrongType "decimals must be an integer, a dict-like or a Series")

def measuredValues (image groups region size : Data) : Session (List Data) := do
  let groups ← if groups.isNull then occurring image region size else pure groups
  let groups ← match groups with
    | .list _ => pure groups
    | v => info v
  match groups with
  | .list gs =>
    let keyed ← (gs.mapM fun g => do pure ((← g.toWhole), g) : Except Fault (List (Int × Data)))
    pure ((keyed.mergeSort fun x y => x.1 ≤ y.1).map (·.2))
  | v => throw (.noMember v.typeName "sort")

def areas (a : Arguments) : Session Table := do
  let image := a "img"
  let region ←
    if (a "region").isNull then
      submit (Kind.geometry.fn "BBox" [.real (-179.9), .real (-89.5), 179.9, 89.5])
    else pure (a "region")
  let groups ← measuredValues image (a "groups") region (a "scale")
  let measured ← groups.mapM fun g => do
    if (a "verbose").truthy then print ("Calculating area for group " ++ g.display ++ " ...")
    let number ← g.toReal
    let part ← submit (image.call "eq" [.real number])
    let result ← area part region (a "scale") (a "denominator")
    info (result.call "values" |>.call "get" [0])
  let (xs, ps) ← shares (Table.unify measured)
  let places ← (placesFor (a "decimal_places") : Except Fault (String → Option Int))
  let column (name : String) (ys : List Float) : Data × List Data :=
    (.str name, ys.map fun y => .real (((places name).map fun n => Statistic.scaledRound n y).getD y))
  let labels := match a "labels" with
    | .list ls => if ls.length = measured.length then [(str "labels", Table.unify ls)] else []
    | _ => []
  pure ⟨Table.unify groups, [column "area" xs, column "percentage" ps] ++ labels⟩

def areasCommand : Command where
  parameters := ["img", opt "groups", opt "region", opt "scale", opt "denominator" 1.0,
    opt "out_csv", opt "labels", opt "decimal_places" 4, opt "verbose" true]
  run a := do
    let t ← areas a
    match a "out_csv" with
    | .null => pure t.toValue
    | path =>
      saveTable path (some "group") t
      pure .null

/-!
Samples of an image: at points, inside a region, at random, and along a line that is cut into pieces.
-/

def pointReducers : List (String × String) := ("FIRST", "first") :: valueReducers

def atPoints (a : Arguments) : Session Data := do
  let given (key : String) (v : Data) : Data := (Value.lookup key a.rest).getD v
  let _ ← submit (.list (pointReducers.map fun r => Kind.reducer.fn r.2))
  let name := Text.upper (← (a "stats_type").strOf "upper")
  let some reducer := Value.lookup name pointReducers
    | reject .value ("The statistics_type must be one of the following " ++
        Text.join ", " (pointReducers.map (·.1)))
  let points ←
    if (a "in_fc").isKind .featureCollection then pure (a "in_fc")
    else
      print (Fault.noLibrary "shapefile").message
      pure .null
  unless (a "image").isKind .image do
    print "The image must be an instance of ee.Image."
    return .null
  let result ← submit ((a "image").call "reduceRegions" [] [("collection", points),
    ("reducer", Kind.reducer.fn reducer), ("scale", a "scale"), ("crs", a "crs"),
    ("crsTransform", given "crs_transform" (a "crsTransform")),
    ("tileScale", given "tile_scale" (a "tileScale"))])
  if (a "out_fc").isNull then pure result
  else
    Export.downloadTable result (a "out_fc")
    pure .null

def atPointsCommand : Command where
  parameters := ["in_fc", "image", opt "out_fc", opt "scale", opt "crs", opt "crsTransform",
    opt "tileScale" 1, opt "stats_type" "FIRST", opt "timeout" 300, opt "proxies"]
  open_ := true
  run := atPoints

def atPlace (object region size projection tileScale : Data) (evaluate : Bool) : Session Data := do
  let image ← if object.isKind .imageCollection then submit (object.call "toBands") else pure object
  unless image.isKind .image do reject .type "The image must be an instance of ee.Image."
  unless region.isKind .geometry do reject .type "Region must be an instance of ee.Geometry."
  let values ← submit (image.call "sample" [region, size, projection] [("tileScale", tileScale)]
    |>.call "first" |>.call "toDictionary")
  if !evaluate then return values
  let bands ← info (image.call "bandNames")
  let found ← info values
  let named : Except Fault Data := do
    let names ← bands.elements
    pure (.record (← Value.pairUp names (← names.mapM found.subscript)))
  named

def atPlaceCommand : Command where
  parameters := ["ee_object", "region", opt "scale", opt "projection", opt "tileScale" 1,
    opt "getInfo" false]
  run a := atPlace (a "ee_object") (a "region") (a "scale") (a "projection") (a "tileScale")
    (a "getInfo").truthy

def sampleOrTable (features asTable : Data) : Session Data := do
  if asTable.truthy then pure (← Table.ofCollection features).toValue else pure features

def randomSettings : List Parameter :=
  [opt "region", opt "scale", opt "projection", opt "factor", opt "numPixels", opt "seed" 0,
    opt "dropNulls" true, opt "tileScale" 1.0, opt "geometries" true]

def randomCommand : Command where
  parameters := (["image"] : List Parameter) ++ randomSettings ++ [opt "to_pandas" false]
  run a := do
    unless (a "image").isKind .image do reject .type "The image must be ee.Image"
    let points ← submit ((a "image").call "sample" []
      (randomSettings.map fun p => (p.name, a p.name)))
    sampleOrTable points (a "to_pandas")

def simpleReducer (name : Data) : Session Data := do
  match name with
  | .str s => submit (← reducerNamed s)
  | v => throw (.wrongType ("can only concatenate str (not \"" ++ v.typeName ++ "\") to str"))

def alongLine (a : Arguments) : Session Data := do
  let line := a "line"
  unless (← info (line.call "type")).isText "LineString" do
    reject .type "The geometry type must be LineString."
  let reducer ← simpleReducer (a "reducer")
  let error ← submit ((a "image").call "projection" |>.call "nominalScale" |>.call "divide" [5])
  let length ← submit (line.call "length" [error])
  let distance ←
    if (a "dist_interval").isNull then submit (length.call "divide" [a "n_segments"])
    else pure (a "dist_interval")
  let distances ← submit (Kind.list.fn "sequence" [0, length, distance])
  let pieces ← submit (line.call "cutLines" [distances, error] |>.call "geometries")
  let pieces ← submit (pieces.call "zip" [distances])
  let pieces ← mapEach 1 pieces fun p => do
    let pair ← submit (Kind.list.make [p])
    let shape ← submit (Kind.geometry.make [pair.call "get" [0]])
    let distance ← submit (Kind.number.make [pair.call "get" [1]])
    let shape ← submit (Kind.geometry.fn "LineString" [shape.call "coordinates"])
    submit (Kind.feature.make [shape, .record [("distance", distance)]])
  let pieces ← submit (Kind.featureCollection.make [pieces])
  let result ← submit ((a "image").call "reduceRegions" []
    [("collection", Kind.featureCollection.make [pieces]), ("reducer", reducer), ("scale", a "scale"),
      ("crs", a "crs"), ("crsTransform", a "crsTransform"), ("tileScale", a "tileScale")])
  sampleOrTable result (a "to_pandas")

def alongLineCommand : Command where
  parameters := ["image", "line", opt "reducer" "mean", opt "n_segments" 100, opt "dist_interval",
    opt "scale", opt "crs", opt "crsTransform", opt "tileScale" 1.0, opt "to_pandas" false]
  open_ := true
  run a := do
    try alongLine a
    catch e => throw (e.restated .general)

end RemoteSensing.Imagery
