import RemoteSensing.Timelapse.Composite

/-!
Landsat series.
-/

namespace RemoteSensing.Timelapse

open Kind Session Value

def startsWithDay (s : String) : Bool :=
  match s.toList with
  | a :: b :: c :: d :: e :: _ => a.isDigit && b.isDigit && c == '-' && d.isDigit && e.isDigit
  | _ => false

def dayIn (year : Int) (s : String) : Except Fault Date := do
  let month := ((Text.readInt? 10 (Text.sliceTo s 2)).getD 0).toNat
  let day := ((Text.readInt? 10 (Text.slice s 3 5)).getD 0).toNat
  let d : Date := ⟨year, month, day⟩
  if month < 1 || 12 < month then throw (.wrongValue "month must be in 1..12")
  if !d.isValid then throw (.wrongValue "day is out of range for month")
  pure d

def exactDayIn (year : Int) (s : String) : Except Fault Date := do
  let d ← dayIn year s
  if 5 < s.length then throw (.wrongValue ("unconverted data remains: " ++ Text.sliceFrom s 5))
  pure d

structure Season where
  month : Nat
  day : Nat
  length : Nat

def dayText (v : Data) : Except Fault String :=
  match v with
  | .str s => .ok s
  | v => .error (.wrongType ("expected string or bytes-like object, got '" ++ v.typeName ++ "'"))

def seasonOf (firstYear lastYear : Int) (first last : Data) : Session (Option Season) := do
  let start ← dayText first
  let isDay ← if startsWithDay start then do pure (startsWithDay (← dayText last))
    else pure false
  if !isDay then
    print "The start date and end date must be month-day, such as 06-10, 09-20"
    return none
  let stop ← dayText last
  let checked : Except Fault Unit := do
    let _ ← dayIn firstYear start
    let _ ← dayIn lastYear stop
  match checked with
  | .ok _ => pure ()
  | .error e =>
    print "The input dates are invalid."
    throw (e.restated .general)
  let a ← exactDayIn firstYear start
  let b ← exactDayIn firstYear stop
  pure (some ⟨a.month, a.day, (b.toDays - a.toDays).natAbs⟩)

def commonBands : List String := ["Blue", "Green", "Red", "NIR", "SWIR1", "SWIR2"]

def optical (image : Data) : Data :=
  image.call "select" ["SR_B."] |>.call "multiply" [2.75e-05] |>.call "add" [.real (-0.2)]

def unclouded (image : Data) : Data :=
  let clear := image.call "select" ["QA_PIXEL"] |>.call "bitwiseAnd" [31] |>.call "eq" [0]
  image.call "addBands" [optical image, .null, true] |>.call "updateMask" [clear]

def harmonised (mask : Bool) (bands : List String) (image : Data) : Data :=
  let scaled := if mask then unclouded image else optical image
  let renamed := scaled.call "select" [strs bands, strs commonBands]
  Kind.image.make [renamed.call "copyProperties" [image, image.call "propertyNames"]]
    |>.call "resample" ["bicubic"]

def satellites : List (String × List String) :=
  let newer := ["SR_B2", "SR_B3", "SR_B4", "SR_B5", "SR_B6", "SR_B7"]
  let older := ["SR_B1", "SR_B2", "SR_B3", "SR_B4", "SR_B5", "SR_B7"]
  [("LANDSAT/LC09/C02/T1_L2", newer), ("LANDSAT/LC08/C02/T1_L2", newer), ("LANDSAT/LE07/C02/T1_L2", older),
    ("LANDSAT/LT05/C02/T1_L2", older), ("LANDSAT/LT04/C02/T1_L2", older)]

def mergedImages (mask : Bool) (region start stop : Data) : Data :=
  let images (s : String × List String) : Data :=
    imageCollection.make [.str s.1] |>.call "filterBounds" [region] |>.call "filterDate" [start, stop]
      |>.call "map" [each 2 (harmonised mask s.2)]
  match satellites.map images with
  | [] => .null
  | first :: rest => rest.foldl (fun all more => all.call "merge" [more]) first

def emptyImage : Data :=
  let bands : Data := list.make [strs (commonBands ++ ["pixel_qa"])]
  Kind.image.fn "constant" [list.fn "repeat" [0, bands.call "size"]]
    |>.call "rename" [bands] |>.call "selfMask" |>.call "int16"

def medianImage (mask : Bool) (region format start stop : Data) (more : Fields) : Data :=
  let median := (mergedImages mask region start stop).call "median"
  let count := median.call "bandNames" |>.call "size"
  Kind.image.make [algorithms.fn "If" [count, median, emptyImage]] |>.call "set" [.record (more ++
    [("system:time_start", start.call "millis"), ("nBands", count),
      ("system:date", Kind.date.make [start] |>.call "format" [format])])]

def seasonImage (mask : Bool) (region format : Data) (s : Season) (year : Data) : Data :=
  let number (v : Data) : Data := Kind.number.make [v]
  let start := Kind.date.fn "fromYMD" [number year, number (.int s.month), number (.int s.day)]
  let stop := start.call "advance" [number (.int s.length), "day"]
  medianImage mask region format start stop [("year", year)]

def monthsImage (mask : Bool) (region format months date : Data) : Data :=
  let start := Kind.date.make [date]
  medianImage mask region format start (start.call "advance" [months, "month"]) []

def seriesFormats : List (String × String) := [("year", "YYYY"), ("month", "YYYY-MM"), ("quarter", "YYYY-MM")]

def yearWithin? (v : Data) (ok : Int → Bool) : Option Int :=
  match v with
  | .int i => if ok i then some i else none
  | _ => none

def seriesFormat (frequency format : Data) : Session Data := do
  let format ← if format.isNull then (formatFor seriesFormats frequency : Except Fault Data) else pure format
  frequency.checkKey
  unless seriesFormats.any fun f => frequency.isText f.1 do
    reject .value "frequency must be year, quarter, or month."
  pure format

def seriesImages (a : Arguments) (region format : Data) (s : Season) : Session Data := do
  let mask := (a "apply_fmask").truthy
  let first := (a "start_year").display
  let last ← yearOr (a "end_year")
  let dates (unit : Data) : Session Data :=
    Period.sequence (.str (first ++ "-01-01")) (.str (last.display ++ "-12-31")) unit format (a "step")
  let _ ← submit emptyImage
  if (a "frequency").isText "year" then
    let years ← submit (list.fn "sequence" [a "start_year", last, a "step"])
    submit (years.call "map" [each 1 (seasonImage mask region format s)])
  else if (a "frequency").isText "quarter" then
    submit ((← dates "quarter").call "map" [each 1 (monthsImage mask region format 3)])
  else
    submit ((← dates "month").call "map" [each 1 (monthsImage mask region format 1)])

def landsatSeries (a : Arguments) : Session Data := do
  let region ← if (a "roi").isNull then submit defaultRegion else pure (a "roi")
  let now ← thisYear
  let last ← yearOr (a "end_year")
  let some region ← geometryOf region | return .null
  let format ← seriesFormat (a "frequency") (a "date_format")
  let some firstYear := yearWithin? (a "start_year") fun y => 1984 ≤ y && y < now |
    print "The start year must be an integer >= 1984."
    return .null
  let some lastYear := yearWithin? last fun y => 1984 < y && y ≤ now |
    print ("The end year must be an integer <= " ++ toString now ++ ".")
    return .null
  let some season ← seasonOf firstYear lastYear (a "start_date") (a "end_date") | return .null
  let images ← seriesImages a region format season
  let series ← submit (imageCollection.fn "fromImages" [images])
  submit (series.call "map" [each 1 fun image =>
    image.call "clip" [region] |>.call "set" [.record [("coordinates", region.call "coordinates")]]])

def landsatSeriesCommand : Command where
  parameters := [opt "roi", opt "start_year" 1984, opt "end_year", opt "start_date" "06-10",
    opt "end_date" "09-20", opt "apply_fmask" true, opt "frequency" "year", opt "date_format", opt "step" 1]
  run a := landsatSeries a

/-!
A yearly timelapse: one cloud-free picture a year. It is prepared on the server and announced; making the film is left
to the caller.
-/

def span (first last : Data) : Except Fault (Int × Nat) := do
  let stop ← last.add 1
  let first ← first.index
  let stop ← stop.index
  pure (first, (stop - first).toNat)

def scaled (images : Data) : Data :=
  images.call "map" [Value.each 1 fun image =>
    image.call "addBands"
      [((image.call "select" ["SR_B."]).call "multiply" [2.75e-05]).call "add" [.real (-0.2)], .null, true]]

def picturesFrom (images region : Data) (year : Int) : Nat → Session (List Data)
  | 0 => pure []
  | n + 1 => do
    let picture ← submit
      (images.call "filterDate" [.str (toString year ++ "-01-01"), .str (toString year ++ "-12-31")]
        |>.call "median" |>.call "clip" [region] |>.call "set" ["year", .int year])
    let later ← picturesFrom images region (year + 1) n
    pure (picture :: later)

def prepare (region first last bands look : Data) : Session Nat := do
  let images ← submit (Kind.imageCollection.make ["LANDSAT/LC08/C02/T1_L2"]
    |>.call "filterBounds" [region]
    |>.call "filterDate" [.str (first.display ++ "-01-01"), .str (last.display ++ "-12-31")]
    |>.call "filter" [Kind.filter.fn "lt" ["CLOUD_COVER", 20]]
    |>.call "select" [bands])
  let images ← submit (scaled images)
  let (start, count) ← span first last
  let pictures ← picturesFrom images region start count
  let _ ← submit (Kind.imageCollection.fn "fromImages" [.list pictures])
  let _ ← look.item "min"
  let _ ← look.item "max"
  let _ ← look.get "gamma"
  pure count

def announce (region first last bands look : Data) : Session Data := do
  let look := if look.isNull then .record [("min", 0), ("max", 3000), ("gamma", 1.4)] else look
  let years := first.display ++ "-" ++ last.display
  orTell "Error creating timelapse: " "" do
    let count ← prepare region first last bands look
    print ("Timelapse created for " ++ toString count ++ " years (" ++ years ++ ")")
    print "To generate actual GIF, use Earth Engine's getVideoThumbURL() method"
    print "or export the collection using ee.batch.Export.video.toDrive()"
    pure (.str ("Timelapse prepared for years " ++ years))

def announceCommand : Command where
  parameters := ["roi", "start_year", "end_year", opt "bands" (Value.strs ["B4", "B3", "B2"]), opt "vis_params"]
  run a := announce (a "roi") (a "start_year") (a "end_year") (a "bands") (a "vis_params")

/-!
Radar images.
-/

def radarDefaultsCommand : Command where
  parameters := []
  run _ := do
    let region ← submit defaultRegion
    pure (.tuple [.int (← thisYear), region])

def modeFor (band : Data) : Except Fault Data := do
  band.checkKey
  match band with
  | .str "VV" | .str "VH" => pure "IW"
  | .str "HH" | .str "HV" => pure "EW"
  | .str b => throw (.missingKey b)
  | v => throw (.missingName v.literal)

structure RadarChoice where
  band : Data := "VV"
  mode : Data := .null
  pass : Data := .null
  polarisation : Data := .null
  withoutEdges : Data := true
  properties : Fields := []

def withoutEdges (band image : Data) : Data :=
  let edge := image.call "select" [band] |>.call "lt" [.real (-30.0)]
  image.call "updateMask" [image.call "mask" |>.call "And" [edge.call "Not"]]

def radarImages (collection : Data) (c : RadarChoice) : Session Data := do
  let polarisation := if c.polarisation.truthy then c.polarisation else c.band
  let mode ← if c.mode.truthy then pure c.mode else (modeFor c.band : Except Fault Data)
  let having (images : Data) (property : String) (v : Data) : Data :=
    images.call "filter" [Kind.filter.fn "eq" [.str property, v]]
  let images ← submit ((having collection "instrumentMode" mode).call "filter"
    [Kind.filter.fn "listContains" ["transmitterReceiverPolarisation", polarisation]])
  let images := if c.withoutEdges.truthy then
      images.call "map" [Value.each 1 (withoutEdges c.band)]
    else images
  let images := c.properties.foldl (fun images p => having images p.1 p.2) images
  submit (if c.pass.truthy then having images "orbitProperties_pass" c.pass else images)

def radarParameters : List Parameter :=
  [opt "band" "VV", opt "instrumentMode", opt "orbitProperties_pass", opt "transmitterReceiverPolarisation",
    opt "remove_outliers" true]

def radarChoice (a : Arguments) : RadarChoice :=
  { band := a "band", mode := a "instrumentMode", pass := a "orbitProperties_pass",
    polarisation := a "transmitterReceiverPolarisation", withoutEdges := a "remove_outliers",
    properties := a.rest }

def radarImagesCommand : Command where
  parameters := (["collection"] : List Parameter) ++ radarParameters
  open_ := true
  run a := radarImages (a "collection") (radarChoice a)

def radarMean (images count unit date : Data) : Data :=
  let stop := Kind.date.make [date] |>.call "advance" [count, unit] |>.call "advance" [.int (-1), "day"]
  images.call "filterDate" [date, stop] |>.call "mean" |>.call "set" [.record
    [("system:time_start", Kind.date.make [date] |>.call "millis"),
      ("system:time_end", Kind.date.make [stop] |>.call "millis"),
      ("system:date", date)]]

def radarSeries (a : Arguments) : Session Data := do
  let fallback ← submit defaultRegion
  let region := if (a "roi").truthy then a "roi" else fallback
  let lastYear ← if (a "end_year").truthy then pure (a "end_year") else do pure (.int (← thisYear))
  let region ← wrappedRegion region
  let frequency := a "frequency"
  let dates ← Period.sequence (.str ((a "start_year").display ++ "-" ++ (a "start_date").display))
    (.str (lastYear.display ++ "-" ++ (a "end_date").display)) frequency "YYYY-MM-dd" 1
  let images ← submit (Kind.imageCollection.make ["COPERNICUS/S1_GRD"] |>.call "filterBounds" [region])
  let images ← radarImagesCommand.call [images] (("band", a "band") :: a.rest)
  let images ← submit (images.call "select" [a "band"])
  let isQuarter := frequency.isText "quarter"
  let count : Data := if isQuarter then 3 else 1
  let unit : Data := if isQuarter then "month" else frequency
  let series := Kind.imageCollection.fn "fromImages"
    [dates.call "map" [Value.each 1 (radarMean images count unit)]]
  submit (if (a "clip").truthy then
      series.call "map" [Value.each 1 fun image => image.call "clip" [region]]
    else series)

def radarSeriesCommand : Command where
  parameters := [opt "roi", opt "start_year" 2015, opt "end_year", opt "start_date" "01-01",
    opt "end_date" "12-31", opt "frequency" "year", opt "clip" false, opt "band" "VV"]
  open_ := true
  run a := radarSeries a

/-!
Land cover through time.
-/

def classColours : Fields :=
  [("min", 0), ("max", 8),
    ("palette", Value.strs ["#419BDF", "#397D49", "#88B053", "#7A87C6", "#E49635", "#DFC35A", "#C4281B", "#A59B8F",
      "#B39FE1"])]

def probabilityBands : List String :=
  ["water", "trees", "grass", "flooded_vegetation", "crops", "shrub_and_scrub", "built", "bare", "snow_and_ice"]

def coverForms : List String := ["hillshade", "visualize", "class", "probability"]

def checkCover (form region clouds : Data) : Session Unit := do
  unless coverForms.any form.isText do
    reject .value (form.display ++ " must be one of 'hillshade', 'visualize', 'class', or 'probability'.")
  unless region.isAnyKind [.featureCollection, .feature, .geometry] do
    reject .value (region.display ++ " must be one of ee.FeatureCollection, ee.Feature, or ee.Geometry.")
  let outside ← if ← clouds.lt 0 then pure true else (clouds.gt 100 : Except Fault Bool)
  if outside then
    reject .value (clouds.display ++ " must be between 0 and 100.")

def coverImages (first last region clouds : Data) : Data :=
  let clear := imageCollection.make ["COPERNICUS/S2_HARMONIZED"] |>.call "filterDate" [first, last]
    |>.call "filterBounds" [region]
    |>.call "filter" [filter.fn "lte" ["CLOUDY_PIXEL_PERCENTAGE", clouds]]
  imageCollection.make ["GOOGLE/DYNAMICWORLD/V1"] |>.call "filter"
    [filter.fn "inList" ["system:index", clear.call "aggregate_array" ["system:index"]]]

def greatest (images : Data) : Data :=
  imageCollection.make [images.call "map" [Value.each 1 fun image =>
    image.call "reduce" [Kind.reducer.fn "max"]
      |>.call "set" ["system:time_start", image.call "get" ["system:time_start"]]]]

def numbered (images number : Data) : Data :=
  Kind.image.make [images.call "toList" [images.call "size"] |>.call "get" [number]]

def shaded (classes confidence number : Data) : Data :=
  let image := numbered classes number
  let plane := projection.make ["EPSG:3857"] |>.call "atScale" [10]
  let height := (numbered confidence number).call "setDefaultProjection" [plane] |>.call "multiply" [100]
    |>.call "int"
  let shade := terrain.fn "hillshade" [height] |>.call "divide" [255]
  image.call "visualize" [] classColours |>.call "divide" [255] |>.call "multiply" [shade]
    |>.call "set" ["system:time_start", image.call "get" ["system:time_start"]]

def coverSeries (a : Arguments) : Session Data := do
  let form := a "return_type"
  checkCover form (a "region") (a "cloud_pct")
  let images ← submit (coverImages (a "start_date") (a "end_date") (a "region") (a "cloud_pct"))
  let plan : Plan :=
    { first := a "start_date", last := a "end_date", region := a "region", frequency := a "frequency",
      reducer := a "reducer", dropEmpty := a "drop_empty", dateFormat := a "date_format",
      parallel := a "parallel_scale" }
  let classes ← composites (← submit (images.call "select" ["label"])) plan
  if form.isText "class" then return classes
  if form.isText "visualize" then
    return ← submit (classes.call "map" [Value.each 1 fun i => i.call "visualize" [] classColours])
  let likely ← composites (← submit (images.call "select" [Value.strs probabilityBands]))
    { plan with reducer := "mean" }
  let confidence ← submit (greatest likely)
  if form.isText "probability" then return confidence
  let numbers := list.fn "sequence" [0, confidence.call "size" |>.call "subtract" [1]]
  submit (imageCollection.make
    [numbers.call "map" [Value.each 1 (shaded classes confidence)]])

def coverSeriesCommand : Command where
  parameters := ["region", opt "start_date" "2016-01-01", opt "end_date" "2021-12-31",
    opt "cloud_pct" 30, opt "frequency" "year",
      opt "reducer" "mode", opt "drop_empty" true, opt "date_format", opt "return_type" "hillshade",
      opt "parallel_scale" 1]
  run a := coverSeries a

end RemoteSensing.Timelapse
