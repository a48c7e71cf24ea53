import RemoteSensing.Timelapse.Composite

/-!
Series of optical images: aerial photographs, high-resolution satellite images, vegetation indices and the colour of
the sea.
-/

namespace RemoteSensing.Timelapse

open Kind Session Value

def photographs (region colours year : Data) : Session Data := do
  let images := imageCollection.make ["USDA/NAIP/DOQQ"]
  let images := if region.isNull then images else images.call "filterBounds" [region]
  let start := Kind.date.fn "fromYMD" [year, 1, 1]
  let stop := Kind.date.fn "fromYMD" [year, 12, 31]
  let images := images.call "filterDate" [start, stop]
  let images := if colours.truthy then
      images.call "filter" [filter.fn "listContains" ["system:band_names", "N"]]
    else images
  let images ← submit images
  let mosaic := (imageCollection.make [images]).call "mosaic"
  let image ←
    if region.isNull then pure mosaic
    else if region.isKind .geometry then pure (mosaic.call "clip" [region])
    else if region.isKind .featureCollection then pure (mosaic.call "clipToCollection" [region])
    else throw (.unassigned "image")
  submit (Kind.image.make [image] |>.call "set" [.record
    [("system:time_start", Kind.date.make [start] |>.call "millis"),
      ("system:time_end", Kind.date.make [stop] |>.call "millis"),
      ("empty", images.call "size" |>.call "eq" [0])]])

def photographSeries (region first last colours step : Data) : Session Data := do
  let last ← yearOr last
  let years ← submit (list.fn "sequence" [first, last, step])
  let mosaics ← mapEach 1 years (photographs region colours)
  submit (imageCollection.make [mosaics] |>.call "filterMetadata" ["empty", "equals", 0])

def photographSeriesCommand : Command where
  parameters := [opt "roi", opt "start_year" 2003, opt "end_year", opt "RGBN" false, opt "step" 1]
  run a := do
    try photographSeries (a "roi") (a "start_year") (a "end_year") (a "RGBN") (a "step")
    catch e => throw (e.restated .general)

def reflectance (source image : Data) : Data :=
  image.call "divide" [10000] |>.call "set" [source.call "toDictionary" [source.call "propertyNames"]]

def cloudless (image : Data) : Data :=
  let quality := image.call "select" ["QA60"]
  let clear (bit : Data) : Data := quality.call "bitwiseAnd" [bit] |>.call "eq" [0]
  reflectance image (image.call "updateMask" [(clear 1024).call "And" [clear 2048]])

def bandNames : List (String × String) :=
  [("Blue", "B2"), ("Green", "B3"), ("Red", "B4"), ("Red Edge 1", "B5"), ("Red Edge 2", "B6"),
    ("Red Edge 3", "B7"), ("NIR", "B8"), ("Red Edge 4", "B8A"), ("SWIR1", "B11"), ("SWIR2", "B12"),
    ("QA60", "QA60")]

def bandNamed? (band : Data) : Except Fault (Option String) := do
  band.checkKey
  match band with
  | .str s => pure (lookup s bandNames)
  | _ => pure none

def plainBands (bands : Data) : Except Fault Data := do
  let found ← (← bands.elements).mapM fun b => do
    match ← bandNamed? b with
    | none => pure b
    | some s =>
      if bands.isList then pure (str s)
      else throw (.wrongType ("'" ++ bands.typeName ++ "' object does not support item assignment"))
  pure (if bands.isList then .list found else bands)

def highResolution (a : Arguments) : Session Data := do
  let lastYear ← yearOr (a "end_year")
  let first : Data := .str ((a "start_year").display ++ "-" ++ (a "start_date").display)
  let last : Data := .str (lastYear.display ++ "-" ++ (a "end_date").display)
  let dayOf (date : Data) : Data :=
    number.fn "parse" [Kind.date.make [date] |>.call "format" ["D"]]
  let images := imageCollection.make ["COPERNICUS/S2_HARMONIZED"]
    |>.call "filterDate" [first, last]
    |>.call "filter" [filter.fn "calendarRange" [dayOf first, dayOf last, "day_of_year"]]
    |>.call "filter" [filter.fn "lt" ["CLOUDY_PIXEL_PERCENTAGE", a "cloud_pct"]]
    |>.call "filterBounds" [a "roi"]
  let images ← submit (images.call "map" [each 1 fun image =>
    if (a "mask_cloud").truthy then cloudless image else reflectance image image])
  let (images, bands) ←
    if (a "bands").isNull then pure (images, null)
    else do
      let bands ← plainBands (a "bands")
      pure (← submit (images.call "select" [bands]), bands)
  composites images
    { first, last, region := a "roi", bands, frequency := a "frequency", reducer := a "reducer",
      dropEmpty := a "drop_empty", dateFormat := a "date_format", parallel := a "parallel_scale",
      step := a "step" }

def highResolutionCommand : Command where
  parameters := ["roi", opt "start_year" 2015, opt "end_year", opt "start_date" "01-01", opt "end_date" "12-31", opt "bands",
      opt "mask_cloud" true, opt "cloud_pct" 30, opt "frequency" "year", opt "reducer" "median",
      opt "drop_empty" true, opt "date_format", opt "parallel_scale" 1, opt "step" 1]
  run a := highResolution a

def monthlyMeans (asset band region firstYear lastYear firstDay lastDay : Data) : Session Data := do
  let lastYear ← yearOr lastYear
  let images ← submit (imageCollection.make [asset])
  let band ←
    if band.isNull then do
      let names ← info (images.call "first" |>.call "bandNames")
      names.nth 0
    else pure band
  let images := images.call "select" [band]
  let images ← submit (
    if region.isKind .geometry then
      imageCollection.make [images.call "map" [each 1 fun i => i.call "clip" [region]]]
    else if region.isKind .featureCollection then
      imageCollection.make [images.call "map" [each 1 fun i => i.call "clipToCollection" [region]]]
    else images)
  let start ← (str (firstYear.display ++ "-")).add firstDay
  let stop ← (str (lastYear.display ++ "-")).add lastDay
  let months ← Period.sequence start stop "month" "YYYY-MM-dd" 1
  submit (imageCollection.make [months.call "map" [each 1 fun start =>
    Kind.image.make [images.call "filterDate" [start, Kind.date.make [start] |>.call "advance" [1, "month"]]
      |>.call "mean"]]])

def monthlyMeansCommand : Command where
  parameters := [opt "asset_id" "MODIS/006/MOD13A2", opt "band_name", opt "roi", opt "start_year" 2001,
    opt "end_year", opt "start_date" "01-01", opt "end_date" "12-31"]
  run a := do
    try
      monthlyMeans (a "asset_id") (a "band_name") (a "roi") (a "start_year") (a "end_year") (a "start_date")
        (a "end_date")
    catch e => throw (e.restated .general)

def checkRegion (region : Data) : Session Unit := do
  unless region.isNull || region.isAnyKind [.geometry, .featureCollection] do
    reject .general "region must be an ee.Geometry or ee.FeatureCollection."

def throughTheYear (satellite band first last region : Data) : Session Data := do
  unless satellite.isText "Terra" || satellite.isText "Aqua" do
    reject .general "data must be 'Terra' or 'Aqua'."
  unless band.isText "NDVI" || band.isText "EVI" do
    reject .general "band must be 'NDVI' or 'EVI'."
  checkRegion region
  let asset := if satellite.isText "Terra" then "MODIS/006/MOD13A2" else "MODIS/006/MYD13A2"
  let images := imageCollection.make [.str asset] |>.call "select" [band]
  let images := if first.isNull || last.isNull then images else images.call "filterDate" [first, last]
  let images := images.call "map" [each 1 fun image =>
    image.call "set" ["doy",
      Kind.date.make [image.call "get" ["system:time_start"]] |>.call "getRelative" ["day", "year"]]]
  let oneYear := images.call "filterDate" ["2013-01-01", "2014-01-01"]
  let sameDay := filter.fn "equals" [] [("leftField", "doy"), ("rightField", "doy")]
  let joined := imageCollection.make
    [join.fn "saveAll" ["doy_matches"] |>.call "apply" [oneYear, images, sameDay]]
  let medians := joined.call "map" [each 1 fun image =>
    imageCollection.fn "fromImages" [image.call "get" ["doy_matches"]]
      |>.call "reduce" [Kind.reducer.fn "median"]]
  submit (if region.isNull then medians
    else medians.call "map" [each 1 fun image => image.call "clip" [region]])

def throughTheYearCommand : Command where
  parameters := [opt "data" "Terra", opt "band" "NDVI", opt "start_date", opt "end_date", opt "region"]
  run a := throughTheYear (a "data") (a "band") (a "start_date") (a "end_date") (a "region")

def seaPeriods : List String := ["year", "quarter", "month", "week", "day"]

def seaColour (a : Arguments) : Session Data := do
  let satellite := a "satellite"
  unless satellite.isText "Terra" || satellite.isText "Aqua" do
    reject .general "Satellite must be 'Terra' or 'Aqua'."
  unless seaPeriods.any (a "frequency").isText do
    reject .general ("Frequency must be one of the following: " ++
      (strs seaPeriods : Data).literal)
  checkRegion (a "region")
  let images ← submit
    (imageCollection.make [.str ("NASA/OCEANDATA/MODIS-" ++ satellite.display ++ "/L3SMI")]
      |>.call "filterDate" [a "start_date", a "end_date"])
  composites images (plan a)

def seaColourCommand : Command where
  parameters := (["satellite", "start_date", "end_date"] : List Parameter) ++ planOptions
  run a := seaColour a

def differenceCommand : Command :=
  Imagery.described
    ["collection", opt "bands" (strs ["Green", "SWIR1"]), opt "threshold" 0] fun a =>
    (a "collection").call "map" [each 1 fun image =>
      image.call "normalizedDifference" [a "bands"] |>.call "gt" [a "threshold"]
        |>.call "copyProperties" [image, image.call "propertyNames"]]

/-!
Images of weather satellites.
-/

def satelliteNumber (data : Data) : Session String := do
  unless data.isText "GOES-16" || data.isText "GOES-17" do
    reject .value "The data must be either GOES-16 or GOES-17."
  pure (if data.isText "GOES-16" then "16" else "17")

def productOf (products : List (String × String)) (scan : Data) (message : String) : Session String := do
  let name ← scan.strOf "lower"
  match Value.lookup (Text.lower name) products with
  | some p => pure p
  | none => reject .value message

def weatherImages (number product : String) : Data :=
  Kind.imageCollection.make [.str ("NOAA/GOES/" ++ number ++ "/" ++ product)]

def pacificRegion : Data :=
  polygon [(-159.5954379282731, 60.40883060191719), (-159.5954379282731, 24.517881970830725),
    (-114.2438754282731, 24.517881970830725), (-114.2438754282731, 60.40883060191719)]

def timed (image of_ : Data) : Data :=
  image.call "set" ["system:time_start", of_.call "get" ["system:time_start"]]

def scaledChannels (image : Data) : Data :=
  let factors (name : Data) : Data :=
    Kind.image.fn "constant" [image.call "toDictionary" |>.call "select" [.list [name]] |>.call "values"]
  let scaled := image.call "select" ["CMI_C.."] |>.call "multiply" [factors "CMI_C.._scale"]
    |>.call "add" [factors "CMI_C.._offset"]
  image.call "addBands" [] [("srcImg", scaled), ("overwrite", true)]

def withGreen (image : Data) : Data :=
  let channel (name : Data) : Data := image.call "select" [name]
  image.call "addBands" [image.call "expression" ["CMI_GREEN = 0.45 * red + 0.10 * nir + 0.45 * blue",
    .record [("blue", channel "CMI_C01"), ("red", channel "CMI_C02"), ("nir", channel "CMI_C03")]]]

def withNight (image : Data) : Data :=
  let number (n : Data) : Data := Kind.number.make [n]
  let infrared := image.call "select" ["CMI_C13"] |>.call "unitScale" [number 90, number 313]
  let infrared := infrared.call "expression" ["ir_p = (1 -IR_n)/1.4",
    .record [("IR_n", infrared.call "select" ["CMI_C13"])]]
  let brighter (name : Data) : Data := image.call "select" [name] |>.call "max" [infrared]
  image.call "addBands" [.list [brighter "CMI_C02", brighter "CMI_GREEN", brighter "CMI_C01"]]
    [("overwrite", true)]

def dayAndNight (image : Data) : Data :=
  let stretched (name low high : Data) : Data := image.call "select" [name] |>.call "unitScale" [low, high]
  let night := stretched "CMI_C03" 0 0.016 |>.call "subtract" [1] |>.call "multiply" [.int (-1)]
  let c11 := stretched "CMI_C11" 100 310
  let c13 := stretched "CMI_C13" 100 300
  let c15 := stretched "CMI_C15" 100 310
  let infrared := c15.call "addBands" [.list [c13, c11]] |>.call "clamp" [0, 1] |>.call "subtract" [1]
    |>.call "multiply" [.int (-1)]
  let byNight := infrared.call "visualize" [] [("min", 0), ("max", 1), ("gamma", 1.4)]
    |>.call "updateMask" [night]
  let byDay := image.call "visualize" []
    [("bands", Value.strs ["CMI_C02", "CMI_C03", "CMI_C01"]), ("min", 0.15), ("max", 1), ("gamma", 1.4)]
  timed (byDay.call "blend" [byNight]) image

def stretched (image : Data) : Data :=
  timed (image.call "select" [Value.strs ["CMI_C01", "CMI_GREEN", "CMI_C02", "CMI_C03", "CMI_C05"]]
    |>.call "resample" ["bicubic"]
    |>.call "log10"
    |>.call "interpolate" [.list [.real (-1.6), 0.176], .list [0, 1], "clamp"]
    |>.call "unmask" [0]) image

def forViewing (night image : Data) : Session Data := do
  let scaled ← submit (scaledChannels image)
  if (← night.nth 0).truthy then
    if (← night.nth 1).isText "a_mode" then submit (stretched (withNight (withGreen scaled)))
    else submit (dayAndNight scaled)
  else submit (stretched (withGreen scaled))

def weatherSeries (first last data scan region night : Data) : Session Data := do
  let number ← satelliteNumber data
  let product ← productOf [("full_disk", "MCMIPF"), ("conus", "MCMIPC"), ("mesoscale", "MCMIPM")] scan
    "The scan must be either full_disk, conus, or mesoscale."
  let images ← submit (weatherImages number product)
  let region ← if region.isNull then submit pacificRegion else pure region
  let images ← submit (images.call "filterDate" [first, last] |>.call "filterBounds" [region])
  mapEach 1 images (forViewing night)

def noNight : Data := .list [false, "a_mode"]

def weatherSeriesCommand : Command where
  parameters := [opt "start_date" "2021-10-24T14:00:00", opt "end_date" "2021-10-25T01:00:00",
    opt "data" "GOES-17", opt "scan" "full_disk", opt "region", opt "show_night" noNight]
  run a := weatherSeries (a "start_date") (a "end_date") (a "data") (a "scan") (a "region") (a "show_night")

def fires (image : Data) : Data :=
  let codes : List Int := [10, 30, 11, 31, 12, 32, 13, 33, 14, 34, 15, 35]
  let confidence : List Float := [1.0, 1.0, 0.9, 0.9, 0.8, 0.8, 0.5, 0.5, 0.3, 0.3, 0.1, 0.1]
  timed (image.call "remap" [.list (codes.map .int), .list (confidence.map .real), 0, "Mask"]
    |>.call "gte" [0.3] |>.call "selfMask") image

def fireOverlay (image : Data) : Data :=
  let weather := Kind.image.make [image] |>.call "visualize" []
    [("bands", Value.strs ["CMI_C02", "CMI_GREEN", "CMI_C01"]), ("min", 0), ("max", 0.8), ("gamma", 0.8)]
  let fire := Kind.image.make [image.call "get" ["match"]] |>.call "visualize" []
    [("palette", Value.strs ["ff5349"]), ("min", 0), ("max", 1), ("opacity", 0.7)]
  timed (weather.call "blend" [fire]) image

def fireSeries (first last data scan region merge : Data) : Session Data := do
  let number ← satelliteNumber data
  let product ← productOf [("full_disk", "FDCF"), ("conus", "FDCC")] scan
    "The scan must be either full_disk or conus."
  let region ←
    if region.isNull then
      submit (Kind.geometry.fn "BBox" [.real (-123.17), 36.56, .real (-118.22), 40.03])
    else pure region
  let masks ← submit (weatherImages number product |>.call "filterDate" [first, last]
    |>.call "map" [Value.each 1 fires])
  if !merge.truthy then return masks
  let weather ← weatherSeries first last data scan region noNight
  let sameTime := Kind.filter.fn "equals" []
    [("leftField", "system:time_start"), ("rightField", "system:time_start")]
  let joined := Kind.join.fn "saveFirst" ["match"] |>.call "apply" [weather, masks, sameTime]
  submit (Kind.imageCollection.make [joined.call "map" [Value.each 1 fireOverlay]])

def fireSeriesCommand : Command where
  parameters := [opt "start_date" "2020-09-05T15:00", opt "end_date" "2020-09-06T02:00", opt "data" "GOES-17",
    opt "scan" "full_disk", opt "region", opt "merge" true]
  run a := fireSeries (a "start_date") (a "end_date") (a "data") (a "scan") (a "region") (a "merge")

end RemoteSensing.Timelapse
