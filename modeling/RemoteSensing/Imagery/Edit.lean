import RemoteSensing.Imagery.Measure

/-!
Editing images on the server: choosing and renaming bands, reclassifying, smoothing, scaling, counting.
-/

namespace RemoteSensing.Imagery

open Kind Session

def reclassifyCommand : Command :=
  described ["img", "in_list", "out_list"] fun a =>
    (a "img").call "remap" [a "in_list", a "out_list"]

def smoothCommand : Command :=
  described ["img", "reducer", "kernel"] fun a =>
    (a "img").call "reduceNeighborhood" [] [("reducer", a "reducer"), ("kernel", a "kernel")]

def renameBandsCommand : Command :=
  described ["img", "in_band_names", "out_band_names"] fun a =>
    (a "img").call "select" [a "in_band_names", a "out_band_names"]

def bandImagesCommand : Command :=
  described ["img"] fun a =>
    imageCollection.make
      [(a "img").call "bandNames" |>.call "map" [Value.each 1 fun b => (a "img").call "select" [.list [b]]]]

def byPathCommand : Command where
  parameters := ["landsat_col", "path_num", "row_num"]
  run a := do
    if (a "landsat_col").isStr then
      try
        submit ((imageCollection.make [a "landsat_col"]).call "filter"
            [filter.fn "eq" ["WRS_PATH", a "path_num"]]
          |>.call "filter" [filter.fn "eq" ["WRS_ROW", a "row_num"]])
      catch e =>
        print e.message
        pure .null
    else pure .null

def arraySum (v : Data) : Data := (array.make [v]).call "accum" [0] |>.call "get" [.list [.int (-1)]]

def arraySumCommand : Command := described ["arr"] fun a => arraySum (a "arr")

def arrayMeanCommand : Command where
  parameters := ["arr"]
  run a := do
    let total ← submit (arraySum (a "arr"))
    let size ← submit ((a "arr").call "length")
    submit (number.make [total.call "divide" [size]])

def roundCommand : Command where
  parameters := ["num", opt "decimal" 2]
  run a := submit (number.fn "parse"
    [(number.make [a "num"]).call "format" [.str ("%." ++ (a "decimal").display ++ "f")]])

def convolve (image kernel resample projection : Data) : Session Data := do
  let image ←
    if image.isKind .imageCollection then submit (image.call "mosaic")
    else if image.isKind .image then pure image
    else reject .value "image must be an ee.Image or ee.ImageCollection."
  let kernel ←
    if kernel.isNull then
      submit (Kind.kernel.fn "gaussian" []
        [("radius", 3), ("sigma", 2), ("units", "pixels"), ("normalize", true)])
    else if kernel.isKind .kernel then pure kernel
    else reject .value "kernel must be an ee.Kernel."
  unless resample.isNull || resample.isText "bilinear" || resample.isText "bicubic" do
    reject .value "resample must be one of 'bilinear' or 'bicubic'"
  let result ← submit (image.call "convolve" [kernel])
  let result ← if resample.isNull then pure result else submit (result.call "resample" [resample])
  submit (result.call "setDefaultProjection" [projection])

def convolveCommand : Command where
  parameters := ["image", opt "kernel", opt "resample", opt "projection" "EPSG:3857"]
  open_ := true
  run a := convolve (a "image") (a "kernel") (a "resample") (a "projection")

def rescale (image : Data) (thermal masked : Bool) : Session Data := do
  let optical ← submit (image.call "select" ["SR_B."] |>.call "multiply" [0.0000275]
    |>.call "add" [.real (-0.2)])
  let heat? ←
    if thermal then
      let heat ← submit (image.call "select" ["ST_B.*"] |>.call "multiply" [0.00341802]
        |>.call "add" [149])
      pure (some heat)
    else pure none
  let mask? ←
    if masked then
      let mask ← submit (image.call "select" ["QA_PIXEL"] |>.call "bitwiseAnd" [31] |>.call "eq" [0])
      pure (some mask)
    else pure none
  let image := match heat? with
    | some heat => image.call "addBands" [heat, .null, true]
    | none => image
  let image := image.call "addBands" [optical, .null, true]
  submit (match mask? with
    | some mask => image.call "updateMask" [mask]
    | none => image)

def rescaleCommand : Command where
  parameters := ["image", opt "thermal_bands" true, opt "apply_fmask" false]
  run a := rescale (a "image") (a "thermal_bands").truthy (a "apply_fmask").truthy

def count (collection region band start stop : Data) (clip : Bool) : Session Data := do
  unless collection.isKind .imageCollection do
    reject .type "collection must be an ee.ImageCollection."
  unless region.isNull || region.isAnyKind [.geometry, .featureCollection] do
    reject .type "region must be an ee.Geometry or ee.FeatureCollection."
  unless start.isNull == stop.isNull do
    reject .value "start_date and end_date must be provided."
  let band ←
    if band.isNull then
      submit (collection.call "first" |>.call "bandNames" |>.call "get" [0])
    else pure band
  let found ← if region.isNull then pure collection else submit (collection.call "filterBounds" [region])
  let found ← if start.isNull then pure found else submit (found.call "filterDate" [start, stop])
  let image ← submit (found.call "filter" [filter.fn "listContains" ["system:band_names", band]]
    |>.call "select" [.list [band]] |>.call "reduce" [reducer.fn "count"])
  if clip then submit (image.call "clip" [region]) else pure image

def countCommand : Command where
  parameters := ["collection", opt "region", opt "band", opt "start_date", opt "end_date", opt "clip" false]
  run a := count (a "collection") (a "region") (a "band") (a "start_date") (a "end_date") (a "clip").truthy

end RemoteSensing.Imagery

/-!
Land cover from satellite images: the most frequent class of each cell in a period, coloured, shaded by how
probable it is, or as the probability itself; and the images that the classes were made from.
-/

namespace RemoteSensing.LandCover

open Session

def classes : List String :=
  ["water", "trees", "grass", "flooded_vegetation", "crops", "shrub_and_scrub", "built", "bare",
    "snow_and_ice"]

def look : Fields :=
  [("min", 0), ("max", 8),
    ("palette", .strs ["#419BDF", "#397D49", "#88B053", "#7A87C6", "#E49635", "#DFC35A", "#C4281B", "#A59B8F",
      "#B39FE1"])]

def checkRegion (region : Data) : Session Unit :=
  unless region.isAnyKind [.featureCollection, .geometry] do
    reject .value "region must be an ee.FeatureCollection or ee.Geometry."

def clipped (clip : Bool) (image region : Data) : Session Data :=
  if !clip then pure image
  else if region.isKind .geometry then submit (image.call "clip" [region])
  else submit (image.call "clipToCollection" [region])

def forms : List String := ["hillshade", "visualize", "class", "probability"]

def composite (images region reducer projection size : Data) (clip : Bool) (form : String) :
    Session Data := do
  let classes_ ← submit (images.call "select" ["label"])
  let classes_ ← submit (classes_.call "reduce" [reducer])
  let classes_ ← clipped clip classes_ region
  if form == "class" then return classes_
  if form == "visualize" then return ← submit (classes_.call "visualize" [] look)
  let probable ← submit (images.call "select" [.strs classes])
  let probable ← submit (probable.call "reduce" [Kind.reducer.fn "mean"])
  let grid ← submit ((Kind.projection.make [projection]).call "atScale" [size])
  let probable ← submit (probable.call "setDefaultProjection" [grid])
  let best ← submit (probable.call "reduce" [Kind.reducer.fn "max"])
  let best ← clipped clip best region
  if form == "probability" then return best
  let confidence ← submit (best.call "multiply" [100] |>.call "int")
  let shade ← submit ((Kind.terrain.fn "hillshade" [confidence]).call "divide" [255])
  let colours ← submit (classes_.call "visualize" [] look |>.call "divide" [255])
  submit (colours.call "multiply" [shade])

def overYear : List Parameter :=
  [opt "region", opt "start_date" "2020-01-01", opt "end_date" "2021-01-01", opt "clip" false]

def compositeCommand : Command where
  parameters := overYear ++ [opt "reducer", opt "projection" "EPSG:3857", opt "scale" 10,
    opt "return_type" "hillshade"]
  run a := do
    let form := (a "return_type").display
    unless (a "return_type").isStr && forms.contains form do
      reject .value
        (form ++ " must be one of 'hillshade', 'visualize', 'class', or 'probability'.")
    let reducer ←
      if (a "reducer").isNull then submit (Kind.reducer.fn "mode") else pure (a "reducer")
    let images ← submit ((Kind.imageCollection.make ["GOOGLE/DYNAMICWORLD/V1"]).call "filter"
      [Kind.filter.fn "date" [a "start_date", a "end_date"]])
    checkRegion (a "region")
    let images ← submit (images.call "filterBounds" [a "region"])
    composite images (a "region") reducer (a "projection") (a "scale") (a "clip").truthy form

def satelliteCommand : Command where
  parameters := overYear ++ [opt "cloud_pct" 0.35, opt "reducer"]
  run a := do
    let images ← submit ((Kind.imageCollection.make ["COPERNICUS/S2_HARMONIZED"]).call "filterDate"
      [a "start_date", a "end_date"])
    let percent ← (a "cloud_pct").mul 100
    let images ← submit (images.call "filter"
      [Kind.filter.fn "lt" ["CLOUDY_PIXEL_PERCENTAGE", percent]])
    checkRegion (a "region")
    let images ← submit (images.call "filterBounds" [a "region"])
    let reducer ←
      if (a "reducer").isNull then submit (Kind.reducer.fn "median") else pure (a "reducer")
    let image ← submit ((images.call "reduce" [reducer]).call "rename"
      [images.call "first" |>.call "bandNames"])
    clipped (a "clip").truthy image (a "region")

end RemoteSensing.LandCover

/-!
Aerial photographs of one survey, by year and region.
-/

namespace RemoteSensing.Imagery.Aerial

open Kind Session

def photographs : Data := imageCollection.make ["USDA/NAIP/DOQQ"]

def nearInfrared : Data := filter.fn "listContains" ["system:band_names", "N"]

def yearEnds (year : Data) : Session (Data × Data) := do
  let first ← submit (date.fn "fromYMD" [year, 1, 1])
  let last ← submit (date.fn "fromYMD" [year, 12, 31])
  pure (first, last)

def yearCommand : Command where
  parameters := ["year", opt "RGBN" true]
  run a := do
    try
      let all ← submit photographs
      let year := (a "year").display
      let found ← submit (all.call "filterDate" [.str (year ++ "-01-01"), .str (year ++ "-12-31")])
      if (a "RGBN").truthy then submit (found.call "filter" [nearInfrared]) else pure found
    catch e =>
      print e.message
      pure .null

def infraredOfYear (year : Data) : Session Data := do
  let all ← submit photographs
  let (first, last) ← yearEnds year
  let found ← submit (all.call "filterDate" [first, last] |>.call "filter" [nearInfrared])
  submit (imageCollection.make [found])

def infraredOrNothing (year : Data) : Session Data := do
  try infraredOfYear year
  catch e =>
    print e.message
    pure .null

def yearsCommand : Command where
  parameters := [opt "start_year" 2009, opt "end_year" 2019]
  run a := do
    try
      let years ← submit (list.fn "sequence" [a "start_year", a "end_year"])
      mapEach 1 years infraredOrNothing
    catch e =>
      print e.message
      pure .null

def index (image : Data) (bands : List String) (name : String) : Data :=
  (Kind.image.make [image]).call "normalizedDifference" [.strs bands]
    |>.call "select" [.strs ["nd"], .strs [name]]

def water (image : Data) : Data := index image ["G", "N"] "ndwi"

def vegetation (image : Data) : Data := index image ["N", "R"] "ndvi"

def extremeInstant (images : Data) (property : String) (position : Int) : Data :=
  date.make [(list.make [images.call "aggregate_array" [.str property]]).call "sort"
    |>.call "get" [.int position]]

def ofYear (year region : Data) : Session Data := do
  let (first, last) ← yearEnds year
  let images ← submit (photographs.call "filterDate" [first, last]
    |>.call "filterBounds" [region])
  let start ← submit (extremeInstant images "system:time_start" 0)
  let stop ← submit (extremeInstant images "system:time_end" (-1))
  let image ← submit (Kind.image.make [images.call "mosaic" |>.call "clip" [region]])
  let ndwi ← submit (water image)
  let ndvi ← submit (vegetation image)
  let image ← submit (image.call "addBands" [ndwi])
  let image ← submit (image.call "addBands" [ndvi])
  submit (image.call "set" [.record [("system:time_start", start), ("system:time_end", stop)]])

def ofYearCommand : Command where
  parameters := ["year", "region"]
  run a := ofYear (a "year") (a "region")

def yearImage (images region : Data) (addVegetation addWater : Bool) (year : Data) : Session Data := do
  let (first, last) ← yearEnds year
  let images ← submit (images.call "filterDate" [first, last])
  let start ← submit ((extremeInstant images "system:time_start" 0).call "format" ["YYYY-MM-dd"])
  let stop ← submit ((extremeInstant images "system:time_end" (-1)).call "format" ["YYYY-MM-dd"])
  let size ← submit (images.call "size")
  let image ← submit (Kind.image.make [images.call "mosaic" |>.call "clip" [region]])
  let image ←
    if addVegetation then
      let ndvi ← submit (vegetation image)
      submit (image.call "addBands" [ndvi])
    else pure image
  let image ←
    if addWater then
      let ndwi ← submit (water image)
      submit (image.call "addBands" [ndwi])
    else pure image
  submit (image.call "set"
    [.record [("system:time_start", start), ("system:time_end", stop), ("tiles", size)]])

def covering (region : Data) (addVegetation addWater : Bool) : Session Data := do
  let images ← submit (photographs.call "filterBounds" [region]
    |>.call "filterDate" ["2009-01-01", "2019-12-31"] |>.call "filter" [nearInfrared])
  let instants ← submit (list.make [images.call "distinct" [.strs ["system:time_start"]]
    |>.call "aggregate_array" ["system:time_start"]])
  let years ← submit (instants.call "map"
    [Value.each 1 fun y => (date.make [y]).call "get" ["year"]])
  let years ← submit ((dictionary.make
    [years.call "reduce" [reducer.fn "frequencyHistogram"]]).call "keys")
  let years ← submit (years.call "map" [Value.each 1 fun y => number.fn "parse" [y]])
  let annual ← mapEach 1 years (yearImage images region addVegetation addWater)
  let annual ← submit (imageCollection.make [annual])
  let mean ← submit (number.make [annual.call "aggregate_mean" ["tiles"]])
  let deviation ← submit (number.make [annual.call "aggregate_total_sd" ["tiles"]])
  let threshold ← submit (mean.call "subtract" [deviation.call "multiply" [1]])
  let atLeast (n : Data) : Data := filter.fn "gte" ["tiles", n]
  let annual ← submit (annual.call "filter" [filter.fn "Or" [atLeast threshold, atLeast 15]])
  let annual ← submit (annual.call "filter" [atLeast 7])
  let size ← submit (annual.call "size")
  let numbers ← submit (list.fn "sequence" [0, size.call "subtract" [1]])
  let numbered ← mapEach 1 numbers fun i => do
    let image ← submit (Kind.image.make [annual.call "toList" [size] |>.call "get" [i]])
    submit (image.call "set" [.record [("system:uid", (number.make [i]).call "toUint8")]])
  submit (imageCollection.make [numbered])

def coveringCommand : Command where
  parameters := ["region", opt "add_NDVI" true, opt "add_NDWI" true]
  run a := covering (a "region") (a "add_NDVI").truthy (a "add_NDWI").truthy

end RemoteSensing.Imagery.Aerial
