import RemoteSensing.Command
import RemoteSensing.Table.Basic

/-!
Statistics that are evaluated at once: of the bands of an image over a region, of an image over zones, and the values of
an image at points.
-/

namespace RemoteSensing.Analysis

open Session

def bandsOf (image bands : Data) : Session Data :=
  if bands.isNull then info (image.call "bandNames") else pure bands

def bandStatistics : List (String × String) :=
  [("mean", "_mean"), ("std", "_stdDev"), ("min", "_min"), ("max", "_max"), ("median", "_median"),
    ("p25", "_p25"), ("p75", "_p75")]

def bandReducer : Data :=
  [Kind.reducer.fn "stdDev", Kind.reducer.fn "min", Kind.reducer.fn "max", Kind.reducer.fn "median",
    Kind.reducer.fn "percentile" [.list [25, 75]]].foldl
    (fun acc r => acc.call "combine" [r] [("sharedInputs", true)]) (Kind.reducer.fn "mean")

def ofBand (image region size band : Data) : Session (String × Data) := do
  let part ← submit (image.call "select" [band])
  let answer ← info (part.call "reduceRegion" [] [("reducer", bandReducer), ("geometry", region),
    ("scale", size), ("maxPixels", 1e9)])
  let name := band.display
  let fields : Except Fault Fields := bandStatistics.mapM fun s => do
    pure (s.1, ← answer.get (name ++ s.2))
  let fields ← fields
  band.checkKey
  pure (name, .record fields)

def statisticsCommand : Command where
  parameters := ["image", "region", opt "scale" 30, opt "bands"]
  run a := orTell "Error calculating image statistics: " (.record []) do
    let bands ← bandsOf (a "image") (a "bands")
    let results ← (← bands.elements).mapM (ofBand (a "image") (a "region") (a "scale"))
    pure (.record (Value.insertAll [] results))

def featuresOf (answer : Data) : Except Fault (List Data) := do (← answer.item "features").elements

def zoneReducers : List (String × String) :=
  [("mean", "mean"), ("median", "median"), ("sum", "sum"), ("std", "stdDev"), ("min", "min"), ("max", "max"),
    ("count", "count")]

def reducerOf? (table : List (String × String)) (name : Data) : Session (Option Data) := do
  let _ ← submit (.list (table.map fun r => Kind.reducer.fn r.2))
  name.checkKey
  pure (match name with
    | .str s => (Value.lookup s table).map fun r => Kind.reducer.fn r
    | _ => none)

def zonesCommand : Command where
  parameters := ["image", "zones", opt "reducer" "mean", opt "scale" 30, opt "bands"]
  run a := orTell "Error calculating zonal statistics: " Table.empty.toValue do
    let bands ← bandsOf (a "image") (a "bands")
    let image ← submit ((a "image").call "select" [bands])
    let reducer ← match ← reducerOf? zoneReducers (a "reducer") with
      | some r => pure r
      | none => do
        print ("Unknown reducer: " ++ (a "reducer").display ++ ". Using 'mean'.")
        pure (Kind.reducer.fn "mean")
    let answer ← info (image.call "reduceRegions" [] [("collection", a "zones"), ("reducer", reducer),
      ("scale", a "scale"), ("crs", "EPSG:4326")])
    let t : Except Fault Table := do
      Table.ofRows (← (← featuresOf answer).mapM fun f => f.item "properties")
    pure (← t).toValue

def sampleRow (feature : Data) : Except Fault Data := do
  let properties ← feature.item "properties"
  let row ← match properties with
    | .record _ | .box _ | .list _ => pure properties
    | v => throw (.noMember v.typeName "copy")
  let geometry ← feature.item "geometry"
  if (← geometry.item "type").isText "Point" then
    let coordinates ← geometry.item "coordinates"
    let row ← row.setItem "longitude" (← coordinates.nth 0)
    row.setItem "latitude" (← coordinates.nth 1)
  else pure row

def pointsCommand : Command where
  parameters := ["image", "points", opt "scale" 30, opt "bands"]
  run a := orTell "Error extracting values to points: " Table.empty.toValue do
    let image ←
      if (a "bands").isNull then pure (a "image") else submit ((a "image").call "select" [a "bands"])
    let answer ← info (image.call "sampleRegions" [] [("collection", a "points"), ("scale", a "scale"),
      ("tileScale", 8), ("geometries", true)])
    let t : Except Fault Table := do Table.ofRows (← (← featuresOf answer).mapM sampleRow)
    pure (← t).toValue

/-!
Classification of images, how good it is, and where two images differ.
-/

def classifier? (name : String) : Option Data :=
  if name = "randomForest" then some (Kind.classifier.fn "smileRandomForest" [] [("numberOfTrees", 100)])
  else if name = "svm" then some (Kind.classifier.fn "libsvm")
  else if name = "cart" then some (Kind.classifier.fn "smileCart")
  else none

def classify (image samples property type bands : Data) : Session Data := do
  let bands ← bandsOf image bands
  let image ← submit (image.call "select" [bands])
  let training ← submit (image.call "sampleRegions" []
    [("collection", samples), ("properties", .list [property]), ("scale", 30)])
  let classifier ← match (match type with | .str s => classifier? s | _ => none) with
    | some c => submit c
    | none => do
      print ("Unknown classifier: " ++ type.display ++ ". Using randomForest.")
      submit ((classifier? "randomForest").getD .null)
  let trained ← submit (classifier.call "train" []
    [("features", training), ("classProperty", property), ("inputProperties", bands)])
  submit (image.call "classify" [trained])

def classifyCommand : Command where
  parameters := ["image", "training_data", opt "class_property" "class", opt "classifier_type" "randomForest", opt "bands"]
  run a := orTell "Error in supervised classification: " .null
    (classify (a "image") (a "training_data") (a "class_property") (a "classifier_type") (a "bands"))

def clusterCommand : Command where
  parameters := ["image", opt "num_classes" 10, opt "scale" 30, opt "region", opt "bands"]
  run a := orTell "Error in unsupervised classification: " .null do
    let bands ← bandsOf (a "image") (a "bands")
    let image ← submit ((a "image").call "select" [bands])
    let region ← if (a "region").isNull then submit (image.call "geometry") else pure (a "region")
    let training ← submit (image.call "sample" []
      [("region", region), ("scale", a "scale"), ("numPixels", 5000)])
    let clusterer ← submit (Kind.clusterer.fn "wekaKMeans" [a "num_classes"])
    let trained ← submit (clusterer.call "train" [training])
    submit (image.call "cluster" [trained])

def accuracyCommand : Command where
  parameters := ["reference", "classified", opt "class_property" "class"]
  run a := orTell "Error in accuracy assessment: " (.record []) do
    let samples ← submit ((a "classified").call "sampleRegions" [] [("collection", a "reference"),
      ("properties", .list [a "class_property"]), ("scale", 30), ("tileScale", 8)])
    let matrix ← submit (samples.call "errorMatrix" [a "class_property", "classification"])
    let overall ← submit (matrix.call "accuracy")
    let kappa ← submit (matrix.call "kappa")
    let counts ← info matrix
    let overall ← info overall
    let kappa ← info kappa
    let producers ← info (matrix.call "producersAccuracy")
    let consumers ← info (matrix.call "consumersAccuracy")
    pure (.record [("overall_accuracy", overall), ("kappa", kappa), ("confusion_matrix", counts),
      ("producer_accuracy", producers), ("consumer_accuracy", consumers)])

def changeCommand : Command where
  parameters := ["image1", "image2", opt "band" "NDVI", opt "threshold" 0.1]
  run a := orTell "Error in change detection: " .null do
    let band (image : Data) : Data := image.call "select" [a "band"]
    let difference ← submit ((band (a "image2")).call "subtract" [band (a "image1")])
    let change ← submit (difference.call "abs" |>.call "gt" [a "threshold"])
    submit (change.call "rename" ["change"])

/-!
Spectral indices.
-/

inductive Formula where
  | difference (first second : String)
  | enhanced (infrared red blue : String)
deriving DecidableEq, Repr

structure Recipe where
  bands : List String
  formula : Formula
deriving DecidableEq, Repr

structure Index where
  name : String
  recipes : List Recipe
  missing : String

def indices : List Index :=
  [⟨"NDVI", [⟨["B5"], .difference "B5" "B4"⟩, ⟨["B8"], .difference "B8" "B4"⟩],
      "Cannot calculate NDVI: NIR or Red bands not found"⟩,
    ⟨"NDWI", [⟨["B3", "B5"], .difference "B3" "B5"⟩, ⟨["B3", "B8"], .difference "B3" "B8"⟩],
      "Cannot calculate NDWI: required bands not found"⟩,
    ⟨"NDBI", [⟨["B6", "B5"], .difference "B6" "B5"⟩, ⟨["B11", "B8"], .difference "B11" "B8"⟩],
      "Cannot calculate NDBI: SWIR or NIR bands not found"⟩,
    ⟨"EVI", [⟨["B5", "B4", "B2"], .enhanced "B5" "B4" "B2"⟩, ⟨["B8", "B4", "B2"], .enhanced "B8" "B4" "B2"⟩],
      "Cannot calculate EVI: required bands not found"⟩]

def Formula.apply (image : Data) : Formula → Data
  | .difference first second => image.call "normalizedDifference" [.strs [first, second]]
  | .enhanced infrared red blue =>
    image.call "expression" ["2.5 * ((NIR - RED) / (NIR + 6 * RED - 7.5 * BLUE + 1))",
      .record [("NIR", image.call "select" [.str infrared]), ("RED", image.call "select" [.str red]),
        ("BLUE", image.call "select" [.str blue])]]

def hasBands (image : Data) : List String → Session Bool
  | [] => pure true
  | b :: r => do
    let names ← info (image.call "bandNames")
    if ← names.has b then hasBands image r else pure false

def applicable? (image : Data) : List Recipe → Session (Option Recipe)
  | [] => pure none
  | r :: rest => do
    if ← hasBands image r.bands then pure (some r) else applicable? image rest

def addIndex (image result name : Data) : Session Data := do
  match indices.find? fun i => name.isText i.name with
  | none =>
    print ("Unknown index: " ++ name.display)
    pure result
  | some index =>
    match ← applicable? image index.recipes with
    | some r =>
      let band ← submit ((r.formula.apply image).call "rename" [.str index.name])
      submit (result.call "addBands" [band])
    | none =>
      print index.missing
      pure result

def addIndicesCommand : Command where
  parameters := ["image", opt "indices" (.strs ["NDVI"])]
  run a := orTell "Error calculating indices: " (a "image") do
    (← (a "indices").elements).foldlM (addIndex (a "image")) (a "image")

end RemoteSensing.Analysis
