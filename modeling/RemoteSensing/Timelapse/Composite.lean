import RemoteSensing.Features
import RemoteSensing.Geo.Place
import RemoteSensing.Period

/-!
Regions of timelapses.
-/

namespace RemoteSensing.Timelapse

open Session

def polygon (corners : List (Float × Float)) : Data :=
  Kind.geometry.fn "Polygon"
    [.list [.list (corners.map fun c => .list [.real c.1, .real c.2])], .null, false]

def defaultRegion : Data :=
  polygon [(-115.471773, 35.892718), (-115.471773, 36.409454), (-114.271283, 36.409454),
    (-114.271283, 35.892718), (-115.471773, 35.892718)]

def geometryOf (region : Data) : Session (Option Data) := do
  if region.isKind .geometry then return some region
  match ← attempt (submit (region.call "geometry")) with
  | .ok g => pure (some g)
  | .error e =>
    print "Could not convert the provided roi to ee.Geometry"
    print e.message
    pure none

def wrappedRegion (region : Data) : Session Data := do
  match ← geometryOf region with
  | none => pure .null
  | some g =>
    let outline ← Features.toDataCommand.call [g] []
    let wrapped ← Geo.adjustLongitudes outline
    submit (Kind.geometry.make [wrapped])

def wrappedRegionCommand : Command where
  parameters := ["roi"]
  run a := wrappedRegion (a "roi")

def thisYear : Session Int := do pure (← get).today.year

def yearOr (year : Data) : Session Data := do
  if year.isNull then pure (.int (← thisYear)) else pure year

/-! Composites: one image for each period between two dates, made by a reducer from the images of the period. -/

def reducerOf (v : Data) : Session Data := do
  let made : Session Data := do submit (← Imagery.reducerNamed v.display)
  match ← attempt made with
  | .ok r => pure r
  | .error e =>
    print "The provided reducer is invalid."
    throw (e.restated .general)

def dateFormats : List (String × String) :=
  [("year", "YYYY"), ("month", "YYYY-MM"), ("quarter", "YYYY-MM"), ("week", "YYYY-MM-dd"),
    ("day", "YYYY-MM-dd"), ("hour", "YYYY-MM-dd HH"), ("minute", "YYYY-MM-dd HH:mm"),
    ("second", "YYYY-MM-dd HH:mm:ss")]

def formatFor (formats : List (String × String)) (frequency : Data) : Except Fault Data := do
  frequency.checkKey
  match frequency with
  | .str s =>
    match Value.lookup s formats with
    | some f => pure (.str f)
    | none => throw (.missingKey s)
  | v => throw (.missingName v.literal)

structure Plan where
  first : Data
  last : Data
  region : Data := .null
  bands : Data := .null
  frequency : Data := "year"
  reducer : Data := "median"
  dropEmpty : Data := true
  dateFormat : Data := .null
  parallel : Data := 1
  step : Data := 1

def composite (p : Plan) (images bands reducer format date : Data) : Data :=
  let start := Kind.date.make [date]
  let stop :=
    if p.frequency.isText "quarter" then start.call "advance" [3, "month"]
    else start.call "advance" [1, p.frequency]
  let dated := images.call "filterDate" [start, stop]
  let chosen := if p.region.isNull then dated else dated.call "filterBounds" [p.region]
  let reduced := chosen.call "reduce" [reducer, p.parallel]
  let image :=
    if p.region.isNull then reduced
    else Kind.image.make [Kind.algorithms.fn "If"
      [(Kind.algorithms.fn "ObjectType" [p.region]).call "equals" ["FeatureCollection"],
        reduced.call "clipToCollection" [p.region], reduced.call "clip" [p.region]]]
  image.call "set" [.record
      [("system:time_start", start.call "millis"),
        ("system:date", start.call "format" [format]),
        ("empty", chosen.call "limit" [1] |>.call "size" |>.call "eq" [0])]]
    |>.call "rename" [bands]

def imagesOf (collection : Data) : Session Data := do
  if collection.isKind .imageCollection then pure collection
  else match collection with
    | .str _ => submit (Kind.imageCollection.make [collection])
    | _ => reject .general "The collection must be an ee.ImageCollection object or asset id."

def composites (collection : Data) (p : Plan) : Session Data := do
  let images ← imagesOf collection
  let (images, bands) ←
    if p.bands.isNull then do pure (images, ← submit (images.call "first" |>.call "bandNames"))
    else do pure (← submit (images.call "select" [p.bands]), p.bands)
  let format ← if p.dateFormat.isNull then formatFor dateFormats p.frequency else pure p.dateFormat
  let dates ← Period.sequence p.first p.last p.frequency format p.step
  let reducer ← reducerOf p.reducer
  let made := Kind.imageCollection.make
    [dates.call "map" [Value.each 1 (composite p images bands reducer format)]]
  let result := if p.dropEmpty.truthy then made.call "filterMetadata" ["empty", "equals", 0] else made
  try submit result
  catch e => throw (e.restated .general)

def planOptions : List Parameter :=
  [opt "region", opt "bands", opt "frequency" "year", opt "reducer" "median", opt "drop_empty" true,
    opt "date_format", opt "parallel_scale" 1]

def plan (a : Arguments) : Plan :=
  { first := a "start_date", last := a "end_date", region := a "region", bands := a "bands",
    frequency := a "frequency", reducer := a "reducer", dropEmpty := a "drop_empty",
    dateFormat := a "date_format", parallel := a "parallel_scale" }

def compositesCommand : Command where
  parameters := (["collection", "start_date", "end_date"] : List Parameter) ++ planOptions ++ [opt "step" 1]
  run a := composites (a "collection") { plan a with step := a "step" }

end RemoteSensing.Timelapse
