import RemoteSensing.Analysis
import RemoteSensing.Table.Csv

/-!
Export tasks.
-/

namespace RemoteSensing.Export

open Session

def startTask (path : List String) (args : List Data) (named : Fields) : Session Unit := do
  let task ← submit (.static .exports path args named)
  Session.start task

def heldBack : Session Bool := do pure (← setting "USE_MKDOCS").isSome

def announce (description : Data) : Session Unit :=
  print ("Exporting " ++ description.display ++
    "... Please check the Task Manager from the JavaScript Code Editor.")

def assetName (v : Data) : Session Data :=
  match v with
  | .str s =>
    if Text.startsWith s "users/" || Text.startsWith s "projects/" then pure v
    else throw (.noMember "data" "getAssetRoots")
  | v => pure v

inductive Target where
  | drive
  | asset
  | cloud

namespace Target

def method : Target → String
  | drive => "toDrive"
  | asset => "toAsset"
  | cloud => "toCloudStorage"

def extent : List String := ["dimensions", "region", "scale", "crs", "crsTransform", "maxPixels"]

def format : List String := ["shardSize", "fileDimensions", "skipEmptyTiles", "fileFormat", "formatOptions"]

def settings : Target → List String
  | drive => ["folder", "fileNamePrefix"] ++ extent ++ format
  | asset => ["assetId", "pyramidingPolicy"] ++ extent
  | cloud => ["bucket", "fileNamePrefix"] ++ extent ++ format

end Target

def exportImage (target : Target) (image description : Data) (settings : List Data)
    (named : Fields) : Session Unit := do
  unless image.isKind .image do
    reject .value "Input image must be an instance of ee.Image"
  let path := ["image", target.method]
  match target, settings with
  | .cloud, _ =>
    try startTask path (image :: description :: settings) named
    catch e => print e.message
  | .asset, asset :: rest =>
    startTask path (image :: description :: (← assetName asset) :: rest) named
  | _, _ => startTask path (image :: description :: settings) named

def imageCommand (target : Target) : Command where
  parameters := (["image", opt "description" "myExportImageTask"] : List Parameter) ++ opts target.settings
  open_ := true
  run a := do
    exportImage target (a "image") (a "description") (target.settings.map a.get) a.rest
    pure .null

def countOf (collection : Data) : Session Int := do
  Value.toWhole (← info (collection.call "size"))

def imageAt (images : Data) (i : Nat) : Data := Kind.image.make [images.call "get" [.int i]]

def Target.own : Target → List String
  | .asset => ["image", "description", "assetId"]
  | _ => ["image", "description"]

def Target.call : Target → String
  | .drive => "ee_export_image_to_drive"
  | .asset => "ee_export_image_to_asset"
  | .cloud => "ee_export_image_to_cloud_storage"

def Target.checkOwn (target : Target) (named : Fields) : Except Fault Unit :=
  match named.find? fun f => target.own.contains f.1 with
  | some (k, _) => .error (.wrongType (target.call ++ "() got multiple values for argument " ++ Text.literal k))
  | none => .ok ()

def exportImages (target : Target) (collection descriptions assets : Data) (settings : List Data)
    (named : Fields) : Session Unit := do
  let count ← countOf collection
  print ("Total number of images: " ++ toString count ++ "\n")
  unless descriptions.isNull do
    if ((← descriptions.len) : Int) ≠ count then
      print "The number of descriptions is not equal to the number of images."
      return
  let descriptions ←
    if descriptions.isNull then info (collection.call "aggregate_array" ["system:index"])
    else pure descriptions
  let assets := if assets.isNull then descriptions else assets
  let images ← submit (collection.call "toList" [.int count])
  unless ← heldBack do
    for i in List.range count.toNat do
      let image ← submit (imageAt images i)
      let description ← descriptions.nth i
      let settings ← match target with
        | .asset => do pure ((← assets.nth i) :: settings)
        | _ => pure settings
      target.checkOwn named
      exportImage target image description settings named

def Target.shared : Target → List String
  | .asset => Target.asset.settings.drop 1
  | t => t.settings

def imagesCommand (target : Target) : Command where
  parameters := (["ee_object", opt "descriptions"] : List Parameter) ++
    (match target with | .asset => [opt "assetIds"] | _ => []) ++ opts target.shared
  open_ := true
  run a := do
    unless (a "ee_object").isKind .imageCollection do
      reject .value "The ee_object must be an ee.ImageCollection."
    try
      exportImages target (a "ee_object") (a "descriptions") (a "assetIds") (target.shared.map a.get) a.rest
    catch e => print e.message
    pure .null

def tableFormats : List String := ["csv", "geojson", "kml", "kmz", "shp", "tfrecord"]

def announcedCommand (path : List String) (subject : String) (kind : Kind) (complaint : Complaint)
    (refusal description : String) (settings : List String)
    (prepare : Arguments → Session (List Data)) : Command where
  parameters := ([subject, opt "description" description] : List Parameter) ++ opts settings
  open_ := true
  run a := do
    unless (a subject).isKind kind do reject complaint refusal
    if path == ["table", "toDrive"] || path == ["table", "toCloudStorage"] then
      let format ← (a "fileFormat").strOf "lower"
      unless tableFormats.contains (Text.lower format) do
        reject .value
          ("The file type must be one of the following: " ++ Text.join ", " tableFormats)
    unless ← heldBack do
      let settings ← prepare a
      announce (a "description")
      startTask path (a subject :: a "description" :: settings) a.rest
    pure .null

def tableCommand (method : String) (settings : List String)
    (prepare : Arguments → Session (List Data)) : Command :=
  announcedCommand ["table", method] "collection" .featureCollection .value
    "The collection must be an ee.FeatureCollection." "myExportTableTask" settings prepare

def tableSettings (place : String) : List String :=
  [place, "fileNamePrefix", "fileFormat", "selectors", "maxVertices"]

def tableToDriveCommand : Command :=
  tableCommand "toDrive" (tableSettings "folder") fun a => pure ((tableSettings "folder").map a.get)

def tableToCloudCommand : Command :=
  tableCommand "toCloudStorage" (tableSettings "bucket") fun a => pure ((tableSettings "bucket").map a.get)

def tableToAssetCommand : Command :=
  tableCommand "toAsset" ["assetId", "maxVertices"] fun a => do
    let asset ← assetName (a "assetId")
    print asset.display
    pure [asset, a "maxVertices"]

def tableToViewCommand : Command :=
  tableCommand "toFeatureView" ["assetId", "ingestionTimeParameters"] fun a =>
    pure [a "assetId", a "ingestionTimeParameters"]

def videoSettings (place : String) : List String :=
  [place, "fileNamePrefix", "framesPerSecond"] ++ Target.extent ++ ["maxFrames"]

def videoCommand (method place : String) : Command :=
  announcedCommand ["video", method] "collection" .imageCollection .type
    "collection must be an ee.ImageCollection" "myExportVideoTask" (videoSettings place) fun a =>
      pure ((videoSettings place).map a.get)

def videoToDriveCommand : Command := videoCommand "toDrive" "folder"

def videoToCloudCommand : Command := videoCommand "toCloudStorage" "bucket"

def mapSettings : List String :=
  ["bucket", "fileFormat", "path", "writePublicTiles", "maxZoom", "scale", "minZoom", "region",
    "skipEmptyTiles", "mapsApiKey"]

def mapToCloudCommand : Command :=
  announcedCommand ["map", "toCloudStorage"] "image" .image .type "image must be an ee.Image"
    "myExportMapTask" mapSettings fun a => pure (mapSettings.map a.get)

/-!
Tasks that are watched.
-/

def taskName : String := "TASK"

def startAnnounced (description : Data) (describe : Session Data) : Session Data :=
  orTell "Error starting export task: " .null do
    let task ← describe
    Session.start task
    print ("Export task started: " ++ description.display)
    print ("Task ID: " ++ taskName)
    pure task

def imageToFolderCommand : Command where
  parameters := ["image", "description", opt "folder" "EarthEngine", opt "region", opt "scale" 30,
    opt "crs" "EPSG:4326", opt "max_pixels" 1e9]
  run a := startAnnounced (a "description") do
    let region ←
      if (a "region").isNull then submit ((a "image").call "geometry") else pure (a "region")
    submit (.static .exports ["image", "toDrive"] [] [("image", a "image"),
      ("description", a "description"), ("folder", a "folder"), ("region", region), ("scale", a "scale"),
      ("crs", a "crs"), ("maxPixels", a "max_pixels")])

def tableToFolder (collection description folder format : Data) : Session Data :=
  startAnnounced description
    (submit (.static .exports ["table", "toDrive"] [] [("collection", collection),
      ("description", description), ("folder", folder), ("fileFormat", format)]))

def tableToFolderCommand : Command where
  parameters := ["feature_collection", "description", opt "folder" "EarthEngine", opt "file_format" "CSV"]
  run a := tableToFolder (a "feature_collection") (a "description") (a "folder") (a "file_format")

def percent : Data → Except Fault String := Value.formatted "%" fun x => Decimal.fixed 1 (x * 100) ++ "%"

def stateText (status state : Data) : Except Fault String := do
  let task := "Task " ++ taskName
  if state.isText "COMPLETED" then pure (task ++ " completed successfully")
  else if state.isText "FAILED" then
    pure (task ++ " failed: " ++ (← status.getD "error_message" "Unknown error").display)
  else if state.isText "RUNNING" then
    pure (task ++ " is running... Progress: " ++ (← percent (← status.getD "progress" 0)))
  else pure (task ++ " status: " ++ state.display)

def checkState (task : Data) : Session Data :=
  orTell "Error checking task status: " "ERROR" do
    let status ← taskStatus task
    let state ← status.item "state"
    print (← stateText status state)
    pure state

def stateCommand : Command where
  parameters := ["task"]
  run a := checkState (a "task")

def rounds (timeout : Data) (answers : Nat) : Nat :=
  match timeout.num? with
  | some (.int t) => (t.toNat + 9) / 10
  | some (.real x) =>
    match Decimal.decode x with
    | .finite b => if b.negative then 0 else (b.numerator + 10 * b.denominator - 1) / (10 * b.denominator)
    | .infinite negative => if negative then 0 else answers
    | .notANumber => 0
  | none => 0

def waitFrom (task timeout : Data) (start : Nat) : Nat → Session Bool
  | 0 => do
    print ("Task timed out after " ++ timeout.display ++ " seconds")
    pure false
  | fuel + 1 => do
    let elapsed : Data := .int (((← get).clock : Int) - start)
    if ← elapsed.lt timeout then
      let state ← checkState task
      if state.isText "COMPLETED" then return true
      if state.isText "FAILED" || state.isText "CANCELLED" then return false
      sleep 10
      waitFrom task timeout start fuel
    else
      print ("Task timed out after " ++ timeout.display ++ " seconds")
      pure false

def wait (task timeout : Data) : Session Bool := do
  let w ← get
  waitFrom task timeout w.clock (rounds timeout w.answers.length + 1)

def waitCommand : Command where
  parameters := ["task", opt "timeout" 300]
  run a := do pure (.bool (← wait (a "task") (a "timeout")))

/-!
Time series of a collection: a value of each image over a region, with its date. The series is exported to a
drive and also given as a table in the order of the dates.
-/

def seriesReducers : List (String × String) :=
  [("mean", "mean"), ("median", "median"), ("sum", "sum"), ("min", "min"), ("max", "max")]

def series (images region description size reducer : Data) : Session Table := do
  let reducer := (← Analysis.reducerOf? seriesReducers reducer).getD (Kind.reducer.fn "mean")
  let features ← mapEach 1 images fun image => do
    let reduced ← submit (image.call "reduceRegion" [] [("reducer", reducer), ("geometry", region),
      ("scale", size), ("maxPixels", 1e9)])
    let date ← submit (image.call "date" |>.call "format" ["YYYY-MM-dd"])
    submit (Kind.feature.make [.null, reduced.call "set" ["date", date]])
  let _ ← tableToFolder features (.str (description.display ++ "_timeseries")) "EarthEngine" "CSV"
  let answer ← info features
  let t : Except Fault Table := do
    let t ← Table.ofRows (← (← Analysis.featuresOf answer).mapM fun f => f.item "properties")
    if t.hasColumn "date" then t.inTimeOrder "date" else pure t
  t

def seriesCommand : Command where
  parameters := ["image_collection", "region", "description", opt "scale" 30, opt "reducer" "mean"]
  run a := do
    let t ← orTell "Error exporting time series: " Table.empty
      (series (a "image_collection") (a "region") (a "description") (a "scale") (a "reducer"))
    pure t.toValue

/-!
Exports into files of the working directory.
-/

def folderOf (filename : Data) : Except Fault String := do
  let folder := Path.folder (← filename.pathOf)
  pure (if folder.isEmpty then "." else folder)

def unpackBeside (filename : Data) (body : Body) : Session String := do
  let archive := filename.display ++ ".zip"
  writeBody archive body
  match body with
  | .archive _ => pure ()
  | _ => throw .badArchive
  let folder ← folderOf filename
  let _ ← unpackArchive archive folder
  removeFile archive
  pure folder

def firstEnding? (folder ending : String) : Session (Option String) := do
  pure ((← namesIn folder).find? fun n => Text.endsWith n ending)

def announceFile (what path : String) : Session String := do
  print (what ++ " exported to: " ++ path)
  pure path

def imageToFile (image filename region size crs format : Data) : Session String := do
  let image ← submit (image.call "clip" [region])
  let outline ← info region
  let url ← address image "getDownloadURL"
    [.record [("scale", size), ("crs", crs), ("region", outline), ("format", format)]]
  let reply ← fetch url
  if reply.status ≠ 200 then
    print ("Error downloading image: " ++ toString reply.status)
    return ""
  let folder ← unpackBeside filename reply.body
  match ← firstEnding? folder ".tif" with
  | some name =>
    let path := filename.display ++ ".tif"
    rename (Path.join folder name) path
    announceFile "Image" path
  | none =>
    print "Error: No .tif file found in downloaded archive"
    pure ""

def imageToFileCommand : Command where
  parameters := ["image", "filename", "region", opt "scale" 30, opt "crs" "EPSG:4326", opt "file_format" "GeoTIFF"]
  run a := do
    let path ← orTell "Error exporting image: " ""
      (imageToFile (a "image") (a "filename") (a "region") (a "scale") (a "crs") (a "file_format"))
    pure (.str path)

def vectorFormat? (format : String) : Option (String × String) :=
  if format = "SHP" then some ("shp", ".zip")
  else if format = "GEOJSON" then some ("json", ".geojson")
  else if format = "KML" then some ("kml", ".kml")
  else none

def shapeEndings : List String := [".shp", ".shx", ".dbf", ".prj"]

def renameParts (old new : String) : List String → Session Unit
  | [] => pure ()
  | ending :: r => do
    if ← pathExists (old ++ ending) then rename (old ++ ending) (new ++ ending)
    renameParts old new r

def tableToFile (collection filename format : Data) : Session String := do
  let name := Text.upper (← format.strOf "upper")
  let some (word, ending) := vectorFormat? name
    | do
      print ("Unsupported format: " ++ format.display)
      pure ""
  let url ← address collection "getDownloadURL" [.str word]
  let reply ← fetch url
  if reply.status ≠ 200 then
    print ("Error downloading vector data: " ++ toString reply.status)
    return ""
  if name = "SHP" then
    let folder ← unpackBeside filename reply.body
    match ← firstEnding? folder ".shp" with
    | some found =>
      let path := filename.display ++ ".shp"
      renameParts (Path.splitExtension (Path.join folder found)).1 (Path.splitExtension path).1 shapeEndings
      announceFile "Vector data" path
    | none =>
      print "Error: No .shp file found in downloaded archive"
      pure ""
  else
    let path := filename.display ++ ending
    writeBody path reply.body
    announceFile "Vector data" path

def tableToFileCommand : Command where
  parameters := ["feature_collection", "filename", opt "file_format" "SHP"]
  run a := do
    let path ← orTell "Error exporting vector data: " ""
      (tableToFile (a "feature_collection") (a "filename") (a "file_format"))
    pure (.str path)

end RemoteSensing.Export
