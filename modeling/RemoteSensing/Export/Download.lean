import RemoteSensing.Export.Task

/-!
Downloads.
-/

namespace RemoteSensing.Export

open RemoteSensing.Path Session Value

def tellFailure : Session Unit := print "An error occurred while downloading."

def tellAddress (url : String) : Session Unit :=
  print ("Downloading data from " ++ url ++ "\nPlease wait ...")

/-- The reply is bound only if there is an address, so that its first use fails. -/
def orUnassigned {α : Type} (act : Session α) : Session α :=
  try act
  catch _ =>
    tellFailure
    throw (.unassigned "r")

def explain (r : Reply) : Session Unit := do
  print (← (← (← readReply r).item "error").item "message").display

structure ImageOptions where
  scale : Data := .null
  crs : Data := .null
  crsTransform : Data := .null
  region : Data := .null
  dimensions : Data := .null
  filePerBand : Data := false
  format : Data := "ZIPPED_GEO_TIFF"
  unmask : Data := .null
  unzip : Bool := true
  verbose : Bool := true

def filled (image : Data) (o : ImageOptions) : Data :=
  if o.unmask.isNull then image
  else
    let whole := (image.call "selfMask").call "unmask" [o.unmask]
    if o.region.isKind .geometry then whole.call "clip" [o.region]
    else if o.region.isKind .featureCollection then whole.call "clipToCollection" [o.region]
    else whole

def addGiven (key : String) (v : Data) (fields : Fields) : Fields :=
  if v.isNull then fields else insert key v fields

def ImageOptions.fields (o : ImageOptions) (name : String) (region : Data) : Data :=
  let fields := [("name", .str name), ("filePerBand", o.filePerBand), ("scale", o.scale)]
  let fields := addGiven "dimensions" o.dimensions fields
  let fields := addGiven "crs" o.crs (addGiven "region" region fields)
  let fields := addGiven "crs_transform" o.crsTransform fields
  .record (if o.format.isText "ZIPPED_GEO_TIFF" then fields else insert "format" o.format fields)

def fetchArchive (image : Data) (o : ImageOptions) (name archive : String) : Session Bool := do
  if o.verbose then print "Generating URL ..."
  let region ← orUnassigned (if o.region.isNull then submit (image.call "geometry") else pure o.region)
  match ← attempt (address image "getDownloadURL" [o.fields name region]) with
  | .error e =>
    tellFailure
    print e.message
    pure false
  | .ok url =>
    if o.verbose then tellAddress url
    match ← attempt (fetch url) with
    | .error _ =>
      tellFailure
      pure false
    | .ok r =>
      if r.status ≠ 200 then
        tellFailure
        pure false
      else
        try
          writeBody archive r.body
          pure true
        catch _ =>
          tellFailure
          explain r
          pure false

def downloadImage (image filename : Data) (o : ImageOptions) : Session Unit := do
  unless image.isKind .image do
    print "The ee_object must be an ee.Image."
    return
  let image ← submit (filled image o)
  let path := absolute (← filename.pathOf)
  let name := (splitExtension (base path)).1
  let archive := Text.replace path ".tif" ".zip"
  if extension (base path) ≠ "tif" then
    print "The filename must end with .tif"
    return
  if ← fetchArchive image o name archive then
    try
      if o.unzip then
        let _ ← unpackArchive archive (Path.folder path)
        removeFile archive
      if o.verbose then
        print ("Data downloaded to " ++ (if o.filePerBand.truthy then Path.folder path else path))
    catch e => print e.message

def ImageOptions.ofArguments (a : Arguments) : ImageOptions where
  scale := a "scale"
  crs := a "crs"
  crsTransform := a "crs_transform"
  region := a "region"
  dimensions := a "dimensions"
  filePerBand := a "file_per_band"
  format := a "format"
  unmask := a "unmask_value"

def imageOptionParameters : List Parameter :=
  [opt "scale", opt "crs", opt "crs_transform", opt "region", opt "dimensions"] ++
    [opt "file_per_band" false, opt "format" "ZIPPED_GEO_TIFF"]

def downloadImageCommand : Command where
  parameters := (["ee_object", "filename"] : List Parameter) ++ imageOptionParameters ++
    [opt "unzip" true, opt "unmask_value", opt "timeout" 300, opt "proxies", opt "verbose" true]
  run a := do
    downloadImage (a "ee_object") (a "filename")
      { ImageOptions.ofArguments a with unzip := (a "unzip").truthy, verbose := (a "verbose").truthy }
    pure .null

def fileNames (collection filenames : Data) (count : Int) : Session (List String) := do
  let names ← match filenames with
    | .null => info (collection.call "aggregate_array" ["system:index"])
    | .int n => numbered n
    | .bool b => numbered (if b then 1 else 0)
    | v => pure v
  if ((← names.len) : Int) ≠ count then
    reject .general "The number of filenames must be equal to the number of images."
  let texts := (← names.elements).map display
  pure ((texts.filter fun s => !Text.endsWith s ".tif").map (· ++ ".tif"))
where
  numbered (first : Int) : Session Data :=
    pure (.list ((List.range count.toNat).map fun (i : Nat) => .str (toString (i + first))))

def announcedCount (collection : Data) (verbose : Bool) : Session Int := do
  let count ← countOf collection
  if verbose then print ("Total number of images: " ++ toString count ++ "\n")
  pure count

def downloadImages (collection : Data) (folder : String) (filenames : Data) (o : ImageOptions)
    (verbose : Bool) : Session Unit := do
  let count ← announcedCount collection verbose
  let names ← fileNames collection filenames count
  for i in List.range count.toNat do
    let image ← submit (imageAt (collection.call "toList" [.int count]) i)
    let path := join folder (← elementAt "list" names i)
    if verbose then
      print ("Exporting " ++ toString (i + 1) ++ "/" ++ toString count ++ ": " ++ path)
    downloadImage image (.str path) o
    print "\n"

def ensureFolder (folder : String) : Session Unit := do
  unless ← pathExists folder do makeFolder folder

def downloadImagesCommand : Command where
  parameters := (["ee_object", "out_dir"] : List Parameter) ++ imageOptionParameters ++
    [opt "unmask_value", opt "filenames", opt "timeout" 300, opt "proxies", opt "verbose" true]
  run a := do
    if (a "ee_object").isKind .imageCollection then
      let folder ← (a "out_dir").pathOf
      ensureFolder folder
      try
        downloadImages (a "ee_object") folder (a "filenames") (.ofArguments a) (a "verbose").truthy
      catch e => print e.message
    else print "The ee_object must be an ee.ImageCollection."
    pure .null

def polygonsOnly (collection : Data) : Data :=
  collection.call "map" [each 1 fun f =>
    let parts := ((f.call "geometry").call "geometries").call "map" [each 2 fun g =>
      (Kind.feature.make [Kind.geometry.make [g]]).call "set"
        ["geoType", (Kind.geometry.make [g]).call "type"]]
    let polygons := ((Kind.featureCollection.make [parts]).call "filter"
      [Kind.filter.fn "eq" ["geoType", "Polygon"]]).call "geometry"
    (Kind.feature.make [polygons]).call "copyProperties" [f]]

def propertyNames (collection : Data) : Session Data :=
  info ((collection.call "first").call "propertyNames")

def stranger? (known : Data) : List Data → Except Fault Bool
  | [] => .ok false
  | s :: r => do if ← known.holds s then stranger? known r else pure true

def strangerText (known : Data) : Except Fault String := do
  pure ("Attributes must be one chosen from: " ++ (← known.joined ", ") ++ " ")

def tableAddress (collection : Data) (format : String) (selectors : Data) (name : String) :
    Session String :=
  address collection "getDownloadURL" []
    [("filetype", .str format), ("selectors", selectors), ("filename", .str name)]

/-- A table that is refused is asked for once more, with its polygons only. -/
def retried (collection : Data) (format : String) (selectors : Data) (name : String) (first : Reply)
    (giveUp : Session Reply) : Session Reply := do
  if first.status = 200 then return first
  print "An error occurred while downloading. \n Retrying ..."
  try
    let collection ← submit (polygonsOnly collection)
    print "Generating URL ..."
    let url ← tableAddress collection format selectors name
    tellAddress url
    fetch url
  catch e =>
    print e.message
    giveUp

def downloadGeoJson (collection filename selectors : Data) : Session Data := do
  unless collection.isKind .featureCollection do
    print "The ee_object must be an ee.FeatureCollection."
    return .null
  let filename ←
    if filename.isNull then do pure (.str ("/root/Downloads/" ++ (← freshName 6) ++ ".geojson"))
    else pure filename
  let path := absolute (← filename.pathOf)
  let name := (splitExtension (base path)).1
  let format := extension (base path)
  if format ≠ "geojson" then
    print "The output file type must be geojson."
    return .null
  let selectors ← match selectors with
    | .null => add (.list [".geo"]) (← propertyNames collection)
    | .list xs =>
      let known ← propertyNames collection
      if ← stranger? known xs then
        print (← strangerText known)
        return .null
      pure selectors
    | _ =>
      print "selectors must be a list, such as ['attribute1', 'attribute2']"
      return .null
  let url ← orUnassigned (tableAddress collection format selectors name)
  match ← attempt (fetch url) with
  | .error _ =>
    tellFailure
    return .null
  | .ok first =>
    let r ← retried collection format selectors name first (pure first)
    match ← attempt (writeBody path r.body) with
    | .error _ =>
      tellFailure
      explain r
      return .null
    | .ok _ => pure (.str (← readText path))

def downloadGeoJsonCommand : Command where
  parameters := ["ee_object", opt "filename", opt "selectors", opt "timeout" 300, opt "proxies"]
  run a := downloadGeoJson (a "ee_object") (a "filename") (a "selectors")

def downloadFormats : List String := ["csv", "geojson", "json", "kml", "kmz", "shp"]

def selection (collection selectors : Data) (format : String) : Session (Data × Data) := do
  let (collection, selectors) ←
    if selectors.isNull then do
      let names ← propertyNames collection
      let collection ←
        if format = "csv" then
          submit (collection.call "select" [.list [".*"], .null, false])
        else pure collection
      pure (collection, names)
    else pure (collection, selectors)
  if format = "geojson" then pure (collection, ← add (.list [".geo"]) selectors)
  else match selectors with
    | .list xs =>
      let known ← propertyNames collection
      if ← stranger? known xs then
        reject .value (← strangerText known)
      pure (collection, selectors)
    | _ => reject .value "selectors must be a list, such as ['attribute1', 'attribute2']"

def downloadTable (collection filename : Data) (selectors : Data := .null) (verbose : Bool := true)
    (keepArchive : Bool := false) : Session Unit := do
  unless collection.isKind .featureCollection do
    reject .value "ee_object must be an ee.FeatureCollection"
  let full := absolute (← filename.pathOf)
  let name := (splitExtension (base full)).1
  let format := extension (base full)
  let path := if format = "shp" then Text.replace full ".shp" ".zip" else full
  unless downloadFormats.contains format do
    reject .value
      ("The file type must be one of the following: " ++ Text.join ", " downloadFormats)
  let (collection, selectors) ← selection collection selectors format
  if verbose then print "Generating URL ..."
  let url ← orUnassigned (tableAddress collection format selectors name)
  if verbose then tellAddress url
  let first ← try fetch url
    catch e =>
      tellFailure
      throw (e.restated .value)
  let r ← retried collection format selectors name first do
    tellFailure
    explain first
    reject .value ""
  try writeBody path r.body
  catch e =>
    tellFailure
    explain r
    throw (e.restated .value)
  try
    let mut shown := path
    if format = "shp" then
      let _ ← unpackArchive path (Path.folder path)
      unless keepArchive do removeFile path
      shown := Text.replace path ".zip" ".shp"
    if verbose then print ("Data downloaded to " ++ shown)
  catch e => throw (e.restated .value)

def downloadTableCommand : Command where
  parameters := ["ee_object", "filename", opt "selectors", opt "verbose" true, opt "keep_zip" false,
    opt "timeout" 300, opt "proxies"]
  run a := do
    downloadTable (a "ee_object") (a "filename") (a "selectors") (a "verbose").truthy (a "keep_zip").truthy
    pure .null

def downloadPicture (image out look dimensions region crs : Data) : Session Unit := do
  unless image.isKind .image do reject .type "The ee_object must be an ee.Image."
  let path ← out.pathOf
  let format := Text.sliceFrom (splitExtension path).2 1
  unless ["png", "jpg"].contains format do
    reject .value "The output image format must be png or jpg."
  ensureFolder (Path.folder (absolute path))
  let look ← if region.isNull then pure look else look.setItem "region" region
  let look ← look.setItem "dimensions" dimensions
  let look ← look.setItem "format" (.str format)
  let look ← look.setItem "crs" crs
  let url ← address image "getThumbURL" [look]
  let r ← try fetch url
    catch e =>
      tellFailure
      print e.message
      throw (.unassigned "r")
  if r.status ≠ 200 then
    tellFailure
    explain r
  else writeBody path r.body

def downloadPictureCommand : Command where
  parameters := ["ee_object", "out_img", "vis_params", opt "dimensions" 500, opt "region",
    opt "format" "jpg", opt "crs" "EPSG:3857", opt "timeout" 300,
      opt "proxies"]
  run a := do
    downloadPicture (a "ee_object") (a "out_img") (a "vis_params") (a "dimensions") (a "region") (a "crs")
    pure .null

def downloadPictures (collection : Data) (folder : String) (look dimensions region : Data)
    (format : String) (names : Data) (verbose : Bool) : Session Unit := do
  let count ← announcedCount collection verbose
  unless names.isNull do
    if ((← names.len) : Int) ≠ count then
      print "The number of names is not equal to the number of images."
      return
  let names ←
    if names.isNull then info (collection.call "aggregate_array" ["system:index"]) else pure names
  let images ← submit (collection.call "toList" [.int count])
  for i in List.range count.toNat do
    let image ← submit (imageAt images i)
    let name := (← names.nth i).display
    let name := if (splitExtension name).2 = "." ++ format then name else name ++ "." ++ format
    if verbose then
      print ("Downloading " ++ toString (i + 1) ++ "/" ++ toString count ++ ": " ++ name ++ " ...")
    downloadPicture image (.str (join folder name)) look dimensions region "EPSG:3857"

def downloadPicturesCommand : Command where
  parameters := ["ee_object", "out_dir", "vis_params", opt "dimensions" 500, opt "region",
    opt "format" "jpg", opt "names", opt "verbose" true,
      opt "timeout" 300, opt "proxies"]
  run a := do
    unless (a "ee_object").isKind .imageCollection do
      print "The ee_object must be an ee.ImageCollection."
      reject .type "The ee_object must be an ee.Image."
    unless (a "format").isText "png" || (a "format").isText "jpg" do
      reject .value "The output image format must be png or jpg."
    let folder ← (a "out_dir").pathOf
    ensureFolder folder
    try
      downloadPictures (a "ee_object") folder (a "vis_params") (a "dimensions") (a "region")
        (a "format").display (a "names") (a "verbose").truthy
    catch e => print e.message
    pure .null

end RemoteSensing.Export
