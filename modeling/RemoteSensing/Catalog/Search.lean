import RemoteSensing.Command
import RemoteSensing.Text.Pattern.Reader

/-!
Searching the list of well-known datasets.
-/

namespace RemoteSensing.Catalog

open Session Value

structure Dataset where
  id : String
  title : String
  description : String
  provider : String
  tags : List String
deriving DecidableEq, Repr

def landsat (code number : String) : Dataset :=
  ⟨"LANDSAT/" ++ code ++ "/C02/T1_L2", "Landsat " ++ number ++ " Collection 2 Tier 1 Level-2",
    "Atmospherically corrected surface reflectance", "USGS", ["landsat", "surface reflectance", "optical"]⟩

def themes : List (String × List Dataset) :=
  [("landsat",
      [landsat "LC08" "8", landsat "LE07" "7"]),
    ("sentinel",
      [⟨"COPERNICUS/S2_SR_HARMONIZED", "Sentinel-2 MSI: MultiSpectral Instrument, Level-2A",
          "Bottom-of-atmosphere reflectance", "European Space Agency",
          ["sentinel", "surface reflectance", "optical"]⟩,
        ⟨"COPERNICUS/S1_GRD", "Sentinel-1 SAR GRD: C-band Synthetic Aperture Radar",
          "Ground Range Detected SAR imagery", "European Space Agency", ["sentinel", "radar", "sar"]⟩]),
    ("modis",
      [⟨"MODIS/061/MOD13Q1", "MOD13Q1.061 Terra Vegetation Indices 16-Day Global 250m",
          "NDVI and EVI vegetation indices", "NASA", ["modis", "vegetation", "ndvi", "evi"]⟩,
        ⟨"MODIS/061/MCD12Q1", "MCD12Q1.061 MODIS Land Cover Type Yearly Global 500m",
          "Annual land cover classification", "NASA", ["modis", "land cover", "classification"]⟩]),
    ("climate",
      [⟨"ECMWF/ERA5_LAND/HOURLY", "ERA5-Land Hourly - ECMWF climate reanalysis",
          "Land surface reanalysis data", "ECMWF", ["climate", "temperature", "precipitation", "era5"]⟩,
        ⟨"UCSB-CHG/CHIRPS/DAILY", "CHIRPS Daily: Climate Hazards Group InfraRed Precipitation",
          "Daily precipitation estimates", "UCSB", ["precipitation", "climate", "chirps"]⟩]),
    ("elevation",
      [⟨"USGS/SRTMGL1_003", "NASA SRTM Digital Elevation 30m",
          "30-meter resolution digital elevation model", "NASA/USGS",
          ["elevation", "dem", "srtm", "topography"]⟩,
        ⟨"NASA/NASADEM_HGT/001", "NASADEM: NASA NASADEM Digital Elevation 30m",
          "Improved SRTM-based digital elevation model", "NASA",
          ["elevation", "dem", "nasadem", "topography"]⟩]),
    ("population",
      [⟨"WorldPop/GP/100m/pop", "WorldPop Global Project Population Data",
          "Population counts and densities", "WorldPop",
          ["population", "demographics", "worldpop"]⟩])]

def themeMatches (search theme : String) : Bool :=
  Text.contains theme search || (Text.words search).contains theme

def Dataset.found (search : String) (d : Dataset) : Bool :=
  Text.contains (Text.lower d.title) search || Text.contains (Text.lower d.description) search ||
    (Text.words search).any d.tags.contains

def hits (search : String) : List Dataset :=
  themes.flatMap fun t =>
    if themeMatches search t.1 then t.2 else t.2.filter (Dataset.found search)

def distinct {ε : Type} (full : Nat → Except ε Bool) :
    List Dataset → List Dataset → Except ε (List Dataset)
  | kept, [] => .ok kept
  | kept, d :: r =>
    if kept.any fun k => k.id == d.id then distinct full kept r
    else do
      let kept := kept ++ [d]
      if ← full kept.length then pure kept else distinct full kept r

def search (terms : String) (limit : Data) : Except Fault (List Dataset) :=
  distinct (fun n => (Value.int n : Data).ge limit) [] (hits (Text.lower terms))

def Dataset.toValue (d : Dataset) : Data :=
  .record [("id", d.id), ("title", d.title), ("description", d.description), ("provider", d.provider),
    ("tags", Value.strs d.tags)]

def searchOnline (terms limit : Data) : Session (List Dataset) := do
  try
    try connect
    catch _ =>
      print "Warning: Earth Engine not initialized"
      return []
    let text ← terms.strOf "lower"
    search text limit
  catch e =>
    print ("Error searching Earth Engine catalog: " ++ e.message)
    pure []

def searchCommand : Command where
  parameters := ["keywords", opt "max_results" 20]
  run a := do
    let found ← searchOnline (a "keywords") (a "max_results")
    pure (.list (found.map Dataset.toValue))

def uses : List (String × List String) :=
  [("imagery",
      ["LANDSAT/LC08/C02/T1_L2", "LANDSAT/LE07/C02/T1_L2", "COPERNICUS/S2_SR_HARMONIZED",
        "COPERNICUS/S1_GRD", "MODIS/061/MOD09A1", "MODIS/061/MYD09A1"]),
    ("climate",
      ["ECMWF/ERA5_LAND/HOURLY", "UCSB-CHG/CHIRPS/DAILY", "NASA/GLDAS/V021/NOAH/G025/T3H",
        "MODIS/061/MOD11A1"]),
    ("elevation", ["USGS/SRTMGL1_003", "NASA/NASADEM_HGT/001", "JAXA/ALOS/AW3D30/V3_2"]),
    ("vegetation", ["MODIS/061/MOD13Q1", "MODIS/061/MYD13Q1", "COPERNICUS/S2_SR_HARMONIZED"]),
    ("land_cover",
      ["MODIS/061/MCD12Q1", "ESA/WorldCover/v100", "COPERNICUS/Landcover/100m/Proba-V-C3/Global"])]

def listing (use : Data) : Except Fault (List String) := do
  if use.truthy then
    use.checkKey
    match use with
    | .str s => pure ((Value.lookup s uses).getD [])
    | _ => pure []
  else pure (((uses.flatMap (·.2)).eraseDups).mergeSort fun a b => decide (a ≤ b))

def listingCommand : Command where
  parameters := [opt "category"]
  run a := return Value.strs (← listing (a "category"))

def openDataset (id : Data) : Session (Data × Kind) := do
  if ← (["ImageCollection", "LANDSAT", "MODIS", "COPERNICUS"].anyM id.has : Except Fault Bool) then
    pure (← submit (Kind.imageCollection.make [id]), .imageCollection)
  else if ← id.has "FeatureCollection" then
    pure (← submit (Kind.featureCollection.make [id]), .featureCollection)
  else
    try pure (← submit (Kind.image.make [id]), .image)
    catch _ => pure (← submit (Kind.imageCollection.make [id]), .imageCollection)

def describe (dataset : Data) (kind : Kind) (known : Fields) :
    Session Fields := do
  if kind == .featureCollection then return known
  let image := if kind == .imageCollection then Kind.image.make [dataset.call "first"] else dataset
  let image ← submit image
  let bands ← info (image.call "bandNames")
  let known := Value.insert "bands" bands known
  try
    let properties ← info (image.call "propertyNames")
    pure (Value.insert "properties" properties known)
  catch e =>
    print ("Could not retrieve detailed metadata: " ++ e.message)
    pure known

def datasetInfo (id : Data) : Session Data := do
  try
    let (dataset, kind) ← openDataset id
    let known : Fields := [("id", id), ("type", kind.name)]
    let known ←
      try describe dataset kind known
      catch e =>
        print ("Could not retrieve detailed metadata: " ++ e.message)
        pure known
    pure (.record known)
  catch e =>
    print ("Error getting dataset info for " ++ id.display ++ ": " ++ e.message)
    pure .null

def datasetInfoCommand : Command where
  parameters := ["dataset_id"]
  run a := datasetInfo (a "dataset_id")

/-!
Searching the published catalogues.
-/

def officialCatalogue : String :=
  "https://raw.githubusercontent.com/samapriya/Earth-Engine-Datasets-List/master/gee_catalog.json"

def communityCatalogue : String :=
  "https://raw.githubusercontent.com/samapriya/awesome-gee-community-datasets/master/community_datasets.json"

def catalogues (source : Data) : Except Fault (List String) :=
  match source with
  | .str "ee" => .ok [officialCatalogue]
  | .str "community" => .ok [communityCatalogue]
  | .str "all" => .ok [officialCatalogue, communityCatalogue]
  | v => do
    v.checkKey
    throw (.missingName v.literal)

def fieldMatches (keyword field : Data) : Except Fault Bool :=
  match keyword with
  | .str k =>
    match Text.Pattern.read k with
    | .error m => .error (.badPattern m)
    | .ok p =>
      match field with
      | .str f => .ok (p.matchesStart f)
      | f => .error (.wrongType ("expected string or bytes-like object, got '" ++ f.typeName ++ "'"))
  | k => do
    k.checkKey
    throw (.wrongType "first argument must be string or compiled pattern")

def anyField (test : Data → Except Fault Bool) (entry : Data) : List Data → Except Fault Bool
  | [] => .ok false
  | key :: r => do
    if ← test (← entry.subscript key) then pure true else anyField test entry r

structure Query where
  isPattern : Bool
  source : Data
  types : Data
  keys : Data

def Query.find (q : Query) (keyword : Data) : Session (List Data) := do
  let test := if q.isPattern then fieldMatches keyword else fun field => field.holds keyword
  let mut found : List Data := []
  for link in ← catalogues q.source do
    let entries ← (← fetchJson link).elements
    for entry in entries do
      let keys ← q.keys.elements
      if (← anyField test entry keys) && entry.truthy then found := found ++ [entry]
  if q.types.truthy then
    found.filterM fun entry => do (q.types.holds (← entry.item "type") : Except Fault Bool)
  else pure found

def inEvery : List (List String) → Except Fault (List String)
  | [] => .error (.wrongType "reduce() of empty iterable with no initial value")
  | first :: others =>
    let common := first.eraseDups.filter fun s => others.all fun o => o.contains s
    .ok (common.mergeSort fun a b => decide (a ≤ b))

def listedId (xs : List Data) : Fault :=
  if 2 ≤ (xs.filter fun x => x.isText "'").length then .noMember "list" "replace"
  else .wrongValue "\"'\" is not in list"

def entryId (v : Data) : Except Fault String := do
  if ← v.has "ee." then
    if let .list xs := v then throw (listedId xs)
    let cs := (← v.strOf "index").toList
    match Chars.find? ['\''] cs with
    | none => throw (.wrongValue "substring not found")
    | some start =>
      match Chars.find? ['\''] (cs.drop (start + 1)) with
      | none => throw (.wrongValue "substring not found")
      | some length => pure (String.ofList ((cs.drop (start + 1)).take length))
  else v.strOf "replace"

def complete (entry : Data) : Except Fault Data := do
  let start ← entry.getD "start_date" "Unknown"
  let stop ← entry.getD "end_date" "Unknown"
  let dates ← (← start.add " - ").add stop
  let id ← entryId (← entry.item "id")
  let entry ← entry.setItem "dates" dates
  let entry ← entry.setItem "id" (.str id)
  entry.setItem "uid" (.str (Text.replace id "/" "_"))

def keywordsOf (v : Data) : Except Fault (List Data) :=
  match v with
  | .str s => .ok ((Text.split s " ").map .str)
  | v => v.elements

def Query.search (q : Query) (keywords : Data) : Session (List Data) := do
  let mut texts : List (List String) := []
  for keyword in ← keywordsOf keywords do
    let found ← q.find keyword
    texts := texts ++ [← found.mapM fun entry => (Json.line entry : Except Fault String)]
  let common ← inEvery texts
  common.mapM fun s =>
    match Json.read s with
    | .ok entry => (complete entry : Except Fault Data)
    | .error m => throw (.badJson m)

def searchCatalogues (q : Query) (keywords : Data) : Session Data := do
  try pure (.list (← q.search keywords))
  catch e =>
    print e.message
    pure .null

def searchCataloguesCommand : Command where
  parameters := ["keywords", opt "regex" false, opt "source" "ee", opt "types",
      opt "keys" (strs ["id", "provider", "tags", "title"])]
  run a :=
    searchCatalogues ⟨(a "regex").truthy, a "source", a "types", a "keys"⟩ (a "keywords")

def officialIds : Session Data := do
  try
    let text ← openPage officialCatalogue
    match Json.read text with
    | .ok v => pure (.list (← (← v.elements).mapM fun entry => (entry.item "id" : Except Fault Data)))
    | .error m => throw (.badJson m)
  catch e => throw (e.restated .general)

def extraIds : List String :=
  ["countries", "us_states", "us_cities", "chn_admin_line", "chn_admin_level0", "chn_admin_level1",
    "chn_admin_level2"].map ("users/giswqs/public/" ++ ·)

def communityIds : Session Data := do
  let q : Query := ⟨true, "community", .null, strs ["id", "provider", "tags", "title"]⟩
  let found ← searchCatalogues q ".*"
  pure (.list (← (← found.elements).mapM fun entry => (entry.get "id" : Except Fault Data)))

def pathRecord (id : String) : List String → Data
  | [] => .str id
  | part :: r => .record [(part, pathRecord id r)]

def putPath (tree : Fields) (id : String) : Fields :=
  let path := match pathRecord id (Text.split id "/") with
    | .record fs => fs
    | _ => []
  insert (Text.replace id "/" "_") (.str id) (insertAll tree path)

def pathTree (ids : List String) : Fields := ids.foldl putPath []

def allPaths : Session Data := do
  let official ← officialIds
  let community ← communityIds
  let all ← (← official.add (strs extraIds)).add community
  let ids ← (← all.elements).mapM fun v => (v.strOf "split" : Except Fault String)
  pure (.record (pathTree ids))

def officialIdsCommand : Command where
  parameters := []
  run _ := officialIds

def extraIdsCommand : Command where
  parameters := []
  run _ := pure (strs extraIds)

def communityIdsCommand : Command where
  parameters := []
  run _ := communityIds

def allPathsCommand : Command where
  parameters := []
  run _ := allPaths

def mergeCommand : Command where
  parameters := ["dict1", "dict2"]
  run a := do
    let fields (v : Data) : Session Fields := match v.fields? with
      | some fs => pure fs
      | none => throw (.wrongType ("'" ++ v.typeName ++ "' object is not a mapping"))
    pure (.record (insertAll (← fields (a "dict1")) (← fields (a "dict2"))))

def nameTree (name : String) : List String :=
  let parts := Text.split name "."
  let first := if parts.head? == some "ee" then 2 else 1
  (List.range (parts.length + 1 - first)).map fun n => Text.join "." (parts.take (n + first))

def nameTreeCommand : Command where
  parameters := ["name"]
  run a :=
    match a "name" with
    | .str s => pure (strs (nameTree s))
    | v => do
      print (Fault.noMember v.typeName "split").message
      print "The provided function name is invalid."
      pure .null

def pageLink (address label : String) : String :=
  "                        <p style=\"margin-left: 40px\"><a href=\"" ++ address ++
    "\" target=\"_blank\">" ++ label ++ "</a></p>\n"

def openingText (type id : Data) : String :=
  if type.isText "image" then "ee.Image('" ++ id.display ++ "')"
  else if type.isText "image_collection" then "ee.ImageCollection('" ++ id.display ++ "')"
  else if type.isText "table" then "ee.FeatureCollection('" ++ id.display ++ "')"
  else id.display

def pageIndent : String := "                    "

def datasetPage (asset : Data) : Except Fault String := do
  let title ← asset.getD "title" "Unknown"
  let dates ← asset.getD "dates" "Unknown"
  let id ← asset.getD "id" "Unknown"
  let uid ← asset.get "uid"
  let address ← asset.getD "asset_url" ""
  let code ← asset.get "sample_code"
  let thumbnail ← asset.get "thumbnail_url"
  let type ← asset.getD "type" "Unknown"
  let example_ :=
    if !code.truthy && uid.truthy then
      "https://code.earthengine.google.com/?scriptPath=Examples%3ADatasets%2F" ++ uid.display
    else code.display
  let url ← address.strOf "replace"
  let part (name : String) : String := Text.replace url "terms-of-use" name
  let catalogue := if url.isEmpty then "" else
    "\n" ++ pageIndent ++ "<h4>Data Catalog</h4>\n" ++ pageLink (part "description") "Description" ++
      pageLink (part "bands") "Bands" ++ pageLink (part "image-properties") "Properties" ++
      pageLink example_ "Example" ++ pageIndent
  let picture := if !thumbnail.truthy then "" else
    "\n" ++ pageIndent ++ "<h4>Dataset Thumbnail</h4>\n" ++ pageIndent ++ "<img src=\"" ++
      thumbnail.display ++ "\">\n" ++ pageIndent
  let provider ← asset.getD "provider" "Provider unknown"
  let tags ← asset.getD "tags" "Tags unknown"
  let note (s : String) : String := "                        <p style=\"margin-left: 40px\">" ++ s ++ "</p>\n"
  let community := if !code.truthy then "" else
    "\n" ++ pageIndent ++ "<h4>Community Catalog</h4>\n" ++ note provider.display ++ note tags.display ++
      pageLink example_ "Example" ++ pageIndent
  pure ("\n            <html>\n            <body>\n                <h3>" ++ title.display ++ "</h3>\n" ++
    "                <h4>Dataset Availability</h4>\n" ++
    "                    <p style=\"margin-left: 40px\">" ++ dates.display ++ "</p>\n" ++
    "                <h4>Earth Engine Snippet</h4>\n" ++
    "                    <p style=\"margin-left: 40px\">" ++ openingText type id ++ "</p>\n" ++
    "                " ++ catalogue ++ "\n                " ++ community ++ "\n                " ++ picture ++
    "\n            </body>\n            </html>\n        ")

def datasetPageCommand : Command where
  parameters := ["asset"]
  run a :=
    match datasetPage (a "asset") with
    | .ok s => pure (.str s)
    | .error e => do
      print e.message
      pure .null

end RemoteSensing.Catalog
