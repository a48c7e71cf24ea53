import RemoteSensing.Command

/-!
Shared files on a drive.
-/

namespace RemoteSensing.Catalog

open Session

def isTokenChar (c : Char) : Bool := c.isAlphanum || c == '-' || c == '_'

def tokenBehind (s mark : List Char) : Option (List Char) :=
  let token := (s.drop mark.length).takeWhile isTokenChar
  if mark.isPrefixOf s && !token.isEmpty then some token else none

def tokenAfter (marks : List (List Char)) : List Char → Option (List Char)
  | [] => none
  | c :: r =>
    match marks.findSome? (tokenBehind (c :: r)) with
    | some t => some t
    | none => tokenAfter marks r

def fileId? (address : String) : Option String :=
  if !Text.contains address "drive.google.com" then none
  else
    let cs := address.toList
    ((tokenAfter ["/file/d/".toList] cs).orElse fun _ =>
      tokenAfter ["?id=".toList, "&id=".toList] cs).map String.ofList

def downloadAddress (id : String) : String := "https://drive.google.com/uc?export=download&id=" ++ id

def fileIdOf (address : Data) : Except Fault (Option String) := do
  if !address.truthy then return none
  match address with
  | .str s => pure (fileId? s)
  | v =>
    if ← v.has "drive.google.com" then
      throw (.wrongType ("expected string or bytes-like object, got '" ++ v.typeName ++ "'"))
    pure none

def fileIdCommand : Command where
  parameters := ["drive_url"]
  run a := do
    match ← fileIdOf (a "drive_url") with
    | some id => pure (.str id)
    | none => pure .null

def convertAddress (address : Data) : Except Fault (Option String) := do
  pure ((← fileIdOf address).map downloadAddress)

def convertAddressCommand : Command where
  parameters := ["sharing_url"]
  run a := do
    match ← convertAddress (a "sharing_url") with
    | some u => pure (.str u)
    | none => pure .null

def isSharingAddress : Data → Bool
  | .str s => (fileId? s).isSome
  | _ => false

def validateAddressCommand : Command where
  parameters := ["url"]
  run a := pure (.bool (isSharingAddress (a "url")))

def linkId? (address : String) : Option String :=
  ["https://drive.google.com/file/d/", "https://drive.google.com/open?id=",
    "https://drive.google.com/uc?id="].findSome? fun form =>
      (tokenAfter [form.toList] address.toList).map String.ofList

def linkIdCommand : Command where
  parameters := ["url"]
  run a :=
    match a "url" with
    | .str s => pure (match linkId? s with | some id => .str id | none => .null)
    | v => throw (.wrongType ("expected string or bytes-like object, got '" ++ v.typeName ++ "'"))

def Reply.header (r : Reply) (name : String) : String :=
  ((r.headers.find? fun h => Text.lower h.1 == name).map (·.2)).getD ""

def complaint (e : Fault) : String :=
  let what := if e.ofWeb then "Error downloading from Google Drive: "
    else match e with
      | .badJson _ => "Error parsing JSON: "
      | _ => "Error loading GeoJSON from Google Drive: "
  what ++ e.message

def geometryOf (v : Data) : Session Data := do
  let type ← v.item "type"
  if type.isText "FeatureCollection" then
    let features ← v.getD "features" (.list [])
    if !features.truthy then reject .value "FeatureCollection is empty"
    if (← features.len) == 1 then
      let first ← features.nth 0
      submit (Kind.geometry.make [← first.item "geometry"])
    else
      let mut geometries : List Data := []
      for feature in ← features.elements do
        if ← feature.has "geometry" then
          let g ← feature.item "geometry"
          if g.truthy then
            geometries := geometries ++ [← submit (Kind.geometry.make [g])]
      if geometries.isEmpty then reject .value "No valid geometries found in features"
      submit (Kind.geometry.fn "MultiPolygon" [.list geometries] |>.call "dissolve")
  else if type.isText "Feature" then
    submit (Kind.geometry.make [← v.item "geometry"])
  else submit (Kind.geometry.make [v])

def toGeometry (v : Data) : Session Data := do
  try
    try connect
    catch _ =>
      print "Warning: Earth Engine not initialized"
      return .null
    geometryOf v
  catch e =>
    print ("Error converting GeoJSON to Earth Engine geometry: " ++ e.message)
    pure .null

def toGeometryCommand : Command where
  parameters := ["geojson_data"]
  run a := toGeometry (a "geojson_data")

end RemoteSensing.Catalog
