import RemoteSensing.Folder

/-!
Tile servers.
-/

namespace RemoteSensing.Tiles

structure Endpoint where
  planetary : Bool
  base : String
  name : String
  matrix : String

namespace Endpoint

def archive : Endpoint :=
  ⟨true, "https://planetarycomputer.microsoft.com/api/data/v1", "item", "WebMercatorQuad"⟩

def toValue (e : Endpoint) : Data := .endpoint e.planetary (.str e.base) (.str e.name) (.str e.matrix)

def item (e : Endpoint) (part : String) : String := e.base ++ "/" ++ e.name ++ "/" ++ part

def itemTiles (e : Endpoint) : String := e.item (e.matrix ++ "/tilejson.json")

def itemPoint (e : Endpoint) (lon lat : Data) : String :=
  e.item ("point/" ++ lon.display ++ "," ++ lat.display)

def collection (e : Endpoint) (part : String) : String := e.base ++ "/collection/" ++ part

def mosaic (e : Endpoint) (id : Data) (part : String) : String :=
  e.base ++ "/mosaic/" ++ id.display ++ "/" ++ part

def shared? (e : Endpoint) (method : String) (args : List Data) : Option String :=
  match method, args with
  | "url_for_stac_item", [] => some e.itemTiles
  | "url_for_stac_assets", [] => some (e.item "assets")
  | "url_for_stac_bounds", [] => some (e.item "bounds")
  | "url_for_stac_info", [] => some (e.item "info")
  | "url_for_stac_info_geojson", [] => some (e.item "info.geojson")
  | "url_for_stac_statistics", [] => some (e.item "statistics")
  | "url_for_stac_pixel_value", [lon, lat] => some (e.itemPoint lon lat)
  | "url_for_stac_wmts", [] => some (e.item (e.matrix ++ "/WMTSCapabilities.xml"))
  | _, _ => none

def archive? (e : Endpoint) (method : String) (args : List Data) : Option String :=
  match method, args with
  | "url_for_stac_collection", [] => some (e.collection (e.matrix ++ "/tilejson.json"))
  | "url_for_collection_assets", [] => some (e.collection "assets")
  | "url_for_collection_bounds", [] => some (e.collection "bounds")
  | "url_for_collection_info", [] => some (e.collection "info")
  | "url_for_collection_info_geojson", [] => some (e.collection "info.geojson")
  | "url_for_collection_pixel_value", [lon, lat] =>
    some (e.collection ("point/" ++ lon.display ++ "," ++ lat.display))
  | "url_for_collection_wmts", [] => some (e.collection (e.matrix ++ "/WMTSCapabilities.xml"))
  | "url_for_collection_lat_lon_assets", [lon, lat] =>
    some (e.collection (lon.display ++ "," ++ lat.display ++ "/assets"))
  | "url_for_collection_bbox_assets", [west, south, east, north] =>
    some (e.collection (Text.join "," ([west, south, east, north].map Value.display) ++ "/assets"))
  | "url_for_stac_mosaic", [id] => some (e.mosaic id (e.matrix ++ "/tilejson.json"))
  | "url_for_mosaic_info", [id] => some (e.mosaic id "info")
  | "url_for_mosaic_lat_lon_assets", [id, lon, lat] =>
    some (e.mosaic id (lon.display ++ "," ++ lat.display ++ "/assets"))
  | _, _ => none

def sharedMembers : List String :=
  ["endpoint", "name", "TileMatrixSetId"] ++
    ["item", "assets", "bounds", "info", "info_geojson", "statistics", "pixel_value", "wmts"].map ("url_for_stac_" ++ ·)

def archiveMembers : List String :=
  ["url_for_stac_collection", "url_for_stac_mosaic", "url_for_mosaic_info", "url_for_mosaic_lat_lon_assets"] ++
    ["assets", "bounds", "info", "info_geojson", "pixel_value", "wmts", "lat_lon_assets", "bbox_assets"].map
      ("url_for_collection_" ++ ·)

def call (e : Endpoint) (method : String) (args : List Data) : Except Fault String :=
  match (e.shared? method args).or (if e.planetary then e.archive? method args else none) with
  | some s => .ok s
  | none =>
    if sharedMembers.contains method || (e.planetary && archiveMembers.contains method) then
      .error (.wrongType (method ++ "() does not take these arguments"))
    else .error (.noMember e.toValue.typeName method)

def ofParts (planetary : Bool) (parts : List Data) : Except Fault Endpoint := do
  if parts.length > 3 then throw (.wrongType "a scheme has three parts")
  let usual : Endpoint := if planetary then archive
    else ⟨false, "https://titiler.xyz", "stac", "WebMercatorQuad"⟩
  let part (i : Nat) (default : String) : String := ((parts[i]?).map Value.display).getD default
  pure ⟨planetary, part 0 usual.base, part 1 usual.name, part 2 usual.matrix⟩

end Endpoint

inductive Server where
  | address (v : Data)
  | scheme (e : Endpoint)

def Server.again : Server → Server
  | .address v => if v.isText "planetary-computer" || v.isText "pc" then .scheme Endpoint.archive else .address v
  | .scheme e => .scheme e

def serverOf (v : Data) : Session Server := do
  match v with
  | .null =>
    match ← Session.setting "TITILER_ENDPOINT" with
    | some s => pure (if s == "planetary-computer" then .scheme Endpoint.archive else .address (.str s))
    | none => pure (.address "https://titiler.xyz")
  | v => pure (Server.address v).again

namespace Server

def toValue : Server → Data
  | .address v => v
  | .scheme e => e.toValue

def display : Server → String
  | .address v => v.display
  | .scheme e => "<" ++ e.toValue.typeName ++ ">"

def itemAddress (s : Server) (below : String) (byScheme : Endpoint → String) (member : String) :
    Except Fault String :=
  match s with
  | .address (.str a) => .ok (a ++ "/stac/" ++ below)
  | .address v => .error (.noMember v.typeName member)
  | .scheme e => .ok (byScheme e)

end Server

def serverCommand : Command where
  parameters := [opt "titiler_endpoint"]
  run a := do pure (← serverOf (a "titiler_endpoint")).toValue

/-!
Rasters on a tile server.
-/

open Session Value

def rasterReply (server : Server) (part : String) (url : Data) : Session Data :=
  fetchJson (server.display ++ "/cog/" ++ part) (some (.record [("url", url)]))

def rasterBands (url : Data) (server : Server) : Session (List Data) := do
  let url ← Address.final url
  let r ← rasterReply server "info" url
  (← (← r.item "band_descriptions").elements).mapM fun b => (b.nth 0 : Except Fault Data)

def rasterStats (url : Data) (server : Server) : Session Data := do
  rasterReply server "statistics" (← Address.final url)

def rasterBounds (url : Data) (server : Server) : Session Data := do
  let r ← rasterReply server "bounds" (← Address.final url)
  if (← r.keys).contains "bounds" then r.item "bounds" else pure .null

def middleOf (bounds : Data) : Except Fault Data := do
  let x ← (← (← bounds.nth 0).add (← bounds.nth 2)).div 2
  let y ← (← (← bounds.nth 1).add (← bounds.nth 3)).div 2
  pure (.tuple [x, y])

def stretchOf (stats : Data) (inside : Data → Except Fault Data := .ok) : Except Fault String := do
  let percentiles (name : String) : Except Fault (List Data) := do
    (← stats.elements).mapM fun k => do (← inside (← stats.subscript k)).item name
  let low ← minimum (← percentiles "percentile_2")
  let high ← maximum (← percentiles "percentile_98")
  pure (low.display ++ "," ++ high.display)

def moveKey (old new : String) (fields : Fields) : Fields :=
  match lookup old fields with
  | some v => insert new v (erase old fields)
  | none => fields

def bandNumbers (bands : Data) (names : List Data) : Except Fault Data := do
  let xs ← bands.elements
  if xs.all isInt then pure bands
  else if xs.all isStr then
    let numbers ← xs.mapM fun x =>
      match names.findIdx? fun n => n.same x with
      | some i => .ok (.int (i + 1))
      | none => .error (.wrongValue (x.literal ++ " is not in list"))
    pure (.list numbers)
  else throw (.rejected .value "Bands must be a list of integers or strings.")

def takeMatrix (fields : Fields) : String × Fields :=
  match lookup "TileMatrixSetId" fields with
  | some v => (v.display, erase "TileMatrixSetId" fields)
  | none => ("WebMercatorQuad", fields)

def rasterTiles (url bands endpoint : Data) (more : Fields) : Session Data := do
  let server ← serverOf endpoint
  let url ← Address.final url
  let fields := insert "url" url more
  let names ← rasterBands url server.again
  let chosen := (lookup "bidx" fields).isSome
  let fields ←
    if chosen then pure fields
    else if bands.isNull then
      pure (if 3 ≤ names.length then insert "bidx" (.list [1, 2, 3]) fields else fields)
    else pure (insert "bidx" (← bandNumbers bands names) fields)
  let fields := moveKey "colormap" "colormap_name" (moveKey "palette" "colormap_name" fields)
  let fields ←
    if (lookup "rescale" fields).isSome then pure fields
    else do
      let stretch ← stretchOf (← rasterStats url server.again)
      pure (insert "rescale" (.str stretch) fields)
  let (matrix, fields) := takeMatrix fields
  let r ← fetchJson (server.display ++ "/cog/" ++ matrix ++ "/tilejson.json") (some (.record fields))
  (← r.item "tiles").nth 0

def rasterTilesCommand : Command where
  parameters := ["url", opt "bands", opt "titiler_endpoint", opt "timeout" 300, opt "proxies"]
  open_ := true
  run a := rasterTiles (a "url") (a "bands") (a "titiler_endpoint") a.rest

def rasterBandsCommand : Command where
  parameters := ["url", opt "titiler_endpoint", opt "timeout" 300]
  run a := do pure (.list (← rasterBands (a "url") (← serverOf (a "titiler_endpoint"))))

def rasterBoundsCommand : Command where
  parameters := ["url", opt "titiler_endpoint", opt "timeout" 300]
  run a := do rasterBounds (a "url") (← serverOf (a "titiler_endpoint"))

def rasterCentreCommand : Command where
  parameters := ["url", opt "titiler_endpoint"]
  run a := do
    let server ← serverOf (a "titiler_endpoint")
    let url ← Address.final (a "url")
    middleOf (← rasterBounds url server.again)

def rasterStatsCommand : Command where
  parameters := ["url", opt "titiler_endpoint", opt "timeout" 300]
  run a := do rasterStats (a "url") (← serverOf (a "titiler_endpoint"))

def rasterInfoCommand : Command where
  parameters := ["url", opt "titiler_endpoint", opt "return_geojson" false, opt "timeout" 300]
  run a := do
    let server ← serverOf (a "titiler_endpoint")
    let url ← Address.final (a "url")
    rasterReply server (if (a "return_geojson").truthy then "info.geojson" else "info") url

def rasterValuesCommand : Command where
  parameters := ["lon", "lat", "url", opt "bidx", opt "titiler_endpoint", opt "timeout" 300]
  open_ := true
  run a := do
    let server := (← serverOf (a "titiler_endpoint")).again
    let url ← Address.final (a "url")
    let fields := insert "url" url a.rest
    let fields := if (a "bidx").isNull then fields else insert "bidx" (a "bidx") fields
    let r ← fetchJson
      (server.display ++ "/cog/point/" ++ (a "lon").display ++ "," ++ (a "lat").display)
      (some (.record fields))
    let bands ← rasterBands url server
    if ← r.has "detail" then
      print (← r.item "detail").display
      pure .null
    else pure (.record (← pairUp bands (← (← r.item "values").elements)))

def mosaic (links : Data) (server : Server) (user layer : Data) (verbose : Bool) : Session Data := do
  let layer ← if layer.isNull then do pure (.str ("layer_" ++ (← freshName 5))) else pure layer
  try
    if verbose then print "Creating COG masaic ..."
    let post (part : String) (params : Option Data) (json : Data) : Session Data := do
      readReply (← request "POST" (server.display ++ part) params (some json))
    let r ← post "/tokens/create" none
      (.record [("username", user), ("scope", strs ["mosaic:read", "mosaic:create"])])
    let token ← r.item "token"
    let _ ← post "/mosaicjson/create" (some (.record [("access_token", token)]))
      (.record [("username", user), ("layername", layer), ("files", links)])
    let r ← fetchJson
      (server.display ++ "/mosaicjson/" ++ user.display ++ "." ++ layer.display ++ "/tilejson.json")
    (← r.item "tiles").nth 0
  catch e => throw (e.restated .general)

def mosaicCommand : Command where
  parameters := ["links", opt "titiler_endpoint", opt "username" "anonymous", opt "layername", opt "overwrite" false,
      opt "verbose" true, opt "timeout" 300]
  open_ := true
  run a := do
    let server ← serverOf (a "titiler_endpoint")
    mosaic (a "links") server (a "username") (a "layername") (a "verbose").truthy

def mosaicOfFileCommand : Command where
  parameters := ["filepath", opt "skip_rows" 0, opt "titiler_endpoint", opt "username" "anonymous", opt "layername",
      opt "overwrite" false, opt "verbose" true]
  open_ := true
  run a := do
    let server ← serverOf (a "titiler_endpoint")
    let path ← (a "filepath").strOf "startswith"
    let text ←
      if Text.startsWith path "http" then openPage path else readText path
    let links : Data := .list ((Chars.lines text.toList).map fun l => .str (String.ofList (Chars.trim l)))
    let count ← links.len
    let links ← match a "skip_rows" with
      | .int n => links.slice n count
      | .null => pure links
      | .bool b => links.slice (if b then 1 else 0) count
      | _ => throw (.wrongType "slice indices must be integers or None or have an __index__ method")
    if (lookup "links" a.rest).isSome then throw (.wrongType "got multiple values for argument 'links'")
    mosaic links server.again (a "username") (a "layername") (a "verbose").truthy

def isTransparent (pixels : Data) : Bool :=
  let opacities := (leaves 2 pixels).filterMap fun p => match p with
    | .list [_, _, _, .int alpha] => some alpha
    | _ => none
  opacities.any (· < 255)

def isTransparentCommand : Command where
  parameters := ["img"]
  run a := pure (.bool (isTransparent (a "img")))

/-!
Items of a catalogue of imagery on a tile server.
-/

structure ItemRequest where
  endpoint : Data
  url : Data
  fields : Fields

def itemRequest (a : Arguments) : Session ItemRequest := do
  let url := a "url"
  let collection := a "collection"
  let item := a "item"
  if url.isNull && collection.isNull then
    reject .value "Either url or collection must be specified."
  let endpoint := if !collection.isNull && (a "titiler_endpoint").isNull then .str "planetary-computer"
    else a "titiler_endpoint"
  let url ← if url.isNull then pure url else Address.final url
  let put (key : String) (v : Data) (fields : Fields) : Fields :=
    if v.isNull then fields else insert key v fields
  pure ⟨endpoint, url, put "item" item (put "collection" collection (put "url" url a.rest))⟩

def itemReply (endpoint : Data) (part : String) (fields : Fields) : Session Data := do
  let server ← serverOf endpoint
  let address ← server.itemAddress part (·.item part) ("url_for_stac_" ++ part)
  fetchJson address (some (.record fields))

def itemParameters : List Parameter := [opt "url", opt "collection", opt "item"]

def serverParameters : List Parameter := [opt "titiler_endpoint", opt "timeout" 300]

def itemBounds (a : Arguments) : Session Data := do
  let r ← itemRequest a
  (← itemReply r.endpoint "bounds" r.fields).item "bounds"

def itemBoundsCommand : Command where
  parameters := itemParameters ++ serverParameters
  open_ := true
  run a := itemBounds a

def itemCentreCommand : Command where
  parameters := itemParameters ++ [opt "titiler_endpoint"]
  open_ := true
  run a := do
    if (a "url").isNull && (a "collection").isNull then
      reject .value "Either url or collection must be specified."
    let url ← if (a "url").isStr then Address.final (a "url") else pure (a "url")
    middleOf (← itemBounds
      { a with values := insert "url" url a.values, rest := erase "timeout" a.rest })

def itemAssets (a : Arguments) : Session Data := do
  let r ← itemRequest a
  itemReply r.endpoint "assets" r.fields

def itemAssetsCommand : Command where
  parameters := itemParameters ++ serverParameters
  open_ := true
  run a := itemAssets a

def assetReply (part : String) (a : Arguments) : Session Data := do
  let r ← itemRequest a
  let fields := if (a "assets").isNull then r.fields else insert "assets" (a "assets") r.fields
  itemReply r.endpoint part fields

def assetCommand (part : String) : Command where
  parameters := itemParameters ++ [opt "assets"] ++ serverParameters
  open_ := true
  run a := assetReply part a

def distinctValues (xs : List Data) : List Data :=
  xs.foldl (fun acc x => if x.memberOf acc then acc else acc ++ [x]) []

def single (v : Data) : Except Fault Data := do
  match v with
  | .list xs =>
    checkKeys xs
    match distinctValues xs with
    | [x] => pure x
    | _ => pure v
  | v => pure v

def commaList (v : Data) : Data :=
  match v with
  | .str s => strs (Text.split s ",")
  | v => v

def assetStretch (stats : Data) : Except Fault String := do
  match stretchOf stats with
  | .ok s => pure s
  | .error _ =>
    stretchOf stats fun p => do
      match ← p.keys with
      | k :: _ => p.item k
      | [] => throw (.outOfRange "list")

def itemTiles (a : Arguments) : Session Data := do
  let r ← itemRequest a
  let has (fields : Fields) (k : String) : Bool := (lookup k fields).isSome
  let fields := moveKey "palette" "colormap_name" r.fields
  let bands ← single (a "bands")
  let assets ← single (a "assets")
  let server ← serverOf r.endpoint
  let fields := if has fields "expression" && !has fields "asset_as_band" then
    insert "asset_as_band" (.bool true) fields else fields
  let bands := commaList bands
  let assets := commaList assets
  let byBands := assets.isNull && !bands.isNull
  let assets := if byBands then bands else assets
  let bandKey := match server with
    | .scheme _ => "bidx"
    | .address _ => "asset_bidx"
  let fields := if byBands then fields else insert bandKey bands fields
  let fields := insert "assets" assets fields
  let fields ← match server with
    | .scheme _ =>
      if !assets.isNull && !has fields "asset_expression" && !has fields "expression" &&
          !has fields "rescale" then do
        let request : Arguments := ⟨[("collection", a "collection"), ("item", a "item"), ("assets", assets),
          ("titiler_endpoint", "planetary-computer")], []⟩
        let stats ← assetReply "statistics" request
        if ← stats.has "detail" then
          print (← stats.item "detail").display
          pure fields
        else
          let stretch ← assetStretch stats
          pure (insert "rescale" (.str stretch) fields)
      else pure fields
    | .address _ => pure fields
  let (matrix, fields) := takeMatrix fields
  let address ← (server.itemAddress (matrix ++ "/tilejson.json") (·.itemTiles) "url_for_stac_item" :
    Except Fault String)
  let reply ← fetchJson address (some (.record fields))
  (← reply.item "tiles").nth 0

def itemTilesCommand : Command where
  parameters := itemParameters ++ [opt "assets", opt "bands"] ++ serverParameters
  open_ := true
  run a := itemTiles a

def itemValues (a : Arguments) : Session Data := do
  let r ← itemRequest a
  let assets ←
    if (a "assets").isNull then do
      let request : Arguments := ⟨[("url", r.url), ("collection", a "collection"), ("item", a "item"),
        ("titiler_endpoint", r.endpoint)], []⟩
      pure (.str (← joined "," (← itemAssets request)))
    else pure (a "assets")
  let fields := insert "assets" assets r.fields
  let server ← serverOf r.endpoint
  let lon := a "lon"
  let lat := a "lat"
  let address ← (server.itemAddress (lon.display ++ "," ++ lat.display) (·.itemPoint lon lat)
    "url_for_stac_pixel_value" : Except Fault String)
  let reply ← fetchJson address (some (.record fields))
  if ← reply.has "detail" then
    if (a "verbose").truthy then print (← reply.item "detail").display
    pure .null
  else
    let values ← (← (← reply.item "values").elements).mapM fun v => (v.nth 0 : Except Fault Data)
    let names := (Text.split (← assets.strOf "split") ",").map str
    pure (.record (← pairUp names values))

def itemValuesCommand : Command where
  parameters := (["lon", "lat"] : List Parameter) ++ itemParameters ++ [opt "assets", opt "titiler_endpoint"] ++
    [opt "verbose" true, opt "timeout" 300]
  open_ := true
  run a := itemValues a

end RemoteSensing.Tiles
