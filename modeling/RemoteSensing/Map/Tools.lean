import RemoteSensing.Map.View

/-!
Basemaps.
-/

namespace RemoteSensing.MapView

open Session MapSession

structure Basemap where
  url : String
  attribution : String
  name : String
  maxZoom : Int := 18

def greyTiles : String :=
  "https://\x7bs\x7d.basemaps.cartocdn.com/\x7bvariant\x7d/\x7bz\x7d/\x7bx\x7d/\x7by\x7d\x7br\x7d.png"

def serviceTiles : String :=
  "https://server.arcgisonline.com/ArcGIS/rest/services/\x7bvariant\x7d/MapServer/tile/\x7bz\x7d/\x7by\x7d/\x7bx\x7d"

def commercialTiles (letter : String) : String :=
  "https://mt1.google.com/vt/lyrs=" ++ letter ++ "&x=\x7bx\x7d&y=\x7by\x7d&z=\x7bz\x7d"

def basemaps : List (String × Basemap) :=
  [("OpenStreetMap",
      ⟨"https://\x7bs\x7d.tile.openstreetmap.org/\x7bz\x7d/\x7bx\x7d/\x7by\x7d.png",
        "(C) OpenStreetMap contributors", "OpenStreetMap.Mapnik", 19⟩),
    ("CartoDB.Positron",
      ⟨greyTiles, "(C) OpenStreetMap contributors (C) CARTO", "CartoDB.Positron", 20⟩),
    ("CartoDB.DarkMatter",
      ⟨greyTiles, "(C) OpenStreetMap contributors (C) CARTO", "CartoDB.DarkMatter", 20⟩),
    ("Esri.WorldImagery",
      ⟨serviceTiles,
        "Tiles (C) Esri -- Source: Esri, i-cubed, USDA, USGS, AEX, GeoEye, Getmapping, Aerogrid, IGN, IGP, " ++
          "UPR-EGP, and the GIS User Community",
        "Esri.WorldImagery", 18⟩),
    ("Esri.WorldTopoMap",
      ⟨serviceTiles,
        "Tiles (C) Esri -- Esri, DeLorme, NAVTEQ, TomTom, Intermap, iPC, USGS, FAO, NPS, NRCAN, GeoBase, " ++
          "Kadaster NL, Ordnance Survey, Esri Japan, METI, Esri China (Hong Kong), and the GIS User Community",
        "Esri.WorldTopoMap", 18⟩),
    ("Stamen.Terrain",
      ⟨"https://stamen-tiles-\x7bs\x7d.a.ssl.fastly.net/\x7bvariant\x7d/\x7bz\x7d/\x7bx\x7d/\x7by\x7d\x7br\x7d.\x7bext\x7d",
        "Map tiles by Stamen Design, CC BY 3.0 -- Map data (C) OpenStreetMap contributors",
        "Stamen.Terrain", 18⟩),
    ("Google.Satellite", ⟨commercialTiles "s", "Google", "Google Satellite", 20⟩),
    ("Google.Hybrid", ⟨commercialTiles "y", "Google", "Google Hybrid", 20⟩)]

def basemap? (name : Data) : Option Basemap :=
  match name with
  | .str s => Value.lookup s basemaps
  | _ => none

def addBasemap (name : Data) : MapSession Unit := do
  name.checkKey
  match basemap? name with
  | some b =>
    let _ ← MapSession.addLayer b.url b.attribution b.name 1.0 b.maxZoom
  | none =>
    Session.print ("Basemap '" ++ name.display ++ "' not found. Available options: " ++
      (Value.strs (basemaps.map (·.1)) : Data).literal)

def basemapTool : MapTool where
  parameters := [opt "name" "OpenStreetMap"]
  run a := do
    addBasemap (a "name")
    pure .null

/-!
Inspecting a map by clicks.
-/

def sampleAt (point : Data) (name : String) (object : Data) : Session Unit := do
  if object.isKind .image then
    let found ← info ((object.call "sample" [point, 30]).call "first")
    let properties ← found.item "properties"
    print (name ++ ": " ++ properties.display)

def inspect (m : MapView) (event : Fields) : Session Unit := do
  let field (k : String) : Data := (Value.lookup k event).getD .null
  if (field "type").isText "click" then
    match ← ((field "coordinates").unpack 2 : Except Fault (List Data)) with
    | [lat, lon] =>
      let point ← submit (Kind.geometry.fn "Point" [.list [lon, lat]])
      let latitude ← lat.fixed 4
      let longitude ← lon.fixed 4
      print ("Clicked coordinates: " ++ latitude ++ ", " ++ longitude)
      for e in m.served do
        orTell ("Error sampling " ++ e.1 ++ ": ") () (sampleAt point e.1 e.2.object)
    | _ => pure ()

def inspectorTool : MapTool where
  run _ := do
    MapSession.change fun m => { m with inspectors := m.inspectors + 1 }
    pure .null

def eventTool : MapTool where
  open_ := true
  run a := do
    let m ← MapSession.map
    for _ in List.range m.inspectors do m.inspect a.rest
    pure .null

/-!
Layers that the server draws.
-/

def defaultStyle : Fields :=
  [("color", "blue"), ("width", 2), ("fillColor", "blue"), ("fillOpacity", 0.3)]

def lookFields (look : Data) : Except Fault Fields :=
  match look.fields? with
  | some fs => .ok fs
  | none => .error (.wrongType ("'" ++ look.typeName ++ "' object is not a mapping"))

def tilesOf (style : Fields) (object look : Data) : Session (Option String) := do
  if object.isKind .image then
    pure (some (← address (Kind.image.make [object]) "getMapId" [look]))
  else if object.isKind .imageCollection then
    let mosaic ← submit (object.call "mosaic")
    pure (some (← address (Kind.image.make [mosaic]) "getMapId" [look]))
  else if object.isKind .featureCollection then
    let styled := object.call "style" [] (Value.insertAll style (← lookFields look))
    pure (some (← address styled "getMapId"))
  else
    print ("Unsupported Earth Engine object type: " ++ object.className)
    pure none

/-- The layer is built, put on the map and recorded, in this order. -/
def serve (object look name opacity : Data) : MapSession Unit := do
  match ← tilesOf defaultStyle object look with
  | none => pure ()
  | some url =>
    let name ← Property.text "TileLayer" "name" name
    let opacity ← Property.share "TileLayer" "opacity" opacity
    let l ← addLayer url "Google Earth Engine" name opacity
    change fun m => { m with served := Value.insert name ⟨l, object, look⟩ m.served }

def addServed (object look name opacity : Data) : MapSession Unit :=
  orTell "Error adding Earth Engine layer: "
    (serve object (if look.isNull then .record [] else look) name opacity)

def recorded? (m : MapView) (name : Data) : Option (String × ServedLayer) :=
  match name with
  | .str k => (Value.lookup k m.served).map ((k, ·))
  | _ => none

def removeServed (name : Data) : MapSession Unit := do
  name.checkKey
  match (← map).recorded? name with
  | some (k, s) =>
    takeAway s.layer
    change fun m => { m with served := Value.erase k m.served }
  | none => print ("Layer '" ++ name.display ++ "' not found")

def clearServed : MapSession Unit := do
  ((← map).served.map (·.1)).forM fun k => removeServed (.str k)

def serveTool : MapTool where
  parameters := ["ee_object", opt "vis_params", opt "name" "EE Layer", opt "opacity" 1.0]
  run a := do
    addServed (a "ee_object") (a "vis_params") (a "name") (a "opacity")
    pure .null

def removeTool : MapTool where
  parameters := ["name"]
  run a := do
    removeServed (a "name")
    pure .null

def clearTool : MapTool where
  run _ := do
    clearServed
    pure .null

/-!
Legends and colour bars on a map.
-/

def legendEntry (label : String) (colour : Data) : String :=
  "<div><span style=\"background-color: " ++ colour.display ++
    "; width: 20px; height: 20px; display: inline-block; margin-right: 10px;\"></span>" ++ label ++ "</div>"

def legendPage (title : Data) (entries : Fields) : String :=
  "<div style=\"background-color: white; padding: 10px; border: 2px solid black; border-radius: 5px;\"><h4>" ++
    title.display ++ "</h4>" ++ Text.join "" (entries.map fun e => legendEntry e.1 e.2) ++ "</div>"

def legend (a : Arguments) : Except Fault (String × String) := do
  let page := legendPage (a "title") (← (a "legend_dict").fieldsOf "items")
  pure (page, ← Property.corner (a "position"))

def legendParameters : List Parameter := ["title", "legend_dict", opt "position" "bottomright"]

def legendCommand : Command where
  parameters := legendParameters
  run a := do
    let (page, corner) ← legend a
    pure (.record [("html", .str page), ("position", Value.strs [corner])])

def legendTool : MapTool where
  parameters := legendParameters
  run a := do
    let (page, corner) ← legend a
    MapSession.change fun m => m.addControl "WidgetControl" corner
    pure (.str page)

def barColour (v : Data) : Except Fault String := do
  let s ← v.strOf "startswith"
  pure (if !Text.startsWith s "#" && s.length == 6 then "#" ++ s else s)

def paletteColours (palette : Data) : Except Fault (List String) := do
  let colours ← match palette with
    | .list xs => pure xs
    | v => do pure ((Text.split (← v.strOf "split") ",").map .str)
  colours.mapM barColour

def checkGradient (survey colours : List String) : Except Fault Unit := do
  if colours.isEmpty then throw (.outOfRange "list")
  for c in colours do
    unless Colour.isKnown survey c do throw (.wrongValue ("Invalid RGBA argument: " ++ Text.literal c))
  if colours.length = 1 then
    throw (.wrongValue "data mapping points must start with x=0 and end with x=1")

def checkEnd (v : Data) : Except Fault Unit := do
  unless v.isNull do let _ ← v.toReal

def colourBar (a : Arguments) : Session Data := do
  let look := a "vis_params"
  unless ← look.has "palette" do
    Session.print "No palette found in vis_params"
    return .null
  let palette ← look.item "palette"
  let low ← look.getD "min" 0
  let high ← look.getD "max" 1
  let colours ← paletteColours palette
  checkGradient (← get).surveyColours colours
  checkEnd low
  checkEnd high
  let corner ← Property.corner (a "position")
  pure (.record
    [("colors", Value.strs colours), ("vmin", low), ("vmax", high),
      ("before", "<div style=\"background-color: white; padding: 5px; border-radius: 5px;\"><img src=\"data:image/png;"),
      ("after", "\" style=\"width: 200px;\"></div>"),
      ("position", Value.strs [corner])])

def colourBarCommand : Command where
  parameters := ["vis_params", opt "caption" "", opt "position" "bottomright"]
  run a := colourBar a

end RemoteSensing.MapView

/-!
Split maps: two maps side by side that look at the same place, each with a scale and one layer.
-/

namespace RemoteSensing

structure SplitMap where
  left : MapView
  right : MapView
deriving Inhabited

namespace SplitMap

def style : Fields := [("color", "blue"), ("width", 2)]

def fill (object look name : Data) : MapSession Unit :=
  MapSession.orTell ("Error adding layer " ++ name.display ++ ": ") do
    match ← MapView.tilesOf style object look with
    | none => pure ()
    | some url =>
      let name ← Property.text "TileLayer" "name" name
      let _ ← MapSession.addLayer url "Google Earth Engine" name

def fillWith (parts : Data) : MapSession MapView := do
  match ← (parts.elements : Except Fault (List Data)) with
  | [object, look, name] =>
    fill object look name
    MapSession.map
  | _ => throw (.wrongType "a layer has an object, a look and a name")

def create (left right center zoom : Data) : Session SplitMap := do
  let half := (← MapView.plain center zoom).addControl "ScaleControl" "bottomleft"
  let l ← (← MapSession.from_ half (fillWith left)).1
  let r ← (← MapSession.from_ half (fillWith right)).1
  pure ⟨l, r⟩

def outline (s : SplitMap) : Data := .list [.record s.left.outline, .record s.right.outline]

def createCommand : Command where
  parameters := ["left_layer_info", "right_layer_info", opt "center" (.tuple [40, .int (-100)]), opt "zoom" 4]
  run a := do
    let s ← create (a "left_layer_info") (a "right_layer_info") (a "center") (a "zoom")
    pure s.outline

def ofMapTool : MapTool where
  parameters := ["left_layer_info", "right_layer_info"]
  run a := do
    let m ← MapSession.map
    let s ← create (a "left_layer_info") (a "right_layer_info") m.center (.real m.zoom)
    pure s.outline

end SplitMap

end RemoteSensing
