import RemoteSensing.Map.Tools

/-!
Getting the picture of an image.
-/

namespace RemoteSensing.Plot

open Session

def named (name : String) : Data := .object .computed name

def library : Data := named "plt"

def figure : Data := named "fig"

def degrees : Data := named "PlateCarree()"

def draw (target : Data) (method : String) (args : List Data := []) (named : Fields := []) :
    Session Unit :=
  Session.trace (target.call method args named).text

def setProperty (target : Data) (property : String) (v : Data) : Session Unit :=
  Session.trace (target.text ++ "." ++ property ++ " = " ++ v.text)

structure Area where
  west : Data
  east : Data
  south : Data
  north : Data

def Area.toValue (a : Area) : Data := .list [a.west, a.east, a.south, a.north]

def areaOf (outline : Data) : Except Fault Area := do
  let ring ← (← (← outline.item "coordinates").nth 0).elements
  let west ← Value.minimum (← ring.mapM fun p => p.nth 0)
  let east ← Value.maximum (← ring.mapM fun p => p.nth 0)
  let south ← Value.minimum (← ring.mapM fun p => p.nth 1)
  let north ← Value.maximum (← ring.mapM fun p => p.nth 1)
  pure ⟨west, east, south, north⟩

def regionArea (region : Data) : Session Area := do
  let outline ← Session.info (region.call "bounds")
  areaOf outline

def setArea (axes : Data) (a : Area) : Session Unit :=
  draw axes "set_extent" [a.toValue] [("crs", degrees)]

def addLine (axes : Data) (name : String) : Session Unit :=
  draw axes "add_feature" [named name] [("linewidth", 0.5)]

def addSurface (axes : Data) (name colour : String) : Session Unit :=
  draw axes "add_feature" [named name] [("alpha", 0.3), ("color", .str colour)]

def addGrid (axes : Data) (size : Nat) : Session Unit := do
  draw axes "gridlines" [] [("draw_labels", true), ("linewidth", 0.5), ("alpha", 0.5)]
  setProperty (named "gl") "xlabel_style" (.record [("size", .int size)])
  setProperty (named "gl") "ylabel_style" (.record [("size", .int size)])

def showPicture (axes picture : Data) (area : Data) (more : Fields := []) : Session Unit :=
  draw axes "imshow" [picture]
    ([("extent", area)] ++ more ++ [("transform", degrees), ("origin", "upper")])

def apology (size : Data) (message : String) : Session Unit := do
  draw library "figure" [] [("figsize", size)]
  draw library "gca"
  draw library "text" [0.5, 0.5, .str message]
    [("ha", "center"), ("va", "center"), ("transform", named "gca.transAxes")]

def brightest (pixels : Data) : Int :=
  (Value.leaves 4 pixels).foldl (fun best v => match v with | .int i => max best i | _ => best) 0

def dividedBy (d : Float) : Nat → Data → Data
  | depth + 1, .list xs => .list (xs.map (dividedBy d depth))
  | _, .int i => .real (Float.ofInt i / d)
  | _, v => v

def normalised (pixels : Data) : Data :=
  .grid (if 1 < brightest pixels then dividedBy 255.0 4 pixels else pixels)

def fetchColoured (image look region : Data) : Session Data := do
  if !look.isRecord then throw (.noMember look.typeName "get")
  let all ← info (image.call "bandNames")
  let first ← all.slice 0 3
  let bands ← look.getD "bands" first
  let chosen ← submit (image.call "select" [← bands.slice 0 3])
  let outline ← info region
  let url ← address chosen "getThumbURL"
    [.record [("region", outline), ("dimensions", 512), ("format", "png")]]
  let reply ← fetch url
  if reply.status ≠ 200 then
    print ("Failed to download RGB image: " ++ toString reply.status)
    return .null
  match reply.body with
  | .picture pixels => pure (normalised pixels)
  | _ => throw .badPicture

def coloured (image look region : Data) : Session Data :=
  orTell "Error getting RGB image: " .null (fetchColoured image look region)

def colouredCommand : Command where
  parameters := ["image", "vis_params", "region", "scale"]
  run a := coloured (a "image") (a "vis_params") (a "region")

def side : Nat := 100

def places (low high : Data) : Except Fault (List Data) := do
  let step ← (← high.sub low).div (.int side)
  (List.range side).mapM fun (i : Nat) => do low.add (← (Value.int i).mul step)

def samplePoints (a : Area) : Except Fault (List Data) := do
  let lons ← places a.west a.east
  let lats ← places a.south a.north
  pure (lons.flatMap fun lon => lats.map fun lat => Kind.geometry.fn "Point" [.list [lon, lat]])

def arrayOf {α : Type} (n : Nat) (empty : α) (values : List α) : List (List α) :=
  (List.range n).map fun i => (List.range n).map fun j => (values[n * i + j]?).getD empty

def sampleNumber (band : Data) (position : Nat) (feature : Data) : Except Fault Float := do
  let properties ← feature.item "properties"
  let value ← match band with
    | .str b => properties.get b
    | v => do
      let _ ← properties.fieldsOf "get"
      v.checkKey
      pure .null
  if value.isNull then pure (0.0 / 0.0)
  else if side * side ≤ position then
    throw (.wrongValue ("index " ++ toString (position / side) ++ " is out of bounds for axis 0 with size " ++
      toString side))
  else match value with
    | .list _ | .tuple _ => throw (.wrongValue "setting an array element with a sequence.")
    | v => v.toReal

def sampledArray (band samples : Data) : Except Fault Data := do
  let features ← (← samples.item "features").elements
  let numbers ← features.zipIdx.mapM fun f => sampleNumber band f.2 f.1
  let rows := arrayOf side (0.0 / 0.0 : Float) numbers
  pure (.grid (.list (rows.map fun r => .list (r.map .real))))

def sampleBand (image band scale : Data) (a : Area) : Session Data := do
  let points ← submit (Kind.featureCollection.make [.list (← samplePoints a)])
  let sampled ← submit (image.call "sampleRegions" []
    [("collection", points), ("scale", scale), ("geometries", true)])
  let samples ← info sampled
  sampledArray band samples

def bandOf (look all : Data) : Except Fault Data := do
  if ← look.has "bands" then
    match ← look.item "bands" with
    | .list xs => (Value.list xs).nth 0
    | v => pure v
  else all.nth 0

def sampled (image look region scale : Data) : Session (Option (Data × Area)) :=
  orTell "Error getting single band data: " none do
    let all ← info (image.call "bandNames")
    let band ← bandOf look all
    let chosen ← submit (image.call "select" [band])
    let area ← regionArea region
    orTell "Could not sample Earth Engine data: " none do
      pure (some (← sampleBand chosen band scale area, area))

def sampledCommand : Command where
  parameters := ["image", "vis_params", "region", "scale"]
  run a := do
    match ← sampled (a "image") (a "vis_params") (a "region") (a "scale") with
    | some (picture, area) => pure (.tuple [picture, area.toValue])
    | none => pure .null

/-!
Static maps for print.
-/

def projections : List String :=
  ["PlateCarree", "Mercator", "Robinson", "Mollweide", "Orthographic", "LambertConformal"]

def projection (v : Data) : Except Fault Data := do
  v.checkKey
  match v with
  | .str s => pure (if projections.contains s then named (s ++ "()") else degrees)
  | _ => pure degrees

def range (picture : Data) : Data × Data :=
  let numbers := (Value.leaves 4 (match picture with | .grid v => v | v => v)).filterMap fun v =>
    match v with
    | .real x => if x.isNaN then none else some x
    | _ => none
  match numbers with
  | [] => (.real (0.0 / 0.0), .real (0.0 / 0.0))
  | x :: r => (.real (r.foldl (fun b y => if y < b then y else b) x),
      .real (r.foldl (fun b y => if b < y then y else b) x))

def colourScale (look scale : Data) : Session Data := do
  if scale.truthy then
    draw library "get_cmap" [scale]
    pure (library.call "get_cmap" [scale])
  else if ← look.has "palette" then
    let colours ← match ← look.item "palette" with
      | .str s => pure ((Text.split s ",").map Value.str)
      | v => (v.elements : Except Fault (List Data))
    let colours ← (colours.mapM MapView.barColour : Except Fault (List String))
    pure (named ("cmap(\"custom\", " ++ (Value.strs colours : Data).text ++ ")"))
  else pure "viridis"

def drawSampled (axes look scale withScale picture : Data) (area : Area) : Session Unit := do
  let colours ← colourScale look scale
  let (low, high) := range picture
  let low ← look.getD "min" low
  let high ← look.getD "max" high
  showPicture axes picture area.toValue [("cmap", colours), ("vmin", low), ("vmax", high)]
  if withScale.truthy then
    draw library "colorbar" [named "im"] [("ax", axes), ("shrink", 0.6), ("pad", 0.1)]
    if ← look.has "bands" then
      let bands ← look.item "bands"
      if (← bands.len) = 1 then draw (named "cbar") "set_label" [← bands.nth 0]

def drawImage (axes : Data) (area : Area) (a : Arguments) : Session Unit := do
  let look := a "vis_params"
  let clipped ← submit ((a "image").call "clip" [a "region"])
  let bands ← info (clipped.call "bandNames")
  let many := 3 ≤ (← bands.len)
  let isColoured ← if many then do pure (!(← look.has "palette")) else pure false
  if isColoured then
    let picture ← coloured clipped look (a "region")
    unless picture.isNull do showPicture axes picture area.toValue
  else
    match ← sampled clipped look (a "region") (a "scale") with
    | some (picture, area) => drawSampled axes look (a "cmap") (a "add_colorbar") picture area
    | none => pure ()

def drawMap (a : Arguments) : Session Unit := do
  let axes := named "ax"
  let projection ← projection (a "projection")
  draw library "figure" [] [("figsize", a "figsize")]
  draw library "axes" [] [("projection", projection)]
  let area ← regionArea (a "region")
  setArea axes area
  if (a "coastlines").truthy then addLine axes "COASTLINE"
  if (a "borders").truthy then addLine axes "BORDERS"
  addSurface axes "LAND" "lightgray"
  addSurface axes "OCEAN" "lightblue"
  match ← attempt (drawImage axes area a) with
  | .ok _ => pure ()
  | .error e =>
    print ("Warning: Could not load Earth Engine image data: " ++ e.message)
    print "Displaying base map only"
  if (a "add_gridlines").truthy then addGrid axes 10
  if (a "title").truthy then
    draw library "title" [a "title"] [("fontsize", 14), ("fontweight", "bold"), ("pad", 20)]
  draw library "tight_layout"

def orApologise (what title : String) (size : Data) (s : Session Unit) : Session Data := do
  match ← attempt s with
  | .ok _ => pure ()
  | .error e =>
    print ("Error creating " ++ what ++ ": " ++ e.message)
    apology size ("Error creating " ++ title ++ ":\n" ++ e.message)
  pure (.str figure.text)

def mapCommand : Command where
  parameters := ["image", "vis_params", "region", opt "figsize" (.tuple [12, 8]), opt "title" "",
    opt "cmap", opt "add_colorbar" true,
      opt "add_gridlines" true, opt "coastlines" true, opt "borders" true, opt "projection" "PlateCarree",
      opt "scale" 1000]
  run a := orApologise "cartopy map" "map" (a "figsize") (drawMap a)

def drawHalf (axes image look region title : Data) : Session Unit :=
  orTell ("Error plotting image " ++ title.display ++ ": ") () do
    let area ← regionArea region
    setArea axes area
    addLine axes "COASTLINE"
    addLine axes "BORDERS"
    addSurface axes "LAND" "lightgray"
    orTell ("Warning: Could not load image data for " ++ title.display ++ ": ") () do
      let clipped ← submit (image.call "clip" [region])
      let picture ← coloured clipped look region
      unless picture.isNull do showPicture axes picture area.toValue
    addGrid axes 8
    draw axes "set_title" [title] [("fontsize", 12), ("fontweight", "bold")]

def drawComparison (a : Arguments) : Session Unit := do
  draw library "subplots" [1, 2]
    [("figsize", a "figsize"), ("subplot_kw", .record [("projection", degrees)])]
  let titles := a "titles"
  drawHalf (named "ax1") (a "image1") (a "vis_params1") (a "region") (← titles.nth 0)
  drawHalf (named "ax2") (a "image2") (a "vis_params2") (a "region") (← titles.nth 1)
  draw library "tight_layout"

def comparisonCommand : Command where
  parameters := ["image1", "image2", "vis_params1", "vis_params2", "region",
    opt "titles" (Value.strs ["Image 1", "Image 2"]), opt "figsize" (.tuple [16, 6])]
  run a := orApologise "comparison map" "comparison map" (a "figsize") (drawComparison a)

def save (filename dpi format box : Data) : Session Unit := do
  draw figure "savefig" [filename] [("dpi", dpi), ("format", format), ("bbox_inches", box)]
  match (← get).saveFault with
  | some reason => throw (.unwritable reason)
  | none => print ("Map saved to: " ++ filename.display)

def saveCommand : Command where
  parameters := ["filename", opt "dpi" 300, opt "format" "png", opt "bbox_inches" "tight"]
  run a := do
    orTell "Error saving map: " () (save (a "filename") (a "dpi") (a "format") (a "bbox_inches"))
    pure .null

end RemoteSensing.Plot
