import RemoteSensing.Colour

/-!
Interactive maps.
-/

namespace RemoteSensing

structure TileLayer where
  number : Nat
  url : String
  attribution : String
  name : String
  opacity : Float := 1.0
  maxZoom : Int := 18
deriving Inhabited

structure Control where
  name : String
  corner : String
deriving DecidableEq, Repr, Inhabited

structure ServedLayer where
  layer : TileLayer
  object : Data
  look : Data
deriving Inhabited

structure MapView where
  center : Data
  zoom : Float
  lite : Data := true
  layers : List TileLayer := []
  controls : List Control := [⟨"ZoomControl", "topleft"⟩, ⟨"AttributionControl", "bottomright"⟩]
  served : List (String × ServedLayer) := []
  fit : Data := .null
  drawing : Option (Data × Data) := none
  inspectors : Nat := 0
  made : Nat := 0
deriving Inhabited

namespace MapView

def plain (center zoom : Data) : Except Fault MapView := do
  let center ← Property.sequence "Map" "center" center
  let zoom ← Property.fraction "Map" "zoom" zoom
  pure { center, zoom }

def addControl (m : MapView) (name corner : String) : MapView :=
  { m with controls := m.controls ++ [⟨name, corner⟩] }

def withTools (m : MapView) : MapView :=
  { ((((m.addControl "LayersControl" "topright").addControl "ScaleControl" "bottomleft").addControl
      "FullScreenControl" "topleft").addControl "DrawControl" "topleft") with
    drawing := some (.record [("type", "Feature"), ("geometry", .null)], .list []) }

def parameters : List Parameter :=
  [opt "center" (.tuple [40, .int (-100)]), opt "zoom" 4, opt "height" "600px", opt "width" "100%",
    opt "lite_mode" false]

def create (a : Arguments) : Session MapView := do
  Property.length "height" (a "height")
  Property.length "width" (a "width")
  let m ← plain (a "center") (a "zoom")
  match ← Session.attempt Session.connect with
  | .ok _ => pure ()
  | .error _ =>
    Session.print
      "Warning: Earth Engine not initialized. Please run 'ee.Authenticate()' and 'ee.Initialize()'"
  let m := { m with lite := a "lite_mode" }
  pure (if m.lite.truthy then m else m.withTools)

def shows (m : MapView) (l : TileLayer) : Bool := m.layers.any fun k => k.number == l.number

def layerFields (l : TileLayer) : Data :=
  .record [("url", .str l.url), ("attribution", .str l.attribution), ("name", .str l.name),
    ("opacity", .real l.opacity), ("max_zoom", .int l.maxZoom)]

def outline (m : MapView) : Fields :=
  [("center", m.center), ("zoom", .real m.zoom), ("layers", .list (m.layers.map layerFields)),
    ("controls", .list (m.controls.map fun c => Value.strs [c.name, c.corner]))]

def state (m : MapView) : Data :=
  .record (m.outline ++
    [("lite", m.lite),
      ("ee_layers", .list (m.served.map fun e =>
        .list [.str e.1, .str e.2.layer.name, .str e.2.object.text, e.2.look])),
      ("fit", m.fit)])

end MapView

/-! ## Work on a map

A map is changed in place, so the state of the work is the map together with the world. What a method has done to the map
before it fails stays done. -/

structure Desk where
  map : MapView
  world : World

abbrev MapSession := SessionOn Desk

instance (priority := low) : MonadLift Session MapSession where
  monadLift s := ExceptT.mk fun d => match (ExceptT.run s).run d.world with
    | (r, w) => (r, { d with world := w })

namespace MapSession

open MapView

def map : MapSession MapView := do pure (← get).map

def change (f : MapView → MapView) : MapSession Unit := modify fun d => { d with map := f d.map }

def orTell (what : String) (s : MapSession Unit) : MapSession Unit :=
  tryCatch s fun e => Session.print (what ++ e.message)

/-- The work from a given map on, with the fault it ends in, if any, and the map that is left. -/
def from_ {α : Type} (m : MapView) (s : MapSession α) : Session (Except Fault α × MapView) := do
  let (r, d) := (ExceptT.run s).run ⟨m, ← get⟩
  set d.world
  pure (r, d.map)

def place (l : TileLayer) : MapSession Unit := do
  if (← map).shows l then throw (.rejected .general ("layer already on map: " ++ l.name))
  change fun m => { m with layers := m.layers ++ [l] }

def takeAway (l : TileLayer) : MapSession Unit := do
  unless (← map).shows l do throw (.rejected .general ("layer not on map: " ++ l.name))
  change fun m => { m with layers := m.layers.filter fun k => k.number != l.number }

def addLayer (url attribution name : String) (opacity : Float := 1.0) (maxZoom : Int := 18) :
    MapSession TileLayer := do
  let l : TileLayer := ⟨(← map).made, url, attribution, name, opacity, maxZoom⟩
  change fun m => { m with made := m.made + 1 }
  place l
  pure l

end MapSession

/-! Tools of a map. -/

structure MapStep where
  map : MapView
  answer : Except Fault Data := .ok .null

structure MapTool where
  parameters : List Parameter := []
  open_ : Bool := false
  run : Arguments → MapSession Data

namespace MapTool

open MapSession (change)

def use (t : MapTool) (args : List Data) (named : Fields) : MapSession Data := do
  let command : Command := { parameters := t.parameters, open_ := t.open_, run := fun _ => pure .null }
  t.run (← command.bind args named)

def step (t : MapTool) (m : MapView) (args : List Data) (named : Fields) : Session MapStep := do
  let (r, n) ← MapSession.from_ m (t.use args named)
  pure ⟨n, r⟩

def look : MapTool where
  parameters := ["lat", "lon", opt "zoom"]
  run a := do
    change fun m => { m with center := .tuple [a "lat", a "lon"] }
    unless (a "zoom").isNull do
      let zoom ← Property.fraction "Map" "zoom" (a "zoom")
      change fun m => { m with zoom }
    pure .null

def fit : MapTool where
  parameters := ["bounds"]
  run a := do
    match ← ((a "bounds").unpack 4 : Except Fault (List Data)) with
    | [west, south, east, north] =>
      change fun m => { m with fit := .list [.list [south, west], .list [north, east]] }
    | _ => pure ()
    pure .null

def draw : MapTool where
  parameters := ["last_draw", "data"]
  run a := do
    if (← MapSession.map).drawing.isNone then throw (.noMember "Map" "draw_control")
    let last ← Property.fields "DrawControl" "last_draw" (a "last_draw")
    change fun m => { m with drawing := m.drawing.map fun d => (last, d.2) }
    let all ← Property.sequence "DrawControl" "data" (a "data")
    change fun m => { m with drawing := some (last, all) }
    pure .null

def drawings : MapTool where
  run _ := do
    match (← MapSession.map).drawing with
    | some (last, all) => pure (.record [("last_draw", last), ("data", all)])
    | none => pure (.record [])

end MapTool

end RemoteSensing

/-!
Layers of single objects.
-/

namespace RemoteSensing.Stretch

variable {ν : Type} [Scalar ν]

structure Statistics (ν : Type) where
  least : Value ν
  greatest : Value ν
  deviation : Value ν
  mean : Value ν
deriving Inhabited

def distinct : List (Value ν) → List (Value ν)
  | [] => []
  | x :: r => x :: (distinct r).filter fun y => !x.same y

def endingIn (ending : String) (answer : Fields (Value ν)) : Except Fault (List (Value ν)) := do
  let found := (answer.filter fun f => Text.endsWith f.1 ending && !f.2.isNull).map (·.2)
  found.forM Value.checkKey
  pure (distinct found)

def average (xs : List (Value ν)) : Except Fault (Value ν) := do (← Value.total xs).div (.int xs.length)

def masked : Fault := .rejected .value "No unmasked pixels were sampled."

def statistics (answer : Value ν) : Except Fault (Statistics ν) := do
  let fields ← answer.fieldsOf "items"
  let mins ← endingIn "_min" fields
  let maxs ← endingIn "_max" fields
  let deviations ← endingIn "_stdDev" fields
  let means ← endingIn "_mean" fields
  if mins.isEmpty || maxs.isEmpty || deviations.isEmpty || means.isEmpty then throw masked
  pure ⟨← Value.minimum mins, ← Value.maximum maxs, ← average deviations, ← average means⟩

def range (s : Statistics ν) (percent sigma : Value ν) : Except Fault (Value ν × Value ν) := do
  if !sigma.isNull then
    pure (← s.mean.sub (← sigma.mul s.deviation), ← s.mean.add (← sigma.mul s.deviation))
  else if !percent.isNull then
    let cut ← (← s.greatest.sub s.least).mul (← (Value.int 1).sub percent)
    pure (← s.least.add cut, ← s.greatest.sub cut)
  else pure (s.least, s.greatest)

def limits (measured : Except Fault (Statistics ν)) (percent sigma : Value ν) : Except Fault (Value ν × Value ν) :=
  match measured with
  | .error e => if e.ofValue then .ok (.int 0, .int 0) else .error e
  | .ok s => range s percent sigma

end RemoteSensing.Stretch

namespace RemoteSensing.ObjectLayer

open Session

def checkedPalette (palette : Data) : Except Fault Data :=
  match palette with
  | .tuple xs => .ok (.list xs)
  | .box fs =>
    match Value.lookup "default" fs with
    | none => .error (.rejected .value "The provided palette Box object is invalid.")
    | some v => do pure (.list (← v.elements))
  | .str _ => Colour.colours palette
  | .list xs => .ok (.list xs)
  | _ => .error (.rejected .value "The palette must be a list of colors, a string, or a Box object.")

def checkedLook (look : Data) : Except Fault Data := do
  match look with
  | .null => pure (.record [])
  | v =>
    match v.fields? with
    | none => throw (.rejected .type "vis_params must be a dictionary")
    | some fs =>
      match Value.lookup "palette" fs with
      | some p => v.setItem "palette" (← checkedPalette p)
      | none => pure v

def checkedLookCommand : Command where
  parameters := ["vis_params"]
  run a := do checkedLook (a "vis_params")

def toImage (object look : Data) : Session Data := do
  if object.isAnyKind [.geometry, .feature, .featureCollection] then
    let features ← submit (Kind.featureCollection.make [object])
    let colour ← look.getD "color" "000000"
    let width ← look.getD "width" 2
    let outline ← submit (features.call "style" []
      [("color", colour), ("fillColor", "00000000"), ("width", width)])
    submit (features.call "style" [] [("fillColor", colour)]
      |>.call "updateMask" [Kind.image.fn "constant" [0.5]]
      |>.call "blend" [outline])
  else if object.isKind .image then pure object
  else if object.isKind .imageCollection then submit (object.call "mosaic")
  else
    reject .member ("\n\nCannot add an object of type " ++ object.typeName ++ " to the map.")

def toImageCommand : Command where
  parameters := ["ee_object", "vis_params"]
  run a := toImage (a "ee_object") (a "vis_params")

def tiles (object look : Data) : Session String := do
  let image ← toImage object look
  address (Kind.image.make [image]) "getMapId" [look]

def tilesCommand : Command where
  parameters := ["ee_object", "vis_params"]
  run a := do pure (.str (← tiles (a "ee_object") (a "vis_params")))

structure Layer where
  object : Data
  tile : TileLayer
  visible : Bool
deriving Inhabited

def parameters : List Parameter :=
  ["ee_object", opt "vis_params", opt "name" "Layer untitled", opt "shown" true, opt "opacity" 1.0]

def truth (v : Data) : Except Fault Bool :=
  match v with
  | .bool b => .ok b
  | v => .error (Property.refusal "EELeafletTileLayer" "visible" "a boolean" v)

def create (a : Arguments) : Session Layer := do
  let look ← checkedLook (a "vis_params")
  let url ← tiles (a "ee_object") look
  for k in ["url", "attribution", "visible", "max_zoom"] do
    if (Value.lookup k a.rest).isSome then
      throw (.wrongType ("got multiple values for keyword argument '" ++ k ++ "'"))
  let owner := "EELeafletTileLayer"
  let name ← Property.text owner "name" (a "name")
  let opacity ← Property.share owner "opacity" (a "opacity")
  let visible ← truth (a "shown")
  pure ⟨a "ee_object", ⟨0, url, "Google Earth Engine", name, opacity, 24⟩, visible⟩

def reducer : Data :=
  Kind.reducer.fn "minMax"
    |>.call "combine" [(Kind.reducer.fn "mean").call "unweighted"] [("sharedInputs", true)]
    |>.call "combine" [Kind.reducer.fn "stdDev"] [("sharedInputs", true)]

def Layer.measure (l : Layer) (bounds bands : Data) : Session (Stretch.Statistics Float) := do
  let r ← submit reducer
  let answer ← info ((l.object.call "select" [bands]).call "reduceRegion" []
    [("reducer", r), ("geometry", bounds), ("bestEffort", true), ("maxPixels", 10000),
      ("crs", "SR-ORG:6627"), ("scale", 1)])
  Stretch.statistics answer

def rangeParameters : List Parameter := ["bounds", opt "bands", opt "percent", opt "sigma"]

def Layer.range (l : Layer) (a : Arguments) : Session Data := do
  let bands ← match a "bands" with
    | .null => submit (l.object.call "bandNames")
    | v => do
      let names ← v.elements
      (names.forM Value.checkKey : Except Fault Unit)
      pure (.tuple names)
  (a "bounds").checkKey
  let (low, high) ← Stretch.limits (← attempt (l.measure (a "bounds") bands)) (a "percent") (a "sigma")
  pure (.tuple [low, high])

def Layer.rangeCommand (l : Layer) : Command where
  parameters := rangeParameters
  run a := l.range a

def Layer.outline (l : Layer) : Fields :=
  [("layer", MapView.layerFields l.tile), ("visible", .bool l.visible)]

end RemoteSensing.ObjectLayer
