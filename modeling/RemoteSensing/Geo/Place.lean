import RemoteSensing.Folder

/-!
Places, longitudes and geometries of the server.
-/

namespace RemoteSensing.Geo

open Session

variable {ν : Type} [Scalar ν]

def wrap (x : Value ν) : Except Fault (Value ν) := do
  if ← Value.lt x (.int (-180)) then Value.add (.int 360) x
  else if ← Value.gt x (.int 180) then Value.sub x (.int 360)
  else pure x

def wrapPosition (p : Value ν) : Except Fault (Value ν) := do
  p.setAt 0 (← wrap (← p.nth 0))

def wrapCoordinates (type coordinates : Value ν) : Except Fault (Value ν) :=
  if type.isText "Point" then wrapPosition coordinates
  else if type.isText "Polygon" then coordinates.mapElements (Value.mapElements wrapPosition)
  else if type.isText "LineString" then coordinates.mapElements wrapPosition
  else .ok coordinates

def wrapGeometry (g : Value ν) : Except Fault (Value ν) := do
  let coordinates ← g.item "coordinates"
  g.setItem "coordinates" (← wrapCoordinates (← g.item "type") coordinates)

def wrapLongitudes (v : Value ν) : Except Fault (Value ν) := do
  let keys ← v.keys
  if keys.contains "geometry" then v.setItem "geometry" (← wrapGeometry (← v.item "geometry"))
  else if keys.contains "type" then wrapGeometry v
  else pure v

def adjustLongitudes (v : Data) : Session Data :=
  match wrapLongitudes v with
  | .ok w => pure w
  | .error e => do
    Session.print e.message
    pure .null

def adjustLongitudesCommand : Command where
  parameters := ["in_fc"]
  run a := adjustLongitudes (a "in_fc")

/-!
Places written as text: a latitude and a longitude with a comma or a blank between them. One reader only checks a text,
the other also gives the pair.
-/

def readNumber (s : String) : Except Fault Float :=
  match Decimal.read? s with
  | some x => .ok x
  | none => .error (.wrongValue ("could not convert string to float: " ++ Text.literal s))

def numbersIn (v : Data) : Except Fault (Option (List Float)) := do
  if ← v.has "," then pure (some (← (Text.split (← v.strOf "split") ",").mapM readNumber))
  else if ← v.has " " then pure (some (← (Text.split (← v.strOf "split") " ").mapM readNumber))
  else pure none

def onGlobe (lat lon : Float) : Bool := lat ≥ -90 && lat ≤ 90 && lon ≥ -180 && lon ≤ 180

def firstTwo : List Float → Except Fault (Float × Float)
  | x :: y :: _ => .ok (x, y)
  | _ => .error (.outOfRange "list")

def isPlace (v : Data) : Session Bool := do
  match ← (numbersIn v : Except Fault _) with
  | none =>
    print ("The coordinates should be numbers only and separated by comma or space, such as " ++
      "40.2, -100.3")
    pure false
  | some xs =>
    match firstTwo xs with
    | .ok (lat, lon) => pure (onGlobe lat lon)
    | .error e =>
      print e.message
      pure false

def placeHint : String :=
  "The lat-lon coordinates should be numbers only and separated by comma or space, such as 40.2, -100.3"

def place? (v : Data) : Session (Option (Float × Float)) := do
  try
    match ← (numbersIn v : Except Fault _) with
    | none =>
      print placeHint
      pure none
    | some xs =>
      let (lat, lon) ← firstTwo xs
      pure (if onGlobe lat lon then some (lat, lon) else none)
  catch e =>
    print e.message
    print placeHint
    pure none

def isPlaceCommand : Command where
  parameters := ["location"]
  run a := do pure (.bool (← isPlace (a "location")))

def placeCommand : Command where
  parameters := ["location"]
  run a := do
    match ← place? (a "location") with
    | some (lat, lon) => pure (.tuple [.real lat, .real lon])
    | none => pure .null

/-!
Geometries on the server: their type, and GeoJSON data handed over as server-side objects.
-/

def geometryType (object : Data) : Session Data := do
  if object.isKind .geometry then info (object.call "type")
  else if object.isKind .feature then info ((object.call "geometry").call "type")
  else if object.isKind .featureCollection then
    info (((Kind.feature.make [object.call "first"]).call "geometry").call "type")
  else
    reject .type "The ee_object must be one of ee.Geometry, ee.Feature, ee.FeatureCollection."

def geometryTypeCommand : Command where
  parameters := ["ee_object"]
  run a := geometryType (a "ee_object")

def conversionFailed : String := "Could not convert the geojson to ee.Geometry()"

def markGeodesic (geodesic feature : Data) : Except Fault Data := do
  let g ← feature.item "geometry"
  if (← g.item "type").isText "Point" then pure feature
  else feature.setItem "geometry" (← g.setItem "geodesic" geodesic)

def featureGeometry (geodesic feature : Data) : Except Fault Data := do
  let properties ← feature.item "properties"
  if ← properties.has "style" then
    let style ← properties.item "style"
    let keys ← style.keys
    let g ← feature.item "geometry"
    if keys.contains "radius" then
      pure ((Kind.geometry.make [g]).call "buffer" [← style.item "radius"])
    else if (← g.item "type").isText "Point" then pure (Kind.geometry.make [g])
    else pure (Kind.geometry.make [g, "", geodesic])
  else
    let g ← feature.item "geometry"
    if (← g.item "type").isText "Point" then
      let p ← g.item "coordinates"
      pure (Kind.geometry.fn "Point" [← p.nth 0, ← p.nth 1])
    else pure (Kind.geometry.make [g, "", geodesic])

def readGeoJson (v encoding : Data) : Session Data := do
  match v with
  | .str s =>
    if Text.startsWith s "http" && Text.endsWith s ".geojson" then throw (.noLibrary "gdown")
    else if ← isFile s then readJson s encoding
    else pure v
  | v => pure v

def toServer (v geodesic : Data) (encoding : Data := .str "utf-8") : Session Data := do
  try
    let data ← readGeoJson v encoding
    let type ← data.item "type"
    if type.isText "FeatureCollection" then
      let features ← (← data.item "features").mapElements (markGeodesic geodesic)
      submit (Kind.featureCollection.make [← data.setItem "features" features])
    else if type.isText "Feature" then
      submit (← featureGeometry geodesic data)
    else reject .general conversionFailed
  catch e =>
    print conversionFailed
    throw (e.restated .general)

def toServerCommand : Command where
  parameters := ["geo_json", opt "geodesic" false, opt "encoding" "utf-8"]
  run a := toServer (a "geo_json") (a "geodesic") (a "encoding")

/-!
Shapes.
-/

abbrev Position := List Float

inductive Shape where
  | point (position : List Position)
  | line (positions : List Position)
  | polygon (rings : List (List Position))
  | several (type : String) (parts : List Shape)

def Shape.type : Shape → String
  | .point _ => "Point"
  | .line _ => "LineString"
  | .polygon _ => "Polygon"
  | .several t _ => t

def hasNoCoordinates : Nat → Data → Bool
  | _, .null => true
  | depth + 1, .list xs | depth + 1, .tuple xs => xs.all (hasNoCoordinates depth)
  | _, _ => false

def positionOf (v : Data) : Except Fault Position := do
  match v with
  | .list _ | .tuple _ | .str _ | .record _ | .box _ => (← v.elements).mapM Value.toReal
  | v => throw (.wrongType ("'" ++ v.typeName ++ "' object is not iterable"))

def checkOrdinates (p : Position) : Except Fault Unit :=
  unless p.length == 2 || p.length == 3 do
    throw (.wrongValue ("The ordinate (last) dimension should be 2, 3 or 4, got " ++ toString p.length))

def positionsOf (v : Data) : Except Fault (List Position) := do
  let positions ← (← v.elements).mapM positionOf
  match positions with
  | [] => pure []
  | p :: r =>
    if r.any fun q => q.length != p.length then throw (.wrongValue "Inconsistent coordinate dimensionality")
    checkOrdinates p
    pure positions

def lineOf (v : Data) : Except Fault Shape := do
  match ← positionsOf v with
  | [_] => throw .badShape
  | positions => pure (.line positions)

def ringOf (v : Data) : Except Fault (List Position) := do
  let positions ← positionsOf v
  match positions.head?, positions.getLast? with
  | some first, some last =>
    let ring := if first == last && positions.length > 1 then positions else positions ++ [first]
    if ring.length < 4 then throw (.wrongValue "A linearring requires at least 4 coordinates.")
    pure ring
  | _, _ => pure []

def polygonOf (v : Data) : Except Fault Shape := do
  let outer ← v.nth 0
  let holes ← v.slice 1 (← v.len)
  pure (.polygon ((← ringOf outer) :: (← (← holes.elements).mapM ringOf)))

def pointOf : Nat → Data → Except Fault Shape
  | depth + 1, .list [.list xs] => pointOf depth (.list xs)
  | _, v => do
    let xs ← v.elements
    if xs.any fun x => x.isList || x.isTuple then
      throw (.wrongValue "Point() takes only scalar or 1-size vector arguments")
    let p ← xs.mapM Value.toReal
    checkOrdinates p
    pure (.point [p])

def nesting : Nat := 64

def shapeOf : Nat → Data → Except Fault Shape
  | 0, _ => .error .endless
  | depth + 1, v => do
    let type := Text.lower (← (← v.get "type").strOf "lower")
    let coordinates ← v.get "coordinates"
    let given ← v.has "coordinates"
    let several (name : String) (parts : Data) (shape : Data → Except Fault Shape) : Except Fault Shape := do
      pure (.several name (← (← parts.elements).mapM shape))
    if given && hasNoCoordinates nesting coordinates then
      match type with
      | "point" => pure (.point [])
      | "linestring" => pure (.line [])
      | "polygon" => pure (.polygon [])
      | "multipoint" => pure (.several "MultiPoint" [])
      | "multilinestring" => pure (.several "MultiLineString" [])
      | "multipolygon" => pure (.several "MultiPolygon" [])
      | _ => throw (.unknownShape type)
    else
      match type with
      | "point" => pointOf nesting (← v.item "coordinates")
      | "linestring" | "linearring" => lineOf (← v.item "coordinates")
      | "polygon" => polygonOf (← v.item "coordinates")
      | "multipoint" => several "MultiPoint" (← v.item "coordinates") (pointOf nesting)
      | "multilinestring" => several "MultiLineString" (← v.item "coordinates") lineOf
      | "multipolygon" => several "MultiPolygon" (← v.item "coordinates") polygonOf
      | "geometrycollection" =>
        several "GeometryCollection" (← v.getD "geometries" (.list [])) (shapeOf depth)
      | "feature" => shapeOf depth (← v.item "geometry")
      | "featurecollection" => several "GeometryCollection" (← v.getD "features" (.list [])) (shapeOf depth)
      | t => throw (.unknownShape t)

def Shape.firstRing : Shape → Except Fault (List Position)
  | .several _ [] => .error (.outOfRange "")
  | .several _ (.polygon rings :: _) => .ok (rings.head?.getD [])
  | .several "GeometryCollection" (part :: _) =>
    .error (.wrongType ("'" ++ part.type ++ "' object is not subscriptable"))
  | .several _ (part :: _) => .error (.noMember part.type "exterior")
  | s => .error (.noMember s.type "geoms")

def Shape.sequence : Shape → Except Fault (List Position)
  | .point p => .ok p
  | .line ps => .ok ps
  | .polygon _ | .several .. => .error .noSequence

def along (axis : Nat) (positions : List Position) : List Float := positions.filterMap (·[axis]?)

/-!
The Mercator projection of web maps.
-/

def pi : Float := 3.141592653589793

def halfEquator : Float := pi * 6378137

def realOf (v : Data) : Except Fault Float :=
  match v.num? with
  | some n => n.toReal
  | none => .error (.wrongType ("must be real number, not " ++ v.typeName))

def resolution (zoom latitude : Data) : Except Fault Float := do
  let lat ← realOf latitude
  if lat.isInf then throw (.wrongValue "math domain error")
  let z ← realOf zoom
  let scale := Float.pow 2 z
  if scale.isInf && !z.isInf then throw (.overflow "math range error")
  if scale == 0 then throw (.divisionByZero "float division by zero")
  pure (156543.04 * Float.cos lat / scale).abs

def resolutionCommand : Command where
  parameters := ["zoom", opt "latitude" 0]
  run a := do pure (.real (← resolution (a "zoom") (a "latitude")))

def easting (lon : Float) : Data :=
  let x := lon * halfEquator / 180
  if x.isNaN then .int (if lon > 0 then 20026376 else -20026376) else .real x

def northingAt (lat fromPole : Float) : Data :=
  let y := Float.log (Float.tan (fromPole * pi / 360)) * halfEquator / pi
  if y.isNaN then .int (if lat > 0 then 20048966 else -20048966) else .real y

def northing (lat : Float) : Data := northingAt lat (90 + lat)

def toMetres (lon lat : Data) : Except Fault (Data × Data) := do
  let x := easting (← realOf lon)
  let y ← realOf (← Value.add 90 lat)
  pure (x, northingAt (← realOf lat) y)

def toMetresCommand : Command where
  parameters := ["longitude", "latitude"]
  run a := do
    let (x, y) ← toMetres (a "longitude") (a "latitude")
    pure (.tuple [x, y])

def ofMetres (x y : Float) : Float × Float :=
  let lat := y / halfEquator * 180
  (x / halfEquator * 180, 180 / pi * (2 * Float.atan (Float.exp (lat * pi / 180)) - pi / 2))

def ofMetresCommand : Command where
  parameters := ["x", "y"]
  run a := do
    let (lon, lat) := ofMetres (← realOf (a "x")) (← realOf (a "y"))
    pure (.tuple [.real lon, .real lat])

def ranges (west south east north : Data) : Except Fault Data := do
  let (xmin, ymin) ← toMetres west south
  let (xmax, ymax) ← toMetres east north
  pure (.tuple [.tuple [xmin, xmax], .tuple [ymin, ymax]])

def boxRanges (bounds : Data) : Except Fault Data := do
  match bounds with
  | .list [west, south, east, north] | .tuple [west, south, east, north] =>
    ranges west south east north
  | .list [low, high] | .tuple [low, high] =>
    match ← low.unpack 2, ← high.unpack 2 with
    | [south, west], [north, east] => ranges west south east north
    | _, _ => throw (.unassigned "west")
  | .list _ | .tuple _ => throw (.unassigned "west")
  | _ => throw (.rejected .type "bounds must be a list")

def boxRangesCommand : Command where
  parameters := ["bounds"]
  run a := do boxRanges (a "bounds")

def seen (full : Float) (zoom : Int) : Except Fault Float := do
  let k := zoom - 2
  if 0 ≤ k then pure (Float.scaleB full (-k))
  else
    let share := Float.scaleB 1 k
    if share == 0 then throw (.divisionByZero "float division by zero")
    pure (full / share)

def viewRanges (centre zoom : Data) : Except Fault Data := do
  unless centre.isTuple || centre.isList do throw (.rejected .type "center must be a tuple or list")
  let level : Int ← match zoom with
    | .int i => pure i
    | .bool b => pure (if b then 1 else 0)
    | _ => throw (.rejected .type "zoom must be an integer")
  match ← centre.unpack 2 with
  | [lat, lon] =>
    let width ← seen 358 level
    let height ← seen 140 level
    let south ← lat.sub (.real (height / 2))
    let north ← lat.add (.real (height / 2))
    let west ← lon.sub (.real (width / 2))
    let east ← lon.add (.real (width / 2))
    ranges west south east north
  | _ => throw (.unassigned "west")

def viewRangesCommand : Command where
  parameters := ["center", "zoom"]
  run a := do viewRanges (a "center") (a "zoom")

def shown (horizontal mercator : Bool) (x : Float) : Data :=
  if mercator then (if horizontal then easting x else northing x) else .real x

def drawnCoordinates (shape : Shape) (axis form : String) (mercator : Bool) : Except Fault Data := do
  let horizontal := axis == "x"
  let known := horizontal || axis == "y"
  let drawn (positions : List Position) : List Data :=
    (along (if horizontal then 0 else 1) positions).map (shown horizontal mercator)
  if form == "polygon" || form == "multipolygon" then
    let ring ← shape.firstRing
    if known then pure (.list (drawn ring)) else pure .null
  else if form == "linestring" || form == "multilinestring" then
    if known then pure (.list (drawn (← shape.sequence))) else pure .null
  else if form == "point" || form == "multipoint" then
    if known then
      match drawn (← shape.sequence) with
      | x :: _ => pure x
      | [] => throw (.outOfRange "array")
    else pure .null
  else pure .null

def drawnCoordinatesCommand : Command where
  parameters := ["geometry", "coord_type", "shape_type", opt "mercator" false]
  run a := do
    let shape ← shapeOf nesting (a "geometry")
    let form := Text.lower (← (a "shape_type").strOf "lower")
    let axis := match a "coord_type" with
      | .str s => s
      | _ => ""
    drawnCoordinates shape axis form (a "mercator").truthy

end RemoteSensing.Geo
