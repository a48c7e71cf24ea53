import RemoteSensing.Command

/-!
Boxes around geometries.
-/

namespace RemoteSensing.Geo

open Value

variable {ν : Type} [Scalar ν]

mutual

def positions : Value ν → Except Fault (List (Value ν))
  | .list xs => positionsIn (.list xs) xs
  | .tuple xs => positionsIn (.tuple xs) xs
  | .str s => if s.isEmpty then .ok [] else .error .endless
  | .record fs | .box fs => if fs.all (·.1.isEmpty) then .ok [] else .error .endless
  | v => .error (.wrongType ("'" ++ v.typeName ++ "' object is not iterable"))

def positionsIn (whole : Value ν) : List (Value ν) → Except Fault (List (Value ν))
  | [] => .ok []
  | x :: r =>
    if x.isNumber then .ok [whole]
    else do
      let inside ← positions x
      let rest ← positionsIn whole r
      pure (inside ++ rest)

end

def positionsCommand : Command where
  parameters := ["coords"]
  run a := do pure (.list (← positions (a "coords")))

abbrev Sides (ν : Type) := Value ν × Value ν × Value ν × Value ν

def Sides.toValue (b : Sides ν) : Value ν := .tuple [b.1, b.2.1, b.2.2.1, b.2.2.2]

def order (northUp : Bool) (west south east north : Value ν) : Sides ν :=
  if northUp then (west, south, east, north) else (west, north, east, south)

def noPart : Fault := .outOfRange "tuple"

def boxAround (northUp : Bool) (points : List (Value ν)) : Except Fault (Sides ν) := do
  let parts ← points.mapM elements
  let width := (parts.map List.length).min?.getD 0
  let column (i : Nat) : Except Fault (List (Value ν)) :=
    if i < width then .ok (parts.filterMap fun p => p[i]?) else .error noPart
  let west ← minimum (← column 0)
  if northUp then
    let south ← minimum (← column 1)
    let east ← maximum (← column 0)
    let north ← maximum (← column 1)
    pure (west, south, east, north)
  else
    let north ← maximum (← column 1)
    let east ← maximum (← column 0)
    let south ← minimum (← column 1)
    pure (west, north, east, south)

def boxAroundBoxes (northUp : Bool) (boxes : List (Value ν)) : Except Fault (Sides ν) := do
  let parts ← boxes.mapM fun b => b.unpack 4
  let column (i : Nat) : List (Value ν) := parts.filterMap fun p => p[i]?
  if northUp then
    let west ← minimum (column 0)
    let south ← minimum (column 1)
    let east ← maximum (column 2)
    let north ← maximum (column 3)
    pure (west, south, east, north)
  else
    let west ← minimum (column 0)
    let north ← maximum (column 3)
    let east ← maximum (column 2)
    let south ← minimum (column 1)
    pure (west, north, east, south)

def noGeometry : Fault :=
  .rejected .value
    "geometry must be a GeoJSON-like geometry, GeometryCollection, or FeatureCollection"

def repeated (factor : Value ν) (p : Value ν) : Except Fault (Value ν) :=
  match factor with
  | .int n => (p.elements).map fun xs => .list ((List.replicate n.toNat xs).flatten)
  | .bool b => (p.elements).map fun xs => .list (if b then xs else [])
  | f => .error (unsupported "*" f p)

def changedBox (factor : Value ν) (points : List (Value ν)) : Except Fault (Sides ν) := do
  boxAround false (← points.mapM (repeated factor))

def boxWithin : Nat → Bool → Value ν → Value ν → Except Fault (Value ν)
  | 0, _, _, _ => .error .endless
  | depth + 1, northUp, factor, v => do
    if ← v.has "bbox" then return .tuple (← (← v.item "bbox").elements)
    let inner ← v.get "geometry"
    let g := if inner.truthy then inner else v
    let positioned ← g.has "coordinates"
    let nested ← g.has "geometries"
    let listed ← g.has "features"
    if !positioned && !nested && !listed then throw noGeometry
    if listed then
      let boxes ← (← (← g.item "features").elements).mapM fun f => do
        let b ← boxWithin depth true .null (← f.item "geometry")
        pure (.tuple (← b.unpack 4))
      pure (← boxAroundBoxes northUp boxes).toValue
    else if nested then
      let boxes ← (← (← g.item "geometries").elements).mapM fun f => do
        let b ← boxWithin depth true .null f
        pure (.tuple (← b.unpack 4))
      pure (← boxAroundBoxes northUp boxes).toValue
    else
      let points ← positions (← g.item "coordinates")
      if factor.isNull then pure (← boxAround northUp points).toValue
      else pure (← changedBox factor points).toValue

def box (northUp : Bool) (factor v : Value ν) : Except Fault (Value ν) :=
  boxWithin (v.height + 1) northUp factor v

def boxCommand : Command where
  parameters := ["geometry", opt "north_up" true, opt "transform"]
  run a := do box (a "north_up").truthy (a "transform") (a "geometry")

def middle (northUp : Bool) (factor v : Value ν) : Except Fault (Value ν) := do
  let b ← box northUp factor v
  let west ← b.nth 0
  let east ← b.nth 2
  let x ← (← west.add east).div (.int 2)
  let south ← b.nth 1
  let north ← b.nth 3
  let y ← (← south.add north).div (.int 2)
  pure (.tuple [x, y])

def middleCommand : Command where
  parameters := ["geometry", opt "north_up" true, opt "transform"]
  run a := do middle (a "north_up").truthy (a "transform") (a "geometry")

def coordinatesAt (i : Int) (ring : Value ν) : Except Fault (List (Value ν)) := do
  (← ring.elements).mapM fun p => p.nth i

def ringCorners (ring : Value ν) : Except Fault (Value ν × Value ν × Value ν × Value ν) := do
  let south ← minimum (← coordinatesAt 1 ring)
  let west ← minimum (← coordinatesAt 0 ring)
  let north ← maximum (← coordinatesAt 1 ring)
  let east ← maximum (← coordinatesAt 0 ring)
  pure (south, west, north, east)

def corners (v : Value ν) : Except Fault (Value ν) := do
  let g ← if (← v.keys).contains "geometry" then v.item "geometry" else pure v
  let (south, west, north, east) ← ringCorners (← (← g.item "coordinates").nth 0)
  pure (.tuple [.tuple [south, west], .tuple [north, east]])

def cornersCommand : Command where
  parameters := ["geojson"]
  run a :=
    match corners (a "geojson") with
    | .ok v => pure v
    | .error e => throw (e.restated .general)

def boxFeature (b : Value ν) : Except Fault (Value ν) := do
  let west ← b.nth 0
  let north ← b.nth 3
  let south ← b.nth 1
  let east ← b.nth 2
  pure (.record
    [("geometry", .record
        [("type", "Polygon"),
          ("coordinates", .list [.list
            [.list [west, north], .list [west, south], .list [east, south], .list [east, north],
              .list [west, north]]])]),
      ("type", "Feature")])

def boxFeatures (boxes : Value ν) : Except Fault (Value ν) := do
  let features ← (← boxes.elements).mapM boxFeature
  pure (.record [("type", "FeatureCollection"), ("features", .list features)])

def boxFeatureCommand : Command where
  parameters := ["bounds"]
  run a := do boxFeature (a "bounds")

def boxFeaturesCommand : Command where
  parameters := ["coords"]
  run a := do boxFeatures (a "coords")

/-!
Areas of interest.
-/

variable {ν : Type} [Scalar ν]

def firstGeometry (v : Value ν) : Except Fault (Option (Value ν)) := do
  let features ← v.item "features"
  if features.truthy then pure (some (← (← features.nth 0).item "geometry")) else pure none

def areaBox (margin v : Value ν) : Except Fault (Value ν) := do
  if !((← v.item "type").isText "FeatureCollection") then return .null
  match ← firstGeometry v with
  | none => pure .null
  | some g =>
    let type ← g.item "type"
    if type.isText "Polygon" then
      let (south, west, north, east) ← ringCorners (← (← g.item "coordinates").nth 0)
      pure (.list [.list [south, west], .list [north, east]])
    else if type.isText "Point" then
      let p ← g.item "coordinates"
      let lat ← p.nth 1
      let lon ← p.nth 0
      pure (.list [.list [← lat.sub margin, ← lon.sub margin], .list [← lat.add margin, ← lon.add margin]])
    else pure .null

def mean (xs : List (Value ν)) : Except Fault (Value ν) := do
  (← Value.total xs).div (.int xs.length)

def geometryCentre (g : Value ν) : Except Fault (Value ν) := do
  let type ← g.item "type"
  if type.isText "Polygon" then
    let ring ← (← g.item "coordinates").nth 0
    let lats ← coordinatesAt 1 ring
    let lons ← coordinatesAt 0 ring
    pure (.tuple [← mean lats, ← mean lons])
  else if type.isText "Point" then
    let p ← g.item "coordinates"
    pure (.tuple [← p.nth 1, ← p.nth 0])
  else pure .null

def areaCentre (v : Value ν) : Except Fault (Value ν) := do
  if (← v.item "type").isText "FeatureCollection" then
    match ← firstGeometry v with
    | some g => geometryCentre g
    | none => pure .null
  else
    let g ← v.get "geometry"
    if g.truthy then geometryCentre g else pure .null

def orNothing (r : Except Fault Data) : Session Data := pure (r.toOption.getD .null)

def areaBoxCommand : Command where
  parameters := ["geojson"]
  run a := orNothing (areaBox 0.01 (a "geojson"))

def areaCentreCommand : Command where
  parameters := ["geojson"]
  run a := orNothing (areaCentre (a "geojson"))

def isAreaData (v : Data) : Bool :=
  match v.item "type" with
  | .ok t => t.memberOf (["Feature", "FeatureCollection", "Polygon", "MultiPolygon"].map .str)
  | .error _ => false

def isAreaDataCommand : Command where
  parameters := ["geojson_data"]
  run a := pure (.bool (isAreaData (a "geojson_data")))

def defaultCentreCommand : Command where
  parameters := ["geojson_data"]
  run _ := pure (.list [.real 51.5074, .real (-0.1278)])

def defaultBoxCommand : Command where
  parameters := ["geojson_data"]
  run _ := pure (.list [.int (-1), 51, 1, 52])

def season (month : Data) : String :=
  if month.memberOf [12, 1, 2] then "Winter"
  else if month.memberOf [3, 4, 5] then "Spring"
  else if month.memberOf [6, 7, 8] then "Summer"
  else "Fall"

def seasonCommand : Command where
  parameters := ["month"]
  run a := pure (.str (season (a "month")))

end RemoteSensing.Geo
