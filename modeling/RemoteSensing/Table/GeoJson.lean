import RemoteSensing.Geo.Place
import RemoteSensing.Table.Csv

/-!
Tables and GeoJSON.
-/

namespace RemoteSensing.Table

open Session

def coordinate (v : Data) : Except Fault Data := do
  (Value.real (← v.toReal)).round 6

def cellAt (row : List (Data × Data)) (name : Data) : Except Fault Data :=
  match row.find? fun c => c.1.same name, name with
  | some c, _ => .ok c.2
  | none, .int i =>
    if row.any fun c => isWhole c.1 then .error (.missingName name.literal)
    else (Value.list (row.map (·.2))).nth i
  | none, .str k => .error (.missingKey k)
  | none, v => .error (.missingName v.literal)

def cellOf (row : List (Data × Data)) (name : Data) : Except Fault Data := do
  match name with
  | .list [k] => cellAt row k
  | .list ks =>
    for k in ks do
      let _ ← cellAt row k
    throw (.wrongType "cannot convert the series to <class 'float'>")
  | .record _ | .box _ => throw (.wrongType "Passing a dict as an indexer is not supported. Use a list instead.")
  | k => cellAt row k

def rowFeature (latitude longitude : Data) (row : List (Data × Data)) : Except Fault Data := do
  let x ← coordinate (← cellOf row longitude)
  let y ← coordinate (← cellOf row latitude)
  let properties := row.foldl (fun acc c => Value.insert c.1.display c.2 acc) []
  pure (.record [("type", "Feature"),
    ("geometry", .record [("type", "Point"), ("coordinates", .list [x, y])]),
    ("properties", .record properties)])

def toGeoJson (t : Table) (latitude longitude : Data) : Except Fault Data := do
  if t.height = 0 || t.columns.isEmpty then throw (.noMember "DataFrame" "tolist")
  let features ← t.rows.mapM (rowFeature latitude longitude)
  pure (.record [("type", "FeatureCollection"), ("features", .list features)])

def writeGeoJson (t : Table) (v : Data) (path : String) (encoding : Data) : Session Data := do
  writeTextIn path "" encoding
  match t.content with
  | .whole => throw (.wrongType "Object of type int64 is not JSON serializable")
  | .unsigned => throw (.wrongType "Object of type uint64 is not JSON serializable")
  | .truth => throw (.wrongType "Object of type bool_ is not JSON serializable")
  | _ =>
    writeTextIn path (← Json.line v) encoding
    pure .null

def coordinateParameters : List Parameter :=
  [opt "latitude" "latitude", opt "longitude" "longitude", opt "encoding" "utf-8"]

def toGeoJsonCommand : Command where
  parameters := (["df", opt "out_geojson"] : List Parameter) ++ coordinateParameters
  run a := do
    let out := a "out_geojson"
    unless out.isNull do
      let folder := Path.folder (Path.absolute (← out.pathOf))
      unless ← pathExists folder do makeFolder folder
    let t ← Table.ofValue (a "df") "apply"
    let v ← t.toGeoJson (a "latitude") (a "longitude")
    if out.isNull then pure v else writeGeoJson t v (← out.pathOf) (a "encoding")

def isPage (address : String) : Bool :=
  let scheme := address.toList.takeWhile (· ≠ ':')
  scheme.length < address.length &&
    ["http", "https", "ftp", "file"].contains (String.ofList (scheme.map Char.toLower))

def readCsv (path : String) : Session Table := do
  let text ← if isPage path then openPage path else readRaw path
  Csv.read text

def fileToGeoJsonCommand : Command where
  parameters := (["in_csv", opt "out_geojson"] : List Parameter) ++ coordinateParameters
  run a := do
    let out := a "out_geojson"
    let out ← if out.isNull then pure out else do pure (.str (← Folder.checkFile out))
    let path ← match a "in_csv" with
      | .str s => pure (Address.raw s)
      | _ => throw (.wrongValue "Invalid file path or buffer object type")
    let t ← readCsv path
    let v ← t.toGeoJson (a "latitude") (a "longitude")
    if out.isNull then pure v
    else writeGeoJson t v (← out.pathOf) (a "encoding")

def toServerCommand : Command where
  parameters := ["df", opt "latitude" "latitude", opt "longitude" "longitude"]
  open_ := true
  run a := do
    match a "df" with
    | .table index columns =>
      let t : Table := ⟨index, columns⟩
      Geo.toServer (← t.toGeoJson (a "latitude") (a "longitude")) false
    | _ => reject .type "The input data type must be pandas.DataFrame."

mutual

def leavesUnder (name : String) (acc : Fields) : Data → Fields
  | .record fs => leavesOfFields name acc fs
  | .box fs => leavesOfFields name acc fs
  | v => Value.insert name v acc

def leavesOfFields (name : String) (acc : Fields) :
    Fields → Fields
  | [] => acc
  | (k, v) :: r =>
    let below := if name.isEmpty then k else name ++ "." ++ k
    leavesOfFields name (leavesUnder below acc v) r

end

def flattened (v : Data) : Fields :=
  match v.fields? with
  | some fs =>
    let own := fs.filter fun f => !f.2.isRecord
    Value.insertAll own (leavesOfFields "" [] (fs.filter fun f => f.2.isRecord))
  | none => []

def flatRow (v : Data) : Data :=
  match v with
  | .list _ => v
  | v => .record (flattened v)

def ofNested (v : Data) : Except Fault Table :=
  match v with
  | .list [] => .ok empty
  | .record _ | .box _ => .ok (ofFields [flattened v])
  | .list xs | .tuple xs => ofRows (xs.map flatRow)
  | _ => .error .notTabular

def propertyName (name : Data) : Except Fault Data := do
  pure (.str (Text.replace (← name.strOf "replace") "properties." ""))

def isShapeName (name : Data) : Bool :=
  match name with
  | .str s => Text.contains s "geometry"
  | _ => false

def ofFeatures (v : Data) (dropShapes : Bool) : Except Fault Table := do
  let t ← ofNested (← v.item "features")
  let columns ← t.columns.mapM fun c => do pure (← propertyName c.1, c.2)
  let t := { t with columns := columns }
  if dropShapes then t.select (t.names.filter fun n => !isShapeName n) else pure t

def featuresOf (v encoding : Data) : Session Data := do
  match v with
  | .str s =>
    if Text.startsWith s "http" then
      parsed (← openPage (Address.raw s))
    else
      let path := Path.absolute s
      unless ← pathExists path do
        reject .missingFile "The provided GeoJSON file could not be found."
      readJson path encoding
  | .record _ | .box _ => pure v
  | _ => throw (.unassigned "data")

def readFeatures (v : Data) (dropShapes : Bool) (encoding : Data := .str "utf-8") : Session Table := do
  ofFeatures (← featuresOf v encoding) dropShapes

def ofFeaturesCommand : Command where
  parameters := ["in_geojson", opt "encoding" "utf-8", opt "drop_geometry" true]
  run a := do pure (← readFeatures (a "in_geojson") (a "drop_geometry").truthy (a "encoding")).toValue

/-!
Tables and collections on the server.
-/

def ofAnswer (v : Data) : Except Fault Table :=
  match v with
  | .list xs => ofRows xs
  | .record fs | .box fs => ofColumns (fs.map fun f => (.str f.1, f.2))
  | .null => .ok empty
  | _ => .error (.wrongValue "DataFrame constructor not properly called!")

def computed (request : Data) : Session Table := do
  let request ← submit request
  Session.allow (← get).refusals "computeFeatures"
  Session.ask ("computeFeatures(" ++ request.text ++ ")")
  ofAnswer (← nextAnswer)

def withoutShapes (collection : Data) : Data :=
  collection.call "map" [Value.each 1 fun f =>
    Kind.feature.make [.null, f.call "toDictionary" [(f.call "propertyNames").call "sort"]]]

def ofCollection (object : Data) (columns : Data := .null) (dropShapes : Bool := true)
    (sorted : Bool := false) (more : Fields := []) : Session Table := do
  let object ←
    if object.isKind .feature then submit (Kind.featureCollection.make [.list [object]])
    else pure object
  unless object.isKind .featureCollection do
    reject .type "ee_object must be an ee.FeatureCollection"
  try
    let data ← if dropShapes then submit (withoutShapes object) else pure object
    let request := Value.insert "fileFormat" (.str "PANDAS_DATAFRAME") (Value.insert "expression" data more)
    let t ← computed (.record request)
    let t ← match columns with
      | .list wanted => (t.select wanted : Except Fault Table)
      | _ => pure t
    let t := if dropShapes then t.dropColumn "geo" else t
    if sorted then (t.sortedColumns : Except Fault Table) else pure t
  catch e => throw (e.restated .general)

def ofCollectionCommand : Command where
  parameters := ["ee_object", opt "columns", opt "remove_geom" true, opt "sort_columns" false]
  open_ := true
  run a := do
    let t ← ofCollection (a "ee_object") (a "columns") (a "remove_geom").truthy (a "sort_columns").truthy
      a.rest
    pure t.toValue

def joinable (v : Data) : Session Table := do
  match v with
  | .str s =>
    let path := Address.raw s
    if Text.endsWith path ".csv" then readCsv path
    else if Text.endsWith path ".geojson" then readFeatures (.str path) true
    else throw (.noLibrary "geopandas")
  | .table index columns =>
    let t : Table := ⟨index, columns⟩
    pure (if t.hasColumn "geometry" then t.dropColumn "geometry"
      else if t.hasColumn "geom" then t.dropColumn "geom" else t)
  | _ => reject .type "The input data must be of type str or pandas.DataFrame."

def keyed (t : Table) (key : Data) : Except Fault Fields := do
  let key := match key with
    | .list [k] => k
    | k => k
  let keys ← t.column key
  if 1 < (t.names.filter key.same).length then throw (.wrongValue "Index data must be 1-dimensional")
  let rest := t.dropColumn key
  let rowAt (i : Nat) : Data :=
    .record (rest.columns.foldl (fun acc c => Value.insert c.1.display (c.2.getD i .null) acc) [])
  pure (keys.zipIdx.foldl (fun acc k =>
    let name := k.1.display
    if (Value.lookup name acc).isSome then acc else acc ++ [(name, rowAt k.2)]) [])

def joinCommand : Command where
  parameters := ["ee_object", "data", "src_key", opt "dst_key"]
  run a := do
    let object := a "ee_object"
    unless object.isKind .featureCollection do
      reject .type "The input ee_object must be of type ee.FeatureCollection."
    unless (a "src_key").isStr do reject .type "The input src_key must be of type str."
    let key := if (a "dst_key").isNull then a "src_key" else a "dst_key"
    let t ← joinable (a "data")
    let lookup ← submit (Kind.dictionary.make [.record (← t.keyed key)])
    submit (object.call "map" [Value.each 1 fun f =>
      f.call "set" [lookup.call "get" [f.call "get" [a "src_key"], Kind.dictionary.make]]])

end RemoteSensing.Table
