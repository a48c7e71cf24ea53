import RemoteSensing.Command

/-!
Mosaics of the whole globe that are published every month and every quarter, and those of the tropics.
-/

namespace RemoteSensing.Basemap

def mosaicAddress (series period key : String) : String :=
  "https://tiles.planet.com/basemaps/v1/planet-tiles/" ++ series ++ "_" ++ period ++
    "_mosaic/gmap/\x7bz\x7d/\x7bx\x7d/\x7by\x7d.png?api_key=" ++ key

def yearsSince (first : Nat) (today : Date) : List Nat :=
  (List.range ((today.year + 1 - first).toNat)).map (first + ·)

inductive Cycle where
  | monthly
  | quarterly

namespace Cycle

def parts : Cycle → Nat
  | monthly => 12
  | quarterly => 4

def partName : Cycle → String
  | monthly => "Month"
  | quarterly => "Quarter"

def parameter : Cycle → String
  | monthly => "month"
  | quarterly => "quarter"

def current (today : Date) : Cycle → Nat
  | monthly => today.month
  | quarterly => (today.month - 1) / 3 + 1

def complete (c : Cycle) (first : Nat) (today : Date) : List (Nat × Nat) :=
  (yearsSince first today).flatMap fun (year : Nat) =>
    ((List.range c.parts).map (· + 1)).filterMap fun part =>
      if (year : Int) = today.year && c.current today ≤ part then none else some (year, part)

def series : Cycle → String
  | monthly => "global_monthly"
  | quarterly => "global_quarterly"

def separator : Cycle → Char
  | monthly => '_'
  | quarterly => 'q'

def partText (part : String) : Cycle → String
  | monthly => Text.zeroFill part 2
  | quarterly => part

def periodText (c : Cycle) (year part : String) : String := year ++ String.singleton c.separator ++ c.partText part

def periods (c : Cycle) (today : Date) : List String :=
  (c.complete 2016 today).map fun p => c.periodText (toString p.1) (toString p.2)

end Cycle

def tropicalMonths (today : Date) : List String :=
  ((Cycle.monthly.complete 2020 today).filter fun p => p.1 != 2020 || 9 ≤ p.2).map fun p =>
    toString p.1 ++ "-" ++ Text.zeroFill (toString p.2) 2

def tropicalHalves : List String :=
  ["2015-12_2016-05", "2016-06_2016-11", "2016-12_2017-05", "2017-06_2017-11", "2017-12_2018-05",
    "2018-06_2018-11", "2018-12_2019-05", "2019-06_2019-11", "2019-12_2020-05", "2020-06_2020-08"]

def tropicalSeries : String := "planet_medres_normalized_analytic"

inductive MosaicList where
  | monthly
  | quarterly
  | tropicalMonthly
  | tropicalHalfYearly
deriving DecidableEq, Repr

namespace MosaicList

def series : MosaicList → String
  | monthly => Cycle.monthly.series
  | quarterly => Cycle.quarterly.series
  | tropicalMonthly => tropicalSeries
  | tropicalHalfYearly => tropicalSeries

def periods (today : Date) : MosaicList → List String
  | monthly => Cycle.monthly.periods today
  | quarterly => Cycle.quarterly.periods today
  | tropicalMonthly => tropicalMonths today
  | tropicalHalfYearly => tropicalHalves

def periodLength : MosaicList → Nat
  | monthly => 7
  | quarterly => 6
  | tropicalMonthly => 7
  | tropicalHalfYearly => 15

def nameOf (l : MosaicList) (url : String) : String :=
  let start : Int := match Chars.find? "20".toList url.toList with
    | some i => i
    | none => -1
  "Planet_" ++ String.ofList (Chars.slice url.toList start (start + l.periodLength))

def addresses (l : MosaicList) (today : Date) (key : String) : List String :=
  (l.periods today).map fun p => mosaicAddress l.series p key

end MosaicList

def checkPeriod (part : String) (parts currentYear currentPart : Nat) (year number : Data) :
    Except Fault Unit := do
  let complain {α : Type} (s : String) : Except Fault α := .error (.rejected .value s)
  if ← year.gt (.int currentYear) then
    complain ("Year must be between 2016 and " ++ toString currentYear ++ ".")
  else if year.same (.int currentYear) then
    if ← number.ge (.int currentPart) then
      complain (part ++ " must be less than " ++ toString currentPart ++ " for year " ++ toString currentYear)
  let low ← number.lt 1
  let high ← if low then pure true else number.gt (.int parts)
  if high then complain (part ++ " must be between 1 and " ++ toString parts ++ ".")

/-- A year of more than `digitLimit` digits is written out here, while the interpreter refuses to. -/
def find (c : Cycle) (today : Date) (key : String) (year part : Data) : Except Fault String := do
  checkPeriod c.partName c.parts today.year.toNat (c.current today) year part
  pure (mosaicAddress c.series (c.periodText year.display part.display) key)

def mosaicKey (a : Arguments) : Session String := do
  match a "api_key" with
  | .null =>
    let name ← match a "token_name" with
      | .str s => pure s
      | v => throw (.wrongType ("str expected, not " ++ v.typeName))
    match ← Session.setting name with
    | some k => pure k
    | none => Session.reject .value "The Planet API Key must be provided."
  | v => pure v.display

def keyParameters : List Parameter := [opt "api_key", opt "token_name" "PLANET_API_KEY"]

def addressesCommand (lists : List MosaicList) : Command where
  parameters := keyParameters
  run a := do
    let key ← mosaicKey a
    let today := (← get).today
    pure (Value.strs (lists.flatMap fun l => l.addresses today key))

def mosaicLayer (form : Data) (url : String) (name : Data) : Session Data := do
  if form.isText "ipyleaflet" then
    let name ← Property.text "TileLayer" "name" name
    pure (.layer (.str url) "Planet" (.str name) 1.0 18)
  else pure (.thing "TileLayer")

def checkForm (form : Data) : Session Unit := do
  unless form.isText "ipyleaflet" || form.isText "folium" do
    Session.reject .value "The tile format must be either ipyleaflet or folium."

def layersCommand (lists : List MosaicList) : Command where
  parameters := keyParameters ++ [opt "tile_format" "ipyleaflet"]
  run a := do
    checkForm (a "tile_format")
    let key ← mosaicKey a
    let today := (← get).today
    let mut layers : Fields := []
    for l in lists do
      for url in l.addresses today key do
        let name := l.nameOf url
        let layer ← mosaicLayer (a "tile_format") url (.str name)
        layers := Value.insert name layer layers
    pure (.record layers)

def findCommand (c : Cycle) : Command where
  parameters := [opt "year" 2016, opt c.parameter 1] ++ keyParameters
  run a := do
    let key ← mosaicKey a
    pure (.str (← find c (← get).today key (a "year") (a c.parameter)))

def byMonthCommand : Command := findCommand .monthly

def byQuarterCommand : Command := findCommand .quarterly

def layerCommand (c : Cycle) (mark : String) : Command where
  parameters := [opt "year" 2016, opt c.parameter 1, opt "name"] ++ keyParameters ++
    [opt "tile_format" "ipyleaflet"]
  run a := do
    checkForm (a "tile_format")
    let key ← mosaicKey a
    let url ← find c (← get).today key (a "year") (a c.parameter)
    let name := if (a "name").isNull then
        .str ("Planet_" ++ (a "year").display ++ mark ++ c.partText (a c.parameter).display)
      else a "name"
    mosaicLayer (a "tile_format") url name

def layerByMonthCommand : Command := layerCommand .monthly "_"

def layerByQuarterCommand : Command := layerCommand .quarterly "_q"

/-!
Basemaps of other providers.
-/

open Session Value

def register : String := "https://qms.nextgis.com/api/v1/geoservices"

def searchAddress (keyword limit : Data) : String :=
  register ++ "/?search=" ++ keyword.display ++ "&type=tms&epsg=3857&limit=" ++ limit.display

def searchNames (keyword limit : Data) (namesOnly withMark : Bool) : Session Data := do
  let results ← (← fetchJson (searchAddress keyword limit)).item "results"
  if !results.truthy then return .null
  if !namesOnly then return results
  let names ← (← results.elements).mapM fun service => do
    let name ← service.item "name"
    if withMark then add (.str "qms.") name else pure name
  pure (.list names)

def searchNamesCommand : Command where
  parameters := ["keyword", opt "limit" 10, opt "list_only" true, opt "add_prefix" true, opt "timeout" 300]
  run a :=
    searchNames (a "keyword") (a "limit") (a "list_only").truthy (a "add_prefix").truthy

def search (keyword limit : Data) : Session Data := do
  let found ← fetchJson (searchAddress keyword limit)
  let count ← found.item "count"
  if count.same (.int 0) then pure .null
  else if ← count.le limit then found.item "results"
  else
    let results ← found.item "results"
    match limit with
    | .int n => results.slice 0 n
    | .bool b => results.slice 0 (if b then 1 else 0)
    | _ => throw (.wrongType "slice indices must be integers or None or have an __index__ method")

def searchCommand : Command where
  parameters := ["keywords", opt "limit" 10]
  run a := search (a "keywords") (a "limit")

def service (id : Data) : Session Data := fetchJson (register ++ "/" ++ id.display)

def serviceCommand : Command where
  parameters := ["service_id"]
  run a := service (a "service_id")

def serviceLayer (id : Data) : Session Data := do
  let s ← service id
  let name ← s.item "name"
  let url ← s.item "url"
  let attribution ← s.item "copyright_text"
  let text (property : String) (v : Data) := Property.text "TileLayer" property v
  let layer : Except Fault Data := do
    pure (.layer (← text "url" url) (← text "attribution" attribution) (← text "name" name) 1.0 18)
  layer

def serviceLayerCommand : Command where
  parameters := ["service_id"]
  run a := serviceLayer (a "service_id")

def mapTypes : List (String × Fields) :=
  [("roadmap", [("mapType", "roadmap")]),
    ("satellite", [("mapType", "satellite")]),
    ("terrain", [("mapType", "terrain"), ("layerTypes", strs ["layerRoadmap"])]),
    ("hybrid", [("mapType", "satellite"), ("layerTypes", strs ["layerRoadmap"])])]

def providerKey (name : String := "GOOGLE_MAPS_API_KEY") : Session Data := do
  match ← setting name with
  | some s => pure (.str s)
  | none => pure .null

def provider (type language region key : Data) (more : Fields) : Session Data := do
  let key ← if key.truthy then pure key else providerKey
  if key.isNull then
    reject .value ("API key is required to access Google Maps API. To get an API key and enable " ++
      "Map Tiles API, visit https://developers.google.com/maps/get-started#create-project")
  type.checkKey
  let name := type.display
  let known := match type with
    | .str s => lookup s mapTypes
    | _ => none
  let config ← match known with
    | some c => pure c
    | none => reject .value ("map_type must be one of: dict_keys([" ++
        Text.join ", " (mapTypes.map fun t => Text.literal t.1) ++ "])")
  let request := insertAll (insertAll config [("language", language), ("region", region)]) more
  let reply ← Session.request "POST" ("https://tile.googleapis.com/v1/createSession?key=" ++ key.display)
    none (some (.record request))
  if reply.status == 200 then
    let session ← readReply reply
    let title := Text.capitalise name
    pure (.record
      [("url", .str ("https://tile.googleapis.com/v1/2dtiles/\x7bz\x7d/\x7bx\x7d/\x7by\x7d?session=" ++
          (← session.item "session").display ++ "&key=\x7baccessToken\x7d")),
        ("attribution", .str ("© Google " ++ title)), ("accessToken", key),
        ("name", .str ("Google." ++ title)), ("ext", ← session.item "imageFormat"),
        ("tileSize", ← session.item "tileWidth")])
  else
    let answer ← readReply reply
    reject .runtime ("Error creating a Maps API session:\n" ++ answer.display ++ ".")

def providerCommand : Command where
  parameters := [opt "map_type" "roadmap", opt "language" "en-Us", opt "region" "US", opt "api_key"]
  open_ := true
  run a := provider (a "map_type") (a "language") (a "region") (a "api_key") a.rest

def providersCommand : Command where
  parameters := [opt "language" "en-Us", opt "region" "US", opt "api_key"]
  open_ := true
  run a := do
    if (lookup "map_type" a.rest).isSome then
      throw (.wrongType "got multiple values for keyword argument 'map_type'")
    let all ← mapTypes.mapM fun t => do
      pure (t.1, ← provider (.str t.1) (a "language") (a "region") (a "api_key") a.rest)
    pure (.record all)

def fullName (name : Data) : Data :=
  match name with
  | .str s =>
    match lookup (Text.upper s)
        [("ROADMAP", "Google Maps"), ("SATELLITE", "Google Satellite"), ("TERRAIN", "Google Terrain"),
          ("HYBRID", "Google Hybrid")] with
    | some full => .str full
    | none => .str s
  | v => v

def fullNameCommand : Command where
  parameters := ["basemap"]
  run a := pure (fullName (a "basemap"))

def settingOf (key : Data) : Session Data := do
  match key with
  | .str s => providerKey s
  | v => throw (.wrongType ("str expected, not " ++ v.typeName))

def settingCommand : Command where
  parameters := ["key"]
  run a := do
    if !(a "key").truthy then return .null
    settingOf (a "key")

def providerKeyCommand : Command where
  parameters := [opt "key" "GOOGLE_MAPS_API_KEY"]
  run a := settingOf (a "key")

end RemoteSensing.Basemap
