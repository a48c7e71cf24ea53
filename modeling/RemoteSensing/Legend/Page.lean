import RemoteSensing.Colour
import RemoteSensing.Legend.Builtin

/-!
Page texts of legends and styles.
-/

namespace RemoteSensing.Legend

open Session Value

def pageHead : List String :=
  ["<!DOCTYPE html>",
    "<html lang=\"en\">",
    "    <head> </head>",
    "    <body>",
    "        <div",
    "            id=\"maplegend\"",
    "            class=\"maplegend\"",
    "            style=\""]

def pageTitle : List String :=
  ["            \"",
    "        >",
    "            <div class=\"legend-title\">Legend</div>"]

def pageList : List String :=
  ["            <div class=\"legend-scale\">",
    "                <ul class=\"legend-labels\">"]

def styleSheet (quote rule line : String) : List String :=
  ["</html>", "", "<style type=" ++ quote ++ "text/css" ++ quote ++ ">"] ++
    ([(".legend-title", ["text-align: left", "margin-bottom: 5px", "font-weight: bold", "font-size: 90%"]),
      (".legend-scale ul", ["margin: 0", "margin-bottom: 5px", "padding: 0", "float: left", "list-style: none"]),
      (".legend-scale ul li",
        ["font-size: 80%", "list-style: none", "margin-left: 0", "line-height: 18px", "margin-bottom: 2px"]),
      ("ul.legend-labels li span",
        ["display: block", "float: left", "height: 16px", "width: 30px", "margin-right: 5px", "margin-left: 0",
          "border: 1px solid #999"]),
      (".legend-source", ["font-size: 80%", "color: #777", "clear: both"]),
      ("a", ["color: #777"])].flatMap fun r =>
      [rule ++ ".maplegend " ++ r.1 ++ " \x7b"] ++ r.2.map (line ++ · ++ ";") ++ ["    \x7d"]) ++
    ["</style>"]

def pageTail : List String :=
  ["                </ul>", "            </div>", "        </div>", "    </body>"] ++ styleSheet "\"" "    " "        "

def movableHead : List String :=
  ["<!doctype html>",
    "<html lang=\"en\">",
    "<head>",
    "  <meta charset=\"utf-8\">",
    "  <meta name=\"viewport\" content=\"width=device-width, initial-scale=1\">",
    "  <title>jQuery UI Draggable - Default functionality</title>",
    "  <link rel=\"stylesheet\" href=\"//code.jquery.com/ui/1.12.1/themes/base/jquery-ui.css\">",
    "",
    "  <script src=\"https://code.jquery.com/jquery-1.12.4.js\"></script>",
    "  <script src=\"https://code.jquery.com/ui/1.12.1/jquery-ui.js\"></script>",
    "",
    "  <script>",
    "  $( function() \x7b",
    "    $( \"#maplegend\" ).draggable(\x7b",
    "                    start: function (event, ui) \x7b",
    "                        $(this).css(\x7b",
    "                            right: \"auto\",",
    "                            top: \"auto\",",
    "                            bottom: \"auto\"",
    "                        \x7d);",
    "                    \x7d",
    "                \x7d);",
    "\x7d);",
    "",
    "  </script>",
    "</head>",
    "<body>",
    "",
    "",
    "<div id='maplegend' class='maplegend'",
    "    style='position: absolute; z-index:9999; border:2px solid grey; background-color:rgba(255, 255, 255, 0.8);",
    "     border-radius:6px; padding: 10px; font-size:14px; right: 20px; bottom: 20px;'>",
    "",
    "<div class='legend-title'>Legend</div>"]

def movableList : List String :=
  ["<div class='legend-scale'>",
    "  <ul class='legend-labels'>"]

def movableTail : List String :=
  ["  </ul>", "</div>", "</div>", "", "</body>"] ++ styleSheet "'" "  " "    "

def styleHead : List String :=
  ["<!DOCTYPE qgis PUBLIC 'http://mrcc.com/qgis.dtd' 'SYSTEM'>",
    "<qgis hasScaleBasedVisibilityFlag=\"0\" minScale=\"1e+08\" version=\"3.16.0-Hannover\" maxScale=\"0\" styleCategories=\"AllStyleCategories\">",
    "  <flags>",
    "    <Identifiable>1</Identifiable>",
    "    <Removable>1</Removable>",
    "    <Searchable>1</Searchable>",
    "  </flags>",
    "  <temporal enabled=\"0\" mode=\"0\" fetchMode=\"0\">",
    "    <fixedRange>",
    "      <start></start>",
    "      <end></end>",
    "    </fixedRange>",
    "  </temporal>",
    "  <customproperties>",
    "    <property value=\"Value\" key=\"identify/format\"/>",
    "  </customproperties>",
    "  <pipe>",
    "    <provider>",
    "      <resampling maxOversampling=\"2\" enabled=\"false\" zoomedInResamplingMethod=\"nearestNeighbour\" zoomedOutResamplingMethod=\"nearestNeighbour\"/>",
    "    </provider>",
    "    <rasterrenderer nodataColor=\"\" alphaBand=\"-1\" band=\"1\" opacity=\"1\" type=\"paletted\">",
    "      <rasterTransparency/>",
    "      <minMaxOrigin>",
    "        <limits>None</limits>",
    "        <extent>WholeRaster</extent>",
    "        <statAccuracy>Estimated</statAccuracy>",
    "        <cumulativeCutLower>0.02</cumulativeCutLower>",
    "        <cumulativeCutUpper>0.98</cumulativeCutUpper>",
    "        <stdDevFactor>2</stdDevFactor>",
    "      </minMaxOrigin>",
    "      <colorPalette>"]

def styleTail : List String :=
  ["      </colorPalette>",
    "    </rasterrenderer>",
    "    <brightnesscontrast gamma=\"1\" brightness=\"0\" contrast=\"0\"/>",
    "    <huesaturation colorizeGreen=\"128\" colorizeRed=\"255\" colorizeBlue=\"128\" saturation=\"0\" grayscaleMode=\"0\" colorizeStrength=\"100\" colorizeOn=\"0\"/>",
    "    <rasterresampler maxOversampling=\"2\"/>",
    "    <resamplingStage>resamplingFilter</resamplingStage>",
    "  </pipe>",
    "  <blendMode>0</blendMode>",
    "</qgis>"]

/-!
Class tables.
-/

structure ClassRow where
  value : String
  colour : String
  description : String
deriving DecidableEq, Repr

def ClassRow.label (c : ClassRow) : String := c.value ++ " " ++ c.description

def readRow (line : List Char) : Except Fault ClassRow :=
  let cells := (Chars.split ['\t'] line).map fun c => String.ofList (Chars.trim c)
  match cells with
  | value :: colour :: description :: _ => .ok ⟨value, colour, description⟩
  | _ => .error (.outOfRange "list")

def tableHeader : List Char := "Value\tColor\tDescription".toList

def classLines (table : List Char) : Except Fault (List (List Char)) :=
  match (Chars.split ['\n'] (Chars.trim table)).tail with
  | [] => .error (.outOfRange "list")
  | first :: rest => .ok (if first == tableHeader then rest else first :: rest)

def classes (table : List Char) : Except Fault (List ClassRow) := do
  (← classLines table).mapM readRow

def legendOf (rows : List ClassRow) : List (String × String) :=
  rows.foldl (fun acc c => Value.insert c.label c.colour acc) []

def readCommand : Command where
  parameters := ["ee_class_table"]
  run a := do
    let result : Except Fault Data := do
      let table ← (a "ee_class_table").strOf "strip"
      let legend := legendOf (← classes table.toList)
      pure (.record (legend.map fun kv => (kv.1, .str kv.2)))
    match result with
    | .ok v => pure v
    | .error e =>
      print e.message
      pure .null

def fileEntry (kv : String × String) : String := "\t'" ++ kv.1 ++ "': '" ++ kv.2 ++ "',\n"

def withoutMark (line : String) : String :=
  String.ofList (Chars.trimRight line.toList).dropLast ++ "\n"

def fileText (legend : List (String × String)) : String :=
  let lines := "\x7b\n" :: legend.map fileEntry
  String.join (lines.dropLast ++ [withoutMark (lines.getLastD "")]) ++ "\x7d\n"

def convertTable (source target : String) : Session Unit := do
  unless ← pathExists source do print "The class table does not exist."
  let folder := Path.folder (Path.absolute target)
  unless ← pathExists folder do makeFolder folder
  let lines := Chars.lines (← readText source).toList
  let rows ← lines.tail.mapM fun l => (readRow l : Except Fault ClassRow)
  writeText (Path.absolute target) (fileText (legendOf rows))

def convertTableCommand : Command where
  parameters := ["in_table", "out_file"]
  run a := do
    convertTable (← (a "in_table").strOf "path") (← (a "out_file").strOf "path")
    pure .null

def styleEntry (c : ClassRow) : String :=
  "        <paletteEntry alpha=\"255\" color=\"#" ++ c.colour ++ "\" value=\"" ++ c.value ++ "\" label=\"" ++
    c.description ++ "\"/>\n"

def styleText (rows : List ClassRow) : String :=
  let plain (lines : List String) : String := String.join (lines.map (· ++ "\n"))
  plain styleHead ++ String.join (rows.map styleEntry) ++ plain styleTail

def writeStyle (table : Data) (target : String) : Session Unit := do
  let folder := Path.folder target
  unless ← pathExists folder do makeFolder folder
  try
    let rows ← classes (← table.strOf "strip").toList
    writeText target (styleText rows)
  catch e => print e.message

def writeStyleCommand : Command where
  parameters := ["ee_class_table", "out_qml"]
  run a := do
    writeStyle (a "ee_class_table") (← (a "out_qml").strOf "path")
    pure .null

/-!
Drawing a legend as a page.
-/

def defaultLabels : List Data := ["One", "Two", "Three", "Four", "etc"].map .str

def defaultColours : List Data := ["#8DD3C7", "#FFFFB3", "#BEBADA", "#FB8072", "#80B1D3"].map .str

def colourTexts (colours : List Data) : Session (List Data) := do
  if colours.all isTuple then
    match colours.mapM Colour.toHex with
    | .ok texts => pure (texts.map .str)
    | .error e =>
      print e.message
      pure colours
  else pure colours

def isMarkedColour (v : Data) : Except Fault Bool := do
  let s ← v.strOf "startswith"
  pure (Text.startsWith s "#" && s.length == 7)

def isSixLong (v : Data) : Except Fault Bool := do pure ((← v.len) == 6)

def allM (test : Data → Except Fault Bool) : List Data → Except Fault Bool
  | [] => .ok true
  | x :: r => do if ← test x then allM test r else pure false

def labelsOf (v : Data) : Session (Option (List Data)) := do
  match v with
  | .null => pure (some defaultLabels)
  | .list xs => pure (some xs)
  | _ =>
    print "The legend keys must be a list."
    pure none

def coloursOf (v : Data) : Session (Option (List Data)) := do
  match v with
  | .null => pure (some defaultColours)
  | .list xs =>
    if xs.all isTuple then pure (some (← colourTexts xs))
    else if ← (allM isMarkedColour xs : Except Fault Bool) then pure (some xs)
    else if ← (allM isSixLong xs : Except Fault Bool) then pure (some xs)
    else
      print "The legend colors must be a list of tuples."
      pure none
  | _ =>
    print "The legend colors must be a list."
    pure none

def entriesOf (labels colours : List Data) (record builtinName : Data) :
    Session (Option (List Data × List Data)) := do
  let known := builtin.map (·.1)
  builtinName.checkKey
  let legend? : Option (List (String × String)) := match builtinName with
    | .str s => lookup s builtin
    | _ => none
  if !builtinName.isNull && legend?.isNone then
    print ("The builtin legend must be one of the following: " ++ Text.join ", " known)
    return none
  match legend?, record with
  | some legend, _ => pure (some (legend.map fun e => .str e.1, legend.map fun e => .str e.2))
  | none, .null => pure (some (labels, colours))
  | none, .record fs | none, .box fs =>
    pure (some (fs.map fun f => .str f.1, ← colourTexts (fs.map (·.2))))
  | none, _ =>
    print "The legend dict must be a dictionary."
    pure none

def places : List String := ["topleft", "topright", "bottomleft", "bottomright"]

def setDefault (key value : String) (style : Fields) : Fields :=
  if (lookup key style).isSome then style else insert key (.str value) style

def setPlace (place : String) (style : Fields) : Fields :=
  if place == "bottomright" then
    erase "top" (erase "left" (setDefault "right" "5px" (setDefault "bottom" "20px" style)))
  else if place == "bottomleft" then
    erase "top" (erase "right" (setDefault "left" "5px" (setDefault "bottom" "5px" style)))
  else if place == "topright" then
    erase "bottom" (erase "left" (setDefault "right" "5px" (setDefault "top" "5px" style)))
  else
    erase "bottom" (erase "right" (setDefault "left" "5px" (setDefault "top" "5px" style)))

def fullStyle (place : String) (style : Fields) : Fields :=
  [("position", "fixed"), ("z-index", "9999"), ("background-color", "rgba(255, 255, 255, 0.8)"),
    ("padding", "10px"), ("border-radius", "5px"), ("font-size", "14px")].foldl
      (fun s kv => setDefault kv.1 kv.2 s) (setPlace place style)

def pageText (lines : List String) : String := String.join (lines.map (· ++ "\n"))

def titled (title : String) (lines : List String) : String :=
  pageText (lines.map fun l => Text.replace l "Legend" title)

def fixedEntry (opacity : Data) (label colour : Data) : Except Fault String := do
  let c ← colour.strOf "startswith"
  let c := if Text.startsWith c "#" then c else "#" ++ c
  pure ("                    <li><span style='background:" ++ c ++ ";opacity:" ++ opacity.display ++
    ";'></span>" ++ label.display ++ "</li>\n")

def fixedPage (title : String) (labels colours : List Data) (opacity : Data)
    (style : Fields) : Except Fault String := do
  let styleLines := style.map fun kv =>
    "              " ++ Text.replace kv.1 "_" "-" ++ ": " ++ kv.2.display ++ ";\n"
  let entries ← (labels.zip colours).mapM fun e => fixedEntry opacity e.1 e.2
  pure (pageText pageHead ++ String.join styleLines ++ titled title pageTitle ++ pageText pageList ++
    String.join entries ++ pageText pageTail)

def movablePage (title : String) (colours : List Data) : Except Fault String :=
  if colours.isEmpty then
    .ok (titled title movableHead ++ pageText movableList ++ pageText movableTail)
  else .error (.noLibrary "colour")

def contentOf (a : Arguments) : Session (Option (String × List Data × List Data)) := do
  let some labels ← labelsOf (a "labels") | return none
  let some colours ← coloursOf (a "colors") | return none
  if labels.length != colours.length then
    print "The legend keys and values must be the same length."
    return none
  let some (labels, colours) ← entriesOf labels colours (a "legend_dict") (a "builtin_legend")
    | return none
  match a "position" with
  | .str s => if places.contains s then pure (some (s, labels, colours)) else refusePlace
  | _ => refusePlace
where
  refusePlace : Session (Option (String × List Data × List Data)) :=
    reject .value ("The position must be one of the following: " ++ Text.join ", " places)

def pageOf (a : Arguments) (labels colours : List Data) (style : Fields) : Except Fault String :=
  match a "title" with
  | .str title =>
    if (a "draggable").truthy then movablePage title colours
    else fixedPage title labels colours (a "opacity") style
  | v => .error (.wrongType ("replace() argument 2 must be str, not " ++ v.typeName))

def deliver (output : Data) (page : Except Fault String) : Session Data := do
  let page ← page
  match output with
  | .null => pure (.str page)
  | out =>
    writeText (← out.pathOf) page
    pure .null

def draw (a : Arguments) : Session Data := do
  let some (place, labels, colours) ← contentOf a | return .null
  match a "style" with
  | .thing _ =>
    let style := fullStyle place (← get).legendStyle
    modify fun w => { w with legendStyle := style }
    deliver (a "output") (pageOf a labels colours style)
  | .record fs | .box fs => deliver (a "output") (pageOf a labels colours (fullStyle place fs))
  | v => throw (.wrongType ("argument of type '" ++ v.typeName ++ "' is not iterable"))

def sharedStyle : Data := .thing "style"

def drawCommand : Command where
  parameters := [opt "title" "Legend", opt "labels", opt "colors", opt "legend_dict", opt "builtin_legend",
    opt "opacity" 1.0, opt "position" "bottomright", opt "draggable" true, opt "output", opt "style" sharedStyle]
  run a := draw a

end RemoteSensing.Legend
