import RemoteSensing.Colour.Scale
import RemoteSensing.Command

/-!
Colours.
-/

namespace RemoteSensing.Colour

def digits (s : List Char) : List Char := s.dropWhile (· == '#')

def groups (size : Nat) : Nat → List Char → List (List Char)
  | 0, _ => []
  | _, [] => []
  | room + 1, s => s.take size :: groups size room (s.drop size)

def readGroup (g : List Char) : Except Fault Int :=
  match Text.readInt? 16 (String.ofList g) with
  | some n => .ok n
  | none =>
    .error (.wrongValue ("invalid literal for int() with base 16: " ++ Text.literal (String.ofList g)))

def numbers (s : List Char) : Except Fault (List Int) :=
  let ds := digits s
  let size := ds.length / 3
  if size = 0 then .error (.wrongValue "range() arg 3 must not be zero")
  else (groups size ds.length ds).mapM readGroup

def three (s : List Char) : Except Fault (Int × Int × Int) := do
  match ← numbers s with
  | [r, g, b] => .ok (r, g, b)
  | xs =>
    if 3 < xs.length then .error (.wrongValue "too many values to unpack (expected 3)")
    else .error (.wrongValue
      ("not enough values to unpack (expected 3, got " ++ toString xs.length ++ ")"))

def twoDigits (n : Int) : String :=
  let s := Text.hexDigits n.natAbs
  if n < 0 then "-" ++ s else Text.zeroFill s 2

def toHex (rgb : Data) : Except Fault String :=
  let parts := match rgb with
    | .tuple xs => xs
    | v => [v]
  let rec write : Nat → List Data → Except Fault String
    | 0, [] => .ok ""
    | 0, _ => .error (.wrongType "not all arguments converted during string formatting")
    | _, [] => .error (.wrongType "not enough arguments for format string")
    | n + 1, x :: r => do
      let first ← match x with
        | .int i => pure (twoDigits i)
        | .bool b => pure (twoDigits (if b then 1 else 0))
        | v => throw (.wrongType ("%x format: an integer is required, not " ++ v.typeName))
      let rest ← write n r
      pure (first ++ rest)
  write 3 parts

def toHexCommand : Command where
  parameters := [opt "rgb" (.tuple [255, 255, 255])]
  run a := do pure (.str (← toHex (a "rgb")))

def numbersCommand : Command where
  parameters := [opt "value" "FFFFFF"]
  run a := do
    let s ← (a "value").strOf "lstrip"
    pure (.tuple ((← numbers s.toList).map .int))

def decimal (n : Int) : Except Fault String :=
  if Text.digitLimit < Decimal.width n.natAbs then
    .error (.wrongValue ("Exceeds the limit (4300 digits) for integer string conversion; use " ++
      "sys.set_int_max_str_digits() to increase the limit"))
  else .ok (toString n)

/-- The text of an opacity: a whole number has the limit of digits too, which `Value.display` does not know of. -/
def opacityText : Data → Except Fault String
  | .int n => decimal n
  | v => .ok v.display

def withOpacity (s : List Char) (opacity : Data) : Except Fault String := do
  let (r, g, b) ← three s
  let red ← decimal r
  let green ← decimal g
  let blue ← decimal b
  pure ("rgba(" ++ red ++ "," ++ green ++ "," ++ blue ++ "," ++ (← opacityText opacity) ++ ")")

def withOpacityCommand : Command where
  parameters := ["hex_color", "opacity"]
  run a := do
    let s ← (a "hex_color").strOf "lstrip"
    pure (.str (← withOpacity s.toList (a "opacity")))

def palettes : List (String × List String) :=
  [("ndvi",
      ["FFFFFF", "CE7E45", "DF923D", "F1B555", "FCD163", "99B718", "74A901", "66A000", "529400", "3E8601",
        "207401", "056201", "004C00", "023B01", "012E01", "011D01", "011301"]),
    ("ndwi",
      ["#ece7f2", "#d0d1e6", "#a6bddb", "#74a9cf", "#3690c0", "#0570b0", "#045a8d", "#023858"]),
    ("dem", ["006633", "E5FFCC", "662A00", "D8D8D8", "F5F5F5"]),
    ("dw",
      ["#419BDF", "#397D49", "#88B053", "#7A87C6", "#E49635", "#DFC35A", "#C4281B", "#A59B8F", "#B39FE1"]),
    ("esri_lulc",
      ["#1A5BAB", "#358221", "#000000", "#87D19E", "#FFDB5C", "#000000", "#ED022A", "#EDE9E4", "#F2FAFF",
        "#C8C8C8", "#C6AD8D"])]

def sample (scale : Scale) (count : Data) : Except Fault (List String) := do
  if !count.truthy then return scale.colours
  let n ← count.index
  if n == 1 then throw (.divisionByZero "division by zero")
  pure ((List.range n.toNat).map fun i => colourAt scale.colours (i.toFloat / (n.toNat - 1).toFloat))

def palette (name : Data) (count : Data := .null) : Except Fault (List String) := do
  match name with
  | .str s =>
    match Value.lookup s palettes, scale? s with
    | some p, _ => pure p
    | none, some scale => sample scale count
    | none, none => throw (.missingKey s)
  | v =>
    v.checkKey
    throw (.missingKey v.display)

def paletteCommand : Command where
  parameters := [opt "cmap_name", opt "n_class", opt "hashtag" false]
  run a := do
    let p ← palette (a "cmap_name") (a "n_class")
    pure (Value.strs (if (a "hashtag").truthy then p.map ("#" ++ ·) else p))

def colours (v : Data) : Except Fault Data :=
  match v with
  | .str s =>
    match palette v with
    | .ok p => .ok (Value.strs p)
    | .error _ => .error (.rejected .general (s ++ " is not a valid colormap."))
  | .box _ => do pure (.list (← (← v.item "default").elements))
  | .list _ | .tuple _ => .ok v
  | v => .error (.rejected .general (v.display ++ " is not a valid colormap."))

def coloursCommand : Command where
  parameters := ["cmap"]
  run a := do colours (a "cmap")

/-!
Names of colours.
-/

def listed (names : String) : List String := (Text.split names ",").map Text.trim

def webNames : List String :=
  listed "aliceblue,antiquewhite,aqua,aquamarine,azure,beige,bisque,black,blanchedalmond,blue,blueviolet,
    brown,burlywood,cadetblue,chartreuse,chocolate,coral,cornflowerblue,cornsilk,crimson,cyan,darkblue,darkcyan,
    darkgoldenrod,darkgray,darkgreen,darkgrey,darkkhaki,darkmagenta,darkolivegreen,darkorange,darkorchid,darkred,
    darksalmon,darkseagreen,darkslateblue,darkslategray,darkslategrey,darkturquoise,darkviolet,deeppink,
    deepskyblue,dimgray,dimgrey,dodgerblue,firebrick,floralwhite,forestgreen,fuchsia,gainsboro,ghostwhite,gold,
    goldenrod,gray,green,greenyellow,grey,honeydew,hotpink,indianred,indigo,ivory,khaki,lavender,lavenderblush,
    lawngreen,lemonchiffon,lightblue,lightcoral,lightcyan,lightgoldenrodyellow,lightgray,lightgreen,lightgrey,
    lightpink,lightsalmon,lightseagreen,lightskyblue,lightslategray,lightslategrey,lightsteelblue,lightyellow,
    lime,limegreen,linen,magenta,maroon,mediumaquamarine,mediumblue,mediumorchid,mediumpurple,mediumseagreen,
    mediumslateblue,mediumspringgreen,mediumturquoise,mediumvioletred,midnightblue,mintcream,mistyrose,moccasin,
    navajowhite,navy,oldlace,olive,olivedrab,orange,orangered,orchid,palegoldenrod,palegreen,paleturquoise,
    palevioletred,papayawhip,peachpuff,peru,pink,plum,powderblue,purple,rebeccapurple,red,rosybrown,royalblue,
    saddlebrown,salmon,sandybrown,seagreen,seashell,sienna,silver,skyblue,slateblue,slategray,slategrey,snow,
    springgreen,steelblue,tan,teal,thistle,tomato,turquoise,violet,wheat,white,whitesmoke,yellow,yellowgreen"

def chartNames : List String :=
  (listed "blue,orange,green,red,purple,brown,pink,gray,grey,olive,cyan").map ("tab:" ++ ·)

/-- The names of the colour survey are those of the plotting library: grey may also be written gray. -/
def isSurveyed (survey : List String) (s : String) : Bool :=
  Text.startsWith s "xkcd:" &&
    (let name := Text.sliceFrom s 5
     survey.any fun n => n == name || Text.replace n "grey" "gray" == name)

def letters : List String := ["b", "g", "r", "c", "m", "y", "k", "w"]

def isHex (s : List Char) : Bool :=
  match s with
  | '#' :: ds =>
    [3, 4, 6, 8].contains ds.length &&
      ds.all fun c => c.isDigit || "abcdefABCDEF".toList.contains c
  | _ => false

def isCounted (s : List Char) : Bool :=
  match s with
  | 'C' :: d :: ds => (d :: ds).all Char.isDigit
  | _ => false

def isShare (s : String) : Bool :=
  match Decimal.read? s with
  | some x => 0.0 ≤ x && x ≤ 1.0
  | none => false

def isKnown (survey : List String) (s : String) : Bool :=
  let low := Text.lower s
  letters.contains s || webNames.contains low || chartNames.contains low || low == "none" ||
    isSurveyed survey low || isHex s.toList || isCounted s.toList || isShare s

end RemoteSensing.Colour
