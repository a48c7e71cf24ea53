import RemoteSensing.Script.Block

/-!
Whole scripts.
-/

namespace RemoteSensing.Script

open RemoteSensing.Path Line Session

structure Options where
  desktopMap : Bool := true
  ownMap : Bool := false
  showMap : Bool := true
  map : Data := .str "m"
  repository : Data := .null

def Options.mapName (o : Options) : String := o.map.display

structure Progress where
  lines : List Line
  output : List Char
  depth : Int := 0
  calls : Nat := 0
  printing : Bool := false
  assigning : Bool := false
  literals : Nat := 0

def continueAssignment (p : Progress) (l : Line) : Progress × Line :=
  let (p, l) : Progress × Line :=
    if p.assigning then
      if (trim l).isEmpty || l.contains '#' then
        if ends (trim l) "[" then ({ p with assigning := false }, "[".toList)
        else (p, "\\".toList)
      else ({ p with assigning := false }, l)
    else (p, l)
  if ends (trim l) "=" then ({ p with assigning := true }, l ++ " \\".toList) else (p, l)

def lastClosing? (l : Line) : Option Nat :=
  let behind := (l.reverse.takeWhile (· != ')')).length
  if behind + 1 < l.length then some (l.length - behind - 1) else none

def evaluatePrinted (p : Progress) (l : Line) : Progress × Line :=
  if (has l "print(" && !l.contains '=') || p.printing then
    match lastClosing? l with
    | some i => ({ p with printing := false }, l.take i ++ ".getInfo())".toList)
    | none => ({ p with printing := true }, l)
  else (p, l)

def dropComma (lines : List Line) (i : Nat) (l : Line) : Except Fault Line := do
  if ends l "," then
    let below ← Value.elementAt "list" lines (i + 1)
    pure (if below.contains '=' && !starts (trim below) "'" then l.dropLast else l)
  else pure l

def opensCall (l : Line) : Bool :=
  ends (trim l) "(\x7b" && !has l "ee.Dictionary" && !has l ".set(" &&
    !has l ".addLayer" && !has l "cast"

def nameArguments (p : Progress) (l : Line) : Progress × Line :=
  let (p, l) : Progress × Line :=
    if opensCall l then ({ p with calls := p.calls + 1 }, (Chars.trimRight l).dropLast) else (p, l)
  if 0 < p.calls then
    if starts (trim l) "\x7d)" then
      ({ p with calls := p.calls - 1 }, replace l "\x7d)" ")")
    else if p.literals < 1 then (p, replace (replace l ": " "=") ":" " =")
    else (p, l)
  else (p, l)

def countLiterals (p : Progress) (l : Line) : Progress :=
  let p := if has l "= \x7b" && !has l "(\x7b" then { p with literals := p.literals + 1 } else p
  if l.contains '\x7d' && 0 < p.literals then { p with literals := p.literals - 1 } else p

def endLine (l : Line) : Line :=
  if ends l "+" then l ++ " \\".toList else if ends l ";" then l.dropLast else l

def starRemark (l : Line) : Line :=
  if starts (Chars.trimLeft l) "*" then replace l "*" "#" else l

def quoteKeysOf (l : Line) : Except Fault Line :=
  let t := trim l
  if l.contains ':' && !starts t "#" && !starts t "def" && !starts t "." &&
      !starts t "if" then
    quoteKeys [':'] l
  else .ok l

def dropChainRemark (lines : List Line) (i : Nat) (l : Line) : Line :=
  if i + 1 < lines.length && starts (Chars.trimLeft l) "#" &&
      starts (Chars.trimLeft (lineAt lines (i + 1))) "." then []
  else l

def beforeRemark (l : Line) : Line := l.takeWhile (· != '#')

def dropRemark (l : Line) : Line :=
  if l.contains '#' && !starts (trim l) "#" && (beforeRemark l).getLast? != some '\'' then
    beforeRemark l
  else l

def putOut (p : Progress) (i : Nat) (l : Line) : Progress :=
  if starts (Chars.trimLeft l) "." then
    let above := trim (lineAt p.lines ((i : Int) - 1))
    let lines :=
      if ends above "\\" && starts above "#" then setLine p.lines ((i : Int) - 1) "\\".toList
      else p.lines
    { p with
      lines := lines
      output := Chars.trimRight p.output ++ " \\\n".toList ++ beforeRemark l ++ ['\n'] }
  else { p with output := p.output ++ l ++ ['\n'] }

def unclosed (path : String) (i : Nat) (l : Line) : String :=
  "An error occurred when processing " ++ path ++ ". The closing curly bracket could not be " ++
    "found in Line " ++ toString (i + 1) ++ ": " ++ String.ofList l ++ ". Please reformat the function " ++
    "definition and make sure that both the opening and closing curly brackets appear on the same line as " ++
    "the function keyword. "

def openLine (path : String) (p : Progress) (i : Nat) (l : Line) : Session (Option Reading) := do
  let r : Reading := ⟨p.lines, l, p.depth⟩
  if opensFunction l then
    match openFunction r i with
    | .ok r => pure (some r)
    | .error _ =>
      print (unclosed path i l)
      pure none
  else if l.contains '\x7b' && !has l "(\x7b" then pure (some (← openBlock r i))
  else pure (some r)

def finishLine (o : Options) (p : Progress) (i : Nat) (l : Line) : Session Progress := do
  let l ← respellNegation (respell o.mapName l)
  let l := respellConcat (Chars.trimRight l)
  let (p, l) := continueAssignment p l
  let (p, l) := evaluatePrinted p l
  let l ← dropComma p.lines i l
  let (p, l) := nameArguments p l
  let p := countLiterals p l
  let l ← quoteKeysOf (starRemark (endLine l))
  pure (putOut p i (dropRemark (dropChainRemark p.lines i l)))

def convertLine (o : Options) (path : String) (p : Progress) (i : Nat) : Session (Option Progress) := do
  let l := lineAt p.lines i
  let l := if has l "Map.setOptions" then dropOptions 0 l else l
  let l ← dropColourRemark l
  match ← openLine path p i l with
  | none => pure none
  | some r => pure (some (← finishLine o { p with lines := r.lines, depth := r.depth } i r.line))

def convertLines (o : Options) (path : String) : List Nat → Progress → Session (Option Progress)
  | [], p => pure (some p)
  | i :: r, p => do
    match ← convertLine o path p i with
    | none => pure none
    | some p => convertLines o path r p

def imports (o : Options) : String :=
  if o.ownMap then "import geemap\n\n" ++ o.mapName ++ " = geemap.Map()\n"
  else if o.desktopMap then "from ee_plugin import Map\n"
  else ""

def attached (v : Data) : Except Fault String :=
  match v with
  | .str s => .ok s
  | v => .error (.wrongType ("can only concatenate str (not \"" ++ v.typeName ++ "\") to str"))

def published (o : Options) (path : String) : Except Fault String := do
  match o.repository with
  | .null => pure ""
  | r => pure ("# GitHub URL: " ++ (← attached r) ++ path ++ "\n\n")

def isConverted (lines : List Line) : Bool := lines.any fun l => trim l == "import ee".toList

def ending (o : Options) : Except Fault (List Char) := do
  if o.showMap then pure (← attached o.map).toList else pure []

def convertScript (o : Options) (path heading : String) (lines : List Line) :
    Session (Option (List Char)) := do
  if isConverted lines then
    pure (some (heading.toList ++ lines.flatten ++ (← ending o)))
  else
    let header := heading ++ "import ee \n" ++ (if usesMath lines then "import math\n" else "") ++
      imports o ++ "\n"
    let lines ← hoist (unindent lines)
    match ← convertLines o path (List.range lines.length) { lines := lines, output := header.toList } with
    | none => pure none
    | some p => pure (some (p.output ++ (← ending o)))

/-- Where a result goes. A target that is no file yet is taken from the folder of the package, not from the working
folder, unless it is absolute. -/
def placed (d : Disk) (target : String) : String :=
  if !target.isEmpty && d.hasFile (absolute target) then target else Path.join Path.package target

def convertFile (o : Options) (source target : String) : Session (Option String) := do
  let source := absolute source
  let target := placed (← get).disk target
  if o.desktopMap && o.ownMap then
    reject .general
      "use_qgis and import_geemap cannot be both True. Please set one of them to False."
  let heading ← published o source
  let lines := Chars.lines (← readText source).toList
  match ← convertScript o source heading lines with
  | none => pure none
  | some text =>
    let result := String.ofList text
    let folder := Path.folder target
    unless ← pathExists folder do makeFolder folder
    writeText target result
    pure (some result)

def optionsOf (a : Arguments) (showMap : Bool) : Options where
  desktopMap := (a "use_qgis").truthy
  ownMap := (a "import_geemap").truthy
  showMap := showMap
  map := a "Map"
  repository := a "github_repo"

def convertCommand : Command where
  parameters := ["in_file", opt "out_file", opt "use_qgis" true, opt "github_repo", opt "show_map" true,
      opt "import_geemap" false, opt "Map" "m"]
  run a := do
    let source ← (a "in_file").strOf "replace"
    let target := match a "out_file" with
      | .str s => s
      | _ => Text.replace (absolute source) ".js" ".py"
    match ← convertFile (optionsOf a (a "show_map").truthy) source target with
    | some s => pure (.str s)
    | none => pure .null

def convertFolderCommand : Command where
  parameters := ["in_dir", opt "out_dir", opt "use_qgis" true, opt "github_repo", opt "import_geemap" false, opt "Map" "m"]
  run a := do
    print "Converting Earth Engine JavaScripts to Python scripts...\n"
    let source := absolute (← (a "in_dir").pathOf)
    let target ← match a "out_dir" with
      | .null => pure source
      | v => do
        let s ← v.pathOf
        unless ← pathExists s do makeFolder (absolute s)
        pure (absolute s)
    let files ← filesUnder source ".js"
    let mut i := 0
    for file in files do
      i := i + 1
      print ("Processing " ++ toString i ++ "/" ++ toString files.length ++ ": " ++ file)
      let out := Text.replace ((splitExtension file).1 ++ "_geemap.py") source target
      let _ ← convertFile (optionsOf a true) file out
    pure .null

def quoteBareKeys : Nat → List Char → List Char
  | _, [] => []
  | skip + 1, _ :: r => quoteBareKeys skip r
  | 0, c :: r =>
    let isKey (c : Char) : Bool := c.isAlphanum || c == '_'
    let run := (c :: r).takeWhile isKey
    let behind := (c :: r).drop run.length
    let gap := (behind.takeWhile Text.isBlank).length
    if isKey c && (behind.drop gap).head? == some ':' then
      ['"'] ++ run ++ "\":".toList ++ quoteBareKeys (run.length + gap) r
    else c :: quoteBareKeys 0 r

def cellLines : List Line → List Line
  | [] => []
  | [l] => if (trim l).isEmpty then [] else [l]
  | l :: below :: r =>
    if trim l == "import ee".toList then cellLines (below :: r)
    else if (trim l).isEmpty && (trim below).isEmpty then cellLines (below :: r)
    else if has l ".style(" && !has l ".style(**" then
      replace l ".style(" ".style(**" :: cellLines (below :: r)
    else replace l "(\x7b" "(**\x7b" :: cellLines (below :: r)

def convertCell (o : Options) (importLibrary : Bool) (script : String) : Session (List Line) := do
  let source := here ++ "/snippet.js"
  let target := here ++ "/snippet.py"
  writeText source (String.ofList (quoteBareKeys 0 script.toList))
  let _ ← convertFile o source target
  let lines := cellLines (Chars.lines (← readText target).toList)
  removeFile source
  removeFile target
  pure (if importLibrary then "import ee\n".toList :: lines else lines)

def cellCommand : Command where
  parameters := ["in_js_snippet", opt "add_new_cell" true, opt "import_ee" true, opt "import_geemap" false, opt "show_map" true,
      opt "Map" "m"]
  run a := do
    match a "in_js_snippet" with
    | .str s =>
      try
        let o := { optionsOf a (a "show_map").truthy with desktopMap := false }
        let lines ← convertCell o (a "import_ee").truthy s
        if (a "add_new_cell").truthy then throw (.noMember "NoneType" "set_next_input")
        pure (linesValue lines)
      catch e =>
        print e.message
        pure .null
    | v => throw (.wrongType ("expected string or bytes-like object, got '" ++ v.typeName ++ "'"))

end RemoteSensing.Script
