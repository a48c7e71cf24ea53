import RemoteSensing.Script.Line

/-!
Notebooks and downloaded scripts.
-/

namespace RemoteSensing.Script

open Line Session RemoteSensing.Text

def skipBlank : List Line → Except Fault (List Line)
  | [] => .error (.outOfRange "list")
  | l :: r => if (trim l).isEmpty then skipBlank r else .ok (l :: r)

def afterImport (mapName : String) : List Line → Except Fault (Option (List Line))
  | [] => .ok none
  | l :: r =>
    if has l "from ee_plugin import Map" then (skipBlank r).map some
    else if has l (mapName ++ " = geemap.Map()") then .ok (some r)
    else afterImport mapName r

def lastWith (s : String) (lines : List Line) : Option Nat :=
  (lines.zipIdx.filter fun l => has l.1 s).getLast?.map (·.2)

def templateHeader (lines : List Line) : List Line :=
  match lastWith "## Add Earth Engine Python script" lines with
  | some i => lines.take (i + 6)
  | none => []

def templateFooter (lines : List Line) : List Line :=
  let start : Int := match lastWith "## Display the interactive map" lines with
    | some i => (i : Int) - 2
    | none => 0
  "\n".toList :: lines.drop (Chars.clamp lines.length start)

def linesOfFile (path : String) : Session (List Line) := do
  pure (Chars.lines (← readText path).toList)

def afterImportCommand : Command where
  parameters := ["in_file", opt "Map" "m"]
  run a := do
    let lines ← linesOfFile (← (a "in_file").strOf "path")
    match ← afterImport (a "Map").display lines with
    | some r => pure (linesValue r)
    | none => pure .null

def templateHeaderCommand : Command where
  parameters := ["in_template"]
  run a := do pure (linesValue (templateHeader (← linesOfFile (← (a "in_template").strOf "path"))))

def templateFooterCommand : Command where
  parameters := ["in_template"]
  run a := do pure (linesValue (templateFooter (← linesOfFile (← (a "in_template").strOf "path"))))

def relink (place : Line) (l : Line) : Except Fault Line := do
  let put (mark : String) : Except Fault Line := do
    let start := (← index l mark) + mark.length
    let stop := (← index l ".ipynb") + 6
    pure (Chars.replace (Chars.slice l start stop) place l)
  if has l "master?filepath=" then put "master?filepath="
  else if has l "/master/" then put "/master/"
  else pure l

def nameOr (v : Data) (default : String) : Except Fault String :=
  match v with
  | .null => pure default
  | .str s => pure s
  | v => throw (.wrongType ("must be str, not " ++ v.typeName))

def relinkHeader (user : Data) (repository : String) (place : Line) (lines : List Line) :
    Except Fault (List Line) := do
  let third ← Value.elementAt "list" lines 2
  let brace ← index third "\x7b"
  let (number, _) ← matchingBrace lines 2 brace
  let stop := Chars.clamp lines.length number
  let user ← nameOr user "giswqs"
  let header ← (lines.take stop).mapM fun l =>
    relink place (replace (replace l "giswqs" user) "geemap" repository)
  pure (header ++ lines.drop stop)

def relinkFile (path : String) (user repository : Data) : Session Unit := do
  let repository ← nameOr repository "geemap"
  let i ← index path.toList repository
  let place := path.toList.drop (i + repository.length + 1)
  let lines ← relinkHeader user repository place (← linesOfFile path)
  writeText path (String.ofList lines.flatten)

def relinkCommand : Command where
  parameters := ["in_file", opt "github_username", opt "github_repo"]
  run a := do
    relinkFile (← (a "in_file").strOf "index") (a "github_username") (a "github_repo")
    pure .null

def withoutCheckpoints : List String → List String
  | [] => []
  | [p] => if Text.contains p ".ipynb_checkpoints" then [] else [p]
  | p :: q :: r =>
    if Text.contains p ".ipynb_checkpoints" then q :: withoutCheckpoints r
    else p :: withoutCheckpoints (q :: r)

def relinkFolderCommand : Command where
  parameters := ["in_dir", opt "github_username", opt "github_repo"]
  run a := do
    let folder := Path.tidy (← (a "in_dir").pathOf)
    let full := Path.absolute folder
    let found ← filesUnder full ".ipynb"
    let files := withoutCheckpoints (found.map fun f => Path.join folder (Text.sliceFrom f (full.length + 1)))
    let mut i := 0
    for file in files do
      i := i + 1
      print ("Processing " ++ toString i ++ "/" ++ toString files.length ++ ": " ++ file ++ " ...")
      relinkFile file (a "github_username") (a "github_repo")
    pure .null

def embeddedLines (l : Line) : List Line :=
  let parts := Chars.split "\\n".toList l
  parts.tail.dropLast.map fun part =>
    replace (replace (replace part "\\\"" "\"") "\\\\" "\n") "\\r" ""

def sourceAddress (url : String) : Except Fault String :=
  match Text.split url "/" with
  | a :: b :: c :: _ :: e :: r =>
    .ok (Text.join "/" (a :: b :: c :: "javascript" :: (e ++ "-modules.json") :: r))
  | parts => .error (.outOfRange (if parts.length < 4 then "list assignment" else "list"))

def downloadApp (url : String) (target : Data) : Session Unit := do
  let source ← sourceAddress url
  print ("The json url: " ++ source)
  let path ← match target with
    | .null => pure (Path.here ++ "/" ++ Path.base url ++ ".js")
    | v => do
      let t ← v.strOf "endswith"
      pure (if Text.endsWith t "js" then t else t ++ ".js")
  let folder := Path.folder path
  unless ← pathExists folder do makeFolder folder
  let kept := path ++ "on"
  try writeText kept (← openPage source)
  catch _ => reject .general "The URL is invalid. Please double check the URL."
  writeText path ""
  let lines := (Chars.lines (← readText kept).toList).flatMap embeddedLines
  writeText path (String.ofList (lines.flatMap fun l => l ++ ['\n']))
  removeFile kept
  print ("The JavaScript is saved at: " ++ path)

def downloadAppCommand : Command where
  parameters := ["url", opt "out_file"]
  run a := do
    downloadApp (← (a "url").pathOf) (a "out_file")
    pure .null

/-!
Short scripts.
-/

abbrev Pattern := Option Char → List Char → Option Nat

def substituteFrom (p : Pattern) (new : List Char) : Nat → Option Char → List Char → List Char
  | _, _, [] => []
  | skip + 1, _, c :: r => substituteFrom p new skip (some c) r
  | 0, before, c :: r =>
    match p before (c :: r) with
    | some (n + 1) => new ++ substituteFrom p new n (some c) r
    | _ => c :: substituteFrom p new 0 (some c) r

def substitute (p : Pattern) (new : List Char) (s : List Char) : List Char :=
  substituteFrom p new 0 none s

def blanks (s : List Char) : Nat := (s.takeWhile isBlank).length

/-- A text, behind no word and before no word where asked. -/
def fixed (left right : Bool) (t : List Char) : Pattern := fun before s =>
  if t.isPrefixOf s && !(left && isWordAt before) && !(right && isWordAt (s.drop t.length).head?) then some t.length
  else none

def declaration (word : List Char) : Pattern := fun before s =>
  if word.isPrefixOf s && !isWordAt before && 0 < blanks (s.drop word.length) then
    some (word.length + blanks (s.drop word.length))
  else none

def opening (left : Bool) (name : List Char) : Pattern := fun before s =>
  let rest := s.drop name.length
  if name.isPrefixOf s && !(left && isWordAt before) && (rest.drop (blanks rest)).head? == some '(' then
    some (name.length + blanks rest + 1)
  else none

def atLineEnd (mark : Char) : Pattern := fun _ s =>
  match s with
  | [c] => if c = mark then some 1 else none
  | c :: d :: _ => if c = mark && d = '\n' then some 1 else none
  | [] => none

def blanksToLineFeed (s : List Char) : Nat :=
  ((s.takeWhile isBlank).reverse.dropWhile (· != '\n')).length

def beforeLineFeed (mark : Char) : Pattern := fun _ s =>
  match s with
  | c :: r => if c = mark && 0 < blanksToLineFeed r then some (1 + blanksToLineFeed r) else none
  | [] => none

def replacements : List (Pattern × String) :=
  [(declaration "var".toList, ""), (declaration "let".toList, ""), (declaration "const".toList, ""),
    (fixed false false "//".toList, "#"), (opening true "print".toList, "print("),
    (opening false "Map.addLayer".toList, "Map.add_ee_layer("),
    (opening false "Map.centerObject".toList, "Map.center_object("),
    (opening false "Map.setCenter".toList, "Map.set_center("),
    (fixed false true ".length".toList, ".size()"),
    (fixed true true "true".toList, "True"), (fixed true true "false".toList, "False"),
    (fixed true true "null".toList, "None"),
    (atLineEnd ';', ""), (beforeLineFeed ';', "\n")]

def replaceAll (s : List Char) : List Char :=
  replacements.foldl (fun text r => substitute r.1 r.2.toList text) s

def withImport (s : List Char) : List Char :=
  if !Chars.contains s "import ee".toList && Chars.contains s "ee.".toList then
    "import ee\n\n".toList ++ s
  else s

def withSignIn (s : List Char) : List Char :=
  if !Chars.contains s "ee.Initialize".toList && Chars.contains s "ee.".toList then
    substitute (fixed false false "import ee\n".toList) "import ee\nee.Initialize()\n".toList s
  else s

def foldBlankLines (s : List Char) : List Char :=
  Chars.trim (substitute (beforeLineFeed '\n') "\n\n".toList s)

def convertSnippet (s : List Char) : List Char :=
  foldBlankLines (withSignIn (withImport (replaceAll s)))

def snippetCommand : Command where
  parameters := ["js_code"]
  run a :=
    match a "js_code" with
    | .str s => pure (.str (String.ofList (convertSnippet s.toList)))
    | v => throw (.wrongType ("expected string or bytes-like object, got '" ++ v.typeName ++ "'"))

end RemoteSensing.Script
