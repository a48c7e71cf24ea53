import RemoteSensing.Command

/-!
Files and folders that a caller names, pages with pictures, and scripts that load other scripts.
-/

namespace RemoteSensing.Folder

open Chars Session Text

def check (path : Data) (make : Bool) : Session String := do
  match path with
  | .str s =>
    let full := Path.full s
    if !(← pathExists full) && make then makeFolder full
    if ← pathExists full then pure full
    else reject .missingFile "The provided directory could not be found."
  | _ => reject .type "The provided directory path must be a string."

def checkFile (path : Data) (make : Bool := true) : Session String := do
  match path with
  | .str s =>
    let full := Path.full s
    let folder := Path.folder full
    if !(← pathExists folder) && make then makeFolder folder
    pure full
  | _ => reject .type "The provided file path must be a string."

def checkCommand : Command where
  parameters := ["dir_path", opt "make_dirs" true]
  run a := do pure (.str (← check (a "dir_path") (a "make_dirs").truthy))

def checkFileCommand : Command where
  parameters := ["file_path", opt "make_dirs" true]
  run a := do pure (.str (← checkFile (a "file_path") (a "make_dirs").truthy))

def decoded (encoding : Data) (s : String) : Except Fault String := do
  match encoding with
  | .str name =>
    if s.isEmpty then pure s else Session.decodeAs (← Session.encodingOf name) (bytesOf s)
  | v =>
    throw (.wrongType ("decode() argument 'encoding' must be str, not " ++ (if v.isNull then "None" else v.typeName)))

def readPage (url form encoding : Data) : Session Data := do
  if form.isText "list" then
    let text ← openPage url.display
    let lines ← ((Text.lines text).mapM (decoded encoding) : Except Fault (List String))
    pure (.list (lines.map fun l => .str (trimRight l)))
  else if form.isText "string" then
    pure (.str (← decoded encoding (← openPage url.display)))
  else reject .value "The return type must be either list or string."

def readPageCommand : Command where
  parameters := ["url", opt "return_type" "list", opt "encoding" "utf-8"]
  run a := readPage (a "url") (a "return_type") (a "encoding")

def pictureSource (s : List Char) : Option (List Char × Nat) :=
  let isQuote (c : Char) : Bool := c == '"' || c == '\''
  if !"src".toList.isPrefixOf s then none
  else
    let s₁ := (s.drop 3).dropWhile Text.isBlank
    if s₁.head? != some '=' then none
    else
      let s₂ := (s₁.drop 1).dropWhile Text.isBlank
      if !s₂.head?.any isQuote then none
      else
        let name := (s₂.drop 1).takeWhile fun c => !isQuote c && c != ':'
        let s₃ := s₂.drop (1 + name.length)
        if name.isEmpty || !s₃.head?.any isQuote then none
        else
          let s₄ := (s₃.drop 1).dropWhile (· != '>')
          if s₄.isEmpty then none else some (name, s.length - s₄.length + 1)

def lastSource (s : List Char) : Nat → Option (List Char × Nat)
  | 0 => none
  | k + 1 =>
    match pictureSource (s.drop (k + 1)) with
    | some (name, length) => some (name, k + 1 + length)
    | none => lastSource s k

def pictures : Nat → List Char → List (List Char)
  | _, [] => []
  | skip + 1, _ :: r => pictures skip r
  | 0, c :: r =>
    let s := c :: r
    if "<img".toList.isPrefixOf s then
      let body := s.drop 4
      match lastSource body (body.takeWhile (· != '>')).length with
      | some (name, length) => name :: pictures (length + 3) r
      | none => pictures 0 r
    else pictures 0 r

def embedPictures (page : String) : Session String := do
  let mut result := page
  for name in pictures 0 page.toList do
    let file := String.ofList name
    let bytes := (← readRaw file).toUTF8.toList
    result := Text.replace result ("src=\"" ++ file ++ "\"")
      ("src=\"data:image/png;base64," ++ String.ofList (base64 bytes) ++ "\"")
  pure result

def embedPicturesCommand : Command where
  parameters := ["html_string"]
  run a :=
    match a "html_string" with
    | .str s => do pure (.str (← embedPictures s))
    | v => throw (.wrongType ("expected string or bytes-like object, got '" ++ v.typeName ++ "'"))

def ownerSpan (line : List Char) (before : Option (Nat × Nat)) : Except Fault (Nat × Nat) :=
  let span (mark : String) (length : Nat) : Except Fault (Nat × Nat) :=
    match find? mark.toList line with
    | none => .error (.wrongValue "substring not found")
    | some start =>
      match findFrom ['/'] line (start + length) with
      | none => .error (.wrongValue "substring not found")
      | some stop => .ok (start, stop)
  if contains line "users/".toList then span "users/" 6
  else if contains line "projects".toList then span "projects/" 9
  else match before with
    | some s => .ok s
    | none => .error (.unassigned "start_index")

def loadsScript (line : List Char) : Bool :=
  contains line "require(".toList && line.contains ':' &&
    !"//".toList.isPrefixOf (trim line)

def localLines : Option (Nat × Nat) → List (List Char) → Except Fault (List (List Char))
  | _, [] => .ok []
  | before, l :: r =>
    if loadsScript l then do
      let (start, stop) ← ownerSpan l before
      let owner := slice l start stop
      let new := replace [':'] ['/'] (replace owner Path.here.toList l)
      pure (("// ".toList ++ l) :: new :: (← localLines (some (start, stop)) r))
    else do pure (l :: (← localLines before r))

def locateScript (path : String) : Session String := do
  if startsWith path "http" then
    let url := if startsWith path "https://github.com" && contains path "blob" then
      replace path "blob" "raw" else path
    let name := Path.base url
    let reply ← fetch url
    writeBody name reply.body
    pure name
  else if (startsWith path "user" || startsWith path "projects") && contains path ":" then
    let cs := path.toList
    match find? ['/'] cs with
    | none => throw (.wrongValue "substring not found")
    | some first =>
      match findFrom ['/'] cs (first + 1) with
      | none => throw (.wrongValue "substring not found")
      | some second => pure (replace (String.ofList (cs.drop (second + 1))) ":" "/")
  else pure path

def localise (path : Data) : Session Data := do
  match path with
  | .str s =>
    let file ← locateScript s
    unless ← pathExists file do reject .value (file ++ " does not exist.")
    let lines := Chars.lines (← readText file).toList
    let result ← localLines none lines
    writeText file (String.ofList result.flatten)
    pure (.str file)
  | _ => reject .value "lib_path must be a string."

def localiseCommand : Command where
  parameters := ["lib_path"]
  run a := localise (a "lib_path")

def renameAllKeysCommand : Command where
  parameters := ["d"]
  run a := pure (a "d").renameAllKeys

def renameKeysCommand : Command where
  parameters := ["d"]
  run a := pure (a "d").renameKeys

def roundCommand : Command where
  parameters := ["num", opt "decimal" 2]
  run a := do (a "num").round (a "decimal")

end RemoteSensing.Folder

/-!
Web addresses.
-/

namespace RemoteSensing.Address

def raw (url : String) : String :=
  if Text.startsWith url "https://github.com/" && Text.contains url "blob" then
    Text.replaceFirst (Text.replace url "github.com" "raw.githubusercontent.com") "blob/" ""
  else url

def rawCommand : Command where
  parameters := ["url"]
  run a :=
    match a "url" with
    | .str s => pure (.str (raw s))
    | v => pure v

def final (url : Data) : Session Data := do
  match url with
  | .str s =>
    unless Text.startsWith s "http" do Session.reject .value "url must start with http."
    let reply ← Session.request "HEAD" s
    pure (.str (reply.url.getD s))
  | _ => Session.reject .value "url must be a string."

def finalCommand : Command where
  parameters := ["url"]
  run a := final (a "url")

def isHostChar (c : Char) : Bool := Text.isWord c || c == '.'

def bareHosts : Nat → List Char → List Char
  | _, [] => []
  | skip + 1, _ :: r => bareHosts skip r
  | 0, c :: r =>
    let mark := "http://".toList
    let s := c :: r
    if mark.isPrefixOf s then
      let host := (s.drop mark.length).takeWhile isHostChar
      let behind := s.drop (mark.length + host.length)
      let digits := (behind.drop 1).takeWhile fun d => (Text.decimal? d).isSome
      if !host.isEmpty && behind.head? == some ':' && !digits.isEmpty then
        mark ++ host ++ bareHosts (mark.length + host.length + digits.length) r
      else c :: bareHosts 0 r
    else c :: bareHosts 0 r

def bareHostsCommand : Command where
  parameters := ["data"]
  run a :=
    match a "data" with
    | .str s => pure (.str (String.ofList (bareHosts 0 s.toList)))
    | v => throw (.wrongType ("expected string or bytes-like object, got '" ++ v.typeName ++ "'"))

end RemoteSensing.Address
