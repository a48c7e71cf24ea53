import RemoteSensing.Command

/-!
Lines of a script.
-/

namespace RemoteSensing.Script

open Chars

abbrev Line := List Char

def notFound : Fault := .wrongValue "substring not found"

namespace Line

def has (l : Line) (s : String) : Bool := contains l s.toList

def starts (l : Line) (s : String) : Bool := s.toList.isPrefixOf l

def ends (l : Line) (s : String) : Bool := s.toList.isSuffixOf l

def replace (l : Line) (old new : String) : Line := Chars.replace old.toList new.toList l

def index (l : Line) (s : String) : Except Fault Nat :=
  match find? s.toList l with
  | some i => .ok i
  | none => .error notFound

def trim (l : Line) : Line := Chars.trim l

def cut (l : Line) (i : Int) : Line :=
  slice l 0 i ++ slice l (i + 1) l.length

def indent (l : Line) (steps : Int) : Line := List.replicate (4 * steps.toNat) ' ' ++ l

end Line

def lineAt (lines : List Line) (i : Int) : Line :=
  match Value.elementAt "list" lines i with
  | .ok l => l
  | .error _ => []

def setLine (lines : List Line) (i : Int) (l : Line) : List Line :=
  lines.set (if i < 0 then i + lines.length else i).toNat l

def linesBetween (lines : List Line) (a : Nat) (b : Int) : List Line :=
  (lines.take (clamp lines.length b)).drop a

/-! Words and operators. -/

def respellings : List (String × String) :=
  [("/*", "#"), ("*/", "#"), ("true", "True"), ("false", "False"), ("null", "None"), (".or", ".Or"),
    (".and", ".And"), (".not", ".Not"), ("visualize(\x7b", "visualize(**\x7b"), ("Math.PI", "math.pi"),
    ("Math.", "math."), ("parseInt", "int"), ("NotNull", "notNull"), ("= new", "="), ("exports.", "")]

def laterRespellings : List (String × String) :=
  [("Export.table.toDrive", "geemap.ee_export_vector_to_drive"),
    ("Export.table.toAsset", "geemap.ee_export_vector_to_asset"),
    ("Export.image.toAsset", "geemap.ee_export_image_to_asset"),
    ("Export.video.toDrive", "geemap.ee_export_video_to_drive"), ("||", "or"), ("\\****", "#"),
    ("def =", "_def ="), (", def, ", ", _def, "), ("(def, ", "(_def, "), (", def)", ", _def)"),
    ("===", "==")]

def respellAll (rs : List (String × String)) (l : Line) : Line :=
  rs.foldl (fun l r => Line.replace l r.1 r.2) l

def respell (mapName : String) (l : Line) : Line :=
  let l := Line.replace l "//" "#"
  let l := replaceFirst "var ".toList [] l
  let l := respellAll respellings l
  respellAll laterRespellings (Line.replace l "Map." (mapName ++ "."))

def respellNegation (l : Line) : Session Line := do
  match find? ['!'] l with
  | none => pure l
  | some i =>
    match (l.filter (· != ' '))[i + 1]? with
    | some c => pure (if c = '=' then l else Line.replace l "!" "not ")
    | none =>
      Session.print "continue..."
      pure l

def respellConcat (l : Line) : Line :=
  if Line.has l "concat" then
    Line.replace (Line.replace (Line.replace l ".concat(" "+") "," "+") ")" ""
  else l

def dropOptions : Nat → Line → Line
  | _, [] => []
  | skip + 1, _ :: r => dropOptions skip r
  | 0, c :: r =>
    let run := r.takeWhile (· != ')')
    if c = ',' && !run.isEmpty && Line.starts (r.drop run.length) ");" then dropOptions run.length r
    else c :: dropOptions 0 r

def dropColourRemark (l : Line) : Except Fault Line := do
  if Line.has l "/* color" && Line.has l "*/" then
    let start ← Line.index l "/*"
    let stop ← Line.index l "*/"
    pure (trimLeft (l.take start) ++ l.drop (stop + 2))
  else pure l

/-! Matching brackets. -/

def closing? : Char → Option Char
  | '\x7b' => some '\x7d'
  | '(' => some ')'
  | '[' => some ']'
  | _ => none

inductive Scan where
  | closed (position : Nat)
  | pending (depth : Nat)
  | stray
deriving DecidableEq, Repr

def scanLine (opening closing : Char) (depth i : Nat) : Line → Scan
  | [] => .pending depth
  | c :: r =>
    if c = closing then
      match depth with
      | 0 => .stray
      | 1 => .closed i
      | d + 2 => scanLine opening closing (d + 1) (i + 1) r
    else if c = opening then scanLine opening closing (depth + 1) (i + 1) r
    else if depth = 0 then .closed i
    else scanLine opening closing depth (i + 1) r

def scanLines (opening closing : Char) (depth : Nat) :
    List (Int × Int × Line) → Except Fault (Option (Int × Int))
  | [] => .ok none
  | (number, offset, l) :: r =>
    match scanLine opening closing depth 0 l with
    | .closed i => .ok (some (number, offset + i))
    | .pending d => scanLines opening closing d r
    | .stray => .error .strayBracket

def searchLines (lines : List Line) (number start : Int) : Except Fault (List (Int × Int × Line)) :=
  let count := (lines.length - number).toNat
  (List.range count).mapM fun (n : Nat) => do
    let l ← Value.elementAt "list" lines (number + n)
    pure (if n = 0 then (number, start, slice l start l.length) else (number + n, 0, l))

def matching? (lines : List Line) (number start : Int) (opening closing : Char) :
    Except Fault (Option (Int × Int)) := do
  scanLines opening closing 0 (← searchLines lines number start)

def matchingBrace (lines : List Line) (number start : Int) : Except Fault (Int × Int) := do
  pure ((← matching? lines number start '\x7b' '\x7d').getD (-1, -1))

def linesOf (v : Data) (fault : Data → Fault) : Except Fault (List Line) := do
  (← v.elements).mapM fun x =>
    match x with
    | .str s => .ok s.toList
    | x => .error (fault x)

def linesValue (lines : List Line) : Data := .list (lines.map fun l => .str (String.ofList l))

def itemsOf (line : Data) : Except Fault Line := do
  pure ((← line.elements).map fun x =>
    match x with
    | .str s => match s.toList with
      | [c] => c
      | _ => ' '
    | _ => ' ')

def lineFrom (line start : Data) : Except Fault Data := do
  let first ← match start with
    | .null => pure 0
    | .int i => pure i
    | .bool b => pure (if b then 1 else 0)
    | _ => throw (.wrongType "slice indices must be integers or None or have an __index__ method")
  match line.len with
  | .ok n => line.slice first n
  | .error _ => line.slice first 0

def matchingIn (lines start : Data) (opening closing : Char) (first : Int) :
    Nat → Nat → Int → Except Fault (Option (Int × Data))
  | 0, _, _ => .ok none
  | left + 1, depth, number => do
    let line ← lines.nth number
    let line ← if number = first then lineFrom line start else pure line
    match scanLine opening closing depth 0 (← itemsOf line) with
    | .closed i =>
      let position ← if number = first then start.add (.int i) else pure (.int i)
      pure (some (number, position))
    | .pending d => matchingIn lines start opening closing first left d (number + 1)
    | .stray => throw .strayBracket

def matchingCommand : Command where
  parameters := ["lines", "start_line_index", "start_char_index", opt "matching_char" "\x7b"]
  run a := do
    let unmatched : Data := .tuple [.int (-1), .int (-1)]
    (a "matching_char").checkKey
    let partner : Option (Char × Char) := match a "matching_char" with
      | .str s => match s.toList with
        | [c] => (closing? c).map fun d => (c, d)
        | _ => none
      | _ => none
    match partner with
    | some (o, c) =>
      let count ← (a "lines").len
      let number ← (a "start_line_index").index
      match ← matchingIn (a "lines") (a "start_char_index") o c number ((count : Int) - number).toNat 0 number with
      | some (line, position) => pure (.tuple [.int line, position])
      | none => pure unmatched
    | none =>
      Session.print "The matching character must be one of the following: \x7b, (, ["
      pure unmatched

/-! Keys of object literals. -/

def hasQuote (l : Line) : Bool := l.contains '"' || l.contains '\''

def quoted (l : Line) : Line := ['\''] ++ l ++ ['\'']

def quoteSingleKey (part : Line) : Line :=
  let key := Line.trim part
  if hasQuote key then part else Chars.replace key (quoted key) part

def quoteLastKey (part : Line) : Line :=
  if part.contains ',' then
    let pieces := Chars.split [','] part
    let key := pieces.getLastD []
    if hasQuote key then part
    else Chars.join ", ".toList (pieces.dropLast ++ [quoted (Line.trim key)])
  else if hasQuote part then part
  else
    let key := Line.trim part
    List.replicate (part.length - key.length) ' ' ++ quoted key

def quoteParts (parts : List Line) : List Line :=
  let edit := if parts.length = 2 then quoteSingleKey else quoteLastKey
  parts.dropLast.map edit ++ [parts.getLastD []]

def quoteKeys (sep line : Line) : Except Fault Line :=
  if Line.starts (Line.trim line) "for" then .ok line
  else
    let brace := Chars.find? ['\x7b'] line
    match Chars.positions sep line, brace with
    | [], some _ => .error (.outOfRange "list")
    | [], none => .ok line
    | first :: _, brace =>
      let start := match brace with
        | some b => if b < first then b + 1 else 0
        | none => 0
      .ok (line.take start ++ Chars.join [':'] (quoteParts (Chars.split sep (line.drop start))))

def keysCommand : Command where
  parameters := ["line", opt "sep" ":"]
  run a := do
    let line ← (a "line").strOf "strip"
    match a "sep" with
    | .str sep => pure (.str (String.ofList (← quoteKeys sep.toList line.toList)))
    | v =>
      if Line.starts (Line.trim line.toList) "for" then pure (.str line)
      else throw (.wrongType ("must be str, not " ++ v.typeName))

end RemoteSensing.Script
