import RemoteSensing.Script.Line

/-!
Blocks.
-/

namespace RemoteSensing.Script

open Line

def lastWord (clause : Line) : Line := (Chars.split [' '] clause).getLastD []

def stepOf (word : Line) : Line :=
  if has word "++" then "1".toList else if has word "--" then "-1".toList else word

def rangeOf (clauses : Line) : Except Fault Line :=
  let name := trim ((Chars.split ['='] clauses).headD [])
  match (Chars.split [';'] clauses).map lastWord with
  | start :: stop :: step :: _ =>
    .ok (name ++ " in range(".toList ++ start ++ ", ".toList ++ stop ++ ", ".toList ++ stepOf step ++
      "):".toList)
  | _ => .error (.outOfRange "list")

def convertLoop (line : Line) : Except Fault Line := do
  let line := replace line "var " ""
  let start ← index line "("
  let stop ← index line ")"
  let clauses := Chars.slice line (start + 1) stop
  let header ←
    if has clauses " in " && !clauses.contains ';' then pure (clauses ++ [':'])
    else rangeOf clauses
  pure (line.take start ++ header ++ line.drop (stop + 1))

def refusedLoop (v : Data) : Except Fault Fault := do
  if ← v.has "var " then return .noMember v.typeName "replace"
  match v with
  | .list xs | .tuple xs =>
    let place? (s : String) : Option Nat := xs.findIdx? fun x => x.isText s
    match place? "(", place? ")" with
    | some start, some stop =>
      let clauses : Data := .list ((xs.take stop).drop (start + 1))
      if (← clauses.has " in ") && !(← clauses.has ";") then
        pure (.wrongType ("can only concatenate " ++ v.typeName ++ " (not \"str\") to " ++ v.typeName))
      else pure (.noMember v.typeName "split")
    | _, _ => pure (.wrongValue ("not in " ++ v.typeName))
  | v => pure (.noMember v.typeName "index")

def loopCommand : Command where
  parameters := ["line"]
  run a := do
    match a "line" with
    | .str s => pure (.str (String.ofList (← convertLoop s.toList)))
    | v => throw (← refusedLoop v)

structure Reading where
  lines : List Line
  line : Line
  depth : Int

def indentBetween (lines : List Line) (i : Nat) (stop : Int) (depth : Int) : List Line :=
  let count := (linesBetween lines (i + 1) stop).length
  lines.mapIdx fun n l => if i < n && n ≤ i + count then indent l depth else l

def opensFunction (l : Line) : Bool :=
  has l "= function" || has l "=function" || starts (trim l) "function"

def functionHeader (l : Line) : Line :=
  let l := replace (replace (replace l " = function" "") "=function" "") "function " ""
  let t := Chars.trimLeft l
  if starts t "//" then "# def ".toList ++ trim (replace l "//" "") ++ [':']
  else List.replicate (l.length - t.length) ' ' ++ "def ".toList ++ trim l ++ [':']

def openFunction (r : Reading) (i : Nat) : Except Fault Reading := do
  let brace ← index r.line "\x7b"
  let (number, position) ← matchingBrace r.lines i brace
  let lines :=
    if has r.line "func_" then r.lines else indentBetween r.lines i number (r.depth + 1)
  let line := cut r.line brace
  if number = i then pure { r with lines := lines, line := functionHeader (cut line position) }
  else
    let closed := cut (lineAt lines number) position
    pure { r with lines := setLine lines number closed, line := functionHeader line }

def indentBlock (plain : Bool) : Int → List Line → List Line × Int
  | depth, [] => ([], depth)
  | depth, l :: r =>
    let after :=
      if plain then
        depth + (if l.contains '\x7b' then 1 else 0) - (if l.contains '\x7d' then 1 else 0)
      else depth
    let (rest, final) := indentBlock plain after r
    (indent l depth :: rest, final)

def conditionHeader (l : Line) : Except Fault Line := do
  let start ← index l "("
  let stop ← index l ")"
  pure ("if ".toList ++ Chars.slice l start stop ++ "):\x7b".toList)

def opensLoopOrCondition (l : Line) : Bool :=
  has l "for (" || has l "for(" || has l "if (" || has l "if("

def openBlock (r : Reading) (i : Nat) : Except Fault Reading := do
  let brace ← index r.line "\x7b"
  let (number, _) ← matchingBrace r.lines i brace
  let plain := !has r.line "if" && !has r.line "for"
  let body := linesBetween r.lines (i + 1) number
  let (indented, depth) := indentBlock plain (r.depth + 1) body
  let lines := r.lines.take (i + 1) ++ indented ++ r.lines.drop (i + 1 + body.length)
  let r := { r with lines := lines, depth := depth - 1 }
  if number = i && has r.line ":" then pure r
  else if opensLoopOrCondition r.line then
    let line ← if has r.line "if" then conditionHeader r.line else convertLoop r.line
    let lines := r.lines.set i line
    let brace ← index line "\x7b"
    let (number, position) ← matchingBrace lines i brace
    let closed := cut (lineAt lines number) position
    pure { r with lines := setLine lines number closed, line := replace line "\x7b" "" }
  else pure r

/-! Functions without a name. -/

def unindent (lines : List Line) : List Line := lines.map Chars.trimLeft

def usesMath (lines : List Line) : Bool := lines.any fun l => has l "Math."

def dense (l : Line) : Line := l.filter (· != ' ')

def goesOn (lines : List Line) (i : Nat) (l : Line) : Except Fault Bool := do
  let t := trim l
  let opens := ends t ".map("
  let opensFunction := ends t ".map(function("
  if !opens && !opensFunction then return false
  let below := dense (trim (← Value.elementAt "list" lines (i + 1)))
  pure ((opens && starts below "function(") || (opensFunction && ends below "\x7b"))

def passesFunction (l : Line) : Bool :=
  let t := dense l
  has t ".map(function" || has t "returnfunction" || has t "function("

structure Hoisting where
  lines : List Line
  output : List Line := []
  depth : Int := 0

def depthChange (l : Line) : Int :=
  (if l.contains '\x7b' then 1 else 0) - (if l.contains '\x7d' then 1 else 0)

def moveBody (h : Hoisting) (i : Nat) : List Line → Hoisting × Bool
  | [] => (h, true)
  | l :: r =>
    let moved : Hoisting :=
      { lines := h.lines.set i [], output := h.output ++ [indent l h.depth],
        depth := h.depth + depthChange l }
    if i < h.lines.length then moveBody moved (i + 1) r
    else ({ moved with lines := h.lines }, false)

def closeBody (h : Hoisting) (head name : Line) (number position : Int) : Hoisting :=
  let last := lineAt h.lines number
  let use := Chars.trimRight (head ++ name)
  let rest := trim (Chars.slice last (position + 1) last.length)
  let closesCall := rest == ")".toList || rest == ");".toList
  { lines := setLine h.lines number (if closesCall then [] else rest)
    output := h.output ++ [Chars.slice last 0 (position + 1), if closesCall then use ++ rest else use]
    depth := h.depth - 1 }

def reportFunction (i : Nat) (l : Line) (cause : String) : Session Unit :=
  Session.print ("An error occurred: " ++ cause ++ ". The closing curly bracket could not be found in Line " ++
    toString (i + 1) ++ ": " ++ String.ofList l ++ ". Please reformat the function definition and make sure " ++
    "that both the opening and closing curly brackets appear on the same line as the function keyword. ")

def takeOut (inner : List Line → Session (List Line)) (i : Nat) (l : Line) (h : Hoisting) :
    Session Hoisting := do
  let found : Except Fault (Int × Int × Nat) := do
    let brace ← index l "\x7b"
    let (number, position) ← matchingBrace h.lines i brace
    pure (number, position, ← index l "function")
  match found with
  | .error e =>
    reportFunction i l e.message
    pure h
  | .ok (number, position, start) =>
    let name := "func_".toList ++ (← Session.freshName).toList
    let header := Chars.replace "function".toList ("function ".toList ++ name) (l.drop start)
    let h := { h with output := h.output ++ ["\n".toList, header], depth := h.depth + 1 }
    try
      let body ← inner (linesBetween h.lines (i + 1) number)
      let (h, whole) := moveBody h (i + 1) body
      if whole then pure (closeBody h (l.take start) name number position)
      else
        reportFunction i l "list assignment index out of range"
        pure h
    catch e =>
      reportFunction i l e.message
      pure h

def hoistLine (inner : List Line → Session (List Line)) (h : Hoisting) (i : Nat) : Session Hoisting := do
  let l := lineAt h.lines i
  if ← goesOn h.lines i l then
    pure { h with lines := h.lines.set (i + 1) (l ++ lineAt h.lines (i + 1)) }
  else if passesFunction l then takeOut inner i l h
  else pure { h with output := h.output ++ [l] }

def hoistWithin : Nat → List Line → Session (List Line)
  | 0, lines => pure lines
  | depth + 1, lines => do
    let h ← (List.range lines.length).foldlM (hoistLine (hoistWithin depth)) ⟨lines, [], 0⟩
    pure h.output

def hoist (lines : List Line) : Session (List Line) := hoistWithin (lines.length + 1) lines

def hoistCommand : Command where
  parameters := ["input_lines"]
  run a := do
    pure (linesValue (← hoist (← linesOf (a "input_lines") fun v => .noMember v.typeName "strip")))

def unindentCommand : Command where
  parameters := ["input_lines"]
  run a := do
    pure (linesValue (unindent (← linesOf (a "input_lines") fun v => .noMember v.typeName "lstrip")))

def mathCommand : Command where
  parameters := ["lines"]
  run a := do
    let found ← (← (a "lines").elements).mapM fun l => (l.has "Math." : Except Fault Bool)
    pure (.bool (found.any id))

end RemoteSensing.Script
