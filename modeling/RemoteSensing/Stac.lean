import RemoteSensing.Command

/-!
Instants and intervals of a catalogue.
-/

namespace RemoteSensing.Stac

open Value

abbrev Reading (α : Type) := List Char → List (α × List Char)

def digits (n : Nat) : Reading Nat := fun s =>
  let ds := s.take n
  if ds.length = n && ds.all Char.isDigit then
    [(ds.foldl (fun a c => a * 10 + (c.toNat - '0'.toNat)) 0, s.drop n)]
  else []

def oneOrTwo : Reading Nat := fun s => digits 2 s ++ digits 1 s

def after {α : Type} (c : Char) (p : Reading α) : Reading α := fun s =>
  match s with
  | d :: r => if d = c then p r else []
  | [] => []

def maybeColon {α : Type} (p : Reading α) : Reading α := fun s => after ':' p s ++ p s

def maybe {α : Type} (p : Reading α) : Reading (Option α) := fun s =>
  (p s).map (fun e => (some e.1, e.2)) ++ [(none, s)]

def both {α β : Type} (p : Reading α) (q : Reading β) : Reading (α × β) := fun s =>
  (p s).flatMap fun e => (q e.2).map fun f => ((e.1, f.1), f.2)

def fraction : Reading Nat := fun s =>
  match s with
  | c :: r =>
    let ds := r.takeWhile Char.isDigit
    if (c = '.' || c = ',') && !ds.isEmpty then
      let six := (ds ++ List.replicate 6 '0').take 6
      [(six.foldl (fun a d => a * 10 + (d.toNat - '0'.toNat)) 0, r.drop ds.length)]
    else []
  | [] => []

def zone : Reading Int := fun s =>
  let hours := both (digits 2) (maybeColon (maybe (digits 2)))
  let minutes (e : Nat × Option Nat) : Int := (e.1 * 60 + e.2.getD 0 : Nat)
  match s with
  | 'Z' :: r => [(0, r)]
  | '+' :: r => (hours r).map fun e => (minutes e.1, e.2)
  | '-' :: r => (hours r).map fun e => (-minutes e.1, e.2)
  | _ => []

def seconds : Reading (Nat × Option Nat) := both (maybeColon oneOrTwo) (maybe fraction)

def timeOfDay : Reading (Nat × Option Nat × Option (Nat × Option Nat) × Option Int) := fun s =>
  let rest := both (digits 2) (both (maybe (maybeColon (digits 2))) (both (maybe seconds) (maybe zone)))
  after ' ' rest s ++ after 'T' rest s

def atEnd (s : List Char) : Bool := s.isEmpty || s == ['\n']

def month : Reading Nat := fun s =>
  after '-' oneOrTwo s ++ (digits 2 s).filter fun e => !atEnd e.2

def day : Reading Nat := fun s => after '-' oneOrTwo s ++ digits 2 s

def instantText : Reading (Nat × Option (Nat × Option (Nat × Option
    (Nat × Option Nat × Option (Nat × Option Nat) × Option Int)))) :=
  both (digits 4) (maybe (both month (maybe (both day (maybe timeOfDay)))))

/-- The reader of instants that a session has unless it is given another one. -/
def readInstant? (s : String) : Option Moment := do
  let (year, rest) ← ((instantText s.toList).find? fun e => atEnd e.2).map (·.1)
  let monthPart := rest.map (·.1)
  let dayPart := rest.bind (·.2)
  let time := dayPart.bind (·.2)
  let date : Date := ⟨year, monthPart.getD 1, (dayPart.map (·.1)).getD 1⟩
  let (hour, minute, second, micro, offset) : Nat × Nat × Nat × Nat × Int :=
    match time with
    | some (h, m, sec, z) => (h, m.getD 0, (sec.map (·.1)).getD 0, (sec.bind (·.2)).getD 0, z.getD 0)
    | none => (0, 0, 0, 0, 0)
  if date.isValid && 1 ≤ year && hour < 24 && minute < 60 && second < 60 && offset.natAbs < 24 * 60 then
    let day : Int := date.toDays * Moment.perDay
    let clock : Nat := ((hour * 60 + minute) * 60 + second) * 1000000 + micro
    some ⟨day + clock - offset * 60000000, some offset⟩
  else none

/-- How a text is read as an instant is the affair of another library, so every search is given its reader. -/
abbrev Reader := String → Option Moment

variable {ν : Type} [Scalar ν]

def readInstant (read : Reader) (v : Value ν) : Except Fault Moment :=
  match v with
  | .str s =>
    match read s with
    | some m => .ok m
    | none => .error (.badInstant s)
  | v => .error (.badInstant v.typeName)

structure Interval where
  start : Moment
  stop : Option Moment
deriving Inhabited

def instantValue : Option Moment → Value ν
  | some m => .moment m
  | none => .null

def meets (now start stop from_ to_ : Value ν) : Except Fault Bool := do
  let stop := if stop.isNull then now else stop
  if !(← to_.gt start) then pure false else from_.le stop

def covers (now start stop instant : Value ν) : Except Fault Bool := do
  let stop := if stop.isNull then now else stop
  if !(← start.le instant) then pure false else instant.le stop

/-! Collections of a catalogue. -/

structure Box (ν : Type) where
  west : Value ν
  south : Value ν
  east : Value ν
  north : Value ν
deriving Inhabited

namespace Box

def toValue (b : Box ν) : Value ν := .extent b.west b.south b.east b.north

def ofValue (v : Value ν) : Except Fault (Box ν) :=
  match v with
  | .extent w s e n => .ok ⟨w, s, e, n⟩
  | v => .error (.noMember v.typeName "west")

def globe : Box ν := ⟨.int (-180), .int (-90), .int 180, .int 90⟩

def isGlobe (b : Box ν) : Bool :=
  b.west.same globe.west && b.south.same globe.south && b.east.same globe.east && b.north.same globe.north

def disordered (corner : String) (corners : Value ν) : Fault :=
  .rejected .value ("The smaller (" ++ corner ++ ") coordinate must be listed first in a bounding box corner list. Found " ++
    corners.display)

def ofCorners (corners : Value ν) : Except Fault (Box ν) := do
  let west ← corners.nth 0
  let east ← corners.nth 2
  if ← west.gt east then throw (disordered "west" corners)
  let south ← corners.nth 1
  let north ← corners.nth 3
  if ← south.gt north then throw (disordered "south" corners)
  pure ⟨west, south, east, north⟩

def toCorners (b : Box ν) : Value ν := .list [b.west, b.south, b.east, b.north]

def overlaps (b query : Box ν) : Except Fault Bool := do
  if !(← query.west.lt b.east) then pure false
  else if !(← query.east.gt b.west) then pure false
  else if !(← query.south.lt b.north) then pure false
  else query.north.gt b.south

end Box

structure Collection (ν : Type) where
  fields : Fields (Value ν)
deriving Inhabited

namespace Collection

def toValue (c : Collection ν) : Value ν := .record c.fields

def ofValue (v : Value ν) : Except Fault (Collection ν) := do
  let fs ← v.fieldsOf "get"
  match lookup "gee:status" fs with
  | some (.str "deprecated") => pure ⟨insert "deprecated" (.bool true) fs⟩
  | _ => pure ⟨fs⟩

def part (c : Collection ν) (key : String) : Except Fault (Value ν) := c.toValue.item key

def part? (c : Collection ν) (key : String) : Value ν := (lookup key c.fields).getD .null

def partOf (c : Collection ν) (key : Value ν) : Except Fault (Value ν) := do
  key.checkKey
  match key with
  | .str k => c.part k
  | v => throw (.missingName v.literal)

def partOr (c : Collection ν) (key default : Value ν) : Except Fault (Value ν) := do
  key.checkKey
  match key with
  | .str k => pure ((lookup k c.fields).getD default)
  | _ => pure default

def id (c : Collection ν) : Except Fault (Value ν) := c.part "id"

def plainId (c : Collection ν) : Except Fault (Value ν) := do
  pure (.str (Text.replace (← (← c.id).strOf "replace") "/" "_"))

def deprecation (c : Collection ν) : Except Fault (Value ν) := do
  if (c.part? "deprecated").truthy then
    let _ ← c.id
    pure (.bool true)
  else pure .null

def statedIntervals (c : Collection ν) : Except Fault (List (Value ν)) := do
  (← (← (← c.part "extent").item "temporal").item "interval").elements

def interval (read : Reader) (c : Collection ν) (stated : Value ν) : Except Fault Interval := do
  let start ← stated.nth 0
  if !start.truthy then
    let id ← c.id
    let message ← (str "Expected a non-empty temporal interval start for ").add id
    throw (.rejected .value message.display)
  let start ← readInstant read start
  let stop ← stated.nth 1
  if stop.isNull then pure ⟨start, none⟩ else pure ⟨start, some (← readInstant read stop)⟩

def intervals (read : Reader) (c : Collection ν) : Except Fault (List Interval) := do
  (← c.statedIntervals).mapM (c.interval read)

def firstInterval (read : Reader) (c : Collection ν) : Except Fault Interval := do
  match ← c.intervals read with
  | i :: _ => pure i
  | [] => throw (.outOfRange "list")

def dateText (m : Moment) : String :=
  let d := m.date
  toString d.year ++ "-" ++ Text.zeroFill (toString d.month) 2 ++ "-" ++ Text.zeroFill (toString d.day) 2

def boxes (c : Collection ν) : Except Fault (List (Box ν)) := do
  match lookup "extent" c.fields with
  | none => pure [Box.globe]
  | some e => do (← (← (← e.item "spatial").item "bbox").elements).mapM Box.ofCorners

def bands (c : Collection ν) : Except Fault (Value ν) :=
  let summaries := c.part? "summaries"
  if summaries.truthy then summaries.getD "eo:bands" (.list []) else .ok (.list [])

def statedNumber : List Char → Option Int
  | [] => none
  | c :: r =>
    let mark := "\"gsd\": ".toList
    let ds := ((c :: r).drop mark.length).takeWhile Char.isDigit
    if mark.isPrefixOf (c :: r) && !ds.isEmpty then
      some (ds.foldl (fun a d => a * 10 + (d.toNat - '0'.toNat : Nat)) (0 : Nat) : Nat)
    else statedNumber r

def resolution (c : Collection ν) : Except Fault (Value ν) := do
  let summaries := c.part? "summaries"
  if !summaries.truthy then return .int (-1)
  let stated ← summaries.get "gsd"
  if stated.truthy then return ← stated.nth 0
  match statedNumber (← Json.line c.toValue).toList with
  | some n => pure (Num.real (← (Num.int n).toReal)).toValue
  | none => pure (.int (-1))

def cadence (c : Collection ν) : Except Fault (Value ν) := do
  let interval := c.part? "gee:interval"
  if interval.truthy then
    let count ← interval.item "interval"
    let unit ← interval.item "unit"
    pure (.str (count.display ++ " " ++ unit.display))
  else pure (.str "")

def script (c : Collection ν) : Except Fault (Value ν) :=
  let code := c.part? "code"
  if code.truthy then code.get "py_code" else .ok (.str "")

def samples (script : Value ν) : Value ν := .record [("js_code", .str ""), ("py_code", script)]

def setScript (c : Collection ν) (script : Value ν) : Except Fault (Collection ν) := do
  let fs := if script.truthy then c.fields else insert "code" (samples script) c.fields
  let code ← (record fs).item "code"
  pure ⟨insert "code" (← code.setItem "py_code" script) fs⟩

def replaceSamples (c : Collection ν) (script : Value ν) : Except Fault (Collection ν × Value ν) := do
  if !script.truthy then return (c, .str "")
  let _ ← (c.part? "code").get "js_code"
  pure (⟨insert "code" (samples script) c.fields⟩, .null)

def relates (link : Value ν) (relation : String) : Except Fault Bool := do
  if ← link.has "rel" then pure ((← link.item "rel").isText relation) else pure false

def previewIn : List (Value ν) → Except Fault (Value ν)
  | [] => .error (.rejected .value "No preview image found for <built-in function id>")
  | link :: rest => do
    let fits ← if ← relates link "preview" then do pure ((← link.item "type").isText "image/png") else pure false
    if fits then link.item "href" else previewIn rest

def preview (c : Collection ν) : Except Fault (Value ν) := do previewIn (← (← c.part "links").elements)

def pages : String := "https://developers.google.com/earth-engine/datasets/catalog/"

def pageIn : List (Value ν) → Except Fault (Option (Value ν))
  | [] => .ok none
  | link :: rest => do
    if ← relates link "catalog" then
      let found ← link.item "href"
      pure (some found)
    else
      let address ← (← link.item "href").strOf "startswith"
      if Text.startsWith address pages then pure (some (.str ((Text.split address "#").headD "")))
      else pageIn rest

def page (c : Collection ν) : Except Fault (Value ν) := do
  match ← pageIn (← (← c.part "links").elements) with
  | some v => pure v
  | none =>
    let _ ← c.id
    pure (.str "")

end Collection

abbrev Listing (ν : Type) := List (Collection ν)

namespace Listing

def ids (cs : Listing ν) : Except Fault (List (Value ν)) := cs.mapM Collection.id

def withIds (cs : Listing ν) (ids : Value ν) : Except Fault (Listing ν) :=
  cs.filterM fun c => do ids.holds (← c.id)

def atInstant (read : Reader) (now instant : Value ν) (cs : Listing ν) : Except Fault (Listing ν) :=
  cs.filterM fun c => do
    (← c.statedIntervals).anyM fun stated => do
      let i ← c.interval read stated
      covers now (.moment i.start) (instantValue i.stop) instant

def during (read : Reader) (now query : Value ν) (cs : Listing ν) : Except Fault (Listing ν) :=
  cs.filterM fun c => do
    (← c.statedIntervals).anyM fun stated => do
      let i ← c.interval read stated
      match ← query.unpack 2 with
      | [start, stop] => meets now (.moment i.start) (instantValue i.stop) start stop
      | _ => pure false

def within (query : Value ν) (cs : Listing ν) : Except Fault (Listing ν) :=
  cs.filterM fun c => do
    (← c.boxes).anyM fun b => do b.overlaps (← Box.ofValue query)

def smaller (x y : Value ν) : Bool :=
  match x.lt y with
  | .ok b => b
  | .error _ => false

def inOrder (descending : Bool) (x y : Value ν) : Bool := if descending then !smaller x y else !smaller y x

def checkOrder : List (Value ν) → Except Fault Unit
  | x :: y :: rest => do
    let _ ← x.lt y
    checkOrder (y :: rest)
  | _ => .ok ()

def farEnd (descending : Bool) : Data :=
  .real (if descending then Float.ofBits 0xFFF0000000000000 else Decimal.infinity)

def sortKey (descending : Bool) (resolution : Data) : Data :=
  if resolution.same (.int (-1)) then farEnd descending else resolution

def byResolution (descending : Bool) (cs : Listing Float) : Except Fault (Listing Float) := do
  let keys ← cs.mapM fun c => do pure (sortKey descending (← c.resolution))
  checkOrder keys
  pure (((keys.zip cs).mergeSort fun a b => inOrder descending a.1 b.1).map (·.2))

def first (n : Value ν) (cs : Listing ν) : Except Fault (Listing ν) :=
  match n with
  | .null => .ok cs
  | .int i => .ok (cs.take (Chars.clamp cs.length i))
  | .bool b => .ok (cs.take (Chars.clamp cs.length (if b then 1 else 0)))
  | _ => .error (.wrongType "slice indices must be integers or None or have an __index__ method")

end Listing

/-!
Boxes, intervals, collections and lists of collections for callers that hold their arguments as values.
-/

def now : Session Data := do pure (.moment (Moment.ofDate (← get).today))

def ofCornersCommand : Command where
  parameters := ["bbox_list"]
  run a := do pure (← Box.ofCorners (a "bbox_list")).toValue

def isGlobeCommand : Command where
  parameters := ["self"]
  run a := do pure (.bool (← Box.ofValue (a "self")).isGlobe)

def overlapsCommand : Command where
  parameters := ["self", "query_bbox"]
  run a := do
    let overlap : Except Fault Bool := do (← Box.ofValue (a "self")).overlaps (← Box.ofValue (a "query_bbox"))
    pure (.bool (← overlap))

def meetsCommand : Command where
  parameters := ["collection_interval", "query_interval"]
  run a := do
    let now ← now
    match ← (a "query_interval").unpack 2, ← (a "collection_interval").unpack 2 with
    | [from_, to_], [start, stop] => pure (.bool (← meets now start stop from_ to_))
    | _, _ => pure .null

def coversCommand : Command where
  parameters := ["collection_interval", "query_datetime"]
  run a := do
    let stop ← (a "collection_interval").nth 1
    let start ← (a "collection_interval").nth 0
    pure (.bool (← covers (← now) start stop (a "query_datetime")))

structure Question where
  parameters : List Parameter := []
  run : Collection Float → Arguments → Except Fault (Collection Float × Data)

def Question.about (f : Collection Float → Except Fault Data) : Question where
  run c _ := do pure (c, ← f c)

def Question.ask (q : Question) (c : Collection Float) (args : List Data) :
    Except Fault (Collection Float × Data) := do
  let command : Command := { parameters := q.parameters, run := fun _ => pure .null }
  q.run c (← command.bind args [])

def partQuestion : Question where
  parameters := ["item"]
  run c a := do pure (c, ← c.partOf (a "item"))

def partOrQuestion : Question where
  parameters := ["item", opt "default"]
  run c a := do pure (c, ← c.partOr (a "item") (a "default"))

def intervalValue (i : Interval) : Data := .tuple [.moment i.start, instantValue i.stop]

section Instants

variable (read : Reader := readInstant?)

def intervalsQuestion : Question := .about fun c => do pure (.list ((← c.intervals read).map intervalValue))

def startQuestion : Question := .about fun c => do pure (.moment (← c.firstInterval read).start)

def stopQuestion : Question := .about fun c => do pure (instantValue (← c.firstInterval read).stop)

def startDateQuestion : Question := .about fun c => do
  pure (.str (Collection.dateText (← c.firstInterval read).start))

def stopDateQuestion : Question := .about fun c => do
  pure (.str (((← c.firstInterval read).stop.map Collection.dateText).getD ""))

end Instants

def boxesQuestion : Question := .about fun c => do pure (.tuple ((← c.boxes).map Box.toValue))

def setScriptQuestion : Question where
  parameters := ["code"]
  run c a := do pure (← c.setScript (a "code"), .null)

def replaceSamplesQuestion : Question where
  parameters := ["code"]
  run c a := c.replaceSamples (a "code")

structure Step where
  parameters : List Parameter := []
  run : Listing Float → Arguments → Session (Listing Float)

def Step.take (s : Step) (cs : Listing Float) (args : List Data) : Session (Listing Float) := do
  let command : Command := { parameters := s.parameters, run := fun _ => pure .null }
  s.run cs (← command.bind args [])

def withIdsStep : Step where
  parameters := ["ids"]
  run cs a := cs.withIds (a "ids")

def atInstantStep (read : Reader := readInstant?) : Step where
  parameters := ["query_datetime"]
  run cs a := do cs.atInstant read (← now) (a "query_datetime")

def duringStep (read : Reader := readInstant?) : Step where
  parameters := ["query_interval"]
  run cs a := do cs.during read (← now) (a "query_interval")

def withinStep : Step where
  parameters := ["query_bbox"]
  run cs a := cs.within (a "query_bbox")

def sortStep : Step where
  parameters := [opt "reverse" false]
  run cs a := do Listing.byResolution ((← (a "reverse").index) ≠ 0) cs

def firstStep : Step where
  parameters := ["n"]
  run cs a := cs.first (a "n")

end RemoteSensing.Stac
