import RemoteSensing.Path
import RemoteSensing.Text.Encoding
import RemoteSensing.Value.Rounding

/-!
The world that a session talks to: the server with its queued answers and the calls that it refuses, web servers with
their queued replies, the disk, the environment, the clock.
-/

namespace RemoteSensing

inductive Body where
  | text (s : String)
  | bytes (b : List Nat)
  | archive (entries : List (String × String))
  | picture (pixels : Data)
deriving Inhabited

def Body.toText : Body → String
  | .text s => s
  | .bytes b => Text.shown b
  | .archive _ => ""
  | .picture _ => ""

structure Reply where
  status : Int := 200
  reason : String := ""
  headers : List (String × String) := []
  url : Option String := none
  body : Body := .text ""
deriving Inhabited

structure Request where
  method : String
  url : String
  params : Option Data := none
  json : Option Data := none
deriving Inhabited

structure Disk where
  files : List (String × Body) := []
  folders : List String := [Path.here]
deriving Inhabited

namespace Disk

def ancestors (p : String) : List String :=
  let parts := Text.split p "/"
  (List.range parts.length).map fun n => Text.join "/" (parts.take (n + 1))

def systemFolders : List String :=
  ["/", "/bin", "/dev", "/etc", "/home", "/lib", "/opt", "/proc", "/root", "/run", "/sbin", "/srv", "/sys", "/tmp",
    "/usr", "/var", Path.package]

def hasFile (d : Disk) (p : String) : Bool := (Value.lookup p d.files).isSome

def hasFolder (d : Disk) (p : String) : Bool := d.folders.contains p || systemFolders.contains p

def exists? (d : Disk) (p : String) : Bool := d.hasFile p || d.hasFolder p

def checkFolder (d : Disk) (p folder : String) : Except Fault Unit :=
  if d.hasFolder folder then .ok ()
  else if (ancestors folder).any d.hasFile then .error (.notFolder p)
  else .error (.noFile p)

def makeFolder (d : Disk) (p : String) : Disk :=
  { d with folders := (ancestors p).foldl (fun fs q => if fs.contains q then fs else fs ++ [q]) d.folders }

def write (d : Disk) (p : String) (b : Body) : Disk := { d with files := Value.insert p b d.files }

def place (d : Disk) (p : String) (b : Body) : Disk := (d.makeFolder (Path.folder p)).write p b

def remove (d : Disk) (p : String) : Disk := { d with files := d.files.filter fun f => f.1 != p }

def paths (d : Disk) : List String := d.files.map (·.1) ++ d.folders ++ systemFolders

def namesIn (d : Disk) (folder : String) : List String :=
  ((d.files.map (·.1) ++ d.folders).filter fun p => Path.folder p == folder).map Path.base

def inside (folder p : String) : Bool := Text.startsWith p (folder ++ "/")

def movedTo (old new p : String) : String :=
  if p == old then new
  else if inside old p then new ++ String.ofList (p.toList.drop old.toList.length)
  else p

def moveFolder (d : Disk) (old new : String) : Disk where
  files := d.files.map fun f => (movedTo old new f.1, f.2)
  folders := (d.folders.filter (· != new)).map (movedTo old new)

def rename (d : Disk) (old new : String) : Except String Disk :=
  if !d.hasFolder (Path.folder new) then .error "[Errno 2] No such file or directory"
  else
    match Value.lookup old d.files with
    | some b =>
      if d.hasFolder new then .error "[Errno 21] Is a directory"
      else .ok ((d.remove old).write new b)
    | none =>
      if !d.hasFolder old then .error "[Errno 2] No such file or directory"
      else if old == new then .ok d
      else if d.hasFile new then .error "[Errno 20] Not a directory"
      else if inside old new then .error "[Errno 22] Invalid argument"
      else if d.paths.any (inside new) then .error "[Errno 39] Directory not empty"
      else .ok (d.moveFolder old new)

end Disk

structure Listing where
  tell : List String → List String
  perm : ∀ names, (tell names).Perm names

instance : Inhabited Listing := ⟨id, fun names => .refl names⟩

structure World where
  answers : List (Except String Data) := []
  refusals : List (String × String) := []
  admitted : Bool := true
  replies : List (Except String Reply) := []
  pages : List String := []
  disk : Disk := {}
  listing : Listing := default
  environment : List (String × String) := []
  today : Date := ⟨2024, 5, 15⟩
  clock : Nat := 0
  names : Nat := 0
  legendStyle : Fields := []
  surveyColours : List String := []
  saveFault : Option String := none
  printed : String := ""
  asked : List String := []
  calls : List String := []
  sent : List Request := []
deriving Inhabited

/-! Sessions: they end in a value or a fault, and what was done to the state before a fault stays done. -/

abbrev SessionOn (σ : Type) := ExceptT Fault (StateM σ)

abbrev Session := SessionOn World

instance {σ : Type} : MonadLift (Except Fault) (SessionOn σ) where
  monadLift
    | .ok a => pure a
    | .error e => throw e

namespace Session

def reject {α : Type} (complaint : Complaint) (message : String) : Session α :=
  throw (.rejected complaint message)

def attempt {α : Type} (s : Session α) : Session (Except Fault α) :=
  tryCatch (do pure (.ok (← s))) fun e => pure (.error e)

def orTell {α : Type} (what : String) (default : α) (s : Session α) : Session α :=
  tryCatch s fun e => do
    modify fun w => { w with printed := w.printed ++ what ++ e.message ++ "\n" }
    pure default

def write (s : String) : Session Unit := modify fun w => { w with printed := w.printed ++ s }

def print (s : String) : Session Unit := write (s ++ "\n")

def trace (s : String) : Session Unit := modify fun w => { w with calls := w.calls ++ [s] }

def allow (refusals : List (String × String)) (call : String) : Except Fault Unit :=
  match Value.lookup call refusals with
  | some reason => .error (.refused reason)
  | none => .ok ()

mutual

def verify (refusals : List (String × String)) : Data → Except Fault Unit
  | .list xs => verifyAll refusals xs
  | .tuple xs => verifyAll refusals xs
  | .record fs => verifyFields refusals fs
  | .box fs => verifyFields refusals fs
  | .construct k args named => do
    verifyAll refusals args
    verifyFields refusals named
    allow refusals k.name
    verifyBodies refusals args
    verifyNamedBodies refusals named
  | .static _ path args named => do
    verifyAll refusals args
    verifyFields refusals named
    allow refusals (path.getLastD "")
    verifyBodies refusals args
    verifyNamedBodies refusals named
  | .method target name args named => do
    verify refusals target
    if target.kind?.isNone then throw (.noMember target.typeName name)
    verifyAll refusals args
    verifyFields refusals named
    allow refusals name
    verifyBodies refusals args
    verifyNamedBodies refusals named
  | _ => .ok ()

def verifyAll (refusals : List (String × String)) : List Data → Except Fault Unit
  | [] => .ok ()
  | x :: r => do
    verify refusals x
    verifyAll refusals r

def verifyFields (refusals : List (String × String)) : Fields → Except Fault Unit
  | [] => .ok ()
  | (_, x) :: r => do
    verify refusals x
    verifyFields refusals r

def verifyBodies (refusals : List (String × String)) : List Data → Except Fault Unit
  | [] => .ok ()
  | x :: r => do
    verifyBody refusals x
    verifyBodies refusals r

def verifyNamedBodies (refusals : List (String × String)) : Fields → Except Fault Unit
  | [] => .ok ()
  | (_, x) :: r => do
    verifyBody refusals x
    verifyNamedBodies refusals r

def verifyBody (refusals : List (String × String)) : Data → Except Fault Unit
  | .function _ body => verify refusals body
  | _ => .ok ()

end

def submit (v : Data) : Session Data := do
  verify (← get).refusals v
  pure v

def nextAnswer : Session Data := do
  let w ← get
  match w.answers with
  | [] => throw (.refused "no answer queued")
  | a :: rest =>
    unless rest.isEmpty do set { w with answers := rest }
    match a with
    | .ok v => pure v
    | .error m => throw (.refused m)

def ask (s : String) : Session Unit := modify fun w => { w with asked := w.asked ++ [s] }

def info (v : Data) : Session Data := do
  let e ← submit (v.call "getInfo")
  ask e.text
  nextAnswer

def address (target : Data) (method : String) (args : List Data := [])
    (named : Fields := []) : Session String := do
  let e ← submit (target.call method args named)
  pure ("ee://" ++ e.text)

def start (task : Data) : Session Unit := do
  let e ← submit (task.call "start")
  trace e.text

def taskStatus (task : Data) : Session Data := do
  let _ ← submit (task.call "status")
  ask "task.status()"
  nextAnswer

def mapEach (level : Nat) (target : Data) (f : Data → Session Data) : Session Data := do
  let _ ← submit (target.call "map")
  let body ← f (Value.placeholder level)
  pure (target.call "map" [Value.each level fun _ => body])

def connect : Session Unit := do
  unless (← get).admitted do throw (.refused "not initialized")

def setting (name : String) : Session (Option String) := do
  pure (Value.lookup name (← get).environment)

def sleep (seconds : Nat) : Session Unit := modify fun w => { w with clock := w.clock + seconds }

def letter (n : Nat) : Char := Char.ofNat ('a'.toNat + n % 26)

def lettersOf : Nat → Nat → List Char
  | 0, _ => []
  | width + 1, n => lettersOf width (n / 26) ++ [letter n]

def freshName (width : Nat := 3) : Session String := do
  let w ← get
  set { w with names := w.names + 1 }
  pure (String.ofList (lettersOf width w.names))

end Session

end RemoteSensing
