import RemoteSensing.Json
import RemoteSensing.Session.Basic

/-!
What a session reads and writes: files and web servers.
-/

namespace RemoteSensing.Session

open RemoteSensing.Path Text

def longestName : Nat := 255

def checkPath (p : String) : Except Fault Unit := do
  if p.toList.contains '\x00' then throw (.wrongValue "embedded null byte")
  if (split p "/").any fun name => longestName < name.utf8ByteSize then
    throw (.unwritable ("[Errno 36] File name too long: " ++ literal p))

def bodyAt (d : Disk) (p : String) : Except Fault Body := do
  checkPath p
  match Value.lookup (absolute p) d.files with
  | some b => if endsWith p "/" then throw (.notFolder p) else pure b
  | none =>
    if p.isEmpty then throw (.noFile p)
    if d.hasFolder (absolute p) then throw (.isFolder p)
    d.checkFolder p (Path.folder (absolute p))
    throw (.noFile p)

def readBody (p : String) : Session Body := do bodyAt (← get).disk p

def readRaw (p : String) : Session String := do pure (← readBody p).toText

def readText (p : String) : Session String := do pure (plainNewlines (← readRaw p))

def encodingName (v : Data) : Except Fault String :=
  match v with
  | .str s => .ok s
  | .null => .ok "utf-8"
  | v => .error (.wrongType ("open() argument 'encoding' must be str or None, not " ++ v.typeName))

def encodingOf (name : String) : Except Fault Text.Encoding :=
  match Text.Encoding.named? name with
  | some e => .ok e
  | none => .error (.noEncoding name)

def decodeAs (e : Text.Encoding) (bytes : List Nat) : Except Fault String :=
  match e.decode bytes with
  | .ok s => .ok s
  | .error u => .error (.undecodable u.message)

def readTextIn (p : String) (encoding : Data) : Session String := do
  let name ← encodingName encoding
  let raw ← readRaw p
  let e ← encodingOf name
  if e == .utf8 false then return plainNewlines raw
  let bytes := bytesOf raw
  if let some m := e.unmarked? bytes then throw (.unmarked m)
  let s ← decodeAs e bytes
  pure (plainNewlines s)

def parsed (s : String) : Except Fault Data :=
  match Json.read s with
  | .ok v => .ok v
  | .error m => .error (.badJson m)

def readJson (p : String) (encoding : Data := .str "utf-8") : Session Data := do
  parsed (← readTextIn p encoding)

def checkWritable (d : Disk) (p : String) : Except Fault Unit := do
  checkPath p
  let full := absolute p
  if p.isEmpty then throw (.noFile p)
  if d.hasFolder full then throw (.isFolder p)
  d.checkFolder p (Path.folder full)
  if endsWith p "/" then throw (if d.hasFile full then .notFolder p else .isFolder p)

def writeBody (p : String) (b : Body) : Session Unit := do
  checkWritable (← get).disk p
  modify fun w => { w with disk := w.disk.write (absolute p) b }

def writeText (p s : String) : Session Unit := writeBody p (.text s)

def writeTextIn (p s : String) (encoding : Data) : Session Unit := do
  let name ← encodingName encoding
  writeText p ""
  let e ← encodingOf name
  let bytes := e.encode s
  writeBody p (if bytes == bytesOf s then .text s else .bytes bytes)

def pathExists (p : String) : Session Bool := do
  pure (!p.isEmpty && (← get).disk.exists? (absolute p))

def isFile (p : String) : Session Bool := do
  pure (!p.isEmpty && (← get).disk.hasFile (absolute p))

def blockedBy? (d : Disk) (full : String) : Option String :=
  let folders := Disk.ancestors full
  (folders.findIdx? d.hasFile).map fun i => folders.getD (i + 1) full

def makeFolder (p : String) : Session Unit := do
  if p.isEmpty then throw (.noFile p)
  checkPath p
  let full := absolute p
  let d := (← get).disk
  if d.exists? full then throw (.pathTaken p)
  if let some blocked := blockedBy? d full then throw (.notFolder (if p == full then blocked else p))
  modify fun w => { w with disk := w.disk.makeFolder full }

def removeFile (p : String) : Session Unit := do
  if ← isFile p then modify fun w => { w with disk := w.disk.remove (absolute p) }
  else throw (.noFile p)

def filesUnder (folder ending : String) : Session (List String) := do
  let d := (← get).disk
  let inside := d.folders.filter fun f => f == folder || startsWith f (folder ++ "/")
  pure (inside.flatMap fun f =>
    (d.files.map (·.1) ++ d.folders).filter fun p => Path.folder p == f && endsWith p ending)

def entryParts (name : String) : List String :=
  (split name "/").filter fun p => !(["", ".", ".."].contains p)

def entryPath (target name : String) : String := join target (join "/" (entryParts name))

def unpackEntry (target : String) (d : Disk) (entry : String × String) : Except Fault Disk :=
  let p := entryPath target entry.1
  let full := absolute p
  if (Disk.ancestors (Path.folder full)).any d.hasFile then .error (.notFolder (tidy p))
  else if endsWith entry.1 "/" then
    if d.hasFile full then .error (.pathTaken (tidy p)) else .ok (d.makeFolder full)
  else if d.hasFolder full then .error (.isFolder (tidy p))
  else .ok (d.place full (.text entry.2))

def unpackEntries (target : String) : List (String × String) → Session Unit
  | [] => pure ()
  | entry :: r => do
    let d ← unpackEntry target (← get).disk entry
    modify fun w => { w with disk := d }
    unpackEntries target r

def unpackArchive (p target : String) : Session (List String) := do
  match ← readBody p with
  | .archive entries =>
    unpackEntries target entries
    pure (entries.map (·.1))
  | _ => throw .badArchive

def namesIn (folder : String) : Session (List String) := do
  let w ← get
  pure (w.listing.tell (w.disk.namesIn (absolute folder)))

def rename (old new : String) : Session Unit := do
  match (← get).disk.rename (absolute old) (absolute new) with
  | .ok d => modify fun w => { w with disk := d }
  | .error cause => throw (.unwritable (cause ++ ": " ++ literal old ++ " -> " ++ literal new))

/-!
Web servers.
-/

def request (method url : String) (params json : Option Data := none) : Session Reply := do
  modify fun w => { w with sent := w.sent ++ [⟨method, url, params, json⟩] }
  let w ← get
  match w.replies with
  | [] => throw (.connection "no response queued")
  | r :: rest =>
    set { w with replies := rest }
    match r with
    | .ok reply => pure { reply with url := some (reply.url.getD url) }
    | .error m => throw (.connection m)

def fetch (url : String) (params : Option Data := none) : Session Reply := request "GET" url params

def readReply (r : Reply) : Session Data :=
  match Json.read r.body.toText with
  | .ok v => pure v
  | .error m => throw (.badReply m)

def fetchJson (url : String) (params : Option Data := none) : Session Data := do
  readReply (← fetch url params)

def openPage (url : String) : Session String := do
  modify fun w => { w with sent := w.sent ++ [⟨"URLOPEN", url, none, none⟩] }
  let w ← get
  match w.pages with
  | [] => throw (.unreachable "no response queued")
  | p :: rest =>
    set { w with pages := rest }
    pure p

end RemoteSensing.Session
