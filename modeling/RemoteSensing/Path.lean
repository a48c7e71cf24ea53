import RemoteSensing.Text.Basic

/-!
Names of files and folders.
-/

namespace RemoteSensing.Path

open Text

def here : String := "<TMP>"

def isAbsolute (p : String) : Bool :=
  startsWith p "/" || p == here || startsWith p (here ++ "/")

def join (folder p : String) : String :=
  if isAbsolute p then p
  else if folder.isEmpty || endsWith folder "/" then folder ++ p
  else folder ++ "/" ++ p

def walk (rooted : Bool) (done : List String) (p : String) : List String :=
  if p.isEmpty || p == "." then done
  else if p == ".." then
    match done with
    | [] => if rooted then [] else [p]
    | q :: d => if q == ".." then p :: q :: d else d
  else p :: done

def resolve (rooted : Bool) (parts : List String) : List String := (parts.foldl (walk rooted) []).reverse

def fromHere (parts : List String) : List String := if parts.head? == some here then parts.tail else parts

def absolute (p : String) : String :=
  let parts := split p "/"
  if startsWith p "/" then "/" ++ Text.join "/" (resolve true parts)
  else Text.join "/" (here :: resolve false (fromHere parts))

def home : String := "/root"

/-- The folder that the converter is installed in. Only that it is absolute matters. -/
def package : String := "/opt/geemap"

def expand (p : String) : String :=
  let user := p.toList.takeWhile (· != '/')
  let rest := String.ofList (p.toList.drop user.length)
  if user == ['~'] || user == "~root".toList then home ++ rest else p

def full (p : String) : String := if startsWith p "~" then expand p else absolute p

def tidy (p : String) : String :=
  let parts := (split p "/").filter fun part => !part.isEmpty && part != "."
  if startsWith p "/" then "/" ++ Text.join "/" parts else Text.join "/" parts

def base (p : String) : String := (split p "/").getLastD ""

def folder (p : String) : String :=
  let parts := split p "/"
  let head := Text.join "/" parts.dropLast
  let kept := String.ofList (head.toList.reverse.dropWhile (· == '/')).reverse
  if parts.length ≤ 1 then "" else if kept.isEmpty then head ++ "/" else kept

def splitExtension (p : String) : String × String :=
  let name := base p
  let cs := name.toList
  let tail := (cs.reverse.takeWhile (· != '.')).reverse
  let stem := cs.take (cs.length - tail.length - 1)
  if tail.length == cs.length || stem.all (· == '.') then (p, "")
  else (String.ofList (p.toList.take (p.length - tail.length - 1)), "." ++ String.ofList tail)

def extension (p : String) : String :=
  lower (String.ofList ((splitExtension p).2.toList.drop 1))

end RemoteSensing.Path
