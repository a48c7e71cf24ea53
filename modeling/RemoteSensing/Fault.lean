import RemoteSensing.Text.Basic

/-!
What can go wrong.
-/

namespace RemoteSensing

open Text

inductive Complaint where
  | general
  | value
  | type
  | member
  | missingFile
  | runtime
  | unsupported
  | lookup
  | library
deriving DecidableEq, Repr, Inhabited

inductive Fault where
  | refused (message : String)
  | rejected (complaint : Complaint) (message : String)
  | missingKey (key : String)
  | missingName (name : String)
  | missingNumber (number : Int)
  | outOfRange (what : String)
  | strayBracket
  | wrongType (message : String)
  | wrongValue (message : String)
  | noMember (owner member : String)
  | divisionByZero (message : String)
  | overflow (message : String)
  | unassigned (name : String)
  | unknownName (name : String)
  | badExpression
  | noFile (path : String)
  | isFolder (path : String)
  | notFolder (path : String)
  | pathTaken (path : String)
  | noEncoding (name : String)
  | undecodable (message : String)
  | unencodable
  | unmarked (message : String)
  | endless
  | badInstant (text : String)
  | noAxis
  | noSequence
  | badShape
  | unknownShape (type : String)
  | noColumns
  | raggedRow (message : String)
  | notTabular
  | badPattern (message : String)
  | unwritable (message : String)
  | connection (message : String)
  | status (message : String)
  | badReply (message : String)
  | badJson (message : String)
  | unreachable (reason : String)
  | badArchive
  | badPicture
  | badProperty (message : String)
  | noLibrary (name : String)
deriving DecidableEq, Repr, Inhabited

namespace Fault

def message : Fault → String
  | refused m => m
  | rejected _ m => m
  | missingKey k => literal k
  | missingName n => n
  | missingNumber i => toString i
  | outOfRange what => what ++ " index out of range"
  | strayBracket => "pop from an empty deque"
  | wrongType m => m
  | wrongValue m => m
  | noMember owner member => literal owner ++ " object has no attribute " ++ literal member
  | divisionByZero m => m
  | overflow m => m
  | unassigned n =>
    "cannot access local variable " ++ literal n ++ " where it is not associated with a value"
  | unknownName n => "name " ++ literal n ++ " is not defined"
  | badExpression => "invalid syntax (<string>, line 1)"
  | noFile p => "[Errno 2] No such file or directory: " ++ literal p
  | isFolder p => "[Errno 21] Is a directory: " ++ literal p
  | notFolder p => "[Errno 20] Not a directory: " ++ literal p
  | pathTaken p => "[Errno 17] File exists: " ++ literal p
  | noEncoding n => "unknown encoding: " ++ n
  | undecodable m => m
  | unencodable => "surrogates not allowed"
  | unmarked m => m
  | endless => "maximum recursion depth exceeded"
  | badInstant t => "Unable to parse date string " ++ literal t
  | noAxis => "axis 1 is out of bounds for array of dimension 1"
  | noSequence => "Multi-part geometries do not provide a coordinate sequence"
  | badShape => "point array must contain 0 or >1 elements"
  | unknownShape t => "Unknown geometry type: " ++ literal t
  | noColumns => "No columns to parse from file"
  | raggedRow m => m
  | notTabular => ""
  | badPattern m => m
  | unwritable m => m
  | connection m => m
  | status m => m
  | badReply m => m
  | badJson m => m
  | unreachable r => "<urlopen error " ++ r ++ ">"
  | badArchive => "File is not a zip file"
  | badPicture => "cannot identify image file"
  | badProperty m => m
  | noLibrary n => "No module named " ++ literal n

def ofWeb : Fault → Bool
  | connection _ | status _ | badReply _ => true
  | _ => false

def ofValue : Fault → Bool
  | wrongValue _ | badJson _ | badReply _ | badInstant _ | undecodable _ | unencodable | unmarked _ => true
  | rejected .value _ => true
  | _ => false

def restated (complaint : Complaint) (f : Fault) : Fault := .rejected complaint f.message

end Fault

end RemoteSensing
