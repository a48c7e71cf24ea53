import RemoteSensing.Fault
import RemoteSensing.Value.Basic

/-!
Describing computations.
-/

namespace RemoteSensing

namespace Value

variable {ν : Type}

def call (target : Value ν) (name : String) (args : List (Value ν) := [])
    (named : Fields (Value ν) := []) : Value ν :=
  .method target name args named

def placeholder (level : Nat) (letter : String := "x") : Value ν :=
  .object .computed (letter ++ toString level)

def each (level : Nat) (f : Value ν → Value ν) : Value ν :=
  .function ["x" ++ toString level] (f (placeholder level))

end Value

namespace Kind

variable {ν : Type}

def make (k : Kind) (args : List (Value ν) := []) (named : Fields (Value ν) := []) : Value ν :=
  .construct k args named

def fn (k : Kind) (name : String) (args : List (Value ν) := []) (named : Fields (Value ν) := []) :
    Value ν :=
  .static k [name] args named

end Kind

end RemoteSensing

namespace RemoteSensing.Value

/-! The text of a computation. -/

variable {ν : Type} [Scalar ν]

mutual

def literal : Value ν → String
  | .null => "None"
  | .bool b => if b then "True" else "False"
  | .int i => toString i
  | .real x => Scalar.text x
  | .str s => Text.literal s
  | .list xs => "[" ++ literals xs ++ "]"
  | .tuple [x] => "(" ++ literal x ++ ",)"
  | .tuple xs => "(" ++ literals xs ++ ")"
  | .record fs => "\x7b" ++ literalFields fs ++ "\x7d"
  | .box fs => "Box(\x7b" ++ literalFields fs ++ "\x7d)"
  | .moment m => m.text
  | .object _ name => name
  | .grid rows => literal rows
  | .extent w s e n =>
    "BBox(west=" ++ literal w ++ ", south=" ++ literal s ++ ", east=" ++ literal e ++ ", north=" ++
      literal n ++ ")"
  | .thing n => n
  | _ => ""

def literals : List (Value ν) → String
  | [] => ""
  | [x] => literal x
  | x :: y :: r => literal x ++ ", " ++ literals (y :: r)

def literalFields : Fields (Value ν) → String
  | [] => ""
  | [(k, x)] => Text.literal k ++ ": " ++ literal x
  | (k, x) :: y :: r => Text.literal k ++ ": " ++ literal x ++ ", " ++ literalFields (y :: r)

end

def isNotANumber : Value ν → Bool
  | .real x => !Scalar.beq x x
  | _ => false

def rowsOf : Value ν → List (Value ν)
  | .list xs => xs
  | _ => []

def shape : Nat → Value ν → List Nat
  | 0, _ => []
  | depth + 1, .list xs =>
    xs.length :: (match xs with | x :: _ => shape depth x | [] => [])
  | _, _ => []

def leaves : Nat → Value ν → List (Value ν)
  | depth + 1, .list xs => xs.flatMap (leaves depth)
  | _, v => [v]

def numbered : Nat → List (Value ν) → List (Nat × Value ν)
  | _, [] => []
  | i, x :: r => if x.isNotANumber then numbered (i + 1) r else (i, x) :: numbered (i + 1) r

def bracketed (texts : List String) : String :=
  let n := texts.length
  if 100 < n then
    "[" ++ Text.join ", " (texts.take 3 ++ ["\"...\""] ++ texts.drop (n - 3)) ++ "](" ++ toString n ++ ")"
  else "[" ++ Text.join ", " texts ++ "]"

def leafText : Value ν → String
  | .int i => toString i
  | .real x => Scalar.text x
  | .bool b => if b then "true" else "false"
  | _ => "null"

def nestedText : Nat → Value ν → String
  | depth + 1, .list xs => bracketed (xs.map (nestedText depth))
  | _, v => leafText v

def gridText (rows : Value ν) : String :=
  let flat := leaves 4 rows
  if 64 < flat.length then
    "ndarray([" ++ Text.join ", " ((shape 4 rows).map toString) ++ "], " ++
      bracketed ((numbered 0 flat).map fun e => "[" ++ toString e.1 ++ ", " ++ leafText e.2 ++ "]") ++ ")"
  else "ndarray(" ++ nestedText 4 rows ++ ")"

mutual

def text : Value ν → String
  | .null => "null"
  | .bool b => if b then "true" else "false"
  | .int i => toString i
  | .real x => Scalar.text x
  | .str s => Text.jsonQuoted false s
  | .list xs => bracketed (texts xs)
  | .tuple xs => bracketed (texts xs)
  | .record fs => "\x7b" ++ Text.join ", " (fieldTexts fs) ++ "\x7d"
  | .box fs => "\x7b" ++ Text.join ", " (fieldTexts fs) ++ "\x7d"
  | .moment m => m.text
  | .grid rows => gridText rows
  | .object _ name => name
  | .construct k args named => k.name ++ "(" ++ Text.join ", " (texts args ++ namedTexts named) ++ ")"
  | .static k path args named =>
    Text.join "." (k.name :: path) ++ "(" ++ Text.join ", " (texts args ++ namedTexts named) ++ ")"
  | .method t m args named =>
    text t ++ "." ++ m ++ "(" ++ Text.join ", " (texts args ++ namedTexts named) ++ ")"
  | .function params body => "(" ++ Text.join ", " params ++ " => " ++ text body ++ ")"
  | .extent w s e n => bracketed [text w, text s, text e, text n]
  | .thing n => n
  | .table .. | .layer .. | .endpoint .. | .widget .. => ""

def texts : List (Value ν) → List String
  | [] => []
  | x :: r => text x :: texts r

def fieldTexts : Fields (Value ν) → List String
  | [] => []
  | (k, x) :: r => (Text.jsonQuoted false k ++ ": " ++ text x) :: fieldTexts r

def namedTexts : Fields (Value ν) → List String
  | [] => []
  | (k, x) :: r => (k ++ "=" ++ text x) :: namedTexts r

end

/-- The text of a value. An integer is written out however long it is, beyond `digitLimit` as well. -/
def display (v : Value ν) : String :=
  match v with
  | .str s => s
  | .construct .. | .static .. | .method .. | .function .. => v.text
  | v => v.literal

end RemoteSensing.Value
