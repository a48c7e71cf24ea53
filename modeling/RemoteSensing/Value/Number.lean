import RemoteSensing.Fault
import RemoteSensing.Value.Basic

/-!
Reaching into values.
-/

namespace RemoteSensing.Value

variable {ν : Type}

def elementAt {α : Type} (what : String) (xs : List α) (i : Int) : Except Fault α :=
  let j := if i < 0 then i + xs.length else i
  if j < 0 then .error (.outOfRange what)
  else match xs[j.toNat]? with
    | some x => .ok x
    | none => .error (.outOfRange what)

def nth (v : Value ν) (i : Int) : Except Fault (Value ν) :=
  match v with
  | .list xs => elementAt "list" xs i
  | .tuple xs => elementAt "tuple" xs i
  | .str s => (elementAt "string" s.toList i).map fun c => .str (String.singleton c)
  | .record _ | .box _ => .error (.missingNumber i)
  | .grid (.list xs) => elementAt "list" xs i
  | v => .error (.wrongType ("'" ++ v.typeName ++ "' object is not subscriptable"))

def index (v : Value ν) : Except Fault Int :=
  match v with
  | .int i => .ok i
  | .bool b => .ok (if b then 1 else 0)
  | v => .error (.wrongType ("'" ++ v.typeName ++ "' object cannot be interpreted as an integer"))

def item (v : Value ν) (key : String) : Except Fault (Value ν) :=
  match v with
  | .record fs | .box fs =>
    match lookup key fs with
    | some w => .ok w
    | none => .error (.missingKey key)
  | .list _ => .error (.wrongType "list indices must be integers or slices, not str")
  | .tuple _ => .error (.wrongType "tuple indices must be integers or slices, not str")
  | .str _ => .error (.wrongType "string indices must be integers, not 'str'")
  | v => .error (.wrongType ("'" ++ v.typeName ++ "' object is not subscriptable"))

def getD (v : Value ν) (key : String) (default : Value ν) : Except Fault (Value ν) :=
  match v with
  | .record fs | .box fs => .ok ((lookup key fs).getD default)
  | v => .error (.noMember v.typeName "get")

def get (v : Value ν) (key : String) : Except Fault (Value ν) := v.getD key .null

def keys (v : Value ν) : Except Fault (List String) :=
  match v with
  | .record fs | .box fs => .ok (fs.map (·.1))
  | v => .error (.noMember v.typeName "keys")

def fieldsOf (v : Value ν) (member : String) : Except Fault (Fields (Value ν)) :=
  match v with
  | .record fs | .box fs => .ok fs
  | v => .error (.noMember v.typeName member)

mutual

def checkKey : Value ν → Except Fault Unit
  | .list xs => .error (.wrongType ("unhashable type: '" ++ (Value.list xs).typeName ++ "'"))
  | .record fs => .error (.wrongType ("unhashable type: '" ++ (Value.record fs).typeName ++ "'"))
  | .box fs => .error (.wrongType ("unhashable type: '" ++ (Value.box fs).typeName ++ "'"))
  | .grid rows => .error (.wrongType ("unhashable type: '" ++ (Value.grid rows).typeName ++ "'"))
  | .table index columns => .error (.wrongType ("unhashable type: '" ++ (Value.table index columns).typeName ++ "'"))
  | .tuple xs => checkKeys xs
  | _ => .ok ()

def checkKeys : List (Value ν) → Except Fault Unit
  | [] => .ok ()
  | x :: r => do
    checkKey x
    checkKeys r

end

def has (v : Value ν) (key : String) : Except Fault Bool :=
  match v with
  | .record fs | .box fs => .ok ((lookup key fs).isSome)
  | .list xs | .tuple xs => .ok (xs.any fun x => match x with | .str s => s == key | _ => false)
  | .str s => .ok (Text.contains s key)
  | .table _ cols => .ok (cols.any fun c => match c.1 with | .str s => s == key | _ => false)
  | v => .error (.wrongType ("argument of type '" ++ v.typeName ++ "' is not iterable"))

def elements (v : Value ν) : Except Fault (List (Value ν)) :=
  match v with
  | .list xs | .tuple xs => .ok xs
  | .record fs | .box fs => .ok (fs.map fun kv => .str kv.1)
  | .str s => .ok (s.toList.map fun c => .str (String.singleton c))
  | .grid (.list xs) => .ok xs
  | .table _ cols => .ok (cols.map (·.1))
  | v => .error (.wrongType ("'" ++ v.typeName ++ "' object is not iterable"))

def mapElements (f : Value ν → Except Fault (Value ν)) (v : Value ν) : Except Fault (Value ν) :=
  match v with
  | .list xs => (xs.mapM f).map .list
  | .tuple xs => (xs.mapM f).map .tuple
  | v => do
    let _ ← (← v.elements).mapM f
    pure v

def len (v : Value ν) : Except Fault Nat :=
  match v with
  | .list xs | .tuple xs => .ok xs.length
  | .record fs | .box fs => .ok fs.length
  | .str s => .ok s.length
  | .grid (.list xs) => .ok xs.length
  | .table index _ => .ok index.length
  | v => .error (.wrongType ("object of type '" ++ v.typeName ++ "' has no len()"))

def unpack (v : Value ν) (n : Nat) : Except Fault (List (Value ν)) :=
  match v with
  | .list _ | .tuple _ | .str _ | .record _ | .box _ | .grid _ => do
    let xs ← v.elements
    if xs.length < n then
      .error (.wrongValue
        ("not enough values to unpack (expected " ++ toString n ++ ", got " ++ toString xs.length ++ ")"))
    else if n < xs.length then
      .error (.wrongValue ("too many values to unpack (expected " ++ toString n ++ ")"))
    else .ok xs
  | v => .error (.wrongType ("cannot unpack non-iterable " ++ v.typeName ++ " object"))

def strOf (v : Value ν) (member : String) : Except Fault String :=
  match v with
  | .str s => .ok s
  | v => .error (.noMember v.typeName member)

def pathOf (v : Value ν) : Except Fault String :=
  match v with
  | .str s => .ok s
  | v => .error (.wrongType ("expected str, bytes or os.PathLike object, not " ++ v.typeName))

def joined (sep : String) (v : Value ν) : Except Fault String := do
  let parts ← (← v.elements).zipIdx.mapM fun x =>
    match x.1 with
    | .str s => .ok s
    | y => .error (.wrongType
        ("sequence item " ++ toString x.2 ++ ": expected str instance, " ++ y.typeName ++ " found"))
  pure (Text.join sep parts)

def slice (v : Value ν) (a b : Int) : Except Fault (Value ν) :=
  let cut {α : Type} (xs : List α) : List α :=
    (xs.take (Chars.clamp xs.length b)).drop (Chars.clamp xs.length a)
  match v with
  | .list xs => .ok (.list (cut xs))
  | .tuple xs => .ok (.tuple (cut xs))
  | .str s => .ok (.str (String.ofList (cut s.toList)))
  | .record _ | .box _ => .error (.wrongType "unhashable type: 'slice'")
  | v => .error (.wrongType ("'" ++ v.typeName ++ "' object is not subscriptable"))

def setAt (v : Value ν) (i : Nat) (w : Value ν) : Except Fault (Value ν) :=
  match v with
  | .list xs =>
    if i < xs.length then .ok (.list (xs.set i w)) else .error (.outOfRange "list assignment")
  | v => .error (.wrongType ("'" ++ v.typeName ++ "' object does not support item assignment"))

def setItem (v : Value ν) (key : String) (w : Value ν) : Except Fault (Value ν) :=
  match v with
  | .record fs => .ok (.record (insert key w fs))
  | .box fs => .ok (.box (insert key w fs))
  | .list _ => .error (.wrongType "list indices must be integers or slices, not str")
  | v => .error (.wrongType ("'" ++ v.typeName ++ "' object does not support item assignment"))

end RemoteSensing.Value

/-!
Arithmetic and comparison of values.
-/

namespace RemoteSensing

inductive Num (ν : Type) where
  | int (i : Int)
  | real (x : ν)

namespace Num

variable {ν : Type} [Scalar ν]

def toReal : Num ν → Except Fault ν
  | .int i =>
    match Scalar.ofInt i with
    | some x => .ok x
    | none => .error (.overflow "int too large to convert to float")
  | .real x => .ok x

def combine (f : Int → Int → Int) (g : ν → ν → ν) : Num ν → Num ν → Except Fault (Num ν)
  | .int i, .int j => .ok (.int (f i j))
  | a, b => do pure (.real (g (← a.toReal) (← b.toReal)))

def add (a b : Num ν) : Except Fault (Num ν) := combine (· + ·) Scalar.add a b

def sub (a b : Num ν) : Except Fault (Num ν) := combine (· - ·) Scalar.sub a b

def mul (a b : Num ν) : Except Fault (Num ν) := combine (· * ·) Scalar.mul a b

def lt : Num ν → Num ν → Bool
  | .int i, .int j => decide (i < j)
  | .real x, .real y => Scalar.lt x y
  | .int i, .real y => Scalar.compareInt i y == some .lt
  | .real x, .int j => Scalar.compareInt j x == some .gt

def beq : Num ν → Num ν → Bool
  | .int i, .int j => decide (i = j)
  | .real x, .real y => Scalar.beq x y
  | .int i, .real y => Scalar.compareInt i y == some .eq
  | .real x, .int j => Scalar.compareInt j x == some .eq

def le (a b : Num ν) : Bool :=
  match a, b with
  | .real x, .real y => Scalar.le x y
  | a, b => lt a b || beq a b

def isZero (a : Num ν) : Bool := beq a (.int 0)

def div (a b : Num ν) : Except Fault (Num ν) :=
  match a, b with
  | .int i, .int j =>
    if j = 0 then .error (.divisionByZero "division by zero")
    else
      match Scalar.quotient i j with
      | some x => .ok (.real x)
      | none => .error (.overflow "integer division result too large for a float")
  | a, b => do
    let x ← a.toReal
    let y ← b.toReal
    if b.isZero then .error (.divisionByZero "float division by zero")
    else .ok (.real (Scalar.div x y))

def toValue : Num ν → Value ν
  | .int i => .int i
  | .real x => .real x

end Num

namespace Value

variable {ν : Type} [Scalar ν]

def num? : Value ν → Option (Num ν)
  | .int i => some (.int i)
  | .real x => some (.real x)
  | .bool b => some (.int (if b then 1 else 0))
  | _ => none

def isNumber : Value ν → Bool
  | .int _ | .real _ | .bool _ => true
  | _ => false

def unsupported (op : String) (a b : Value ν) : Fault :=
  .wrongType ("unsupported operand type(s) for " ++ op ++ ": '" ++ a.typeName ++ "' and '" ++ b.typeName ++ "'")

def add (a b : Value ν) : Except Fault (Value ν) :=
  match a.num?, b.num? with
  | some x, some y => (x.add y).map Num.toValue
  | _, _ =>
    match a, b with
    | .str s, .str t => .ok (.str (s ++ t))
    | .list xs, .list ys => .ok (.list (xs ++ ys))
    | .tuple xs, .tuple ys => .ok (.tuple (xs ++ ys))
    | .str _, b => .error (.wrongType ("can only concatenate str (not \"" ++ b.typeName ++ "\") to str"))
    | .list _, b => .error (.wrongType ("can only concatenate list (not \"" ++ b.typeName ++ "\") to list"))
    | .tuple _, b => .error (.wrongType ("can only concatenate tuple (not \"" ++ b.typeName ++ "\") to tuple"))
    | a, b => .error (unsupported "+" a b)

def sub (a b : Value ν) : Except Fault (Value ν) :=
  match a.num?, b.num? with
  | some x, some y => (x.sub y).map Num.toValue
  | _, _ => .error (unsupported "-" a b)

def repeated (v : Value ν) (times : Int) : Value ν :=
  let copies {α : Type} (xs : List α) : List α := (List.replicate times.toNat xs).flatten
  match v with
  | .str s => .str (String.ofList (copies s.toList))
  | .list xs => .list (copies xs)
  | .tuple xs => .tuple (copies xs)
  | v => v

def isSequence : Value ν → Bool
  | .str _ | .list _ | .tuple _ => true
  | _ => false

def mul (a b : Value ν) : Except Fault (Value ν) :=
  match a.num?, b.num? with
  | some x, some y => (x.mul y).map Num.toValue
  | none, some (.int n) => if a.isSequence then .ok (a.repeated n) else .error (unsupported "*" a b)
  | some (.int n), none => if b.isSequence then .ok (b.repeated n) else .error (unsupported "*" a b)
  | _, _ =>
    let byOther (v : Value ν) : Fault := .wrongType ("can't multiply sequence by non-int of type '" ++ v.typeName ++ "'")
    if a.isSequence then .error (byOther b)
    else if b.isSequence then .error (byOther a)
    else .error (unsupported "*" a b)

def div (a b : Value ν) : Except Fault (Value ν) :=
  match a.num?, b.num? with
  | some x, some y => (x.div y).map Num.toValue
  | _, _ => .error (unsupported "/" a b)

def unordered (op : String) (a b : Value ν) : Fault :=
  .wrongType
    ("'" ++ op ++ "' not supported between instances of '" ++ a.typeName ++ "' and '" ++ b.typeName ++ "'")

mutual

def same : Value ν → Value ν → Bool
  | .null, .null => true
  | .str s, .str t => s == t
  | .list xs, .list ys => sameList xs ys
  | .tuple xs, .tuple ys => sameList xs ys
  | .record xs, .record ys => xs.length == ys.length && sameFields xs ys
  | .record xs, .box ys => xs.length == ys.length && sameFields xs ys
  | .box xs, .record ys => xs.length == ys.length && sameFields xs ys
  | .box xs, .box ys => xs.length == ys.length && sameFields xs ys
  | .moment m, .moment n => m.offset.isSome == n.offset.isSome && m.micros == n.micros
  | a, b =>
    match a.num?, b.num? with
    | some x, some y => x.beq y
    | _, _ => false

def sameList : List (Value ν) → List (Value ν) → Bool
  | [], [] => true
  | x :: xs, y :: ys => same x y && sameList xs ys
  | _, _ => false

def sameFields : Fields (Value ν) → Fields (Value ν) → Bool
  | [], _ => true
  | (k, x) :: r, ys =>
    (match lookup k ys with
      | some y => same x y
      | none => false) && sameFields r ys

end

mutual

def order (op : String) (f : Num ν → Num ν → Bool) (g : String → String → Bool) :
    Value ν → Value ν → Except Fault Bool
  | .list xs, .list ys => orderLists op f g xs ys
  | .tuple xs, .tuple ys => orderLists op f g xs ys
  | .str s, .str t => .ok (g s t)
  | .moment m, .moment n =>
    if m.offset.isSome = n.offset.isSome then .ok (f (.int m.micros) (.int n.micros))
    else .error (.wrongType "can't compare offset-naive and offset-aware datetimes")
  | a, b =>
    match a.num?, b.num? with
    | some x, some y => .ok (f x y)
    | _, _ => .error (unordered op a b)

def orderLists (op : String) (f : Num ν → Num ν → Bool) (g : String → String → Bool) :
    List (Value ν) → List (Value ν) → Except Fault Bool
  | [], [] => .ok (f (.int 0) (.int 0))
  | [], _ :: _ => .ok (f (.int 0) (.int 1))
  | _ :: _, [] => .ok (f (.int 1) (.int 0))
  | x :: xs, y :: ys => if same x y then orderLists op f g xs ys else order op f g x y

end

def lt (a b : Value ν) : Except Fault Bool := order "<" Num.lt (fun s t => decide (s < t)) a b

def gt (a b : Value ν) : Except Fault Bool :=
  order ">" (fun x y => Num.lt y x) (fun s t => decide (t < s)) a b

def le (a b : Value ν) : Except Fault Bool :=
  order "<=" Num.le (fun s t => decide (¬ t < s)) a b

def ge (a b : Value ν) : Except Fault Bool :=
  order ">=" (fun x y => Num.le y x) (fun s t => decide (¬ s < t)) a b

def memberOf (v : Value ν) (xs : List (Value ν)) : Bool := xs.any (same v)

def holds (container v : Value ν) : Except Fault Bool :=
  match container, v with
  | c, .str s => c.has s
  | .list xs, v | .tuple xs, v => .ok (v.memberOf xs)
  | .record _, v | .box _, v => v.checkKey.map fun _ => false
  | .str _, v => .error (.wrongType
      ("'in <string>' requires string as left operand, not " ++ v.typeName))
  | c, _ => .error (.wrongType ("argument of type '" ++ c.typeName ++ "' is not iterable"))

def isText (v : Value ν) (s : String) : Bool :=
  match v with
  | .str t => t == s
  | _ => false

def truthy (v : Value ν) : Bool :=
  match v with
  | .null => false
  | .str s => !s.isEmpty
  | .list xs | .tuple xs => !xs.isEmpty
  | .record fs | .box fs => !fs.isEmpty
  | v =>
    match v.num? with
    | some x => !x.isZero
    | none => true

def extreme (smaller : Value ν → Value ν → Except Fault Bool) (best : Value ν) :
    List (Value ν) → Except Fault (Value ν)
  | [] => .ok best
  | x :: r => do
    if ← smaller x best then extreme smaller x r else extreme smaller best r

def minimum : List (Value ν) → Except Fault (Value ν)
  | [] => .error (.wrongValue "min() arg is an empty sequence")
  | x :: r => extreme lt x r

def maximum : List (Value ν) → Except Fault (Value ν)
  | [] => .error (.wrongValue "max() arg is an empty sequence")
  | x :: r => extreme gt x r

def total (xs : List (Value ν)) : Except Fault (Value ν) := xs.foldlM add (.int 0)

end Value

end RemoteSensing
