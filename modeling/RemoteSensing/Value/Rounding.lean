import RemoteSensing.Remote.Call
import RemoteSensing.Value.Number

/-!
Rounding values.
-/

namespace RemoteSensing.Value

open Decimal

def roundInt (places : Int) (i : Int) : Int :=
  if 0 ≤ places then i
  else
    let unit := Nat.pow 10 (-places).toNat
    let q : Int := (roundDiv i.natAbs unit : Nat)
    let r := q * unit
    if i < 0 then -r else r

def wholeBy (divide : Nat → Nat → Nat) (x : Float) : Except Fault Int :=
  match decode x with
  | .notANumber => .error (.wrongValue "cannot convert float NaN to integer")
  | .infinite _ => .error (.overflow "cannot convert float infinity to integer")
  | .finite b =>
    let n : Int := divide b.numerator b.denominator
    .ok (if b.negative then -n else n)

def nearestInt : Float → Except Fault Int := wholeBy roundDiv

def truncated : Float → Except Fault Int := wholeBy (· / ·)

def toWhole (v : Data) : Except Fault Int :=
  match v with
  | .int i => .ok i
  | .bool b => .ok (if b then 1 else 0)
  | .real x => truncated x
  | .str s =>
    match Text.readInt? 10 s with
    | some i => .ok i
    | none => .error (.wrongValue ("invalid literal for int() with base 10: " ++ Text.literal s))
  | v => .error (.wrongType ("int() argument must be a string, a bytes-like object or a real number, not '" ++
      v.typeName ++ "'"))

def toReal (v : Data) : Except Fault Float :=
  match v with
  | .str s =>
    match read? s with
    | some x => .ok x
    | none => .error (.wrongValue ("could not convert string to float: " ++ Text.literal s))
  | v =>
    match v.num? with
    | some x => x.toReal
    | none => .error (.wrongType ("float() argument must be a string or a real number, not '" ++
        v.typeName ++ "'"))

def round (v : Data) (places : Data) : Except Fault Data := do
  let places? : Option Int ← match places with
    | .null => pure none
    | p => some <$> p.index
  match v, places? with
  | .int i, none => pure (.int i)
  | .int i, some p => pure (.int (roundInt p i))
  | .bool b, _ => pure (.int (roundInt (places?.getD 0) (if b then 1 else 0)))
  | .real x, none => pure (.int (← nearestInt x))
  | .real x, some p =>
    match roundTo? p x with
    | some y => pure (.real y)
    | none => throw (.overflow "rounded value too large to represent")
  | v, _ => throw (.wrongType ("type " ++ v.typeName ++ " doesn't define __round__ method"))

def formatted (code : String) (format : Float → String) (v : Data) : Except Fault String :=
  match v with
  | .str _ => .error (.wrongValue ("Unknown format code '" ++ code ++ "' for object of type 'str'"))
  | v =>
    match v.num? with
    | some x => x.toReal.map format
    | none => .error (.wrongType ("unsupported format string passed to " ++ v.typeName ++ ".__format__"))

def fixed (v : Data) (places : Nat) : Except Fault String := formatted "f" (Decimal.fixed places) v

/-!
Keys of any kind.
-/

variable {ν : Type} [Scalar ν]

def subscript (v key : Value ν) : Except Fault (Value ν) :=
  match v, key with
  | v, .str k => v.item k
  | v, .int i => v.nth i
  | .record _, k | .box _, k => do
    k.checkKey
    throw (.missingName k.literal)
  | v, .bool b => v.nth (if b then 1 else 0)
  | .list _, k => .error (.wrongType ("list indices must be integers or slices, not " ++ k.typeName))
  | .tuple _, k => .error (.wrongType ("tuple indices must be integers or slices, not " ++ k.typeName))
  | .str _, k => .error (.wrongType ("string indices must be integers, not " ++ Text.literal k.typeName))
  | v, _ => .error (.wrongType ("'" ++ v.typeName ++ "' object is not subscriptable"))

def putUnder (key v : Value ν) : List (Value ν × Value ν) → List (Value ν × Value ν)
  | [] => [(key, v)]
  | p :: r => if p.1.same key then (p.1, v) :: r else p :: putUnder key v r

def pairUp (keys values : List (Value ν)) : Except Fault (Fields (Value ν)) := do
  let pairs := keys.zip values
  pairs.forM fun p => p.1.checkKey
  let fields := pairs.foldl (fun acc p => putUnder p.1 p.2 acc) []
  pure (fields.foldl (fun acc p => insert p.1.display p.2 acc) [])

end RemoteSensing.Value

namespace RemoteSensing.Statistic

/-! Statistics of many fractions. -/

def plainSum (xs : List Float) : Float := xs.foldl (· + ·) 0

def runningSums : Nat → List Float → List Float → List Float × List Float
  | 0, sums, xs => (sums, xs)
  | fuel + 1, sums, xs =>
    if xs.length < 8 then (sums, xs)
    else runningSums fuel (List.zipWith (· + ·) sums (xs.take 8)) (xs.drop 8)

def blockSum (xs : List Float) : Float :=
  let (sums, rest) := runningSums xs.length (xs.take 8) (xs.drop 8)
  let s (i : Nat) : Float := sums.getD i 0
  rest.foldl (· + ·) (((s 0 + s 1) + (s 2 + s 3)) + ((s 4 + s 5) + (s 6 + s 7)))

def pairSum : Nat → List Float → Float
  | 0, xs => plainSum xs
  | fuel + 1, xs =>
    if xs.length < 8 then plainSum xs
    else if xs.length ≤ 128 then blockSum xs
    else
      let half := xs.length / 2 - xs.length / 2 % 8
      pairSum fuel (xs.take half) + pairSum fuel (xs.drop half)

def sum (xs : List Float) : Float := pairSum xs.length xs

def mean (xs : List Float) : Float := sum xs / Float.ofNat xs.length

def deviation (xs : List Float) : Float :=
  let m := mean xs
  (sum (xs.map fun x => (x - m) * (x - m)) / Float.ofNat xs.length).sqrt

def nearest (x : Float) : Float :=
  if x.abs ≥ 4503599627370496 then x
  else match Value.nearestInt x with
    | .ok n => if n = 0 && x < 0 then -0.0 else Float.ofInt n
    | .error _ => x

def scaledRound (places : Int) (x : Float) : Float :=
  let unit := Decimal.toFloat 1 places.natAbs
  if 0 ≤ places then nearest (x * unit) / unit else nearest (x / unit) * unit

end RemoteSensing.Statistic
