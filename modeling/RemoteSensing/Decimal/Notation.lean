import RemoteSensing.Text.Basic

/-!
From exact values to floating-point numbers.
-/

namespace RemoteSensing.Decimal

open String

structure Binary where
  negative : Bool
  mantissa : Nat
  exponent : Int
  narrow : Bool
deriving Repr

inductive Decoded where
  | finite (b : Binary)
  | infinite (negative : Bool)
  | notANumber
deriving Repr

def decode (x : Float) : Decoded :=
  let bits := x.toBits.toNat
  let negative := decide (Nat.pow 2 63 ≤ bits)
  let field : Nat := bits / Nat.pow 2 52 % Nat.pow 2 11
  let fraction : Nat := bits % Nat.pow 2 52
  if field = 2047 then
    if fraction = 0 then .infinite negative else .notANumber
  else if field = 0 then
    .finite ⟨negative, fraction, -1074, false⟩
  else
    .finite ⟨negative, Nat.pow 2 52 + fraction, (field : Int) - 1075, fraction == 0 && field != 1⟩

namespace Binary

def numerator (b : Binary) : Nat := b.mantissa * Nat.pow 2 b.exponent.toNat

def denominator (b : Binary) : Nat := Nat.pow 2 (-b.exponent).toNat

end Binary

def width (n : Nat) : Nat := (Nat.toDigits 10 n).length

def magnitude (num den : Nat) : Int :=
  if den ≤ num then (width (num / den) : Int)
  else 1 - (width ((den - 1) / num) : Int)

def roundDiv (num den : Nat) : Nat :=
  let q := num / den
  let twice := 2 * (num % den)
  if twice < den then q
  else if den < twice then q + 1
  else if q % 2 = 0 then q else q + 1

def assemble? (mantissa : Nat) (exponent : Int) : Option Float :=
  if 971 < exponent then none
  else if mantissa < Nat.pow 2 52 then some (Float.ofBits mantissa.toUInt64)
  else
    let field := (exponent + 1075).toNat
    some (Float.ofBits (field * Nat.pow 2 52 + (mantissa - Nat.pow 2 52)).toUInt64)

def targetExponent (num den : Nat) : Int :=
  let guess := (num.log2 : Int) - den.log2
  -- the quotient lies above `2 ^ (guess - 1)` and below `2 ^ (guess + 1)`
  let isAbove := den * Nat.pow 2 guess.toNat ≤ num * Nat.pow 2 (-guess).toNat
  max ((if isAbove then guess else guess - 1) - 52) (-1074)

def nearest? (num den : Nat) : Option Float :=
  if num = 0 then some 0.0
  else
    let e := targetExponent num den
    let m := roundDiv (num * Nat.pow 2 (-e).toNat) (den * Nat.pow 2 e.toNat)
    if m = Nat.pow 2 53 then assemble? (Nat.pow 2 52) (e + 1) else assemble? m e

def ofInt? (i : Int) : Option Float :=
  (nearest? i.natAbs 1).map fun x => if i < 0 then -x else x

def quotient? (i j : Int) : Option Float :=
  (nearest? i.natAbs j.natAbs).map fun x => if decide (i < 0) != decide (j < 0) then -x else x

def infinity : Float := Float.ofBits 0x7FF0000000000000

def toFloat (digits : Nat) (exponent : Int) : Float :=
  -- beyond these bounds the result is zero or infinite
  let size := exponent + width digits
  if digits = 0 || size < -400 then 0.0
  else if 400 < size then infinity
  else (nearest? (digits * Nat.pow 10 exponent.toNat) (Nat.pow 10 (-exponent).toNat)).getD infinity

def compareInt (i : Int) (x : Float) : Option Ordering :=
  match decode x with
  | .notANumber => none
  | .infinite negative => some (if negative then .gt else .lt)
  | .finite b =>
    let n : Int := if b.negative then -(b.numerator : Int) else b.numerator
    some (compare (i * b.denominator) n)

/-! How numbers are laid out. -/

structure Digits where
  digits : Nat
  exponent : Int
deriving Repr, DecidableEq

def decimalBelow (strict : Bool) (d : Nat) (e : Int) (n : Nat) (q : Int) : Bool :=
  let left := d * Nat.pow 10 e.toNat * Nat.pow 2 (-q).toNat
  let right := n * Nat.pow 2 q.toNat * Nat.pow 10 (-e).toNat
  if strict then left < right else left ≤ right

def identifies (b : Binary) (d : Nat) (e : Int) : Bool :=
  let even := b.mantissa % 2 == 0
  let low := if b.narrow then 4 * b.mantissa - 1 else 4 * b.mantissa - 2
  let high := 4 * b.mantissa + 2
  let q := b.exponent - 2
  decimalBelow (!even) d e high q && !decimalBelow even d e low q

def gridFloor (b : Binary) (g : Int) : Nat :=
  b.numerator * Nat.pow 10 (-g).toNat / (b.denominator * Nat.pow 10 g.toNat)

def upperNearer (b : Binary) (f : Nat) (g : Int) : Bool :=
  let twice := 2 * b.numerator * Nat.pow 10 (-g).toNat
  let middle := (2 * f + 1) * b.denominator * Nat.pow 10 g.toNat
  if twice = middle then f % 2 == 1 else middle < twice

def onGrid (b : Binary) (g : Int) : Option Nat :=
  let f := gridFloor b g
  match identifies b f g, identifies b (f + 1) g with
  | true, true => some (if upperNearer b f g then f + 1 else f)
  | true, false => some f
  | false, true => some (f + 1)
  | false, false => none

def stripZeros : Nat → Digits → Digits
  | 0, d => d
  | fuel + 1, d =>
    if d.digits != 0 && d.digits % 10 == 0 then stripZeros fuel ⟨d.digits / 10, d.exponent + 1⟩ else d

def search (b : Binary) (k : Int) : Nat → Nat → Option Digits
  | 0, _ => none
  | fuel + 1, n =>
    match onGrid b (k - n) with
    | some d => some (stripZeros 18 ⟨d, k - n⟩)
    | none => search b k fuel (n + 1)

def shortest (b : Binary) : Digits :=
  (search b (magnitude b.numerator b.denominator) 17 1).getD
    ⟨b.numerator * Nat.pow 10 (-b.exponent).toNat / b.denominator, b.exponent⟩

def exponentMark (e : Int) : String :=
  let digits := toString e.natAbs
  let padded := if digits.length < 2 then "0" ++ digits else digits
  (if e < 0 then "e-" else "e+") ++ padded

def positional (digits : String) (point : Int) : String :=
  let n := digits.length
  if point ≤ 0 then
    "0." ++ ofList (List.replicate (-point).toNat '0') ++ digits
  else if point ≥ n then
    digits ++ ofList (List.replicate (point - n).toNat '0') ++ ".0"
  else
    ofList (digits.toList.take point.toNat) ++ "." ++ ofList (digits.toList.drop point.toNat)

def natural (x : Float) : String :=
  match decode x with
  | .notANumber => "nan"
  | .infinite negative => if negative then "-inf" else "inf"
  | .finite b =>
    let sign := if b.negative then "-" else ""
    if b.mantissa = 0 then sign ++ "0.0"
    else
      let d := shortest b
      let digits := toString d.digits
      let point := d.exponent + digits.length
      if -4 ≤ point - 1 && point - 1 < 16 then sign ++ positional digits point
      else
        let tail := ofList (digits.toList.drop 1)
        let body := ofList (digits.toList.take 1) ++ (if tail.isEmpty then "" else "." ++ tail)
        sign ++ body ++ exponentMark (point - 1)

def placePoint (n places : Nat) : String :=
  let digits := toString n
  let padded := ofList (List.replicate (places + 1 - digits.length) '0') ++ digits
  if places = 0 then padded
  else
    let cut := padded.length - places
    ofList (padded.toList.take cut) ++ "." ++ ofList (padded.toList.drop cut)

def fixed (places : Nat) (x : Float) : String :=
  match decode x with
  | .notANumber => "nan"
  | .infinite negative => if negative then "-inf" else "inf"
  | .finite b =>
    let n := roundDiv (b.numerator * Nat.pow 10 places) b.denominator
    (if b.negative then "-" else "") ++ placePoint n places

def scientific (places : Nat) (x : Float) : String :=
  match decode x with
  | .notANumber => "nan"
  | .infinite negative => if negative then "-inf" else "inf"
  | .finite b =>
    let sign := if b.negative then "-" else ""
    if b.mantissa = 0 then sign ++ placePoint 0 places ++ exponentMark 0
    else
      let e := magnitude b.numerator b.denominator - 1
      let g := e - places
      let n := roundDiv (b.numerator * Nat.pow 10 (-g).toNat) (b.denominator * Nat.pow 10 g.toNat)
      if n = Nat.pow 10 (places + 1) then sign ++ placePoint (n / 10) places ++ exponentMark (e + 1)
      else sign ++ placePoint n places ++ exponentMark e

def roundTo? (places : Int) (x : Float) : Option Float :=
  match decode x with
  | .notANumber => some x
  | .infinite _ => some x
  | .finite b =>
    if places > 323 then some x
    else if places < -308 then some (0.0 * x)
    else
      let n := roundDiv (b.numerator * Nat.pow 10 places.toNat) (b.denominator * Nat.pow 10 (-places).toNat)
      let r := toFloat n (-places)
      if r.isInf then none else some (if b.negative then -r else r)

def spanDigits : Bool → Nat → Nat → List Char → Nat × Nat × List Char
  | _, value, count, [] => (value, count, [])
  | last, value, count, c :: r =>
    match Text.decimal? c with
    | some d => spanDigits true (value * 10 + d) (count + 1) r
    | none =>
      match c, r with
      | '_', d :: _ =>
        if last && (Text.decimal? d).isSome then spanDigits false value count r
        else (value, count, c :: r)
      | _, _ => (value, count, c :: r)

def exponent? : List Char → Option Int
  | [] => some 0
  | c :: r =>
    if c = 'e' || c = 'E' then
      let (negative, digits) : Bool × List Char :=
        match r with
        | '-' :: t => (true, t)
        | '+' :: t => (false, t)
        | t => (false, t)
      match spanDigits false 0 0 digits with
      | (n, count, []) => if count = 0 then none else some (if negative then -(n : Int) else n)
      | _ => none
    else none

def unsigned? (cs : List Char) : Option Float :=
  let word := Text.lower (ofList cs)
  if word == "inf" || word == "infinity" then some (1.0 / 0.0)
  else if word == "nan" then some (0.0 / 0.0)
  else
    let (whole, n, rest) := spanDigits false 0 0 cs
    match rest with
    | '.' :: r =>
      let (value, m, rest) := spanDigits false whole 0 r
      if n + m = 0 then none
      else (exponent? rest).map fun e => toFloat value (e - m)
    | rest => if n = 0 then none else (exponent? rest).map fun e => toFloat whole e

def read? (s : String) : Option Float :=
  match Chars.trim s.toList with
  | '-' :: r => (unsigned? r).map Float.neg
  | '+' :: r => unsigned? r
  | r => unsigned? r

end RemoteSensing.Decimal
