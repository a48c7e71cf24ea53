import RemoteSensing.Calendar
import RemoteSensing.Decimal.Notation

/-!
Values.
-/

namespace RemoteSensing

inductive Kind where
  | image
  | imageCollection
  | featureCollection
  | feature
  | geometry
  | reducer
  | kernel
  | array
  | list
  | number
  | string
  | date
  | dictionary
  | filter
  | join
  | projection
  | classifier
  | clusterer
  | algorithms
  | terrain
  | task
  | exports
  | computed
deriving DecidableEq, Repr, Inhabited

namespace Kind

def name : Kind → String
  | image => "Image"
  | imageCollection => "ImageCollection"
  | featureCollection => "FeatureCollection"
  | feature => "Feature"
  | geometry => "Geometry"
  | reducer => "Reducer"
  | kernel => "Kernel"
  | array => "Array"
  | list => "List"
  | number => "Number"
  | string => "String"
  | date => "Date"
  | dictionary => "Dictionary"
  | filter => "Filter"
  | join => "Join"
  | projection => "Projection"
  | classifier => "Classifier"
  | clusterer => "Clusterer"
  | algorithms => "Algorithms"
  | terrain => "Terrain"
  | task => "Task"
  | exports => "Export"
  | computed => "ComputedObject"

def all : List Kind :=
  [image, imageCollection, featureCollection, feature, geometry, reducer, kernel, array, list, number,
    string, date, dictionary, filter, join, projection, classifier, clusterer, algorithms, terrain, task,
    exports, computed]

def ofName? (s : String) : Option Kind := all.find? fun k => k.name == s

def ofMethod (receiver : Kind) (method : String) : Kind :=
  if ["map", "filter", "filterBounds", "filterDate", "filterMetadata", "limit", "sort", "clip", "addBands",
      "rename", "updateMask", "set", "merge", "unmask", "copyProperties", "select"].contains method then
    receiver
  else if ["geometry", "bounds", "centroid", "buffer"].contains method then geometry
  else if ["mosaic", "toBands", "median"].contains method then image
  else if ["reduceRegions", "sampleRegions", "sample"].contains method then featureCollection
  else computed

end Kind

/-! Measured numbers. -/

class Scalar (ν : Type) where
  ofInt : Int → Option ν
  quotient : Int → Int → Option ν
  compareInt : Int → ν → Option Ordering
  add : ν → ν → ν
  sub : ν → ν → ν
  mul : ν → ν → ν
  div : ν → ν → ν
  lt : ν → ν → Bool
  le : ν → ν → Bool
  beq : ν → ν → Bool
  text : ν → String

instance : Scalar Float where
  ofInt := Decimal.ofInt?
  quotient := Decimal.quotient?
  compareInt := Decimal.compareInt
  add := Float.add
  sub := Float.sub
  mul := Float.mul
  div := Float.div
  lt x y := x < y
  le x y := x ≤ y
  beq x y := x == y
  text := Decimal.natural

/-! Values. -/

inductive Value (ν : Type) where
  | null
  | bool (b : Bool)
  | int (i : Int)
  | real (x : ν)
  | str (s : String)
  | list (items : List (Value ν))
  | tuple (items : List (Value ν))
  | record (fields : List (String × Value ν))
  | box (fields : List (String × Value ν))
  | moment (m : Moment)
  | extent (west south east north : Value ν)
  | grid (rows : Value ν)
  | table (index : List (Value ν)) (columns : List (Value ν × List (Value ν)))
  | layer (url attribution name opacity maxZoom : Value ν)
  | endpoint (planetary : Bool) (base name matrix : Value ν)
  | widget (name : String) (content : Value ν)
  | thing (name : String)
  | object (kind : Kind) (name : String)
  | construct (kind : Kind) (args : List (Value ν)) (named : List (String × Value ν))
  | static (kind : Kind) (path : List String) (args : List (Value ν)) (named : List (String × Value ν))
  | method (target : Value ν) (name : String) (args : List (Value ν)) (named : List (String × Value ν))
  | function (params : List String) (body : Value ν)
deriving Inhabited

abbrev Data := Value Float

/-- Things under names, in the order in which they were set. -/
abbrev Fields (α : Type := Data) := List (String × α)

namespace Value

variable {ν : Type}

instance (n : Nat) : OfNat (Value ν) n := ⟨.int n⟩
instance : Coe String (Value ν) := ⟨.str⟩
instance : Coe Bool (Value ν) := ⟨.bool⟩
instance : OfScientific Data := ⟨fun m s e => .real (OfScientific.ofScientific m s e)⟩

def strs (xs : List String) : Value ν := .list (xs.map .str)

def lookup {α : Type} (key : String) : Fields α → Option α
  | [] => none
  | (k, v) :: r => if k = key then some v else lookup key r

def insert {α : Type} (key : String) (v : α) : Fields α → Fields α
  | [] => [(key, v)]
  | (k, w) :: r => if k = key then (k, v) :: r else (k, w) :: insert key v r

def erase {α : Type} (key : String) : Fields α → Fields α
  | [] => []
  | (k, w) :: r => if k = key then r else (k, w) :: erase key r

def insertAll {α : Type} (fields more : Fields α) : Fields α :=
  more.foldl (fun acc kv => insert kv.1 kv.2 acc) fields

mutual

def height : Value ν → Nat
  | .list xs => heightOfList xs + 1
  | .tuple xs => heightOfList xs + 1
  | .record fs => heightOfFields fs + 1
  | .box fs => heightOfFields fs + 1
  | _ => 1

def heightOfList : List (Value ν) → Nat
  | [] => 0
  | x :: r => max (height x) (heightOfList r)

def heightOfFields : Fields (Value ν) → Nat
  | [] => 0
  | (_, x) :: r => max (height x) (heightOfFields r)

end

def kind? : Value ν → Option Kind
  | .object k _ => some k
  | .construct k _ _ => some k
  | .static .exports _ _ _ => some .task
  | .static k _ _ _ => some k
  | .method t m _ _ => some (Kind.ofMethod (t.kind?.getD .computed) m)
  | _ => none

def isKind (v : Value ν) (k : Kind) : Bool := v.kind? == some k

def isAnyKind (v : Value ν) (ks : List Kind) : Bool := ks.any v.isKind

def typeName (v : Value ν) : String :=
  match v with
  | .null => "NoneType"
  | .bool _ => "bool"
  | .int _ => "int"
  | .real _ => "float"
  | .str _ => "str"
  | .list _ => "list"
  | .tuple _ => "tuple"
  | .record _ => "dict"
  | .box _ => "Box"
  | .moment _ => "datetime"
  | .extent .. => "BBox"
  | .grid _ => "ndarray"
  | .table .. => "DataFrame"
  | .layer .. => "TileLayer"
  | .endpoint p .. => if p then "PlanetaryComputerEndpoint" else "TitilerEndpoint"
  | .widget n _ => n
  | .thing n => n
  | .function .. => "function"
  | v => (v.kind?.getD .computed).name

def className (v : Value ν) : String :=
  match v, v.kind? with
  | _, some k => "<class 'ee." ++ Text.lower k.name ++ "." ++ k.name ++ "'>"
  | .moment _, _ => "<class 'datetime.datetime'>"
  | .table .., _ => "<class 'pandas.core.frame.DataFrame'>"
  | .box _, _ => "<class 'box.Box'>"
  | v, none => "<class '" ++ v.typeName ++ "'>"

def isNull : Value ν → Bool
  | .null => true
  | _ => false

def isStr : Value ν → Bool
  | .str _ => true
  | _ => false

def isList : Value ν → Bool
  | .list _ => true
  | _ => false

def isTuple : Value ν → Bool
  | .tuple _ => true
  | _ => false

def isInt : Value ν → Bool
  | .int _ | .bool _ => true
  | _ => false

def fields? : Value ν → Option (Fields (Value ν))
  | .record fs => some fs
  | .box fs => some fs
  | _ => none

def isRecord (v : Value ν) : Bool := v.fields?.isSome

end Value

end RemoteSensing

namespace RemoteSensing.Value

/-! Renaming keys. -/

variable {ν : Type}

def plainKey (k : String) : String := String.ofList (Chars.replace ['-'] ['_'] k.toList)

def renameFields (fields : Fields (Value ν)) : Fields (Value ν) :=
  fields.foldl (fun acc kv => insert (plainKey kv.1) kv.2 acc) []

def renameKeys (v : Value ν) : Value ν :=
  match v with
  | .record fs | .box fs => .record (renameFields fs)
  | v => v

mutual

def renameAllKeys : Value ν → Value ν
  | .record fs => .record (renameFields (renameInFields fs))
  | .box fs => .record (renameFields (renameInFields fs))
  | .list xs => .list (renameInList xs)
  | v => v

def renameInList : List (Value ν) → List (Value ν)
  | [] => []
  | x :: r => renameAllKeys x :: renameInList r

def renameInFields : Fields (Value ν) → Fields (Value ν)
  | [] => []
  | (k, x) :: r => (k, renameAllKeys x) :: renameInFields r

end

end RemoteSensing.Value
