import RemoteSensing.Session.Access

/-!
Properties of widgets.
-/

namespace RemoteSensing.Property

def withArticle (owner : String) : String :=
  match owner.toList with
  | c :: _ => (if "aeiou".toList.contains c.toLower then "an " else "a ") ++ owner
  | [] => owner

def refusal (owner name expected : String) (v : Data) : Fault :=
  .badProperty ("The '" ++ name ++ "' trait of " ++ withArticle owner ++ " instance expected " ++ expected ++
    ", not the " ++ v.typeName ++ " " ++ v.literal ++ ".")

def text (owner name : String) (v : Data) : Except Fault String :=
  match v with
  | .str s => .ok s
  | v => .error (refusal owner name "a unicode string" v)

def outside (owner name bound : String) (x : Float) : Fault :=
  .badProperty ("The value of the '" ++ name ++ "' trait of " ++ withArticle owner ++ " instance should not be " ++
    bound ++ ", but a value of " ++ Decimal.natural x ++ " was specified")

def share (owner name : String) (v : Data) : Except Fault Float :=
  match v.num? with
  | none => .error (refusal owner name "a float" v)
  | some n => do
    let x ← n.toReal
    if x < 0.0 then .error (outside owner name "less than 0.0" x)
    else if x > 1.0 then .error (outside owner name "greater than 1.0" x)
    else .ok x

def fraction (owner name : String) (v : Data) : Except Fault Float :=
  match v.toReal with
  | .ok x => .ok x
  | .error _ => .error (refusal owner name "a float" v)

def sequence (owner name : String) (v : Data) : Except Fault Data :=
  match v with
  | .list _ | .tuple _ => .ok v
  | v => .error (refusal owner name "a list" v)

def fields (owner name : String) (v : Data) : Except Fault Data :=
  if v.isRecord then .ok v else .error (refusal owner name "a dict" v)

def length (name : String) (v : Data) : Except Fault Unit :=
  match v with
  | .str _ | .null => .ok ()
  | v => .error (refusal "Layout" name "a unicode string or None" v)

def corner (v : Data) : Except Fault String :=
  match v with
  | .str "topright" => .ok "topright"
  | .str "topleft" => .ok "topleft"
  | .str "bottomright" => .ok "bottomright"
  | .str "bottomleft" => .ok "bottomleft"
  | v => .error (refusal "WidgetControl" "position" "any of the four corners" v)

end RemoteSensing.Property

/-!
Commands.
-/

namespace RemoteSensing

structure Parameter where
  name : String
  default : Option Data := none

structure Arguments where
  values : Fields
  rest : Fields := []

def Arguments.get (a : Arguments) (name : String) : Data := (Value.lookup name a.values).getD .null

instance : CoeFun Arguments fun _ => String → Data := ⟨Arguments.get⟩

structure Command where
  parameters : List Parameter
  open_ : Bool := false
  run : Arguments → Session Data

/-- A name alone is a parameter that has to be given. -/
instance : Coe String Parameter := ⟨fun name => ⟨name, none⟩⟩

def opt (name : String) (default : Data := .null) : Parameter := ⟨name, some default⟩

def opts (names : List String) : List Parameter := names.map fun n => ⟨n, some .null⟩

namespace Command

def bindNamed (c : Command) : Arguments → Fields → Except Fault Arguments
  | a, [] => .ok a
  | a, (k, v) :: r =>
    if (Value.lookup k a.values).isSome then
      .error (.wrongType ("got multiple values for argument '" ++ k ++ "'"))
    else if c.parameters.any fun p => p.name == k then
      bindNamed c { a with values := a.values ++ [(k, v)] } r
    else if c.open_ then bindNamed c { a with rest := a.rest ++ [(k, v)] } r
    else .error (.wrongType ("got an unexpected keyword argument '" ++ k ++ "'"))

def fill : List Parameter → Arguments → Except Fault Arguments
  | [], a => .ok a
  | p :: r, a =>
    if (Value.lookup p.name a.values).isSome then fill r a
    else match p.default with
      | some v => fill r { a with values := a.values ++ [(p.name, v)] }
      | none => .error (.wrongType ("missing required argument: '" ++ p.name ++ "'"))

def bind (c : Command) (args : List Data) (named : Fields) : Except Fault Arguments := do
  if c.parameters.length < args.length then
    throw (.wrongType ("takes " ++ toString c.parameters.length ++ " positional arguments"))
  let a ← c.bindNamed ⟨(c.parameters.map (·.name)).zip args, []⟩ named
  fill c.parameters a

def call (c : Command) (args : List Data) (named : Fields := []) : Session Data := do
  c.run (← c.bind args named)

end Command

end RemoteSensing
