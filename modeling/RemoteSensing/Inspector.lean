import RemoteSensing.Command

/-!
The inspector shows what the server knows of an object as a tree of labels.
-/

namespace RemoteSensing.Inspector

open Value

def node (label : String) (children : List Data) (expanded : Data) (topLevel : Data := false) : Data :=
  .record [("label", label), ("children", .list children), ("expanded", expanded), ("topLevel", topLevel)]

def nodeCommand : Command where
  parameters := ["label", opt "children", opt "expanded" false, opt "top_level" false]
  run a :=
    let children := if (a "children").truthy then a "children" else .list []
    pure (.record [("label", a "label"), ("children", children), ("expanded", a "expanded"),
      ("topLevel", a "top_level")])

def ordered {α : Type} (fields : List (String × α)) (order : List String)
    (listed : String → Bool := order.contains) : List (String × α) :=
  let first := order.filter fun k => (lookup k fields).isSome
  let rest := ((fields.map (·.1)).filter fun k => !listed k).mergeSort fun a b => decide (a ≤ b)
  (first ++ rest).foldl
    (fun acc k => match lookup k fields with
      | some v => insert k v acc
      | none => acc) []

def orderedCommand : Command where
  parameters := ["item_dict", "ordering_list"]
  run a := do
    let items ← (a "ordering_list").elements
    let fields ← if items.isEmpty then (a "item_dict").fieldsOf "items" else (a "item_dict").fieldsOf "keys"
    checkKeys items
    let order := items.filterMap fun v => match v with
      | .str s => some s
      | _ => none
    let listed (k : String) : Bool := match (a "ordering_list").has k with
      | .ok b => b
      | .error _ => false
    pure (.list ((ordered fields order listed).map fun kv => .list [.str kv.1, kv.2]))

def recordLabel (index : Data) (v : Data) : Except Fault String := do
  let part (key : String) (f : Data → Except Fault String) : Except Fault (List String) := do
    if ← v.has key then pure [← f (← v.item key)] else pure []
  let id ← part "id" fun x => pure ("\"" ++ x.display ++ "\"")
  let type ← part "data_type" fun x => do pure (← x.item "precision").display
  let crs ← part "crs" fun x => pure x.display
  let size ← part "dimensions" fun x => do
    pure ((← x.nth 0).display ++ "x" ++ (← x.nth 1).display ++ " px")
  pure (index.display ++ ": " ++ Text.join ", " (id ++ type ++ crs ++ size))

def recordLabelCommand : Command where
  parameters := ["index", "item"]
  run a := do pure (.str (← recordLabel (a "index") (a "item")))

def fieldLabel (key : String) (size : Nat) : String :=
  if key == "properties" then "properties: Object (" ++ toString size ++ " properties)"
  else if key == "bands" then "bands: List (" ++ toString size ++ " elements)"
  else key

mutual

def nodes (expanded : Data) : Data → Except Fault (List Data)
  | .list xs => elementNodes expanded 0 xs
  | .record fs => fieldNodes expanded fs
  | .box fs => fieldNodes expanded fs
  | v => .ok [node v.display [] expanded]

def elementNodes (expanded : Data) (i : Nat) : List Data → Except Fault (List Data)
  | [] => .ok []
  | x :: r => do
    let first ← elementNode expanded i x
    let rest ← elementNodes expanded (i + 1) r
    pure (first :: rest)

def elementNode (expanded : Data) (i : Nat) : Data → Except Fault Data
  | .record fs => do
    let label ← recordLabel (.int i) (.record fs)
    pure (node label (← fieldNodes expanded fs) expanded)
  | .box fs => do
    let label ← recordLabel (.int i) (.box fs)
    pure (node label (← fieldNodes expanded fs) expanded)
  | v => .ok (node (toString i ++ ": " ++ v.display) [] expanded)

def fieldNodes (expanded : Data) : Fields → Except Fault (List Data)
  | [] => .ok []
  | (k, x) :: r => do
    let first ← fieldNode expanded k x
    let rest ← fieldNodes expanded r
    pure (first :: rest)

def fieldNode (expanded : Data) (k : String) : Data → Except Fault Data
  | .list xs => do
    pure (node (fieldLabel k xs.length) (← elementNodes expanded 0 xs) expanded)
  | .record fs => do
    pure (node (fieldLabel k fs.length) (← fieldNodes expanded fs) expanded)
  | .box fs => do
    pure (node (fieldLabel k fs.length) (← fieldNodes expanded fs) expanded)
  | v => .ok (node (k ++ ": " ++ v.display) [] expanded)

end

def nodesCommand : Command where
  parameters := ["info", "opened"]
  run a := do pure (.list (← nodes (a "opened") (a "info")))

def firstKeys : List String := ["type", "id", "version", "bands", "properties"]

def shownFields (fields : Fields) : Except Fault Fields := do
  let fields := erase "geometry" fields
  let properties := (lookup "properties" fields).getD .null
  let fields ←
    if properties.truthy then do
      let inner ← properties.fieldsOf "items"
      let sorted := inner.mergeSort fun a b => decide (a.1 ≤ b.1)
      pure (insert "properties" (.record sorted) fields)
    else pure fields
  pure (ordered fields firstKeys)

def topLabel (name : Data) (className : String) (fields : Fields) : Except Fault String := do
  let type := (lookup "type" fields).getD (.str className)
  let bands := (lookup "bands" fields).getD .null
  let count ← if bands.truthy then do pure (" (" ++ toString (← bands.len) ++ " bands)") else pure ""
  pure ((if name.truthy then name.display ++ ": " else name.display) ++ type.display ++ count)

def tree (name expanded : Data) (className : String) (answer : Data) : Except Fault Data := do
  if !answer.truthy then return .record []
  let fields ← match answer with
    | .record fs | .box fs => pure fs
    | v =>
      if ← v.has "geometry" then
        match v with
        | .list _ => throw (.wrongType "'str' object cannot be interpreted as an integer")
        | v => throw (.noMember v.typeName "pop")
      else throw (.noMember v.typeName "get")
  let fields ← shownFields fields
  let label ← topLabel name className fields
  pure (node label (← fieldNodes expanded fields) expanded)

def inspect (object name expanded : Data) : Session Data := do
  let object := if object.isKind .featureCollection then
      object.call "map" [.each 1 fun f => Kind.feature.make [.null, f.call "toDictionary"]]
    else object
  let answer ← Session.info object
  tree name expanded object.typeName answer

def inspectCommand : Command where
  parameters := ["ee_object", opt "layer_name" "", opt "opened" false]
  run a := inspect (a "ee_object") (a "layer_name") (a "opened")

end RemoteSensing.Inspector
