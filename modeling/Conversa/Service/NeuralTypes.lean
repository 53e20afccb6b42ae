import Conversa.Service.Fault
import Conversa.NeuralType.Checking

/-!
# Neural-type requests

Types arrive as specifications: an element is a kind name, `{"type": kind, "freq": f}` or
`{"class": kind}`; an axis is a label, `{"kind": name, "size"?, "is_list"?}` or any other value.
`typecheck` tries a typed method: the host class declares types (a call may change them), the
method may declare its own, and each call passes inputs (`{"shape", "type"?}`, `{"np": shape}`,
`{"tuple": items}`, lists).  `typecheck_meta` gives the layout of declarations.
-/

namespace Conversa.Service

open NeuralType

/-- The element a specification names: none for a kind given in place of an element. -/
def elementSpec (d : Data) : Result (Option ElementValue) :=
  let named (n : String) : Result Element :=
    match Element.ofName? n with
    | some k => .ok k
    | none => .error ⟨"AttributeError", s!"module 'nemo.core.neural_types.elements' has no attribute '{n}'"⟩
  match d with
  | .str n => do pure (some (ElementValue.ofKind (← named n)))
  | .dict kvs =>
    match d.get? "class", d.get? "type" with
    | some (.str n), _ => do let _ ← named n; pure none
    | _, some (.str n) => do
      let k ← named n
      let args := kvs.filter (·.1 != "type")
      if k == .audioSignal then
        match args with
        | [] => pure (some (ElementValue.ofKind k))
        | [("freq", f)] => pure (some ⟨k, [("freq", f)]⟩)
        | (a, _) :: _ => throw (.type s!"AudioSignal.__init__() got an unexpected keyword argument '{a}'")
      else if args.isEmpty then pure (some (ElementValue.ofKind k))
      else throw (.type s!"{n}() takes no arguments")
    | _, _ => .error (badField "elements")
  | _ => .error (badField "elements")

/-- The axis of an axis specification `{"kind", "size"?, "is_list"?}`. -/
def axisValue (d : Data) : Result Axis := do
  let kind ← match d.getD "kind" with
    | .str n => match AxisKind.ofName? n with
      | some k => pure k
      | none => throw (.key (Text.quote n))
    | _ => throw (badField "axis")
  Axis.make kind (d.getD "size") (match d.get? "is_list" with | some v => v | none => .bool false)

def axisSpec (d : Data) : Result AxisSpec :=
  match d with
  | .str s => .ok (.label s)
  | .dict _ => if d.has "kind" then do pure (.axis (← axisValue d)) else .ok (.other d)
  | other => .ok (.other other)

def typeSpec (d : Data) : Result NType := do
  let element ← match d.get? "elements" with
    | some e => elementSpec e
    | none => pure (some (ElementValue.ofKind .void))
  let axes ← match d.getD "axes" with
    | .null => pure none
    | .list xs => do pure (some (← xs.mapM axisSpec))
    | .str s => pure (some (s.toList.map fun c => AxisSpec.label (String.singleton c)))
    | other => throw (.type s!"'{other.kindName}' object is not iterable")
  NType.make axes element ((d.get? "optional").getD (.bool false))

/-- `nt_compare {a, b}`. -/
def ntCompare (req : Data) : Result Data := do
  let a ← typeSpec (req.getD "a")
  let b ← typeSpec (req.getD "b")
  let c := (a.compare b).name
  pure (.dict [("result", .str c), ("eq", .str c), ("a_str", .str a.text), ("a_repr", .str a.repr),
    ("b_repr", .str b.repr)])

/-- `nt_build {type}`. -/
def ntBuild (req : Data) : Result Data := do
  let t ← typeSpec (req.getD "type")
  pure (.dict [("str", .str t.text), ("repr", .str t.repr)])

/-- `nt_check {parent, port, a, b}`. -/
def ntCheck (req : Data) : Result Data := do
  let a ← typeSpec (req.getD "a")
  let b ← typeSpec (req.getD "b")
  a.checkFeed (req.getD "parent").text (req.getD "port").text b
  pure (.dict [("ok", .bool true)])

/-- `nt_port_name_error {name}`. -/
def ntPortNameError (req : Data) : Result Data :=
  .ok (.dict [("message", .str (wrongPortName (req.getD "name").text))])

/-- `axis_kind {label}`. -/
def axisKind (req : Data) : Result Data := do
  let label ← match req.getD "label" with
    | .str s => pure s
    | other => throw ⟨"AttributeError", s!"'{other.kindName}' object has no attribute 'lower'"⟩
  let k ← AxisKind.ofLabel label
  pure (.dict [("name", .str k.name), ("value", .int k.value), ("str", .str k.text)])

/-- `axis_repr {axis}`. -/
def axisRepr (req : Data) : Result Data := do
  let a ← axisValue (req.getD "axis")
  pure (.dict [("repr", .str a.text)])

/-- `element_compare {a, b}`. -/
def elementCompare (req : Data) : Result Data := do
  let some a ← elementSpec (req.getD "a") | throw (.type "ElementType.compare() missing 1 required positional argument: 'second'")
  let some b ← elementSpec (req.getD "b") | throw ⟨"AttributeError", "type object has no attribute 'type_parameters'"⟩
  pure (.dict [("result", .str (a.compare b).name), ("a_repr", .str a.kind.name),
    ("a_doc", .str a.kind.doc), ("a_params", .dict a.params), ("a_fields", .null)])

mutual

def portTypeOf : Data → Result PortType
  | .list items => do pure (.nested (← portTypeItems items))
  | d => do pure (.plain (← typeSpec d))

def portTypeItems : List Data → Result (List PortType)
  | [] => pure []
  | d :: ds => do pure ((← portTypeOf d) :: (← portTypeItems ds))

end

/-- Declarations by name, or none for null. -/
def declaredTypes (d : Data) : Result (Option (List (String × PortType))) :=
  match d with
  | .null => .ok none
  | .dict kvs => do pure (some (← kvs.mapM fun (k, v) => do pure (k, ← portTypeOf v)))
  | _ => .error (badField "types")

mutual

def carriedOf : Data → Result Carried
  | .list items => do pure (.seq (← carriedItems items))
  | .dict [("tuple", .list items)] => do pure (.tuple (← carriedItems items))
  | .dict kvs =>
    match kvs.lookup "np", kvs.lookup "shape" with
    | some (.list shape), _ => pure (.array shape)
    | _, some (.list shape) =>
      match kvs.lookup "type" with
      | some t => do pure (.tensor shape (some (← typeSpec t)))
      | none => pure (.tensor shape none)
    | _, _ => pure (.raw (.dict kvs))
  | d => pure (.raw d)

def carriedItems : List Data → Result (List Carried)
  | [] => pure []
  | d :: ds => do pure ((← carriedOf d) :: (← carriedItems ds))

end

mutual

/-- A value as an answer shows it: a tensor with the text of the type it carries. -/
def carriedData : Carried → Data
  | .tensor shape t => .dict [("shape", .list shape), ("type", (t.map fun t => Data.str t.text).getD .null)]
  | .array shape => .dict [("np", .list shape)]
  | .seq items => .list (carriedDataItems items)
  | .tuple items => .dict [("tuple", .list (carriedDataItems items))]
  | .raw d => d

def carriedDataItems : List Carried → List Data
  | [] => []
  | c :: cs => carriedData c :: carriedDataItems cs

end

/-- The declarations a field gives when it is present: `some` of them, possibly none. -/
def declaredIfPresent (d : Data) (name : String) : Result (Option (Option (List (String × PortType)))) :=
  if d.has name then do pure (some (← declaredTypes (d.getD name))) else .ok none

/-- `typecheck {calls, class_input_types, class_output_types, input_types?, output_types?,
ignore_collections?, host?, ports?}` → `{results}`. -/
def typecheckRequest (req : Data) : Result Data := do
  let kind : HostKind := match (req.getD "host").text with
    | "function" => .function
    | "plain" => .plain
    | _ => .typed
  let methodTypes : TypedMethod := {
    inputTypes := ← declaredIfPresent req "input_types"
    outputTypes := ← declaredIfPresent req "output_types"
    ignoreCollections := (req.getD "ignore_collections").truthy }
  let start : TypedHost := {
    kind, declaresPorts := (req.getD "ports").truthy
    inputTypes := ← declaredTypes (req.getD "class_input_types")
    outputTypes := ← declaredTypes (req.getD "class_output_types") }
  let (_, results) ← (req.getD "calls").items.foldlM (fun (acc : TypedHost × List Data) call => do
    let (host, results) := acc
    let host := match ← declaredIfPresent call "class_input_types" with
      | some t => { host with inputTypes := t }
      | none => host
    let host := match ← declaredIfPresent call "class_output_types" with
      | some t => { host with outputTypes := t }
      | none => host
    let outcome : Result Carried := do
      let inputs ← (call.getD "kwargs").entries.mapM fun (k, v) => do pure (k, ← carriedOf v)
      let result ← carriedOf (call.getD "returns")
      methodTypes.call host (!(call.getD "disabled").truthy) (call.getD "args").items.length inputs result
    let entry := match outcome with
      | .ok v => Data.dict [("enabled", .bool true), ("ok", carriedData v)]
      | .error f => failureData f
    pure (host, results ++ [entry])) (start, [])
  pure (.dict [("results", .list results)])

/-- `typecheck_meta {types, ignore_collections}` → the layout of the declarations. -/
def typecheckMeta (req : Data) : Result Data := do
  let declared ← (← fieldEntries req "types").mapM fun (k, v) => do pure (k, ← portTypeOf v)
  let layout ← TypeLayout.make declared
  pure (.dict [("base_types", .dict (layout.base.map fun (k, t) => (k, .str t.text))),
    ("container_depth", .dict (layout.depths.map fun (k, n) => (k, .int n))),
    ("has_container_types", .bool layout.hasContainers),
    ("is_singular_container_type", .bool layout.singularContainer),
    ("mandatory_types", Data.strs (layout.mandatory.map (·.1)))])

end Conversa.Service
