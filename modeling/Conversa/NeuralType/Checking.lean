import Conversa.NeuralType.Compare

/-!
# Checking the values of typed methods

A typed method declares the neural types of its inputs and outputs by name, a declaration being
a type or a list holding one (`TypeLayout` records the innermost type and the depth).  Before the
method runs, the inputs are checked: their number, a declared type their own type may feed, as
many dimensions as axes, and containers at the declared depth.  After it, the outputs are
matched with the output types and given them.
-/

namespace Conversa.NeuralType

/-- A declared port type: a neural type, or a container of declarations. -/
inductive PortType where
  | plain (t : NType)
  /-- A container, written as the list of the declarations of its items. -/
  | nested (items : List PortType)
deriving Inhabited

mutual

def PortType.repr : PortType → String
  | .plain t => t.repr
  | .nested items => "[" ++ ", ".intercalate (PortType.reprItems items) ++ "]"

def PortType.reprItems : List PortType → List String
  | [] => []
  | p :: ps => p.repr :: PortType.reprItems ps

end

/-- The neural type inside a port type and the number of containers around it; a container must
declare exactly one item. -/
def PortType.unwrap (key : String) : PortType → Result (NType × Nat)
  | .plain t => .ok (t, 0)
  | .nested [p] => do
    let (t, depth) ← p.unwrap key
    pure (t, depth + 1)
  | .nested [] => .error .listIndex
  | .nested items =>
    let shown := PortType.repr (.nested items)
    .error (.type (s!"Neural Type \x60{key}\x60: {shown} definition contains more than one element when" ++
      "declaring the nested container structure.\nPlease ensure that you have only 1 NeuralType inside of " ++
      "the entire nested structure definition."))

def declaredRepr (declared : List (String × PortType)) : String :=
  "\x7b" ++ ", ".intercalate (declared.map fun (k, p) => Text.quote k ++ ": " ++ p.repr) ++ "\x7d"

def declaredKeys (declared : List (String × PortType)) : String :=
  "dict_keys([" ++ ", ".intercalate (declared.map fun (k, _) => Text.quote k) ++ "])"

/-- The layout of a set of declarations. -/
structure TypeLayout where
  base : List (String × NType)
  depths : List (String × Nat)
  hasContainers : Bool
  /-- Whether the only declaration is a container. -/
  singularContainer : Bool

/-- The layout of declarations; a container that declares other than one item is refused. -/
def TypeLayout.make (declared : List (String × PortType)) : Result TypeLayout := do
  let hasContainers := declared.any fun (_, p) => p matches .nested _
  let unwrapped ← declared.mapM fun (k, p) => do pure (k, ← p.unwrap k)
  pure {
    base := unwrapped.map fun (k, t, _) => (k, t)
    depths := unwrapped.map fun (k, _, d) => (k, d)
    hasContainers
    singularContainer := hasContainers && declared.length == 1 }

def TypeLayout.mandatory (layout : TypeLayout) : List (String × NType) :=
  layout.base.filter fun (_, t) => !t.optional.truthy

/-- A value handed to or returned by a typed method. -/
inductive Carried where
  /-- A tensor: its shape, and the neural type it carries, if any. -/
  | tensor (shape : List Data) (type : Option NType)
  /-- An array: it has a shape but cannot carry a neural type. -/
  | array (shape : List Data)
  | seq (items : List Carried)
  | tuple (items : List Carried)
  | raw (d : Data)
deriving Inhabited

def shapeText (shape : List Data) : String := tupleText (shape.map Data.show)

def Comparison.feeds (c : Comparison) : Bool := c == .same || c == .greater

def paramLines (t : NType) : List String :=
  t.element.params.zipIdx.map fun ((k, v), i) =>
    let value := v.text
    s!"  input param_{i} : {k}: {value}"

/-- The failure of an input whose carried type cannot feed the declared one.  The declaration
is compared itself, which a container cannot be. -/
def inputMismatch (key : String) (declared : PortType) (base found : NType) : Failure :=
  match declared with
  | .plain expected =>
    let verdict := (expected.compare found).name
    let expectedText := expected.text
    let foundText := found.text
    let lines := [s!"NeuralTypeComparisonResult.{verdict} :", s!"Input type expected : {expectedText}"] ++
      paramLines base ++ [s!"Input type found : {foundText}", s!"Argument: {key}"] ++ paramLines found
    .type ("\n".intercalate lines)
  | .nested _ => ⟨"AttributeError", "'list' object has no attribute 'compare'"⟩

/-- Checks that a shape has as many dimensions as a type has axes, when it has axes; `side` is
`Input` or `Output` and `host` the class of the method's object. -/
def checkShape (host side name : String) (t : NType) (shape : List Data) : Result Unit :=
  match t.axes with
  | some axes =>
    if axes.length == shape.length then .ok ()
    else
      let expected := t.axesText
      let found := shapeText shape
      .error (.type (s!"{side} shape mismatch occured for {name} in module {host} : \n" ++
        s!"{side} shape expected = {expected} | \n{side} shape found : {found}"))
  | none => .ok ()

/-- The failure of a value inside a container at a depth other than the declared one. -/
def depthMismatch (doing name : String) (base : NType) (depth expected : Nat) : Failure :=
  let baseText := base.text
  .type (s!"While {doing} neural types,\nNested depth of value did not match container specification:\n" ++
    s!"Current nested depth of NeuralType '{name}' ({baseText}): {depth}\nExpected nested depth : {expected}")

/-- How a typed check is set for one name: the host's class, whether depths are left unchecked,
the name, its innermost type and its declared depth. -/
structure NameCheck where
  host : String
  /-- Whether container depths are left unchecked. -/
  ignoreCollections : Bool
  name : String
  base : NType
  depth : Nat

mutual

def NameCheck.input (c : NameCheck) (depth : Nat) : Carried → Result Unit
  | .seq items => c.inputItems (depth + 1) items
  | .tuple items => c.inputItems (depth + 1) items
  | v => do
    if !c.ignoreCollections && depth != c.depth then
      throw (depthMismatch "checking input" c.name c.base depth c.depth)
    match v with
    | .tensor shape found =>
      if let some t := found then
        let verdict := c.base.compare t
        if !verdict.feeds then
          let name := verdict.name
          let expected := c.base.text
          let foundText := t.text
          throw (.type (s!"NeuralTypeComparisonResult.{name} : \nInput type expected = {expected} | \n" ++
            s!"Input type found : {foundText}"))
      checkShape c.host "Input" c.name c.base shape
    | .array shape => checkShape c.host "Input" c.name c.base shape
    | _ => pure ()

/-- Checks the values of a container input at a depth, in order. -/
def NameCheck.inputItems (c : NameCheck) (depth : Nat) : List Carried → Result Unit
  | [] => pure ()
  | x :: xs => do
    c.input depth x
    c.inputItems depth xs

end

/-- A value given a neural type, if it can carry one. -/
def Carried.withType (t : NType) : Carried → Carried
  | .tensor shape _ => .tensor shape (some t)
  | v => v

mutual

/-- An output found inside the outputs at a depth, given its declared type. -/
def NameCheck.output (c : NameCheck) (depth : Nat) : Carried → Result Carried
  | .seq items => do pure (.seq (← c.outputItems (depth + 1) items))
  | .tuple items => do pure (.tuple (← c.outputItems (depth + 1) items))
  | v => do
    if !c.ignoreCollections && depth != c.depth then
      throw (depthMismatch "attaching output" c.name c.base depth c.depth)
    let v := v.withType c.base
    match v with
    | .tensor shape _ | .array shape => checkShape c.host "Output" c.name c.base shape
    | _ => pure ()
    pure v

def NameCheck.outputItems (c : NameCheck) (depth : Nat) : List Carried → Result (List Carried)
  | [] => pure []
  | x :: xs => do pure ((← c.output depth x) :: (← c.outputItems depth xs))

end

def TypeLayout.check (layout : TypeLayout) (host : String) (ignore : Bool) (name : String) : NameCheck :=
  { host, ignoreCollections := ignore, name, base := (layout.base.lookup name).getD default,
    depth := (layout.depths.lookup name).getD 0 }

/-- Checks the inputs of a call, all passed by name, against declarations. -/
def validateInputs (host : String) (declared : List (String × PortType)) (ignore : Bool)
    (inputs : List (String × Carried)) : Result Unit := do
  let layout ← TypeLayout.make declared
  let given := inputs.length
  let total := declared.length
  let mandatory := layout.mandatory.length
  if given < mandatory || given > total then
    throw (.type (s!"Number of input arguments provided ({given}) is not as expected. Function has " ++
      s!"{total} total inputs with {mandatory} mandatory inputs."))
  for (key, value) in inputs do
    let some port := declared.lookup key
      | let keys := declaredKeys declared
        throw (.type s!"Input argument {key} has no corresponding input_type match. Existing input_types = {keys}")
    let c := layout.check host ignore key
    match value with
    | .tensor shape found =>
      if let some t := found then
        if !(c.base.compare t).feeds then throw (inputMismatch key port c.base t)
      checkShape host "Input" key c.base shape
    | .array shape => checkShape host "Input" key c.base shape
    | .seq items | .tuple items => c.inputItems 1 items
    | .raw _ => pure ()

/-- The outputs of a call given their declared types, checked. -/
def attachOutputs (host : String) (declared : List (String × PortType)) (ignore : Bool) (out : Carried) :
    Result Carried := do
  let layout ← TypeLayout.make declared
  let container := match out with
    | .seq items | .tuple items => items
    | v => [v]
  if !layout.singularContainer && layout.base.length != container.length then
    let given := container.length
    let wanted := declared.length
    let shown := declaredRepr declared
    throw (.type (s!"Number of output arguments provided ({given}) is not as expected ({wanted}).\n" ++
      "This can be either because insufficient number of output NeuralTypes were provided," ++
      s!"or the provided NeuralTypes {shown} should enable container support " ++
      "(add '[]' to the NeuralType definition)"))
  let first := (layout.base.head?.map (·.1)).getD ""
  let rebuild (items : List Carried) : Carried := match out with
    | .tuple _ => .tuple items
    | _ => .seq items
  match out with
  | .seq items | .tuple items =>
    if layout.singularContainer then
      let depth := match out with
        | .tuple [_] => 0
        | _ => 1
      let c := layout.check host ignore first
      pure (rebuild (← items.mapM (c.output depth)))
    else
      pure (rebuild (← (items.zip layout.base).mapM fun (v, (name, _)) => (layout.check host ignore name).output 0 v))
  | v =>
    let c := layout.check host ignore first
    let v := v.withType c.base
    match v with
    | .tensor shape _ | .array shape => checkShape host "Output" first c.base shape
    | _ => pure ()
    pure v

/-- What the object of a typed method is: an instance of a class with types, a plain function,
or an instance of a class without them. -/
inductive HostKind where
  | typed
  | function
  | plain
deriving BEq

/-- The object a typed method is called on. -/
structure TypedHost where
  kind : HostKind := .typed
  name : String := "Host"
  /-- Whether it declares ports in the older way. -/
  declaresPorts : Bool := false
  inputTypes : Option (List (String × PortType)) := none
  outputTypes : Option (List (String × PortType)) := none

/-- A typed method: the types it declares itself, if it does (possibly none), and whether it
leaves container depths unchecked. -/
structure TypedMethod where
  /-- The input types of the method itself, if it declares them. -/
  inputTypes : Option (Option (List (String × PortType))) := none
  /-- The output types of the method itself, if it declares them. -/
  outputTypes : Option (Option (List (String × PortType))) := none
  /-- Whether container depths are left unchecked. -/
  ignoreCollections : Bool := false

/-- A call of a typed method on a host with `positional` arguments by position and `inputs` by
name, the method giving `result`; with checks off the result is given as it is. -/
def TypedMethod.call (m : TypedMethod) (host : TypedHost) (checks : Bool) (positional : Nat)
    (inputs : List (String × Carried)) (result : Carried) : Result Carried := do
  if !checks then return result
  if host.kind != .typed then
    throw ⟨"RuntimeError", "Only classes which inherit nemo.core.Typing can use this decorator !"⟩
  if host.declaresPorts then
    throw ⟨"RuntimeError", "Typing requires override of \x60input_types()\x60 and \x60output_types()\x60, " ++
      "not \x60input_ports() and \x60output_ports()\x60"⟩
  let inputTypes := m.inputTypes.getD host.inputTypes
  let outputTypes := m.outputTypes.getD host.outputTypes
  if inputTypes.isNone && outputTypes.isNone then return result
  if let some declared := inputTypes then
    if positional > 0 then throw (.type "All arguments must be passed by kwargs only for typed methods")
    validateInputs host.name declared m.ignoreCollections inputs
  match outputTypes with
  | some declared => attachOutputs host.name declared m.ignoreCollections result
  | none => pure result

end Conversa.NeuralType
