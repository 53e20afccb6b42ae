import Conversa.NeuralType.Axis
import Conversa.NeuralType.Element

/-!
# Neural types and their comparison

A neural type gives each tensor axis a meaning (or none), an element kind and an optional flag.
`NType.compare a b` says how a tensor of type `b` may feed a port of type `a`: a void port
without axes accepts all; without axes the elements decide; else the axes are compared position
by position (`SAME`), as a permutation (`TRANSPOSE_SAME`, `DIM_INCOMPATIBLE`), or not
(`INCOMPATIBLE`).  An `Any` axis resets the positional verdict to "same".
-/

namespace Conversa.NeuralType

/-- The outcome of comparing two types. -/
inductive Comparison where
  | same
  | less
  | greater
  | dimIncompatible
  | transposeSame
  | containerSizeMismatch
  | incompatible
  /-- The same kind, parametrized differently. -/
  | sameTypeIncompatibleParams
  | unchecked
deriving DecidableEq, Repr, Inhabited

def Comparison.name : Comparison → String
  | .same => "SAME"
  | .less => "LESS"
  | .greater => "GREATER"
  | .dimIncompatible => "DIM_INCOMPATIBLE"
  | .transposeSame => "TRANSPOSE_SAME"
  | .containerSizeMismatch => "CONTAINER_SIZE_MISMATCH"
  | .incompatible => "INCOMPATIBLE"
  | .sameTypeIncompatibleParams => "SAME_TYPE_INCOMPATIBLE_PARAMS"
  | .unchecked => "UNCHECKED"

/-- An element value: its kind and its parameters. -/
structure ElementValue where
  kind : Element
  /-- The parameters, by name (an audio signal's `freq`). -/
  params : Entries
deriving Inhabited

namespace ElementValue

def ofKind (k : Element) : ElementValue :=
  ⟨k, if k == .audioSignal then [("freq", .null)] else []⟩

/-- Whether two parameter lists match: the same names, and equal values where both are
set. -/
def paramsMatch (a b : Entries) : Bool :=
  let names (ps : Entries) := ps.map (·.1)
  (names a).all (names b).contains && (names b).all (names a).contains
    && a.all fun (k, v) =>
      match b.find? (·.1 == k) with
      | some (_, w) => v.isNull || w.isNull || Data.same v w
      | none => true

/-- How an element of `b` may stand where `a` is expected. -/
def compare (a b : ElementValue) : Comparison :=
  if a.kind == .void then .same
  else if a.kind == b.kind then
    if paramsMatch a.params b.params then .same else .sameTypeIncompatibleParams
  else if a.kind.refines b.kind then .less
  else if b.kind.refines a.kind then .greater
  else .incompatible

end ElementValue

/-- A neural type. -/
structure NType where
  axes : Option (List Axis)
  element : ElementValue
  /-- Whether the port is optional (by truth value). -/
  optional : Data
deriving Inhabited

/-- A declared axis: a short label, an axis value, or some other value. -/
inductive AxisSpec where
  | label (s : String)
  | axis (a : Axis)
  | other (d : Data)
deriving Inhabited

def noListMark (kind : String) : Failure := ⟨"AttributeError", s!"'{kind}' object has no attribute 'is_list'"⟩

/-- One declared axis of the check that all are labels: a label after another kind is refused. -/
def labelStep (allLabels : Bool) : AxisSpec → Result Bool
  | .label _ => if allLabels then pure true else throw (.value "Either use full class names or all strings")
  | _ => pure false

/-- One declared axis of the check that list axes come first: whether a tensor axis was seen and
whether the check passed so far; a part other than an axis value has no list mark. -/
def listStep (acc : Bool × Bool) : AxisSpec → Result (Bool × Bool)
  | .label _ => throw (noListMark "str")
  | .other d => throw (noListMark d.kindName)
  | .axis a => if !a.isList.truthy then pure (true, acc.2) else pure (acc.1, acc.2 && !acc.1)

/-- Checks declared axes: labels only, or axis values with list axes first. -/
def checkAxes (specs : List AxisSpec) : Result Unit := do
  if ← specs.foldlM labelStep true then return
  let (_, passed) ← specs.foldlM listStep (false, true)
  if !passed then
    throw (.value "You have list dimension after Tensor dimension. All list dimensions must preceed Tensor dimensions")

def AxisSpec.resolve : AxisSpec → Result Axis
  | .label s => do pure ⟨← AxisKind.ofLabel s, .null, .bool false⟩
  | .axis a => pure a
  | .other _ => throw (.value "axis type must be either str or AxisType instance")

namespace NType

/-- A neural type as declared: `element` is none when a class rather than an element was
given. -/
def make (axes : Option (List AxisSpec)) (element : Option ElementValue) (optional : Data) :
    Result NType := do
  let some e := element
    | throw (.value "elements_type of NeuralType must be an instance of a class derived from ElementType. Did you pass a class instead?")
  match axes with
  | none => pure ⟨none, e, optional⟩
  | some specs =>
    checkAxes specs
    pure ⟨some (← specs.mapM AxisSpec.resolve), e, optional⟩

/-- The kinds of a list of axes with the size of each kind's last axis, in order of first
appearance. -/
def kindSizes (axes : List Axis) : List (AxisKind × Data) :=
  axes.foldl (fun acc a =>
    if acc.any (·.1 == a.kind) then acc.map fun (k, s) => if k == a.kind then (k, a.size) else (k, s)
    else acc ++ [(a.kind, a.size)]) []

/-- How two lists of axes compare: 0 the same, 1 the same kinds in another order, 2 the same
kinds with a different size, 3 different. -/
def axesVerdict (as bs : List Axis) : Nat :=
  if as.length != bs.length then 3
  else
    let same := (as.zip bs).foldl (fun same (a, b) =>
      if a.kind == .any then true
      else if a.kind != b.kind || !Data.same a.isList b.isList
        || (!Data.same a.size b.size && !a.size.isNull) then false
      else same) true
    if same then 0
    else
      let ka := kindSizes as
      let kb := kindSizes bs
      if (ka.map (·.1)).all (fun k => kb.any (·.1 == k)) && (kb.map (·.1)).all (fun k => ka.any (·.1 == k)) then
        if ka.any (fun (k, s) => match kb.find? (·.1 == k) with
          | some (_, t) => !Data.same t s
          | none => true) then 2 else 1
      else 3

/-- How a tensor of type `b` may feed a port of type `a`. -/
def compare (a b : NType) : Comparison :=
  match a.axes with
  | none =>
    if a.element.kind == .void then .same
    else if b.axes.isNone then a.element.compare b.element
    else .incompatible
  | some as =>
    let elements := a.element.compare b.element
    let verdict := match b.axes with
      | some bs => axesVerdict as bs
      | none => 3
    match verdict with
    | 0 => elements
    | 1 => if elements == .same then .transposeSame else .incompatible
    | 2 => if elements == .same then .dimIncompatible else .incompatible
    | _ => .incompatible

/-- The axes as a tuple is written, or `None`. -/
def axesText (t : NType) : String :=
  match t.axes with
  | some as => tupleText (as.map Axis.text)
  | none => "None"

def text (t : NType) : String :=
  s!"axes: {t.axesText}; elements_type: {t.element.kind.name}"

/-- The full text of a type, with the optional mark when it is set. -/
def repr (t : NType) : String :=
  let data := s!"axis={t.axesText}, element_type={t.element.kind.name}"
  let data := if t.optional.truthy then data ++ ", optional=" ++ t.optional.text else data
  "NeuralType(" ++ data ++ ")"

/-- Checks that a tensor of type `b` may feed port `port` of `parent`, whose type is `a`: only
`SAME` and `GREATER` pass. -/
def checkFeed (a : NType) (parent port : String) (b : NType) : Result Unit :=
  let c := a.compare b
  if c == .same || c == .greater then .ok ()
  else .error ⟨"NeuralPortNmTensorMismatchError",
    s!"\nIn {parent}. \nPort: {port} and a NmTensor it was fed are \n" ++
    s!"of incompatible neural types:\n\n{a.text} \n\n and \n\n{b.text}" ++
    s!"\n\nType comparison result: NeuralTypeComparisonResult.{c.name}"⟩

end NType

def wrongPortName (name : String) : String := s!"Wrong input port name: {name}"

end Conversa.NeuralType
