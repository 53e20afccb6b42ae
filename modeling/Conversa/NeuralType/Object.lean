import Conversa.Entry.Call
import Conversa.NeuralType.Compare

/-!
# Neural types as objects

A port's neural type is shown as the object that holds it: its axes (each with its kind as a
member of the kinds, its size and its list mark), its element with the element's parameters
when it has any, and whether the port is optional.  `NType.ofKinds` declares a port by the kinds
of its axes, as a model's table of ports does.
-/

namespace Conversa.NeuralType

open Entry

def Axis.toData (a : Axis) : Data :=
  objectData "AxisType"
    [("kind", .dict [("enum", .str ("AxisKind." ++ a.kind.name))]), ("size", a.size), ("is_list", a.isList)]

/-- An element as an object: the element's parameters when it has any. -/
def ElementValue.toData (e : ElementValue) : Data :=
  objectData e.kind.name (if e.params.isEmpty then [] else [("_params", .dict e.params)])

def NType.toData (t : NType) : Data :=
  objectData "NeuralType"
    [("axes", match t.axes with
      | some axes => .list (axes.map Axis.toData)
      | none => .null),
     ("elements_type", t.element.toData), ("optional", t.optional)]

/-- A required port over axes of the given kinds, none of fixed size or a list. -/
def NType.ofKinds (kinds : List AxisKind) (e : Element) : NType :=
  ⟨some (kinds.map fun k => ⟨k, .null, .bool false⟩), ElementValue.ofKind e, .bool false⟩

def portsData (ports : List (String × NType)) : Data :=
  .dict (ports.map fun (name, t) => (name, t.toData))

end Conversa.NeuralType
