import Conversa.Data.Number
import Conversa.Data.Show
import Conversa.Text.Space

/-!
# Axes of a tensor

A neural type describes each axis by what varying it means (batch, time, a feature dimension, …)
and optionally a fixed size; a *list* axis has none.  `AxisKind` has ten names (`Channel` is
`Dimension`), read from short labels by `AxisKind.ofLabel` after trimming and case folding.  An
axis reads as its kind, then `:size`, then `_listdim` for a list axis.
-/

namespace Conversa.NeuralType

/-- What varying an axis means. -/
inductive AxisKind where
  | batch
  | time
  /-- A feature dimension, also called a channel. -/
  | dimension
  | width
  | height
  | any
  | sequence
  | flowGroup
  | singleton
deriving DecidableEq, Repr, Inhabited

namespace AxisKind

def name : AxisKind → String
  | .batch => "Batch"
  | .time => "Time"
  | .dimension => "Dimension"
  | .width => "Width"
  | .height => "Height"
  | .any => "Any"
  | .sequence => "Sequence"
  | .flowGroup => "FlowGroup"
  | .singleton => "Singleton"

def value : AxisKind → Nat
  | .batch => 0
  | .time => 1
  | .dimension => 2
  | .width => 3
  | .height => 4
  | .any => 5
  | .sequence => 6
  | .flowGroup => 7
  | .singleton => 8

def text (k : AxisKind) : String := Text.lowerAscii k.name

/-- The kind of a name, `Channel` included. -/
def ofName? : String → Option AxisKind
  | "Batch" => some .batch
  | "Time" => some .time
  | "Dimension" | "Channel" => some .dimension
  | "Width" => some .width
  | "Height" => some .height
  | "Any" => some .any
  | "Sequence" => some .sequence
  | "FlowGroup" => some .flowGroup
  | "Singleton" => some .singleton
  | _ => none

/-- The kind of a short label, read after trimming and folding case. -/
def ofLabel (label : String) : Result AxisKind :=
  match Text.lowerAscii (Text.strip label) with
  | "b" | "n" | "batch" => .ok .batch
  | "t" | "time" => .ok .time
  | "d" | "c" | "channel" => .ok .dimension
  | "w" | "width" => .ok .width
  | "h" | "height" => .ok .height
  | "s" | "singleton" => .ok .singleton
  | "flowgroup" => .ok .flowGroup
  | "any" => .ok .any
  | _ => .error (.value s!"Can't create AxisKind from {label}")

end AxisKind

/-- An axis: its kind, its fixed size if any, and whether it is a list axis.  The size and the
list mark are kept as given, since any value may be given for them. -/
structure Axis where
  kind : AxisKind
  size : Data
  /-- Whether the axis is a list axis (by truth value). -/
  isList : Data
deriving Inhabited

namespace Axis

/-- An axis, refused when it is a list axis with a fixed size. -/
def make (kind : AxisKind) (size isList : Data) : Result Axis :=
  if !size.isNull && isList.truthy then
    .error (.value "The axis can't be list and have a fixed size")
  else .ok ⟨kind, size, isList⟩

def text (a : Axis) : String :=
  let base := if a.size.isNull then a.kind.text else a.kind.text ++ ":" ++ a.size.text
  if a.isList.truthy then base ++ "_listdim" else base

end Axis

/-- A tuple of texts as a tuple is written: `()`, `(a,)`, `(a, b)`. -/
def tupleText : List String → String
  | [] => "()"
  | [a] => "(" ++ a ++ ",)"
  | xs => "(" ++ ", ".intercalate xs ++ ")"

end Conversa.NeuralType
