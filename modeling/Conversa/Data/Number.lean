import Conversa.Data.Value
import Conversa.Numeric.Scalar
import Conversa.Numeric.Notation

/-!
# Numbers in data

The numbers of a configuration arrive as `Data` and are computed with as `Scalar`s.  The two
agree on the absent value, truth values, whole numbers and doubles; a complex number has no
place in data files and is written as its text, `(3.061616997868383e-17-0.5j)`.
-/

namespace Conversa

open Numeric

/-- The number a data value holds, if it holds one (or a truth value, or nothing). -/
def Data.scalar? : Data → Option Scalar
  | .null => some .none
  | .bool b => some (.bool b)
  | .int n => some (.int n)
  | .float x => some (.float x)
  | _ => none

/-- A number as a data value; a complex number becomes its text. -/
def Numeric.Scalar.toData : Scalar → Data
  | .none => .null
  | .bool b => .bool b
  | .int n => .int n
  | .float x => .float x
  | .complex re im => .str (complexText re im)

/-- The name of the kind of a data value, as failures report it. -/
def Data.kindName : Data → String
  | .null => "NoneType"
  | .bool _ => "bool"
  | .int _ => "int"
  | .float _ => "float"
  | .str _ => "str"
  | .list _ => "list"
  | .dict _ => "dict"

/-- Whether a data value counts as true: not absent, not zero, not empty. -/
def Data.truthy : Data → Bool
  | .null => false
  | .bool b => b
  | .int n => n != 0
  | .float x => x != 0
  | .str s => !s.isEmpty
  | .list xs => !xs.isEmpty
  | .dict kvs => !kvs.isEmpty

mutual

/-- Equality of data values as values: numbers by exact value across kinds (a truth value is 0
or 1), texts by content, sequences element by element, mappings by their entries whatever their
order. -/
def Data.same : Data → Data → Bool
  | .str a, .str b => a == b
  | .list xs, .list ys => Data.sameItems xs ys
  | .dict a, .dict b => a.length == b.length && Data.sameEntries a b
  | a, b =>
    match a.scalar?, b.scalar? with
    | some x, some y => x.eq y
    | _, _ => false

def Data.sameItems : List Data → List Data → Bool
  | [], [] => true
  | x :: xs, y :: ys => Data.same x y && Data.sameItems xs ys
  | _, _ => false

/-- Whether every entry of the first mapping has an equal entry in the second. -/
def Data.sameEntries : Entries → Entries → Bool
  | [], _ => true
  | (k, v) :: rest, other =>
    (match other.find? (·.1 == k) with
      | some (_, w) => Data.same v w
      | none => false) && Data.sameEntries rest other

end

end Conversa
