import Conversa.Entry.Arguments

/-!
# Array arguments and values

Numeric arguments come as arrays: nested lists with an element type.  An array given without a
type takes the narrowest that holds its elements: truth values, whole numbers (`int64`), floats
(`float64`), or texts (`<U` and the length of the longest).

An array value is written as its nested lists when its elements are whole numbers or truth
values, and otherwise with its element type beside them.
-/

namespace Conversa.Entry

def leaves : Data → List Data
  | .list xs => xs.attach.flatMap fun ⟨x, _⟩ => leaves x
  | d => [d]

/-- The element type of nested lists given without one. -/
def inferredType (d : Data) : String :=
  let ls := leaves d
  if ls.all fun x => match x with | .bool _ => true | _ => false then
    (if ls.isEmpty then "float64" else "bool")
  else if ls.all fun x => match x with | .bool _ | .int _ => true | _ => false then "int64"
  else if ls.all fun x => match x with | .bool _ | .int _ | .float _ => true | _ => false then "float64"
  else if ls.all fun x => match x with | .str _ => true | _ => false then
    s!"<U{(ls.map fun x => x.text.length).foldl max 0}"
  else "object"

/-- The elements and element type of an array argument, or of plain nested lists. -/
def arrayOf (d : Data) : Data × String :=
  match arrayArg? d with
  | some (v, some t) => (v, t)
  | some (v, none) => (v, inferredType v)
  | none => let v := plain d; (v, inferredType v)

def isIntegral (dtype : String) : Bool :=
  dtype.startsWith "int" || dtype.startsWith "uint" || dtype == "bool"

def arrayData (dtype : String) (elems : Data) : Data :=
  if isIntegral dtype then elems else .dict [("dtype", .str dtype), ("ndarray", elems)]

/-- A number of an array as a double; a float given as text (`$float`) is read. -/
def number (d : Data) : Float :=
  match d with
  | .bool b => if b then 1.0 else 0.0
  | other => (plain other).num?.getD 0.0

def rowsOf (d : Data) : List (List Float) := d.items.map fun r => r.items.map number

/-- The failure of building an array of a numeric element type when one of its written elements is
an object: elements are read as written, so no constructor applies inside an array. -/
def objectElementFailure? (d : Data) : Option Failure :=
  match arrayArg? d with
  | some (v, some t) =>
    if !(leaves v).any fun x => match x with | .dict _ => true | _ => false then none
    else if t.startsWith "float" then some (.type "float() argument must be a string or a real number, not 'dict'")
    else if isIntegral t && t != "bool" then
      some (.type "int() argument must be a string, a bytes-like object or a real number, not 'dict'")
    else none
  | _ => none

/-- Floats as an array value of the element type: whole numbers for an integral type. -/
def floatsData (dtype : String) (xs : List Float) : Data :=
  if isIntegral dtype then .list (xs.map fun x => .int (if x < 0 then -(((-x).toUInt64).toNat : Int) else (x.toUInt64.toNat : Int)))
  else .list (xs.map Data.float)

def rowsData (dtype : String) (rows : List (List Float)) : Data :=
  arrayData dtype (.list (rows.map (floatsData dtype)))

end Conversa.Entry

namespace Conversa.Entry

/-- An element of an array of the given element type: a float type holds doubles, single
precision rounding each to the nearest single; an integral type holds whole numbers, a truth
value counting as one or nought; and a truth type holds truth values. -/
def castElement (dtype : String) : Data → Data
  | .bool b =>
    if dtype == "bool" then .bool b
    else if isIntegral dtype then .int (if b then 1 else 0)
    else .float (if b then 1.0 else 0.0)
  | .int n =>
    if dtype == "bool" then .bool (n != 0)
    else if isIntegral dtype then .int n
    else if dtype == "float32" then .float (Numeric.ofInt n).toFloat32.toFloat
    else if dtype.startsWith "float" then .float (Numeric.ofInt n)
    else .int n
  | .float x =>
    if dtype == "float32" then .float x.toFloat32.toFloat
    else .float x
  | d => d

mutual

def castArray (dtype : String) : Data → Data
  | .list xs => .list (castItems dtype xs)
  | d => castElement dtype d

def castItems (dtype : String) : List Data → List Data
  | [] => []
  | x :: xs => castArray dtype x :: castItems dtype xs

end

/-- An array argument as an answer shows it: its elements cast to its element type, written
with that type unless it is integral. -/
def arrayShown (d : Data) : Data :=
  let (elems, dtype) := arrayOf d
  arrayData dtype (castArray dtype elems)

end Conversa.Entry
