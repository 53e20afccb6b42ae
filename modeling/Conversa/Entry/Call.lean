import Conversa.Entry.Arguments
import Conversa.Entry.Work

/-!
# Calls and the objects they make

A call names a function or class of the toolkit with arguments and gives back a value; a class
gives an object, its class name and attributes.  Steps may follow: reading an attribute (a dotted
path reads through nested objects) or calling a method, which may change the attributes, each
step seeing the object as the steps before left it.  An object is written as a mapping with
`attrs` and `object`, attributes in the order set.
-/

namespace Conversa.Entry

/-- A step on an object: an attribute read by dotted path, or a method called. -/
inductive Step where
  | read (path : String)
  | call (name : String) (args : Arguments)
deriving Inhabited, Repr

/-- A call as the callee sees it: its arguments, its command line, and the whole request for
the switches some callees read. -/
structure Request where
  args : Arguments := {}
  argv : List String := []
  fields : Data := .null
deriving Inhabited

def objectData (cls : String) (attrs : Entries) : Data :=
  .dict [("attrs", .dict attrs), ("object", .str cls)]

def className? (d : Data) : Option String := (d.get? "object").bind Data.str?

def attrsOf (d : Data) : Entries := (d.getD "attrs").entries

def setAttr (d : Data) (k : String) (v : Data) : Data :=
  objectData ((className? d).getD "object") ((Data.dict (attrsOf d)).set k v).entries

def noAttribute (cls name : String) : Failure :=
  ⟨"AttributeError", s!"{Text.quote cls} object has no attribute {Text.quote name}"⟩

def attr (d : Data) (name : String) : Result Data :=
  match (attrsOf d).find? (·.1 == name) with
  | some (_, v) => .ok v
  | none =>
    let cls := (className? d).getD (Data.kindName d)
    .error (noAttribute (if cls == "SimpleNamespace" then "types.SimpleNamespace" else cls) name)

/-- One part of a dotted path read: an item of a sequence by its position, counted from the end
when negative, or else an attribute. -/
def pathPart (d : Data) (part : String) : Result Data :=
  match d, part.toInt? with
  | .list xs, some i =>
    let j := if i < 0 then i + xs.length else i
    match xs[j.toNat]? with
    | some x => if j < 0 then .error .listIndex else .ok x
    | none => .error .listIndex
  | _, _ => attr d part

def readPath (d : Data) (path : String) : Result Data :=
  (path.splitOn ".").foldlM pathPart d

/-- What a call gives back: its value, how that value answers steps, and, for callees that
change their arguments in place, the positional arguments after the call.  A step acts on the
object held in the workspace, so a method that changes the object and then fails leaves it
changed. -/
structure Reply where
  value : Data
  act : Step → Work Data := fun step => do
    let self ← Work.this
    match step with
    | .read path => readPath self path
    | .call name _ => Work.fail (noAttribute ((className? self).getD (Data.kindName self)) name)
  /-- The positional arguments after the call. -/
  shownArgs : Option (List Data) := none
deriving Inhabited

def Reply.plain (d : Data) : Reply := { value := d }

abbrev Callee := Request → Work Reply

def function (name : String) (params : List Param) (body : List Data → Work Data) : Callee :=
  fun r => do
    let vals ← r.args.bind name params
    pure (.plain (← body vals))

end Conversa.Entry
