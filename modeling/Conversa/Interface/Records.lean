import Conversa.Entry.Call
import Conversa.Interface.Load

/-!
# Instances of record classes

A record class declares its fields in order, with or without defaults (a default made afresh for
each instance is kept in `ClassInfo.factories`).  `Value.toData` turns a catalogued value into
data, `ClassInfo.construct` makes an instance from a call's arguments as the constructor binds
them, and `findRecord` finds a record class by module and name.
-/

namespace Conversa.Interface

open Entry

def lastPart (qualified : String) : String := ((qualified.splitOn ".").getLast?).getD qualified

mutual

def Value.toData : Value → Data
  | .null => .null
  | .bool b => .bool b
  | .int n => .int n
  | .float x => .float x
  | .str s => .str s
  | .seq items => .list (Value.itemsToData items)
  | .map entries => .dict (Value.entriesToData entries)
  | .member name => .dict [("enum", .str name)]
  | .absent => .null
  | .typed name => objectData name []
  | .sized name _ => objectData name []
  | .classRef name => .dict [("$ref", .str name)]
  | .record cls fields => objectData (lastPart cls) (Value.entriesToData fields)

def Value.itemsToData : List Value → List Data
  | [] => []
  | v :: vs => v.toData :: Value.itemsToData vs

def Value.entriesToData : List (String × Value) → Entries
  | [] => []
  | (k, v) :: rest => (k, v.toData) :: Value.entriesToData rest

end

/-- The signature of a class's constructor, without the instance. -/
def ClassInfo.constructorParams (c : ClassInfo) : Signature :=
  match c.methods.lookup "__init__" with
  | some (.function sig) => sig.drop 1
  | _ => []

/-- The default of a field: its own default, or the value made afresh for it. -/
def ClassInfo.fieldDefault (c : ClassInfo) (p : Parameter) : Option Data :=
  match c.factories.lookup p.name with
  | some v => some v.toData
  | none => p.default.map Value.toData

/-- An instance of a record class made from the arguments of a call: the arguments bound to the
constructor's parameters, and each field that the constructor does not take at its class
default. -/
def ClassInfo.construct (c : ClassInfo) (name : String) (args : Arguments) : Result Data := do
  let params := c.constructorParams
  let vals ← args.bind s!"{name}.__init__" (params.map fun p => ⟨p.name, c.fieldDefault p⟩)
  let given := (params.map (·.name)).zip vals
  let fields := (c.fields.getD []).map fun f =>
    match given.lookup f with
    | some v => (f, v)
    | none =>
      match c.factories.lookup f, c.attrs.lookup f with
      | some v, _ => (f, v.toData)
      | none, some v => (f, v.toData)
      | none, none => (f, .null)
  pure (objectData name fields)

/-- The module a target names: a dotted module, or a script given by its path or by its dotted
path. -/
def loadTarget (target : String) : Loading :=
  match loadModule target with
  | .ok m => .ok m
  | .error f =>
    if target.endsWith ".py" then loadScript target
    else match loadScript (String.intercalate "/" (target.splitOn ".") ++ ".py") with
      | .ok m => .ok m
      | .error _ => .error f

def findRecord (target name : String) : Option ClassInfo :=
  match loadTarget target with
  | .ok m =>
    match m.classes.lookup name with
    | some c => if c.fields.isSome then some c else none
    | none => none
  | .error _ => none

/-- The record class of a name as a module sees it: one it defines, or else one it brings in
from elsewhere in the toolkit, where each record class name is defined once. -/
def findRecordSeen (target name : String) : Option ClassInfo :=
  (findRecord target name).orElse fun _ =>
    modules.findSome? fun (_, m) =>
      match m with
      | .ok info =>
        match info.classes.lookup name with
        | some c => if c.fields.isSome then some c else none
        | none => none
      | .error _ => none

/-- The value of a member of an enumeration whose members are whole numbers, by a reference
`module:Class.NAME`: such a member is the number itself wherever it is used. -/
def wholeMember? (ref : String) : Option Data :=
  match ref.splitOn ":" with
  | [target, attrPath] =>
    match attrPath.splitOn "." with
    | [cls, member] =>
      match loadTarget target with
      | .ok m =>
        match m.classes.lookup cls with
        | some c =>
          if c.bases.contains "enum.IntEnum" then (c.members.bind fun ms => ms.lookup member).map Value.toData
          else none
        | none => none
      | .error _ => none
    | _ => none
  | _ => none

end Conversa.Interface
