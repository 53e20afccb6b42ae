import Conversa.Data.Json
import Conversa.Data.Number
import Conversa.FileSystem.Tree

/-!
# Reporting failures

A request that fails is answered with the name of the failure's kind and its message, the pair
the toolkit's callers see.  This file holds that shape and the small readers that take the
fields of a request apart.
-/

namespace Conversa.Service

def failureData (f : Failure) : Data := .dict [("error", .str f.kind), ("message", .str f.message)]

def unknownOp (op : String) : Data := failureData ⟨"UnknownOp", op⟩

def resultEntry : Result Data → Data
  | .ok v => .dict [("ok", v)]
  | .error f => failureData f

def answerOf : Result Data → Data
  | .ok v => v
  | .error f => failureData f

def badField (name : String) : Failure := ⟨"BadRequest", s!"field {name} has the wrong shape"⟩

/-- The entries of a mapping field; an absent or null field has none. -/
def fieldEntries (req : Data) (name : String) : Result (Entries) :=
  match req.getD name with
  | .dict kvs => .ok kvs
  | .null => .ok []
  | _ => .error (badField name)

/-- The numbers of a mapping field, by name. -/
def scalarEntries (req : Data) (name : String) : Result (List (String × Numeric.Scalar)) := do
  (← fieldEntries req name).mapM fun (k, v) =>
    match v.scalar? with
    | some s => .ok (k, s)
    | none => .error (badField name)

def scalarItems (req : Data) (name : String) : Result (List Numeric.Scalar) :=
  match req.getD name with
  | .list xs => xs.mapM fun v => match v.scalar? with
    | some s => .ok s
    | none => .error (badField name)
  | .null => .ok []
  | _ => .error (badField name)

def textField (req : Data) (name : String) : Result String :=
  match req.getD name with
  | .str s => .ok s
  | _ => .error (badField name)

/-- The working directory of a request: the files of its `files` field. -/
def treeField (req : Data) : Result FileSystem.Tree := do
  let fs ← (← fieldEntries req "files").mapM fun (p, v) =>
    match v with
    | .str t => .ok (p, t)
    | _ => .error (badField "files")
  pure (FileSystem.Tree.ofFiles fs)

end Conversa.Service
