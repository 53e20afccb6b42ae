import Conversa.Data.Number
import Conversa.Data.Show

/-!
# Merging the results of evaluation loaders

At the end of an evaluation epoch each loader gives a mapping whose `log` entry holds what to log.
With several loaders the results are merged in order under each loader's prefix; the chosen
loader's loss and log entries are also kept under their bare names unless taken already, and a
later entry of a name replaces an earlier one in place.  `Merged` is the state between loaders.
-/

namespace Conversa.Training

/-- The results merged so far: the entries returned, and the entries logged. -/
structure Merged where
  /-- The entries returned, in the order they were first set. -/
  returned : Entries := []
  /-- The entries logged, in the order they were first set. -/
  logged : Entries := []
deriving Inhabited

/-- The failure of joining a prefix and a name that are not both texts. -/
def joinFailure (a b : Data) : Failure :=
  match a with
  | .str _ => .type s!"can only concatenate str (not \"{b.kindName}\") to str"
  | _ => .type s!"unsupported operand type(s) for +: '{a.kindName}' and '{b.kindName}'"

def prefixed (pre : Data) (name : String) : Result String :=
  match pre with
  | .str p => .ok (p ++ name)
  | other => .error (joinFailure other (.str name))

def putEntry (kvs : Entries) (k : String) (v : Data) : Entries :=
  (Data.dict kvs |>.set k v).entries

/-- The entries of a log, which must be a mapping. -/
def logEntries (d : Data) : Result (Entries) :=
  match d with
  | .dict kvs => .ok kvs
  | other => .error ⟨"AttributeError", s!"'{other.kindName}' object has no attribute 'items'"⟩

/-- The log entries of one loader: each under the prefix, and a chosen loader's entry also under
its bare name when that is not logged yet. -/
def loaderLog (logged : Entries) (chosen : Bool) (pre : Data)
    (entries : Entries) : Result (Entries) :=
  entries.foldlM (fun acc (k, v) => do
    let named ← prefixed pre k
    if chosen && !logged.any (·.1 == k) then
      pure (putEntry (putEntry acc named v) k v)
    else pure (putEntry acc named v)) []

/-- Merges the result of one loader: `loss` names the loss entry and `chosen` says whether this
is the loader whose names stay bare. -/
def Merged.add (m : Merged) (loss : String) (chosen : Bool) (pre : Data) (result : Data) :
    Result Merged := do
  let result := if result.truthy then result else .dict []
  let entries ← match result with
    | .dict kvs => pure kvs
    | other => throw ⟨"AttributeError", s!"'{other.kindName}' object has no attribute 'items'"⟩
  let m := match entries.find? (·.1 == loss) with
    | some (_, v) =>
      if !m.returned.any (·.1 == loss) && chosen then { m with returned := putEntry m.returned loss v }
      else m
    | none => m
  entries.foldlM (fun (m : Merged) (k, v) => do
    if k == "log" then
      let added ← loaderLog m.logged chosen pre (← logEntries v)
      pure { m with logged := added.foldl (fun acc (k, v) => putEntry acc k v) m.logged }
    else pure { m with returned := putEntry m.returned (← prefixed pre k) v }) m

end Conversa.Training
