import Conversa.Data.Value
import Conversa.Failure

/-!
# Upgrading configurations

`upgrade` rewrites configurations of the older layout, mapping by mapping from the top down:
`cls` becomes `_target_`, moved to the end, unless there is one; the entries of `params` move
into the mapping, replacing same-named entries in place and appending the others; then every
mapping value is upgraded (not those inside sequences).  A `params` that is not a mapping is a
failure.
-/

namespace Conversa.Config

/-- The name the failure uses for the kind of a `params` value that is not a mapping. -/
def containerKindName : Data → String
  | .null => "NoneType"
  | .bool _ => "bool"
  | .int _ => "int"
  | .float _ => "float"
  | .str _ => "str"
  | .list _ => "ListConfig"
  | .dict _ => "DictConfig"

/-- Sets `k` to `v` among entries, in place when the key is present, at the end otherwise. -/
def setEntry (kvs : Entries) (k : String) (v : Data) : Entries :=
  if kvs.any (·.1 == k) then kvs.map fun e => if e.1 == k then (k, v) else e
  else kvs ++ [(k, v)]

/-- The entries with `cls` renamed `_target_` and moved to the end, unless there is one. -/
def renameCls (kvs : Entries) : Entries :=
  if kvs.any (·.1 == "cls") && !kvs.any (·.1 == "_target_") then
    kvs.filter (·.1 != "cls") ++ [("_target_", ((kvs.find? (·.1 == "cls")).map (·.2)).getD .null)]
  else kvs

/-- The entries with those of `params` moved among them. -/
def liftParams (kvs : Entries) : Result (Entries) :=
  if kvs.any (·.1 == "params") then
    let rest := kvs.filter (·.1 != "params")
    match ((kvs.find? (·.1 == "params")).map (·.2)).getD .null with
    | .dict ps => pure (ps.foldl (fun acc (k, v) => setEntry acc k v) rest)
    | other => throw ⟨"AttributeError", s!"'{containerKindName other}' object has no attribute 'items'"⟩
  else pure kvs

/-- The entries of one mapping in the current layout, before its values are upgraded. -/
def upgradeEntries (kvs : Entries) : Result (Entries) :=
  liftParams (renameCls kvs)

/-- Upgrades mappings down to `fuel` levels; the depth of the value always suffices, since
every mapping upgraded is nested strictly deeper than the one before it in the original. -/
def upgradeWithin : Nat → Data → Result Data
  | 0, d => pure d
  | fuel + 1, .dict kvs => do
    let kvs ← upgradeEntries kvs
    let kvs ← kvs.mapM fun e => do pure (e.1, ← upgradeWithin fuel e.2)
    pure (.dict kvs)
  | _, d => pure d

def upgrade (d : Data) : Result Data := upgradeWithin (d.depth + 1) d

end Conversa.Config
