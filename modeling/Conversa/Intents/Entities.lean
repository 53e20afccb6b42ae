import Conversa.Data.Value
import Conversa.Failure

/-!
# Entities of intent datasets

An intent dataset lists, per entity, the values it may take and their synonyms.  Collected over
several files they give each entity the set of its values (`mergeEntities`, kept as a sorted list
without repeats), and each value the entity it belongs to (`valueEntities`): when two entities
share a value, the one listed later wins.
-/

namespace Conversa.Intents

/-- Each entity with its values, sorted and without repeats, in the order the entities were
first seen. -/
abbrev EntityValues := List (String × List String)

def addValues (set : List String) (vs : List String) : List String :=
  (vs.foldl (fun acc v => if acc.contains v then acc else v :: acc) set).mergeSort
    fun a b => decide (a ≤ b)

def listedValues (entry : Data) : Result (List String) := do
  let values ← (entry.getD "data").items.mapM fun v => do
    let value ← match v.getD "value" with
      | .str s => pure s
      | _ => throw (.key "'value'")
    let synonyms ← (v.getD "synonyms").items.mapM fun x => match x with
      | .str s => pure s
      | _ => throw (.type "unhashable synonym")
    pure (value :: synonyms)
  pure values.flatten

/-- The values of the entities of one file added to those known: only an entity with `data`
counts. -/
def mergeEntities (known : EntityValues) (entities : Entries) : Result EntityValues :=
  entities.foldlM (fun acc (name, entry) => do
    if !entry.has "data" then return acc
    let vs ← listedValues entry
    if acc.any (·.1 == name) then
      return acc.map fun (k, set) => if k == name then (k, addValues set vs) else (k, set)
    else return acc ++ [(name, addValues [] vs)]) known

/-- Each value with the entity it belongs to, sorted by value; a value of several entities
belongs to the last of them. -/
def valueEntities (m : EntityValues) : List (String × String) :=
  let pairs := m.foldl (fun acc (entity, vs) =>
    vs.foldl (fun acc v => (acc.filter (·.1 != v)) ++ [(v, entity)]) acc) []
  pairs.mergeSort fun a b => decide (a.1 ≤ b.1)

end Conversa.Intents
