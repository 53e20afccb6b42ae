import Conversa.Data.Access
import Conversa.Data.Json

/-!
# Service schemas

A corpus describes each service by a schema: name, description, intents (with required and
optional slots) and slots (categorical with a closed list of values, or free).  A
`ServiceSchema` numbers what a model predicts over: intents with `NONE` first, slots, the
categorical and free state slots and each categorical slot's values, all sorted.  A `Schema`
numbers the services in sorted order; of several descriptions the first is kept.
-/

namespace Conversa.Dialogue

def fieldText (d : Data) (k : String) : Result String := do
  match ← d.key k with
  | .str s => pure s
  | other => throw (.type s!"'<' not supported between instances of '{other.kindName}' and 'str'")

def textElements (d : Data) : Result (List String) := do
  (← d.elements).mapM fun x => match x with
    | .str s => pure s
    | other => throw (.type s!"'<' not supported between instances of '{other.kindName}' and 'str'")

/-- The state slots of a service: every slot some intent requires or allows. -/
def stateSlotsOf (j : Data) : Result (List String) := do
  let intents ← (← j.key "intents").elements
  let slots ← intents.foldlM (fun (acc : List String) i => do
    let req ← textElements (← i.key "required_slots")
    let opt ← textElements (← i.key "optional_slots")
    pure (acc ++ req ++ opt)) []
  pure (slots.foldl (fun acc s => if acc.contains s then acc else acc ++ [s]) []).mergeSort

/-- The schema of one service, with the numbering of what is predicted about it. -/
structure ServiceSchema where
  name : String
  description : Data
  json : Data
  id : Option Nat
  /-- The intents: `NONE`, then the others sorted. -/
  intents : List String
  /-- The description of each intent, `NONE` last. -/
  intentDescriptions : Entries
  slots : List String
  slotDescriptions : Entries
  categoricalSlots : List String
  nonCategoricalSlots : List String
  /-- The values of each categorical state slot, sorted. -/
  categoricalValues : List (String × List String)
deriving Inhabited

/-- A mapping with the entry for `k` set: replaced in place, or added at the end. -/
def putEntry {κ α : Type} [BEq κ] (kvs : List (κ × α)) (k : κ) (v : α) : List (κ × α) :=
  if kvs.any (·.1 == k) then kvs.map fun (k', v') => if k' == k then (k', v) else (k', v')
  else kvs ++ [(k, v)]

/-- The state slots among the slots whose categorical flag has the given truth. -/
def flaggedSlots (j : Data) (slots : List Data) (categorical : Bool) : Result (List String) := do
  let picked ← slots.filterMapM fun s => do
    let flag := (← s.key "is_categorical").truthy
    if flag != categorical then pure none
    else
      let name ← fieldText s "name"
      if (← stateSlotsOf j).contains name then pure (some name) else pure none
  pure picked.mergeSort

def ServiceSchema.ofData (j : Data) (id : Option Nat) : Result ServiceSchema := do
  let name ← fieldText j "service_name"
  let description ← j.key "description"
  let intentList ← (← j.key "intents").elements
  let intentNames ← intentList.mapM (fieldText · "name")
  let intentDescs ← intentList.foldlM (fun acc i => do
    pure (putEntry acc (← fieldText i "name") (← i.key "description"))) []
  let slotList ← (← j.key "slots").elements
  let slotNames ← slotList.mapM (fieldText · "name")
  let slotDescs ← slotList.foldlM (fun acc s => do
    pure (putEntry acc (← fieldText s "name") (← s.key "description"))) []
  let categorical ← flaggedSlots j slotList true
  let free ← flaggedSlots j slotList false
  let bySlot ← slotList.foldlM (fun acc s => do pure (putEntry acc (← fieldText s "name") s)) []
  let values ← categorical.mapM fun slot => do
    let s := ((bySlot.find? (·.1 == slot)).map (·.2)).getD .null
    pure (slot, (← textElements (← s.key "possible_values")).mergeSort)
  pure ⟨name, description, j, id, "NONE" :: intentNames.mergeSort, putEntry intentDescs "NONE" (.str "none"),
    slotNames.mergeSort, slotDescs, categorical, free, values⟩

namespace ServiceSchema

def outOfRange : Failure := .index "list index out of range"

/-- The element at a position of a numbering, counted from the end when negative. -/
def nth (xs : List String) (i : Int) : Result String :=
  let j := if i < 0 then xs.length + i else i
  if j < 0 then .error outOfRange
  else match xs[j.toNat]? with
    | some x => .ok x
    | none => .error outOfRange

/-- The position of the last occurrence of a name in a numbering, or the failure of a name that
is not in it. -/
def numberOf (xs : List String) (k : String) : Result Nat :=
  match (xs.zipIdx.filter (·.1 == k)).getLast? with
  | some (_, i) => .ok i
  | none => .error (.key (Text.quote k))

def valuesOf (s : ServiceSchema) (slot : String) : Result (List String) :=
  match s.categoricalValues.find? (·.1 == slot) with
  | some (_, vs) => .ok vs
  | none => .error (.key (Text.quote slot))

def valueId (s : ServiceSchema) (slot value : String) : Result Nat := do
  numberOf (← s.valuesOf slot) value

def valueOf (s : ServiceSchema) (slotId valueId : Int) : Result String := do
  nth (← s.valuesOf (← nth s.categoricalSlots slotId)) valueId

end ServiceSchema

/-- The services of a corpus, numbered in sorted order of their names. -/
structure Schema where
  services : List String
  /-- The schema of each service, in the order they were read. -/
  schemas : List (String × ServiceSchema)
  entries : List Data
deriving Inhabited

namespace Schema

def serviceId (s : Schema) (name : String) : Result Nat := ServiceSchema.numberOf s.services name

def serviceOf (s : Schema) (i : Int) : Result String := ServiceSchema.nth s.services i

def service (s : Schema) (name : String) : Result ServiceSchema :=
  match s.schemas.find? (·.1 == name) with
  | some (_, sch) => .ok sch
  | none => .error (.key (Text.quote name))

/-- The service descriptions of several schema files, the first description of each service
kept. -/
def merge (files : List (List Data)) : Result (List Data) := do
  let step (acc : List String × List Data) (svc : Data) : Result (List String × List Data) := do
    let key := (← svc.key "service_name").text
    if acc.1.contains key then pure acc else pure (acc.1 ++ [key], acc.2 ++ [svc])
  let (_, kept) ← files.foldlM (fun acc (file : List Data) => file.foldlM step acc) ([], [])
  pure kept

def ofEntries (entries : List Data) : Result Schema := do
  let names ← entries.mapM (fieldText · "service_name")
  let services := names.mergeSort
  let schemas ← entries.foldlM (fun acc e => do
    let name ← fieldText e "service_name"
    let id ← ServiceSchema.numberOf services name
    pure (putEntry acc name (← ServiceSchema.ofData e (some id)))) []
  pure ⟨services, schemas, entries⟩

/-- The text a schema is saved as: its service descriptions as indented JSON. -/
def saved (s : Schema) : String := Json.dumpIndented 2 0 (.list s.entries)

end Schema

end Conversa.Dialogue
