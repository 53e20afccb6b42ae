import Conversa.Service.Batches
import Conversa.Dialogue.Schema
import Conversa.Dialogue.Evaluation

/-!
# Dialogue state tracking requests

The requests on schema-guided dialogue corpora:

* `sgd_f1`, `sgd_noncat_match` and `sgd_frame` score collections, values and single frames;
* `sgd_get_metrics` scores predicted dialogues against reference dialogues, and `sgd_evaluate`
  does so for the files of a prediction directory, writing the annotated predictions;
* `sgd_in_domain` names the services of a schema that are among given ones;
* `sgd_schema` reads schemas and answers queries on them;
* `sgd_truncate` shortens a pair of token lists.
-/

namespace Conversa.Service

open Dialogue FileSystem

/-- `sgd_f1 {ref, hyp}`. -/
def sgdF1 (req : Data) : Result Data := do
  pure (f1Scores (← (req.getD "ref").elements) (← (req.getD "hyp").elements)).toData

/-- `sgd_noncat_match {refs, hyp}`. -/
def sgdNoncatMatch (req : Data) : Result Data := do
  pure (.dict [("score", .float (freeValueScore (← (req.getD "refs").elements) (req.getD "hyp")))])

/-- A value or its failure, as one field of an answer. -/
def fieldOf (r : Result Data) : Data :=
  match r with
  | .ok v => v
  | .error f => failureData f

/-- `sgd_frame {frame_ref, frame_hyp, service, utterance}`. -/
def sgdFrame (req : Data) : Result Data := do
  let ref := req.getD "frame_ref"
  let hyp := req.getD "frame_hyp"
  let service := req.getD "service"
  let utterance := req.getD "utterance"
  let tagging : Result Data := do
    match ← taggingScores ref hyp utterance service with
    | some s => pure s.toData
    | none => pure .null
  let goal : Result Data := do pure (metricsData (← goalAccuracies ref hyp service))
  let compare : Result Data := do
    let a ← (← ref.key "state").key "slot_values"
    let b ← (← hyp.key "state").key "slot_values"
    pure (← compareSlotValues a b service).toData
  pure (.dict [("active_intent", fieldOf (do pure (.float (← intentAccuracy ref hyp)))),
    ("slot_tagging", fieldOf tagging), ("requested", fieldOf (do pure (← requestedScores ref hyp).toData)),
    ("goal", fieldOf goal), ("compare", fieldOf compare)])

def servicesByName (schemas : List Data) : Result (Entries) :=
  schemas.foldlM (fun acc s => do pure (putEntry acc (← s.key "service_name").text s)) []

def namesField (req : Data) (name : String) : List String := (req.getD name).items.map Data.text

def reportData (r : List (String × List (String × Score))) : Data :=
  .dict (r.map fun (k, m) => (k, metricsData m))

/-- `sgd_get_metrics {dataset_ref, dataset_hyp, schemas, in_domain, joint_acc_across_turn}`. -/
def sgdGetMetrics (req : Data) : Result Data := do
  let schemas ← servicesByName (req.getD "schemas").items
  let scores ← scoreCorpus (req.getD "dataset_ref").entries (req.getD "dataset_hyp").entries schemas
    (namesField req "in_domain") (req.getD "joint_acc_across_turn").truthy
  pure (.dict [("aggregate", reportData scores.aggregate), ("per_frame", reportData scores.perFrame)])

/-- The dialogues of the files of a directory whose names match a pattern, by id: a file holds a
list of dialogues or a mapping from ids to dialogues. -/
def dialoguesOf (t : Tree) (dir : String) (wanted : String → Bool) : Result (Entries) := do
  let names := (t.entries dir).filter fun n => wanted n && !n.startsWith "." && t.isFile s!"{dir}/{n}"
  names.foldlM (fun acc n => do
    let p := s!"{dir}/{n}"
    if (p.splitOn "dialogues_and_metrics.json").length > 1 then return acc
    match ← jsonFile t p with
    | .list ds => ds.foldlM (fun acc d => do pure (putEntry acc (← d.key "dialogue_id").text d)) acc
    | .dict kvs => pure (kvs.foldl (fun acc (k, v) => putEntry acc k v) acc)
    | _ => pure acc) []

/-- `sgd_evaluate {files, prediction_dir, data_dir, eval_dataset, in_domain, joint_acc_across_turn}`. -/
def sgdEvaluate (req : Data) : Result Data := do
  let t ← treeField req
  let predDir := textOr req "prediction_dir" "pred"
  let dataDir := textOr req "data_dir" "data"
  let split := textOr req "eval_dataset" "dev"
  let schemas ← servicesByName (← (← jsonFile t s!"{dataDir}/{split}/schema.json").elements)
  let ref ← dialoguesOf t s!"{dataDir}/{split}" fun n => n.startsWith "dialogues_" && n.endsWith ".json"
  let hyp ← dialoguesOf t predDir fun n => n.endsWith ".json"
  let scores ← scoreCorpus ref hyp schemas (namesField req "in_domain") (req.getD "joint_acc_across_turn").truthy
  match scores.aggregate.find? (·.1 == allServices) with
  | some (_, m) => pure (.dict [("all_services", metricsData m), ("written", .dict scores.annotated)])
  | none => throw (.key (Text.quote allServices))

/-- `sgd_in_domain {schema, services}`. -/
def sgdInDomain (req : Data) : Result Data := do
  let names ← (← (req.getD "schema").elements).mapM fun s => do pure (← s.key "service_name").text
  let given := namesField req "services"
  let common := (names.filter given.contains).foldl (fun acc n => if acc.contains n then acc else acc ++ [n]) []
  pure (.dict [("services", Data.strs common.mergeSort)])

def serviceSchemaData (s : ServiceSchema) (stateSlots : List String) : Data :=
  .dict [("categorical_slot_values", .dict (s.categoricalValues.map fun (k, vs) => (k, Data.strs vs))),
    ("categorical_slots", Data.strs s.categoricalSlots), ("description", s.description),
    ("intent_descriptions", .dict s.intentDescriptions), ("intents", Data.strs s.intents),
    ("non_categorical_slots", Data.strs s.nonCategoricalSlots),
    ("schema_json_keys", Data.strs (s.json.entries.map (·.1))),
    ("service_id", Data.opt (fun n => Data.int (Int.ofNat n)) s.id), ("service_name", .str s.name),
    ("slot_descriptions", .dict s.slotDescriptions), ("slots", Data.strs s.slots),
    ("state_slots", Data.strs stateSlots)]

def schemaQuery (sch : Schema) (q : Data) : Result Data := do
  let arg (i : Nat) : Data := ((q.getD "args").items[i]?).getD .null
  match (q.getD "m").text with
  | "get_service_id" => pure (.int (← sch.serviceId (q.getD "arg").text))
  | "get_service_from_id" => pure (.str (← sch.serviceOf (← Data.asIndex (q.getD "arg"))))
  | m =>
    let s ← sch.service (q.getD "service").text
    match m with
    | "get_categorical_slot_values" => pure (Data.strs (← s.valuesOf (arg 0).text))
    | "get_slot_from_id" => pure (.str (← ServiceSchema.nth s.slots (← Data.asIndex (arg 0))))
    | "get_intent_from_id" => pure (.str (← ServiceSchema.nth s.intents (← Data.asIndex (arg 0))))
    | "get_categorical_slot_from_id" => pure (.str (← ServiceSchema.nth s.categoricalSlots (← Data.asIndex (arg 0))))
    | "get_non_categorical_slot_from_id" =>
      pure (.str (← ServiceSchema.nth s.nonCategoricalSlots (← Data.asIndex (arg 0))))
    | "get_categorical_slot_value_from_id" => pure (.str (← s.valueOf (← Data.asIndex (arg 0)) (← Data.asIndex (arg 1))))
    | "get_categorical_slot_value_id" => pure (.int (← s.valueId (arg 0).text (arg 1).text))
    | "get_categorical_slot_id" => pure (.int (← ServiceSchema.numberOf s.categoricalSlots (arg 0).text))
    | "get_non_categorical_slot_id" => pure (.int (← ServiceSchema.numberOf s.nonCategoricalSlots (arg 0).text))
    | other => throw (.type s!"'ServiceSchema' object has no attribute '{other}'")

/-- `sgd_schema {schemas, queries?}`. -/
def sgdSchema (req : Data) : Result Data := do
  let given := (req.getD "schemas").items
  let entries ← if given.any (fun d => match d with | .list _ => true | _ => false)
    then Schema.merge (given.map Data.items) else pure given
  let sch ← Schema.ofEntries entries
  let props ← sch.schemas.mapM fun (k, s) => do pure (k, serviceSchemaData s (← stateSlotsOf s.json))
  pure (.dict [("services", Data.strs sch.services), ("schemas", .dict props),
    ("results", .list ((req.getD "queries").items.map fun q => resultEntry (schemaQuery sch q))),
    ("saved", .str sch.saved)])

/-- `sgd_truncate {a, b, max_length}`. -/
def sgdTruncate (req : Data) : Result Data := do
  let a := (req.getD "a").items
  let b := (req.getD "b").items
  let maxLen ← intField req "max_length" 0
  let (a', b') ← Features.truncatePair a b maxLen
  pure (.dict [("too_long", .bool ((a.length + b.length : Int) > maxLen)), ("a", .list a'), ("b", .list b')])

end Conversa.Service
