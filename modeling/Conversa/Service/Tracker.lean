import Conversa.Service.Dialogue
import Conversa.Dialogue.Predictions

/-!
# State tracker data requests

The requests that build the training examples of a dialogue state tracker:

* `sgd_state_update` gives the slot values that changed since the previous state;
* `sgd_examples` builds the examples of given dialogues, and can also cut a text into tokens;
* `sgd_processor` lays out a corpus in files, builds and stores the examples of every split, and
  loads them back;
* `sgd_write_predictions` writes dialogues with the states a model predicted.
-/

namespace Conversa.Service

open Dialogue

/-- `sgd_state_update {current, prev}`. -/
def sgdStateUpdate (req : Data) : Result Data := do
  pure (.dict [("update", .dict (← stateUpdate (req.getD "current") (req.getD "prev")))])

def cutData (c : Cut) : Data :=
  .dict [("alignments", .list (c.alignments.map fun (k, v) => .list [.int (Int.ofNat k), .int v])),
    ("inverse", .list (c.inverse.map fun (a, b) => Data.nats [a, b])), ("tokens", Data.strs c.tokens)]

def storedFields (ex : DialogueExample) : Entries :=
  [("categorical_slot_status", .int (Int.ofNat ex.categoricalSlotStatus.code)),
   ("categorical_slot_value_status", match ex.categoricalSlotValueStatus with
      | some b => .bool b
      | none => .int 0),
   ("end_char_idx", Data.ints ex.endCharIdx), ("example_id", .str ex.exampleId),
   ("example_id_num", Data.ints ex.exampleIdNum), ("intent_status", .int (Int.ofNat ex.intentStatus)),
   ("noncategorical_slot_status", .int (Int.ofNat ex.noncategoricalSlotStatus.code)),
   ("noncategorical_slot_value_end", .int ex.noncategoricalSlotValueEnd),
   ("noncategorical_slot_value_start", .int ex.noncategoricalSlotValueStart),
   ("requested_slot_status", .int (Int.ofNat ex.requestedSlotStatus)),
   ("service_id", Data.opt (fun n => Data.int (Int.ofNat n)) ex.serviceId),
   ("start_char_idx", Data.ints ex.startCharIdx), ("task_mask", Data.nats ex.taskMask),
   ("utterance_ids", Data.nats ex.utteranceIds), ("utterance_mask", Data.nats ex.utteranceMask),
   ("utterance_segment", Data.nats ex.utteranceSegment)]

def exampleData (ex : DialogueExample) : Data :=
  .dict (storedFields ex ++
    [("categorical_slot_id", .int (Int.ofNat ex.categoricalSlotId)),
     ("categorical_slot_value_id", .int (Int.ofNat ex.categoricalSlotValueId)),
     ("intent_id", .int (Int.ofNat ex.intentId)),
     ("noncategorical_slot_id", .int (Int.ofNat ex.noncategoricalSlotId)),
     ("requested_slot_id", .int (Int.ofNat ex.requestedSlotId)),
     ("system_utterance", .str ex.systemUtterance), ("user_utterance", .str ex.userUtterance)])

def schemaField (req : Data) : Result Schema := Schema.ofEntries (req.getD "schemas").items

/-- `sgd_examples {tokenizer, vocab, specials, schemas, dialogs, split, max_seq_length, tokenize?}`. -/
def sgdExamples (req : Data) : Result Data := do
  let tok ← tokenizerField req "tokenizer"
  let cfg : ExampleConfig := { maxSeqLength := ← intField req "max_seq_length" 64 }
  let tokenized ← match req.getD "tokenize" with
    | .str s => do pure [("tokenize", cutData (← cutUtterance tok s))]
    | _ => pure []
  let schemas ← schemaField req
  let split := (req.getD "split").text
  let (examples, carry) ← (req.getD "dialogs").items.foldlM (fun (acc : List DialogueExample × CarryOver) d => do
    let (exs, carry) ← dialogueExamples tok cfg schemas split d acc.2
    pure (acc.1 ++ exs, carry)) ([], [])
  pure (.dict (tokenized ++ [("examples", .list (examples.map exampleData)),
    ("carryover", .list (carry.map fun ((s1, l1, s2, l2), n) =>
      .list [.str s1, .str l1, .str s2, .str l2, .int (Int.ofNat n)]))]))

def fileRanges (task : String) : Result (List (String × List Nat)) :=
  let span (a b : Nat) : List Nat := (List.range (b - a)).map (· + a)
  match task with
  | "sgd_single_domain" => .ok [("train", span 1 44), ("dev", span 1 8), ("test", span 1 12)]
  | "sgd_multi_domain" => .ok [("train", span 44 128), ("dev", span 8 21), ("test", span 12 35)]
  | "sgd_all" => .ok [("train", span 1 128), ("dev", span 1 21), ("test", span 1 35)]
  | "sgd_all_single" => .ok [("train", span 1 128), ("dev", span 1 8), ("test", span 1 12)]
  | "multiwoz" => .ok [("train", span 1 18), ("dev", span 1 3), ("test", span 1 3)]
  | "debug_sample" => .ok [("train", span 1 2), ("dev", span 1 2), ("test", span 1 2)]
  | other => .error (.key (Text.quote other))

def notProcessed (split task : String) : Failure :=
  .value s!"{split} dialogue examples were not processed for {task} task. Re-initialize SGDDataProcessor and add {split} dataset split to datasets arg."

/-- The failure of loading examples without the slot relations of the training split. -/
def noRelations (task : String) : Failure :=
  .value s!"Slots relation file ex/{task}_train_slots_relation_list.np does not exist. It is needed for the carry-over mechanism of state tracker for switches between services."

/-- The related slots as data, sorted. -/
def relationsData (r : List ((String × String) × List (String × String × Nat))) : Data :=
  let key (a : String × String) : String := a.1 ++ "\x00" ++ a.2
  let sorted := r.mergeSort fun a b => decide (key a.1 ≤ key b.1)
  .list (sorted.map fun ((s, l), vs) =>
    let vs := vs.mergeSort fun (a1, a2, a3) (b1, b2, b3) =>
      decide (a1 < b1) || (a1 == b1 && (decide (a2 < b2) || (a2 == b2 && a3 ≤ b3)))
    .list [Data.strs [s, l], .list (vs.map fun (a, b, n) => .list [.str a, .str b, .int (Int.ofNat n)])])

/-- `sgd_processor {task_name, tokenizer, vocab, specials, schemas, splits, load, max_seq_length,
load_before_save?, drop_relations?}`. -/
def sgdProcessor (req : Data) : Result Data := do
  let task := textOr req "task_name" "sgd_single_domain"
  let ranges ← fileRanges task
  let tok ← tokenizerField req "tokenizer"
  let cfg : ExampleConfig := { maxSeqLength := ← intField req "max_seq_length" 64 }
  let schemas ← schemaField req
  let splits := req.getD "splits"
  let dialogsOf (split : String) : List Data :=
    (((ranges.find? (·.1 == split)).map (·.2)).getD []).flatMap fun n => ((splits.getD split).getD (toString n)).items
  let seen ← ranges.mapM fun (split, _) => do
    let names ← (dialogsOf split).foldlM (fun (acc : List String) d => do
      pure (acc ++ (← (← d.key "services").elements).map Data.text)) []
    pure (split, Data.strs (names.foldl (fun acc n => if acc.contains n then acc else acc ++ [n]) []).mergeSort)
  let before := if (req.getD "load_before_save").truthy then [("load_before_save", failureData (notProcessed "dev" task))]
    else []
  let built ← ranges.mapM fun (split, _) => do
    let (exs, carry) ← (dialogsOf split).foldlM (fun (acc : List DialogueExample × CarryOver) d => do
      let (exs, carry) ← dialogueExamples tok cfg schemas split d acc.2
      pure (acc.1 ++ exs, carry)) ([], [])
    pure (split, exs, carry)
  let relations := match built.find? (·.1 == "train") with
    | some (_, _, carry) => slotRelations carry
    | none => []
  let dropped := (req.getD "drop_relations").truthy
  let (loaded, anyLoaded) := (req.getD "load").items.foldl (fun (acc : Entries × Bool) s =>
    let split := s.text
    match built.find? (·.1 == split) with
    | none => (acc.1 ++ [(split, failureData (notProcessed split task))], acc.2)
    | some (_, exs, _) =>
      if dropped then (acc.1 ++ [(split, failureData (noRelations task))], acc.2)
      else (acc.1 ++ [(split, .list (exs.map fun ex => .dict (storedFields ex)))], true)) ([], false)
  pure (.dict ([("seen", .dict seen)] ++ before ++ loaded ++
    [("slots_relation", if anyLoaded then relationsData relations else .list [])]))

/-- `sgd_write_predictions {schemas, dialog_files, predictions, state_tracker}`. -/
def sgdWritePredictions (req : Data) : Result Data := do
  let index ← indexPredictions (req.getD "predictions").items
  let schemas ← schemaField req
  let tracker := if (req.getD "state_tracker").text == "nemotracker" then Tracker.remembering else .baseline
  let written ← (req.getD "dialog_files").items.mapM fun file => do
    pure (.list (← file.items.mapM fun d => predictedDialogue d index schemas tracker))
  pure (.dict [("written", .list written)])

end Conversa.Service
