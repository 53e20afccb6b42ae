import Conversa.Comprehension.Predictions
import Conversa.Entry.Call
import Conversa.Service.Datasets

/-!
# The reading comprehension dataset by name

`SquadDataset(data_file, tokenizer, doc_stride, max_query_length, max_seq_length,
version_2_with_negative, num_samples, mode, use_cache)` reads a dataset file's questions as model
inputs (zero samples is refused), and answers `__len__`, `__getitem__`, `get_predictions`,
`evaluate_predictions`, `get_raw_scores` and `evaluate`.
-/

namespace Conversa.Callees

open Entry Comprehension Conversa.Language Service

/-- A tokenizer as an object: its vocabulary both ways, its special tokens and their numbers. -/
def tokenizerObject (t : Tokenizer) : Data :=
  let inverse := t.vocab.foldl (fun (acc : Data) (tok, n) => acc.set (toString n) (.str tok)) (.dict [])
  objectData t.splitting.kindName
    ([("vocab", .dict (t.vocab.map fun (tok, n) => (tok, .int n)))] ++
      t.specials.map (fun (r, s) => (r.attribute, .str s)) ++
      [("inv_vocab", inverse), ("vocab_size", .int t.size), ("special_tokens", Data.nats t.specialIds)])

def exampleObject (q : Question) : Data :=
  objectData "SquadExample"
    [("qas_id", q.id), ("question_text", q.text), ("context_text", .str q.context),
     ("answer_text", q.answerText), ("title", q.title), ("is_impossible", q.impossible),
     ("answers", q.answers), ("start_position", .int q.startWord), ("end_position", .int q.endWord),
     ("doc_tokens", Data.strs q.passage.words), ("char_to_word_offset", Data.ints q.passage.wordOf)]

def featureObject (f : Feature) : Data :=
  objectData "InputFeatures"
    [("unique_id", .int f.uniqueId), ("example_index", .int f.exampleIndex),
     ("doc_span_index", .int f.windowIndex), ("tokens", Data.strs f.tokens),
     ("token_to_orig_map", .dict (f.tokenToWord.map fun (p, w) => (toString p, .int w))),
     ("token_is_max_context", .dict (f.maxContext.map fun (p, b) => (toString p, .bool b))),
     ("input_ids", Data.nats f.inputIds), ("input_mask", Data.nats f.inputMask),
     ("segment_ids", Data.nats f.segmentIds),
     ("start_position", Data.opt Data.int f.startPosition),
     ("end_position", Data.opt Data.int f.endPosition), ("is_impossible", f.impossible)]

/-- A position as a zero-dimensional array: a number, or an array of objects for none. -/
def positionArray : Option Int → Data
  | some n => .int n
  | none => .dict [("dtype", .str "object"), ("ndarray", .null)]

/-- The arrays of one model input; the answer's positions are left out in inference. -/
def featureArrays (inference : Bool) (f : Feature) : Data :=
  let common := [Data.nats f.inputIds, Data.nats f.segmentIds, Data.nats f.inputMask, .int f.uniqueId]
  .list (if inference then common else common ++ [positionArray f.startPosition, positionArray f.endPosition])

def entriesArg (d : Data) : Entries := (plain d).entries

def choiceParams : List Param :=
  [req "unique_ids", req "start_logits", req "end_logits", req "n_best_size", req "max_answer_length",
   req "do_lower_case", req "version_2_with_negative", req "null_score_diff_threshold"]

def choiceOf (vals : List Data) : AnswerChoice :=
  { nBest := ((arg vals 3).int?.getD 0).toNat, maxAnswerLength := (arg vals 4).int?.getD 0,
    withNoAnswer := (arg vals 6).truthy, nullThreshold := arg vals 7 }

def squadAct (inference : Bool) (qs : List Question) (fs : List Feature) (step : Step) : Work Data := do
  let self ← Work.this
  let choose (vals : List Data) : Work (Data × Data × Data) :=
    (predictions (choiceOf vals) qs fs (plainArg vals 0) (plainArg vals 1)
      (plainArg vals 2))
  match step with
  | .read path => readPath self path
  | .call "__len__" args => do
    let _ ← args.bind "SquadDataset.__len__" []
    pure (.int fs.length)
  | .call "__getitem__" args => do
    let vals ← args.bind "SquadDataset.__getitem__" [req "idx"]
    let i ← Data.asIndex (arg vals 0)
    let _ ← (Data.list (fs.map fun _ => Data.null)).item i
    let pos := if i < 0 then (fs.length + i).toNat else i.toNat
    pure (featureArrays inference (fs.getD pos default))
  | .call "get_predictions" args => do
    let vals ← args.bind "SquadDataset.get_predictions" choiceParams
    let (chosen, listed, margins) ← choose vals
    pure (.list [chosen, listed, margins])
  | .call "evaluate" args => do
    let vals ← args.bind "SquadDataset.evaluate" choiceParams
    let (chosen, listed, _) ← choose vals
    let (exact, f1) ← evaluatePredictions qs chosen.entries none 1.0
    pure (.list [exact, f1, chosen, listed])
  | .call "evaluate_predictions" args => do
    let vals ← (args.bind "SquadDataset.evaluate_predictions"
      [req "all_predictions", opt "no_answer_probs" .null, opt "no_answer_probability_threshold" (.float 1.0)])
    let probs := match plainArg vals 1 with
      | .null => none
      | d => some d.entries
    let threshold := ((plainArg vals 2).num?).getD 1.0
    let (exact, f1) ← evaluatePredictions qs (entriesArg (arg vals 0)) probs threshold
    pure (.list [exact, f1])
  | .call "get_raw_scores" args => do
    let vals ← args.bind "SquadDataset.get_raw_scores" [req "preds"]
    let (exact, f1) ← rawScores qs (entriesArg (arg vals 0))
    pure (.list [.dict exact, .dict f1])
  | .call name _ => throw (noAttribute "SquadDataset" name)

def squadDatasetCallee : Callee := fun r => do
  let vals ← (r.args.bind "SquadDataset.__init__"
    [req "data_file", req "tokenizer", req "doc_stride", req "max_query_length", req "max_seq_length",
     req "version_2_with_negative", req "num_samples", req "mode", req "use_cache"])
  let arg := plainArg vals
  let dataFile := arg 0
  let mode := arg 7
  let modeName := mode.text
  if !(["train", "eval", "infer"].contains modeName) || !(mode matches .str _) then
    throw (.value s!"mode should be either train, eval, infer but got {modeName}")
  if dataFile.isNull then throw (.value s!"{modeName} data file is None.")
  let doc ← jsonFile (← get).tree dataFile.text
  let questions ← readQuestions (Mode.ofName modeName) (← doc.key "data")
  let tokArg := vals.getD 1 .null
  let tok ← match tagged? tokArg "$tok" with
    | some spec => tokenizerField spec "kind"
    | none => throw (noAttribute (plain tokArg).kindName "name")
  let samples := (arg 6).int?.getD (-1)
  if samples == 0 then
    throw (.value s!"num_samples has to be positive or -1 (to use the entire dataset), however got {samples}.")
  let questions := if samples > 0 then questions.take samples.toNat else questions
  let shape : InputShape :=
    { maxSeqLength := (arg 4).int?.getD 384, docStride := (arg 2).int?.getD 128,
      maxQueryLength := (arg 3).int?.getD 64, hasGroundtruth := modeName != "infer" }
  let fs ← features tok shape questions
  let value := objectData "SquadDataset"
    [("tokenizer", tokenizerObject tok), ("version_2_with_negative", arg 5),
     ("processor", objectData "SquadProcessor" [("data_file", dataFile), ("mode", mode)]),
     ("mode", mode), ("examples", .list (questions.map exampleObject)),
     ("features", .list (fs.map featureObject))]
  pure { value, act := squadAct (modeName == "infer") questions fs }

def comprehensionCallees : List (String × Callee) :=
  [("nemo.collections.nlp.data.question_answering_squad.qa_dataset:SquadDataset", squadDatasetCallee)]

end Conversa.Callees
