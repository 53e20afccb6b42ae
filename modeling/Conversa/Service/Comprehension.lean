import Conversa.Service.Datasets
import Conversa.Comprehension.Answer
import Conversa.Comprehension.Evaluation
import Conversa.Comprehension.Features

/-!
# Reading comprehension requests

* `qa_text` normalises answers, cuts them into words and compares them;
* `qa_eval` reports exact match and F1 scores, with no-answer thresholds;
* `qa_best_indexes` ranks logits;
* `qa_file_examples` reads the questions of a dataset file;
* `qa_features` turns questions into model inputs.
-/

namespace Conversa.Service

open Comprehension FileSystem

/-- An answer given as data; only a text can be normalised. -/
def answerArg (d : Data) : Result String :=
  match d with
  | .str s => .ok s
  | other => .error ⟨"AttributeError", s!"'{other.kindName}' object has no attribute 'lower'"⟩

/-- The words of an answer given as data; an empty or absent answer has none. -/
def answerWordsArg (d : Data) : Result (List String) := do
  if !d.truthy then return []
  pure (answerWords (← answerArg d))

def overlapData : Overlap → Data
  | .whole n => .int n
  | .fraction x => .float x

/-- `qa_text {func, args}`. -/
def qaText (req : Data) : Result Data := do
  let args := (req.getD "args").items
  let arg (i : Nat) : Data := (args[i]?).getD .null
  let result ← match (req.getD "func").text with
    | "normalize_answer" => do pure (Data.str (normalize (← answerArg (arg 0))))
    | "f1_score" => do pure (overlapData (wordOverlap (← answerWordsArg (arg 0)) (← answerWordsArg (arg 1))))
    | "exact_match_score" => do
      pure (Data.int (if exactMatch (← answerArg (arg 0)) (← answerArg (arg 1)) then 1 else 0))
    | "get_tokens" => do pure (Data.strs (← answerWordsArg (arg 0)))
    | other => throw (.key (Text.quote other))
  pure (.dict [("result", result)])

def pairsData (r : Entries) : Data := .list (r.map fun (k, v) => .list [.str k, v])

/-- `qa_eval {exact, f1, qid_list?, na_probs?, has_ans?, thresh, sub?, preds?}`. -/
def qaEval (req : Data) : Result Data := do
  let exact := (req.getD "exact").entries
  let f1 := (req.getD "f1").entries
  let naProbs := req.getD "na_probs"
  let hasAnswer := (req.getD "has_ans").entries
  let threshold := ((req.getD "thresh").num?).getD 1.0
  let (exactUsed, f1Used, thresholded) ← if naProbs.isNull then pure (exact, f1, [])
    else do
      let e ← thresholdScores exact naProbs.entries hasAnswer threshold
      let f ← thresholdScores f1 naProbs.entries hasAnswer threshold
      pure (e, f, [("thresholded", Data.dict [("exact", .dict e), ("f1", .dict f)])])
  let report ← summary exactUsed f1Used ((req.getD "qid_list").items.map Data.text)
  let answered ← match req.getD "sub" with
    | .null => pure []
    | sub => do pure (prefixed "HasAns" (← summary exactUsed f1Used (sub.items.map Data.text)))
  let best ← if naProbs.isNull then pure []
    else bestThresholds (req.getD "preds").entries exact f1 naProbs.entries hasAnswer
  pure (.dict (thresholded ++ [("eval", pairsData (report ++ answered ++ best))]))

/-- `qa_best_indexes {logits, n}`: the positions of the highest logits, highest first, the
earlier of equal ones first. -/
def qaBestIndexes (req : Data) : Result Data := do
  let logits ← (req.getD "logits").items.zipIdx.mapM fun (d, i) => do pure (i, ← scoreNumber d)
  let n ← intField req "n" 20
  let ranked := logits.mergeSort fun a b => b.2 ≤ a.2
  pure (.dict [("indexes", Data.nats ((ranked.take n.toNat).map (·.1)))])

def questionData (q : Question) : Data :=
  .dict [("answer_text", q.answerText), ("answers", q.answers),
    ("char_to_word_offset", Data.ints q.passage.wordOf), ("doc_tokens", Data.strs q.passage.words),
    ("end_position", .int q.endWord), ("is_impossible", q.impossible), ("qas_id", q.id),
    ("start_position", .int q.startWord)]

/-- A model input as data; positions are keyed by their text. -/
def featureData (f : Feature) : Data :=
  .dict [("doc_span_index", .int f.windowIndex), ("end_position", Data.opt Data.int f.endPosition),
    ("example_index", .int f.exampleIndex), ("input_ids", Data.nats f.inputIds),
    ("input_mask", Data.nats f.inputMask), ("is_impossible", f.impossible),
    ("segment_ids", Data.nats f.segmentIds), ("start_position", Data.opt Data.int f.startPosition),
    ("token_is_max_context", .dict (f.maxContext.map fun (p, b) => (toString p, .bool b))),
    ("token_to_orig_map", .dict (f.tokenToWord.map fun (p, w) => (toString p, .int w))),
    ("tokens", Data.strs f.tokens), ("unique_id", .int f.uniqueId)]

/-- `qa_file_examples {file, files, mode}`. -/
def qaFileExamples (req : Data) : Result Data := do
  let mode := req.getD "mode"
  let file := req.getD "file"
  if file.isNull then throw (.value s!"{mode.text} data file is None.")
  let doc ← jsonFile (← treeField req) file.text
  let questions ← readQuestions (Mode.ofName mode.text) (← doc.key "data")
  pure (.dict [("examples", .list (questions.map fun q =>
    .list [q.id, q.text, q.title, .int q.startWord, .int q.endWord, q.impossible]))])

/-- `qa_features {tokenizer, vocab, specials, data, mode, max_seq_length, doc_stride,
max_query_length, has_groundtruth?}`; answers are marked unless the mode is inference. -/
def qaFeatures (req : Data) : Result Data := do
  let tok ← tokenizerField req "tokenizer"
  let mode := (req.getD "mode").text
  let shape : InputShape := {
    maxSeqLength := ← intField req "max_seq_length" 384
    docStride := ← intField req "doc_stride" 128
    maxQueryLength := ← intField req "max_query_length" 64
    hasGroundtruth := match req.getD "has_groundtruth" with
      | .null => mode != "infer"
      | d => d.truthy }
  let questions ← readQuestions (Mode.ofName mode) (req.getD "data")
  let fs ← features tok shape questions
  pure (.dict [("examples", .list (questions.map questionData)), ("features", .list (fs.map featureData))])

end Conversa.Service
