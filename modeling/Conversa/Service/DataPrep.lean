import Conversa.Service.Tokens
import Conversa.Labels.Statistics
import Conversa.Intents.Entities

/-!
# Dataset preparation requests

`dp_func` applies one of the small helpers that prepare NLP datasets to the positional
arguments `args`: white-space and punctuation tests, label statistics and class weights, the
offsets of non-blank lines, entity tables, index files, and the token numbers of a data file.
-/

namespace Conversa.Service

open Numeric

/-- The positional argument at `i`, null when absent. -/
def argAt (req : Data) (i : Nat) : Data := ((req.getD "args").items[i]?).getD .null

/-- The entries of a mapping given as `[key, value]` pairs. -/
def pairsArg (d : Data) : Result (List (Data × Data)) :=
  d.items.mapM fun p => match p with
    | .list [k, v] => .ok (k, v)
    | _ => .error (badField "args")

/-- Whether a one-character text separates words; any other length has no character code. -/
def isWhitespaceArg (d : Data) : Result Bool :=
  match d with
  | .str s =>
    if s == " " || s == "\t" || s == "\r" || s == "\n" then .ok true
    else match s.toList with
      | [c] => .ok (c.toNat == 0x202F)
      | cs => .error (.type s!"ord() expected a character, but string of length {cs.length} found")
  | other => .error (.type s!"ord() expected string of length 1, but {other.kindName} found")

/-- The summary of labels as an answer, with the table written to `stats.tsv`. -/
def labelStatsData (labels : List Data) : Result Data := do
  let s ← Labels.summarize labels
  pure (.dict [("total", .int s.total),
    ("freq", .list (s.counts.map fun (k, v) => .list [k, .int v])), ("max", s.greatestLabel),
    ("file", .str (Labels.statsTable s.total s.counts))])

/-- The entity tables of two arguments: the values known so far and the entities of a file. -/
def entityTables (known entities : Data) : Result Data := do
  let known ← known.entries.mapM fun (k, v) => do
    let vs ← v.items.mapM fun x => match x with
      | .str s => .ok s
      | _ => .error (badField "args")
    pure (k, Intents.addValues [] vs)
  let m ← Intents.mergeEntities known entities.entries
  pure (.dict [("result", .dict (m.map fun (k, vs) => (k, Data.strs vs))),
    ("reverse", .list ((Intents.valueEntities m).map fun (v, e) => .list [.str v, .str e]))])

/-- The index file of a data file: the directory before its last `/`, and the file named by the
part between that `/` and the last `.`, with the save name. -/
def indexFile (dataFile savename : String) : String × String :=
  let slash := Text.lastIndexOf dataFile '/'
  let dot := Text.lastIndexOf dataFile '.'
  let dir := Text.slice dataFile 0 slash
  let mode := Text.slice dataFile (slash + 1) dot
  (s!"{dir}/{mode}_{savename}.pkl", dir)

/-- The failure of loading a stored object from a file that holds text. -/
def unpickleFailure (content : String) : Failure :=
  match content.toList with
  | [] => ⟨"EOFError", "Ran out of input"⟩
  | c :: _ => ⟨"UnpicklingError", s!"invalid load key, {Text.quote (String.singleton c)}."⟩

/-- The lines of a text split after each line feed, the last one unterminated. -/
def byteLines (s : String) : List String :=
  let parts := s.splitOn "\n"
  let full := parts.dropLast.map (· ++ "\n")
  match parts.getLast? with
  | some "" | none => full
  | some last => full ++ [last]

/-- The token numbers of each line of a data file, between the beginning and end tokens when
asked. -/
def datasetIds (t : Language.Tokenizer) (text : String) (bosEos : Bool) : Result (List (List Nat)) :=
  (byteLines text).mapM fun line => do
    let ids ← t.textToIds line
    if bosEos then pure ([← t.roleId .bos] ++ ids ++ [← t.roleId .eos]) else pure ids

def dpFunc (req : Data) : Result Data := do
  let result (d : Data) : Data := .dict [("result", d)]
  match (req.getD "func").text with
  | "is_whitespace" => pure (result (.bool (← isWhitespaceArg (argAt req 0))))
  | "remove_punctuation_from_sentence" =>
    pure (result (.str (Text.dropPunctuationLower (argAt req 0).text)))
  | "get_freq_weights" =>
    let counts ← (← pairsArg (argAt req 0)).mapM fun (k, v) => match v.scalar? with
      | some s => .ok (k, s)
      | none => .error (badField "args")
    let ws ← Labels.freqWeights counts
    pure (result (.list (ws.map fun (k, w) => .list [k, w])))
  | "fill_class_weights" =>
    let maxId := ((argAt req 1).int?).getD (-1)
    pure (result (.list (Labels.fillWeights (← pairsArg (argAt req 0)) maxId)))
  | "find_newlines" =>
    match Text.hexBytes? (argAt req 0).text.toList with
    | some bs => pure (result (Data.nats (Text.contentLineStarts bs)))
    | none => throw (badField "args")
  | "map_entities" => entityTables (argAt req 0) (argAt req 1)
  | "get_label_stats" => labelStatsData (argAt req 0).items
  | "load_data_indices" => do
    let t ← treeField req
    let (idx, dir) := indexFile (argAt req 1).text (argAt req 2).text
    match t.read? idx with
    | some content => throw (unpickleFailure content)
    | none => pure (result (.list [.null, .str idx, .str dir]))
  | "common_if_exist" => do
    let t ← treeField req
    let dir := (argAt req 0).text
    let found := t.exists_ dir && (argAt req 1).items.all fun f => t.exists_ s!"{dir}/{f.text}"
    pure (result (.bool found))
  | "dataset_to_ids" => do
    let tok ← tokenizerField req "tokenizer"
    let bosEos := match req.getD "add_bos_eos" with
      | .null => true
      | d => d.truthy
    let ids ← datasetIds tok (argAt req 0).text bosEos
    pure (result (.list (ids.map Data.nats)))
  | other => throw (badField s!"func {other}")

def labelLines (text : String) : List (List String) :=
  (Text.fileLines text).map fun line => Text.words (String.ofList line)

/-- The numbering of the labels seen in a label file: a given non-empty numbering, which must
hold every character of the pad label and every label seen, or else the pad label numbered `0`
and the other labels after it in sorted order. -/
def labelNumbering (file pad : String) (seen : List String) (given : Data) :
    Result (Entries) :=
  match given with
  | .dict kvs@(_ :: _) =>
    let candidates := pad.toList.map String.singleton ++ seen
    match candidates.find? fun l => !kvs.any (·.1 == l) with
    | some l => .error (.value s!"{l} class from {file} not found in the provided mapping: {given.show}")
    | none => .ok kvs
  | _ => .ok ((Labels.numberLabels pad seen).map fun (k, n) => (k, Data.int n))

/-- `label_ids {labels_text, is_training, pad_label, label_ids_dict, get_weights}`: the numbering
of the labels of a label file, the files it writes, and the class weights. -/
def labelIds (req : Data) : Result Data := do
  let text ← textField req "labels_text"
  let isTraining := (req.getD "is_training").truthy
  let pad := match req.getD "pad_label" with
    | .str s => s
    | _ => "O"
  let getWeights := match req.getD "get_weights" with
    | .null => true
    | d => d.truthy
  let given := req.getD "label_ids_dict"
  if !isTraining && given.isNull then
    throw (.value ("For non training data, label_ids_dict created during preprocessing of the " ++
      "training data should be provided"))
  let seen := (labelLines text).flatten
  let mapping ← labelNumbering "labels.txt" pad seen given
  let byId := mapping.mergeSort fun a b => (a.2.int?.getD 0) ≤ (b.2.int?.getD 0)
  let csv := if isTraining then [("label_ids.csv", Data.str ("\n".intercalate (byId.map (·.1))))] else []
  let precomputed := req.getD "precomputed_stats"
  let skip := !precomputed.isNull && !isTraining && !getWeights
  let ids := seen.map fun l => ((mapping.find? (·.1 == l)).map (·.2)).getD .null
  let (stats, weights) ← if skip then pure ([("labels_label_stats.tsv", precomputed)], Data.null)
    else do
      let s ← Labels.summarize ids
      let table := [("labels_label_stats.tsv", Data.str (Labels.statsTable s.total s.counts))]
      if getWeights then
        let counts := s.counts.map fun (k, v) => (k, Scalar.int v)
        let ws ← Labels.freqWeights counts
        pure (table, Data.list (Labels.fillWeights ws (s.greatestLabel.int?.getD (-1))))
      else pure (table, Data.null)
  pure (.dict ([("label_ids", .list (mapping.map fun (k, v) => .list [.str k, v])),
    ("file", .str "label_ids.csv"), ("weights", weights)] ++ csv ++ stats))

end Conversa.Service
