import Conversa.Service.DataPrep
import Conversa.Features.Sentence
import Conversa.Features.Glue
import Conversa.Features.Tagging

/-!
# Feature requests

Requests that encode NLP datasets into features, naming the tokenizer by `tokenizer`, `vocab`
and `specials`: `text_cls` (sentences for classification from word lists, a data file or queries,
or class weights), `glue` and `glue_features` (a benchmark's examples, as padded sentence pairs),
and `intent_slot_features`, `token_cls_features`, `punct_features` (queries for word taggers).
-/

namespace Conversa.Service

open Features Numeric

def intField (req : Data) (name : String) (default : Int) : Result Int :=
  match req.getD name with
  | .null => .ok default
  | .int n => .ok n
  | .bool b => .ok (if b then 1 else 0)
  | _ => .error (badField name)

def flagOr (req : Data) (name : String) (default : Bool) : Bool :=
  match req.getD name with
  | .null => default
  | d => d.truthy

def textsOf (name : String) (d : Data) : Result (List String) :=
  d.items.mapM fun x => match x with
    | .str s => .ok s
    | _ => .error (badField name)

def sentenceFeatureData (f : SentenceFeature) : Data :=
  .list [.list (f.inputIds.map Data.nats), Data.nats f.segmentIds, Data.nats f.inputMask, f.label]

/-- The class weights of a labelled data file and the table it writes. -/
def classWeights (req : Data) : Result Data := do
  let t ← treeField req
  let file := match req.getD "file" with
    | .str s => s
    | _ => "data.tsv"
  let numClasses ← intField req "num_classes" 0
  let some text := t.read? file
    | throw ⟨"FileNotFoundError", s!"Could not find data file {file} to calculate the class weights!"⟩
  let (ws, table) ← Labels.classWeightsOf file ((Text.fileLines text).map String.ofList) numClasses
  pure (.dict [("weights", .list ws), ("files", .dict [(s!"{file}_sentence_stats.tsv", .str table)])])

def textClsDataset (req : Data) : Result Data := do
  let t ← treeField req
  let tok ← tokenizerField req "tokenizer"
  let inputFile := (req.getD "input_file").str?.getD ""
  let queries ← textsOf "queries" (req.getD "queries")
  if inputFile.isEmpty && queries.isEmpty then
    throw (.value "Either input_file or queries should be passed to the text classification dataset.")
  let maxLen ← intField req "max_seq_length" (-1)
  let numSamples ← intField req "num_samples" (-1)
  let fs ← if !inputFile.isEmpty then do
      let some text := t.read? inputFile
        | throw ⟨"FileNotFoundError", s!"Data file \x60{inputFile}\x60 not found! Each line of the data file " ++
            "should contain text sequences, where words are separated with spaces and the label separated by " ++
            "[TAB] following this format: [WORD][SPACE][WORD][SPACE][WORD][TAB][LABEL]"⟩
      discard (tok.roleId .pad)
      let lines := Text.fileLines text
      let lines := if numSamples > 0 then lines.take numSamples.toNat else lines
      let read ← lines.filterMapM fun l => labelledLine (String.ofList l)
      sentenceFeatures tok (read.map (·.1)) maxLen (read.map fun (_, n) => Data.int n) true
    else do
      discard (tok.roleId .pad)
      let sents := queries.map Text.words
      sentenceFeatures tok sents maxLen (sents.map fun _ => Data.int (-1)) false
  pure (.dict [("len", .int fs.length), ("features", .list (fs.map sentenceFeatureData))])

def textCls (req : Data) : Result Data := do
  match (req.getD "func").str? with
  | some "get_features" =>
    let tok ← tokenizerField req "tokenizer"
    let sents ← (req.getD "sents").items.mapM (textsOf "sents")
    let labels := (req.getD "labels").items
    let fs ← sentenceFeatures tok sents (← intField req "max_seq_length" (-1)) labels
      (flagOr req "verbose" true)
    pure (.dict [("features", .list (fs.map sentenceFeatureData))])
  | some "calc_class_weights" => classWeights req
  | _ => textClsDataset req

/-- The examples of a benchmark task's file in the working directory `dir`. -/
def glueExamples (t : FileSystem.Tree) (task : GlueTask) (dir : String) (train : Bool) :
    Result (List GlueExample) := do
  let file := FileSystem.join dir (if train then task.trainFile else task.devFile)
  let some text := t.read? file
    | throw ⟨"FileNotFoundError", s!"[Errno 2] No such file or directory: {Text.quote file}"⟩
  task.examples (if train then "train" else task.devSet) (← GlueTask.rowsOf text)

def optText : Option String → Data
  | some s => .str s
  | none => .null

/-- `glue {task, split, files}`. -/
def glue (req : Data) : Result Data := do
  let t ← treeField req
  let name ← textField req "task"
  let some task := GlueTask.ofName? name | throw (GlueTask.unknown name)
  let exs ← glueExamples t task "." ((req.getD "split").text == "train")
  pure (.dict [("labels", .list (task.labels.map optText)),
    ("examples", .list (exs.map fun e => .list [.str e.guid, .str e.textA, optText e.textB, .str e.label]))])

def pairFeatureData (f : PairFeature) : Data :=
  .list [Data.nats f.inputIds, Data.nats f.inputMask, Data.ints f.segmentIds, f.label]

/-- An optional text of a mapping, with a default when absent. -/
def optTextField (d : Data) (name : String) (default : Option String) : Option String :=
  match d.get? name with
  | some (.str s) => some s
  | some _ => none
  | none => default

def pairLayoutOf (p : Data) : PairLayout :=
  let int (name : String) (default : Int) : Int := ((p.get? name).bind Data.int?).getD default
  let flag (name : String) (default : Bool) : Bool := ((p.get? name).map Data.truthy).getD default
  { bos := optTextField p "bos_token" none, eos := optTextField p "eos_token" (some "[SEP]"),
    pad := optTextField p "pad_token" (some "[PAD]"), cls := optTextField p "cls_token" (some "[CLS]"),
    sepExtra := optTextField p "sep_token_extra" none, clsAtEnd := flag "cls_token_at_end" false,
    clsSegment := int "cls_token_segment_id" 0, padSegment := int "pad_token_segment_id" 0,
    padOnLeft := flag "pad_on_left" false, maskPaddingWithZero := flag "mask_padding_with_zero" true,
    segmentA := int "sequence_a_segment_id" 0, segmentB := int "sequence_b_segment_id" 1 }

/-- The benchmark dataset of a task file: its task, labels and features. -/
def glueDataset (req : Data) (tok : Language.Tokenizer) (maxLen : Int) : Result Data := do
  let t ← treeField req
  let file ← textField req "file"
  let dir := if (FileSystem.parts file).length ≤ 1 && !FileSystem.isAbsolute file then "" else FileSystem.parent file
  let base := Text.slice (FileSystem.name file) 0 (-4)
  let name ← textField req "task"
  let some task := GlueTask.ofName? name | throw (GlueTask.unknown name)
  let task := if task == .mnli && (base.splitOn "dev_mismatched").length > 1 then .mnliMismatched else task
  let train := (base.splitOn "train").length > 1
  let exs ← glueExamples t task dir train
  let eos ← tok.special .eos
  let pad ← tok.special .pad
  let cls ← tok.special .cls
  let layout : PairLayout := { bos := none, eos := some eos, pad := some pad, cls := some cls }
  let fs ← pairFeatures tok layout maxLen task.mode task.labels
    (exs.map fun e => (e.textA, e.textB, some e.label))
  pure (.dict [("features", .list (fs.map pairFeatureData)), ("task_name", .str task.name),
    ("label_list", .list (task.labels.map optText))])

/-- `glue_features`: a task file's dataset, or examples encoded with given parameters. -/
def glueFeatures (req : Data) : Result Data := do
  let tok ← tokenizerField req "tokenizer"
  let maxLen ← intField req "max_seq_length" 128
  if req.has "file" then glueDataset req tok maxLen
  else
    let labels := (req.getD "label_list").items.map Data.str?
    let exs ← (req.getD "examples").items.mapM fun e => match e with
      | .list [_, a, b, l] => .ok (a.text, b.str?, l.str?)
      | _ => .error (badField "examples")
    let mode ← match (req.getD "output_mode").text with
      | "classification" => pure (some OutputMode.classification)
      | "regression" => pure (some OutputMode.regression)
      | _ => pure none
    let layout := pairLayoutOf (req.getD "params")
    match mode with
    | some m =>
      let fs ← pairFeatures tok layout maxLen m labels exs
      pure (.dict [("features", .list (fs.map pairFeatureData))])
    | none =>
      -- every example is encoded before its label is refused
      match exs with
      | [] => pure (.dict [("features", .list [])])
      | e :: _ => do
        discard (pairFeatures tok layout maxLen .classification [e.2.2] [e])
        throw (.key (Text.quote (req.getD "output_mode").text))

/-- The value under a key of a mapping given as data; no mapping cannot be looked into. -/
def lookupLabel (m : Data) (k : Data) : Result Data :=
  match m with
  | .dict kvs => match k with
    | .str s => match kvs.find? (·.1 == s) with
      | some (_, v) => .ok v
      | none => .error (.key k.show)
    | _ => .error (.key k.show)
  | .null => .error (.type "'NoneType' object is not subscriptable")
  | other => .error (.type s!"'{other.kindName}' object is not subscriptable")

def rowAt (rows : List Data) (i : Nat) : Result (List Data) :=
  match rows[i]? with
  | some r => .ok r.items
  | none => .error .listIndex

def taggingStyle (req : Data) (longest byCharacter : Bool) : TaggingStyle :=
  { ignoreExtra := flagOr req "ignore_extra_tokens" false, ignoreStartEnd := flagOr req "ignore_start_end" false,
    longestWhenUnset := longest, byCharacter := byCharacter }

def rowsData (rows : List (List Nat)) : Data := .list (rows.map Data.nats)

def labelRows (rows : List (List (List Data))) (k : Nat) : Data :=
  .list (((rows[k]?).getD []).map Data.list)

/-- `intent_slot_features`: queries encoded for joint intent and slot tagging. -/
def intentSlotFeatures (req : Data) : Result Data := do
  let tok ← tokenizerField req "tokenizer"
  let queries ← textsOf "queries" (req.getD "queries")
  let pad := match req.getD "pad_label" with
    | .null => Data.int 128
    | d => d
  let slots := req.getD "raw_slots"
  let tracks := if slots.isNull then 0 else 1
  let r ← tagQueries tok (taggingStyle req true true) (← intField req "max_seq_length" (-1)) queries tracks
    fun i => pure [⟨pad, (slots.items[i]?).map Data.items⟩]
  pure (.dict [("features", .list [.list (r.inputIds.map Data.list), rowsData r.segmentIds,
    rowsData r.inputMask, rowsData r.lossMask, rowsData r.subtokensMask, labelRows r.labels 0])])

/-- `token_cls_features`: queries encoded for token classification. -/
def tokenClsFeatures (req : Data) : Result Data := do
  let tok ← tokenizerField req "tokenizer"
  let queries ← textsOf "queries" (req.getD "queries")
  let pad := match req.getD "pad_label" with
    | .null => Data.str "O"
    | d => d
  let ids := req.getD "label_ids"
  let raw := req.getD "raw_labels"
  let tracks := if raw.isNull then 0 else 1
  let r ← tagQueries tok (taggingStyle req true false) (← intField req "max_seq_length" (-1)) queries tracks
    fun i => do
      let padId ← lookupLabel ids pad
      let labels ← (← rowAt raw.items i).mapM (lookupLabel ids)
      pure [⟨padId, some labels⟩]
  pure (.dict [("features", .list [.list (r.inputIds.map Data.list), rowsData r.segmentIds,
    rowsData r.inputMask, rowsData r.subtokensMask, rowsData r.lossMask, labelRows r.labels 0])])

/-- `punct_features`: queries encoded for punctuation and capitalization tagging. -/
def punctFeatures (req : Data) : Result Data := do
  let tok ← tokenizerField req "tokenizer"
  let queries ← textsOf "queries" (req.getD "queries")
  let pad := match req.getD "pad_label" with
    | .null => Data.str "O"
    | d => d
  let punctIds := req.getD "punct_label_ids"
  let capitIds := req.getD "capit_label_ids"
  let punctLines := req.getD "punct_labels_lines"
  let capitLines := req.getD "capit_labels_lines"
  let tracks := if punctLines.truthy && capitLines.truthy then 2 else 0
  let r ← tagQueries tok (taggingStyle req false false) (← intField req "max_seq_length" (-1)) queries tracks
    fun i => do
      let padId ← lookupLabel punctIds pad
      let punct ← (← rowAt punctLines.items i).mapM (lookupLabel punctIds)
      let capit ← (← rowAt capitLines.items i).mapM (lookupLabel capitIds)
      pure [⟨padId, some punct⟩, ⟨padId, some capit⟩]
  pure (.dict [("features", .list [.list (r.inputIds.map Data.list), rowsData r.segmentIds,
    rowsData r.inputMask, rowsData r.subtokensMask, rowsData r.lossMask, labelRows r.labels 0,
    labelRows r.labels 1, punctIds, capitIds])])

end Conversa.Service
