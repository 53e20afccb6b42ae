import Conversa.Service.Features

/-!
# Dataset requests

The requests that build NLP datasets from files in the working directory: token classification
(`token_cls_dataset`), punctuation and capitalization (`punct_dataset`), joint intent and slot
classification (`intent_slot_dataset`), and the description of an intent dataset with its label
statistics and class weights (`intent_slot_desc`).  With `infer`, the first three encode
`queries` instead, without labels.
-/

namespace Conversa.Service

open Features FileSystem Numeric

/-- The text of a file, or the failure of opening a file that is not there. -/
def readFile (t : Tree) (p : String) : Result String :=
  match t.read? p with
  | some s => .ok s
  | none => .error ⟨"FileNotFoundError", s!"[Errno 2] No such file or directory: {Text.quote p}"⟩

def notJson : Failure := ⟨"JSONDecodeError", "Expecting value: line 1 column 1 (char 0)"⟩

def jsonFile (t : Tree) (p : String) : Result Data := do
  match Json.loads? (← readFile t p) with
  | some d => pure d
  | none => throw notJson

/-- A whole number written in a text, as the integer reader takes it. -/
def intLiteral (s : String) : Result Int :=
  match readInt? s with
  | some n => .ok n
  | none => .error (.value s!"invalid literal for int() with base 10: {Text.quote s}")

def noSamples (n : Int) : Failure := .value s!"('num_samples has to be positive', {n})"

def textOr (req : Data) (name : String) (default : String) : String :=
  match req.getD name with
  | .str s => s
  | _ => default

def linesOf (text : String) : List String := (Text.fileLines text).map String.ofList

def afterHeader (lines : List String) : List String := lines.drop 1

def notText : Failure := .value "\x7btext_file\x7d should have extension .txt"

def numberingData (m : List (String × Nat)) : Data := .dict (m.map fun (k, n) => (k, Data.int n))

/-- The labels of a numbering in the order of their numbers, one a line. -/
def numberingText (ids : Data) : Result String :=
  match ids with
  | .dict kvs =>
    let sorted := kvs.mergeSort fun a b => (a.2.int?.getD 0) ≤ (b.2.int?.getD 0)
    .ok ("\n".intercalate (sorted.map (·.1)))
  | .null => .error ⟨"AttributeError", "'NoneType' object has no attribute 'items'"⟩
  | other => .error ⟨"AttributeError", s!"'{other.kindName}' object has no attribute 'items'"⟩

def taggedFields (r : TaggedRows) : Entries :=
  [("len", .int r.inputIds.length), ("input_ids", .list (r.inputIds.map Data.list)),
   ("segment_ids", rowsData r.segmentIds), ("input_mask", rowsData r.inputMask),
   ("subtokens_mask", rowsData r.subtokensMask)]

/-- `token_cls_dataset`: a token classification dataset from a text file and a label file. -/
def tokenClsDataset (req : Data) : Result Data := do
  let tok ← tokenizerField req "tokenizer"
  let maxLen ← intField req "max_seq_length" (-1)
  if (req.getD "infer").truthy then
    let queries ← textsOf "queries" (req.getD "queries")
    let r ← tagQueries tok (taggingStyle req true false) maxLen queries 0 fun _ => pure []
    return .dict (taggedFields r)
  let t ← treeField req
  let textFile := textOr req "text_file" "text.txt"
  let labelFile := textOr req "label_file" "labels.txt"
  let fileName := FileSystem.name textFile
  if !fileName.endsWith ".txt" then throw notText
  let numSamples ← intField req "num_samples" (-1)
  let dir := if (parts textFile).length ≤ 1 then "" else parent textFile
  let cache := s!"cached_{fileName}_{tok.splitting.kindName}_{maxLen}_{tok.size}_{numSamples}"
  if numSamples == 0 then throw (noSamples numSamples)
  let textLines := linesOf (← readFile t textFile)
  let labelLines := (linesOf (← readFile t labelFile)).map Text.words
  if labelLines.length != textLines.length then
    throw (.value "Labels file should contain labels for every word")
  let rows := textLines.zip labelLines
  let rows ← if numSamples > 0 then do
      let rows := rows.take numSamples.toNat
      if rows.isEmpty then throw .listIndex else pure rows
    else pure rows
  let ids := req.getD "label_ids"
  let pad := match req.getD "pad_label" with
    | .null => Data.str "O"
    | d => d
  let r ← tagQueries tok (taggingStyle req true false) maxLen (rows.map (·.1)) 1 fun i => do
    let padId ← lookupLabel ids pad
    let labels ← (((rows[i]?).map (·.2)).getD []).mapM fun l => lookupLabel ids (.str l)
    pure [⟨padId, some labels⟩]
  let listing := (t.write (FileSystem.join dir cache) "").entries dir
  pure (.dict (taggedFields r ++ [("loss_mask", rowsData r.lossMask), ("labels", labelRows r.labels 0),
    ("files", Data.strs listing)]))

/-- The punctuation and capitalization labels of a label line: the first and second character of
every label word. -/
def splitMarks (line : String) : Result (List String × List String) :=
  let ws := (Text.words line).map String.toList
  let n := (ws.map List.length).min?.getD 0
  if n > 2 then .error (.value "too many values to unpack (expected 2)")
  else if n < 2 then .error (.value s!"not enough values to unpack (expected 2, got {n})")
  else .ok (ws.map fun w => String.ofList (w.take 1), ws.map fun w => String.ofList ((w.drop 1).take 1))

def distinct (xs : List String) : List String := xs.foldl (fun acc x => if acc.contains x then acc else acc ++ [x]) []

/-- The label frequencies of label rows, sorted by label, with the table they write. -/
def labelFrequencies (rows : List (List Data)) : Result (Data × String) := do
  let s ← Labels.summarize rows.flatten
  let sorted := s.counts.mergeSort fun a b => (a.1.int?.getD 0) ≤ (b.1.int?.getD 0)
  pure (.list (sorted.map fun (k, v) => .list [k, .int v]), Labels.statsTable s.total s.counts)

def punctFilesMissing (textFile labelFile : String) : Failure :=
  let gap := "                "
  ⟨"FileNotFoundError", s!"{textFile} or {labelFile} not found. The data should be splitted into 2 files: " ++
    s!"text.txt and {gap}labels.txt. Each line of the text.txt file contains text sequences, where words " ++
    s!"are separated with {gap}spaces. The labels.txt file contains corresponding labels for each word in " ++
    s!"text.txt, the labels are {gap}separated with spaces. Each line of the files should follow the format:" ++
    s!"  {gap}   [WORD] [SPACE] [WORD] [SPACE] [WORD] (for text.txt) and {gap}   [LABEL] [SPACE] [LABEL] " ++
    "[SPACE] [LABEL] (for labels.txt)."⟩

/-- `punct_dataset`: a punctuation and capitalization dataset from a text file and a label file
whose words are two-character labels. -/
def punctDataset (req : Data) : Result Data := do
  let tok ← tokenizerField req "tokenizer"
  let maxLen ← intField req "max_seq_length" (-1)
  if (req.getD "infer").truthy then
    let queries ← textsOf "queries" (req.getD "queries")
    let r ← tagQueries tok (taggingStyle req false false) maxLen queries 0 fun _ => pure []
    return .dict (taggedFields r)
  let t ← treeField req
  let textFile := textOr req "text_file" "data/text.txt"
  let labelFile := textOr req "label_file" "data/labels.txt"
  if !(t.exists_ textFile && t.exists_ labelFile) then throw (punctFilesMissing textFile labelFile)
  if !(FileSystem.name textFile).endsWith ".txt" then throw notText
  let numSamples ← intField req "num_samples" (-1)
  if numSamples == 0 then throw (noSamples numSamples)
  let textLines := linesOf (← readFile t textFile)
  let marks ← (linesOf (← readFile t labelFile)).mapM splitMarks
  if marks.length != textLines.length then
    throw (.value "Labels file should contain labels for every word")
  let rows := textLines.zip marks
  let rows := if numSamples > 0 then rows.take numSamples.toNat else rows
  if rows.isEmpty then throw .listIndex
  let pad := textOr req "pad_label" "O"
  let givenPunct := req.getD "punct_label_ids"
  let (punctIds, capitIds) := if givenPunct.truthy then (givenPunct, req.getD "capit_label_ids")
    else (numberingData (Labels.numberSorted pad (distinct (marks.flatMap (·.1)))),
      numberingData (Labels.numberSorted pad (distinct (marks.flatMap (·.2)))))
  let punctCsv ← numberingText punctIds
  let capitCsv ← numberingText capitIds
  let r ← tagQueries tok (taggingStyle req false false) maxLen (rows.map (·.1)) 2 fun i => do
    let padId ← lookupLabel punctIds (.str pad)
    let (p, c) := ((rows[i]?).map (·.2)).getD ([], [])
    let punct ← p.mapM fun l => lookupLabel punctIds (.str l)
    let capit ← c.mapM fun l => lookupLabel capitIds (.str l)
    pure [⟨padId, some punct⟩, ⟨padId, some capit⟩]
  let punctRows := (r.labels[0]?).getD []
  let capitRows := (r.labels[1]?).getD []
  let written := [("punct_label_ids.csv", Data.str punctCsv), ("capit_label_ids.csv", Data.str capitCsv)]
  let (freqs, written) ← if (req.getD "get_label_frequencies").truthy then do
      let (pf, pt) ← labelFrequencies punctRows
      let (cf, ct) ← labelFrequencies capitRows
      pure ([("punct_label_frequencies", pf), ("capit_label_frequencies", cf)],
        written ++ [("label_count_punct.tsv", Data.str pt), ("label_count_capit.tsv", Data.str ct)])
    else pure ([], written)
  pure (.dict (taggedFields r ++ [("loss_mask", rowsData r.lossMask), ("punct_labels", labelRows r.labels 0),
    ("capit_labels", labelRows r.labels 1), ("punct_label_ids", punctIds), ("capit_label_ids", capitIds)] ++
    freqs ++ [("files", .dict written)]))

/-- `intent_slot_dataset`: a joint intent and slot dataset from a query file with a header and a
slot file. -/
def intentSlotDataset (req : Data) : Result Data := do
  let tok ← tokenizerField req "tokenizer"
  let maxLen ← intField req "max_seq_length" (-1)
  let lower := (req.getD "do_lower_case").truthy
  if (req.getD "infer").truthy then
    let queries ← textsOf "queries" (req.getD "queries")
    let queries := if lower then queries.map Text.lower else queries
    let r ← tagQueries tok (taggingStyle req true true) maxLen queries 0 fun _ => pure []
    return .dict [("len", .int r.inputIds.length), ("input_ids", .list (r.inputIds.map Data.list)),
      ("input_mask", rowsData r.inputMask), ("loss_mask", rowsData r.lossMask),
      ("subtokens_mask", rowsData r.subtokensMask), ("queries", Data.strs queries)]
  let t ← treeField req
  let numSamples ← intField req "num_samples" (-1)
  if numSamples == 0 then throw (noSamples numSamples)
  let slotLines := linesOf (← readFile t "slots.tsv")
  let inputLines := afterHeader (linesOf (← readFile t "input.tsv"))
  if slotLines.length != inputLines.length then throw (.assertion "")
  let rows := slotLines.zip inputLines
  let rows := if numSamples > 0 then rows.take numSamples.toNat else rows
  let parsed ← rows.mapM fun (slotLine, inputLine) => do
    let slots ← (Text.words slotLine).mapM intLiteral
    let ws := Text.words inputLine
    let some last := ws.getLast? | throw .listIndex
    let intent ← intLiteral last
    let query := " ".intercalate ws.dropLast
    pure (slots, intent, if lower then Text.lower query else query)
  let pad := match req.getD "pad_label" with
    | .null => Data.int 128
    | d => d
  let r ← tagQueries tok (taggingStyle req true true) maxLen (parsed.map (·.2.2)) 1 fun i =>
    pure [⟨pad, (parsed[i]?).map fun p => p.1.map Data.int⟩]
  pure (.dict [("len", .int r.inputIds.length), ("input_ids", .list (r.inputIds.map Data.list)),
    ("segment_ids", rowsData r.segmentIds), ("input_mask", rowsData r.inputMask),
    ("loss_mask", rowsData r.lossMask), ("subtokens_mask", rowsData r.subtokensMask),
    ("slots", labelRows r.labels 0), ("intents", Data.ints (parsed.map (·.2.1)))])

def dictionaryLabels (text : String) : List String :=
  (linesOf text).filterMap fun l => let s := Text.strip l; if s.isEmpty then none else some s

/-- Labels numbered by line; a repeated label keeps its first place and its last number. -/
def numberByLine (labels : List String) : List (String × Nat) :=
  labels.zipIdx.foldl (fun acc (l, i) =>
    if acc.any (·.1 == l) then acc.map fun (k, n) => if k == l then (k, i) else (k, n) else acc ++ [(l, i)]) []

/-- What the files of an intent dataset describe: its numbered intents and slots (the non-blank
lines of its dictionaries), the class weights its training part gives them, and the slot number
that pads. -/
structure IntentDescription where
  intentLabels : List String
  slotLabels : List String
  intents : List (String × Nat)
  slots : List (String × Nat)
  intentWeights : List Data
  slotWeights : List Data
  pad : Data

/-- Describing an intent dataset: it may fail, and keeps the statistics tables it has written,
by name, in order. -/
abbrev Describing := ExceptT Failure (StateM (List (String × String)))

/-- Writes a statistics table of labels and then needs their greatest, which an empty table
lacks. -/
def statsWritten (name : String) (labels : List Data) : Describing (List (Data × Nat)) := do
  let counts := Labels.mostCommon labels
  modify (· ++ [(name, Labels.statsTable labels.length counts)])
  let _ ← liftM (m := Result) (Labels.greatest (counts.map (·.1)))
  pure counts

/-- The description of the intent dataset in a directory from its dictionaries and the parts
named by `modes` that are present; a part's tables are written as it is read.  A `padLabel` of
`-1` pads with the number of the slot `noneLabel`. -/
def describeIntents (t : Tree) (dir : String) (modes : List String) (padLabel : Int) (noneLabel : String) :
    Describing IntentDescription := do
  if !(t.exists_ dir && t.exists_ s!"{dir}/dict.intents.csv" && t.exists_ s!"{dir}/dict.slots.csv") then
    throw ⟨"FileNotFoundError", "Make sure that your data follows the standard format supported by " ++
      "JointIntentSlotDataset. Your data must contain dict.intents.csv and dict.slots.csv."⟩
  let read (p : String) : Describing String := liftM (m := Result) (readFile t p)
  let intentLabels := dictionaryLabels (← read s!"{dir}/dict.intents.csv")
  let slotLabels := dictionaryLabels (← read s!"{dir}/dict.slots.csv")
  let intents := numberByLine intentLabels
  let slots := numberByLine slotLabels
  let weights ← modes.foldlM (fun (weights : Option (List (Data × Data) × List (Data × Data))) mode => do
    if !t.exists_ s!"{dir}/{mode}.tsv" then return weights
    let slotLines := linesOf (← read s!"{dir}/{mode}_slots.tsv")
    let inputLines := afterHeader (linesOf (← read s!"{dir}/{mode}.tsv"))
    if slotLines.length != inputLines.length then
      throw (.value ("Make sure that the number of slot lines match the number of intent lines. " ++
        "There should be a 1-1 correspondence between every slot and intent lines."))
    let parsed ← liftM (m := Result) ((slotLines.zip inputLines).mapM fun (slotLine, inputLine) => do
      let slots ← (Text.words slotLine).mapM intLiteral
      let some last := (Text.words inputLine).getLast? | throw .listIndex
      pure (slots, ← intLiteral last))
    let intentCounts ← statsWritten s!"{mode}_intent_stats.tsv" (parsed.map fun p => Data.int p.2)
    let slotCounts ← statsWritten s!"{mode}_slot_stats.tsv" (parsed.flatMap fun p => p.1.map Data.int)
    if mode != "train" then return weights
    let weightsOf (counts : List (Data × Nat)) : Describing (List (Data × Data)) :=
      liftM (m := Result) (Labels.freqWeights (counts.map fun (k, v) => (k, Scalar.int v)))
    pure (some (← weightsOf intentCounts, ← weightsOf slotCounts))) none
  let some (iw, sw) := weights
    | throw ⟨"UnboundLocalError",
        "cannot access local variable 'intent_weights_dict' where it is not associated with a value"⟩
  let pad ← if padLabel != -1 then pure (Data.int padLabel)
    else
      match slots.find? (·.1 == noneLabel) with
      | some (_, n) => pure (Data.int n)
      | Option.none => throw (.value s!"none_slot_label {noneLabel} not found in {dir}/dict.slots.csv.")
  pure { intentLabels, slotLabels, intents, slots, pad
         intentWeights := Labels.fillWeights iw (intents.length - 1)
         slotWeights := Labels.fillWeights sw (slots.length - 1) }

/-- `intent_slot_desc`: the label dictionaries, statistics and class weights of an intent
dataset in `data`. -/
def intentSlotDesc (req : Data) : Result Data := do
  let t ← treeField req
  let modes ← match req.getD "modes" with
    | .null => pure ["train", "test", "dev"]
    | d => textsOf "modes" d
  let padLabel ← intField req "pad_label" (-1)
  let (outcome, stats) := (describeIntents t "data" modes padLabel (textOr req "none_slot_label" "O")).run.run []
  let d ← outcome
  pure (.dict [("intents", .list (d.intents.map fun (k, n) => .list [.str k, .int n])),
    ("slots", .list (d.slots.map fun (k, n) => .list [.str k, .int n])),
    ("intent_weights", .list d.intentWeights), ("slot_weights", .list d.slotWeights),
    ("pad_label", d.pad), ("dicts", .list [Data.strs d.intentLabels, Data.strs d.slotLabels]),
    ("stats", .dict (stats.map fun (k, v) => (k, Data.str v)))])

end Conversa.Service
