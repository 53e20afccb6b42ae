import Conversa.Callees.Comprehension
import Conversa.Data.Pickle
import Conversa.Entry.Instance
import Conversa.Service.DataFiles

/-!
# Preparing NLP datasets, by name

The helpers that turn raw NLP data into training files: text tests and normal forms, label
files and numberings with class weights, intent datasets and their entities, and file helpers
(`read_csv`, `write_files`, `if_exist`, `load_data_indices`, `dataset_to_ids`).  Sets are answered
as their elements sorted, tuples as lists.
-/

namespace Conversa.Callees

open Entry Service

def preparationName (name : String) : String :=
  "nemo.collections.nlp.data.data_utils.data_preprocessing:" ++ name

def setData (xs : List Data) : Data := shown (.dict [("$set", .list xs)])

/-- The value a mapping holds under a key: a text key is looked up, any other key is missing
from a mapping whose keys are texts. -/
def entryFor (m : Data) (k : Data) : Result Data :=
  match k with
  | .str s => m.key s
  | other => .error (.key other.show)

/-- The three parts of an example: its words, their slots and its intent. -/
def exampleParts (ex : Data) : Result (Data × Data × Data) := do
  match ← ex.elements with
  | [a, b, c] => pure (a, b, c)
  | parts =>
    if parts.length < 3 then
      throw (.value s!"not enough values to unpack (expected 3, got {parts.length})")
    else throw (.value "too many values to unpack (expected 3)")

/-- Writes the two files of one split of a joint intent and slot dataset: `mode.tsv`, each
sentence with its intent number under a header, and `mode_slots.tsv`, the slot numbers of each
sentence's words.  Lines are written as they are made, so an example whose intent or slot has no
number leaves the files written up to it. -/
def writeSplit (examples : List Data) (slotIds intentIds : Data) (dir mode : String) (uncased : Bool) :
    Work Unit := do
  let intentFile := s!"{dir}/{mode}.tsv"
  let slotFile := s!"{dir}/{mode}_slots.tsv"
  Work.writeFile intentFile "sentence\tlabel\n"
  Work.writeFile slotFile ""
  for ex in examples do
    let (tokens, slots, intent) ← exampleParts ex
    let text ← Data.joinTexts " " (← tokens.elements)
    let text := if uncased then Text.lower text else text
    let number ← entryFor intentIds intent
    Work.appendFile intentFile s!"{text}\t{number.text}\n"
    let ids ← (← slots.elements).mapM fun s => do pure (← entryFor slotIds s).text
    Work.appendFile slotFile (" ".intercalate ids ++ "\n")

/-- Writes a vocabulary file, one item a line, and gives each item its line number. -/
def writeVocabulary (items : List Data) (file : String) : Work Data := do
  Work.writeFile file ""
  let mut numbering : Data := .dict []
  for (item, i) in items.zipIdx do
    match item with
    | .str s =>
      Work.appendFile file (s ++ "\n")
      numbering := numbering.set s (.int i)
    | other => throw (.type s!"unsupported operand type(s) for +: '{other.kindName}' and 'str'")
  pure numbering

/-- The utterances of an intent file: per utterance its words, the slot of each word (`O` for a
fragment without one) and its intent; with the slots named and the intents of the file. -/
def fileUtterances (doc : Data) : Result (List Data × List String × List String) := do
  let intents ← doc.key "intents"
  let names ← intents.elements
  names.foldlM (fun (rows, slots, seen) name => do
    let utterances ← (← entryFor intents name).key "utterances" >>= Data.elements
    let (rows, slots) ← utterances.foldlM (fun (rows, slots) u => do
      let frags ← (← u.key "data").elements
      let (tokens, tags, slots) ← frags.foldlM (fun (tokens, tags, slots) frag => do
        let words := Text.words (← (← frag.key "text").asText "strip")
        let (slot, slots) ← if (← frag.holds (.str "slot_name")) then do
            let s := (← frag.key "slot_name").text
            pure (s, slots ++ [s])
          else pure ("O", slots)
        pure (tokens ++ words, tags ++ List.replicate words.length slot, slots)) ([], [], slots)
      pure (rows ++ [Data.list [Data.strs tokens, Data.strs tags, name]], slots)) (rows, slots)
    pure (rows, slots, seen ++ [name.text])) ([], [], [])

/-- The utterances of intent files, one list per file, with every slot named (and `O`) and every
intent. -/
def intentData (files : List Data) : Work (List Data × List String × List String) := do
  files.foldlM (fun (all, slots, intents) f => do
    let doc ← jsonFile (← Work.files) f.text
    let (rows, s, i) ← fileUtterances doc
    pure (all ++ [Data.list rows], slots ++ s, intents ++ i)) ([], ["O"], [])

/-- A split of examples into training and held-out examples, `share` of them held out, rounded
down.  The held-out examples are a random sample; with nothing to hold out the split is
determined, and otherwise the first examples are held out here. -/
def holdOut (examples : List Data) (share : Float) : List Data × List Data :=
  let n := (Float.ofNat examples.length * share).floor.toUInt64.toNat
  (examples.drop n, examples.take n)

/-- The entity values of a mapping of entities, added to those known: each entity with data
gets its values and synonyms, the known values of an entity kept. -/
def mergeEntityValues (known : Data) (entities : Data) : Result Data := do
  let knownSets ← known.entries.mapM fun (k, v) => match tagged? v "$set" with
    | some xs => .ok (k, Intents.addValues [] (xs.items.map Data.text))
    | none => .error (.type s!"unsupported operand type(s) for |: '{v.kindName}' and 'set'")
  let m ← Intents.mergeEntities knownSets entities.entries
  pure (.dict (m.map fun (k, vs) => (k, setData (Data.strs vs).items)))

/-- Each value of the entities with the entity it belongs to, the entity named last winning. -/
def reverseEntities (m : Data) : Result Data :=
  m.entries.foldlM (fun (acc : Data) (entity, values) => do
    let vs ← (plain values).elements
    vs.foldlM (fun (acc : Data) v => match v with
      | .list _ => .error (.type "unhashable type: 'list'")
      | .dict _ => .error (.type "unhashable type: 'dict'")
      | _ => .ok (acc.set (keyText v) (.str entity))) acc) (.dict [])

def fileStrippedLines (file : String) : Work (List String) := do
  pure (strippedLines (← Work.readFile file))

def loadStored (file : String) : Work Data := do
  unpickle (← Work.readBytes file)

def normalizeAnswerCallee : Callee :=
  function "normalize_answer" [req "s"] fun vals => do
    match arg vals 0 with
    | .str s => pure (.str (Comprehension.normalize s))
    | other => throw (noAttribute other.kindName "lower")

def removePunctuationCallee : Callee :=
  function "remove_punctuation_from_sentence" [req "sentence"] fun vals => do
    match arg vals 0 with
    | .str s => pure (.str (Text.dropPunctuationLower s))
    | other => throw (.type s!"expected string or bytes-like object, got '{other.kindName}'")

def isWhitespaceCallee : Callee :=
  function "is_whitespace" [req "c"] fun vals => do
    pure (.bool (← isWhitespaceArg (arg vals 0)))

/-- `get_label_stats`: the number of labels, the count
of each, most frequent first, and the greatest label, with the table written to `outfile` before
the greatest label is looked for. -/
def labelStatsCallee : Callee :=
  function "get_label_stats" [req "labels", opt "outfile" (.str "stats.tsv"), opt "verbose" (.bool true)]
    fun vals => do
      let labels ← (plainArg vals 0).elements
      let counts := Labels.mostCommon labels
      Work.writeFile (arg vals 1).text (Labels.statsTable labels.length counts)
      let top ← Labels.greatest ((Labels.tally labels).map (·.1))
      pure (.list [.int labels.length, .dict (counts.map fun (k, v) => (keyText k, .int v)), top])

/-- `write_files`: each item stripped, on a line of its own. -/
def writeFilesCallee : Callee :=
  function "write_files" [req "data", req "outfile"] fun vals => do
    let file := (arg vals 1).text
    Work.writeFile file ""
    for item in ← (plainArg vals 0).elements do
      match item with
      | .str s => Work.appendFile file (Text.strip s ++ "\n")
      | other => throw (noAttribute other.kindName "strip")
    pure .null

def writeDataCallee : Callee :=
  function "write_data" [req "data", req "slot_dict", req "intent_dict", req "outfold", req "mode", req "uncased"]
    fun vals => do
      let arg := plainArg vals
      writeSplit (← (arg 0).elements) (arg 1) (arg 2) (arg 3).text (arg 4).text (arg 5).truthy
      pure .null

/-- `create_dataset`: the slots sorted with `O`
last and the intents sorted, each written as a vocabulary, then the training and test splits. -/
def createDatasetCallee : Callee :=
  function "create_dataset" [req "train", req "dev", req "slots", req "intents", req "uncased", req "outfold"]
    fun vals => do
      let arg := plainArg vals
      let dir := (arg 5).text
      Work.makeDirs dir
      let slots := ((← (arg 2).elements).map Data.text).erase "O"
      let slots := (slots.mergeSort fun a b => decide (a ≤ b)) ++ ["O"]
      let intents := (← (arg 3).elements).map Data.text
      let intents := intents.mergeSort fun a b => decide (a ≤ b)
      let slotIds ← writeVocabulary (Data.strs slots).items s!"{dir}/dict.slots.csv"
      let intentIds ← writeVocabulary (Data.strs intents).items s!"{dir}/dict.intents.csv"
      writeSplit (← (arg 0).elements) slotIds intentIds dir "train" (arg 4).truthy
      writeSplit (← (arg 1).elements) slotIds intentIds dir "test" (arg 4).truthy
      pure .null

def readCsvCallee : Callee :=
  function "read_csv" [req "file_path"] fun vals => do
    let rows ← Text.readRecords ',' (some '"') (← Work.readFile (arg vals 0).text)
    pure (.list (rows.map Data.strs))

/-- `get_data`: the utterances of each file, the slots and the intents. -/
def getDataCallee : Callee :=
  function "get_data" [req "files"] fun vals => do
    let (all, slots, intents) ← intentData (← (plainArg vals 0).elements)
    pure (.list [.list all, setData (Data.strs (Service.distinct slots)).items,
      setData (Data.strs (Service.distinct intents)).items])

/-- `get_dataset`: one file is split, two are the training and the test
set. -/
def getDatasetCallee : Callee :=
  function "get_dataset" [req "files", opt "dev_split" (.float 0.1)] fun vals => do
    let (all, slots, intents) ← intentData (← (plainArg vals 0).elements)
    let (train, dev) ← match all with
      | [one] =>
        let share := match (plainArg vals 1) with
          | .float x => x
          | .int n => Float.ofInt n
          | _ => 0.1
        pure (holdOut one.items share)
      | a :: b :: _ => pure (a.items, b.items)
      | [] => throw .listIndex
    pure (.list [.list train, .list dev, setData (Data.strs (Service.distinct slots)).items,
      setData (Data.strs (Service.distinct intents)).items])

def mapEntitiesCallee : Callee :=
  function "map_entities" [req "entity2value", req "entities"] fun vals => do
    mergeEntityValues (arg vals 0) (arg vals 1)

/-- `get_entities`: the values of each entity over the files, and the entity of each
value. -/
def getEntitiesCallee : Callee :=
  function "get_entities" [req "files"] fun vals => do
    let m ← (← (plainArg vals 0).elements).foldlM (fun m f => do
      let doc ← jsonFile (← Work.files) f.text
      (Intents.mergeEntities m (← doc.key "entities").entries)) []
    pure (.list [.dict (m.map fun (k, vs) => (k, Data.strs vs)),
      .dict ((Intents.valueEntities m).map fun (v, e) => (v, .str e))])

def reverseDictCallee : Callee :=
  function "reverse_dict" [req "entity2value"] fun vals => do
    reverseEntities (arg vals 0)

/-- `get_intent_labels`: every line numbered by its position, a repeated line taking
its last position but keeping its first place. -/
def intentLabelsCallee : Callee :=
  function "get_intent_labels" [req "intent_file"] fun vals => do
    let lines ← fileStrippedLines (arg vals 0).text
    let m := lines.zipIdx.foldl (fun m (l, i) => putIndex m l i) []
    pure (.dict (m.map fun (l, i) => (l, .int i)))

/-- `get_stats`: statistics are only logged, and an empty list has no minimum. -/
def getStatsCallee : Callee :=
  function "get_stats" [req "lengths"] fun vals => do
    match ← (plainArg vals 0).elements with
    | [] => throw (.value "zero-size array to reduction operation minimum which has no identity")
    | _ => pure .null

def writeVocabCallee : Callee :=
  function "write_vocab" [req "items", req "outfile"] fun vals => do
    writeVocabulary (← (plainArg vals 0).elements) (arg vals 1).text

/-- `get_labels_to_labels_id_mapping`: the non-blank lines numbered label first. -/
def labelIdMappingCallee : Callee :=
  function "get_labels_to_labels_id_mapping" [req "file"] fun vals => do
    let lines := (← fileStrippedLines (arg vals 0).text).filter (!·.isEmpty)
    let m := lines.zipIdx.foldl (fun m (l, i) => putIndex m l i) []
    pure (.dict (m.map fun (l, i) => (l, .int i)))

/-- `get_vocab`: the non-blank lines numbered number first. -/
def getVocabCallee : Callee :=
  function "get_vocab" [req "file"] fun vals => do
    let lines := (← fileStrippedLines (arg vals 0).text).filter (!·.isEmpty)
    pure (.dict (lines.zipIdx.map fun (l, i) => (toString i, .str l)))

/-- `if_exist`: whether the directory and each named file in it exist. -/
def ifExistCallee : Callee :=
  function "if_exist" [req "outfold", req "files"] fun vals => do
    let dir := (arg vals 0).text
    if !(← Work.pathExists dir) then return .bool false
    for f in ← (plainArg vals 1).elements do
      if !(← Work.pathExists s!"{dir}/{f.text}") then return .bool false
    pure (.bool true)

def freqWeightsCallee : Callee :=
  function "get_freq_weights" [req "label_freq"] fun vals => do
    let counts ← (arg vals 0).entries.mapM fun (k, v) => match v.scalar? with
      | some s => pure (Data.str k, s)
      | none => throw (.type s!"unsupported operand type(s) for +=: 'int' and '{v.kindName}'")
    let ws ← Labels.freqWeights counts
    pure (.dict (ws.map fun (k, w) => (k.text, w)))

/-- `fill_class_weights`: a negative `max_id` is the greatest label, compared
with zero first. -/
def fillWeightsCallee : Callee :=
  function "fill_class_weights" [req "weights", opt "max_id" (.int (-1))] fun vals => do
    let weights := (arg vals 0).entries.map fun (k, v) => (Data.str k, v)
    let maxId := (arg vals 1).int?.getD (-1)
    let maxId ← if maxId < 0 then
        weights.foldlM (fun (m : Data) (k, _) => do
          if (← Labels.greater k m) then pure k else pure m) (.int 0)
      else pure (.int maxId)
    pure (.list (Labels.fillWeights weights (maxId.int?.getD 0)))

/-- `load_data_indices`: the stored indices when their file
exists, the name of that file and the data directory. -/
def loadIndicesCallee : Callee :=
  function "load_data_indices" [req "idx_file", req "data_file", req "savename"] fun vals => do
    let (idx, dir) := indexFile (arg vals 1).text (arg vals 2).text
    let indices ← if ← Work.isFile idx then loadStored idx else pure .null
    pure (.list [indices, .str idx, .str dir])

/-- `dataset_to_ids`: the token numbers of each line, from the stored
copy when asked to use it and it exists, and stored when asked to cache them. -/
def datasetToIdsCallee : Callee :=
  function "dataset_to_ids"
    [req "dataset", req "tokenizer", opt "cache_ids" (.bool false), opt "add_bos_eos" (.bool true),
     opt "cache_data_per_node" (.bool false), opt "use_cache" (.bool false)] fun vals => do
    let dataset := (arg vals 0).text
    let cached := dataset ++ ".pkl"
    if (arg vals 5).truthy && (← Work.isFile cached) then return ← loadStored cached
    let tokArg := arg vals 1
    let tok ← match tagged? tokArg "$tok" with
      | some spec => tokenizerField spec "kind"
      | none => throw (noAttribute (plain tokArg).kindName "text_to_ids")
    let ids ← datasetIds tok (← Work.readFile dataset) (arg vals 3).truthy
    let ids := Data.list (ids.map Data.nats)
    if (arg vals 2).truthy then Work.writeStored cached ids
    pure ids

def preparationCallees : List (String × Callee) :=
  [("normalize_answer", normalizeAnswerCallee),
   ("remove_punctuation_from_sentence", removePunctuationCallee),
   ("is_whitespace", isWhitespaceCallee), ("get_label_stats", labelStatsCallee),
   ("write_files", writeFilesCallee), ("write_data", writeDataCallee),
   ("create_dataset", createDatasetCallee), ("read_csv", readCsvCallee),
   ("get_data", getDataCallee), ("get_dataset", getDatasetCallee),
   ("map_entities", mapEntitiesCallee), ("get_entities", getEntitiesCallee),
   ("reverse_dict", reverseDictCallee), ("get_intent_labels", intentLabelsCallee),
   ("get_stats", getStatsCallee), ("write_vocab", writeVocabCallee),
   ("get_labels_to_labels_id_mapping", labelIdMappingCallee), ("get_vocab", getVocabCallee),
   ("if_exist", ifExistCallee), ("get_freq_weights", freqWeightsCallee),
   ("fill_class_weights", fillWeightsCallee), ("load_data_indices", loadIndicesCallee),
   ("dataset_to_ids", datasetToIdsCallee)].map fun (n, c) => (preparationName n, c)

end Conversa.Callees
