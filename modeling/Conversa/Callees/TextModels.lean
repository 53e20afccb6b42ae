import Conversa.Callees.Models
import Conversa.Callees.TranscribedAudio
import Conversa.Callees.TranslationCorpus
import Conversa.Callees.DatasetMixing
import Conversa.Data.Pickle

/-!
# The methods of the text models

Text models keep their data settings in their configuration, read as attributes (a missing entry
fails with its key).  Labellers number their labels and write the numbering, statistics and class
weights beside the training file; an intent classifier writes its description; a ranker scores by
mean reciprocal rank; a normalizer reads its tagger's spans; a translation model checks and
batches its files.  A registered artifact is written under its key by absolute path.
-/

namespace Conversa.Callees

open Entry Speech Conversa.Language

/-! ## Paths and configurations -/

/-- A path made absolute against the working directory, its `.` and `..` parts resolved. -/
def absolutePath (p : String) : String :=
  if FileSystem.isAbsolute p then "/" ++ "/".intercalate ((FileSystem.normalParts p).dropWhile (· == ".."))
  else "/".intercalate (FileSystem.normalParts (workingDirectory ++ "/" ++ p))

def baseName (p : String) : String := ((p.splitOn "/").getLast?).getD p

def asSection (v : Data) : Data :=
  match v with
  | .dict _ | .list _ => .dict [("$cfg", v)]
  | other => other

/-- An entry of a configuration read as an attribute; `fullKey` names a missing one from the top
of the configuration.  An object gives its attribute, and any other value has none. -/
def sectionEntry (cfg : Data) (key fullKey : String) : Result Data :=
  match tagged? cfg "$cfg" with
  | some (.dict kvs) =>
    match kvs.lookup key with
    | some v => .ok (asSection v)
    | none => .error (Config.located "ConfigAttributeError" s!"Missing key {key}" fullKey "dict")
  | _ =>
    match className? cfg with
    | some _ => attr cfg key
    | none => .error (noAttribute (plain cfg).kindName key)

/-- The entry at a path of a configuration, read entry by entry; `above` is the path of the
configuration itself. -/
def configAt (cfg : Data) (path : List String) (above : List String := []) : Result Data :=
  match path with
  | [] => .ok cfg
  | k :: rest => do
    let v ← sectionEntry cfg k (".".intercalate (above ++ [k]))
    configAt v rest (above ++ [k])

/-- A configuration, or an object, with one entry set. -/
def putField (cfg : Data) (key : String) (v : Data) : Result Data :=
  match tagged? cfg "$cfg" with
  | some inner@(.dict _) => .ok (.dict [("$cfg", inner.set key (plain v))])
  | _ =>
    match className? cfg with
    | some _ => .ok (setAttr cfg key v)
    | none => .error (noAttribute (plain cfg).kindName key)

/-- A configuration with the entry at a path set; the sections on the way must be there. -/
def configWith (cfg : Data) (path : List String) (v : Data) (above : List String := []) : Result Data :=
  match path with
  | [] => .ok v
  | [k] => putField cfg k v
  | k :: rest => do
    let child ← sectionEntry cfg k (".".intercalate (above ++ [k]))
    putField cfg k (← configWith child rest v (above ++ [k]))

def hasField (cfg : Data) (key : String) : Bool := (sectionEntry cfg key key).toOption.isSome

def holdsField (cfg : Data) (key : String) : Bool :=
  match sectionEntry cfg key key with
  | .ok v => !v.isNull
  | .error _ => false

def readConfig (path : List String) : Method Data := do
  configAt (← Method.attr "_cfg") path

def writeConfig (path : List String) (v : Data) : Method Unit := do
  Method.setAttr "_cfg" (← configWith (← Method.attr "_cfg") path v)

/-- A mapping with the entry at a path set, the mappings on the way made where they are missing
or hold something else: a configuration updated from outside. -/
def updatedAlong (d : Data) : List String → Data → Data
  | [], v => v
  | [k], v => d.set k v
  | k :: rest, v =>
    let child := match d.get? k with
      | some c@(.dict _) => c
      | _ => .dict []
    d.set k (updatedAlong child rest v)

/-! ## Artifacts -/

/-- Registers an existing file as an artifact: a path that exists is kept as a local path, and
one whose last part exists here as a path inside the model's archive; the model's configuration
takes the path found under the artifact's key. -/
def registerFile (key path : String) : Method Data := do
  let artifacts := match ← Method.attr? "artifacts" with
    | some (.dict kvs) => Data.dict kvs
    | _ => .dict []
  Method.setAttr "artifacts" artifacts
  let absolute := absolutePath path
  let (found, kind) ← if ← (Work.pathExists path) then pure (absolute, "LOCAL_PATH")
    else if path.startsWith "nemo:" then
      throw (.notPath "NoneType")
    else if ← (Work.pathExists (baseName path)) then pure (baseName path, "TAR_PATH")
    else Method.fail ⟨"FileNotFoundError", "src path does not exist or it is not a path in nemo file. " ++
      s!"src value I got was: {path}. Absolute: {absolute}"⟩
  let item := objectData "ArtifactItem"
    [("path_type", .dict [("$ref", .str s!"nemo.utils.model_utils:ArtifactPathType.{kind}")]), ("path", .str absolute)]
  Method.setAttr "artifacts" (artifacts.set key item)
  match ← Method.attr? "_cfg" with
  | some cfg =>
    match tagged? cfg "$cfg" with
    | some inner => Method.setAttr "_cfg" (.dict [("$cfg", updatedAlong inner (key.splitOn ".") (.str found))])
    | none => pure ()
  | none => pure ()
  pure (.str found)

/-- Registers a file as an artifact of the model, by the model's own registrar when it holds one;
nothing or an empty path registers nothing. -/
def registerArtifact (key : String) (src : Data) : Method Data :=
  Method.callOwn "register_artifact" [.str key, src] [] do
    match src with
    | .null => pure src
    | .str "" => pure src
    | .str path => registerFile key path
    | other => throw (.notPath other.kindName)

/-! ## Label numberings -/

/-- The numbering of the labels of a label file, the file the numbering is written to and the
class weights. -/
structure LabelFileNumbering where
  mapping : Entries
  /-- The file of the numbering, beside the label file. -/
  file : String
  weights : Option Data

/-- Writes the statistics table of some labels and gives their counts and their greatest, which
an empty table lacks. -/
def writeLabelStats (file : String) (labels : List Data) : Work (List (Data × Nat) × Data) := do
  let counts := Labels.mostCommon labels
  Work.writeFile file (Labels.statsTable labels.length counts)
  pure (counts, ← Labels.greatest (counts.map (·.1)))

/-- The labels of a label file numbered: by the given numbering, which must hold them, or from
the pad label up.  A training file's numbering is written beside it under `artifact`; the
statistics unless the file is not for training, no weights are asked and they exist; the weights
read back when stored, else computed and stored. -/
def numberLabelFile (labelFile : String) (training : Bool) (pad : String) (given : Data)
    (weights : Bool) (artifact : String) : Work LabelFileNumbering := do
  if !(← Work.pathExists labelFile) then throw (.value s!"File {labelFile} was not found.")
  if !training && given.isNull then
    throw (.value ("For non training data, label_ids_dict created during preprocessing of the " ++
      "training data should be provided"))
  let dir := FileSystem.directoryPart labelFile
  let seen := (Service.labelLines (← Work.readFile labelFile)).flatten
  let mapping ← Service.labelNumbering labelFile pad seen (plain given)
  let file := FileSystem.join dir artifact
  if training then
    let byNumber := mapping.mergeSort fun a b => (a.2.num?.getD 0) ≤ (b.2.num?.getD 0)
    Work.writeFile file ("\n".intercalate (byNumber.map (·.1)))
  let base := fileId labelFile
  let statsFile := FileSystem.join dir s!"{base}_label_stats.tsv"
  let stats ← if (← Work.pathExists statsFile) && !training && !weights then pure none
    else
      let ids := seen.map fun l => ((mapping.lookup l).getD .null)
      pure (some (← writeLabelStats statsFile ids))
  if !weights then return ⟨mapping, file, none⟩
  let weightsFile := FileSystem.join dir s!"{base}_weights.p"
  if ← Work.pathExists weightsFile then
    return ⟨mapping, file, some (← unpickle (← Work.readBytes weightsFile))⟩
  let (counts, top) := stats.getD ([], .null)
  let byClass ← Labels.freqWeights (counts.map fun (k, n) => (k, Numeric.Scalar.int n))
  let filled := Labels.fillWeights byClass (top.int?.getD (-1))
  Work.writeStored weightsFile (.dict [("bytes", .str (Text.hexText (pickleFloats (filled.filterMap Data.num?))))])
  pure ⟨mapping, file, some (.list filled)⟩

/-- The label file a data setting names, in the data directory of the model. -/
def labelFileOf (setting : Data) (above : List String) : Method String := do
  let dir ← readConfig ["dataset", "data_dir"]
  let name ← configAt setting ["labels_file"] above
  pure (FileSystem.join dir.text name.text)

/-- The data setting a loader is made from: the one given, or the model's own section. -/
def settingOr (given : Data) (part : String) : Method (Data × List String) := do
  if given.isNull then pure (← readConfig [part], [part]) else pure (given, [])

def makeLoader (loader : String) (setting : Data) : Method Unit := do
  Method.setAttr loader (← Method.invoke ["_setup_dataloader_from_config"] [] [("cfg", setting)])

def labellerTraining : Callee :=
  method "TokenClassificationModel.setup_training_data" [opt "train_data_config" .null] fun vals => do
    let (setting, above) ← settingOr (arg vals 0) "train_ds"
    let labelFile ← labelFileOf setting above
    if !holdsField (← Method.attr "_cfg") "class_labels" then
      writeConfig ["class_labels"] (.dict [("class_labels_file", .str "label_ids.csv")])
    let pad ← readConfig ["dataset", "pad_label"]
    let given ← readConfig ["label_ids"]
    let artifact ← readConfig ["class_labels", "class_labels_file"]
    let numbering ← (numberLabelFile labelFile true pad.text given true artifact.text)
    Method.setAttr "class_weights" (numbering.weights.getD .null)
    writeConfig ["label_ids"] (.dict numbering.mapping)
    let _ ← registerArtifact "class_labels.class_labels_file" (.str numbering.file)
    makeLoader "_train_dl" setting
    pure .null

/-- The setup of an evaluation loader of a token labeller: the labels of its file must all be
numbered already. -/
def labellerEvaluation (name part loader : String) : Callee :=
  method s!"TokenClassificationModel.{name}" [opt "data_config" .null] fun vals => do
    let (setting, above) ← settingOr (arg vals 0) part
    let labelFile ← labelFileOf setting above
    let pad ← readConfig ["dataset", "pad_label"]
    let given ← readConfig ["label_ids"]
    let _ ← (numberLabelFile labelFile false pad.text given false "label_ids.csv")
    makeLoader loader setting
    pure .null

/-! ## Predictions of a token labeller -/

/-- The labels of the model by number; a later label of one number wins. -/
def labelsByNumber : Method (List (Data × String)) := do
  match plain (← readConfig ["label_ids"]) with
  | .dict kvs => pure (kvs.reverse.map fun (k, v) => (v, k))
  | other => Method.fail (noAttribute other.kindName "items")

def labelOfNumber (table : List (Data × String)) (n : Data) : Result String :=
  match table.find? (·.1.same n) with
  | some (_, l) => .ok l
  | none => .error (.key n.show)

/-- A word and the punctuation mark that ends it: its last character unless that is a letter. -/
def splitMark (w : String) : String × String :=
  match w.toList.getLast? with
  | some c => if Text.isLetter c then (w, "") else (String.ofList w.toList.dropLast, String.singleton c)
  | none => (w, "")

/-- A query with the label of each word written after the word, before its punctuation mark;
words of the pad label stay bare. -/
def taggedQuery (pad : Data) (labelled : List (String × String)) : String :=
  Text.strip (String.join (labelled.map fun (w, label) =>
    let (word, mark) := splitMark w
    word ++ (if Data.same (.str label) pad then "" else "[" ++ label ++ "]") ++ mark ++ " "))

def cutRuns {α : Type} (xs : List α) : List Nat → List (List α)
  | [] => []
  | n :: ns => xs.take n :: cutRuns (xs.drop n) ns

def addPredictions : Callee :=
  method "TokenClassificationModel.add_predictions"
      [req "queries", opt "batch_size" (.int 32), opt "output_file" .null] fun vals => do
    let queries := arg vals 0
    let empty := match plain queries with
      | .null => true
      | .str s => s.isEmpty
      | .list xs => xs.isEmpty
      | _ => false
    if empty then return .list []
    let queries ← match plain queries with
      | .str path => do pure (Data.strs (← (Work.readLines path)))
      | q => pure q
    let preds := (plain (← Method.invoke ["_infer"] [queries, arg vals 1])).items
    let words := queries.items.map fun q => Text.words q.text
    if (words.map List.length).foldl (· + ·) 0 != preds.length then
      throw (.value "Pred and words must have the same length")
    let table ← labelsByNumber
    let labels ← preds.mapM fun n => labelOfNumber table n
    let pad ← if labels.isEmpty then pure .null else readConfig ["dataset", "pad_label"]
    let results := (words.zip (cutRuns labels (words.map List.length))).map fun (ws, ls) =>
      taggedQuery pad (ws.zip ls)
    match arg vals 2 with
    | .null => pure ()
    | out => Method.work (Work.writeFile out.text (String.join (results.map (· ++ "\n"))))
    pure (Data.strs results)

/-- `TokenClassificationModel.evaluate_from_file`: the file
`infer_<text file>` in the output directory gets the given labels and then the predicted ones. -/
def evaluateFromFile : Callee :=
  method "TokenClassificationModel.evaluate_from_file"
      [req "output_dir", req "text_file", opt "labels_file" .null, opt "add_confusion_matrix" (.bool false),
       opt "normalize_confusion_matrix" (.bool true), opt "batch_size" (.int 1)] fun vals => do
    let arg := plainArg vals
    let textFile := (arg 1).text
    let queries ← (Work.readLines textFile)
    let preds := (plain (← Method.invoke ["_infer"] [Data.strs queries, arg 5])).items
    let labelsText ← match arg 2 with
      | .null => pure none
      | file => do pure (some (" ".intercalate ((← (Work.readLines file.text)).map Text.strip)))
    let dir := "/".intercalate (FileSystem.normalParts (arg 0).text)
    Method.work (Work.makeDirs dir)
    let out := FileSystem.join dir ("infer_" ++ baseName textFile)
    Method.work (Work.writeFile out "")
    if let some text := labelsText then Method.work (Work.appendFile out ("labels\t" ++ text ++ "\n"))
    let table ← labelsByNumber
    let predicted ← preds.mapM fun n => labelOfNumber table n
    Method.work (Work.appendFile out ("preds\t" ++ " ".intercalate predicted ++ "\n"))
    if let some text := labelsText then
      if (arg 3).truthy then
        let numbering := plain (← readConfig ["label_ids"])
        let _ ← (Text.words text).mapM fun l =>
          Method.lift ((numbering.get? l).elim (.error (.key (Text.quote l))) .ok)
        Method.fail (.unavailable "matplotlib")
    pure .null

def labellerDataDir : Callee :=
  method "TokenClassificationModel.update_data_dir" [req "data_dir"] fun vals => do
    writeConfig ["dataset", "data_dir"] (arg vals 0)
    pure .null

/-! ## Punctuation and capitalization -/

/-- `PunctuationCapitalizationModel.update_data_dir`: the directory must exist. -/
def punctuationDataDir : Callee :=
  method "PunctuationCapitalizationModel.update_data_dir" [req "data_dir"] fun vals => do
    let dir := arg vals 0
    if ← (Work.pathExists dir.text) then writeConfig ["dataset", "data_dir"] dir
    else throw (.value s!"{dir.text} not found")
    pure .null

/-- `PunctuationCapitalizationModel.setup_training_data`: the numberings
come from the training loader's dataset, and their files are registered. -/
def punctuationTraining : Callee :=
  method "PunctuationCapitalizationModel.setup_training_data" [opt "train_data_config" .null] fun vals => do
    let (setting, _) ← settingOr (arg vals 0) "train_ds"
    if !holdsField (← Method.attr "_cfg") "class_labels" then
      writeConfig ["class_labels"]
        (.dict [("punct_labels_file", .str "punct_label_ids.csv"), ("capit_labels_file", .str "capit_label_ids.csv")])
    makeLoader "_train_dl" setting
    let dataset (path : String) : Method Data := do
      readPath (← Method.attr "_train_dl") ("dataset." ++ path)
    let _ ← registerArtifact "class_labels.punct_labels_file" (← dataset "punct_label_ids_file")
    let _ ← registerArtifact "class_labels.capit_labels_file" (← dataset "capit_label_ids_file")
    writeConfig ["punct_label_ids"] (← dataset "punct_label_ids")
    writeConfig ["capit_label_ids"] (← dataset "capit_label_ids")
    pure .null

/-! ## Intents and slots -/

/-- The placeholder description of an intent dataset: one blank intent and one blank slot. -/
def placeholderDescription : Data :=
  .dict [("intent_labels", .str " "), ("intent_label_ids", .dict [(" ", .int 0)]), ("intent_weights", .list [.int 1]),
    ("slot_labels", .str " "), ("slot_label_ids", .dict [(" ", .int 0)]), ("slot_weights", .list [.int 1]),
    ("pad_label", .str "O")]

/-- `IntentSlotClassificationModel._set_defaults_data_desc`: a configuration without a
description gets the placeholder. -/
def defaultDescription : Callee :=
  method "IntentSlotClassificationModel._set_defaults_data_desc" [req "cfg"] fun vals => do
    let cfg := arg vals 0
    if !hasField cfg "data_desc" then
      Method.setArgument 0 (← putField cfg "data_desc" placeholderDescription)
    pure .null

/-- Writes a numbering as the labels in the order of their numbers, one a line. -/
def saveNumbering (numbering : Data) (file : String) : Method Unit := do
  Method.work (Work.writeFile file "")
  let entries := (plain numbering).entries
  if entries.isEmpty then throw (.unpack 2 0)
  let byNumber := entries.mergeSort fun a b => (a.2.num?.getD 0) ≤ (b.2.num?.getD 0)
  Method.work (Work.writeFile file ("\n".intercalate (byNumber.map (·.1))))

def saveLabelIds : Callee :=
  method "IntentSlotClassificationModel._save_label_ids" [req "label_ids", req "filename"] fun vals => do
    saveNumbering (arg vals 0) (arg vals 1).text
    pure .null

/-- `IntentSlotClassificationModel._set_data_desc_to_cfg`: the description of the dataset in `data_dir` (its statistics written for the
prefixes of the two datasets) is copied into the configuration, whose label files are written
and registered. -/
def descriptionToConfig : Callee :=
  method "IntentSlotClassificationModel._set_data_desc_to_cfg"
      [req "cfg", req "data_dir", req "train_ds", req "validation_ds"] fun vals => do
    let arg := arg vals
    let modes := [← attrOf (arg 2) "prefix", ← attrOf (arg 3) "prefix"]
    let dir := (plain (arg 1)).text
    let tree ← Method.work Work.files
    let (outcome, stats) := (Service.describeIntents tree dir (modes.map Data.text) (-1) "O").run.run []
    for (name, text) in stats do
      Method.work (Work.writeFile s!"{dir}/{name}" text)
    let d ← outcome
    let cfg := arg 0
    let kept := if holdsField cfg "data_desc" then plain ((sectionEntry cfg "data_desc" "data_desc").toOption.getD .null)
      else .dict []
    let desc := ((((((kept.set "intent_labels" (Data.strs (d.intents.map (·.1)))).set "intent_label_ids"
      (Service.numberingData d.intents)).set "intent_weights" (.list d.intentWeights)).set "slot_labels"
      (Data.strs (d.slots.map (·.1)))).set "slot_label_ids" (Service.numberingData d.slots)).set "slot_weights"
      (.list d.slotWeights)).set "pad_label" d.pad
    let cfg ← putField cfg "data_desc" desc
    let cfg ← if holdsField cfg "class_labels" then pure cfg
      else (putField cfg "class_labels"
        (.dict [("intent_labels_file", .str "intent_labels.csv"), ("slot_labels_file", .str "slot_labels.csv")]))
    Method.setArgument 0 cfg
    let slotFile := FileSystem.join dir (← configAt cfg ["class_labels", "slot_labels_file"]).text
    let intentFile := FileSystem.join dir (← configAt cfg ["class_labels", "intent_labels_file"]).text
    saveNumbering (Service.numberingData d.slots) slotFile
    saveNumbering (Service.numberingData d.intents) intentFile
    let _ ← registerArtifact "class_labels.intent_labels_file" (.str intentFile)
    let _ ← registerArtifact "class_labels.slot_labels_file" (.str slotFile)
    pure .null

def testingDataDir : Callee :=
  method "IntentSlotClassificationModel.update_data_dir_for_testing" [req "data_dir"] fun vals => do
    Method.setAttr "data_dir" (arg vals 0)
    pure .null

/-! ## Benchmark tasks -/

/-- `GLUEModel.update_data_dir`: training reads `train.tsv`, and evaluation `dev.tsv`,
or for the multi-genre inference task its matched and mismatched parts. -/
def benchmarkDataDir : Callee :=
  method "GLUEModel.update_data_dir" [req "data_dir"] fun vals => do
    let dir := arg vals 0
    writeConfig ["dataset", "data_dir"] dir
    let evaluation := if (← Method.attr "task_name") == .str "mnli" then
        Data.strs [FileSystem.join dir.text "dev_matched.tsv", FileSystem.join dir.text "dev_mismatched.tsv"]
      else .str (FileSystem.join dir.text "dev.tsv")
    writeConfig ["validation_ds", "ds_item"] evaluation
    writeConfig ["train_ds", "ds_item"] (.str (FileSystem.join dir.text "train.tsv"))
    pure .null

/-! ## Passage ranking -/

/-- The positions of scores from the highest down; of equal scores the later comes first. -/
def rankedPositions (scores : List Float) : List Nat :=
  let below (a b : Float × Nat) : Bool := a.1 < b.1 || (b.1.isNaN && !a.1.isNaN)
  ((scores.zipIdx.mergeSort fun a b => !below b a).map (·.2)).reverse

/-- The reciprocal rank of the first relevant passage of one query, zero when none is relevant;
the relevant passages are looked up only when there are passages. -/
def reciprocalRank (relevant : Data) (query : String) (entry : Data) : Result Float := do
  let field (k : String) : Result Data :=
    ((plain entry).get? k).elim (.error (.key (Text.quote k))) (fun v => .ok (plain v))
  let scores := (← field "scores").items.map fun s => s.num?.getD 0.0
  let ids := (← field "psg_ids").items
  let ranked := (rankedPositions scores).map fun i => ids.getD i .null
  if ranked.isEmpty then return 0.0
  let some rel := (plain relevant).get? query | throw (.key (Text.quote query))
  let relevantIds := (plain rel).items
  pure (match ranked.zipIdx.find? fun (id, _) => relevantIds.any (·.same id) with
    | some (_, i) => 1.0 / Float.ofNat (i + 1)
    | none => 0.0)

/-- `BaseIRModel.calculate_mean_reciprocal_rank`: the mean over the
queries, not a number when there are none. -/
def meanReciprocalRank : Callee :=
  functionOf "calculate_mean_reciprocal_rank" [req "query2passages", req "query2rel"] fun vals => do
    let ranks ← ((plainArg vals 0).entries.mapM fun (q, e) => reciprocalRank (arg vals 1) q e)
    pure (.float (Numeric.arrayMean ranks))

/-! ## Text normalization -/

def normalizationConstant (name : String) : Data :=
  match Interface.loadModule "nemo.collections.nlp.data.text_normalization.constants" with
  | .ok m => ((m.constants.lookup name).map Interface.Value.toData).getD .null
  | .error _ => .null

def urlMarks : List String := ["www", "http", ".org", ".com", ".tv"]

def isUrl (d : Data) : Result Bool :=
  match d with
  | .str s => .ok (urlMarks.any fun m => (s.splitOn m).length > 1)
  | .list xs => .ok (urlMarks.any fun m => xs.contains (.str m))
  | other => .error (.type s!"argument of type {Text.quote other.kindName} is not iterable")

def isUrlCallee : Callee :=
  functionOf "is_url" [req "input_str"] fun vals => do pure (.bool (← isUrl (arg vals 0)))

/-- The spans a tagger marks in one input, by their number, first positions and last positions:
a span starts at a beginning tag and runs over the inside tags after it. -/
def markedSpans (start inside : Data) (tags : List Data) : Nat × List Nat × List Nat :=
  let step (acc : Nat × Option Nat × List Nat × List Nat) (ti : Data × Nat) :=
    let (n, open_, starts, ends) := acc
    let (tag, ix) := ti
    let (n, starts, ends, open_) := if tag == inside then (n, starts, ends, open_)
      else match open_ with
        | some s => (n + 1, starts ++ [s], ends ++ [ix - 1], none)
        | none => (n, starts, ends, none)
    (n, if tag == start then some ix else open_, starts, ends)
  let (n, _, starts, ends) := ((tags ++ [Data.str "EOS"]).zipIdx).foldl step (0, none, [], [])
  (n, starts, ends)

/-- `DuplexTaggerModel.decode_tag_preds`: the numbers of spans, their first positions
and their last positions, per input. -/
def decodeTagPreds : Callee :=
  method "DuplexTaggerModel.decode_tag_preds" [req "tag_preds"] fun vals => do
    let tag := normalizationConstant "TRANSFORM_TAG"
    let start := Data.str ((normalizationConstant "B_PREFIX").text ++ tag.text)
    let inside := Data.str ((normalizationConstant "I_PREFIX").text ++ tag.text)
    let spans := (plainArg vals 0).items.map fun preds => markedSpans start inside (plain preds).items
    pure (.list [Data.nats (spans.map (·.1)), .list (spans.map fun s => Data.nats s.2.1),
      .list (spans.map fun s => Data.nats s.2.2)])

/-- `DuplexDecoderModel.postprocess_output_spans`: an
output whose input names a Greek letter becomes that name going forward and the letter going
back; a web address would be split into words, which needs a word splitter. -/
def postprocessSpans : Callee :=
  method "DuplexDecoderModel.postprocess_output_spans"
      [req "input_centers", req "output_spans", req "input_dirs"] fun vals => do
    let spoken := (normalizationConstant "GREEK_TO_SPOKEN").entries.map (·.2)
    let letters := normalizationConstant "SPOKEN_TO_GREEK"
    let forward := normalizationConstant "INST_FORWARD"
    let backward := normalizationConstant "INST_BACKWARD"
    let inputs := (plainArg vals 0).items
    let dirs := (plainArg vals 2).items
    let outputs ← (inputs.zip (plainArg vals 1).items).zipIdx.foldlM (fun (acc : List Data) ((input, output), ix) => do
      if ← (isUrl input) then Method.fail (.unavailable "wordninja")
      if !spoken.contains input then return acc ++ [output]
      let some dir := dirs[ix]? | throw .listIndex
      if dir == forward then return acc ++ [input]
      if dir == backward then
        match letters.get? input.text with
        | some l => return acc ++ [l]
        | none => throw (.key input.show)
      pure (acc ++ [output])) []
    let all := outputs ++ (plainArg vals 1).items.drop outputs.length
    Method.setArgument 1 (.list all)
    pure (.list all)

/-! ## The character parser of a speech synthesizer -/

def charParserAct (p : CharParser) (step : Step) : Work Data := do
  let self ← Work.this
  let cls := (className? self).getD "CharParser"
  match step with
  | .read path => readPath self path
  | .call "__call__" args => do
    let vals ← args.bind s!"{cls}.__call__" [req "text"]
    match plainArg vals 0 with
    | .str s => pure (Data.opt Data.ints (p.parse s))
    | other =>
      if p.normalize && p.kind == .english then pure .null
      else Work.fail (noAttribute other.kindName (if p.normalize then "strip" else "split"))
  | .call name _ => Work.fail (noAttribute cls name)

/-- The dataset settings a synthesizer's parser is made from: those of the first of validation,
test and training data that has settings.  A missing section is skipped; a section that is
nothing fails. -/
def parserSettings (cfg : Data) : Result Data :=
  ["validation_ds", "test_ds", "train_ds"].foldlM (fun (found : Data) part =>
    match plain found with
    | .dict [] =>
      match configAt cfg [part, "dataset"] with
      | .ok v => .ok v
      | .error f => if f.kind == "ConfigAttributeError" then .ok found else .error f
    | _ => .ok found) (.dict [])

/-- The parser of a synthesizer: its own, its loaders' datasets', or else one made from its
labels (printable characters when it has none) and dataset settings, which it then keeps. -/
def synthesisParser : Method Data := do
  let own ← Method.attr "_parser"
  if !own.isNull then return own
  for loader in ["_validation_dl", "_test_dl", "_train_dl"] do
    let dl ← Method.attr loader
    if !dl.isNull then return (← readPath dl "dataset.parser")
  let settings ← parserSettings (← Method.attr "_cfg")
  let setting ← match plain settings with
    | .dict kvs => pure fun (k : String) (default : Data) =>
        match kvs.lookup k with
        | some v => if v.truthy then v else default
        | none => default
    | other => Method.fail (noAttribute other.kindName "get")
  let labels := plain (← readConfig ["labels"])
  let parser ← (datasetParser labels (setting "parser" (.str "en")) (setting "unk_index" (.int (-1)))
    (setting "blank_index" (.int (-1))) (setting "normalize" (.bool false)))
  let value := parserData (if labels.isNull then Data.strs parser.labels else labels) parser
  Method.setAttr "_parser" value
  pure value

def parserOfData (v : Data) : Option CharParser := do
  let kind ← match className? v with
    | some "CharParser" => some ParserKind.plain
    | some "ENCharParser" => some ParserKind.english
    | _ => none
  let field (k : String) : Data := ((attr v k).toOption.getD .null)
  pure { labels := parserLabels (plain (field "_labels")), kind
         unkId := wholeSetting (field "_unk_id") (-1), blankId := wholeSetting (field "_blank_id") (-1)
         normalize := (field "_do_normalize").truthy, lowercase := (field "_do_lowercase").truthy }

/-- The `parser` property of `Tacotron2Model`; a parser object answers calls on texts. -/
def synthesisParserCallee : Callee := fun r => do
  let reply ← method "Tacotron2Model.parser" [] (fun _ => synthesisParser) r
  match parserOfData reply.value with
  | some p => pure { reply with act := charParserAct p }
  | none => pure reply

/-! ## Translation loaders -/

/-- An entry of a configuration as `get` reads it: the default when it is missing. -/
def sectionGet (cfg : Data) (key : String) (default : Data) : Data :=
  match tagged? cfg "$cfg" with
  | some (.dict kvs) => ((kvs.lookup key).map asSection).getD default
  | _ => default

def pathText (d : Data) : Result String :=
  match plain d with
  | .str s => .ok (FileSystem.display s)
  | other => .error (.notPath other.kindName)

def prependedToken (idx : Nat) : Method Data := do
  match (plain (← Method.attr "multilingual_ids")).items[idx]? with
  | some t => pure t
  | none => throw .listIndex

/-- A translation dataset of a source and a target file, batched: the settings it is made with
are read first, then each file is read and tokenized, and the pairs are cleaned when asked; a
pair left makes a batch, which fails at padding. -/
def batchedTranslation (setting : Data) (idx : Nat) (src tgt : Data) : Method Unit := do
  let srcPath ← pathText src
  let tgtPath ← pathText tgt
  let _ ← configAt setting ["tokens_in_batch"]
  let _ ← prependedToken idx
  let get (k : String) (d : Data) : Data := plain (sectionGet setting k d)
  let srcIds ← linesIds (← Method.attr "encoder_tokenizer") (← (Work.readLines srcPath))
  let tgtIds ← linesIds (← Method.attr "decoder_tokenizer") (← (Work.readLines tgtPath))
  let left ← (pairsLeft (get "clean" (.bool false)).truthy (get "max_seq_length" (.int 512))
    (get "min_seq_length" (.int 1)) (get "max_seq_length_diff" (.int 512)) (get "max_seq_length_ratio" (.int 512))
    srcIds tgtIds)
  if left > 0 then Method.fail removedIntegerAlias

/-- The items a multilingual setting gives: a sequence's items or a text's characters. -/
def settingItems (d : Data) : Result (List Data) :=
  match plain d with
  | .list xs => .ok xs
  | .str s => .ok (s.toList.map fun c => Data.str (String.singleton c))
  | other => .error (.type s!"object of type {Text.quote other.kindName} has no len()")

/-- The files a translation setting names under a key: one file, or a sequence of files for a
multilingual model. -/
def translationFiles (setting : Data) (key : String) (multilingual : Bool) : Method (List Data) := do
  let v ← configAt setting [key]
  if multilingual then (settingItems v) else pure [v]

/-- Tarred translation data: each metadata file (one, or one per language of a multilingual
model) must be there and name the archives unless the setting does; the dataset then reads its
shards, which needs the web dataset library. -/
def tarredTranslation (setting : Data) : Method Unit := do
  let metadata := plain (sectionGet setting "metadata_file" .null)
  if metadata.isNull then
    Method.fail ⟨"FileNotFoundError", "Trying to use tarred data set but could not find metadata path in config."⟩
  let multilingual := (← Method.attr "multilingual").truthy
  let files ← if multilingual then (settingItems metadata) else pure [metadata]
  for (file, idx) in files.zipIdx do
    let path ← match file with
      | .str p => pure p
      | other => throw (.notPath other.kindName)
    let document ← match Json.loads? (← (Work.readFile path)) with
      | some m => pure m
      | none => Method.fail Service.notJson
    let tarFiles := plain (sectionGet setting "tar_files" .null)
    if tarFiles.isNull then
      let named ← match document with
        | .dict kvs => pure ((kvs.lookup "tar_files").getD .null)
        | other => Method.fail (noAttribute other.kindName "get")
      if named.isNull then Method.fail ⟨"FileNotFoundError", "Could not find tarred dataset in config or metadata."⟩
    else if multilingual then
      if (← settingItems tarFiles)[idx]?.isNone then throw .listIndex
    let _ ← prependedToken idx
    let strategy := plain (sectionGet setting "shard_strategy" (.str "scatter"))
    if !(strategy == .str "scatter" || strategy == .str "replicate") then
      throw (.value "\x60shard_strategy\x60 must be one of ['scatter', 'replicate']")
    if document.get? "num_batches" |>.isNone then throw (.key "'num_batches'")
    Method.fail (.unavailable "webdataset")

/-- `MTEncDecModel._setup_dataloader_from_config`: tarred data, or as many source as target
files, each pair batched; the loader needs the tensor library. -/
def translationLoader : Callee :=
  method "MTEncDecModel._setup_dataloader_from_config" [req "cfg"] fun vals => do
    let cfg := arg vals 0
    if (plain (sectionGet cfg "use_tarred_dataset" (.bool false))).truthy then tarredTranslation cfg
    let multilingual := (← Method.attr "multilingual").truthy
    let srcs ← translationFiles cfg "src_file_name" multilingual
    let tgts ← translationFiles cfg "tgt_file_name" multilingual
    if srcs.length != tgts.length then
      throw (.value
        "The same number of filepaths must be passed in for source and target while training multilingual.")
    for (src, idx) in srcs.zipIdx do
      batchedTranslation cfg idx src (tgts.getD idx .null)
    if multilingual then
      let _ ← Sampling.ofName (plain (sectionGet cfg "concat_sampling_technique" .null)) .null .null
      if srcs.isEmpty then throw .listIndex
    else
      let _ ← configAt cfg ["shuffle"]
    Method.fail .noTorch

/-- The evaluation files a setting names under a key: a text names one, a sequence several. -/
def evaluationFiles (d : Data) (key : String) : Result (List Data) :=
  match d with
  | .str _ => .ok [d]
  | .dict [("$cfg", .list xs)] => .ok xs
  | _ => .error (.value s!"cfg.{key} must be string or list of strings")

/-- `MTEncDecModel._setup_eval_dataloader_from_config`: both file settings, as many of
each, every pair batched for its own loader. -/
def evaluationTranslationLoader : Callee :=
  method "MTEncDecModel._setup_eval_dataloader_from_config" [req "cfg"] fun vals => do
    let cfg := arg vals 0
    let src := sectionGet cfg "src_file_name" .null
    let tgt := sectionGet cfg "tgt_file_name" .null
    if src.isNull || tgt.isNull then
      throw (.value "Validation dataloader needs both cfg.src_file_name and cfg.tgt_file_name to not be None.")
    let srcs ← evaluationFiles src "src_file_name"
    let tgts ← evaluationFiles tgt "tgt_file_name"
    if srcs.length != tgts.length then
      throw (.value "The same number of filepaths must be passed in for source and target validation.")
    for (file, idx) in srcs.zipIdx do
      let multilingual := (← Method.attr "multilingual").truthy
      batchedTranslation cfg (if multilingual then idx else 0) file (tgts.getD idx .null)
      let _ ← configAt cfg ["shuffle"]
      Method.fail .noTorch
    pure (.list [])

def textModelCallees : List (String × Callee) :=
  let tokens := "nemo.collections.nlp.models.token_classification."
  [(tokens ++ "token_classification_model:TokenClassificationModel.update_data_dir", labellerDataDir),
   (tokens ++ "token_classification_model:TokenClassificationModel.setup_training_data", labellerTraining),
   (tokens ++ "token_classification_model:TokenClassificationModel.setup_validation_data",
     labellerEvaluation "setup_validation_data" "validation_ds" "_validation_dl"),
   (tokens ++ "token_classification_model:TokenClassificationModel.setup_test_data",
     labellerEvaluation "setup_test_data" "test_ds" "_test_dl"),
   (tokens ++ "token_classification_model:TokenClassificationModel.add_predictions", addPredictions),
   (tokens ++ "token_classification_model:TokenClassificationModel.evaluate_from_file", evaluateFromFile),
   (tokens ++ "punctuation_capitalization_model:PunctuationCapitalizationModel.update_data_dir", punctuationDataDir),
   (tokens ++ "punctuation_capitalization_model:PunctuationCapitalizationModel.setup_training_data",
     punctuationTraining),
   ("nemo.collections.nlp.models.intent_slot_classification.intent_slot_classification_model:" ++
     "IntentSlotClassificationModel._set_defaults_data_desc", defaultDescription),
   ("nemo.collections.nlp.models.intent_slot_classification.intent_slot_classification_model:" ++
     "IntentSlotClassificationModel._set_data_desc_to_cfg", descriptionToConfig),
   ("nemo.collections.nlp.models.intent_slot_classification.intent_slot_classification_model:" ++
     "IntentSlotClassificationModel._save_label_ids", saveLabelIds),
   ("nemo.collections.nlp.models.intent_slot_classification.intent_slot_classification_model:" ++
     "IntentSlotClassificationModel.update_data_dir_for_testing", testingDataDir),
   ("nemo.collections.nlp.models.glue_benchmark.glue_benchmark_model:GLUEModel.update_data_dir", benchmarkDataDir),
   ("nemo.collections.nlp.models.information_retrieval.base_ir_model:BaseIRModel.calculate_mean_reciprocal_rank",
     meanReciprocalRank),
   ("nemo.collections.nlp.models.duplex_text_normalization.utils:is_url", isUrlCallee),
   ("nemo.collections.nlp.models.duplex_text_normalization.duplex_tagger:DuplexTaggerModel.decode_tag_preds",
     decodeTagPreds),
   ("nemo.collections.nlp.models.duplex_text_normalization.duplex_decoder:DuplexDecoderModel.postprocess_output_spans",
     postprocessSpans),
   ("nemo.collections.tts.models.tacotron2:Tacotron2Model.parser.fget", synthesisParserCallee),
   ("nemo.collections.nlp.models.machine_translation.mt_enc_dec_model:MTEncDecModel._setup_dataloader_from_config",
     translationLoader),
   ("nemo.collections.nlp.models.machine_translation.mt_enc_dec_model:" ++
     "MTEncDecModel._setup_eval_dataloader_from_config", evaluationTranslationLoader)]

end Conversa.Callees
