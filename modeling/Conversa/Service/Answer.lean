import Conversa.Config.Datasets
import Conversa.Settings.Environment
import Conversa.Transcript.Numbers
import Conversa.Transcript.Abbreviations
import Conversa.Transcript.Symbols
import Conversa.Speech.Synthesis
import Conversa.Service.Schedules
import Conversa.Service.Normalization
import Conversa.Service.Tracker
import Conversa.Service.Comprehension
import Conversa.Service.ConfigObjects

/-!
# Answering requests

The toolkit's capabilities are reachable as requests: a mapping whose field `op` names the
capability and whose other fields are its arguments.  `answer` dispatches on `op` through the
table `handlers`, and answers a batch of requests one by one; `answerLine` reads a request from one line of JSON text and writes the answer
as one line.
-/

/-!
## Interface requests

A request names a module by its dotted name or a script by its path, and is answered with the
definitions loading it makes, or with the failure that stops it.
-/

namespace Conversa.Service

def moduleApi (req : Data) : Result Data := do
  let loaded ← match req.getD "module", req.getD "path" with
    | .str name, _ => pure (Interface.loadModule name)
    | _, .str path => pure (Interface.loadScript path)
    | _, _ => throw (badField "module")
  match loaded with
  | .ok m => pure (.dict [("api", m.describe)])
  | .error f => throw f

end Conversa.Service

/-!
## Configuration requests

* `config_update` brings a configuration to the current layout, reading a document first when it
  is given as text, and resolves its interpolations;
* `dataset_name` names a data file, or finds the data key of a data-set section, in a working
  directory holding the request's `files`.
-/

namespace Conversa.Service

open FileSystem

/-- `config_update {config}`. -/
def configUpdate (req : Data) : Result Data := do
  let cfg ← match req.getD "config" with
    | .str doc => do
      match ← Config.readYaml doc with
      | .null => pure (Data.dict [])
      | .str s => pure (Data.dict [(s, .null)])
      | d@(.dict _) | d@(.list _) => pure d
      | _ => throw (.assertion "")
    | other => pure other
  let updated ← match cfg with
    | .dict _ => Config.upgrade cfg
    | other => pure other
  let updated ← match updated with
    | .dict _ | .list _ => Config.resolveAll updated
    | other => pure other
  pure (.dict [("config", updated)])

/-- `dataset_name {name, files}` or `dataset_name {cfg, files}`. -/
def datasetName (req : Data) : Result Data := do
  let t ← treeField req
  match req.get? "cfg" with
  | some cfg => pure (.dict [("key", Config.datasetKey t cfg.entries)])
  | none => pure (.dict [("name", .str (← Config.datasetName t (← textField req "name")))])

end Conversa.Service

/-!
## Environment requests

A request sets one variable (or unsets it, for a null value) and reads it back through one of
the setting readers, passing the given defaults.  Decimals are answered as `{"decimal": text}`
and dates as `{"iso": text}`.
-/

namespace Conversa.Service

open Settings

def conversionOf (func : String) (separator : String) : Result Conversion :=
  match func with
  | "get_env" => .ok .text
  | "get_envbool" => .ok .bool
  | "get_envint" => .ok .int
  | "get_envfloat" => .ok .float
  | "get_envdecimal" => .ok .decimal
  | "get_envdate" => .ok .date
  | "get_envdatetime" => .ok .datetime
  | "get_envlist" => .ok (.list separator)
  | "get_envdict" => .ok .json
  | f => .error ⟨"AttributeError", s!"module 'nemo.utils.env_var_parsing' has no attribute '{f}'"⟩

def settingData : Setting → Data
  | .data d => d
  | .decimal d => .dict [("decimal", .str d.text)]
  | .date t => .dict [("iso", .str t.dateText)]
  | .timestamp t => .dict [("iso", .str t.text)]

def env (req : Data) : Result Data := do
  let key ← textField req "key"
  let value ← match req.getD "value" with
    | .null => pure none
    | .str v => pure (some v)
    | _ => throw (badField "value")
  let separator ← match req.getD "separator" with
    | .null => pure " "
    | .str s => pure s
    | _ => throw (badField "separator")
  let conv ← conversionOf (← textField req "func") separator
  let defaults := (req.getD "default").items
  let lookup (k : String) : Option String := if k == key then value else none
  pure (.dict [("value", settingData (← readSetting lookup key conv defaults))])

end Conversa.Service

/-!
## Transcript requests

Cleaning steps for speech transcripts, each on a text: spelling out numerals, writing out
abbreviations, replacing symbols by words, and naming whole numbers for inverse normalization.
-/

namespace Conversa.Service

open Transcript

/-- A whole number named with spaces for hyphens and without commas; any other value is
returned as it is.  A truth value is a whole number whose numeral has no digits. -/
def itnNumToWord (req : Data) : Result Data := do
  let numeral := match req.getD "x" with
    | .int n => some (toString n)
    | .bool b => some (if b then "True" else "False")
    | _ => none
  match numeral with
  | some s => do
    let w ← English.numberWords s
    pure (.dict [("result", .str ((w.replace "-" " ").replace "," ""))])
  | none => pure (.dict [("result", req.getD "x")])

def cleanNumbers (req : Data) : Result Data := do
  pure (.dict [("text", .str (← spellNumerals (← textField req "text")))])

def cleanAbbreviations (req : Data) : Result Data := do
  let text ← textField req "text"
  let version ← match req.getD "version" with
    | .null => pure none
    | .str v => pure (some v)
    | _ => throw (badField "version")
  let list ← abbreviationsFor version
  pure (.dict [("text", .str (expandAbbreviations list text))])

/-- A transcript with its symbols replaced by words and then translated by a table. -/
def cleanPunctuations (req : Data) : Result Data := do
  let text ← textField req "text"
  let pairs ← (← fieldEntries req "replace").mapM fun (k, v) => match v with
    | .str w => pure (k, w)
    | _ => throw (badField "replace")
  let text ← replaceSymbols pairs text
  let text ← match req.getD "table" with
    | .null => pure text
    | t@(.dict _) => do
      let part (name : String) : Result String := match t.getD name with
        | .str s => pure s
        | .null => pure ""
        | _ => throw (badField "table")
      let table ← TranslationTable.make (← part "from") (← part "to") (← part "delete")
      pure (table.apply text)
    | _ => throw (badField "table")
  pure (.dict [("text", .str text)])

end Conversa.Service

/-!
## Speech synthesis front end requests

`glow_tts {cmu, keep_ambiguous, calls}` builds the text front end, with the pronouncing
dictionary the lines of `cmu` make when they are given, and answers each call in turn.  A front
end that keeps only unambiguous words is built without a dictionary; the calls then look words up
in the unambiguous dictionary alone.
-/

namespace Conversa.Service

open Speech

def callText (call : Data) : Result String :=
  match call.getD "text" with
  | .str s => .ok s
  | other => .error ⟨"AttributeError", s!"'{other.kindName}' object has no attribute 'lower'"⟩

def synthesisCall (symbols : List String) (dict : Option PronouncingDictionary) (call : Data) :
    Result Data := do
  match (call.getD "m").text with
  | "text_to_sequence" =>
    let cleaners := (call.getD "cleaners").items.map Data.text
    let used := if (call.getD "use_dict").truthy then dict else none
    pure (Data.nats (← textToSequence symbols used cleaners (← callText call)))
  | "sequence_to_text" =>
    pure (.str (sequenceText symbols ((call.getD "seq").items.filterMap Data.int?)))
  | "lookup" =>
    match dict with
    | some d => pure (Data.opt Data.strs (d.lookup (call.getD "word").text))
    | none => throw ⟨"AttributeError", "'NoneType' object has no attribute 'lookup'"⟩
  | "cmu_len" =>
    match dict with
    | some d => pure (.int d.size)
    | none => throw (.type "object of type 'NoneType' has no len()")
  | name =>
    match Cleaner.ofName? name with
    | some c => pure (.str (← c.run (← callText call)))
    | none => throw ⟨"AttributeError", s!"'GlowTTSParser' object has no attribute {Text.quote name}"⟩

/-- `glow_tts {cmu, keep_ambiguous, calls}` → `{n_symbols, results}`. -/
def glowTts (req : Data) : Result Data := do
  let keep := flagField req "keep_ambiguous" true
  let dict ← match req.getD "cmu" with
    | .null => pure none
    | d => do pure (some (← PronouncingDictionary.ofText ("\n".intercalate (d.items.map Data.text) ++ "\n") keep))
  let withPhonemes := keep && dict.any (·.size > 0)
  let symbols := symbolsOf withPhonemes
  pure (.dict [("n_symbols", .int symbols.length),
    ("results", .list ((req.getD "calls").items.map fun c => resultEntry (synthesisCall symbols dict c)))])

end Conversa.Service

namespace Conversa.Service

def handlers : List (String × (Data → Result Data)) :=
  [("lr_schedule", lrSchedule), ("lr_fn", lrFn), ("compute_max_steps", computeMaxSteps),
   ("prepare_scheduler", prepareScheduler), ("sched_params", schedParams),
   ("optim_params", optimParams), ("registry", registry), ("config_update", configUpdate),
   ("dataset_name", datasetName), ("nt_compare", ntCompare), ("nt_build", ntBuild),
   ("nt_check", ntCheck), ("nt_port_name_error", ntPortNameError), ("axis_kind", axisKind),
   ("axis_repr", axisRepr), ("element_compare", elementCompare),
   ("typecheck", typecheckRequest), ("typecheck_meta", typecheckMeta),
   ("serialization", serializationRequest), ("tn_parse", tnParse),
   ("tn_permute", tnPermute), ("tn_load", tnLoad), ("tn_sentences", tnSentences),
   ("tn_tokens", tnTokens), ("tn_evaluate", tnEvaluate), ("tn_text", tnText),
   ("tn_filter", tnFilter), ("tn_load_labels", tnLoadLabels), ("itn_num_to_word", itnNumToWord),
   ("clean_numbers", cleanNumbers), ("clean_abbreviations", cleanAbbreviations),
   ("clean_punctuations", cleanPunctuations), ("env", env),
   ("vocab_phonemes", vocabPhonemes), ("vocab_chars", vocabChars), ("vocab_text", vocabText),
   ("tokenizer", tokenizerRequest), ("dp_func", dpFunc), ("label_ids", labelIds),
   ("text_cls", textCls), ("glue", glue), ("glue_features", glueFeatures),
   ("intent_slot_features", intentSlotFeatures), ("token_cls_features", tokenClsFeatures),
   ("punct_features", punctFeatures), ("token_cls_dataset", tokenClsDataset),
   ("punct_dataset", punctDataset), ("intent_slot_dataset", intentSlotDataset),
   ("intent_slot_desc", intentSlotDesc), ("mt_batches", mtBatches), ("lm_batches", lmBatches),
   ("l2r", l2r), ("ir_line", irLine), ("sgd_f1", sgdF1), ("sgd_noncat_match", sgdNoncatMatch),
   ("sgd_frame", sgdFrame), ("sgd_get_metrics", sgdGetMetrics), ("sgd_evaluate", sgdEvaluate),
   ("sgd_in_domain", sgdInDomain), ("sgd_schema", sgdSchema), ("sgd_truncate", sgdTruncate),
   ("sgd_state_update", sgdStateUpdate), ("sgd_examples", sgdExamples), ("sgd_processor", sgdProcessor),
   ("sgd_write_predictions", sgdWritePredictions), ("qa_text", qaText), ("qa_eval", qaEval),
   ("qa_best_indexes", qaBestIndexes), ("qa_file_examples", qaFileExamples), ("qa_features", qaFeatures),
   ("bytelevel", byteLevelRequest), ("fairseq_tokenize", englishTokensRequest), ("softmax", softmaxRequest),
   ("char_parser", charParserRequest), ("en_parser_table", englishTableRequest),
   ("text_collection", textCollection), ("asr_manifest", asrManifest),
   ("glow_tts", glowTts), ("call", callRequest),
   ("dp_files", dpFiles), ("module_api", moduleApi)]

def answerSingle (req : Data) : Data :=
  match req.get? "op" with
  | some (.str op) =>
    match handlers.find? (·.1 == op) with
    | some (_, h) => answerOf (h req)
    | none => unknownOp op
  | _ => unknownOp ""

/-- The answer to one request; a batch is answered request by request, and a batch inside a
batch is no request. -/
def answer (req : Data) : Data :=
  match req.get? "op" with
  | some (.str "batch") =>
    .dict [("answers", .list ((req.getD "requests").items.map fun r =>
      if r.get? "op" == some (.str "batch") then unknownOp "batch" else answerSingle r))]
  | _ => answerSingle req

/-- Whether an answer, or one answer of a batch, is the failure of a computation that never
ends. -/
def isEndless (d : Data) : Bool :=
  (d :: (d.getD "answers").items).any (·.getD "error" == .str Failure.endless.kind)

/-- What a computation that never ends answers: nothing, ever. -/
partial def noAnswer (n : Nat) : String := noAnswer (n + 1)

/-- The answer to one line of JSON text, as one line of JSON text. -/
def answerLine (line : String) : String :=
  match Json.parse? line with
  | some req => let d := answer req; if isEndless d then noAnswer 0 else Json.render d
  | none => Json.render (failureData ⟨"BadRequest", "the request is not a JSON document"⟩)

end Conversa.Service
