import Conversa.Callees.LabelledAudio
import Conversa.Callees.Models
import Conversa.Config.Interpolation

/-!
# The data methods of speech models

Speech models set up a loader for each stage from a configuration of its data: training data
are shuffled unless said otherwise, the configuration is kept in the model's own
(`Method.updateDatasetConfig`), and for tarred training data a fractional batch limit becomes a
whole number of batches.  Audio classifiers, transducer models (which name their loss) and
speaker models add their own settings; transcribing no audio gives no transcripts.
-/

namespace Conversa.Callees

open Entry Speech

/-- The stages a model loads data for. -/
inductive Stage where
  | training
  | validation
  | test
deriving DecidableEq, Repr

def Stage.name : Stage → String
  | .training => "train"
  | .validation => "validation"
  | .test => "test"

def Stage.loaderAttr : Stage → String
  | .training => "_train_dl"
  | .validation => "_validation_dl"
  | .test => "_test_dl"

/-- Whether a stage shuffles its data when the configuration does not say. -/
def Stage.shuffles : Stage → Bool
  | .training => true
  | _ => false

def Stage.param : Stage → String
  | .training => "train_data_config"
  | .validation => "val_data_config"
  | .test => "test_data_config"

def Stage.setupName : Stage → String
  | .training => "setup_training_data"
  | .validation => "setup_validation_data"
  | .test => "setup_test_data"

/-- An entry of a configuration: a missing key fails as a configuration object or a mapping fails,
a configuration in struct mode saying so. -/
def configItem (cfg : Data) (k : String) (struct : Bool) : Result Data :=
  match tagged? cfg "$cfg" with
  | some inner =>
    match inner.entries.lookup k with
    | some v => .ok v
    | none => .error (Config.located "ConfigKeyError" (if struct then s!"Key '{k}' is not in struct" else s!"Missing key {k}") k "dict")
  | none =>
    match cfg with
    | .dict kvs =>
      match kvs.lookup k with
      | some v => .ok v
      | none => .error (.key (Text.quote k))
    | other => .error (.type s!"'{other.kindName}' object is not subscriptable")

def configHolds (cfg : Data) (k : String) : Result Bool := Data.holds (plain cfg) (.str k)

/-- An entry of a configuration, or a default. -/
def configGet (cfg : Data) (k : String) (default : Data) : Data := ((plain cfg).entries.lookup k).getD default

def roundedBy (f : Numeric.Scalar → Except Numeric.ArithError Numeric.Scalar) (d : Data) : Result Data :=
  match d.scalar? with
  | some s => Data.arith (f s)
  | none => .error (.type s!"must be real number, not {d.kindName}")

/-- The whole number of batches a fractional limit allows: the limit times the batches each worker
reads, rounded up, and the product cut to a whole number. -/
def batchLimit (limit : Data) (samples : Nat) (workers batchSize : Data) : Result Data := do
  let perWorker ← Data.divide (.int samples) workers
  let batches ← roundedBy Numeric.Scalar.ceil (← Data.divide perWorker batchSize)
  roundedBy Numeric.Scalar.intOf (← Data.times limit batches)

/-- Sets up the loader of a stage from the configuration given as the first argument after the
model: the configuration gets its shuffling, is kept, and is handed to the model's loader maker
(`own` when the model holds none of its own). -/
def Method.setupStage (stage : Stage) (own : Data → Method Data) : Method Unit := do
  let config := (← get).args.headD .null
  let config ← if ← (configHolds config "shuffle") then pure config else do
    let c := setConfigEntry config "shuffle" (.bool stage.shuffles)
    Method.setArgument 0 c
    pure c
  let _ ← Method.callOwn "_update_dataset_config" [] [("dataset_name", .str stage.name), ("config", config)] do
    Method.updateDatasetConfig (.str stage.name) config
    pure .null
  let loader ← Method.callOwn "_setup_dataloader_from_config" [] [("config", config)] (own config)
  Method.setAttr stage.loaderAttr loader
  if stage != .training then return
  if !(← configHolds config "is_tarred") then return
  if (← configItem config "is_tarred" false).truthy then
    let trainer ← Method.attr "_trainer"
    let limit ← attr trainer "limit_train_batches"
    if let .float _ := limit then
      let dataset ← attr loader "dataset"
      let samples ← Data.size (plain dataset)
      let workers ← Method.attr "world_size"
      let batchSize ← configItem config "batch_size" false
      let whole ← batchLimit limit samples workers batchSize
      Method.setAttr "_trainer" (setAttr trainer "limit_train_batches" whole)

/-- A stage's setup method of a model, whose own loader maker is `own`. -/
def stageSetup (cls : String) (stage : Stage) (own : Data → Method Data) : Callee :=
  method s!"{cls}.{stage.setupName}" [req stage.param] fun _ => do
    Method.setupStage stage own
    pure .null

def tensorLoader (_ : Data) : Method Data := Method.fail .noTorch

/-- The loader of an audio classifier for a configuration already marked as a regression or
not: none when a manifest or the archives are missing or frames would stream from tarred data;
otherwise the dataset is made, and its loader needs the tensor library. -/
def Method.classifierLoader (config : Data) : Method Data := do
  if ← (configHolds config "augmentor") then
    match plain (← configItem config "augmentor" true) with
    | .null => pure ()
    | .dict kvs => if className? (.dict kvs) != some "AudioAugmentor" then discard <| Method.work (pipelineOf kvs)
    | _ => throw (.value "Cannot parse augmenter. Must be a dict or an AudioAugmentor object ")
  let _ ← configItem config "sample_rate" true
  let shuffle ← configItem config "shuffle" true
  let given (k : String) : Method Bool := (configHolds config k)
  let isNull (k : String) : Method Bool := do
    if ← given k then pure (← configItem config k true).isNull else pure false
  let get (k : String) (d : Data) : Data := configGet config k d
  let streams ← if ← given "vad_stream" then do pure (← configItem config "vad_stream" true).truthy
    else pure false
  let datasetArgs (speech : Bool) : Entries :=
    [("manifest_filepath", get "manifest_filepath" .null), ("labels", get "labels" .null),
     ("featurizer", objectData "WaveformFeaturizer" []), ("max_duration", get "max_duration" .null),
     ("min_duration", get "min_duration" .null), ("trim", get "trim_silence" (.bool false))] ++
    (if speech then [("time_length", get "time_length" (.float 0.31)), ("shift_length", get "shift_length" (.float 0.01)),
      ("normalize_audio", get "normalize_audio" (.bool false))]
     else [("is_regression_task", get "is_regression_task" (.bool false))])
  if (get "is_tarred" (.bool false)).truthy then
    if (← isNull "tarred_audio_filepaths") || (← isNull "manifest_filepath") then return .null
    if streams then return .null
    if shuffle.truthy && !(← given "shuffle_n") then
      let _ ← configItem config "batch_size" true
    let _ ← configItem config "tarred_audio_filepaths" true
    let _ ← configItem config "manifest_filepath" true
    let _ ← configItem config "labels" true
    let _ ← (tarredLabelCallee false { args := ⟨[], [("audio_tar_filepaths", get "tarred_audio_filepaths" .null)] ++
      (datasetArgs false).filter (·.1 != "is_regression_task") ++
      [("shard_strategy", get "tarred_shard_strategy" (.str "scatter")), ("is_regression_task", get "is_regression_task" (.bool false))]⟩ })
    tensorLoader config
  else
    if ← isNull "manifest_filepath" then return .null
    let _ ← configItem config "manifest_filepath" true
    let _ ← configItem config "labels" true
    if streams then
      let _ ← (labelledAudioCallee "AudioToSpeechLabelDataset" true { args := ⟨[], datasetArgs true⟩ })
    else
      let _ ← configItem config "batch_size" true
      let _ ← (labelledAudioCallee "AudioToClassificationLabelDataset" false { args := ⟨[], datasetArgs false⟩ })
    tensorLoader config

/-- A classifier's configuration of a loader, marked as a regression or not as the model is. -/
def Method.markRegression (config : Data) : Method Data := do
  pure (setConfigEntry config "is_regression_task" (← Method.attr "is_regression_task"))

def classifierLoaderCallee : Callee :=
  method "_EncDecBaseModel._setup_dataloader_from_config" [req "config"] fun vals => do
    let config ← Method.markRegression (arg vals 0)
    Method.setArgument 0 config
    Method.classifierLoader config

def ownClassifierLoader (config : Data) : Method Data := do
  Method.classifierLoader (← Method.markRegression config)

/-- `_update_decoder_config`: the decoder gets one output per label, or for
regression one output in all; a decoder configured through its parameters gets it there. -/
def decoderUpdate (cls : String) (regression : Bool) : Callee :=
  method s!"{cls}._update_decoder_config" [req "labels", req "cfg"] fun vals => do
    let cfg := arg vals 1
    let some inner := tagged? cfg "$cfg" | throw (noAttribute cfg.kindName "_set_flag")
    let count ← if regression then pure 1 else (Data.size (plainArg vals 0))
    let inner := match inner.entries.lookup "params" with
      | some params => inner.set "params" (params.set "num_classes" (.int count))
      | none => inner.set "num_classes" (.int count)
    Method.setArgument 1 (.dict [("$cfg", inner)])
    pure .null

/-- `transcribe`: no audio gives `empty`; transcribing audio needs
the tensor library. -/
def emptyTranscription (name : String) (params : List Entry.Param) (empty : Data) : Callee :=
  method name (req "paths2audio_files" :: params) fun vals => do
    let files := plainArg vals 0
    if files.isNull then return empty
    if (← Data.size files) == 0 then return empty
    Method.fail .noTorch

/-- `test_dataloader`: the test loader, when there is one. -/
def testLoaderCallee (cls : String) : Callee :=
  method s!"{cls}.test_dataloader" [] fun _ => do
    let loader ← Method.attr "_test_dl"
    pure (if loader.isNull then .null else loader)

def defaultTransducerLoss : String := "warprnnt_numba"

/-- `EncDecRNNTModel.extract_rnnt_loss_cfg`: the loss named by `loss_name` (the
default when not named) and the settings under that name followed by `_kwargs`. -/
def transducerLossCallee : Callee :=
  method "EncDecRNNTModel.extract_rnnt_loss_cfg" [req "cfg"] fun vals => do
    let cfg := plainArg vals 0
    let cfg := if cfg.isNull then Data.dict [] else cfg
    let name := configGet cfg "loss_name" (.str "default")
    let name := if name.same (.str "default") then Data.str defaultTransducerLoss else name
    pure (.list [name, configGet cfg s!"{name.text}_kwargs" .null])

/-- `EncDecSpeakerLabelModel.setup_finetune_model`: sets up the training data,
which must bring labels, then the other stages given, and checks that the decoder has one output
for each label before it is replaced. -/
def finetuneCallee : Callee :=
  method "EncDecSpeakerLabelModel.setup_finetune_model" [req "model_config"] fun vals => do
    let cfg := arg vals 0
    let section? (k : String) : Option Data := ((plain cfg).entries.lookup k).filter (!·.isNull)
    let some train := section? "train_ds"
      | throw (.key (Text.quote "train_ds is not found in model_config but you need it for fine tuning"))
    let _ ← Method.callOwn "setup_training_data" [train] [] (tensorLoader train)
    let labels ← readPath (← Method.this) "dataset.labels"
    let empty ← if labels.isNull then pure true else do pure ((← Data.size (plain labels)) == 0)
    if empty then
      throw (.value s!"New labels must be non-empty list of labels. But I got: {labels.show}")
    if let some v := section? "validation_ds" then
      let _ ← Method.callOwn "setup_multiple_validation_data" [v] [] (tensorLoader v)
    if let some t := section? "test_ds" then
      let _ ← Method.callOwn "setup_multiple_test_data" [t] [] (tensorLoader t)
    let some decoder := (plain cfg).entries.lookup "decoder"
      | throw (Config.located "ConfigAttributeError" "Missing key decoder" "decoder" "dict")
    let classes ← configItem (.dict [("$cfg", plain decoder)]) "num_classes" false
    let count ← Data.size (plain labels)
    if !(classes.same (.int count)) then
      throw (.value s!"number of classes provided {classes.text} is not same as number of different labels in finetuning data: {count}")
    let _ ← Method.attr "decoder"
    Method.fail .noTorch

def unknownTokenizerKind : Failure :=
  .value ("\x60tokenizer.type\x60 must be either \x60bpe\x60 for SentencePiece tokenizer or " ++
    "\x60wpe\x60 for BERT based tokenizer")

/-- A path a model registers as an artifact of its own: what the model's registrar gives back. -/
def registeredPath (key : String) (path : Data) : Work Data := do
  let (answer, self) ← invokeIn (← Work.this) ["register_artifact"] [.str key, path] []
  Work.setThis self
  pure answer

/-- `ASRBPEMixin._setup_tokenizer`: the settings less directory, kind and keyword
arguments, kept apart (the kind lower-cased) and written back to the model's tokenizer section if
any.  The kind is `bpe` or `wpe`; the files are registered as artifacts, a sentence-piece model
must exist, and the tokenizer needs its library.  A failure leaves the model as far as it got. -/
def tokenizerSetupCallee : Callee := fun r => do
  let vals ← (Arguments.bind r.args.intake
    "ASRBPEMixin._setup_tokenizer" [req "self", req "tokenizer_cfg"])
  Work.setThis (arg vals 0)
  let given := arg vals 1
  let keep (k : String) (v : Data) : Work Unit := do Work.setThis (setAttr (← Work.this) k v)
  let settings ← match given with
    | .dict [("$cfg", inner)] => Config.resolveAll inner
    | _ => throw (.value "Input cfg is not an OmegaConf config object")
  let entries := settings.entries
  keep "tokenizer_cfg" (.dict entries)
  let some dir := entries.lookup "dir" | throw (.key "'dir'")
  let entries := entries.filter (·.1 != "dir")
  keep "tokenizer_cfg" (.dict entries)
  let some kind := entries.lookup "type" | throw (.key "'type'")
  let entries := entries.filter (·.1 != "type")
  keep "tokenizer_cfg" (.dict entries)
  let kind ← match kind with
    | .str k => pure (Text.lower k)
    | other => throw (noAttribute other.kindName "lower")
  keep "tokenizer_dir" dir
  keep "tokenizer_type" (.str kind)
  let entries' := entries.filter (·.1 != "hf_kwargs")
  keep "tokenizer_cfg" (.dict entries')
  keep "hf_tokenizer_kwargs" ((entries.lookup "hf_kwargs").getD (.dict []))
  let entries := entries'
  -- the model's own configuration keeps the directory, the kind and the keyword arguments
  match attrsOf (← Work.this) |>.lookup "_cfg" with
  | some (.dict [("$cfg", .dict own)]) =>
    match own.lookup "tokenizer" with
    | some (.dict section_) =>
      let section_ := Config.setEntry (Config.setEntry section_ "dir" dir) "type" (.str kind)
      let section_ := match given with
        | .dict [("$cfg", .dict g)] => match g.lookup "hf_kwargs" with
          | some hf => Config.setEntry section_ "hf_kwargs" hf
          | none => section_
        | _ => section_
      keep "_cfg" (.dict [("$cfg", .dict (Config.setEntry own "tokenizer" (.dict section_)))])
    | _ => pure ()
  | _ => pure ()
  if kind != "bpe" && kind != "wpe" then throw unknownTokenizerKind
  let dirText := dir.text
  if kind == "bpe" then
    let modelPath ← registeredPath "tokenizer.model_path"
      ((entries.lookup "model_path").getD (.str (FileSystem.join dirText "tokenizer.model")))
    keep "model_path" modelPath
    if !modelPath.truthy || !(← Work.pathExists modelPath.text) then
      let shown := modelPath.text
      throw (.value s!"model_path: {shown} is invalid")
    throw (.unavailable "sentencepiece")
  else
    let vocabPath ← registeredPath "tokenizer.vocab_path"
      ((entries.lookup "vocab_path").getD (.str (FileSystem.join dirText "vocab.txt")))
    keep "vocab_path" vocabPath
    keep "tokenizer_cfg" (.dict (entries.filter (·.1 != "vocab_path")))
    throw (.unavailable "transformers")

def speechModelCallees : List (String × Callee) :=
  let asr := "nemo.collections.asr.models."
  let textModels := [("ctc_models", "EncDecCTCModel", "EncDecCTCModel"), ("ctc_bpe_models", "EncDecCTCModelBPE", "EncDecCTCModel"),
    ("rnnt_models", "EncDecRNNTModel", "EncDecRNNTModel"), ("rnnt_bpe_models", "EncDecRNNTBPEModel", "EncDecRNNTModel")]
  let classifiers := [("EncDecClassificationModel", false), ("EncDecRegressionModel", true)]
  let stages := [Stage.training, .validation, .test]
  (textModels.flatMap fun (file, cls, owner) =>
    let key := s!"{asr}{file}:{cls}."
    (stages.map fun s => (key ++ s.setupName, stageSetup owner s tensorLoader)) ++
    [(key ++ "test_dataloader", testLoaderCallee owner),
     (key ++ "transcribe", emptyTranscription s!"{owner}.transcribe"
        (if owner == "EncDecCTCModel" then [opt "batch_size" (.int 4), opt "logprobs" (.bool false), opt "return_hypotheses" (.bool false)]
         else [opt "batch_size" (.int 4), opt "return_hypotheses" (.bool false)]) (.dict []))] ++
    (if owner == "EncDecRNNTModel" then [(key ++ "extract_rnnt_loss_cfg", transducerLossCallee)] else [])) ++
  (classifiers.flatMap fun (cls, regression) =>
    let key := s!"{asr}classification_models:{cls}."
    (stages.map fun s => (key ++ s.setupName, stageSetup "_EncDecBaseModel" s ownClassifierLoader)) ++
    [(key ++ "test_dataloader", testLoaderCallee "_EncDecBaseModel"),
     (key ++ "_setup_dataloader_from_config", classifierLoaderCallee),
     (key ++ "_update_decoder_config", decoderUpdate cls regression),
     (key ++ "transcribe", emptyTranscription s!"{cls}.transcribe"
        (if regression then [opt "batch_size" (.int 4)] else [opt "batch_size" (.int 4), opt "logprobs" (.bool false)]) (.list []))]) ++
  [(asr ++ "label_models:EncDecSpeakerLabelModel.setup_finetune_model", finetuneCallee),
   ("nemo.collections.asr.parts.mixins.mixins:ASRBPEMixin._setup_tokenizer", tokenizerSetupCallee)]

end Conversa.Callees
