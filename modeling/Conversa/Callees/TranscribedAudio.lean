import Conversa.Callees.Perturbation
import Conversa.Callees.TranslationPairs
import Conversa.NeuralType.Object
import Conversa.Service.Manifests
import Conversa.Text.PercentFormat

/-!
# Datasets of transcribed audio

A dataset of transcribed audio reads a comma-separated list of manifests and keeps the
utterances within its duration limits whose transcripts its parser accepts, at most a given
number.  Each kept utterance is a row (number, file, duration, label numbers, offset, text,
speaker, rate); the dataset holds its parser, featurizer and special token numbers.
-/

namespace Conversa.Callees

open Entry Speech Conversa.Language NeuralType

/-- The labels a value gives: the characters of a text, or the texts of a sequence. -/
def parserLabels (d : Data) : List String :=
  match d with
  | .str s => s.toList.map String.singleton
  | other => other.items.map Data.text

/-- A character parser as an object: its labels, the numbers of unknown and blank labels, its
switches, the number of each label (the last position of a repeated label), its labels longer
than one character and, for English, the punctuation it blanks. -/
def parserData (labelsValue : Data) (p : CharParser) : Data :=
  let numbers := p.labels.zipIdx.foldl (fun (acc : Data) (l, i) => acc.set l (.int i)) (.dict [])
  let long := shown (.dict [("$set", Data.strs (p.labels.filter (·.length > 1)).eraseDups)])
  let common := [("_labels", labelsValue), ("_unk_id", .int p.unkId), ("_blank_id", .int p.blankId),
    ("_do_normalize", .bool p.normalize), ("_do_lowercase", .bool p.lowercase), ("_labels_map", numbers),
    ("_special_labels", long)]
  match p.kind with
  | .plain => objectData "CharParser" common
  | .english =>
    objectData "ENCharParser" (common ++
      [("_table", .dict ((englishBlanked p.labels).map fun c => (toString c.toNat, .int 32))),
       ("abbreviation_version", .null)])

/-- A featurizer of waveforms as an object, with a fresh augmentor when none is given. -/
def featurizerData (sampleRate intValues augmentor : Data) : Data :=
  let augmentor := if augmentor.isNull then
      objectData "AudioAugmentor" [("_rng", .dict [("repr", .str "<random.Random object at 0x0>")]), ("_pipeline", .list [])]
    else augmentor
  objectData "WaveformFeaturizer" [("augmentor", augmentor), ("int_values", intValues), ("sample_rate", sampleRate)]

def transcribedAudioPorts : List (String × NType) :=
  [("audio_signal", NType.ofKinds [.batch, .time] .audioSignal),
   ("a_sig_length", NType.ofKinds [.batch] .lengths),
   ("transcripts", NType.ofKinds [.batch, .time] .labels),
   ("transcript_length", NType.ofKinds [.batch] .lengths)]

def utteranceRow (u : Utterance) (ids : List Int) : Data :=
  .list [.int u.id, u.audioFile, u.duration, Data.ints ids, u.offset, u.text, u.speaker, u.origSampleRate]

/-- A whole number given as a setting, or its default. -/
def wholeSetting (d : Data) (default : Int) : Int :=
  match d with
  | .int n => n
  | .bool b => if b then 1 else 0
  | _ => default

/-- The character parser a dataset makes from its labels (printable characters when none are
given), the name of its kind, the numbers of the unknown and blank labels and whether it
normalizes. -/
def datasetParser (labelsValue name unk blank normalize : Data) : Result CharParser := do
  let kind ← match name with
    | .str n => match ParserKind.ofName? n with
      | some k => pure k
      | none => throw (.value "Invalid parser name.")
    | _ => throw (.value "Invalid parser name.")
  let labels := if labelsValue.isNull then Service.printableLabels else parserLabels labelsValue
  pure { labels, kind, unkId := wholeSetting unk (-1), blankId := wholeSetting blank (-1), normalize := normalize.truthy }

/-- The kept utterances of comma-separated manifests; `accept` gives an utterance's label numbers,
or none when its transcript cannot be read. -/
def transcribedRows (manifests : Data) (accept : Utterance → Result (Option (List Int)))
    (limits : SampleLimits) : Work (List Data) := do
  let files ← match manifests with
    | .str s => pure (s.splitOn ",")
    | other => throw (noAttribute other.kindName "split")
  let t ← Work.files
  let us ← readManifests t files (Utterance.read t)
  let (kept, _) ← collect limits (fun u => durationValue u.duration) (fun u => u.audioFile.text) accept us
  pure (kept.map fun (u, ids) => utteranceRow u ids)

def transcribedAudioAct (cls : String) (count : Nat) (step : Step) : Work Data := do
  let self ← Work.this
  match step with
  | .read "output_types" => pure (portsData transcribedAudioPorts)
  | .read path => readPath self path
  | .call "__len__" args => do
    let _ ← args.bind (cls ++ ".__len__") []
    pure (.int count)
  | .call name _ => Work.fail (noAttribute cls name)

def transcribedAudioCallee : Callee := fun r => do
  let vals ← (Arguments.bind r.args.intake
    "AudioToCharDataset.__init__"
    [req "manifest_filepath", req "labels", req "sample_rate", opt "int_values" (.bool false), opt "augmentor" .null,
     opt "max_duration" .null, opt "min_duration" .null, opt "max_utts" (.int 0), opt "blank_index" (.int (-1)),
     opt "unk_index" (.int (-1)), opt "normalize" (.bool true), opt "trim" (.bool false), opt "bos_id" .null,
     opt "eos_id" .null, opt "pad_id" (.int 0), opt "parser" (.str "en")])
  let arg := plainArg vals
  let labelsValue := arg 1
  let parser ← datasetParser labelsValue (arg 15) (arg 9) (arg 8) (arg 10)
  let labels := parser.labels
  let limits : SampleLimits :=
    { minDuration := (arg 6).num?, maxDuration := (arg 5).num?, maxNumber := (arg 7).int? }
  let rows ← transcribedRows (arg 0) (fun u => transcriptIds parser u.text) limits
  let shownLabels := if labelsValue.isNull then Data.strs labels else labelsValue
  let value := objectData "AudioToCharDataset"
    [("labels", labelsValue), ("parser", parserData shownLabels parser),
     ("collection", objectData "ASRAudioText" [("data", .list rows)]),
     ("featurizer", featurizerData (arg 2) (arg 3) (arg 4)), ("trim", arg 11), ("eos_id", arg 13),
     ("bos_id", arg 12), ("pad_id", arg 14)]
  pure { value, act := transcribedAudioAct "AudioToCharDataset" rows.length }

/-- `AudioToBPEDataset`: the
transcripts are read by a tokenizer, whose beginning and end tokens frame them when asked and it
has them, and whose padding token pads them when it has one. -/
def subwordAudioCallee : Callee := fun r => do
  let vals ← (r.args.bind "AudioToBPEDataset.__init__"
    [req "manifest_filepath", req "tokenizer", req "sample_rate", opt "int_values" (.bool false), opt "augmentor" .null,
     opt "max_duration" .null, opt "min_duration" .null, opt "max_utts" (.int 0), opt "trim" (.bool false),
     opt "use_start_end_token" (.bool true)])
  let arg := plainArg vals
  let tok ← tokenizerArg (vals.getD 1 .null) "text_to_ids"
  let has (r : Role) : Bool := tok.specials.any (·.1 == r)
  let framed := (arg 9).truthy
  let bos ← if framed && has .bos then do pure (Data.int (← tok.roleId .bos)) else pure .null
  let eos ← if framed && has .eos then do pure (Data.int (← tok.roleId .eos)) else pure .null
  let pad ← if has .pad then do pure (Data.int (← tok.roleId .pad)) else pure (.int 0)
  let limits : SampleLimits :=
    { minDuration := (arg 6).num?, maxDuration := (arg 5).num?, maxNumber := (arg 7).int? }
  let accept (u : Utterance) : Result (Option (List Int)) :=
    match u.text with
    | .str s => do pure (some ((← tok.textToIds s).map Int.ofNat))
    | other => .error (noAttribute other.kindName "strip")
  let rows ← transcribedRows (arg 0) accept limits
  let value := objectData "AudioToBPEDataset"
    [("parser", objectData "TokenizerWrapper" [("_tokenizer", tokenizerObject tok)]),
     ("collection", objectData "ASRAudioText" [("data", .list rows)]),
     ("featurizer", featurizerData (arg 2) (arg 3) (arg 4)), ("trim", arg 8), ("eos_id", eos),
     ("bos_id", bos), ("pad_id", pad)]
  pure { value, act := transcribedAudioAct "AudioToBPEDataset" rows.length }

/-- `make_vocab`: the character vocabulary cannot be made, and the phoneme vocabulary
needs a converter from words to phonemes. -/
def makeVocabularyCallee : Callee :=
  functionOf "make_vocab"
    [opt "notation" (.str "chars"), opt "punct" (.bool true), opt "spaces" (.bool false), opt "stresses" (.bool false),
     opt "chars" (.bool false), opt "add_blank_at" (.str "last_but_one"), opt "pad_with_space" (.bool false),
     opt "improved_version_g2p" (.bool false), opt "phoneme_dict_path" .null] fun v => do
    let scheme := plain (arg v 0)
    if scheme.same (.str "chars") then (Service.vocabChars .null)
    else if scheme.same (.str "phonemes") then throw (.unavailable "g2p")
    else throw (.value "Unsupported vocab type.")

def shardStrategies : List String := ["scatter", "replicate"]

def checkShardStrategy (d : Data) : Result Unit :=
  if shardStrategies.any fun s => d.same (.str s) then .ok ()
  else .error (.value "\x60shard_strategy\x60 must be one of ['scatter', 'replicate']")

/-- `TarredAudioToCharDataset`: the parser and the manifests
are read as for the plain dataset, the strategy is checked, and then the archives need the
streaming library. -/
def tarredCharCallee : Callee := fun r => do
  let vals ← (Arguments.bind r.args.intake
    "TarredAudioToCharDataset.__init__"
    [req "audio_tar_filepaths", req "manifest_filepath", req "labels", req "sample_rate", opt "int_values" (.bool false),
     opt "augmentor" .null, opt "shuffle_n" (.int 0), opt "min_duration" .null, opt "max_duration" .null,
     opt "max_utts" (.int 0), opt "blank_index" (.int (-1)), opt "unk_index" (.int (-1)), opt "normalize" (.bool true),
     opt "trim" (.bool false), opt "bos_id" .null, opt "eos_id" .null, opt "parser" (.str "en"), opt "pad_id" (.int 0),
     opt "shard_strategy" (.str "scatter"), opt "global_rank" (.int 0), opt "world_size" (.int 0)])
  let arg := plainArg vals
  let parser ← datasetParser (arg 2) (arg 16) (arg 11) (arg 10) (arg 12)
  let _ ← transcribedRows (arg 1) (fun u => transcriptIds parser u.text)
    { minDuration := (arg 7).num?, maxDuration := (arg 8).num?, maxNumber := (arg 9).int?, indexByFileId := true }
  checkShardStrategy (arg 18)
  throw (.unavailable "webdataset")

/-- `TarredAudioToBPEDataset`:
the transcripts are read by the tokenizer as for the plain dataset, the strategy is checked, and
then the archives need the streaming library. -/
def tarredSubwordCallee : Callee := fun r => do
  let vals ← (r.args.bind "TarredAudioToBPEDataset.__init__"
    [req "audio_tar_filepaths", req "manifest_filepath", req "tokenizer", req "sample_rate", opt "int_values" (.bool false),
     opt "augmentor" .null, opt "shuffle_n" (.int 0), opt "min_duration" .null, opt "max_duration" .null,
     opt "max_utts" (.int 0), opt "trim" (.bool false), opt "use_start_end_token" (.bool true),
     opt "shard_strategy" (.str "scatter"), opt "global_rank" (.int 0), opt "world_size" (.int 0)])
  let arg := plainArg vals
  let tok ← tokenizerArg (vals.getD 2 .null) "text_to_ids"
  let accept (u : Utterance) : Result (Option (List Int)) :=
    match u.text with
    | .str s => do pure (some ((← tok.textToIds s).map Int.ofNat))
    | other => .error (noAttribute other.kindName "strip")
  let _ ← transcribedRows (arg 1) accept
    { minDuration := (arg 7).num?, maxDuration := (arg 8).num?, maxNumber := (arg 9).int?, indexByFileId := true }
  checkShardStrategy (arg 12)
  throw (.unavailable "webdataset")

/-- Whether the filter of a tarred transcribed dataset keeps an archive sample: when the
collection knows its file id. -/
def keptSample (collection sample : Data) : Result Bool := do
  let (_, name) ← pairOf sample
  let file ← match name with
    | .str p => pure p
    | other => throw (.notPath other.kindName)
  let mapping ← attr collection "mapping"
  pure (mapping.entries.any (·.1 == fileId file))

/-- The archive samples the filter of a tarred transcribed dataset keeps, and the failure that
ends it early, if any. -/
def textFilterPass (collection : Data) : List Data → List Data × Option Failure
  | [] => ([], none)
  | s :: rest =>
    match keptSample collection s with
    | .error f => ([], some f)
    | .ok keep =>
      let (more, failure) := textFilterPass collection rest
      (if keep then s :: more else more, failure)

/-- `_TarredAudioToTextDataset._filter`: the filter over archive samples, read for
the number of items the request takes; it reads the samples as an iterator, once. -/
def textFilterCallee : Callee := fun r => do
  let vals ← (Arguments.bind r.args.intake
    "_TarredAudioToTextDataset._filter" [req "self", req "iterator"])
  let collection ← attr (arg vals 0) "collection"
  match (r.fields.getD "take").int? with
  | none => pure (.plain (objectData "TarredAudioFilter" []))
  | some n =>
    let source := arg vals 1
    let samples ← match iterableItems? source with
      | some (samples, true) => pure samples
      | _ => if n ≤ 0 then pure [] else throw (.type s!"{Text.quote source.kindName} object is not an iterator")
    let (items, failure) := textFilterPass collection samples
    pure (.plain (shown (.list (← takeStream n.toNat items failure false))))

/-- A setting of a configuration set, inside its configuration mark when it has one. -/
def withSetting (cfg : Data) (k : String) (v : Data) : Data :=
  match cfg with
  | .dict [("$cfg", inner)] => .dict [("$cfg", inner.set k v)]
  | other => other.set k v

/-- `inject_dataloader_value_from_model_config`: a setting of the
model's configuration is copied into a data loader's configuration, unless the data loader gives
a value of its own that differs. -/
def injectSettingCallee : Callee :=
  methodOn "model_cfg" "inject_dataloader_value_from_model_config" [req "dataloader_cfg", req "key"] fun vals => do
    let model := plain (← Method.this)
    let loader := arg vals 0
    let key := (plainArg vals 1).text
    let some v := model.entries.lookup key | return .null
    if let some w := (plain loader).entries.lookup key then
      if !w.isNull && !(w.same v) then return .null
    Method.setArgument 0 (withSetting loader key v)
    pure .null

/-- `AudioDataset`: the audio of transcribed utterances, the transcripts read by the default parser
of printable characters and then left aside. -/
def synthesisAudioCallee : Callee := fun r => do
  let vals ← (Arguments.bind r.args.intake
    "AudioDataset.__init__"
    [req "manifest_filepath", req "n_segments", opt "max_duration" .null, opt "min_duration" .null,
     opt "trim" (.bool false), opt "truncate_to" (.int 1)])
  let arg := arg vals
  if (tagged? (arg 0) "$path").isSome then throw (noAttribute "PosixPath" "split")
  let parser : CharParser := { labels := Service.printableLabels }
  let limits : SampleLimits := { minDuration := (plain (arg 3)).num?, maxDuration := (plain (arg 2)).num? }
  let rows ← transcribedRows (plain (arg 0)) (fun u => transcriptIds parser u.text) limits
  pure (.plain (objectData "AudioDataset"
    [("collection", objectData "ASRAudioText" [("data", .list rows)]), ("trim", arg 4),
     ("n_segments", arg 1), ("truncate_to", arg 5)]))

/-- `preprocess_linear_specs_dataset`: the directory of noisy spectrograms for these settings, taken as it is if made;
else both lists must be named, the training one read first, and one without recordings leaves no
dataset.  Reading a recording needs the audio library. -/
def linearSpecsCallee : Callee :=
  functionOf "preprocess_linear_specs_dataset"
    [req "valid_filelist", req "train_filelist", req "n_fft", req "hop_length", req "num_snr", req "destination"]
    fun vals => do
      let arg := arg vals
      let dir ← (Text.fillTemplate "%s/degli_data_%d_%dx%d/"
        (.positional [arg 5, arg 2, arg 3, arg 4]))
      if ← Work.isDir (String.ofList (dir.toList.dropLast)) then return .str dir
      if arg 0 == .str "none" || arg 1 == .str "none" then throw ⟨"NameError", "Missing Argument"⟩
      -- the directory made for the dataset is removed again when it cannot be filled
      Work.makeDirs (Text.plainText (arg 5))
      let recordings (list : Data) : Work Nat := do
        let lines ← Work.readLines (Text.plainText list)
        if !lines.isEmpty then throw (.unavailable "soundfile")
        pure lines.length
      let train ← recordings (arg 1)
      let valid ← recordings (arg 0)
      if train == 0 then throw ⟨"EOFError", "Dataset initialization failed. No files to preprocess train dataset"⟩
      if valid == 0 then throw ⟨"EOFError", "Dataset initialization failed. No files to preprocess validation dataset"⟩
      pure (.str dir)

def transcribedAudioCallees : List (String × Callee) :=
  let target := "nemo.collections.asr.data.audio_to_text:"
  [(target ++ "AudioToCharDataset", transcribedAudioCallee), (target ++ "AudioToBPEDataset", subwordAudioCallee),
   (target ++ "AudioToCharWithDursF0Dataset.make_vocab", makeVocabularyCallee),
   (target ++ "TarredAudioToCharDataset", tarredCharCallee), (target ++ "TarredAudioToBPEDataset", tarredSubwordCallee),
   (target ++ "_TarredAudioToTextDataset._filter", textFilterCallee),
   (target ++ "TarredAudioToCharDataset._filter", textFilterCallee),
   (target ++ "TarredAudioToBPEDataset._filter", textFilterCallee),
   ("nemo.collections.asr.data.audio_to_text_dataset:inject_dataloader_value_from_model_config", injectSettingCallee),
   ("nemo.collections.tts.data.datalayers:AudioDataset", synthesisAudioCallee),
   ("nemo.collections.tts.data.datalayers:preprocess_linear_specs_dataset", linearSpecsCallee)]

end Conversa.Callees
