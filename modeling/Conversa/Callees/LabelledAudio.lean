import Conversa.Callees.TranscribedAudio

/-!
# Datasets of labelled audio

A labelled audio dataset reads a comma-separated list of manifests, keeps utterances within its
duration limits and lists their labels sorted; regression has one numeric output.  A tarred one
indexes utterances by file id, counts each recording's cuts (`name-subN`), spreads its archives
(`scatter`, `replicate`) and streams samples through `labelFilterPass`, once per cut.
-/

namespace Conversa.Callees

open Entry Speech NeuralType

/-- The number of cuts of each recording among file ids: a file id `name-subN` is a cut of
`name`. -/
def countOccurrence (ids : Data) : Result Data := do
  let keys ← match ids with
    | .dict kvs => pure (kvs.map fun (k, _) => Data.str k)
    | .list xs => pure xs
    | .str s => pure (s.toList.map fun c => Data.str (String.singleton c))
    | other => throw (.type s!"{Text.quote other.kindName} object is not iterable")
  keys.foldlM (fun (count : Data) k => do
    let name ← match k with
      | .str s => pure ((s.splitOn "-sub").headD s)
      | other => throw (noAttribute other.kindName "split")
    pure (count.set name (.int (((count.getD name).int?.getD 0) + 1)))) (.dict [])

/-- The labels of a value: the characters of a text, or the items of a sequence. -/
def labelItems (d : Data) : List Data :=
  match d with
  | .str s => s.toList.map fun c => Data.str (String.singleton c)
  | other => other.items

/-- The number of each label, a repeated label taking its last position, and the label of each
number. -/
def labelNumbering (labels : List Data) : Data × Data :=
  (labels.zipIdx.foldl (fun (acc : Data) (l, i) => acc.set (keyText l) (.int i)) (.dict []),
   .dict (labels.zipIdx.map fun (l, i) => (toString i, l)))

/-- The collection of a labelled dataset: its utterances as rows and its sorted labels, with the
index by file id when it has one. -/
def speechLabelCollection (kept : List LabelledUtterance) (uniq : List Data) (index : Option (List (String × Nat))) :
    Data :=
  objectData "ASRSpeechLabel" (
    [("data", .list (kept.map fun u => .list [u.audioFile, u.duration, u.label, u.offset])), ("uniq_labels", .list uniq)] ++
    (index.map fun m => [("mapping", .dict (m.map fun (k, n) => (k, .int n)))]).getD [])

/-- The kept utterances of comma-separated manifests, their index by file id and their sorted
labels; for regression each label is read as a number. -/
def labelledUtterances (manifests : Data) (regression : Bool) (limits : SampleLimits) :
    Work (List LabelledUtterance × List (String × Nat) × List Data) := do
  let files ← match manifests with
    | .str s => pure (s.splitOn ",")
    | other => throw (noAttribute other.kindName "split")
  let us ← (readManifests (← Work.files) files fun _ _ line => do
    let u ← LabelledUtterance.read line
    if regression then u.asRegression else pure u)
  labelled limits us

/-- The ports of a labelled dataset: the audio and its length, and the targets or labels and
their lengths. -/
def labelledAudioPorts (regression : Bool) : List (String × NType) :=
  [("audio_signal", NType.ofKinds [.batch, .time] .audioSignal), ("a_sig_length", NType.ofKinds [.batch] .lengths)] ++
  (if regression then
    [("targets", NType.ofKinds [.batch] .regressionValues), ("targets_length", NType.ofKinds [.batch] .lengths)]
  else [("label", NType.ofKinds [.batch] .labels), ("label_length", NType.ofKinds [.batch] .lengths)])

def labelledAudioAct (cls : String) (regression : Bool) (count : Nat) (step : Step) : Work Data := do
  let self ← Work.this
  match step with
  | .read "output_types" => pure (portsData (labelledAudioPorts regression))
  | .read path => readPath self path
  | .call "__len__" args => do
    let _ ← args.bind (cls ++ ".__len__") []
    pure (.int count)
  | .call name _ => Work.fail (noAttribute cls name)

def sliceSettings : List Param :=
  [opt "time_length" (.int 8), opt "shift_length" (.int 1), opt "normalize_audio" (.bool false)]

/-- `AudioToClassificationLabelDataset`, and for speaker recognition
`AudioToSpeechLabelDataset` with the slice settings before the last. -/
def labelledAudioCallee (cls : String) (speech : Bool) : Callee := fun r => do
  let base := [req "manifest_filepath", req "labels", req "featurizer", opt "min_duration" (.float 0.1),
    opt "max_duration" .null, opt "trim" (.bool false)]
  let params := base ++ (if speech then sliceSettings else []) ++ [opt "is_regression_task" (.bool false)]
  let name := if speech then "AudioToSpeechLabelDataset.__init__" else "_AudioLabelDataset.__init__"
  let vals ← Arguments.bindKeywords r.args.intake name params
  let given := (params.map (·.name)).zip vals
  let value (k : String) : Data := plain ((given.lookup k).getD .null)
  let regression := (value "is_regression_task").truthy
  let (kept, _, uniq) ← labelledUtterances (value "manifest_filepath") regression
    { minDuration := (value "min_duration").num?, maxDuration := (value "max_duration").num? }
  let labelAttrs := if regression then [("labels", .list []), ("num_classes", .int 1)] else
    let labels := if (value "labels").truthy then value "labels" else .list uniq
    let (ids, names) := labelNumbering (labelItems labels)
    [("labels", labels), ("num_classes", .int (labelItems labels).length), ("label2id", ids), ("id2label", names)]
  let sliceAttrs := if speech then sliceSettings.map fun p => (p.name, value p.name) else []
  let attrs := sliceAttrs ++ [("collection", speechLabelCollection kept uniq none), ("featurizer", value "featurizer"),
    ("trim", value "trim"), ("is_regression_task", value "is_regression_task")] ++ labelAttrs
  pure { value := objectData cls attrs, act := labelledAudioAct cls regression kept.length }

/-- `TarredAudioToClassificationLabelDataset`, and for
speaker recognition `TarredAudioToSpeechLabelDataset` with the slice settings after `trim` and no
regression.  Labels are read as given; after the manifests and the strategy are checked, the
archives need the streaming library. -/
def tarredLabelCallee (speech : Bool) : Callee := fun r => do
  let base := [req "audio_tar_filepaths", req "manifest_filepath", req "labels", req "featurizer", opt "shuffle_n" (.int 0),
    opt "min_duration" (.float 0.1), opt "max_duration" .null, opt "trim" (.bool false)]
  let spread := [opt "shard_strategy" (.str "scatter"), opt "global_rank" (.int 0), opt "world_size" (.int 0)]
  let params := if speech then base ++ sliceSettings ++ spread else base ++ spread ++ [opt "is_regression_task" (.bool false)]
  let name := if speech then "TarredAudioToSpeechLabelDataset.__init__" else "_TarredAudioLabelDataset.__init__"
  let vals ← Arguments.bindKeywords r.args.intake name params
  let given := (params.map (·.name)).zip vals
  let value (k : String) : Data := plain ((given.lookup k).getD .null)
  let _ ← labelledUtterances (value "manifest_filepath") false
    { minDuration := (value "min_duration").num?, maxDuration := (value "max_duration").num?, indexByFileId := true }
  checkShardStrategy (value "shard_strategy")
  throw (.unavailable "webdataset")

/-- The samples the label filter gives for one archive sample: a counted recording once for each
of its cuts, the first under its file id and the others with `-sub` and their number.  A
recording is counted when its full name is, and its cuts are counted under its file id. -/
def recordingCuts (occurrence sample : Data) : Result (List Data) := do
  let (audio, name) ← pairOf sample
  let file ← match name with
    | .str p => pure p
    | other => throw (.notPath other.kindName)
  if !occurrence.entries.any (·.1 == file) then return []
  let id := fileId file
  let count ← match occurrence.entries.lookup id with
    | some (.int n) => pure n.toNat
    | some (.bool b) => pure (if b then 1 else 0)
    | some other => throw (.type s!"{Text.quote other.kindName} object cannot be interpreted as an integer")
    | none => throw (.key (Text.quote id))
  pure ((List.range count).map fun j => .list [audio, .str (if j == 0 then id else s!"{id}-sub{j}")])

/-- One pass of the label filter over archive samples: what it gives, and the failure that ends
it early, if any. -/
def labelFilterPass (occurrence : Data) : List Data → List Data × Option Failure
  | [] => ([], none)
  | s :: rest =>
    match recordingCuts occurrence s with
    | .error f => ([], some f)
    | .ok cuts =>
      let (more, failure) := labelFilterPass occurrence rest
      (cuts ++ more, failure)

/-- `_TarredAudioLabelDataset._filter`: the filter over archive samples, read for
the number of items the request takes.  The filter starts over when the samples run out, so
samples in a list come round again, while an iterator, once used up, gives nothing more. -/
def labelFilterCallee : Callee := fun r => do
  let vals ← (Arguments.bind r.args.intake
    "_TarredAudioLabelDataset._filter" [req "self", req "iterator"])
  let self := arg vals 0
  let _ ← attr self "collection"
  let occurrence ← attr self "file_occurence"
  match (r.fields.getD "take").int? with
  | none => pure (.plain (objectData "TarredAudioFilter" []))
  | some n =>
    let some (samples, once) := iterableItems? (arg vals 1)
      | throw (.type s!"{Text.quote (arg vals 1).kindName} object is not iterable")
    let (items, failure) := labelFilterPass (plain occurrence) samples
    pure (.plain (shown (.list (← takeStream n.toNat items failure (!once)))))

def labelledAudioCallees : List (String × Callee) :=
  let target := "nemo.collections.asr.data.audio_to_label:"
  [(target ++ "count_occurence", functionOf "count_occurence" [req "manifest_file_id"] fun v =>
      (countOccurrence (plain (arg v 0)))),
   (target ++ "AudioToClassificationLabelDataset", labelledAudioCallee "AudioToClassificationLabelDataset" false),
   (target ++ "AudioToSpeechLabelDataset", labelledAudioCallee "AudioToSpeechLabelDataset" true),
   (target ++ "TarredAudioToClassificationLabelDataset", tarredLabelCallee false),
   (target ++ "TarredAudioToSpeechLabelDataset", tarredLabelCallee true),
   (target ++ "TarredAudioToClassificationLabelDataset._filter", labelFilterCallee),
   (target ++ "TarredAudioToSpeechLabelDataset._filter", labelFilterCallee)]

end Conversa.Callees
