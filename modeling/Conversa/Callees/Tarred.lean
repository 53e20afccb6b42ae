import Conversa.Entry.CommandLine
import Conversa.Speech.Manifest
import Conversa.Entry.Instance
import Conversa.Config.Yaml
import Conversa.Config.Record
import Conversa.Numeric.Printf

/-!
# Building tarred audio datasets

A tarred dataset packs a manifest's audio into shards.  `_read_manifest` keeps entries within the
duration limits; `_create_shard` writes `audio_<shard_id>.tar`, each file once under its path
with slashes and dots made underscores (repeats of labelled segments take `-sub<n>`);
`setup_history` flattens histories.  Writing shards needs parallel workers, not at hand.
-/

namespace Conversa.Callees

open Entry

def tarredCommandLine : CommandLine :=
  { prog := "convert_to_tarred_audio_dataset.py"
    description := some "Convert an existing ASR dataset to tarballs compatible with TarredAudioToTextDataLayer."
    arguments := [
      option "--manifest_path" .text .null false (some "Path to the existing dataset's manifest."),
      { flags := ["--concat_manifest_paths"], dest := "concat_manifest_paths", arity := .some,
        help := some "Path to the additional dataset's manifests that will be concatenated with base dataset." },
      option "--target_dir" .text (.str "./tarred") false
        (some "Target directory for resulting tarballs and manifest. Defaults to \x60./tarred\x60. Creates the path if necessary."),
      option "--metadata_path" .text .null false (some "Path to metadata file for the dataset."),
      option "--num_shards" .int (.int (-1)) false
        (some "Number of shards (tarballs) to create. Used for partitioning data among workers."),
      option "--max_duration" .float .null true
        (some "Maximum duration of audio clip in the dataset. By default, it is None and is required to be set."),
      option "--min_duration" .float .null false
        (some "Minimum duration of audio clip in the dataset. By default, it is None and will not filter files."),
      switch "--shuffle" (some "Whether or not to randomly shuffle the samples in the manifest before tarring/sharding."),
      option "--shuffle_seed" .int .null false (some "Random seed for use if shuffling is enabled."),
      switch "--write_metadata" (some "Flag to write a blank metadata with the current call config. Note that the metadata will not contain the number of shards, and it must be filled out by the user."),
      option "--workers" .int (.int 1) false (some "Number of worker processes")] }

def tarredConfig (args : Arguments) : Result Data := do
  let vals ← args.bind "ASRTarredDatasetConfig.__init__"
    [opt "num_shards" (.int (-1)), opt "shuffle" (.bool false), opt "max_duration" .null,
     opt "min_duration" .null, opt "shuffle_seed" .null]
  pure (objectData "ASRTarredDatasetConfig"
    (["num_shards", "shuffle", "max_duration", "min_duration", "shuffle_seed"].zip vals))

def recordArg (d : Data) : Result Data :=
  match d with
  | .dict kvs =>
    match kvs.find? (·.1 == "$new") with
    | some (_, .str target) =>
      let args : Arguments := ⟨(d.getD "args").items, (d.getD "kwargs").entries⟩
      if target.endsWith ":ASRTarredDatasetConfig" then tarredConfig args
      else .error ⟨"AttributeError", s!"no record {Text.quote target}"⟩
    | _ => .ok d
  | _ => .ok d

def durationOf (d : Data) : Float := d.num?.getD 0.0

/-- A manifest read against duration limits: the entries kept, those dropped and the total
duration of those dropped. -/
structure ManifestSplit where
  kept : List Data
  dropped : List Data
  /-- The total duration of the entries outside them. -/
  droppedDuration : Float

/-- The entries of a manifest within the duration limits of a configuration: shorter than the
greatest duration and longer than the least, each limit applying when it is set. -/
def readTarredManifest (path : String) (config : Data) : Work ManifestSplit := do
  let text ← Work.readFile path
  let maxD ← attr config "max_duration"
  let minD ← attr config "min_duration"
  (Speech.manifestLines text).foldlM (fun (acc : ManifestSplit) line => do
    let entry ← Speech.lineObject line
    let dur ← entry.key "duration"
    let fits := (maxD.isNull || durationOf dur < durationOf maxD) && (minD.isNull || durationOf dur > durationOf minD)
    if fits then pure { acc with kept := acc.kept ++ [entry] }
    else pure { acc with dropped := acc.dropped ++ [entry], droppedDuration := acc.droppedDuration + durationOf dur })
    ⟨[], [], 0.0⟩

def ManifestSplit.data (m : ManifestSplit) : Data :=
  .list [.list m.kept, .list m.dropped, .float m.droppedDuration]

/-- The name and extension of a path: the extension starts at the last dot of the last part,
unless only dots stand before it. -/
def splitExtension (p : String) : String × String :=
  let name := FileSystem.name p
  let lead := (name.toList.takeWhile (· == '.')).length
  match (name.toList.zipIdx.filter fun (c, i) => c == '.' && i ≥ lead).getLast? with
  | some (_, i) =>
    let extLen := name.length - i
    (String.ofList (p.toList.take (p.length - extLen)), String.ofList (name.toList.drop i))
  | none => (p, "")

/-- The name of an audio file inside an archive: slashes and dots of its path made underscores,
its extension kept. -/
def squashedName (p : String) : String :=
  let (base, ext) := splitExtension p
  base.map (fun c => if c == '/' || c == '.' then '_' else c) ++ ext

/-- Packs the audio files of entries into the archive of a shard, giving the packed entries. -/
def createShard (entries : List Data) (targetDir : String) (shard : Data) : Work Data := do
  let archive := FileSystem.join targetDir s!"audio_{shard.text}.tar"
  Work.writeFile archive ""
  let (out, members, _) ← entries.foldlM (fun (acc : List Data × List Data × List (String × Nat)) entry => do
    let (out, members, count) := acc
    let path := (← entry.key "audio_filepath").text
    let squashed := squashedName path
    let seen := count.any (·.1 == squashed)
    let members ← if seen then pure members else do
      let content ← Work.readFile path
      let members := members ++ [Data.list [.str squashed, .str content]]
      Work.writeStored archive (.list members)
      pure members
    let duration ← entry.key "duration"
    let text ← entry.key "text"
    if entry.has "label" then
      let (base, ext) := splitExtension squashed
      let (name, count) := match count.find? (·.1 == squashed) with
        | some (_, n) => (s!"{base}-sub{n}{ext}", count.map fun (k, v) => if k == squashed then (k, v + 1) else (k, v))
        | none => (squashed, count ++ [(squashed, 1)])
      let label ← entry.key "label"
      let offset ← entry.key "offset"
      pure (out ++ [Data.dict [("audio_filepath", .str name), ("duration", duration), ("text", text),
        ("label", label), ("offset", offset), ("shard_id", shard)]], members, count)
    else
      let count := if seen then count.map (fun (k, v) => if k == squashed then (k, 1) else (k, v)) else count ++ [(squashed, 1)]
      pure (out ++ [Data.dict [("audio_filepath", .str squashed), ("duration", duration), ("text", text),
        ("shard_id", shard)]], members, count)) ([], [], [])
  Work.writeStored archive (.list members)
  pure (.list out)

/-- The entries shuffled by the shared generator when the settings ask for it, seeded afresh by
the seed they give. -/
def shuffledEntries (config : Data) (entries : List Data) : Work (List Data) := do
  unless (← attr config "shuffle").truthy do return entries
  if let .int n ← (attr config "shuffle_seed") then
    Work.draw fun _ => ((), Numeric.Generator.standard n)
  Work.printLine "Shuffling..."
  Work.draw (Numeric.Generator.shuffle entries)

def shardWorkers : Failure := (.unavailable "joblib")

/-- The remainder of a count by a number of shards, the remainder taking the sign of the number
of shards. -/
def shardRemainder (n shards : Int) : Result Int :=
  if shards == 0 then .error ⟨"ZeroDivisionError", "integer modulo by zero"⟩ else .ok (Int.fmod n shards)

/-- Builds a new dataset from a manifest: reads it within the configured limits, shuffles it
when asked and lays the entries out evenly over the shards, the rest left over. -/
def createNewDataset (config manifest target : Data) : Work Data := do
  if config.isNull then
    throw (.value "Config has not been set. Please call \x60configure(config: ASRTarredDatasetConfig)\x60")
  if manifest.isNull then throw ⟨"FileNotFoundError", "Manifest filepath cannot be None !"⟩
  let target := target.text
  unless ← Work.pathExists target do Work.makeDirs target
  let split ← readTarredManifest manifest.text config
  unless split.dropped.isEmpty do
    let count := split.dropped.length
    let total := (Data.float split.droppedDuration).text
    Work.printLine s!"Filtered {count} files which amounts to {total} seconds of audio."
  let entries ← shuffledEntries config split.kept
  let shards := (← attr config "num_shards").int?.getD 0
  let n : Int := entries.length
  Work.printLine s!"Number of samples added : {n}"
  let rest ← shardRemainder n shards
  Work.printLine s!"Remainder: {rest}"
  let size := Int.fdiv n shards
  (List.range shards.toNat).forM fun i => do
    let start := size * i
    let stop := start + size
    Work.printLine s!"Shard {i} has entries {start} ~ {stop}"
    if i + 1 == shards.toNat then
      let left := n - stop
      Work.printLine s!"Have {left} entries left over that will be discarded."
  throw shardWorkers

/-- Adds the entries of more manifests to a dataset whose metadata is given: reads the base
manifest and the added ones, shuffles the added entries when asked, drops those that do not fill
a shard and lays out the added shards after those of the dataset. -/
def createConcatenatedDataset (base : Data) (paths : List Data) (metadata : Data) (target : String) :
    Work Data := do
  unless ← Work.pathExists target do Work.makeDirs target
  if base.isNull then throw ⟨"FileNotFoundError", "Base manifest filepath cannot be None !"⟩
  if paths.isEmpty then throw ⟨"FileNotFoundError", "List of additional manifest filepaths cannot be None !"⟩
  let config ← tarredConfig ⟨[], (metadata.getD "dataset_config").entries⟩
  let nb : Int := (← readTarredManifest base.text config).kept.length
  Work.printLine s!"Read base manifest containing {nb} samples."
  let shards := (← attr config "num_shards").int?.getD 0
  let perShard ← match metadata.getD "num_samples_per_shard" with
    | .int k => pure k
    | _ =>
      if shards == 0 then throw (⟨"ZeroDivisionError", "integer division or modulo by zero"⟩ : Failure)
      else pure (Int.fdiv nb shards)
  Work.printLine s!"Number of samples per shard : {perShard}"
  let maxD := (← attr config "max_duration").text
  let minD := (← attr config "min_duration").text
  Work.printLine s!"Selected max duration : {maxD}"
  Work.printLine s!"Selected min duration : {minD}"
  let entries ← paths.foldlM (fun acc p => do
    let split ← readTarredManifest p.text config
    unless split.dropped.isEmpty do
      let count := split.dropped.length
      let total := Numeric.fixedText split.droppedDuration 2
      let path := p.text
      Work.printLine s!"Filtered {count} files which amounts to {total} seconds of audio from manifest {path}."
    pure (acc ++ split.kept)) []
  let entries ← shuffledEntries config entries
  let total : Int := entries.length
  let dropCount ← shardRemainder total perShard
  -- the entries up to the count dropped from the end: all of them when none is dropped
  let stop := if dropCount > 0 then total - dropCount else -dropCount
  let entries := entries.take stop.toNat
  Work.printLine s!"Dropping {dropCount} samples from total new samples {total} since they cannot be added into a uniformly sized chunk."
  let kept : Int := entries.length
  let added := Int.fdiv kept perShard
  let rest ← shardRemainder kept perShard
  Work.printLine s!"Number of samples in base dataset : {nb}"
  Work.printLine s!"Number of samples in additional datasets : {kept}"
  Work.printLine s!"Number of added shards : {added}"
  Work.printLine s!"Remainder: {rest}"
  (List.range added.toNat).forM fun i => do
    let start := Int.fdiv kept added * i
    let first := start + nb
    let last := first + Int.fdiv kept added
    let shard := shards + i
    Work.printLine s!"Shard {shard} has entries {first} ~ {last}"
  throw shardWorkers

/-- The histories a dataset's metadata records, earliest first: each recorded one after its own
history, then the metadata itself without its history.  Only configurations can be copied. -/
def historyOf (config : Bool) : Nat → Data → Result (List Data)
  | 0, _ => .ok []
  | fuel + 1, base =>
    match tagged? base "$cfg", base with
    | some inner, _ => historyOf true fuel inner
    | none, .dict kvs => do
      let recorded := kvs.lookup "history"
      unless config do
        throw (noAttribute "dict" (if recorded.isSome then "history" else "_get_node_flag"))
      let earlier ← match recorded with
        | none => pure []
        | some (.list xs) => xs.foldlM (fun acc x => do pure (acc ++ (← historyOf true fuel x))) []
        | some (.dict ks) => ks.foldlM (fun acc (k, _) => do pure (acc ++ (← historyOf true fuel (.str k)))) []
        | some other => throw (.type s!"'{other.kindName}' object is not iterable")
      pure (earlier ++ [.dict (kvs.filter (·.1 != "history"))])
    | none, other => .error (noAttribute other.kindName "keys")

/-- A dataset's metadata as its file gives it, over the defaults of metadata. -/
def storedMetadata (path : String) (defaultConfig : Data) : Work Data := do
  let given ← match ← (Config.readYaml (← Work.readFile path)) with
    | .null => pure []
    | .dict kvs => pure kvs
    | .list _ => throw (.type "dict.update() argument after ** must be a mapping, not ListConfig")
    | other => throw ⟨"OSError", s!"Invalid loaded object type: {other.kindName}"⟩
  let defaults : Entries := [("created_datetime", .null), ("version", .int 0),
    ("num_samples_per_shard", .null), ("is_concatenated_manifest", .bool false),
    ("dataset_config", .dict (attrsOf defaultConfig)), ("history", .list [])]
  pure (given.foldl (fun (m : Data) (k, v) => m.set k v) (.dict defaults))

/-- Checks the settings a builder is configured with: the number of shards must not be
negative. -/
def checkShards (config : Data) : Result Unit := do
  if ((← attr config "num_shards").int?.getD 0) < 0 then
    throw (.value "\x60num_shards\x60 must be > 0. Please fill in the metadata information correctly.")

def tarredMain : Callee := fun r => do
  let args ← tarredCommandLine.run r.argv
  let value := kwarg args
  let seed := if (value "shuffle_seed").truthy then value "shuffle_seed" else .null
  let settings := [("num_shards", value "num_shards"), ("shuffle", value "shuffle"),
    ("max_duration", value "max_duration"), ("min_duration", value "min_duration"), ("shuffle_seed", seed)]
  let config ← tarredConfig ⟨[], settings⟩
  if (value "write_metadata").truthy then throw (.unavailable "datetime")
  let target := value "target_dir"
  if (value "concat_manifest_paths").items.isEmpty then
    Work.printLine "Creating new tarred dataset ..."
    checkShards config
    .plain <$> createNewDataset config (value "manifest_path") target
  else
    Work.printLine "Concatenating multiple tarred datasets ..."
    let path := value "metadata_path"
    if path.isNull then throw (.value "\x60metadata\x60 yaml file path must be provided!")
    let metadata ← storedMetadata path.text (← tarredConfig ⟨[], []⟩)
    let _ ← historyOf true (metadata.depth + 2) (configOf metadata)
    let given := metadata.getD "dataset_config"
    let .dict _ := given | throw (noAttribute given.kindName "max_duration")
    let given := settings.foldl (fun (g : Data) (k, v) => if k == "num_shards" then g else g.set k v) given
    let shards ← match given.get? "num_shards" with
      | some v => pure v
      | none => throw (Config.located "ConfigAttributeError" "Missing key num_shards" "dataset_config.num_shards" "dict")
    checkShards (objectData "ASRTarredDatasetConfig" [("num_shards", shards)])
    .plain <$> createConcatenatedDataset (value "manifest_path") (value "concat_manifest_paths").items
      (metadata.set "dataset_config" given) target.text

def tarredBuilderAct (step : Step) : Work Data := do
  let self ← Work.this
  match step with
  | .read path => readPath self path
  | .call "configure" args => do
    let vals ← args.bind "ASRTarredDatasetBuilder.configure" [req "config"]
    let config ← recordArg (arg vals 0)
    Work.setThis (setAttr self "config" config)
    checkShards config
    pure .null
  | .call "create_new_dataset" args => do
    let vals ← (args.bind "ASRTarredDatasetBuilder.create_new_dataset"
      [req "manifest_path", opt "target_dir" (.str "./tarred/"), opt "num_workers" (.int 0)])
    createNewDataset (← attr self "config") (arg vals 0) (arg vals 1)
  | .call "_read_manifest" args => do
    let vals ← args.bind "ASRTarredDatasetBuilder._read_manifest" [req "manifest_path", req "config"]
    let config ← recordArg (arg vals 1)
    pure (← readTarredManifest (arg vals 0).text config).data
  | .call "_create_shard" args => do
    let vals ← args.bind "ASRTarredDatasetBuilder._create_shard" [req "entries", req "target_dir", req "shard_id"]
    createShard (arg vals 0).items (arg vals 1).text (arg vals 2)
  | .call name _ => throw (noAttribute "ASRTarredDatasetBuilder" name)

/-- `ASRTarredDatasetBuilder()`. -/
def tarredBuilderCallee : Callee := fun r => do
  let _ ← r.args.bind "ASRTarredDatasetBuilder.__init__" []
  pure { value := objectData "ASRTarredDatasetBuilder" [("config", .null)], act := tarredBuilderAct }

def tarredScript : String := "scripts/speech_recognition/convert_to_tarred_audio_dataset.py"

def tarredCallees : List (String × Callee) :=
  [(tarredScript ++ ":ASRTarredDatasetBuilder", tarredBuilderCallee),
   (tarredScript ++ ":__main__", tarredMain),
   (tarredScript ++ ":ASRTarredDatasetBuilder.setup_history",
    methodOn "base_metadata" "ASRTarredDatasetBuilder.setup_history" [req "history"] fun vals => do
      let base ← Method.this
      let found ← historyOf false (base.depth + 2) base
      Method.setArgument 0 (.list ((arg vals 0).items ++ found))
      pure .null)]

def tarredLoaders : List (String × (Request → Work Unit)) :=
  [(tarredScript, fun r => do let _ ← tarredCommandLine.run r.argv)]

end Conversa.Callees
