import Conversa.Batching.Sentences
import Conversa.Callees.Experiments
import Conversa.Data.Arith
import Conversa.Service.DataPrep

/-!
# Preparing a translation corpus

A large corpus's tokenizers are trained (`yttm` and `sentencepiece` into the output directory
when no model is named) and made (`libraryTokenizer`); its pairs are cut into fragments of lines
(`fragmentBounds`, the last ending at `-1`), tokenized, cleaned, batched and archived.  Padding
needs an integer alias the array library lost (`removedIntegerAlias`), so batches fail there.
-/

namespace Conversa.Callees

open Entry Config

def corpusName (name : String) : String :=
  "nemo.collections.nlp.data.machine_translation.preproc_mt_data:" ++ name

/-- The failure of padding a batch: the array library has no integer alias any more. -/
def removedIntegerAlias : Failure :=
  ⟨"AttributeError", "module 'numpy' has no attribute 'int'.\n\x60np.int\x60 was a deprecated alias for the builtin " ++
    "\x60int\x60. To avoid this error in existing code, use \x60int\x60 by itself. Doing this will not modify any " ++
    "behavior and is safe. When replacing \x60np.int\x60, you may wish to use e.g. \x60np.int64\x60 or \x60np.int32\x60 " ++
    "to specify the precision. If you wish to review your current use, check the release note link for " ++
    "additional information.\nThe aliases was originally deprecated in NumPy 1.20; for more details and " ++
    "guidance see the original release note at:\n    https://numpy.org/devdocs/release/1.20.0-notes.html#deprecations"⟩

def translationLibraries : List String := ["yttm", "huggingface", "sentencepiece", "megatron"]

def trainedLibraries : List String := ["yttm", "sentencepiece"]

def namesLibrary (libraries : List String) (d : Data) : Bool :=
  match d with
  | .str s => libraries.contains s
  | _ => false

/-- A value written as a whole number, as `%d` writes it: a double is cut toward zero. -/
def wholeText (d : Data) : Result String :=
  match d with
  | .int n => .ok (toString n)
  | .bool b => .ok (if b then "1" else "0")
  | .float x =>
    if x.isNaN then .error (.value "cannot convert float NaN to integer")
    else if x.isInf then .error ⟨"OverflowError", "cannot convert float infinity to integer"⟩
    else .ok (toString (Numeric.truncToInt x))
  | other => .error (.type s!"%d format: a real number is required, not {other.kindName}")

/-- A value used as a count: a whole number or a truth value. -/
def countArgument (d : Data) : Result Int :=
  match d with
  | .int n => .ok n
  | .bool b => .ok (if b then 1 else 0)
  | other => .error (.type s!"{Text.quote other.kindName} object cannot be interpreted as an integer")

/-- The numbers from zero toward `stop`, `step` apart, `stop` excluded. -/
def steppedRange (stop step : Int) : List Int :=
  let count : Nat :=
    if step > 0 && stop > 0 then ((stop + step - 1) / step).toNat
    else if step < 0 && stop < 0 then ((-stop + -step - 1) / -step).toNat
    else 0
  (List.range count).map fun (i : Nat) => (i : Int) * step

/-- The fragments of a corpus of `lines` lines, `perFragment` lines each, as first and last line
bounds; the last fragment ends at `-1`. -/
def fragmentBounds (lines perFragment : Int) : Result (List (Int × Int)) := do
  if perFragment == 0 then throw (.value "range() arg 3 must not be zero")
  let starts := steppedRange lines perFragment
  match starts.getLast? with
  | none => throw (.index "pop from empty list")
  | some last => pure (starts.dropLast.map (fun i => (i, i + perFragment)) ++ [(last, -1)])

/-- The number of lines of a text, a last line without its end counted; none for an empty text. -/
def lineCount (text : String) : Option Nat :=
  match (Work.textLines text).length with
  | 0 => none
  | n => some n

/-- The number of lines of a file; an empty file has no last line to count from. -/
def fileLineCount (path : String) : Work Nat := do
  match lineCount (← Work.readFile path) with
  | some n => pure n
  | none => throw ⟨"UnboundLocalError", "cannot access local variable 'i' where it is not associated with a value"⟩

/-- The tokenizer a translation library makes for a model name and a tokenizer model file. -/
def libraryTokenizer (library modelName tokenizerModel : Data) : Work Data := do
  let unavailable (what : String) : Work Data := throw ⟨"DependencyUnavailable", what⟩
  match library with
  | .str "yttm" =>
    match tokenizerModel with
    | .str _ => unavailable "youtokentome"
    | other => throw (.notPath other.kindName)
  | .str "huggingface" => unavailable "transformers"
  | .str "sentencepiece" =>
    let present ← match tokenizerModel with
      | .str p => if p.isEmpty then pure false else Work.pathExists p
      | _ => pure false
    if present then unavailable "sentencepiece"
    else throw (.value s!"model_path: {tokenizerModel.text} is invalid")
  | .str "byte-level" => pure byteLevelTokenizer
  | .str "megatron" =>
    match modelName with
    | .str name =>
      if name == "sentencepiece" then throw (.value "model_path: None is invalid")
      else if name == "yttm" || name == "word" || name == "char" then
        throw (.notPath "NoneType")
      else unavailable "megatron"
    | other => throw (.type s!"argument of type {Text.quote other.kindName} is not iterable")
  | _ =>
    throw ⟨"NotImplementedError", "Currently we only support \"yttm\", \"huggingface\", \"sentencepiece\", " ++
      "\"megatron\", and \"byte-level\" tokenizer libraries."⟩

/-- The encoder's and the decoder's tokenizers, each by its library, model name and model file. -/
def pairTokenizers (encLibrary encModel encName decLibrary decModel decName : Data) : Work (Data × Data) := do
  let enc ← libraryTokenizer encLibrary encName encModel
  let dec ← libraryTokenizer decLibrary decName decModel
  pure (enc, dec)

/-- The numbers of a line under a tokenizer object, between its beginning and end tokens. -/
def framedIds (tok : Data) (line : String) : Result (List Nat) :=
  if className? tok == some "ByteLevelTokenizer" then
    .ok ([Language.ByteLevel.bosId] ++ Language.ByteLevel.textToIds line ++ [Language.ByteLevel.eosId])
  else .error (noAttribute ((className? tok).getD tok.kindName) "text_to_ids")

def linesIds (tok : Data) (lines : List String) : Result (List (List Nat)) :=
  lines.mapM (framedIds tok)

/-- A length limit compared with a length: absent limits pass. -/
def exceeds (limit : Data) (len : Nat) (below : Bool) : Bool :=
  match limit.num? with
  | some x => if below then len.toFloat < x else len.toFloat > x
  | none => false

/-- The reciprocal of a ratio limit; a zero limit cannot be inverted. -/
def inverseRatio (limit : Data) : Result Float :=
  match limit with
  | .int 0 | .bool false => .error ⟨"ZeroDivisionError", "division by zero"⟩
  | _ =>
    match limit.num? with
    | some x => if x == 0 then .error ⟨"ZeroDivisionError", "float division by zero"⟩ else .ok (1 / x)
    | none => .ok 0

/-- Whether a pair of sentences of lengths `s` and `t` survives cleaning: neither longer than
`longest` nor shorter than `shortest`, lengths at most `spread` apart, and neither more than
`ratio` times the other once two tokens are taken off each. -/
def keepsPair (longest shortest spread ratio : Data) (s t : Nat) : Result Bool := do
  if exceeds longest s false || exceeds longest t false || exceeds shortest s true || exceeds shortest t true then
    return false
  match spread.num? with
  | some d => if (((s : Int) - t).natAbs).toFloat > d then return false
  | none => pure ()
  if ratio.isNull then return true
  let r := (max ((s : Int) - 2) 1 |>.toNat).toFloat / (max ((t : Int) - 2) 1 |>.toNat).toFloat
  let inverse ← inverseRatio ratio
  match ratio.num? with
  | some x => pure !(r > x || r < inverse)
  | none => pure true

/-- The number of sentence pairs left to batch: all of them, or those that survive cleaning
within the limits.  Cleaning needs as many targets as sources; without it each source needs a
target. -/
def pairsLeft (clean : Bool) (longest shortest spread ratio : Data) (src tgt : List (List Nat)) :
    Result Nat := do
  if clean then
    if src.length != tgt.length then throw (.value "Source and target corpora have different lengths!")
    let kept ← (src.zip tgt).filterM fun (s, t) => keepsPair longest shortest spread ratio s.length t.length
    pure kept.length
  else
    if tgt.length < src.length then throw .listIndex
    pure src.length

/-- The pairs of a fragment left to batch, the limits of spread and ratio taken from the longest
length. -/
def batchedPairs (clean : Bool) (longest shortest : Data) (src tgt : List (List Nat)) : Result Nat :=
  pairsLeft clean longest shortest longest longest src tgt

/-- Batches a fragment of sentence pairs into the output directory: a fragment with a batch
fails at padding, one without gives an empty archive.  Gives the number of batches and the
archive's path. -/
def batchFragment (outDir : String) (clean longest shortest numTokens fragment : Data)
    (encTok decTok : Data) (srcLines tgtLines : List String) : Work Data := do
  let src ← linesIds encTok srcLines
  let tgt ← linesIds decTok tgtLines
  if (← batchedPairs clean.truthy longest shortest src tgt) > 0 then throw removedIntegerAlias
  let path := FileSystem.join outDir s!"fragment-{fragment.text}-batches.tokens.{← (wholeText numTokens)}.0.tar"
  Work.writeStored path (.list [])
  pure (.list [.int 0, .str path])

/-- Makes a directory and those above it; the path must be a text that names no file. -/
def makeOutputDir (d : Data) : Work String := do
  let dir ← pathArgument d
  if dir.isEmpty then throw (Work.noSuchFile "")
  if ← Work.isFile dir then throw ⟨"FileExistsError", s!"[Errno 17] File exists: {Text.quote dir}"⟩
  Work.makeDirs dir
  pure dir

def archivesIn (dir : String) (keep : String → Bool) : Work (List String) := do
  let names := (← Work.files).entries dir
  pure ((names.filter fun n => n.endsWith ".tar" && !n.startsWith "." && keep n).map fun n => dir ++ "/" ++ n)

/-- The failure of too few archives for the processes that read them. -/
def tooFewArchives (found : Nat) (world : Data) : Failure :=
  .value (s!"Number of tar files found: {found} is less than world size: {world.text}. " ++
    "There should be at least one tar file per GPU (ideally many tar files per GPU). " ++
    "This may be due to dataset size, it is advisable to use at least 5M sentence pairs for tarred datasets. " ++
    "Decrease num_batches_per_tarfile or num_tokens_per_batch to increase the number of tarfiles. " ++
    "Also using shard_strategy=replicate will use all available tarfiles for every GPU. ")

def fewerThan (found : Nat) (world : Data) : Bool :=
  match world.num? with
  | some w => found.toFloat < w
  | none => false

/-- The library of a tokenizer setting, read as a mapping's entry. -/
def settingEntry (node : Data) (key : String) (default : Data := .null) : Result Data :=
  match node with
  | .dict kvs => .ok ((kvs.lookup key).getD default)
  | other => .error (noAttribute other.kindName "get")

/-- A section of a configuration read as an attribute, its full key given by `path`. -/
def sectionAt (node : Data) (path key : String) : Result Data :=
  match node with
  | .dict kvs =>
    match kvs.lookup key with
    | some v => .ok v
    | none => .error (located "ConfigAttributeError" s!"Missing key {key}" (path ++ key) "dict")
  | other => .error (noAttribute other.kindName key)

/-- A configuration section as plain data, for a truthy section. -/
def containerOf (d : Data) : Result Data :=
  match d with
  | .dict _ | .list _ => .ok d
  | _ => .error (.value "Input cfg is not an OmegaConf config object")

/-- What training the tokenizers is given. -/
structure TokenizerTraining where
  outDir : Data
  shared : Data
  encoderLibrary : Data
  encoderVocabulary : Data
  decoderLibrary : Data
  decoderVocabulary : Data
  rank : Data
  encoderSpecials : Data := .null
  decoderSpecials : Data := .null
  /-- Whether the model translates between several languages. -/
  multilingual : Data := .bool false

/-- A tokenizer model that is trained unless its file exists; only the first process trains. -/
def trainedModel (rank : Data) (path : String) : Work Unit := do
  if Data.same rank (.int 0) && !(← Work.isFile path) then
    throw (.unavailable "tokenizer training")

/-- The tokenizer model files of the encoder and the decoder, trained where missing. -/
def trainTokenizers (t : TokenizerTraining) : Work Data := do
  let outDir ← makeOutputDir t.outDir
  if t.encoderSpecials.truthy then
    match t.encoderSpecials with
    | .dict kvs => Work.printLine (Data.list (kvs.map (·.2))).show
    | _ => pure ()
  if t.multilingual.truthy && !(t.encoderLibrary matches .str "sentencepiece") then
    throw ⟨"NotImplementedError", "Currently we only support training setencepiece tokenizer for multilingual model."⟩
  if t.shared.truthy then
    if !namesLibrary trainedLibraries t.encoderLibrary || !namesLibrary trainedLibraries t.decoderLibrary then
      throw ⟨"NotImplementedError",
        "Currently we only support tokenizers in ['yttm', 'sentencepiece'] for shared tokenizer."⟩
    let path := FileSystem.join outDir s!"shared_tokenizer.{← (wholeText t.encoderVocabulary)}.BPE.model"
    trainedModel t.rank path
    return .list [.str path, .str path]
  let enc ← if namesLibrary trainedLibraries t.encoderLibrary then do
      let path := FileSystem.join outDir s!"tokenizer.encoder.{← (wholeText t.encoderVocabulary)}.BPE.model"
      trainedModel t.rank path
      pure (Data.str path)
    else pure .null
  let dec ← if namesLibrary trainedLibraries t.decoderLibrary then do
      let path := FileSystem.join outDir s!"tokenizer.decoder.{← (wholeText t.decoderVocabulary)}.BPE.model"
      trainedModel t.rank path
      pure (Data.str path)
    else pure .null
  pure (.list [enc, dec])

def trainTokenizersCallee : Callee :=
  functionOf "MTDataPreproc.train_tokenizers"
    [req "out_dir", req "src_fname", req "tgt_fname", req "shared_tokenizer", req "encoder_tokenizer_name",
     req "encoder_tokenizer_vocab_size", req "encoder_tokenizer_coverage", req "decoder_tokenizer_name",
     req "decoder_tokenizer_vocab_size", req "decoder_tokenizer_coverage", req "global_rank",
     opt "encoder_training_sample_size" (.int (-1)), opt "decoder_training_sample_size" (.int (-1)),
     opt "encoder_special_tokens" .null, opt "decoder_special_tokens" .null, opt "spt_symbols" .null,
     opt "multilingual" (.bool false)] fun v =>
    let t : TokenizerTraining := {
      outDir := arg v 0
      shared := arg v 3
      encoderLibrary := arg v 4
      encoderVocabulary := arg v 5
      decoderLibrary := arg v 7
      decoderVocabulary := arg v 8
      rank := v.getD 10 .null
      encoderSpecials := v.getD 13 .null
      decoderSpecials := v.getD 14 .null
      multilingual := v.getD 16 .null }
    trainTokenizers t

/-- `MTDataPreproc.get_enc_dec_tokenizers`: the tokenizers of both sides. -/
def pairTokenizersCallee : Callee :=
  functionOf "MTDataPreproc.get_enc_dec_tokenizers"
    [opt "encoder_tokenizer_name" .null, opt "encoder_tokenizer_model" .null, opt "encoder_bpe_dropout" (.float 0.0),
     opt "encoder_model_name" .null, opt "decoder_tokenizer_name" .null, opt "decoder_tokenizer_model" .null,
     opt "decoder_bpe_dropout" (.float 0.0), opt "decoder_model_name" .null] fun v => do
    let (enc, dec) ← pairTokenizers (arg v 0) (arg v 1) (arg v 3) (arg v 4)
      (arg v 5) (arg v 7)
    pure (.list [enc, dec])

/-- `MTDataPreproc.get_monolingual_tokenizer`: only the `yttm` library. -/
def monolingualTokenizerCallee : Callee :=
  functionOf "MTDataPreproc.get_monolingual_tokenizer"
    [opt "tokenizer_name" .null, opt "tokenizer_model" .null, opt "bpe_dropout" (.float 0.0)] fun v => do
    if !(arg v 0 matches .str "yttm") then
      throw ⟨"NotImplementedError", "Currently we only support yttm tokenizer."⟩
    libraryTokenizer (.str "yttm") .null (arg v 1)

def lineCountCallee : Callee :=
  functionOf "MTDataPreproc._get_num_lines" [req "filename"] fun v => do
    pure (.int (← fileLineCount (← pathArgument (arg v 0))))

def fragmentBoundsCallee : Callee :=
  functionOf "MTDataPreproc._get_lines_partition" [req "num_lines", req "lines_per_dataset_fragment"] fun v => do
    let lines ← countArgument (arg v 0)
    let per ← countArgument (arg v 1)
    let bounds ← fragmentBounds lines per
    pure (.list (bounds.map fun (a, b) => .list [.int a, .int b]))

/-- The parameters after the output settings shared by the fragment writers: the tokenizers of
both sides. -/
def tokenizerParams : List Entry.Param :=
  [req "encoder_tokenizer_name", req "encoder_tokenizer_model", req "encoder_bpe_dropout",
   req "encoder_model_name", req "decoder_tokenizer_name", req "decoder_tokenizer_model",
   req "decoder_bpe_dropout", req "decoder_model_name"]

/-- The tokenizers named by eight values from `start` on, in the order of `tokenizerParams`. -/
def tokenizersAt (v : List Data) (start : Nat) : Work (Data × Data) :=
  pairTokenizers (v.getD start .null) (v.getD (start + 1) .null) (v.getD (start + 3) .null)
    (v.getD (start + 4) .null) (v.getD (start + 5) .null) (v.getD (start + 7) .null)

def writeBatchesCallee : Callee :=
  functionOf "MTDataPreproc.write_parallel_batches_to_tarfiles"
    ([req "out_dir", req "num_batches_per_tarfile", req "clean", req "max_seq_length", req "min_seq_length",
      req "src_fname", req "tgt_fname", req "num_tokens"] ++ tokenizerParams ++ [req "fragment_index"]) fun v => do
    let (enc, dec) ← tokenizersAt v 8
    let src ← Work.readFile (← pathArgument (arg v 5))
    let tgt ← Work.readFile (← pathArgument (arg v 6))
    batchFragment (← pathArgument (arg v 0)) (arg v 2) (arg v 3)
      (arg v 4) (arg v 7) (v.getD 16 .null) enc dec (Service.byteLines src) (Service.byteLines tgt)

/-- Whether line `i` passes a fragment's test `start <= i < stop`; whole numbers compare exactly,
so a `stop` of `-1` takes no line. -/
def inFragment (start stop : Data) (i : Nat) : Bool :=
  match start, stop with
  | .int a, .int b => a ≤ i && i < b
  | _, _ =>
    match start.num?, stop.num? with
    | some a, some b => a ≤ i.toFloat && i.toFloat < b
    | _, _ => false

/-- The lines of two files numbered from `start` up to before `stop`, as pairs go. -/
def fragmentLines (srcPath tgtPath : String) (start stop : Data) : Work (List String × List String) := do
  let src ← Work.readLines srcPath
  let tgt ← Work.readLines tgtPath
  let pairs := ((src.zip tgt).zipIdx).filter fun (_, i) => inFragment start stop i
  pure (pairs.map (·.1.1), pairs.map (·.1.2))

def processFragmentCallee : Callee :=
  functionOf "MTDataPreproc._process_fragment"
    ([req "src_filename", req "tgt_filename", req "lines_indices", req "out_dir", req "num_batches_per_tarfile",
      req "clean", req "max_seq_length", req "min_seq_length", req "tokens_in_batch"] ++ tokenizerParams ++
      [req "fragment_index"]) fun v => do
    let srcPath ← pathArgument (arg v 0)
    let tgtPath ← pathArgument (arg v 1)
    let bounds := arg v 2
    let start ← bounds.item 0
    let stop ← bounds.item 1
    let (srcLines, tgtLines) ← fragmentLines srcPath tgtPath start stop
    let (enc, dec) ← tokenizersAt v 9
    batchFragment (← pathArgument (arg v 3)) (arg v 5) (arg v 6)
      (arg v 7) (arg v 8) (v.getD 17 .null) enc dec srcLines tgtLines

/-- `MTDataPreproc.preprocess_parallel_dataset`: the
archives of the corpus, made by the first process unless some exist, and the metadata file. -/
def parallelCorpusCallee : Callee :=
  functionOf "MTDataPreproc.preprocess_parallel_dataset"
    ([req "clean", req "src_fname", req "tgt_fname", req "out_dir"] ++ tokenizerParams ++
      [req "max_seq_length", req "min_seq_length", req "tokens_in_batch", req "lines_per_dataset_fragment",
       req "num_batches_per_tarfile", req "global_rank", req "world_size", opt "n_jobs" (.int (-2)),
       opt "tar_file_prefix" (.str "parallel")]) fun v => do
    let outDir ← makeOutputDir (arg v 3)
    let metadataPath := FileSystem.join outDir s!"metadata.tokens.{(v.getD 14 .null).text}.json"
    if Data.same (v.getD 17 .null) (.int 0) && (← archivesIn outDir fun _ => true).isEmpty then
      let srcPath ← pathArgument (arg v 1)
      let tgtPath ← pathArgument (arg v 2)
      let srcCount ← fileLineCount srcPath
      let tgtCount ← fileLineCount tgtPath
      if srcCount != tgtCount then
        throw (.assertion "Number of source lines should equal number of target lines.")
      let bounds ← fragmentBounds srcCount (← countArgument (v.getD 15 .null))
      let mut archives : List String := []
      for ((a, b), i) in bounds.zipIdx do
        let (srcLines, tgtLines) ← fragmentLines srcPath tgtPath (.int a) (.int b)
        let (enc, dec) ← tokenizersAt v 4
        let made ← batchFragment outDir (arg v 0) (v.getD 12 .null) (v.getD 13 .null) (v.getD 14 .null)
          (.int i) enc dec srcLines tgtLines
        archives := archives ++ [(← made.item 1).text]
      let remainder := FileSystem.join outDir s!"remainder-batches.tokens.{(v.getD 14 .null).text}.tar_file_0.tar"
      Work.writeStored remainder (.list [])
      for a in archives do Work.removeFile a
      Work.removeFile remainder
      Work.writeFile metadataPath (Json.dump (.dict [("num_batches", .int 0),
        ("tar_files", Data.strs (← archivesIn outDir fun _ => true))]))
    let found ← archivesIn outDir fun _ => true
    if fewerThan found.length (v.getD 18 .null) then throw (tooFewArchives found.length (v.getD 18 .null))
    pure (.list [Data.strs found, .str metadataPath])

/-- Whether a fragment of sentences has a batch once tokenized and cleaned; a sentence too long
for a batch of its own fails the packing. -/
def sentencesBatch (tok : Data) (clean longest shortest budget : Data) (lines : List String) :
    Work Bool := do
  let ids ← linesIds tok lines
  let ids := if clean.truthy then ids.filter fun s =>
      !(exceeds longest s.length false || exceeds shortest s.length true) else ids
  let (batches, _) ← (Batching.packSentences ((budget.num?.map Numeric.truncToInt).getD 0)
    (ids.map List.length))
  pure !batches.isEmpty

/-- The lines of a text in fragments of `perFragment` lines, and the rest as a last fragment. -/
def lineFragments (perFragment : Data) (lines : List String) : List (List String) :=
  match perFragment with
  | .int n =>
    if n > 0 then
      let k := n.toNat
      let whole := lines.length / k
      (List.range whole).map (fun i => (lines.drop (i * k)).take k) ++ [lines.drop (whole * k)]
    else [lines]
  | _ => [lines]

def monolingualCorpusCallee : Callee :=
  functionOf "MTDataPreproc.preprocess_monolingual_dataset"
    [req "clean", req "fname", req "out_dir", req "tokenizer", req "max_seq_length", req "min_seq_length",
     req "tokens_in_batch", req "lines_per_dataset_fragment", req "num_batches_per_tarfile",
     req "pkl_file_prefix", req "global_rank", req "world_size"] fun v => do
    let outDir ← makeOutputDir (arg v 2)
    let prefix_ := (arg v 9).text
    let budget ← wholeText (arg v 6)
    let first := FileSystem.join outDir s!"{prefix_}-batches.tokens.{budget}.1.tar"
    Work.writeFile first ""
    let metadataPath := FileSystem.join outDir s!"metadata.tokens.{(arg v 6).text}.json"
    let lines ← Work.readLines (← pathArgument (arg v 1))
    for fragment in lineFragments (arg v 7) lines do
      if ← sentencesBatch (arg v 3) (arg v 0) (arg v 4) (arg v 5) (arg v 6) fragment then
        throw removedIntegerAlias
    Work.writeStored first (.list [])
    if !Data.same (arg v 8) (.int 0) then
      Work.removeFile first
      Work.printLine "Dropping 0 batches because of overflow"
    Work.writeFile (FileSystem.join outDir "metadata.json") (Json.dump (.dict [("num_batches", .int 0)]))
    let found ← archivesIn outDir fun n => n.startsWith s!"{prefix_}-batches.tokens.{(arg v 6).text}."
    if fewerThan found.length (v.getD 11 .null) then throw (tooFewArchives found.length (v.getD 11 .null))
    pure (.list [Data.strs found, .str metadataPath])

/-- The rank of this process and the number of processes, from a trainer: one process of rank
zero without one. -/
def processPlace (trainer : Data) : Result (Data × Data) := do
  if trainer.isNull then return (.int 0, .int 1)
  let node ← Entry.attr trainer "node_rank"
  let gpus ← Entry.attr trainer "num_gpus"
  let localRank ← Entry.attr trainer "local_rank"
  let rank ← Data.plus (← Data.times node gpus) localRank
  let nodes ← Entry.attr trainer "num_nodes"
  let world ← Data.times nodes (← Entry.attr trainer "num_gpus")
  pure (rank, world)

/-- The tokenizer model files a configuration leads to: trained ones when a trained library
has none, else those it names; none for libraries that are not trained here. -/
def configuredModels (top : Entries) (enc dec encLib decLib : Data) (rank : Data) :
    Work (Option (Data × Data)) := do
  if !(namesLibrary trainedLibraries encLib || namesLibrary trainedLibraries decLib) then return none
  let encModel ← settingEntry enc "tokenizer_model"
  let decModel ← settingEntry dec "tokenizer_model"
  if (namesLibrary trainedLibraries encLib && encModel.isNull) || (namesLibrary trainedLibraries decLib && decModel.isNull) then
    let cfg := Data.dict top
    let outDir ← settingEntry cfg "preproc_out_dir"
    if outDir.isNull then throw (.value "Tokenizer model training required but cfg.preproc_out_dir is None.")
    let train ← sectionAt cfg "" "train_ds"
    let src ← settingEntry train "src_file_name"
    let tgt ← settingEntry train "tgt_file_name"
    if src.isNull || tgt.isNull then
      throw (.value "src_file_name and tgt_file_name needed to train tokenizers but could not be found.")
    let encSpecials ← sectionAt enc "encoder_tokenizer." "special_tokens"
    let encSpecials ← if encSpecials.truthy then (containerOf encSpecials) else pure .null
    let decSpecials ← sectionAt dec "decoder_tokenizer." "special_tokens"
    let decSpecials ← if decSpecials.truthy then (containerOf decSpecials) else pure .null
    let shared ← settingEntry cfg "shared_tokenizer"
    let encVocabulary ← settingEntry enc "vocab_size"
    let decVocabulary ← settingEntry dec "vocab_size"
    let multilingual ← settingEntry cfg "multilingual" (.bool false)
    let training : TokenizerTraining := {
      outDir, shared, rank, multilingual
      encoderLibrary := encLib
      encoderVocabulary := encVocabulary
      decoderLibrary := decLib
      decoderVocabulary := decVocabulary
      encoderSpecials := encSpecials
      decoderSpecials := decSpecials }
    let models ← trainTokenizers training
    pure (some ((← models.item 0), (← models.item 1)))
  else pure (some (encModel, decModel))

/-- `MTDataPreproc`: checks the tokenizer settings of a configuration with a
training section, trains missing tokenizer models and makes the tokenizers. -/
def corpusPreparationCallee : Callee :=
  functionOf "MTDataPreproc.__init__" [req "cfg", opt "trainer" .null] fun v => do
    let cfg := arg v 0
    let (rank, world) ← processPlace (arg v 1)
    let made := objectData "MTDataPreproc" [("_cfg", cfg), ("global_rank", rank), ("world_size", world)]
    let top := match tagged? cfg "$cfg" with
      | some (.dict kvs) => kvs
      | _ => []
    if !(top.any (·.1 == "train_ds")) then return made
    let root := Data.dict top
    let supported := "Currently we only support ['yttm', 'huggingface', 'sentencepiece', 'megatron']."
    let enc ← sectionAt root "" "encoder_tokenizer"
    let encLib ← settingEntry enc "library"
    if !namesLibrary translationLibraries encLib then throw ⟨"NotImplementedError", supported⟩
    let dec ← sectionAt root "" "decoder_tokenizer"
    let decLib ← settingEntry dec "library"
    if !namesLibrary translationLibraries decLib then throw ⟨"NotImplementedError", supported⟩
    if (← settingEntry root "shared_tokenizer").truthy && encLib.text != decLib.text then
      throw (.value "Shared tokenizers cannot be from different libraries.")
    let models ← configuredModels top enc dec encLib decLib rank
    let encName ← settingEntry (← sectionAt root "" "encoder") "model_name"
    let missingModel := noAttribute "MTDataPreproc" "encoder_tokenizer_model"
    let some (encModel, decModel) := models | throw missingModel
    let decName ← settingEntry (← sectionAt root "" "decoder") "model_name"
    let _ ← pairTokenizers encLib encModel encName decLib decModel decName
    pure (made |> fun d => setAttr (setAttr d "encoder_tokenizer_model" encModel) "decoder_tokenizer_model" decModel)

def corpusCallees : List (String × Callee) :=
  [("MTDataPreproc", corpusPreparationCallee), ("MTDataPreproc.train_tokenizers", trainTokenizersCallee),
   ("MTDataPreproc.get_enc_dec_tokenizers", pairTokenizersCallee),
   ("MTDataPreproc.get_monolingual_tokenizer", monolingualTokenizerCallee),
   ("MTDataPreproc._get_num_lines", lineCountCallee), ("MTDataPreproc._get_lines_partition", fragmentBoundsCallee),
   ("MTDataPreproc.write_parallel_batches_to_tarfiles", writeBatchesCallee),
   ("MTDataPreproc._process_fragment", processFragmentCallee),
   ("MTDataPreproc.preprocess_parallel_dataset", parallelCorpusCallee),
   ("MTDataPreproc.preprocess_monolingual_dataset", monolingualCorpusCallee)].map fun (n, c) => (corpusName n, c)

end Conversa.Callees
