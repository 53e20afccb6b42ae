import Conversa.Callees.Tarred
import Conversa.Callees.TranslationPairs

/-!
# Text corpora for language models

`trainingLines` reads the sentences of a text file or manifest and `appendTokenLines` appends
them tokenized; `sentenceChunks`, `packChunk` and `writeChunkArchives` store tokenized chunks in
sharded archives with a summary; `rowSoftmax` takes the softmax of each row after subtracting the
matrix's largest score.
-/

namespace Conversa.Callees

open Entry

/-- The sentences of a text file, or the transcripts of a manifest (a path ending in `.json`),
trimmed and optionally lowercased; empty ones are left out. -/
def trainingLines (path : String) (lower : Bool) : Work (List String) := do
  let mut out : List String := []
  for line in ← Work.readLines path do
    let text ← if path.endsWith ".json" then do
        match ← ((← Speech.lineObject line).key "text") with
        | .str s => pure s
        | other => throw (noAttribute other.kindName "replace")
      else pure line
    let text := Text.strip (text.replace "\n" "")
    let text := if lower then Text.lower text else text
    if !text.isEmpty then out := out ++ [text]
  pure out

/-- Appends tokenized sentences to a file, one a line with tokens joined by blanks, making its
directory first. -/
def appendTokenLines (chunks : List Data) (path : String) : Work Unit := do
  let dir := FileSystem.directoryPart path
  let dir := if dir.length > 1 && dir.endsWith "/" then String.ofList dir.toList.dropLast else dir
  if !(← Work.pathExists dir) then
    if dir.isEmpty then throw (Work.noSuchFile "")
    Work.makeDirs dir
  if !(← Work.pathExists path) then Work.writeFile path ""
  for chunk in chunks do
    for text in ← (plain chunk).elements do
      let tokens ← (plain text).elements
      let words ← tokens.mapM fun t => match t with
        | .str s => pure s
        | other => throw (.type s!"sequence item 0: expected str instance, {other.kindName} found")
      Work.appendFile path (" ".intercalate words ++ "\n")

/-- The softmax of each row of a matrix, after subtracting the largest score of the matrix. -/
def rowSoftmax (rows : List (List Float)) : Result (List (List Float)) := do
  let top := (rows.flatten.foldl (fun m x => if x > m then x else m) (-1.0 / 0.0))
  let exps := rows.map fun r => r.map fun x => Float.exp (x - top)
  pure (exps.map fun r => let s := Numeric.arraySum r; r.map (· / s))

/-- Chunks of sentences of a comma-separated list of files, each with the number of sentences
read so far; a chunk closes after every `size` sentences and the last one with what remains.
At most `limit` chunks are read. -/
def sentenceChunks (texts : String) (lower : Bool) (size : Int) (limit : Nat) :
    Work (List (List String × Nat)) := do
  let files := if texts.contains ',' then texts.splitOn "," else [texts]
  let mut out : List (List String × Nat) := []
  let mut current : List String := []
  let mut count : Nat := 0
  for file in files do
    if out.length ≥ limit then break
    for line in ← Work.readLines file do
      if out.length ≥ limit then break
      let line := Text.strip (line.replace "\n" "")
      let line := if lower then Text.lower line else line
      if line.isEmpty then continue
      current := current ++ [line]
      count := count + 1
      if size == 0 then throw ⟨"ZeroDivisionError", "integer modulo by zero"⟩
      if (count : Int) % size == 0 then
        out := out ++ [(current, count)]
        current := []
  if out.length < limit && !current.isEmpty then out := out ++ [(current, count)]
  pure out

/-- The content of a file as an archive holds it: its bytes when it came as bytes, its text
otherwise. -/
def archivedContent (path : String) : Work Data := do
  match (← Work.files).readStored? path with
  | some d => pure d
  | none => pure (.str (← Work.readFile path))

/-- The length of the first axis of a stored array, read from its header. -/
def storedArrayLength (path : String) : Work Nat := do
  let bytes ← Work.readBytes path
  let header := String.ofList (Text.decodeLossy (bytes.take 512))
  match (header.splitOn "'shape': (").getD 1 "" |>.toList.takeWhile Char.isDigit with
  | [] => throw (.type "len() of unsized object")
  | ds => pure (ds.foldl (fun n c => 10 * n + (c.toNat - '0'.toNat)) 0)

/-- Packs a chunk file into the archive of its shard, its stem's dots and colons made
underscores; gives the chunk's length when asked. -/
def packChunk (root : String) (chunk : String) (shard : Data) (measure : Bool) : Work (Option Nat) := do
  let archive := FileSystem.join root s!"text_{shard.text}.tar"
  let before := (← Work.files).readStored? archive
  if !(← Work.pathExists chunk) then
    if before.isNone then Work.writeFile archive ""
    throw (Work.noSuchFile chunk)
  let (base, ext) := splitExtension chunk
  let name := base.map (fun c => if c == ':' || c == '.' then '_' else c) ++ ext
  let members := (before.map Data.items).getD []
  Work.writeStored archive (.list (members ++ [.list [.str name, ← archivedContent chunk]]))
  if measure then pure (some (← storedArrayLength chunk)) else pure none

/-- Packs chunk files into shard archives and writes the summary of chunk and sentence counts:
the given lengths, or those measured from the chunks. -/
def writeChunkArchives (root : String) (shards : Data) (chunks : List String) (lengths : Option (List Data)) :
    Work Unit := do
  let mut total : Data := .int 0
  let mut counts : Entries := []
  match lengths with
  | some ls =>
    for l in ls do total ← Data.plus total l
    counts := ls.zipIdx.map fun (l, i) => (toString i, l)
  | none => pure ()
  for (chunk, i) in chunks.zipIdx do
    let shard ← match plain shards with
      | .int 0 => throw ⟨"ZeroDivisionError", "integer modulo by zero"⟩
      | .int n => pure (Data.int ((i : Int) % n))
      | other => throw (.type s!"unsupported operand type(s) for %: 'int' and {Text.quote other.kindName}")
    match ← packChunk root chunk shard lengths.isNone with
    | some n =>
      total ← Data.plus total (.int n)
      counts := counts ++ [(toString i, .int n)]
    | none => pure ()
  let summary := Data.dict [("num_chunks", .int chunks.length), ("num_text", total), ("shard_count", .dict counts)]
  Work.writeFile (FileSystem.join root "metadata.json") (Json.dumpIndented 4 0 summary)

def lmArchiveScript : String := "scripts/asr_language_modeling/neural_rescorer/create_tarred_transformer_lm_dataset.py"

def lmArchiveCommandLine : CommandLine :=
  { prog := "create_tarred_transformer_lm_dataset.py"
    description := some "Tarred Tokenized dataset for text language modelling"
    arguments := [
      option "--text_path" .text .null true (some "Text paths, seperated by commas"),
      option "--data_root" .text .null true (some "Output directory"),
      option "--chunk_write_buffer" .int (.int 128) false
        (some "Number of chunks of \x60chunk_size\x60 to buffer for parallel tokenization and serial write to disk"),
      switch "--lower_case" (some "Whether to lower case the corpus"),
      switch "--log" (some "Whether to print logs to terminal"),
      option "--tokenizer_name" .text .null false (some "Tokenizer name for resolution"),
      option "--tokenizer_model" .text .null false (some "Path to tokenizer model for sentencepiece"),
      option "--tokenizer_vocab_file" .text .null false (some "Path to a vocab file"),
      { option "--tokenizer_special_tokens" .text .null false (some "List of special tokens for the tokenizer") with
          arity := .some },
      option "--num_shards" .int (.int 1) false (some "Number of shards for the tarfile"),
      option "--chunk_size" .int (.int 8192) false (some "Number of rows of data concatenated into a vector")] }

/-- The archive script: packs cached chunks, or refuses to tokenize without a tokenizer. -/
def lmArchiveMain : Callee := fun r => do
  let args ← lmArchiveCommandLine.run r.argv
  let value := kwarg args
  let root := (value "data_root").text
  let cache := FileSystem.join root "_tokenized_dataset_cachedir"
  Work.makeDirs root
  let cached ← if ← Work.isDir cache then do
      pure (((← Work.files).entries cache).filter fun n => n.endsWith ".npy" && !n.startsWith ".")
    else pure []
  if cached.isEmpty then
    if (value "tokenizer_name").isNull then
      throw (.value "\x60tokenizer_name\x60 name is required when tokenizing the dataset for the first time.")
    if (value "tokenizer_vocab_file").isNull then
      throw (.value "\x60tokenizer_vocab_file\x60 is required when constructing the tokenized dataset")
    throw (.unavailable "joblib")
  writeChunkArchives root (value "num_shards") (cached.map (FileSystem.join cache ·)) none
  pure (.plain .null)

def ngramScript : String := "scripts/asr_language_modeling/ngram_lm/kenlm_utils.py"

def languageModelCorpusCallees : List (String × Callee) :=
  [(ngramScript ++ ":read_train_file", functionOf "read_train_file" [req "path", opt "lowercase" (.bool false)] fun vals => do
      pure (Data.strs (← trainingLines (plainArg vals 0).text (plainArg vals 1).truthy))),
   (ngramScript ++ ":write_dataset", functionOf "write_dataset" [req "chunks", req "path"] fun vals => do
      appendTokenLines (← (plainArg vals 0).elements) (plainArg vals 1).text
      pure .null),
   (ngramScript ++ ":softmax", functionOf "softmax" [req "x"] fun vals => do
      let (elems, _) := arrayOf (arg vals 0)
      let rows := elems.items.map fun r => match r with
        | .list xs => xs.map number
        | x => [number x]
      let twoDimensional := elems.items.all fun r => match r with | .list _ => true | _ => false
      if !twoDimensional && rows.length != 1 then
        throw (.value s!"cannot reshape array of size 1 into shape ({rows.length},1)")
      let rows := if twoDimensional then rows else [rows.flatten]
      pure (rowsData "float64" (← rowSoftmax rows))),
   (lmArchiveScript ++ ":__build_dataset_from_text", fun r => do
      let vals ← (Arguments.bind r.args.intake
        "__build_dataset_from_text" [req "texts", req "lower_case", req "chunk_size"])
      let arg := plainArg vals
      match (r.fields.getD "take").int? with
      | some n =>
        let chunks ← sentenceChunks (arg 0).text (arg 1).truthy ((arg 2).int?.getD 0) n.toNat
        pure (.plain (.list (chunks.map fun (c, k) => .list [Data.strs c, .int k])))
      | none => pure (.plain (.dict [("type", .str "generator")]))),
   (lmArchiveScript ++ ":__tokenize_str", functionOf "__tokenize_str" [req "texts", req "tokenizer"] fun vals => do
      let tok ← tokenizerArg (vals.getD 1 .null) "text_to_ids"
      let mut ids : List Nat := []
      for t in ← (plainArg vals 0).elements do
        ids := ids ++ (← tok.textToIds t.text)
      pure (Data.nats ids)),
   (lmArchiveScript ++ ":__create_chunk", functionOf "__create_chunk"
      [req "data_root", req "chunk_path", req "shard_id", opt "compute_metrics" (.bool false)] fun vals => do
      let arg := plainArg vals
      match ← packChunk (arg 0).text (arg 1).text (arg 2) (arg 3).truthy with
      | some n => pure (.list [.int n])
      | none => pure .null),
   (lmArchiveScript ++ ":__write_tarred_tokenized_text_dataset", functionOf "__write_tarred_tokenized_text_dataset"
      [req "data_root", req "num_shards", req "chunk_paths", req "chunk_lens"] fun vals => do
      let arg := plainArg vals
      let lengths := match arg 3 with
        | .null => none
        | d => some d.items
      writeChunkArchives (arg 0).text (arg 1) ((arg 2).items.map Data.text) lengths
      pure .null),
   (lmArchiveScript ++ ":__main__", lmArchiveMain)]

def languageModelCorpusLoaders : List (String × (Request → Work Unit)) :=
  [(lmArchiveScript, fun r => do let _ ← lmArchiveCommandLine.run r.argv)]

end Conversa.Callees
