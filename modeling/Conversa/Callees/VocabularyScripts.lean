import Conversa.Callees.Subword
import Conversa.Entry.CommandLine
import Conversa.Speech.Manifest

/-!
# Scripts that build vocabularies

**Phone dictionary.**  A dictionary of a word and its phones a line becomes a table and a
numbering of the phones in order of first use, then the blank, shared by silence, short pauses,
unknown words and punctuation.  **Speech tokenizer.**  Manifest transcripts are gathered into
one document (kept if present), and a tokenizer made from it in a directory named by its settings.
-/

namespace Conversa.Callees

open Entry

def spokenPunctuation : List String := [",", ";", ".", "!", "?", "\"", "-"]

/-- A table with a key set: in its place when the table has it, at the end otherwise. -/
def setEntry {α : Type} (table : List (String × α)) (k : String) (v : α) : List (String × α) :=
  if table.any (·.1 == k) then table.map fun (k', v') => if k' == k then (k', v) else (k', v')
  else table ++ [(k, v)]

/-- The word table and phone numbering of a pronunciation dictionary's lines. -/
def phoneTables (lines : List String) : Result (List (String × List String) × List (String × Nat)) := do
  let mut words : List (String × List String) := []
  let mut phones : List String := []
  for line in lines do
    let ws := Text.words line
    let some word := ws.head? | throw .listIndex
    let tokens := ws.drop 1
    words := setEntry words word tokens
    phones := (phones ++ tokens).eraseDups
  let blank := phones.length
  pure (spokenPunctuation.foldl (fun acc p => setEntry acc p [" "]) words,
    [" ", "sil", "sp", "spn"].foldl (fun acc k => setEntry acc k blank) phones.zipIdx)

def phoneDictionaryCommandLine : CommandLine :=
  { prog := "create_token2idx_dict.py"
    arguments := [option "--dictionary" .text .null true none, option "--dict_out" .text .null true none] }

/-- The phone dictionary script: writes the word table and phone numbering of a dictionary. -/
def phoneDictionaryMain : Callee := fun r => do
  let args ← phoneDictionaryCommandLine.run r.argv
  let dictionary := (kwarg args "dictionary").text
  let out := (kwarg args "dict_out").text
  if !(← Work.pathExists dictionary) then
    throw ⟨"FileNotFoundError", s!"Could not find dictionary file {dictionary}"⟩
  let (words, phones) ← phoneTables (← Work.readLines dictionary)
  let table := Data.dict [("phone2idx", .dict (phones.map fun (k, i) => (k, .int i))),
    ("word2phones", .dict (words.map fun (w, ps) => (w, Data.strs ps)))]
  Work.writeFile out (Json.dump table)
  Work.printLine s!"Total number of phone indices: {phones.length}"
  pure (.plain .null)

def speechTokenizerScript : String := "scripts/tokenizers/process_asr_text_tokenizer.py"

def speechTokenizerCommandLine : CommandLine :=
  { prog := "process_asr_text_tokenizer.py"
    description := some "Create tokenizer"
    arguments := [
      option "--manifest" .text .null false (some "Comma separated list of manifest files"),
      option "--data_file" .text .null false (some "data file from which to create tokenizer model"),
      option "--data_root" .text .null true (some "Output directory"),
      option "--vocab_size" .int (.int 1024) false (some "Vocabulary size"),
      { option "--tokenizer" .text (.str "wpe") false (some "Type of tokenization to perform") with
          choices := [.str "spe", .str "wpe"] },
      { option "--spe_type" .text (.str "bpe") false
          (some "Type of the SentencePiece model. Can be \x60bpe\x60, \x60unigram\x60, \x60char\x60 or \x60word\x60.Used only if -\x2dtokenizer == \x60spe\x60") with
          choices := [.str "bpe", .str "unigram", .str "char", .str "word"] },
      option "--spe_character_coverage" .float (.float 1.0) false
        (some "Character coverage percentage for SentencePiece tokenization. For languages with large vocabulary, should be close to 0.9995, otherwise kept as 1.0"),
      switch "--spe_bos" (some "Add <s> token to SentencePiece Tokenizer."),
      switch "--spe_eos" (some "Add </s> token to SentencePiece Tokenizer."),
      switch "--spe_pad" (some "Add <pad> token to SentencePiece Tokenizer."),
      option "--spe_sample_size" .int (.int (-1)) false
        (some "Samples the dataset by \x60sample_size\x60 if positive integer, otherwise uses whole dataset"),
      switch "--spe_train_extremely_large_corpus" (some ""),
      option "--spe_max_sentencepiece_length" .int (.int (-1)) false
        (some "Limit the maximum number of tokens in each SentencePiece subword. Must be a positive integer > 0. By default places no limit on subword length."),
      { flags := ["--no_lower_case"], dest := "lower_case", action := .storeFalse, default := .bool true },
      switch "--log" none]
    exclusive := [(["manifest", "data_file"], true)] }

/-- Gathers the transcripts of manifests, named by a comma-separated list, into one document
under the data root; a document there already is kept. -/
def gatherTranscripts (root manifests : String) : Work String := do
  let files := if manifests.contains ',' then manifests.splitOn "," else [manifests]
  let dir := FileSystem.join root "text_corpus"
  Work.makeDirs dir
  let document := FileSystem.join dir "document.txt"
  if ← Work.pathExists document then return document
  Work.writeFile document ""
  for m in files do
    for line in ← Work.readLines m do
      let item ← Speech.lineObject line
      match ← (item.key "text") with
      | .str t => Work.appendFile document (t ++ "\n")
      | other => throw (.type s!"unsupported operand type(s) for +: {Text.quote other.kindName} and 'str'")
  pure document

/-- Makes a tokenizer from a document in a directory named by its settings: a subword model
(any old model file removed first), or a word-piece vocabulary. -/
def makeSpeechTokenizer (document : Data) (dst : String) (size : Data) (kind spe : String) (longest : Data) :
    Work String := do
  if kind == "spe" then
    let limited ← Data.greaterThan longest (.int 0)
    let dir := if limited then FileSystem.join dst s!"tokenizer_{kind}_{spe}_v{size.text}_max{longest.text}"
      else FileSystem.join dst s!"tokenizer_{kind}_{spe}_v{size.text}"
    Work.makeDirs dir
    let model := FileSystem.join dir "tokenizer.model"
    if ← Work.pathExists model then Work.removeFile model
    let _ ← subwordModelFiles document (.str dir)
    pure dir
  else
    let dir := FileSystem.join dst s!"tokenizer_{kind}_v{size.text}"
    Work.makeDirs dir
    throw (.unavailable "tokenizers")

/-- The speech tokenizer script: gathers the document and makes the tokenizer. -/
def speechTokenizerMain : Callee := fun r => do
  let args ← speechTokenizerCommandLine.run r.argv
  let value := kwarg args
  let root := (value "data_root").text
  Work.makeDirs root
  let document ← if (value "manifest").truthy then do pure (Data.str (← gatherTranscripts root (value "manifest").text))
    else pure (value "data_file")
  let dir ← makeSpeechTokenizer document root (value "vocab_size") (value "tokenizer").text (value "spe_type").text
    (value "spe_max_sentencepiece_length")
  Work.printLine s!"Serialized tokenizer at location : {dir}"
  pure (.plain .null)

def vocabularyScriptCallees : List (String × Callee) :=
  [("scripts/dataset_processing/ljspeech/create_token2idx_dict.py:__main__", phoneDictionaryMain),
   (speechTokenizerScript ++ ":__main__", speechTokenizerMain),
   (speechTokenizerScript ++ ":__build_document_from_manifests",
    functionOf "__build_document_from_manifests" [req "data_root", req "manifests"] fun vals => do
      pure (.str (← gatherTranscripts (plainArg vals 0).text (plainArg vals 1).text))),
   (speechTokenizerScript ++ ":__process_data",
    functionOf "__process_data"
      [req "text_path", req "dst_folder", req "vocab_size", req "tokenizer_type", req "spe_type",
       req "spe_character_coverage", req "spe_train_extremely_large_corpus", req "spe_sample_size",
       req "spe_max_sentencepiece_length", req "spe_bos", req "spe_eos", req "spe_pad", req "lower_case"] fun vals => do
      let arg := plainArg vals
      pure (.str (← makeSpeechTokenizer (arg 0) (arg 1).text (arg 2) (arg 3).text (arg 4).text (arg 8))))]

def vocabularyScriptLoaders : List (String × (Request → Work Unit)) :=
  [(speechTokenizerScript, fun r => do let _ ← speechTokenizerCommandLine.run r.argv)]

end Conversa.Callees
