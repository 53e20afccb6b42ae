import Conversa.Service.Datasets
import Conversa.Service.Speech
import Conversa.Speech.Collection

/-!
# Speech dataset requests

* `char_parser` turns texts into label numbers with a character parser;
* `en_parser_table` shows which punctuation the English parser blanks;
* `text_collection` parses texts given inline, in a manifest or in a plain file;
* `asr_manifest` reads transcribed, labelled or feature-sequence manifests into datasets.
-/

namespace Conversa.Service

open Speech Conversa.Language FileSystem

def printableLabels : List String :=
  ("0123456789abcdefghijklmnopqrstuvwxyzABCDEFGHIJKLMNOPQRSTUVWXYZ".toList ++ Text.asciiPunctuation ++
    " \t\n\r\x0b\x0c".toList).map String.singleton

def labelsField (req : Data) (default : List String) : List String :=
  match req.getD "labels" with
  | .null => default
  | d => d.items.map Data.text

/-- A character parser over labels, with the numbers and switches a mapping of options gives. -/
def charParserOf (labels : List String) (opts : Data) (kind : ParserKind) : Result CharParser := do
  pure { labels, kind
         unkId := ← intField opts "unk_id" (-1)
         blankId := ← intField opts "blank_id" (-1)
         normalize := flagField opts "do_normalize" true
         lowercase := flagField opts "do_lowercase" true }

/-- The label numbers of texts, none for a text that cannot be parsed. -/
def parsedData (parser : CharParser) (texts : List Data) : Result Data := do
  pure (.list (← texts.mapM fun t => do pure (Data.opt Data.ints (← transcriptIds parser t))))

/-- `char_parser {labels, texts, unk_id?, blank_id?, do_normalize?, do_lowercase?,
via_make_parser?, name?}`. -/
def charParserRequest (req : Data) : Result Data := do
  let made := (req.getD "via_make_parser").truthy
  let kind ← if made then
      match ParserKind.ofName? (textOr req "name" "base") with
      | some k => pure k
      | none => throw (.value "Invalid parser name.")
    else pure .plain
  let parser ← charParserOf (labelsField req (if made then printableLabels else [])) req kind
  pure (.dict [("tokens", ← parsedData parser (req.getD "texts").items)])

/-- `en_parser_table {labels, make_table}`. -/
def englishTableRequest (req : Data) : Result Data := do
  if !flagField req "make_table" true then return .dict [("blanked", .null)]
  pure (.dict [("blanked", .str (String.ofList (englishBlanked (labelsField req []))))])

/-- The transcripts of a texts file: the texts of a manifest, or the lines of any other file. -/
def textsOfFile (t : Tree) (file : String) : Result (List Data) := do
  if !t.isFile file then throw (.value "Provided texts file does not exists!")
  if fileExtension file == ".json" then
    readManifests t [file] fun f k line => do pure (← Utterance.read t f k line).text
  else pure (manifestLines ((t.read? file).getD "") |>.map Data.str)

/-- `text_collection {labels, parser?, texts | file, files}`; texts that cannot be parsed are
left out. -/
def textCollection (req : Data) : Result Data := do
  let parser ← charParserOf (labelsField req []) (req.getD "parser") .plain
  let texts ← if req.has "texts" then pure (req.getD "texts").items
    else textsOfFile (← treeField req) (req.getD "file").text
  let ids ← texts.filterMapM (transcriptIds parser)
  pure (.dict [("tokens", .list (ids.map Data.ints))])

def limitsOf (kwargs : Data) : Result SampleLimits := do
  pure {
    minDuration := (kwargs.getD "min_duration").num?
    maxDuration := (kwargs.getD "max_duration").num?
    maxNumber := match kwargs.getD "max_number" with
      | .null => none
      | d => d.int?
    sortByDuration := (kwargs.getD "do_sort_by_duration").truthy
    indexByFileId := (kwargs.getD "index_by_file_id").truthy }

def indexData (index : List (String × Nat)) : Data := .dict (index.map fun (k, n) => (k, .int n))

/-- `asr_manifest {kind, manifests, files, kwargs?, labels?, parser?}`. -/
def asrManifest (req : Data) : Result Data := do
  let t ← treeField req
  let files := match req.getD "manifests" with
    | .str s => [s]
    | d => d.items.map Data.text
  let kwargs := req.getD "kwargs"
  let limits ← limitsOf kwargs
  let mapping (index : List (String × Nat)) : Entries :=
    if limits.indexByFileId then [("mapping", indexData index)] else []
  match (req.getD "kind").text with
  | "audio_text" =>
    let labels := labelsField req (" abcdefghijklmnopqrstuvwxyz'".toList.map String.singleton)
    let parser ← charParserOf labels (req.getD "parser") .plain
    let us ← readManifests t files (Utterance.read t)
    let (kept, index) ← transcribed limits parser us
    pure (.dict ([("entries", .list (kept.map fun (u, ids) => .dict [("id", .int u.id),
      ("audio_file", u.audioFile), ("duration", u.duration), ("text_tokens", Data.ints ids),
      ("offset", u.offset), ("text_raw", u.text), ("speaker", u.speaker), ("orig_sr", u.origSampleRate)]))]
      ++ mapping index))
  | "speech_label" =>
    let regression := (kwargs.getD "is_regression_task").truthy
    let us ← readManifests t files fun _ _ line => do
      let u ← LabelledUtterance.read line
      if regression then u.asRegression else pure u
    let (kept, index, labels) ← labelled limits us
    pure (.dict ([("entries", .list (kept.map fun u => .dict [("audio_file", u.audioFile),
      ("duration", u.duration), ("label", u.label), ("offset", u.offset)]))] ++ mapping index ++
      [("uniq_labels", .list labels)]))
  | "feature_seq" =>
    let fs ← readManifests t files fun _ _ line => FeatureSequence.read line
    let (kept, index, labels) ← featureSequences limits.maxNumber limits.indexByFileId fs
    pure (.dict ([("entries", .list (kept.map fun (f, rel) => .dict [("feature_file", f),
      ("seq_label", Data.nats rel)]))] ++ mapping index ++ [("uniq_labels", Data.strs labels)]))
  | other => throw (.key (Text.quote other))

end Conversa.Service
