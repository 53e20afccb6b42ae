import Conversa.Entry.Call
import Conversa.Speech.Diarization
import Conversa.Speech.Manifest
import Conversa.Data.Pickle
import Conversa.Service.Datasets
import Conversa.Entry.Arrays

/-!
# Speaker diarization tools by name

Pairing recordings with their reference files (`audio_rttm_map`), tidying and writing stamps
(`get_contiguous_stamps`, `merge_stamps`, `labels_to_rttmfile`, `write_rttm2manifest`), windows
over stored embeddings (`get_time_stamps`), and the affinity graphs clustering by speaker works
on.  Files are opened before they are written to, so a failure leaves what was written.
-/

namespace Conversa.Callees

open Entry Speech

/-- A list of paths given inline, or as a file of one path a line. -/
def pathList (d : Data) : Work (List String) := do
  match plain d with
  | .list xs => pure (xs.map Data.text)
  | other => pure (Text.splitLines (← Work.readFile other.text))

/-- Recordings paired with their references, from a list of recordings and one of references,
when given. -/
def recordingPairs (audioArg refArg : Data) : Work (List (String × String × String)) := do
  let audio ← pathList audioArg
  let refs ← if (plain refArg).truthy then some <$> pathList refArg else pure none
  pairRecordings audio refs

def recordingMapCallee : Callee := function "audio_rttm_map"
    [req "audio_file_list", opt "rttm_file_list" .null] fun vals => do
  let pairs ← recordingPairs (arg vals 0) (arg vals 1)
  pure (.dict (pairs.map fun (k, a, r) => (k, .dict [("audio_path", .str a), ("rttm_path", .str r)])))

def textItems (d : Data) : List String := (plain d).items.map Data.text

def contiguousStampsCallee : Callee := function "get_contiguous_stamps" [req "stamps"] fun vals => do
  pure (Data.strs (← contiguousStamps (textItems (arg vals 0))))

def mergeStampsCallee : Callee := function "merge_stamps" [req "lines"] fun vals => do
  pure (Data.strs (← mergedStamps (textItems (arg vals 0))))

/-- `labels_to_rttmfile`: the file is made first, then filled a
line at a time. -/
def referenceFileCallee : Callee := function "labels_to_rttmfile"
    [req "labels", req "uniq_id", req "out_rttm_dir"] fun vals => do
  let recording := (plainArg vals 1).text
  let path := FileSystem.join (plainArg vals 2).text (recording ++ ".rttm")
  Work.writeFile path ""
  for stamp in textItems (arg vals 0) do
    Work.appendFile path (← referenceLine recording stamp)
  pure .null

def regionManifestCallee : Callee := function "write_rttm2manifest"
    [req "paths2audio_files", req "paths2rttm_files", req "manifest_file"] fun vals => do
  let pairs ← recordingPairs (arg vals 0) (arg vals 1)
  let manifest := arg vals 2
  let target := (plain manifest).text
  Work.writeFile target ""
  for (_, audio, reference) in pairs do
    let text ← Work.readFile reference
    let (entries, failure) := regionEntries audio ((Text.fileLines text).map String.ofList)
    for e in entries do
      Work.appendFile target (Json.dump e ++ "\n")
    if let some f := failure then throw f
  pure manifest

/-- The failure of a number of speakers that is neither a number, nothing, nor a file. -/
def badSpeakerCount : Failure :=
  .type "reco2num must be None, int or path to file containing number of speakers for each uniq id"

/-- The number of speakers of each recording, from a file of lines `recording number`. -/
def speakerCounts (text : String) : Result (Entries) :=
  (Text.fileLines text).foldlM (fun acc line => do
    match Text.words (String.ofList line) with
    | [name, num] => pure (putEntry acc name (.int (← Service.intLiteral num)))
    | ws => throw (.value
        (if ws.length < 2 then s!"not enough values to unpack (expected 2, got {ws.length})"
         else "too many values to unpack (expected 2)"))) []

def numberOf (d : Data) : Result Float :=
  match d.num? with
  | some x => .ok x
  | none => .error (.type s!"unsupported operand type(s) for +: {Text.quote d.kindName} and 'float'")

/-- The windows of each recording of a manifest, recordings in order of first appearance. -/
def manifestWindows (text : String) (window shift : Float) : Result (Entries) :=
  (Text.fileLines text).foldlM (fun acc line => do
    let item ← lineObject (Text.strip (String.ofList line))
    let audio ← item.key "audio_filepath"
    let offset ← numberOf (← item.key "offset")
    let duration ← numberOf (← item.key "duration")
    let name := recordingName audio.text
    let stamps ← segmentWindows offset duration window shift
    let before := ((acc.find? (·.1 == name)).map (·.2.items)).getD []
    pure (putEntry acc name (Data.strs (before.map Data.text ++ stamps)))) []

def timeStampsCallee : Callee := function "get_time_stamps"
    [req "embeddings_file", req "reco2num", req "manifest_path", req "sample_rate", req "window",
     req "shift"] fun vals => do
  let arg := plainArg vals
  let embeddings ← unpickle (← Work.readBytes (arg 0).text)
  let recordings ← match embeddings with
    | .dict kvs => pure (kvs.map (·.1))
    | other => throw (noAttribute other.kindName "keys")
  let some sample := recordings.head? | throw .listIndex
  let first ← (embeddings.getD sample).item 0
  match first with
  | .list _ => pure ()
  | .dict _ => if first.has "ndarray" then pure () else throw (noAttribute "dict" "shape")
  | other => throw (noAttribute other.kindName "shape")
  let speakers ← match arg 1 with
    | .int _ | .bool _ | .null => pure (recordings.map fun k => (k, arg 1))
    | .str p =>
      if ← Work.pathExists p then (speakerCounts (← Work.readFile p))
      else throw badSpeakerCount
    | _ => throw badSpeakerCount
  let text ← Work.readFile (arg 2).text
  let window ← numberOf (arg 4)
  let shift ← numberOf (arg 5)
  let stamps ← manifestWindows text window shift
  pure (.list [embeddings, .dict stamps, .dict speakers])

/-- The end of a slice: a whole number, or none for the whole row. -/
def sliceEnd (d : Data) : Result (Option Int) :=
  match d with
  | .null => .ok none
  | .int n => .ok (some n)
  | .bool b => .ok (some (if b then 1 else 0))
  | _ => .error (.type "slice indices must be integers or None or have an __index__ method")

/-- The graph of closest neighbours of an affinity matrix, and the matrix's element type. -/
def neighbourArgs (matrix count : Data) : Result (List (List Nat) × String) := do
  let (elems, dtype) := arrayOf matrix
  let rows := rowsOf elems
  let p := (← sliceEnd count).getD ((rows.map List.length |>.foldl max 0 : Nat) : Int)
  pure (← neighbourGraph rows p, dtype)

/-- `get_kneighbors_conn`: marks of the closest neighbours, in the element
type of the matrix. -/
def neighbourGraphCallee : Callee := function "get_kneighbors_conn" [req "X_dist", req "p_neighbors"] fun vals => do
  let (graph, dtype) ← neighbourArgs (arg vals 0) (arg vals 1)
  pure (rowsData dtype (graph.map fun row => row.map Nat.toFloat))

/-- `get_X_conn_from_dist`: the neighbour graph made symmetric. -/
def symmetricGraphCallee : Callee :=
  function "get_X_conn_from_dist" [req "X_dist_raw", req "p_neighbors"] fun vals => do
    let (graph, _) ← neighbourArgs (arg vals 0) (arg vals 1)
    pure (rowsData "float64" (symmetricGraph graph))

/-- `getLaplacian`, in the element type of the matrix. -/
def laplacianCallee : Callee := function "getLaplacian" [req "X"] fun vals => do
  let (elems, dtype) := arrayOf (arg vals 0)
  pure (rowsData dtype (laplacian (rowsOf elems)))

/-- `getLamdaGaplist`: the gaps between consecutive eigenvalues. -/
def eigengapsCallee : Callee := function "getLamdaGaplist" [req "lambdas"] fun vals => do
  let (elems, _) := arrayOf (arg vals 0)
  let values ← (elems.items.mapM fun x => match x with
    | .int _ | .float _ | .bool _ => .ok (number x)
    | other => .error (.type s!"float() argument must be a string or a real number, not {Text.quote other.kindName}"))
  pure (Data.floats (eigengaps values))

def diarizationCallees : List (String × Callee) :=
  let m := "nemo.collections.asr.parts.utils.speaker_utils:"
  [(m ++ "audio_rttm_map", recordingMapCallee), (m ++ "get_contiguous_stamps", contiguousStampsCallee),
   (m ++ "merge_stamps", mergeStampsCallee), (m ++ "labels_to_rttmfile", referenceFileCallee),
   (m ++ "write_rttm2manifest", regionManifestCallee), (m ++ "get_time_stamps", timeStampsCallee)] ++
  let g := "nemo.collections.asr.parts.utils.nmse_clustering:"
  [(g ++ "get_kneighbors_conn", neighbourGraphCallee), (g ++ "get_X_conn_from_dist", symmetricGraphCallee),
   (g ++ "getLaplacian", laplacianCallee), (g ++ "getLamdaGaplist", eigengapsCallee)]

end Conversa.Callees
