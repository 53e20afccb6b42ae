import Conversa.Data.Access
import Conversa.Data.Json
import Conversa.FileSystem.Tree
import Conversa.Text.Delimited

/-!
# Manifests

A manifest lists a speech dataset's samples, one JSON object a line, naming a file under one of
two keys: a transcribed utterance with a duration and a text (inline, from a file, or
normalized), a labelled utterance with a duration and a label (`command`, `target` or `label`),
or a feature sequence with labels.  A line without a required key is refused as it stands;
samples are numbered from zero over all manifests.
-/

namespace Conversa.Speech

open FileSystem

def manifestLines (text : String) : List String := (Text.fileLines text).map String.ofList

/-- The failure of a line that lacks a key; the transcript manifests name their file. -/
def missingKey (file : Option String) (line what : String) : Failure :=
  match file with
  | some f => .value s!"Manifest file {f} has invalid json line structure: {line} without proper {what} key."
  | none => .value s!"Manifest file has invalid json line structure: {line} without proper {what} key."

/-- The failure of a line that is no JSON: a value was expected at its first significant
character. -/
def notJsonLine (line : String) : Failure :=
  let skipped := line.toList.takeWhile fun c => c == ' ' || c == '\t' || c == '\n' || c == '\r'
  let lineNo := (skipped.filter (· == '\n')).length + 1
  let column := (skipped.reverse.takeWhile (· != '\n')).length + 1
  ⟨"JSONDecodeError", s!"Expecting value: line {lineNo} column {column} (char {skipped.length})"⟩

def lineObject (line : String) : Result Data :=
  match Json.loads? line with
  | some d => .ok d
  | none => .error (notJsonLine line)

def eitherKey (item : Data) (first second : String) : Result (Option Data) := do
  if ← item.holds (.str first) then return some (← item.key first)
  if ← item.holds (.str second) then return some (← item.key second)
  pure none

def pathValue (d : Data) : Result Data :=
  match d with
  | .str _ => .ok d
  | other => .error (.notPath other.kindName)

/-- The value of a key, or nothing. -/
def optionalKey (item : Data) (k : String) : Data := item.getD k

/-- A transcribed utterance. -/
structure Utterance where
  id : Nat
  audioFile : Data
  duration : Data
  text : Data
  offset : Data
  speaker : Data
  origSampleRate : Data
deriving Inhabited, Repr

/-- A transcribed utterance read from a line of a manifest; a transcript in a text file is read
from the tree. -/
def Utterance.read (t : Tree) (file : String) (id : Nat) (line : String) : Result Utterance := do
  let item ← lineObject line
  let some audio ← eitherKey item "audio_filename" "audio_filepath"
    | throw (missingKey (some file) line "audio file")
  let audio ← pathValue audio
  if !(← item.holds (.str "duration")) then throw (missingKey (some file) line "duration")
  let text ← if ← item.holds (.str "text") then item.key "text"
    else if ← item.holds (.str "text_filepath") then do
      let p ← pathValue (← item.key "text_filepath")
      match t.read? p.text with
      | some s => pure (.str (String.ofList (s.toList.filter fun c => c != '\n' && c != '\r')))
      | none => throw ⟨"FileNotFoundError", s!"[Errno 2] No such file or directory: {Text.quote p.text}"⟩
    else if ← item.holds (.str "normalized_text") then item.key "normalized_text"
    else throw (missingKey (some file) line "text")
  pure ⟨id, audio, ← item.key "duration", text, optionalKey item "offset", optionalKey item "speaker",
    optionalKey item "orig_sample_rate"⟩

/-- A labelled utterance. -/
structure LabelledUtterance where
  audioFile : Data
  duration : Data
  label : Data
  offset : Data
deriving Inhabited, Repr

def LabelledUtterance.read (line : String) : Result LabelledUtterance := do
  let item ← lineObject line
  let some audio ← eitherKey item "audio_filename" "audio_filepath"
    | throw (missingKey none line "audio file")
  let audio ← pathValue audio
  if !(← item.holds (.str "duration")) then throw (missingKey none line "duration")
  let label ← if ← item.holds (.str "command") then item.key "command"
    else if ← item.holds (.str "target") then item.key "target"
    else if ← item.holds (.str "label") then item.key "label"
    else throw (missingKey none line "label")
  pure ⟨audio, ← item.key "duration", label, optionalKey item "offset"⟩

/-- A feature sequence: its feature file and its labels. -/
structure FeatureSequence where
  featureFile : Data
  labels : Data
deriving Inhabited, Repr

def FeatureSequence.read (line : String) : Result FeatureSequence := do
  let item ← lineObject line
  let some file ← eitherKey item "feature_filename" "feature_filepath"
    | throw (missingKey none line "feature file")
  let file ← pathValue file
  if !(← item.holds (.str "seq_label")) then throw (missingKey none line "seq_label")
  pure ⟨file, ← item.key "seq_label"⟩

/-- The samples of manifests read from the tree, file after file and line after line, each
line read by `read` with its file and its number over all manifests. -/
def readManifests {α : Type} (t : Tree) (files : List String) (read : String → Nat → String → Result α) :
    Result (List α) := do
  let (samples, _) ← files.foldlM (fun (acc : List α × Nat) f => do
    let some text := t.read? f
      | throw ⟨"FileNotFoundError", s!"[Errno 2] No such file or directory: {Text.quote f}"⟩
    (manifestLines text).foldlM (fun (acc : List α × Nat) line => do
      pure (acc.1 ++ [← read f acc.2 line], acc.2 + 1)) acc) ([], 0)
  pure samples

end Conversa.Speech
