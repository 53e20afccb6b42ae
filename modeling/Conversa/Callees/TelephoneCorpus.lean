import Conversa.Data.Arith
import Conversa.Entry.CommandLine
import Conversa.Entry.Instance

/-!
# Transcripts of a telephone speech corpus

Reference transcripts are segment time marks, an utterance a line: file, channel, speaker,
begin and end, an optional `<label>` and the text.  Comment lines (`;;`) and ignored segments are
skipped; aside marks, hyphens and parentheses are dropped, hesitations become `uh`, and the line
is lowercased.  `readMarkLine` reads a line as the corresponding regular expression does.
-/

namespace Conversa.Callees

open Entry

/-- A line of segment time marks, its times still as text. -/
structure MarkLine where
  filename : String
  channel : String
  speaker : String
  start : String
  stop : String
  label : Option String
  transcript : String

def markWordChar (c : Char) : Bool := Text.isAlnum c || c == '_'

def markTimeChar (c : Char) : Bool := c.isDigit || c == '.'

/-- A field of characters of a kind and the white space after it, and the characters after both;
the white space is given back too. -/
def markField (p : Char → Bool) (cs : List Char) : Option (String × List Char × List Char) :=
  let f := cs.takeWhile p
  let rest := cs.dropWhile p
  let ws := rest.takeWhile Text.isSpace
  if f.isEmpty || ws.isEmpty then none
  else some (String.ofList f, ws, rest.dropWhile Text.isSpace)

/-- The label and transcript after the end time: a label from the `<` to the last `>` that white
space and more text follow, or, without one, at least two blanks before the transcript. -/
def labelAndTranscript (blanks rest : List Char) : Option (Option String × String) :=
  let closings := (rest.zipIdx.filter fun (c, i) =>
    c == '>' && i ≥ 1 && ((rest.drop (i + 1)).head?.map Text.isSpace).getD false &&
      !((rest.drop (i + 1)).dropWhile Text.isSpace).isEmpty).map (·.2)
  match rest.head?, closings.getLast? with
  | some '<', some j => some (some (String.ofList (rest.take (j + 1))),
      String.ofList ((rest.drop (j + 1)).dropWhile Text.isSpace))
  | _, _ => if blanks.length ≥ 2 && !rest.isEmpty then some (none, String.ofList rest) else none

/-- A line read as segment time marks, or nothing when it is not one. -/
def readMarkLine (line : String) : Option MarkLine := do
  let (filename, _, r) ← markField markWordChar line.toList
  let (channel, _, r) ← markField markWordChar r
  let (speaker, _, r) ← markField markWordChar r
  let (start, _, r) ← markField markTimeChar r
  let (stop, blanks, r) ← markField markTimeChar r
  let (label, transcript) ← labelAndTranscript blanks r
  pure ⟨filename, channel, speaker, start, stop, label, transcript⟩

/-- A transcript line cleaned before it is read: aside marks, hyphens and parentheses dropped,
hesitations made `uh`, and lowercased. -/
def cleanMarkLine (line : String) : String :=
  let line := (line.replace "<B_ASIDE>" "").replace "<E_ASIDE>" ""
  let line := line.replace "(%HESITATION)" "UH"
  let line := line.replace "-" ""
  let line := (line.replace "(%UH)" "UH").replace "(%AH)" "UH"
  let line := (line.replace "(" "").replace ")" ""
  line.toLower

def markTime (s : String) : Result Float :=
  match Numeric.readFloat? s with
  | some x => .ok x
  | none => .error (.value s!"could not convert string to float: {Text.quote s}")

/-- Hundredths of a second of a time, cut toward zero. -/
def hundredths (t : Data) : Result Data := do
  match ← Data.times t (.int 100) with
  | .float x => pure (.int (Numeric.truncToInt x))
  | other => pure other

/-- The identifier of an utterance: file, channel, and begin and end in hundredths. -/
def utteranceId (filename channel start stop : Data) : Result String := do
  let a ← hundredths start
  let b ← hundredths stop
  pure s!"{filename.text}-{channel.text}-{a.text}-{b.text}"

/-- The transcripts whose recorded text is known to be wrong, by utterance, with their fixes. -/
def transcriptFixes : List (String × String) := [("en_4622-B-12079-12187", "KIND OF WEIRD BUT")]

/-- The utterances of a transcript file and the characters their transcripts use. -/
def readTranscripts (root : String) : Work Data := do
  let path := FileSystem.join root "2000_hub5_eng_eval_tr/reference/hub5e00.english.000405.stm"
  let mut utterances : List Data := []
  let mut chars : List String := []
  for line in ← Work.readLines path do
    if line.startsWith ";;" || (line.splitOn "IGNORE_TIME_SEGMENT_").length > 1 then continue
    let some m := readMarkLine (Text.strip (cleanMarkLine line))
      | throw (noAttribute "NoneType" "groups")
    let start ← markTime m.start
    let stop ← markTime m.stop
    let id ← utteranceId (.str m.filename) (.str m.channel) (.float start) (.float stop)
    let transcript := (transcriptFixes.lookup id).getD m.transcript
    utterances := utterances ++ [.list [.str m.filename, .str m.channel, .str m.speaker, .float start,
      .float stop, (m.label.map Data.str).getD .null, .str transcript]]
    chars := (chars ++ transcript.toList.map String.singleton).eraseDups
  pure (.list [.list utterances, .dict [("$set", Data.strs chars)]])

def telephoneScript : String := "scripts/dataset_processing/process_hub5_data.py"

def telephoneCommandLine : CommandLine :=
  { prog := "process_hub5_data.py"
    description := some "Prepare HUB5 data for training/eval"
    arguments := [
      option "--data_root" .text .null true (some "The path to the root LDC HUB5 dataset directory."),
      option "--dest_root" .text .null true (some "Path to the destination root directory for processed files."),
      option "--min_slice_duration" .float (.float 10.0) false (some "Minimum audio slice duration after processing.")] }

def telephoneCallees : List (String × Callee) :=
  [(telephoneScript ++ ":process_transcripts", functionOf "process_transcripts" [req "dataset_root"] fun vals =>
      readTranscripts (plainArg vals 0).text),
   (telephoneScript ++ ":get_utt_id", functionOf "get_utt_id" [req "segment"] fun vals => do
      let s := arg vals 0
      let field (k : String) : Result Data := Entry.attr s k
      let id ← (do utteranceId (← field "filename") (← field "channel") (← field "begin") (← field "end"))
      pure (.str id))]

def telephoneLoaders : List (String × (Request → Work Unit)) :=
  [(telephoneScript, fun r => do let _ ← telephoneCommandLine.run r.argv)]

end Conversa.Callees
