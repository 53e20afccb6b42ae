import Conversa.Entry.CommandLine
import Conversa.Data.Arith
import Conversa.Entry.Instance

/-!
# Data for tagging words

A tagging model reads two files of one sentence a line: words and labels.  `fromTaggedColumns`
turns a word-and-label file into that form, cutting a long sentence after its last `O` among the
first `limit` (`cutSentence`).  `punctuationLabels` labels each word by the mark ending it and
its capitalization; `englishSentences` picks a tagged corpus's sentences.  Both are scripts too.
-/

namespace Conversa.Callees

open Entry

/-- A list cut at `stop` as a slice to `stop` cuts it: a negative stop counts from the end. -/
def sliceUntil {α : Type} (xs : List α) (stop : Int) : List α :=
  if stop ≥ 0 then xs.take stop.toNat else xs.take (xs.length - stop.natAbs)

/-- A list from `start` on as a slice from `start` takes it: a negative start counts from the
end. -/
def sliceFrom {α : Type} (xs : List α) (start : Int) : List α :=
  if start ≥ 0 then xs.drop start.toNat else xs.drop (xs.length - start.natAbs)

/-- Where the first piece of a sentence with these labels ends: after the last `O` among the
first `limit` labels, or after the first word. -/
def pieceEnd (labels : List String) (limit : Int) : Nat :=
  match ((sliceUntil labels limit).zipIdx.filter (·.1 == "O")).getLast? with
  | some (_, i) => i + 1
  | none => 1

/-- The pieces a sentence of words and labels is cut into while it is longer than `limit`, and
what is left; at most `fuel` pieces are cut. -/
def cutSentence (limit : Int) : Nat → List String → List String →
    List (List String × List String) × (List String × List String)
  | 0, words, labels => ([], (words, labels))
  | fuel + 1, words, labels =>
    if (words.length : Int) > limit then
      let k := pieceEnd labels limit
      let (rest, left) := cutSentence limit fuel (words.drop k) (labels.drop k)
      ((words.take k, labels.take k) :: rest, left)
    else ([], (words, labels))

/-- The lines of a sentence as written: its words, and its labels, joined by spaces. -/
def sentenceLine (words labels : List String) : String × String :=
  (" ".intercalate (words.filter (!·.isEmpty)) ++ "\n", " ".intercalate (labels.filter (!·.isEmpty)) ++ "\n")

/-- What converting tagged columns writes so far, and the failure that stopped it, if any. -/
structure Converted where
  text : String := ""
  labels : String := ""
  failure : Option Failure := none

/-- Tagged columns as text and labels, each word followed by a space and each blank line
copied; a line of blanks only has no word. -/
def columnsAsIs (lines : List String) : Converted :=
  lines.foldl (fun (c : Converted) line =>
    if c.failure.isSome then c
    else if line == "\n" then { c with text := c.text ++ "\n", labels := c.labels ++ "\n" }
    else match Text.words line with
      | [] => { c with failure := some .listIndex }
      | w :: rest => { c with text := c.text ++ w ++ " ", labels := c.labels ++ (rest.getLastD w) ++ " " }) {}

/-- Tagged columns as text and labels, one sentence (or piece of one) a line, sentences longer
than `limit` cut. -/
def columnsCut (limit : Int) (lines : List String) : Converted :=
  let step := fun (acc : Converted × List String × List String) (line : String) =>
    let (c, words, labels) := acc
    match Text.words line with
    | [] =>
      let (pieces, (words, labels)) := cutSentence limit (words.length + 1) words labels
      let c := pieces.foldl (fun (c : Converted) (w, l) =>
        let (tl, ll) := sentenceLine w l
        { c with text := c.text ++ tl, labels := c.labels ++ ll }) c
      if words.isEmpty then (c, [], [])
      else
        let (tl, ll) := sentenceLine words labels
        ({ c with text := c.text ++ tl, labels := c.labels ++ ll }, [], [])
    | w :: rest => (c, words ++ [w], labels ++ [rest.getLastD w])
  (lines.foldl step ({}, [], [])).1

/-- Converts a file of tagged columns into a text file and a labels file; a limit of `-1` keeps
sentences whole. -/
def fromTaggedColumns (source textPath labelsPath : String) (limit : Int) : Work Unit := do
  let lines ← Work.readLines source
  Work.writeFile textPath ""
  Work.writeFile labelsPath ""
  let c := if limit == -1 then columnsAsIs lines else columnsCut limit lines
  Work.writeFile textPath c.text
  Work.writeFile labelsPath c.labels
  if let some f := c.failure then throw f

def limitArgument (d : Data) : Result Int :=
  match d with
  | .int n => .ok n
  | .bool b => .ok (if b then 1 else 0)
  | .float x => if x == -1 then .ok (-1) else .error (.type "slice indices must be integers or None or have an __index__ method")
  | other => .error (Data.unordered ">" (.int 0) other)

def taggedColumnsScript : String := "examples/nlp/token_classification/data/import_from_iob_format.py"

def taggedColumnsCommandLine : CommandLine :=
  { prog := "import_from_iob_format.py"
    description := some ("Convert data from IOB format to the format compatible with " ++
      "nlp/examples/token_classification/scripts/token_classification_train.py and token_classification_evaluate.py")
    arguments := [
      option "--data_file" .text .null true (some "path to a file in IOB format"),
      { option "--max_length" .int (.int (-1)) false
          (some "use -1 to leave the examples's length as is, otherwise long examples will be split into multiple examples")
        with type := .int }] }

def taggedColumnsCallee : Callee :=
  functionOf "__convert_data" [req "in_file", req "out_text_f", req "out_labels_f", req "max_length"] fun v => do
    let source := (arg v 0).text
    let _ ← Work.readFile source
    let limit ← limitArgument (arg v 3)
    fromTaggedColumns source (arg v 1).text (arg v 2).text limit
    pure .null

/-- The command line of the script that converts tagged columns: the text and labels files are
written beside the data file, named after it. -/
def taggedColumnsMain : Callee := fun r => do
  let args ← taggedColumnsCommandLine.run r.argv
  let dataFile := (kwarg args "data_file").text
  let dir := FileSystem.directoryPart dataFile
  let prefix_ := FileSystem.stem dataFile
  if !(← Work.pathExists dataFile) then throw ⟨"FileNotFoundError", s!"{dataFile} not found"⟩
  let limit ← limitArgument ((args.lookup "max_length").getD (.int (-1)))
  fromTaggedColumns dataFile (FileSystem.join dir ("text_" ++ prefix_ ++ ".txt"))
    (FileSystem.join dir ("labels_" ++ prefix_ ++ ".txt")) limit
  pure (.plain .null)

def withoutPunctuation (word : String) : String :=
  String.ofList (word.toList.filter fun c => c == '\'' || c == '\\' || !Text.isAsciiPunctuation c)

/-- The words of a line of English and their labels: the punctuation mark that ends the word (one
of `marks`, else `O`) and `U` or `O` for the case of its first letter; a word of punctuation
only is dropped. -/
def punctuationLabels (marks : String) (line : String) : List (String × String) :=
  (Text.words line).filterMap fun word =>
    let last := word.toList.getLastD ' '
    let mark := if marks.contains last then String.singleton last else "O"
    let bare := withoutPunctuation word
    match bare.toList with
    | [] => none
    | c :: _ => some (Text.lower bare, mark ++ (if Text.isUpperChar c then "U" else "O"))

/-- Writes the text and labels files of a file of English sentences into a directory, named after
the file. -/
def writePunctuationLabels (outDir path marks : String) : Work Unit := do
  if !(← Work.pathExists path) then throw (.value s!"{path} not found")
  Work.makeDirs outDir
  let base := FileSystem.name path
  let labelsPath := FileSystem.join outDir ("labels_" ++ base)
  let textPath := FileSystem.join outDir ("text_" ++ base)
  let lines ← Work.readLines path
  let rows := lines.map (punctuationLabels marks)
  Work.writeFile textPath (String.join (rows.map fun r => " ".intercalate (r.map (·.1)) ++ "\n"))
  Work.writeFile labelsPath (String.join (rows.map fun r => " ".intercalate (r.map (·.2)) ++ "\n"))
  Work.printLine s!"{textPath} and {labelsPath} created from {path}."

/-- Whether a sentence is kept as English: a capital first, then at least one letter, space or
one of `.,'?`. -/
def plainEnglish (s : String) : Bool :=
  match s.toList with
  | c :: rest@(_ :: _) =>
    ('A' ≤ c && c ≤ 'Z') && rest.all fun d => d.isAlpha || Text.isSpace d || ".,'?".contains d
  | _ => false

/-- The examples of a corpus of tagged lines `id TAB language TAB sentence`: the plain English
sentences, `combine` to an example, at most `samples` examples when that is not negative. -/
def englishExamples (lines : List String) (combine samples : Int) :
    Result (List String × Bool) := do
  let mut out : List String := []
  let mut pending : List String := []
  let mut count : Int := 0
  for line in lines do
    let fields := line.splitOn "\t"
    let lang ← match fields[1]? with
      | some l => pure l
      | none => throw .listIndex
    if lang == "eng" then
      let sentence ← match fields[2]? with
        | some s => pure (Text.strip s)
        | none => throw .listIndex
      if plainEnglish sentence then
        if (pending.length : Int) ≥ combine then
          if count == samples then return (out, true)
          out := out ++ [" ".intercalate pending]
          pending := []
          count := count + 1
        pending := pending ++ [sentence]
  if !pending.isEmpty && (count < samples || samples < 0) then
    out := out ++ [" ".intercalate pending]
  pure (out, false)

def writeEnglishExamples (source target : String) (cut combine samples : Data) : Work Unit := do
  if !(← Work.pathExists source) then throw ⟨"FileNotFoundError", s!"{source} not found."⟩
  let lines ← Work.readLines source
  Work.writeFile target ""
  if (cut.num?.getD 0) > 0 then throw (.unavailable "random")
  let (examples, _) ← englishExamples lines (combine.int?.getD 1) (samples.int?.getD (-1))
  Work.writeFile target (String.join (examples.map (· ++ "\n")))

/-- Splits the lines of a file between a training file and a development file: the last
`percent` of them go to development; each file holds its lines joined by spaces. -/
def splitTrainDev (source train dev : String) (percent : Data) : Work Unit := do
  if !(← Work.pathExists source) then throw ⟨"FileNotFoundError", s!"{source} not found."⟩
  let lines ← Work.readLines source
  Work.writeFile train ""
  Work.writeFile dev ""
  let size : Int := match percent with
    | .int p => lines.length * p
    | .bool b => if b then lines.length else 0
    | other => Numeric.truncToInt (lines.length.toFloat * other.num?.getD 0)
  Work.writeFile train (" ".intercalate (sliceUntil lines (-size)))
  Work.writeFile dev (" ".intercalate (sliceFrom lines (-size)))

def removeIfPresent (path : String) : Work Unit := do
  if ← Work.isDir path then throw ⟨"IsADirectoryError", s!"[Errno 21] Is a directory: {Text.quote path}"⟩
  if ← Work.isFile path then Work.removeFile path

def punctuationScript : String := "examples/nlp/token_classification/data/get_tatoeba_data.py"

def punctuationCommandLine : CommandLine :=
  { prog := "get_tatoeba_data.py"
    description := some "Prepare tatoeba dataset"
    arguments := [
      option "--data_dir" .text .null true none,
      option "--dataset" .text (.str "tatoeba") false none,
      option "--num_samples" .int (.int (-1)) false (some "-1 to use the whole dataset"),
      option "--percent_to_cut" .float (.int 0) false (some "Percent of sentences to cut in the middle"),
      option "--num_lines_to_combine" .int (.int 1) false (some "Number of lines to combine into single example"),
      option "--percent_dev" .float (.float 0.2) false (some "Size of the dev set, float"),
      switch "--clean_dir" none] }

/-- The punctuation corpus script: English sentences of the corpus in the data directory, split
into training and development files, each turned into text and labels. -/
def punctuationMain : Callee := fun r => do
  let args ← punctuationCommandLine.run r.argv
  let value := kwarg args
  let dir := (value "data_dir").text
  if !(← Work.pathExists dir) then Work.makeDirs dir
  if (value "dataset").text != "tatoeba" then throw (.value "Unsupported dataset.")
  let corpus := FileSystem.join dir "sentences.csv"
  if !(← Work.pathExists corpus) then throw (.unavailable "download")
  let clean := FileSystem.join dir "clean_eng_sentences.txt"
  writeEnglishExamples corpus clean (value "percent_to_cut") (value "num_lines_to_combine") (value "num_samples")
  let train := FileSystem.join dir "train.txt"
  let dev := FileSystem.join dir "dev.txt"
  splitTrainDev clean train dev (value "percent_dev")
  writePunctuationLabels dir train ",.?"
  writePunctuationLabels dir dev ",.?"
  if (value "clean_dir").truthy then
    for p in [clean, corpus, train, dev] do removeIfPresent p
  pure (.plain .null)

def tokenLabelCallees : List (String × Callee) :=
  [(taggedColumnsScript ++ ":__convert_data", taggedColumnsCallee),
   (taggedColumnsScript ++ ":__main__", taggedColumnsMain),
   (punctuationScript ++ ":__process_english_sentences",
    functionOf "__process_english_sentences"
      [req "in_file", req "out_file", opt "percent_to_cut" (.int 0), opt "num_to_combine" (.int 1),
       opt "num_samples" (.int (-1))] fun v => do
      writeEnglishExamples (arg v 0).text (arg v 1).text (arg v 2) (arg v 3) (arg v 4)
      pure .null),
   (punctuationScript ++ ":__split_into_train_dev",
    functionOf "__split_into_train_dev" [req "in_file", req "train_file", req "dev_file", req "percent_dev"] fun v => do
      splitTrainDev (arg v 0).text (arg v 1).text (arg v 2).text (arg v 3)
      pure .null),
   (punctuationScript ++ ":remove_punctuation",
    functionOf "remove_punctuation" [req "word"] fun v => do
      match arg v 0 with
      | .str w => pure (.str (withoutPunctuation w))
      | other => throw (.type s!"expected string or bytes-like object, got {Text.quote other.kindName}")),
   (punctuationScript ++ ":create_text_and_labels",
    functionOf "create_text_and_labels" [req "output_dir", req "file_path", opt "punct_marks" (.str ",.?")] fun v => do
      writePunctuationLabels (arg v 0).text (arg v 1).text (arg v 2).text
      pure .null),
   (punctuationScript ++ ":__delete_file",
    functionOf "__delete_file" [req "file_to_del"] fun v => do
      removeIfPresent (arg v 0).text
      pure .null),
   (punctuationScript ++ ":__main__", punctuationMain)]

end Conversa.Callees
