import Conversa.Segmentation.Transcript
import Conversa.Data.Arith
import Conversa.Entry.CommandLine
import Conversa.Numeric.Printf
import Conversa.Entry.Instance
import Conversa.Speech.Manifest

/-!
# Segmentation tools by name

`split_text` cuts a transcript into utterances and writes them with punctuation, normalized and
plain; `write_output` writes an audio file's segments a line each; `get_samples` takes the first,
last and some middle entries of a manifest; the manifest tool gathers the well-scored manifests
of a directory and reports durations in hours.
-/

namespace Conversa.Callees

open Entry Segmentation

/-- The file beside another with a suffix in place of its last four characters. -/
def besideFile (file suffix : String) : String :=
  let dir := if file.contains '/' then FileSystem.parent file else ""
  let name := FileSystem.name file
  let base := String.ofList (name.toList.take (name.length - 4))
  if dir.isEmpty then base ++ suffix else dir ++ "/" ++ base ++ suffix

def splitTextCallee : Callee := function "split_text"
    [req "in_file", req "out_file", opt "vocabulary" .null, opt "language" (.str "eng"),
     opt "remove_brackets" (.bool true), opt "do_lower_case" (.bool true), opt "min_length" (.int 0),
     opt "max_length" (.int 100), opt "additional_split_symbols" .null,
     opt "use_nemo_normalization" (.bool false)] fun vals => do
  let arg := arg vals
  let inFile := (plain (arg 0)).text
  let outFile := (plain (arg 1)).text
  Work.printLine s!"Splitting text in {inFile} into sentences."
  let transcript ← Work.readFile inFile
  let language := (arg 3).text
  if language != "ru" && language != "eng" then
    Work.printLine s!"Consider using {language} unicode letters for better sentence split."
  let symbols ← match arg 8 with
    | .str s => pure s
    | other => Work.fail (.type s!"object of type {Text.quote other.kindName} has no len()")
  let vocabulary ← match arg 2 with
    | .list xs => pure (xs.map Data.text)
    | other => Work.fail (.type s!"unsupported operand type(s) for +: {Text.quote other.kindName} and 'list'")
  let o : CutOptions := {
    vocabulary, language, removeBrackets := (arg 4).truthy, lowerCase := (arg 5).truthy,
    minLength := (arg 6).int?.getD 0, maxLength := (arg 7).int?.getD 100, extraSymbols := symbols }
  let pieces ← utterances o transcript
  Work.writeFile (besideFile outFile "_with_punct.txt") ("\n".intercalate pieces)
  let (normalized, plainText) ← normalizeUtterances o pieces
  Work.writeFile (besideFile outFile "_with_punct_normalized.txt") normalized
  Work.writeFile outFile plainText
  pure .null

/-- The segment lines of an audio file: its path, then a line a segment with start and end
divided by the stride, the score and the utterance in its three forms. -/
def segmentLines (wav : String) (segments : List Data) (texts : List Data) (stride : Data) (out : String) :
    Work Unit := do
  Work.writeFile out (wav ++ "\n")
  for (segment, i) in segments.zipIdx do
    let (start, stop, score) ← match ← (plain segment).elements with
      | [a, b, c] => pure (a, b, c)
      | xs => throw (.unpack 3 xs.length)
    let start ← Data.divide start stride
    let stop ← Data.divide stop stride
    let forms ← texts.mapM fun t => Data.item (plain t) i
    let formsText := " | ".intercalate (forms.map Data.text)
    Work.appendFile out s!"{start.text} {stop.text} {score.text} | {formsText}\n"

def writeOutputCallee : Callee := functionOf "write_output"
    [req "out_path", req "path_wav", req "segments", req "text", req "text_no_preprocessing",
     req "text_normalized", opt "stride" (.int 2)] fun vals => do
  let arg := plainArg vals
  segmentLines (arg 1).text (← (arg 2).elements) [arg 3, arg 4, arg 5] (arg 6) (arg 0).text
  pure .null

/-- The entries a sample of a manifest takes: the first `n`, `n` drawn from the middle (from
position `n` to `length - n`), and the last `n`.  A draw needs chance unless one position can be
drawn. -/
def sampledLines (lines : List String) (n : Int) : Result (List String) := do
  let len : Int := lines.length
  let middle ← (List.range n.toNat).mapM fun _ => do
    let hi := len - n
    if hi < n then throw (.value s!"empty range for randrange() ({n}, {hi + 1}, {hi + 1 - n})")
    if hi > n then throw (.unavailable "random")
    match (Data.strs lines).item n with
    | .ok v => pure v.text
    | .error f => throw f
  pure (Text.span lines 0 n ++ middle ++ Text.span lines (-n) len)

def manifestKinds : List String := ["_high_score_manifest.json", "_low_score_manifest.json", "_del_manifest.json"]

/-- The manifests of a directory whose names end in a suffix, sorted. -/
def manifestsEnding (dir suffix : String) : Work (List String) := do
  if !(← Work.isDir dir) then return []
  let names := (← Work.files).entries dir
  let mut found : List String := []
  for n in names do
    if n.endsWith suffix && (← Work.isFile (FileSystem.join dir n)) then
      found := found ++ [FileSystem.join dir n]
  pure found

/-- The sum of the durations of a manifest's entries, added to a running total. -/
def addDurations (total : Data) (lines : List String) : Work Data :=
  lines.foldlM (fun t line => do
    let entry ← Speech.lineObject line
    (Data.plus t (← entry.key "duration"))) total

def manifestToolCommandLine : CommandLine :=
  { prog := "process_manifests.py"
    description := some "Combine manifests and extract samples"
    arguments := [
      option "--manifests_dir" .text (.str "_high_score_manifest.json") true
        (some "Path to directory with *_high_score_manifest.json files"),
      option "--output_dir" .text (.str "output") true (some "Path to the directory to store final manifest"),
      option "--num_samples" .int (.int 0) false
        (some "The number of samples to get from the beginning, end and randomly from the middle of highly scored samples")] }

/-- The manifest tool: samples and gathers the well-scored manifests and reports durations. -/
def manifestToolMain : Callee := fun r => do
  let args ← manifestToolCommandLine.run r.argv
  let value := kwarg args
  let dir := FileSystem.display (value "manifests_dir").text
  let outDir := (value "output_dir").text
  let samples := ((value "num_samples").int?).getD 0
  let manifests ← manifestsEnding dir "_high_score_manifest.json"
  let sampleFile := FileSystem.join outDir "sample_manifest.json"
  let allFile := FileSystem.join outDir "all_manifest.json"
  if samples > 0 then
    Work.writeFile sampleFile ""
    for m in manifests do
      for line in ← (sampledLines (← Work.readLines m) samples) do
        Work.appendFile sampleFile line
    Work.printLine s!"Sample manifest is saved at {sampleFile}"
  Work.writeFile allFile ""
  let mut total : Data := .int 0
  for m in manifests do
    for line in ← Work.readLines m do
      total ← addDurations total [line]
      Work.appendFile allFile line
  Work.printLine s!"Aggregated manifest is saved at {allFile}"
  let minutes ← Data.divide total (.int 60)
  let hours ← Data.divide minutes (.int 60)
  let whole (d : Data) : String := toString (Numeric.truncToInt (Numeric.roundToEven (number d)))
  let minutesText := whole minutes
  let hoursText := whole hours
  Work.printLine s!"Total files duration: ~{minutesText} min or ~{hoursText} hr"
  let mut sum : Data := .int 0
  for kind in manifestKinds do
    let mut kindTotal : Data := .int 0
    for m in ← manifestsEnding dir kind do
      kindTotal ← addDurations kindTotal (← Work.readLines m)
    let inHours ← Data.divide kindTotal (.int 3600)
    let rounded := Data.float (Numeric.roundPlaces (number inHours) 1)
    sum ← Data.plus sum rounded
    let name := ((kind.splitOn "_").getD 1 "").toUpper
    Work.printLine s!"Total {name} score duration: ~{rounded.text} hr"
  Work.printLine s!"Total duration: ~{sum.text} hr"
  Work.printLine "Done."
  pure (.plain .null)

def segmentationCallees : List (String × Callee) :=
  [("tools/ctc_segmentation/scripts/prepare_data.py:split_text", splitTextCallee),
   ("tools/ctc_segmentation/scripts/utils.py:write_output", writeOutputCallee),
   ("tools/ctc_segmentation/scripts/process_manifests.py:get_samples",
    functionOf "get_samples" [req "manifest", req "num_samples"] fun vals => do
      let n ← match plainArg vals 1 with
        | .int n => pure n
        | other => throw (.type s!"{Text.quote other.kindName} object cannot be interpreted as an integer")
      let lines ← Work.readLines (plainArg vals 0).text
      pure (Data.strs (← sampledLines lines n))),
   ("tools/ctc_segmentation/scripts/process_manifests.py:__main__", manifestToolMain)]

end Conversa.Callees
