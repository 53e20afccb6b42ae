import Conversa.Callees.Experiments
import Conversa.Entry.CommandLine

/-!
# Shards of a corpus by lines

A corpus checked line by line by several workers is cut into byte ranges starting at line
starts, one per worker (`lineEnds`, `shardEdges`: worker `i` starts after line
`i * count / parts`), and each worker's `rank<i>` file is joined again in name order
(`joinShards`).  The filter's four target arguments come all together or not at all
(`sidesAgree`).
-/

namespace Conversa.Callees

open Entry

def lineEnds (lines : List String) : List Nat :=
  (lines.foldl (fun (acc : List Nat) l => (acc.headD 0 + l.utf8ByteSize) :: acc) [0]).reverse

/-- The offsets at which each of `parts` shards of `count` lines starts, then the end of the
text: shard `i` starts at the end of line `i * count / parts`, rounded down. -/
def shardEdges (ends : List Nat) (count parts : Nat) : List Nat :=
  (List.range parts).map (fun i => ends.getD (i * count / parts) 0) ++ [ends.getLastD 0]

def ranges (edges : List Nat) : List (Nat × Nat) := edges.zip edges.tail

/-- A value used as a count of parts: a whole number or a truth value. -/
def partCount (d : Data) : Result Int :=
  match d with
  | .int n => .ok n
  | .bool b => .ok (if b then 1 else 0)
  | other => .error (.type s!"{Text.quote other.kindName} object cannot be interpreted as an integer")

def pathShown (d : Data) : String :=
  match d with
  | .dict [("$path", .str p)] => FileSystem.display p
  | other => other.text

def pathRepr (d : Data) : String :=
  match d with
  | .dict [("$path", .str p)] => s!"PosixPath({Text.quote (FileSystem.display p)})"
  | other => other.show

def fileShards (file parts : Data) : Work (List Nat × Nat) := do
  let lines ← Work.readLines (← pathArgument file)
  let n ← partCount parts
  pure (shardEdges (lineEnds lines) lines.length n.toNat, lines.length)

/-- The shard ranges of a corpus side, of the other side if given, and the number of lines; the
sides must have as many lines. -/
def corpusShards (source target parts : Data) : Work (List (Nat × Nat) × Option (List (Nat × Nat)) × Nat) := do
  let (edges, count) ← fileShards source parts
  let n ← partCount parts
  if n + 1 != edges.length then throw (.assertion "")
  if target.isNull then return (ranges edges, none, count)
  let (other, otherCount) ← fileShards target parts
  if otherCount != count then
    throw (.value (s!"Source {pathRepr source} and target {pathRepr target} files have different number of lines " ++
      s!"{count} and {otherCount} correspondingly."))
  pure (ranges edges, some (ranges other), count)

/-- Whether a path names a worker's shard: it holds `/rank` and a digit from one to nine, or it
ends in `0`. -/
def isShardPath (s : String) : Bool :=
  s.endsWith "0" || (s.splitOn "/rank").tail.any fun rest =>
    match rest.toList with
    | c :: _ => '1' ≤ c && c ≤ '9'
    | [] => false

/-- The path of a path object, or the failure of calling `method` on another value. -/
def pathObject (d : Data) (method : String) : Result String :=
  match d with
  | .dict [("$path", .str p)] => .ok (FileSystem.display p)
  | other => .error (noAttribute other.kindName method)

/-- Copies the shards of a directory, in the order of their names, into one file. -/
def joinShards (out dir : Data) : Work Unit := do
  let outPath ← pathObject out "open"
  let dirPath ← pathObject dir "iterdir"
  Work.writeFile outPath ""
  if ← Work.isFile dirPath then throw ⟨"NotADirectoryError", s!"[Errno 20] Not a directory: {Text.quote dirPath}"⟩
  if !(← Work.isDir dirPath) then throw (Work.noSuchFile dirPath)
  let names := (← Work.files).entries dirPath
  let mut text := ""
  for name in names do
    let path := FileSystem.join dirPath name
    if (← Work.isFile path) && isShardPath path then
      text := text ++ String.join (← Work.readLines path)
  Work.writeFile outPath text

/-- Whether the target arguments of the filter are all absent or all given. -/
def sidesAgree (values : List Data) : Bool :=
  values.all (·.isNull) || values.all (!·.isNull)

def filterOption (long short : String) (required : Bool) (help : String) : Argument :=
  { option long .text .null required (some help) with flags := [long, short] }

def languageFilterCommandLine : CommandLine :=
  { prog := "filter_langs_nmt.py"
    description := some ("It is a script for verifying language in machine translation data sets. If the script is used on " ++
      "a parallel corpus, it verifies both a source and a target language. If number of jobs \x60--num-jobs\x60 is bigger " ++
      "than 1 than lines in an input file (or files if parallel corpus is checked) split equally between workers. " ++
      "If \x60num_jobs > 1\x60 is used, the best performance is achieved if dataset is shuffled and lines with different " ++
      "lengths are distributed evenly in the input file. Filtered data is stored into \x60output_src\x60[, \x60--output-tgt\x60]" ++
      " and removed lines are put into \x60removed_src\x60[, \x60--removed-tgt\x60] files. If language cannot be detected " ++
      "(e.g. date), the line is removed. Working time on en-de wikimatrix (6.23M pairs: 700 MB German and 625 MB " ++
      "English) from wmt20 on machine with 20 CPU cores: less than 1 minute.")
    arguments := [
      filterOption "--input-src" "-s" true "Path to the input file which has to contain text in language \x60source_lang\x60.",
      filterOption "--input-tgt" "-t" false ("Path to the input file which has to contain text in language \x60target_lang\x60. " ++
        "If not provided, data is processed as monolingual."),
      filterOption "--output-src" "-S" true "Path to the file where filtered \x60input_src\x60 will be saved.",
      filterOption "--output-tgt" "-T" false "Path to the output target file",
      filterOption "--source-lang" "-l" true
        "Input language. For options see https://fasttext.cc/docs/en/language-identification.html.",
      filterOption "--target-lang" "-L" false
        "Output language. For options see https://fasttext.cc/docs/en/language-identification.html.",
      filterOption "--removed-src" "-r" true "Path to file where removed source lines will be saved",
      filterOption "--removed-tgt" "-R" false "Path to file where removed target lines will be saved",
      { filterOption "--num-jobs" "-j" false
          "Number of jobs. By default, the number of jobs is equal to the number of CPU cores." with type := .int },
      filterOption "--fasttext-model" "-m" false
        ("Path to fasttext model. The description and download links are here " ++
          "https://fasttext.cc/docs/en/language-identification.html")] }

def filterPathOptions : List String :=
  ["input_src", "input_tgt", "output_src", "output_tgt", "removed_src", "removed_tgt", "fasttext_model"]

/-- The filter's arguments read from a command line: paths made path objects, the target side
checked to be all given or all absent, and a model path required. -/
def languageFilterArguments (argv : List String) : Work Data := do
  let vals ← languageFilterCommandLine.run argv
  let vals := vals.map fun (k, v) =>
    if filterPathOptions.contains k && !v.isNull then (k, pathData v.text) else (k, v)
  let value (k : String) : Data := (vals.lookup k).getD .null
  let side := ["input_tgt", "output_tgt", "target_lang", "removed_tgt"].map value
  if !sidesAgree side then
    let shownOf (k : String) : String := if (value k).isNull then "None" else pathShown (value k)
    let inputTgt := shownOf "input_tgt"
    let outputTgt := shownOf "output_tgt"
    let targetLang := shownOf "target_lang"
    let removedTgt := shownOf "removed_tgt"
    throw (.value (("Arguments \x60input_tgt\x60, \x60output_tgt\x60, \x60target_lang\x60, \x60removed_tgt\x60 have to be " ++
      "either \x60None\x60 simultaneously or not \x60None\x60 simultaneously. Given ") ++
      s!"input_tgt={inputTgt}, output_tgt={outputTgt}, target_lang={targetLang}, removed_tgt={removedTgt}"))
  if (value "fasttext_model").isNull then
    throw ⟨"AttributeError", "'NoneType' object has no attribute 'expanduser'"⟩
  pure (objectData "Namespace" vals)

def languageFilterScript : String := "scripts/neural_machine_translation/filter_langs_nmt.py"

def rangeData (r : Nat × Nat) : Data := .list [.int r.1, .int r.2]

def corpusShardCallees : List (String × Callee) :=
  [(languageFilterScript ++ ":get_edges_in_1_file",
    functionOf "get_edges_in_1_file" [req "fn", req "num_parts"] fun v => do
      let (edges, count) ← fileShards (arg v 0) (arg v 1)
      pure (.list [Data.nats edges, .int count])),
   (languageFilterScript ++ ":get_edges_and_num_lines",
    functionOf "get_edges_and_num_lines" [req "src_fn", req "tgt_fn", req "num_parts"] fun v => do
      let (src, tgt, count) ← corpusShards (arg v 0) (arg v 1) (arg v 2)
      let tgtData := match tgt with
        | some rs => .list (rs.map rangeData)
        | none => .list (src.map fun _ => .null)
      pure (.list [.list (src.map rangeData), tgtData, .int count])),
   (languageFilterScript ++ ":_cat_results",
    functionOf "_cat_results" [req "out_file", req "tmp_dir"] fun v => do
      joinShards (arg v 0) (arg v 1)
      pure .null),
   (languageFilterScript ++ ":cat_results",
    functionOf "cat_results" [req "out_files", req "tmp_dirs"] fun v => do
      let outs ← Data.elements (arg v 0)
      let dirs ← Data.elements (arg v 1)
      for (o, d) in outs.zip dirs do
        if !o.isNull && !d.isNull then joinShards o d
      pure .null),
   (languageFilterScript ++ ":get_args", fun r => do
      pure (.plain (shown (← languageFilterArguments r.argv))))]

end Conversa.Callees
