import Conversa.Callees.IntentImport

/-!
# Importing text classification corpora

Four corpora become `text TAB label` lines per split: reviews under `mode/neg` and `mode/pos`
(`importReviews`), sentiment sentences (`importSentences`), chemical relations numbered as they
come (`importRelations`), and news articles by category, a fifth held out (`importNews`).
-/

namespace Conversa.Callees

open Entry Service

/-- The files of a directory whose names end in `.txt` and do not start with a dot, sorted. -/
def textFilesIn (dir : String) : Work (List String) := do
  if !(← Work.isDir dir) then return []
  let names := (← Work.files).entries dir
  let mut found : List String := []
  for n in names do
    if n.endsWith ".txt" && !n.startsWith "." && (← Work.isFile s!"{dir}/{n}") then
      found := found ++ [s!"{dir}/{n}"]
  pure found

/-- The text of a file as reading it gives it: carriage returns, alone or before a line feed,
read as line feeds. -/
def fileText (path : String) : Work String := do
  pure (String.join (← Work.readLines path))

def sentimentClasses : String := "negative\npositive\n"

def importReviews (infold outfold : String) (uncased : Bool) (modes : List String) : Work Unit := do
  if !(← Work.pathExists infold) then
    throw (.value (s!"Data not found at {infold}. Please download IMDB reviews dataset from " ++
      "https://ai.stanford.edu/~amaas/data/sentiment/ and extract it into the folder specified by source_data_dir argument."))
  Work.makeDirs outfold
  for mode in modes do
    let out := FileSystem.join outfold (mode ++ ".tsv")
    Work.writeFile out ""
    for (sentiment, label) in [("neg", 0), ("pos", 1)] do
      for file in ← textFilesIn s!"{infold}/{mode}/{sentiment}" do
        let review := Text.strip (← fileText file)
        let review := if uncased then Text.lower review else review
        let review := review.replace "<br />" ""
        Work.appendFile out s!"{review}\t{label}\n"
  Work.writeFile (FileSystem.join outfold "label_ids.tsv") sentimentClasses

/-- The records of a tab-separated file, quotes read as any other character. -/
def tabRecords (path : String) : Work (List (List String)) := do
  Text.readRecords '\t' none (← Work.readFile path)

def fieldAt (record : List String) (i : Nat) : Result String :=
  match record[i]? with
  | some f => .ok f
  | none => .error .listIndex

def importSentences (infold outfold : String) (uncased : Bool) (splits : List String) : Work Unit := do
  if !(← Work.pathExists infold) then
    throw (.value (s!"Data not found at {infold}. Please download SST-2 dataset from " ++
      "\x60https://dl.fbaipublicfiles.com/glue/data/SST-2.zip\x60 and extract it into the folder specified by \x60source_data_dir\x60 argument."))
  Work.makeDirs outfold
  for split in splits do
    let records ← tabRecords (FileSystem.join infold (split ++ ".tsv"))
    let out := FileSystem.join outfold (split ++ ".tsv")
    Work.writeFile out ""
    for record in records.drop 1 do
      let text ← fieldAt record 0
      let label ← fieldAt record 1
      let text := if uncased then Text.lower text else text
      Work.appendFile out s!"{text}\t{label}\n"
  Work.writeFile (FileSystem.join outfold "label_ids.tsv") sentimentClasses

def relationFiles : List (String × String) :=
  [("train", "trainingPosit_chem"), ("test", "testPosit_chem"), ("dev", "developPosit_chem")]

def importRelations (infold outfold : String) (uncased : Bool) (modes : List String) : Work Unit := do
  if !(← Work.pathExists infold) then
    throw (.value (s!"Data not found at {infold}. Please download ChemProt from " ++
      "https://github.com/arwhirang/recursive_chemprot/tree/master/Demo/tree_LSTM/data."))
  Work.makeDirs outfold
  let mapping := FileSystem.join outfold "label_mapping.tsv"
  Work.writeFile mapping ""
  let mut labels : List String := []
  for mode in modes do
    let out := FileSystem.join outfold (mode ++ ".tsv")
    Work.writeFile out ""
    let some (_, name) := relationFiles.find? (·.1 == mode) | throw (.key (Text.quote mode))
    for record in ← tabRecords (FileSystem.join infold name) do
      let text ← fieldAt record 1
      let flag ← fieldAt record 2
      let label ← if flag == "True" then (fieldAt record 3) else pure flag
      let text := if uncased then Text.lower text else text
      if !labels.contains label then
        let number := labels.length
        Work.appendFile mapping s!"{label}\t{number}\n"
        labels := labels ++ [label]
      let number := labels.idxOf label
      Work.appendFile out s!"{text}\t{number}\n"

def newsCategories : List String :=
  ["体育", "娱乐", "家居", "彩票", "房产", "教育", "时尚", "时政", "星座", "游戏", "社会", "科技", "股票", "财经"]

/-- An article as one line: its ends stripped, line breaks removed and tabs made spaces. -/
def articleLine (text : String) : String :=
  String.ofList ((Text.strip text).toList.filter (fun c => c != '\r' && c != '\n') |>.map fun c => if c == '\t' then ' ' else c)

/-- Imports a corpus of news articles; the splits are appended to. -/
def importNews (infold outfold : String) : Work Unit := do
  if !(← Work.pathExists infold) then
    throw (.value s!"Data not found at {infold}. Please download THUCNews from thuctc.thunlp.org/.")
  Work.makeDirs outfold
  let trainFile := FileSystem.join outfold "train.tsv"
  let testFile := FileSystem.join outfold "test.tsv"
  for f in [trainFile, testFile] do
    if !(← Work.isFile f) then Work.writeFile f ""
  for (category, label) in newsCategories.zipIdx do
    let files ← textFilesIn s!"{infold}/{category}"
    let held := (Numeric.truncToInt (files.length.toFloat * (1.0 - 0.8))).toNat
    for (out, chosen) in [(trainFile, files.drop held), (testFile, files.take held)] do
      for file in chosen do
        let text ← Work.readFile file
        Work.appendFile out s!"{articleLine text}\t{label}\n"

def classificationImportScript : String := "examples/nlp/text_classification/data/import_datasets.py"

def classificationImportCommandLine : CommandLine :=
  { prog := "import_datasets.py"
    description := some "Process and convert datasets into NeMo's format."
    arguments := [
      { option "--dataset_name" .text .null true none with
          choices := [.str "imdb", .str "thucnews", .str "chemprot"] },
      option "--source_data_dir" .text .null true (some "The path to the folder containing the dataset files."),
      option "--target_data_dir" .text .null true none,
      switch "--do_lower_case" none] }

def classificationImportCallees : List (String × Callee) :=
  [(classificationImportScript ++ ":process_imdb",
    functionOf "process_imdb" [req "infold", req "outfold", req "uncased", opt "modes" .null] fun v => do
      let modes ← modesArg (arg v 3) ["train", "test"]
      importReviews (arg v 0).text (arg v 1).text (arg v 2).truthy modes
      pure .null),
   (classificationImportScript ++ ":process_sst2",
    functionOf "process_sst2" [req "infold", req "outfold", req "uncased", opt "splits" .null] fun v => do
      let splits ← modesArg (arg v 3) ["train", "dev"]
      importSentences (arg v 0).text (arg v 1).text (arg v 2).truthy splits
      pure .null),
   (classificationImportScript ++ ":process_chemprot",
    functionOf "process_chemprot" [req "source_dir", req "target_dir", req "uncased", opt "modes" .null] fun v => do
      let modes ← modesArg (arg v 3) ["train", "test", "dev"]
      importRelations (arg v 0).text (arg v 1).text (arg v 2).truthy modes
      pure .null),
   (classificationImportScript ++ ":process_thucnews",
    functionOf "process_thucnews" [req "infold", req "outfold"] fun v => do
      importNews (arg v 0).text (arg v 1).text
      pure .null),
   (classificationImportScript ++ ":__main__", fun r => do
      let args ← classificationImportCommandLine.run r.argv
      let value := kwarg args
      let source := (value "source_data_dir").text
      let target := (value "target_data_dir").text
      if !(← Work.pathExists source) then throw ⟨"FileNotFoundError", s!"{source} does not exist."⟩
      let uncased := (value "do_lower_case").truthy
      match (value "dataset_name").text with
      | "imdb" => importReviews source target uncased ["train", "test"]
      | "thucnews" => importNews source target
      | _ => importRelations source target uncased ["train", "test", "dev"]
      pure (.plain .null))]

end Conversa.Callees
