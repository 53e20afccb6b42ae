import Conversa.Callees.ClassificationImport

/-!
# Importing a corpus of questions and their queries

The corpus comes as three tab-separated files, a question and its query a record under a header
line; fields may be quoted.  Each becomes a file of the same records under the header
`sentence TAB label`, optionally lowercased.  A file already in the target folder is kept, and a
file missing from the source folder is skipped.  The source files are fetched first when they
are missing, which needs the network.
-/

namespace Conversa.Callees

open Entry

def queryCorpusFiles : List (String × String) :=
  [("train_queries_v3.tsv", "train.tsv"), ("test_easy_queries_v3.tsv", "test_easy.tsv"),
   ("test_hard_queries_v3.tsv", "test_hard.tsv")]

def existsIn (dir name : String) : Work Bool := do
  pure ((← Work.pathExists dir) && (← Work.pathExists s!"{dir}/{name}"))

def fetchQueryCorpus (infold : String) : Work Unit := do
  Work.makeDirs infold
  for (name, _) in queryCorpusFiles do
    if !(← existsIn infold name) then throw (.unavailable "download")

/-- Imports the query corpus from a source folder into a target folder. -/
def importQueries (infold outfold : String) (uncased : Bool) : Work Unit := do
  Work.makeDirs outfold
  for (name, target) in queryCorpusFiles do
    if ← existsIn outfold target then continue
    if !(← existsIn infold name) then continue
    let records ← tabQuotedRecords (FileSystem.join infold name)
    let out := FileSystem.join outfold target
    Work.writeFile out "sentence\tlabel\n"
    let _ :: rows := records | throw ⟨"StopIteration", ""⟩
    for row in rows do
      let sentence ← fieldAt row 0
      let label ← fieldAt row 1
      let (sentence, label) := if uncased then (Text.lower sentence, Text.lower label) else (sentence, label)
      Work.appendFile out s!"{sentence}\t{label}\n"
where
  /-- The records of a tab-separated file with quoted fields. -/
  tabQuotedRecords (path : String) : Work (List (List String)) := do
    Text.readRecords '\t' (some '"') (← Work.readFile path)

def queryImportScript : String := "examples/nlp/text2sparql/data/import_datasets.py"

def queryImportCommandLine : CommandLine :=
  { prog := "import_datasets.py"
    description := some "Process and convert datasets into NeMo's format"
    arguments := [
      option "--source_data_dir" .text .null true (some "Path to the folder containing the dataset files"),
      option "--target_data_dir" .text .null true (some "Path to save the processed dataset"),
      switch "--do_lower_case" none] }

def queryImportCallees : List (String × Callee) :=
  [(queryImportScript ++ ":download_text2sparql", functionOf "download_text2sparql" [req "infold"] fun v => do
      fetchQueryCorpus (arg v 0).text
      pure .null),
   (queryImportScript ++ ":process_text2sparql",
    functionOf "process_text2sparql" [req "infold", req "outfold", req "do_lower_case"] fun v => do
      importQueries (arg v 0).text (arg v 1).text (arg v 2).truthy
      pure .null),
   (queryImportScript ++ ":__main__", fun r => do
      let args ← queryImportCommandLine.run r.argv
      let value := kwarg args
      let source := (value "source_data_dir").text
      fetchQueryCorpus source
      importQueries source (value "target_data_dir").text (value "do_lower_case").truthy
      pure (.plain .null))]

end Conversa.Callees
