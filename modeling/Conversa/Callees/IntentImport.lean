import Conversa.Callees.DataPreparation
import Conversa.Entry.CommandLine

/-!
# Importing intent and slot corpora

Three corpora of commands become the joint intent and slot format (`mode.tsv`,
`mode_slots.tsv`, `dict.intents.csv`, `dict.slots.csv`): numbered queries (`importNumbered`),
tagged commands `intent TAB tags TAB sentence` with tags `start:end:name` giving beginning and
inside labels (`importTagged`), and assistant commands with slots written `[name : words]`
(`importAssistant`).  An import whose output already exists does nothing but name it.
-/

namespace Conversa.Callees

open Entry Service

def allPresent (dir : String) (files : List String) : Work Bool := do
  if !(← Work.pathExists dir) then return false
  files.allM fun f => Work.pathExists s!"{dir}/{f}"

/-- The word a number names in a vocabulary: a position of a sequence, or a key of a mapping. -/
def vocabularyWord (vocab : Data) (id : Data) : Result String := do
  let n ← match id with
    | .str s => intLiteral s
    | .int n => pure n
    | .bool b => pure (if b then 1 else 0)
    | .float x => pure (Numeric.truncToInt x)
    | other => throw (.type s!"int() argument must be a string, a bytes-like object or a real number, not {Text.quote other.kindName}")
  match vocab with
  | .dict kvs =>
    match kvs.find? (·.1 == toString n) with
    | some (_, v) => pure v.text
    | none => throw (.key (toString n))
  | other => do pure (← other.item n).text

def wordsOfIds (vocab : Data) (ids : List Data) : Result String := do
  pure (" ".intercalate (← ids.mapM (vocabularyWord vocab)))

def framedWords (line : String) : List String := Text.span (Text.words line) 1 (-1)

/-- Imports a corpus of numbered queries: for each mode the queries, intents and slots files of
the input, then the vocabularies copied. -/
def importNumbered (infold outfold : String) (modes : List String) (uncased : Bool) : Work Data := do
  let vocabLines := (strippedLines (← Work.readFile s!"{infold}/atis.dict.vocab.csv")).filter (!·.isEmpty)
  let vocab := Data.dict (vocabLines.zipIdx.map fun (l, i) => (toString i, .str l))
  if ← allPresent outfold (modes.map (· ++ ".tsv")) then return .str outfold
  Work.makeDirs outfold
  for mode in modes do
    let textFile := FileSystem.join outfold (mode ++ ".tsv")
    let slotFile := s!"{outfold}/{mode}_slots.tsv"
    Work.writeFile textFile "sentence\tlabel\n"
    Work.writeFile slotFile ""
    let queries ← Work.readLines s!"{infold}/atis.{mode}.query.csv"
    let intents ← Work.readLines s!"{infold}/atis.{mode}.intent.csv"
    let slots ← Work.readLines s!"{infold}/atis.{mode}.slots.csv"
    for (query, i) in queries.zipIdx do
      let sentence ← wordsOfIds vocab ((framedWords query).map Data.str)
      let sentence := if uncased then Text.lower sentence else sentence
      let some intent := intents[i]? | throw .listIndex
      Work.appendFile textFile s!"{sentence}\t{Text.strip intent}\n"
      let some slot := slots[i]? | throw .listIndex
      Work.appendFile slotFile (" ".intercalate (framedWords slot) ++ "\n")
  Work.writeFile s!"{outfold}/dict.intents.csv" (← Work.readFile s!"{infold}/atis.dict.intent.csv")
  Work.writeFile s!"{outfold}/dict.slots.csv" (← Work.readFile s!"{infold}/atis.dict.slots.csv")
  pure .null

/-- A slot tag `start:end:name` of a tagged command. -/
structure SlotTag where
  start : Int
  stop : Int
  name : String

/-- The slot tags of a tag field, empty pieces skipped. -/
def slotTags (field : String) : Result (List SlotTag) := do
  if (Text.strip field).isEmpty then return []
  let pieces := (Text.strip field).splitOn ","
  pieces.filterMapM fun piece => do
    if (Text.strip piece).isEmpty then return none
    match (Text.strip piece).splitOn ":" with
    | [a, b, n] => pure (some ⟨← intLiteral a, ← intLiteral b, n⟩)
    | parts => throw (.unpack 3 parts.length)

/-- The numbering of labels of a tagged corpus as it grows: intents, slot names, and the labels
`O`, `B-name` and `I-name`. -/
structure TagNumbering where
  /-- The intents in order of first appearance. -/
  intents : List String := []
  /-- The slot names in order of first appearance. -/
  slots : List String := []

/-- The number of a label: `O` is zero, and each slot name's beginning and inside labels follow
in the order the names came. -/
def TagNumbering.labelNumber (m : TagNumbering) (name : String) (inside : Bool) : Nat :=
  match m.slots.idxOf? name with
  | some i => 2 * i + (if inside then 2 else 1)
  | none => 0

/-- The label numbers of a sentence's words from its sorted slot tags: words before, between and
after tags are outside, a tag's first word begins it and its other words are inside it. -/
def taggedLabels (m : TagNumbering) (sentence : String) (tags : List SlotTag) : List Nat :=
  let step := fun (acc : List Nat × Int) (t : SlotTag) =>
    let (labels, done) := acc
    let before := if t.start > done then List.replicate (Text.words (Text.slice sentence done t.start)).length 0 else []
    let inside := (Text.words (Text.slice sentence t.start t.stop)).length
    (labels ++ before ++ [m.labelNumber t.name false] ++ List.replicate (inside - 1) (m.labelNumber t.name true), t.stop)
  let (labels, done) := tags.foldl step ([], 0)
  if done < sentence.length then labels ++ List.replicate (Text.words (Text.slice sentence done sentence.length)).length 0
  else labels

/-- Imports one mode of a corpus of tagged commands, growing the numbering and the vocabulary
files. -/
def importTaggedMode (infold outfold mode : String) (uncased skipPrevious : Bool) (m : TagNumbering) :
    Work TagNumbering := do
  let textFile := FileSystem.join outfold (mode ++ ".tsv")
  let slotFile := s!"{outfold}/{mode}_slots.tsv"
  Work.writeFile textFile "sentence\tlabel\n"
  Work.writeFile slotFile ""
  let queries ← Work.readLines s!"{infold}/{mode}.tsv"
  let mut m := m
  for query in queries do
    let fields := (Text.strip query).splitOn "\t"
    let (intent, tagField, sentence) ← match fields with
      | [i, t, s] => pure (i, t, s)
      | [i, s] => pure (i, "", s)
      | parts => throw (.unpack 2 parts.length)
    if !m.intents.contains intent then
      m := { m with intents := m.intents ++ [intent] }
      Work.appendFile s!"{outfold}/dict.intents.csv" (intent ++ "\n")
    let sentence := if uncased then Text.lower sentence else sentence
    let words := Text.span (Text.words sentence) (if skipPrevious then 2 else 1) (-1)
    let shownWords := " ".intercalate words
    let number := m.intents.idxOf intent
    Work.appendFile textFile s!"{shownWords}\t{number}\n"
    let tags ← slotTags tagField
    for t in tags do
      if !m.slots.contains t.name then
        m := { m with slots := m.slots ++ [t.name] }
        Work.appendFile s!"{outfold}/dict.slots.csv" s!"B-{t.name}\nI-{t.name}\n"
    let sorted := tags.mergeSort fun a b => decide (a.start ≤ b.start)
    let labels := Text.span (taggedLabels m sentence sorted) 1 (-1)
    Work.appendFile slotFile (" ".intercalate (labels.map toString) ++ "\n")
  pure m

/-- Imports a corpus of tagged commands, mode by mode; a mode whose output exists or whose input
is missing is skipped. -/
def importTagged (infold outfold : String) (modes : List String) (uncased skipPrevious : Bool) : Work Data := do
  if ← allPresent outfold ["dict.intents.csv", "dict.slots.csv"] then return .str outfold
  Work.makeDirs outfold
  Work.writeFile s!"{outfold}/dict.intents.csv" ""
  Work.writeFile s!"{outfold}/dict.slots.csv" "O\n"
  let mut m : TagNumbering := {}
  for mode in modes do
    if ← allPresent outfold [mode ++ ".tsv"] then continue
    if !(← allPresent infold [mode ++ ".tsv"]) then continue
    m ← importTaggedMode infold outfold mode uncased skipPrevious m
  pure (.str outfold)

/-- The files under a directory, relative to it. -/
def filesBelow (dir : String) : Work (List String) := do
  let t ← Work.files
  let pre := FileSystem.display dir ++ "/"
  pure ((t.filesUnder dir).filterMap fun f =>
    if f.startsWith pre then some (String.ofList (f.toList.drop pre.length)) else none)

/-- Copies a directory's files into another directory, which must not exist yet. -/
def copyTree (source target : String) : Work Unit := do
  if !(← Work.isDir source) then throw (Work.noSuchFile source)
  if ← Work.pathExists target then throw ⟨"FileExistsError", s!"[Errno 17] File exists: {Text.quote target}"⟩
  Work.makeDirs target
  for f in ← filesBelow source do
    Work.writeFile s!"{target}/{f}" (← Work.readFile s!"{source}/{f}")

def assistantExport : String :=
  "/CrossValidation/autoGeneFromRealAnno/autoGene_2018_03_22-13_01_25_169/CrossValidation/KFold_1"

/-- Puts the training and test files of the assistant corpus under `dataset`, copied from its
export unless they are there. -/
def placeAssistantFiles (infold : String) : Work Unit := do
  let ours := infold ++ "/dataset"
  if (← Work.pathExists (ours ++ "/trainset")) && (← Work.pathExists (ours ++ "/testset")) then return
  Work.makeDirs infold
  if !(← Work.pathExists (ours ++ "/trainset")) then
    copyTree (infold ++ assistantExport ++ "/trainset") (ours ++ "/trainset")
  if !(← Work.pathExists (ours ++ "/testset")) then
    copyTree (infold ++ assistantExport ++ "/testset/csv") (ours ++ "/testset")

/-- The field at a position of a `;`-separated record. -/
def recordField (line : String) (i : Nat) : Result String :=
  match (line.splitOn ";")[i]? with
  | some f => .ok f
  | none => .error .listIndex

/-- The bracketed spans of a text, each from an opening bracket to the first closing bracket
after it, brackets included; the search goes on after each span. -/
def bracketSpans : List Char → List String
  | [] => []
  | '[' :: rest =>
    match rest.idxOf? ']' with
    | some i => String.ofList ('[' :: rest.take (i + 1)) :: bracketSpans (rest.drop (i + 1))
    | none => bracketSpans rest
  | _ :: rest => bracketSpans rest
termination_by cs => cs.length
decreasing_by all_goals (simp only [List.length_drop, List.length_cons]; omega)

/-- The slot names a sentence annotates: each bracketed span up to ` : `, without its bracket. -/
def annotatedSlots (query : String) : List String :=
  (bracketSpans query.toList).map fun span => String.ofList (((span.splitOn " : ").headD "").toList.drop 1)

/-- The slot numbers of the words of an annotated sentence: a word opening `[name` switches to
that slot, a word starting with `:` is skipped, and a word ending in `]` switches back to the
outside slot after it. -/
def annotatedLabels (slotNumber : String → Result Nat) (outside : Nat) (query : String) :
    Result (List Nat) := do
  let (labels, _) ← (query.splitOn " ").foldlM (fun (acc : List Nat × Nat) word => do
    let (labels, current) := acc
    match word.toList with
    | [] => throw (.index "string index out of range")
    | '[' :: rest => pure (labels, ← slotNumber (String.ofList rest))
    | ':' :: _ => pure (labels, current)
    | cs => pure (labels ++ [current], if cs.getLast? == some ']' then outside else current)) ([], outside)
  pure labels

def writeStrippedLines (file : String) (items : List String) : Work Unit :=
  Work.writeFile file (String.join (items.map fun s => Text.strip s ++ "\n"))

/-- Imports the assistant corpus: intents from the training file names, sorted; sentences and
slot numbers per mode in the order of the intents; slot names sorted with `O` last. -/
def importAssistant (infold outfold : String) (modes : List String) : Work Data := do
  if ← allPresent outfold (modes.map (· ++ "_slots.tsv")) then return .str outfold
  Work.makeDirs outfold
  placeAssistantFiles infold
  let dir := infold ++ "/dataset"
  let names := ((← Work.files).entries (dir ++ "/trainset")).map fun f => String.ofList (f.toList.dropLast.dropLast.dropLast.dropLast)
  let intents := names.mergeSort fun a b => decide (a ≤ b)
  Work.printLine s!"Found {intents.length} intents"
  writeStrippedLines s!"{outfold}/dict.intents.csv" intents
  for mode in modes do
    let mut rows : List String := ["sentence\tlabel\n"]
    for (intent, i) in intents.zipIdx do
      for line in (← Work.readLines s!"{dir}/{mode}set/{intent}.csv").drop 1 do
        let plain ← recordField line 4
        rows := rows ++ [Text.slice plain 1 (-1) ++ "\t" ++ toString i]
    writeStrippedLines s!"{outfold}/{mode}.tsv" rows
  let mut found : List String := []
  for mode in modes do
    let path := s!"{dir}/{mode}set"
    if !(← Work.isDir path) then throw (Work.noSuchFile path)
    for f in (← Work.files).entries path do
      for line in (← Work.readLines s!"{path}/{f}").drop 1 do
        found := found ++ annotatedSlots (← recordField line 3)
  let slots := (found.eraseDups.mergeSort fun a b => decide (a ≤ b)) ++ ["O"]
  Work.printLine s!"Found {slots.length} slot types"
  writeStrippedLines s!"{outfold}/dict.slots.csv" slots
  let slotNumber (name : String) : Result Nat :=
    match slots.idxOf? name with
    | some i => .ok i
    | none => .error (.key (Text.quote name))
  for mode in modes do
    let mut rows : List String := []
    for intent in intents do
      for line in (← Work.readLines s!"{dir}/{mode}set/{intent}.csv").drop 1 do
        let labels ← annotatedLabels slotNumber (slots.length - 1) (← recordField line 3)
        rows := rows ++ [" ".intercalate (labels.map toString)]
    writeStrippedLines s!"{outfold}/{mode}_slots.tsv" rows
  pure .null

def intentImportScript : String := "examples/nlp/intent_slot_classification/data/import_datasets.py"

def assistantScript : String := "examples/nlp/intent_slot_classification/data/assistant_utils.py"

def intentImportCommandLine : CommandLine :=
  { prog := "import_datasets.py"
    description := some "Process and convert datasets into NeMo's format."
    arguments := [
      { option "--dataset_name" .text .null true none with
          choices := [.str "atis", .str "snips", .str "jarvis", .str "assistant"] },
      option "--source_data_dir" .text .null true (some "path to the folder containing the dataset files"),
      option "--target_data_dir" .text .null true (some "path to save the processed dataset"),
      switch "--do_lower_case" none,
      switch "--ignore_prev_intent" (some "ignores previous intent while importing datasets in jarvis's format")] }

def modesArg (d : Data) (default : List String) : Result (List String) :=
  if d.isNull then .ok default else do pure ((← (plain d).elements).map Data.text)

def intentImportCallees : List (String × Callee) :=
  [(intentImportScript ++ ":ids2text",
    functionOf "ids2text" [req "ids", req "vocab"] fun v => do
      let ids ← (plain (arg v 0)).elements
      pure (.str (← wordsOfIds (plain (arg v 1)) ids))),
   (intentImportScript ++ ":process_atis",
    functionOf "process_atis" [req "infold", req "outfold", opt "modes" .null, opt "do_lower_case" (.bool false)] fun v => do
      let modes ← modesArg (arg v 2) ["train", "test"]
      importNumbered (arg v 0).text (arg v 1).text modes (arg v 3).truthy),
   (intentImportScript ++ ":process_jarvis_datasets",
    functionOf "process_jarvis_datasets"
      [req "infold", req "outfold", opt "modes" .null, opt "do_lower_case" (.bool false), opt "ignore_prev_intent" (.bool false)]
      fun v => do
        let modes ← modesArg (arg v 2) ["train", "test", "dev"]
        importTagged (arg v 0).text (arg v 1).text modes (arg v 3).truthy (arg v 4).truthy),
   (intentImportScript ++ ":__main__", fun r => do
      let args ← intentImportCommandLine.run r.argv
      let value := kwarg args
      let source := (value "source_data_dir").text
      let target := (value "target_data_dir").text
      if !(← Work.pathExists source) then throw ⟨"FileNotFoundError", s!"{source} does not exist."⟩
      let uncased := (value "do_lower_case").truthy
      match (value "dataset_name").text with
      | "atis" => discard <| importNumbered source target ["train", "test"] uncased
      | "jarvis" => discard <| importTagged source target ["train", "test", "dev"] uncased (value "ignore_prev_intent").truthy
      | "assistant" => discard <| importAssistant source target ["train", "test"]
      | _ => throw (.unavailable "snips")
      pure (.plain .null)),
   (assistantScript ++ ":copy_input_files",
    functionOf "copy_input_files" [req "infold"] fun v => do
      placeAssistantFiles (arg v 0).text
      pure .null),
   (assistantScript ++ ":process_assistant",
    functionOf "process_assistant" [req "infold", req "outfold", opt "modes" .null] fun v => do
      let modes ← modesArg (arg v 2) ["train", "test"]
      importAssistant (arg v 0).text (arg v 1).text modes)]

end Conversa.Callees
