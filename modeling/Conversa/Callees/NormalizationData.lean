import Conversa.Entry.CommandLine
import Conversa.Entry.Instance

/-!
# Data for text normalization

A normalization corpus lists tokens a line, `class TAB written TAB spoken`, each sentence ended
by an `<eos>` line (`readSentences`).  For the tagger a sentence becomes, per direction, a task
word tagged `TASK` and each token tagged `SAME`, `PUNCT` or `TRANSFORM` (`tagInstance`), then
`B-`/`I-` labels per subword (`subwordLabels`).  The raw corpus comes in numbered shards: 0 for
training, 90 for development, 99 for testing (`readShards`).
-/

namespace Conversa.Callees

open Entry

/-- The sentences of a corpus file: classes, written and spoken tokens.  A sentence not ended by
an `<eos>` line is dropped. -/
def readSentences (path : String) : Work (List (List String × List String × List String)) := do
  let mut done : List (List String × List String × List String) := []
  let mut current : List String × List String × List String := ([], [], [])
  for line in ← Work.readLines path do
    let es := ((Text.strip line).splitOn "\t").map Text.strip
    if es.head? == some "<eos>" then
      done := done ++ [current]
      current := ([], [], [])
    else
      let field (i : Nat) : Result String :=
        match es[i]? with
        | some e => .ok e
        | none => .error .listIndex
      let c ← field 0
      let w ← field 1
      let s ← field 2
      current := (current.1 ++ [c], current.2.1 ++ [w], current.2.2 ++ [s])
  pure done

def sentenceData (s : List String × List String × List String) : Data :=
  .list [Data.strs s.1, Data.strs s.2.1, Data.strs s.2.2]

def withoutAsciiPunctuation (s : String) : String := String.ofList (s.toList.filter (!Text.isAsciiPunctuation ·))

def selfWord : String := "<self>"

def silenceWord : String := "sil"

/-- The words the tagger reads and their tags, for a sentence and a direction. -/
def tagInstance (written spoken : List String) (direction : String) : List String × List String :=
  let task := if direction == "BACKWARD" then ["0"] else if direction == "FORWARD" then ["1"] else []
  (List.zip written spoken).foldl (fun (acc : List String × List String) (w, s) =>
    let (words, tags) := acc
    if s == silenceWord && direction == "BACKWARD" then acc
    else if s == selfWord then (words ++ [w], tags ++ ["SAME"])
    else if s == silenceWord then (words ++ [w], tags ++ ["PUNCT"])
    else
      let source := if direction == "BACKWARD" then [s] else if direction == "FORWARD" then [w] else []
      (words ++ source, tags ++ ["TRANSFORM"])) (task, ["TASK"])

def tagInstanceData (inst : List String × List String) : Data :=
  objectData "TaggerDataInstance" [("input_words", Data.strs inst.1), ("labels", Data.strs inst.2)]

/-- The tag labels, sorted, numbered from zero. -/
def tagNumbers : List (String × Nat) :=
  ["B-PUNCT", "B-SAME", "B-TASK", "B-TRANSFORM", "I-PUNCT", "I-SAME", "I-TASK", "I-TRANSFORM"].zipIdx

/-- The label numbers of the pieces of a sentence from the word each piece belongs to. -/
def subwordLabels (tags : List String) (wordIds : List Data) : Result (List Int) := do
  let (labels, _) ← wordIds.foldlM (fun (acc : List Int × Data) w => do
    let (labels, previous) := acc
    match w with
    | .null => pure (labels ++ [-100], w)
    | _ =>
      let tag ← (Data.strs tags).item (w.int?.getD 0)
      let mark := if w.same previous then "I-" else "B-"
      let number := ((tagNumbers.lookup (mark ++ tag.text)).getD 0 : Int)
      pure (labels ++ [number], w)) ([], .null)
  pure labels

def taggerModes : List String := ["tn", "itn", "joint"]

/-- The instances of a tagger dataset: each sentence in the directions of the mode, each with a
second instance without kept tokens and punctuation when augmenting and more than one token
remains. -/
def taggerInstances (sentences : List (List String × List String × List String)) (mode : String)
    (augment : Bool) : List (List String × List String) :=
  sentences.flatMap fun (_, written, spoken) =>
    (["BACKWARD", "FORWARD"].filter fun d => !(d == "BACKWARD" && mode == "tn") && !(d == "FORWARD" && mode == "itn")).flatMap
      fun d =>
        let pairs := (List.zip written spoken).filter fun (_, s) => s != silenceWord && s != selfWord
        let extra := if augment && pairs.length > 1 then [tagInstance (pairs.map (·.1)) (pairs.map (·.2)) d] else []
        tagInstance written spoken d :: extra

def taggerDatasetAct (step : Step) : Work Data := do
  let self ← Work.this
  match step with
  | .read path => readPath self path
  | .call "__len__" args => do
    let _ ← args.bind "TextNormalizationTaggerDataset.__len__" []
    pure (.int (← attr self "labels").items.length)
  | .call name _ => Work.fail (noAttribute "TextNormalizationTaggerDataset" name)

def taggerDatasetCallee : Callee := fun r => do
  let vals ← (Arguments.bind r.args.intake
    "TextNormalizationTaggerDataset"
    [req "input_file", req "tokenizer", req "mode", req "do_basic_tokenize", req "tagger_data_augmentation"])
  let arg := arg vals
  let mode := arg 2
  if !taggerModes.any (fun m => mode.same (.str m)) then throw (.assertion "")
  let sentences ← readSentences (plain (arg 0)).text
  if (plain (arg 3)).truthy && !sentences.isEmpty then throw (.unavailable "nltk")
  let insts := taggerInstances sentences mode.text (plain (arg 4)).truthy
  let texts := insts.map fun i => Data.strs i.1
  let (encodings, _) ← invokeIn (arg 1) [] [.list texts]
    [("is_split_into_words", .bool true), ("padding", .bool false), ("truncation", .bool true)]
  let mut enc := encodings
  let mut labels : List Data := []
  for (inst, i) in insts.zipIdx do
    let (ids, enc') ← invokeIn enc ["word_ids"] [] [("batch_index", .int i)]
    enc := enc'
    labels := labels ++ [Data.ints (← subwordLabels inst.2 (plain ids).items)]
  let value := objectData "TextNormalizationTaggerDataset"
    [("mode", mode), ("insts", .list (insts.map tagInstanceData)),
     ("tag2id", .dict (tagNumbers.map fun (t, n) => (t, .int n))), ("encodings", enc), ("labels", .list labels)]
  pure { value, act := taggerDatasetAct }

/-- The entries of a batch at a position: each encoding's entry and the labels'. -/
def encodedItem (encodings labels : Data) (i : Int) : Result Data := do
  let entries ← (plain encodings).entries.mapM fun (k, v) => do pure (k, ← (plain v).item i)
  pure (.dict (entries ++ [("labels", ← (plain labels).item i)]))

/-- The shards of a raw corpus that make its splits: 0 for training, 90 for development, 99 for
testing. -/
def shardSplit (n : Int) : Option Nat :=
  if n == 0 then some 0 else if n == 90 then some 1 else if n == 99 then some 2 else none

/-- The sentences of a raw shard: an `<eos>` line of two fields ends a sentence, any other line
must have three; the test shard is read up to its line 100002. -/
def readShard (lines : List String) (test : Bool) : Result (List (List String × List String × List String)) := do
  let mut done : List (List String × List String × List String) := []
  let mut current : List String × List String × List String := ([], [], [])
  for (line, i) in lines.zipIdx do
    if test && i == 100002 then break
    match (Text.strip line).splitOn "\t" with
    | ["<eos>", _] =>
      if current.2.2.any (fun o => o != silenceWord && (o.splitOn "_letter").length > 1) then
        throw (.unavailable "wordninja")
      done := done ++ [current]
      current := ([], [], [])
    | [c, w, s] => current := (current.1 ++ [c], current.2.1 ++ [w], current.2.2 ++ [s])
    | _ => throw (.assertion "")
  pure done

/-- The training, development and test sentences of a raw corpus directory. -/
def readShards (dir : String) : Work (List (List (List String × List String × List String))) := do
  let mut splits : List (List (List String × List String × List String)) := [[], [], []]
  for name in (← Work.files).entries dir do
    let path := FileSystem.join dir name
    if !(← Work.isFile path) || !name.startsWith "output" then continue
    let part ← match (name.splitOn "-")[1]? with
      | some p => pure p
      | none => throw .listIndex
    let n ← match Numeric.readInt? part with
      | some n => pure n
      | none => throw (.value s!"invalid literal for int() with base 10: {Text.quote part}")
    let some k := shardSplit n | continue
    let sentences ← readShard (← Work.readLines path) (k == 2)
    splits := splits.set k (splits.getD k [] ++ sentences)
  let kept := splits.set 1 ((splits.getD 1 []).take 25000)
  let sizes := kept.map (·.length)
  Work.printLine s!"train_sz: {sizes.getD 0 0} | dev_sz: {sizes.getD 1 0} | test_sz: {sizes.getD 2 0}"
  pure kept

def rawCorpusScript : String := "examples/nlp/duplex_text_normalization/google_data_preprocessing.py"

def rawCorpusCommandLine : CommandLine :=
  { prog := "google_data_preprocessing.py"
    description := some "Preprocess Google text normalization dataset"
    arguments := [
      option "--data_dir" .text .null true (some "Path to folder with data"),
      option "--output_dir" .text (.str "preprocessed") false (some "Path to folder with preprocessed data"),
      { option "--lang" .text (.str "en") false (some "Language") with choices := [.str "en"] }] }

/-- The raw corpus script: reads the shards and writes the splits, tokenizing each token. -/
def rawCorpusMain : Callee := fun r => do
  let args ← rawCorpusCommandLine.run r.argv
  let value := kwarg args
  let out := (value "output_dir").text
  if !(← Work.isDir out) then
    if ← Work.pathExists out then throw ⟨"FileExistsError", s!"[Errno 17] File exists: {Text.quote out}"⟩
    if !(← Work.parentExists (FileSystem.join out "x")) then throw (Work.noSuchFile out)
    Work.makeDirs out
  let splits ← readShards (value "data_dir").text
  for (name, sentences) in List.zip ["train", "dev", "test"] splits do
    let file := FileSystem.join out (name ++ ".tsv")
    Work.writeFile file ""
    for (classes, _, _) in sentences do
      if !classes.isEmpty then throw (.unavailable "nltk")
      Work.appendFile file "<eos>\t<eos>\n"
  pure (.plain .null)

def normalizationDataCallees : List (String × Callee) :=
  let utils := "nemo.collections.nlp.data.text_normalization.utils:"
  let tagger := "nemo.collections.nlp.data.text_normalization.tagger_dataset:"
  [(utils ++ "read_data_file", functionOf "read_data_file" [req "fp"] fun vals => do
      pure (.list ((← readSentences (plainArg vals 0).text).map sentenceData))),
   (utils ++ "remove_puncts", functionOf "remove_puncts" [req "input_str"] fun vals => do
      match plainArg vals 0 with
      | .str s => pure (.str (withoutAsciiPunctuation s))
      | other => throw (noAttribute other.kindName "translate")),
   (tagger ++ "TaggerDataInstance", functionOf "TaggerDataInstance"
      [req "w_words", req "s_words", req "direction", opt "do_basic_tokenize" (.bool false)] fun vals => do
      let arg := plainArg vals
      if (arg 3).truthy then throw (.unavailable "nltk")
      pure (tagInstanceData (tagInstance ((arg 0).items.map Data.text) ((arg 1).items.map Data.text) (arg 2).text))),
   (tagger ++ "TextNormalizationTaggerDataset", taggerDatasetCallee),
   (tagger ++ "TextNormalizationTaggerDataset.__getitem__", method "__getitem__" [req "idx"] fun vals => do
      let i ← match plainArg vals 0 with
        | .int n => pure n
        | other => throw (.type s!"list indices must be integers or slices, not {other.kindName}")
      (encodedItem (← Method.attr "encodings") (← Method.attr "labels") i)),
   (tagger ++ "TextNormalizationTaggerDataset.__len__", method "__len__" [] fun _ => do
      pure (.int (plain (← Method.attr "labels")).items.length)),
   (rawCorpusScript ++ ":read_google_data", functionOf "read_google_data" [req "data_dir", req "lang"] fun vals => do
      let splits ← readShards (plainArg vals 0).text
      pure (.list (splits.map fun s => .list (s.map sentenceData)))),
   (rawCorpusScript ++ ":process_url", functionOf "process_url" [req "tokens", req "outputs", req "lang"] fun vals => do
      let arg := plainArg vals
      if (arg 2).same (.str "en") then
        for i in List.range (arg 0).items.length do
          let o ← (arg 1).item i
          if o.text != silenceWord && (o.text.splitOn "_letter").length > 1 then
            throw (.unavailable "wordninja")
      pure (arg 1)),
   (rawCorpusScript ++ ":__main__", rawCorpusMain)]

end Conversa.Callees
