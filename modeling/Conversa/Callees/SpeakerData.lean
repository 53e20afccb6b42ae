import Conversa.Callees.DataPreparation
import Conversa.Entry.CommandLine

/-!
# Speaker recognition data

`writeSelected` writes chosen manifest entries, a JSON object a line.  A trial file lists pairs
of utterances with a truth mark; each pair is scored by the cosine of its embeddings moved to
`[0, 1]` (`trialScore`), the dot product fusing each addition with its product (`dot`).
-/

namespace Conversa.Callees

open Entry

def speakerCorpusScript : String := "scripts/dataset_processing/get_hi-mia_data.py"

def speakerCorpusCommandLine : CommandLine :=
  { prog := "get_hi-mia_data.py"
    description := some "HI-MIA Data download"
    arguments := [option "--data_root" .text .null true none, option "--log_level" .int (.int 20) false none] }

/-- Writes the entries of a manifest at the given positions, one JSON object a line. -/
def writeSelected (name : String) (entries positions : Data) : Work Unit := do
  Work.writeFile name ""
  for p in positions.items do
    let i ← match plain p with
      | .int n => pure n
      | .bool b => pure (if b then 1 else 0)
      | other => throw (.type s!"list indices must be integers or slices, not {other.kindName}")
    let entry ← Data.item entries i
    Work.appendFile name (Json.dump entry ++ "\n")

/-- The dot product of two vectors, each product fused with the running sum. -/
def dot (xs ys : List Float) : Float :=
  (List.zip xs ys).foldl (fun acc (x, y) => Numeric.fusedMulAdd x y acc) 0.0

def unalignedVectors (n m : Nat) : Failure :=
  .value s!"shapes ({n},) and ({m},) not aligned: {n} (dim 0) != {m} (dim 0)"

/-- The score of a pair of embeddings: their cosine, moved from `[-1, 1]` to `[0, 1]`. -/
def trialScore (x y : List Float) : Result Float := do
  if x.length != y.length then throw (unalignedVectors x.length y.length)
  let cosine := dot x y / Float.sqrt (dot x x * dot y y)
  pure ((cosine + 1.0) / 2.0)

/-- The key of an utterance among the stored embeddings: its path with `/` written `@`. -/
def utteranceKey (path : String) : String := "@".intercalate (path.splitOn "/")

def embeddingOf (table : Data) (key : String) : Result (List Float) :=
  match table.entries.lookup key with
  | some v => .ok ((arrayOf v).1.items.map number)
  | none => .error (.key (Text.quote key))

/-- Scores the trials of a file against stored embeddings, writing each score beside its truth
mark; gives the scores and the truth marks. -/
def scoreTrials (trialFile embeddings : String) : Work Data := do
  let out := "trial_score.txt"
  Work.writeFile out ""
  let table ← loadStored embeddings
  let mut scores : List Float := []
  let mut truths : List Int := []
  for line in ← Work.readLines trialFile do
    let (truth, first, second) ← match Text.words (Text.strip line) with
      | [t, a, b] => pure (t, a, b)
      | ws => throw (.unpack 3 ws.length)
    let x ← embeddingOf table (utteranceKey first)
    let y ← embeddingOf table (utteranceKey second)
    let score ← trialScore x y
    scores := scores ++ [score]
    Work.appendFile out (Numeric.floatText score ++ "\t" ++ truth)
    truths := truths ++ [← Service.intLiteral truth]
    Work.appendFile out "\n"
  let truthArray := if truths.isEmpty then arrayData "float64" (.list []) else Data.ints truths
  pure (.list [arrayData "float64" (.list (scores.map Data.float)), truthArray])

def trialScript : String := "examples/speaker_recognition/voxceleb_eval.py"

def speakerDataCallees : List (String × Callee) :=
  [(speakerCorpusScript ++ ":write_file", functionOf "write_file" [req "name", req "lines", req "idx"] fun vals => do
      writeSelected (arg vals 0).text (plainArg vals 1) (plainArg vals 2)
      pure .null),
   (trialScript ++ ":get_acc", functionOf "get_acc"
      [opt "trial_file" (.str ""), opt "emb" (.str ""), opt "save_kaldi_emb" (.bool false)] fun vals =>
      scoreTrials (arg vals 0).text (arg vals 1).text)]

def speakerDataLoaders : List (String × (Request → Work Unit)) :=
  [(speakerCorpusScript, fun r => do let _ ← speakerCorpusCommandLine.run r.argv)]

end Conversa.Callees
