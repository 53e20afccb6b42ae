import Conversa.Service.Datasets
import Conversa.Data.Access

/-!
# Dataset preparation from files

`dp_files {func, files, file | paths | dir, ...}` reads label and intent files of the working
directory (`get_vocab`, `get_labels_to_labels_id_mapping`, `get_intent_labels`, `read_csv`,
`get_entities`, `if_exist`) or writes a joint intent and slot dataset into `out/` (`dataset`).
Mappings are answered as lists of `[key, value]` pairs.
-/

namespace Conversa.Service

open FileSystem

def strippedLines (text : String) : List String :=
  (Text.fileLines text).map fun l => Text.strip (String.ofList l)

def pairsOf (kvs : List (Data × Data)) : Data := .list (kvs.map fun (k, v) => .list [k, v])

/-- Entries set in order: a repeated key takes the new value and keeps its place. -/
def putIndex (m : List (String × Nat)) (k : String) (v : Nat) : List (String × Nat) :=
  if m.any (·.1 == k) then m.map fun (k', v') => if k' == k then (k', v) else (k', v') else m ++ [(k, v)]

/-- The examples of an intent file: the words, their slots and the intent of each utterance. -/
def intentExamples (doc : Data) : Result (List (List String × List String × String) × List String × List String) := do
  let intents ← (doc.getD "intents").entries.mapM fun (intent, body) => do
    let utts ← (body.getD "utterances").items.mapM fun u => do
      let frags ← (u.getD "data").items.mapM fun frag => do
        let words := Text.words (frag.getD "text").text
        let slot := match frag.get? "slot_name" with
          | some s => s.text
          | none => "O"
        pure (words, List.replicate words.length slot, if frag.has "slot_name" then [slot] else [])
      pure ((frags.map (·.1)).flatten, (frags.map (·.2.1)).flatten, (frags.map (·.2.2)).flatten)
    pure (utts.map fun (ws, ss, _) => (ws, ss, intent), (utts.map (·.2.2)).flatten)
  pure ((intents.map (·.1)).flatten, (intents.map (·.2)).flatten, (doc.getD "intents").entries.map (·.1))

/-- The training or test files of a joint dataset: sentences with intent numbers, and the slot
numbers of their words. -/
def intentSplitFiles (examples : List (List String × List String × String)) (slots intents : List String)
    (uncased : Bool) : Result (String × String) := do
  let rows ← examples.mapM fun (ws, ss, intent) => do
    let text := " ".intercalate ws
    let text := if uncased then Text.lower text else text
    let some i := intents.idxOf? intent | throw (.key (Text.quote intent))
    let ids ← ss.mapM fun s => match slots.idxOf? s with
      | some n => pure (toString n)
      | none => throw (.key (Text.quote s))
    pure (s!"{text}\t{i}\n", " ".intercalate ids ++ "\n")
  pure ("sentence\tlabel\n" ++ String.join (rows.map (·.1)), String.join (rows.map (·.2)))

def sortedDistinct (xs : List String) : List String :=
  (xs.foldl (fun acc x => if acc.contains x then acc else acc ++ [x]) []).mergeSort fun a b => decide (a ≤ b)

/-- `dp_files {...}`. -/
def dpFiles (req : Data) : Result Data := do
  let t ← treeField req
  let result (d : Data) : Data := .dict [("result", d)]
  let file := (req.getD "file").text
  let paths := (req.getD "paths").items.map Data.text
  match (req.getD "func").text with
  | "get_vocab" =>
    let lines := (strippedLines (← readFile t file)).filter (!·.isEmpty)
    pure (result (pairsOf (lines.zipIdx.map fun (l, i) => (.int i, .str l))))
  | "get_labels_to_labels_id_mapping" =>
    let lines := (strippedLines (← readFile t file)).filter (!·.isEmpty)
    let m := lines.zipIdx.foldl (fun m (l, i) => putIndex m l i) []
    pure (result (pairsOf (m.map fun (l, i) => (.str l, .int i))))
  | "get_intent_labels" =>
    let lines := strippedLines (← readFile t file)
    let m := lines.zipIdx.foldl (fun m (l, i) => putIndex m l i) []
    pure (result (pairsOf (m.map fun (l, i) => (.str l, .int i))))
  | "read_csv" =>
    let rows ← Text.readRecords ',' (some '"') (← readFile t file)
    pure (result (.list (rows.map Data.strs)))
  | "get_entities" =>
    let m ← paths.foldlM (fun m p => do
      let doc ← jsonFile t p
      Intents.mergeEntities m (← doc.key "entities").entries) []
    pure (result (.list [pairsOf (m.map fun (k, vs) => (.str k, Data.strs vs)),
      pairsOf ((Intents.valueEntities m).map fun (v, e) => (.str v, .str e))]))
  | "if_exist" =>
    let dir := (req.getD "dir").text
    let found := t.exists_ dir && (req.getD "names").items.all fun f => t.exists_ s!"{dir}/{f.text}"
    pure (result (.bool found))
  | "dataset" =>
    let parts ← paths.mapM fun p => do intentExamples (← jsonFile t p)
    let slots := sortedDistinct (parts.flatMap (·.2.1) |>.filter (· != "O")) ++ ["O"]
    let intents := sortedDistinct (parts.flatMap (·.2.2))
    let uncased := (req.getD "uncased").truthy
    let (train, dev) ← match parts with
      | [a, b] => pure (a.1, b.1)
      | a :: b :: _ => pure (a.1, b.1)
      | _ => throw (badField "paths")
    let (trainText, trainSlots) ← intentSplitFiles train slots intents uncased
    let (devText, devSlots) ← intentSplitFiles dev slots intents uncased
    pure (result (.dict [
      ("out/dict.intents.csv", .str (String.join (intents.map (· ++ "\n")))),
      ("out/dict.slots.csv", .str (String.join (slots.map (· ++ "\n")))),
      ("out/test.tsv", .str devText), ("out/test_slots.tsv", .str devSlots),
      ("out/train.tsv", .str trainText), ("out/train_slots.tsv", .str trainSlots)]))
  | other => throw (badField s!"func {other}")

end Conversa.Service
