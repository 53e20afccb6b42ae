import Conversa.Callees.DataPreparation
import Conversa.Callees.TranslationPairs

/-!
# Sentence offsets of a pretraining corpus

A corpus too large to hold is read through the offsets at which its sentences start
(`Text.contentLineStarts`), stored beside the data as a table per file (`offsetTable`); files with
at most one sentence are left out.  `maskedIds` groups each id continuing a word with the word
before it and masks whole words by draws of the shared generator (mask token below 0.8, a random
token below 0.9, else unchanged).
-/

namespace Conversa.Callees

open Entry Service

def unsignedArray (ns : List Nat) : Data :=
  .dict [("repr", .str (if ns.isEmpty then "array('I')"
    else "array('I', [" ++ ", ".intercalate (ns.map toString) ++ "])"))]

/-- The number of offsets in a stored entry: the items of a sequence, or the numbers an array's
representation lists. -/
def offsetCount (d : Data) : Nat :=
  match d with
  | .dict [("repr", .str s)] =>
    match s.splitOn "[" with
    | [_, rest] => ((rest.splitOn ",").filter fun p => !(Text.strip (p.replace "]" "")).isEmpty).length
    | _ => 0
  | other => other.items.length

/-- The stored offsets of a corpus file, made anew when no table is stored yet: its name is the
file's own name when its directory exists, and the path as given otherwise. -/
def offsetTable (dataFile indexPath dir : String) : Work Data := do
  if ← Work.isFile indexPath then return ← loadStored indexPath
  let starts := Text.contentLineStarts (← Work.readBytes dataFile)
  let key := if ← Work.isDir dir then FileSystem.name dataFile else dataFile
  let table := Data.dict [(key, unsignedArray starts)]
  if !(← Work.parentExists indexPath) then throw (Work.noSuchFile indexPath)
  Work.writeStored indexPath table
  pure table

def pretrainingCorpusCallee : Callee := fun r => do
  let vals ← (r.args.bind "BertPretrainingDataset"
    [req "tokenizer", req "data_file", opt "max_seq_length" (.int 128), opt "mask_prob" (.float 0.15),
     opt "short_seq_prob" (.float 0.1), opt "seq_a_ratio" (.float 0.6), opt "sentence_idx_file" .null])
  let arg := plainArg vals
  let dataFile ← match arg 1 with
    | .str s => pure s
    | other => throw (noAttribute other.kindName "rfind")
  let (indexPath, dir) := indexFile dataFile "sentence_indices"
  let table ← offsetTable dataFile indexPath dir
  let kept := table.entries.filter fun (_, v) => offsetCount v > 1
  let size := kept.foldl (fun n (_, v) => n + offsetCount v) 0
  let tok ← tokenizerArg (vals.getD 0 .null) "vocab_size"
  let value := objectData "BertPretrainingDataset"
    [("tokenizer", tokenizerObject tok), ("corpus_size", .int size), ("dataset", .str dir),
     ("filenames", Data.strs (kept.map (·.1))), ("mask_probability", arg 3), ("max_seq_length", arg 2),
     ("sentence_indices", .dict kept), ("vocab_size", .int tok.size), ("short_seq_prob", arg 4),
     ("seq_a_ratio", arg 5)]
  pure { value, act := fun step => do
    let self ← Work.this
    match step with
    | .read path => readPath self path
    | .call "__len__" args => do
      let _ ← args.bind "BertPretrainingDataset.__len__" []
      pure (.int size)
    | .call name _ => Work.fail (noAttribute "BertPretrainingDataset" name) }

/-- A token drawn from the first `vocab` of the vocabulary, other than two special ones. -/
def drawnToken (vocab : Nat) (cls sep : Int) : Nat → Work Int
  | 0 => pure 0
  | fuel + 1 => do
    let t : Int := ← Work.draw (Numeric.Generator.below vocab)
    if t == cls || t == sep then drawnToken vocab cls sep fuel else pure t

/-- A chunk of ids masked for pretraining, and which of them were masked. -/
def maskedIds (tok : Language.Tokenizer) (prob : Float) (vocab : Int) (ids : List Int) :
    Work (List Int × List Nat) := do
  let first :: rest := ids | throw .listIndex
  let words ← rest.foldlM (fun (ws : List (List Int)) tid => do
    let token := (← tok.idsToTokens [tid]).headD ""
    pure (if token.startsWith "▁" then ws.dropLast ++ [(ws.getLast?.getD []) ++ [tid]] else ws ++ [[tid]]))
    [[first]]
  let maskId : Int := ← tok.tokenToId "[MASK]"
  let cls : Int := ← tok.roleId .cls
  let sep : Int := ← tok.roleId .sep
  words.foldlM (fun (out, marks) w => do
    let kept ← if w.head? == some cls || w.head? == some sep then pure true
      else do pure ((← Work.draw Numeric.Generator.random) > prob)
    if kept then return (out ++ w, marks ++ w.map fun _ => 0)
    let p ← Work.draw Numeric.Generator.random
    let w' ← if p < 0.8 then pure (w.map fun _ => maskId)
      else if p < 0.9 then w.mapM fun _ => do
        if vocab ≤ 0 then throw (.value "empty range for randrange()")
        drawnToken vocab.toNat cls sep 64
      else pure w
    pure (out ++ w', marks ++ w.map fun _ => 1)) ([], [])

def pretrainingCorpusCallees : List (String × Callee) :=
  let target := "nemo.collections.nlp.data.language_modeling.lm_bert_dataset:BertPretrainingDataset"
  [(target, pretrainingCorpusCallee),
   (target ++ ".mask_ids", method "mask_ids" [req "ids"] fun v => do
      let tok ← tokenizerArg (← Method.attr "tokenizer") "ids_to_tokens"
      let prob := number (← Method.attr "mask_probability")
      let vocab := (← Method.attr "vocab_size").int?.getD 0
      let ids := (arg v 0).items.map fun d => d.int?.getD 0
      let (out, marks) ← (maskedIds tok prob vocab ids)
      pure (.list [Data.ints out, Data.nats marks]))]

end Conversa.Callees
