import Conversa.Service.Datasets
import Conversa.Batching.Pairs
import Conversa.Batching.Sentences

/-!
# Batching requests

The requests that pack tokenized corpora into batches and read language-model training data:

* `mt_batches` packs a corpus of sentence pairs, after cleaning it when `clean` gives limits;
* `lm_batches` packs a corpus of sentences the same way;
* `l2r` reads a text as one run of tokens and cuts it into windows;
* `ir_line` reads the number and the tokens of a line of a retrieval collection.
-/

namespace Conversa.Service

open Batching

/-- A limit given in a request: absent when null. -/
def limitOf (d : Data) : Option Float :=
  match d with
  | .int n => some (Float.ofInt n)
  | .float x => some x
  | .bool b => some (if b then 1.0 else 0.0)
  | _ => none

def corpusField (req : Data) (name : String) : Result (List (List Data)) :=
  match req.getD name with
  | .list xs => xs.mapM fun x => match x with
    | .list ys => .ok ys
    | _ => .error (badField name)
  | _ => .error (badField name)

def corpusData (xs : List (List Data)) : Data := .list (xs.map .list)

def batchesData (bs : List (List Nat)) : Data := .list (bs.map Data.nats)

/-- `mt_batches {src_ids, tgt_ids, tokens_in_batch, clean?}`. -/
def mtBatches (req : Data) : Result Data := do
  let src ← corpusField req "src_ids"
  let tgt ← corpusField req "tgt_ids"
  let budget ← intField req "tokens_in_batch" 0
  let (src, tgt, cleaned) ← match req.getD "clean" with
    | .null => pure (src, tgt, none)
    | c => do
      let limits : PairLimits := ⟨limitOf (c.getD "max_tokens"), limitOf (c.getD "min_tokens"),
        limitOf (c.getD "max_tokens_diff"), limitOf (c.getD "max_tokens_ratio"),
        (c.getD "filter_equal_src_and_dest").truthy⟩
      let (s, t) ← @cleanPairs Data ⟨Data.same⟩ limits src tgt
      pure (s, t, some (Data.list [corpusData s, corpusData t]))
  if tgt.length < src.length then throw .listIndex
  let lens := (src.zip tgt).map fun (a, b) => (a.length, b.length)
  let batches := batchesData (packPairs budget lens)
  match cleaned with
  | some c => pure (.dict [("clean", c), ("batches", batches)])
  | none => pure (.dict [("batches", batches)])

/-- `lm_batches {ids, tokens_in_batch, clean?}`. -/
def lmBatches (req : Data) : Result Data := do
  let ids ← corpusField req "ids"
  let budget ← intField req "tokens_in_batch" 0
  let (ids, cleaned) := match req.getD "clean" with
    | .null => (ids, none)
    | c =>
      let ids := cleanSentences ⟨limitOf (c.getD "max_tokens"), limitOf (c.getD "min_tokens")⟩ ids
      (ids, some (corpusData ids))
  let (batches, lengths) ← packSentences budget (ids.map List.length)
  let fields := [("batches", batchesData batches), ("lengths", Data.nats lengths)]
  match cleaned with
  | some c => pure (.dict (("clean", c) :: fields))
  | none => pure (.dict fields)

def windowData (t : Language.Tokenizer) (c : WindowCorpus) (i : Int) : Result Data := do
  let (src, labels) := c.window i
  let pad ← t.roleId .pad
  let mask := src.map fun n => Data.float (if n == pad then 0.0 else 1.0)
  pure (.list [Data.nats src, .list mask, Data.nats labels])

/-- `l2r {text, max_seq_length?, batch_step?, items?}`. -/
def l2r (req : Data) : Result Data := do
  let tok ← tokenizerField req "tokenizer"
  let width ← intField req "max_seq_length" 512
  let step ← intField req "batch_step" 0
  let step := if step == 0 then width else step
  let ids := (← datasetIds tok (textOr req "text" "") false).flatten
  let corpus : WindowCorpus := ⟨ids, width, step⟩
  let size ← corpus.size
  let items ← match req.getD "items" with
    | .null => pure ((List.range (min size 8).toNat).map Int.ofNat)
    | .list xs => xs.mapM fun x => match x.int? with
      | some n => .ok n
      | none => .error (badField "items")
    | _ => throw (badField "items")
  pure (.dict [("ids", Data.nats ids), ("len", .int size),
    ("items", .list (items.map fun i => resultEntry (windowData tok corpus i)))])

/-- The number and the token numbers of one line of a retrieval collection: a number and a text
separated by one tab. -/
def retrievalLine (t : Language.Tokenizer) (line : String) : Result Data := do
  if !(line.contains '\t') then throw (.value "Provided dataset does not have a form of tsv file")
  match line.splitOn "\t" with
  | [num, text] =>
    let ids ← t.textToIds (Text.strip text)
    pure (.list [.int (← intLiteral num), Data.nats ids])
  | _ => throw (.value "too many values to unpack (expected 2)")

/-- `ir_line {lines}`. -/
def irLine (req : Data) : Result Data := do
  let tok ← tokenizerField req "tokenizer"
  let lines ← textsOf "lines" (req.getD "lines")
  pure (.dict [("results", .list (lines.map fun l => resultEntry (retrievalLine tok l)))])

end Conversa.Service
