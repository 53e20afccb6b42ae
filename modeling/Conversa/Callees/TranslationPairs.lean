import Conversa.Callees.Comprehension
import Conversa.Entry.Arrays

/-!
# Sentence pairs for translation as id rows

A file of `sentence TAB translation` lines under a header becomes tables of token numbers:
sentence ids, masks and translation ids.  `framedRow` cuts a row to leave room for framing
tokens, frames it when asked and pads it to the limit (two or less meaning none);
`IdTable.ofRows` stacks rows of one length; `shiftedLabels` gives the decoder's input and the
numbers to predict, padding marked `-100`.
-/

namespace Conversa.Callees

open Entry Conversa.Language Service

/-- The numbers of a sentence as a row of a given limit: cut to leave room for the framing
tokens, framed between `bos` and `eos` when `framed`, padded with `pad` to the limit; with the
mask of the real numbers. -/
def framedRow (limit : Option Nat) (framed : Bool) (bos eos pad : Nat) (ids : List Nat) :
    List Nat × List Nat :=
  let special := if framed then 2 else 0
  let cut := match limit with
    | some m => ids.take (m - special)
    | none => ids
  let row := if framed then bos :: cut ++ [eos] else cut
  let mask := row.map fun _ => 1
  match limit with
  | some m => (row ++ List.replicate (m - row.length) pad, mask ++ List.replicate (m - row.length) 0)
  | none => (row, mask)

/-- A table of numbers: its element type and its rows. -/
structure IdTable where
  dtype : String
  rows : List (List Int)
deriving Inhabited

def unevenRows (count : Nat) : Failure :=
  .value ("setting an array element with a sequence. The requested array has an inhomogeneous shape after 1 " ++
    s!"dimensions. The detected shape was ({count},) + inhomogeneous part.")

/-- Rows stacked into a table: whole numbers when the rows hold any, doubles otherwise. -/
def IdTable.ofRows (rows : List (List Nat)) : Result IdTable :=
  match rows with
  | [] => .ok ⟨"float64", []⟩
  | r :: rest =>
    if rest.all (·.length == r.length) then
      .ok ⟨if r.isEmpty then "float64" else "int64", rows.map fun row => row.map Int.ofNat⟩
    else .error (unevenRows rows.length)

def rowData (dtype : String) (row : List Int) : Data :=
  if isIntegral dtype then Data.ints row
  else arrayData dtype (.list (row.map fun n => .float (Float.ofInt n)))

def IdTable.toData (t : IdTable) : Data :=
  if isIntegral t.dtype then .list (t.rows.map Data.ints)
  else arrayData t.dtype (.list (t.rows.map fun (r : List Int) => .list (r.map fun n => .float (Float.ofInt n))))

/-- The row at a position of a table, counted from the end when negative. -/
def IdTable.row (t : IdTable) (i : Int) : Result (List Int) :=
  let n := t.rows.length
  let pos := if i < 0 then i + n else i
  if pos < 0 || pos ≥ n then .error (.index s!"index {i} is out of bounds for axis 0 with size {n}")
  else .ok (t.rows.getD pos.toNat [])

/-- The decoder's input and the numbers to predict of a translation: all but the last number,
and all but the first with padding marked `-100`. -/
def shiftedLabels (pad : Int) (labels : List Int) : List Int × List Int :=
  (labels.dropLast, labels.tail.map fun n => if n == pad then -100 else n)

/-- The tables of a file of sentence pairs. -/
structure PairTables where
  inputs : IdTable
  masks : IdTable
  labels : IdTable

/-- The row of a text by a tokenizer, and its mask. -/
def textRow (limit : Option Nat) (tok : Tokenizer) (framed : Bool) (text : String) :
    Result (List Nat × List Nat) := do
  let ids ← tok.textToIds (Text.strip text)
  let bos ← if framed then tok.roleId .bos else pure 0
  let eos ← if framed then tok.roleId .eos else pure 0
  let pad ← if limit.isSome then tok.roleId .pad else pure 0
  pure (framedRow limit framed bos eos pad ids)

def pairTables (limit : Option Nat) (source target : Tokenizer) (sourceFramed targetFramed : Bool)
    (lines : List String) : Result PairTables := do
  let rows ← lines.mapM fun line => do
    let (sentence, label) ← match line.splitOn "\t" with
      | [s, l] => pure (s, l)
      | _ => throw (.value "Each line of input file should contain the format [sentence][tab][label].")
    let (ids, mask) ← textRow limit source sourceFramed sentence
    let (labelIds, _) ← textRow limit target targetFramed label
    pure (ids, mask, labelIds)
  pure { inputs := ← IdTable.ofRows (rows.map (·.1)), masks := ← IdTable.ofRows (rows.map (·.2.1)),
         labels := ← IdTable.ofRows (rows.map (·.2.2)) }

def numbersArg (d : Data) : List Int :=
  (plain d).items.map fun x => match x with
    | .int n => n
    | .bool b => if b then 1 else 0
    | _ => 0

/-- The decoder views of an argument: an array is shifted; a plain sequence keeps its numbers and
has its first number to predict marked, since comparing a sequence with a number is false and a
false position is the first. -/
def convertedLabels (pad : Int) (d : Data) : Result Data :=
  match arrayArg? d with
  | some _ =>
    let (dec, lm) := shiftedLabels pad (numbersArg d)
    .ok (.list [Data.ints dec, Data.ints lm])
  | none =>
    match plain d with
    | .list xs =>
      match xs.tail with
      | [] => .error (.index "list assignment index out of range")
      | _ :: more => .ok (.list [.list xs.dropLast, .list (.int (-100) :: more)])
    | other => .error (.type s!"{Text.quote other.kindName} object is not subscriptable")

/-- The tokenizer an argument describes, or the failure of using another value as one. -/
def tokenizerArg (d : Data) (method : String) : Result Tokenizer :=
  match tagged? d "$tok" with
  | some spec => tokenizerField spec "kind"
  | none => .error (noAttribute (plain d).kindName method)

def pairDatasetAct (limit : Option Nat) (decoder : Tokenizer) (convert : Bool) (t : PairTables)
    (step : Step) : Work Data := do
  let self ← Work.this
  match step with
  | .read path => readPath self path
  | .call "__len__" args => do
    let _ ← args.bind "NeuralMachineTranslationDataset.__len__" []
    pure (.int t.inputs.rows.length)
  | .call "__getitem__" args => do
    let vals ← args.bind "NeuralMachineTranslationDataset.__getitem__" [req "idx"]
    let i ← match plainArg vals 0 with
      | .int n => pure n
      | .bool b => pure (if b then 1 else 0)
      | _ => throw (.index ("only integers, slices (\x60:\x60), ellipsis (\x60...\x60), numpy.newaxis (\x60None\x60) " ++
          "and integer or boolean arrays are valid indices"))
    let ids ← t.inputs.row i
    let mask ← t.masks.row i
    let labels ← t.labels.row i
    let (dec, lm) ← if convert then do
        let pad ← decoder.roleId .pad
        pure (shiftedLabels pad labels)
      else pure (labels, labels)
    pure (.list [rowData t.inputs.dtype ids, rowData t.masks.dtype mask, rowData t.labels.dtype dec,
      rowData t.labels.dtype lm])
  | .call "convert_label_ids" args => do
    let vals ← args.bind "NeuralMachineTranslationDataset.convert_label_ids" [req "label_ids"]
    let pad ← decoder.roleId .pad
    convertedLabels pad (arg vals 0)
  | .call "text_to_ids" args => do
    let vals ← (args.bind "NeuralMachineTranslationDataset.text_to_ids"
      [req "text", req "tokenizer", opt "add_special_tokens" (.bool false)])
    let tok ← tokenizerArg (arg vals 1) "text_to_ids"
    let (row, mask) ← textRow limit tok (plainArg vals 2).truthy (plainArg vals 0).text
    pure (.list [Data.nats row, Data.nats mask])
  | .call name _ => Work.fail (noAttribute "NeuralMachineTranslationDataset" name)

def pairDatasetCallee : Callee := fun r => do
  let vals ← (r.args.bind "NeuralMachineTranslationDataset"
    [req "filepath", req "encoder_tokenizer", req "decoder_tokenizer", req "encoder_add_special_tokens",
     req "decoder_add_special_tokens", req "max_seq_length", opt "num_samples" (.int (-1)),
     opt "convert_labels" (.bool false)])
  let arg := plainArg vals
  let samples := arg 6
  if samples.same (.int 0) then
    throw (.value s!"('num_samples has to be positive.', {samples.show})")
  let maxLength := arg 5
  let tooShort ← if maxLength.truthy then do
      pure ((← Data.lessThan maxLength (.int 2)) || maxLength.same (.int 2))
    else pure false
  let maxLength := if tooShort then Data.null else maxLength
  let limit : Option Nat := match maxLength with
    | .int n => if n > 0 then some n.toNat else none
    | _ => none
  let path := (arg 0).text
  if !(← Work.pathExists path) then
    throw ⟨"FileNotFoundError",
      s!"{path} not found. The filepath must be set in train_ds.filepath and validation_ds.filepath."⟩
  let lines := (← Work.readLines path).drop 1
  let lines ← if ← (Data.greaterThan samples (.int 0)) then pure (lines.take (samples.int?.getD 0).toNat)
    else pure lines
  let source ← tokenizerArg (vals.getD 1 .null) "text_to_ids"
  let target ← tokenizerArg (vals.getD 2 .null) "text_to_ids"
  let tables ← pairTables limit source target (arg 3).truthy (arg 4).truthy lines
  let value := objectData "NeuralMachineTranslationDataset"
    [("filepath", arg 0), ("encoder_tokenizer", tokenizerObject source), ("decoder_tokenizer", tokenizerObject target),
     ("encoder_add_special_tokens", arg 3), ("decoder_add_special_tokens", arg 4), ("max_seq_length", maxLength),
     ("num_samples", samples), ("convert_labels", arg 7), ("input_ids", tables.inputs.toData),
     ("input_masks", tables.masks.toData), ("label_ids", tables.labels.toData)]
  pure { value, act := pairDatasetAct limit target (arg 7).truthy tables }

def translationPairCallees : List (String × Callee) :=
  [("nemo.collections.nlp.data.neural_machine_translation.neural_machine_translation_dataset:NeuralMachineTranslationDataset",
    pairDatasetCallee)]

end Conversa.Callees
