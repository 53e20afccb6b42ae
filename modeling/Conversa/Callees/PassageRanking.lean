import Conversa.Callees.PretrainingCorpus

/-!
# Passage-ranking datasets

A passage-ranking dataset pairs queries with passages by id, read from caches beside their files
or from `id TAB text` lines.  Each line of the pairs file is a query, its relevant passage and
irrelevant ones, shuffled and grouped by `num_negatives`.  An input (`rankingInput`) is the class
token, the first ids, a separator, the second ids and another, cut and padded.
-/

namespace Conversa.Callees

open Entry Conversa.Language

/-- Model input: token ids, the mask of those that are not padding, and the type of each. -/
structure RankingInput where
  ids : List Int
  mask : List Bool
  types : List Int

/-- The input from first and possibly second ids, cut and padded to a length. -/
def rankingInput (tok : Tokenizer) (first : List Int) (len : Nat) (second : Option (List Int)) :
    Result RankingInput := do
  let pad : Int := ← tok.roleId .pad
  let cls : Int := ← tok.roleId .cls
  let sep : Int := ← tok.roleId .sep
  let head := [cls] ++ first ++ [sep]
  let whole := (match second with
    | some s => head ++ s ++ [sep]
    | none => head).take len
  let ids := whole ++ List.replicate (len - whole.length) pad
  pure ⟨ids, ids.map (· != pad), (List.range len).map fun i => if i < head.length then 0 else 1⟩

def stackedInputs (rows : List RankingInput) : List Data :=
  [.list (rows.map fun r => Data.ints r.ids), .list (rows.map fun r => .list (r.mask.map .bool)),
   .list (rows.map fun r => Data.ints r.types)]

/-- The inputs of a query and its passages: joint rows of at most `maxQ + maxP + 3` ids, or the
query in `maxQ + 2` ids beside rows of `maxP + 2`. -/
def rankingInputs (tok : Tokenizer) (joint : Bool) (maxQ maxP : Nat) (query : List Int)
    (passages : List (List Int)) : Result (List Data) := do
  if joint then
    pure (stackedInputs (← passages.mapM fun p => rankingInput tok query (maxQ + maxP + 3) (some p)))
  else
    let q ← rankingInput tok query (maxQ + 2) none
    let rows ← passages.mapM fun p => rankingInput tok p (maxP + 2) none
    pure ((stackedInputs [q]) ++ stackedInputs rows)

def arrayRows (d : Data) : List Data × String :=
  match d.get? "ndarray", d.get? "dtype" with
  | some v, some (.str t) => (v.items, t)
  | _, _ => let (v, t) := arrayOf d; (v.items, t)

/-- The token ids of a passage: from a row of an array, its length first, or by id from a
mapping. -/
def passageTokens (passages : Data) (rows : Bool) (id : Int) : Result (List Int) := do
  if rows then
    let (table, dtype) := arrayRows passages
    let i := if id < 0 then id + table.length else id
    let some row := table[i.toNat]? |>.filter fun _ => 0 ≤ i
      | throw (.index s!"index {id} is out of bounds for axis 0 with size {table.length}")
    if !isIntegral dtype then
      throw (.type "slice indices must be integers or None or have an __index__ method")
    let count := (row.items.headD .null).int?.getD 0
    pure ((Text.span row.items 1 (count + 1)).map fun d => d.int?.getD 0)
  else
    match passages.get? (keyText (.int id)) with
    | some v => pure (v.items.map fun d => d.int?.getD 0)
    | none => throw (.key (toString id))

/-- The ids and token ids of the lines of a file, each an id and a text separated by a tab, the
token ids cut to a length; a later id replaces an earlier one. -/
def tokenizedLines (tok : Result Tokenizer) (file : String) (len : Nat) :
    Work (List (Int × List Int)) := do
  let lines ← Work.readLines file
  let tok ← tok
  lines.foldlM (fun acc line => do
    let [id, text] := line.splitOn "\t"
      | throw (if line.contains '\t' then .unpack 2 (line.splitOn "\t").length
          else .value "Provided dataset does not have a form of tsv file")
    let n ← Service.intLiteral id
    let ids := ((← tok.textToIds (Text.strip text)).map Int.ofNat).take len
    pure (if acc.any (·.1 == n) then acc.map fun (k, v) => if k == n then (k, ids) else (k, v)
      else acc ++ [(n, ids)])) []

/-- The passages of a file as an array, from its archive when there is one: each row a passage's
length and its ids, padded with zeros. -/
def passageArray (tok : Result Tokenizer) (file : String) (len : Nat) : Work Data := do
  let cache := file ++ ".npz"
  if ← Work.isFile cache then
    let some member := Pickle.zipMember (← Work.readBytes cache).toArray "data.npy"
      | throw (.key "'data is not a file in the archive'")
    let (code, shape, elems) ← Pickle.npyArray member
    return arrayData (Pickle.typeName code) (Pickle.shaped shape elems)
  let lines ← tokenizedLines tok file len
  let rows ← lines.foldlM (fun (rows : List (List Float)) (k, ids) => do
    let i := if k < 0 then k + rows.length else k
    if i < 0 ∨ i ≥ rows.length then
      throw (.index s!"index {k} is out of bounds for axis 0 with size {rows.length}")
    let row := (ids.length :: ids.map Int.toNat).map Nat.toFloat
    pure (rows.set i.toNat (row ++ List.replicate (len + 1 - row.length) 0.0)))
    (List.replicate lines.length (List.replicate (len + 1) 0.0))
  pure (arrayData "float64" (.list (rows.map Data.floats)))

/-- The token ids of a file by id, from its pickle when there is one, else tokenized and pickled. -/
def idTable (tok : Result Tokenizer) (file : String) (len : Nat) : Work Data := do
  let cache := file ++ ".pkl"
  if ← Work.isFile cache then return ← loadStored cache
  let lines ← tokenizedLines tok file len
  Work.writeStored cache (.dict [("bytes", .str (Text.hexText (pickleIdLists lines)))])
  pure (.dict (lines.map fun (k, v) => (toString k, Data.ints v)))

/-- The examples of a file of pairs: the query, the relevant passage and a group of
`negatives` irrelevant ones shuffled by the shared generator. -/
def queryExamples (file : String) (negatives : Int) : Work (List (List Int)) := do
  (← Work.readLines file).foldlM (fun acc line => do
    if !line.contains '\t' then throw (.value "Provided dataset does not have a form of tsv file")
    let ids ← Work.lift ((line.splitOn "\t").mapM Service.intLiteral)
    let others ← Work.draw (Numeric.Generator.shuffle (ids.drop 2))
    if negatives == 0 then throw ⟨"ZeroDivisionError", "integer division or modulo by zero"⟩
    let count := others.length / negatives
    pure (acc ++ (List.range count.toNat).map fun (j : Nat) =>
      ids.take 2 ++ Text.span others (negatives * j) (negatives * (j + 1 : Nat)))) []

def rankingModule : String := "nemo.collections.nlp.data.information_retrieval.information_retrieval_dataset"

def idList (d : Data) : List Int := (plain d).items.map fun x => x.int?.getD 0

def rankingSettings : Method (Tokenizer × Nat × Nat) := do
  let tok ← tokenizerArg (← Method.attr "tokenizer") "pad_id"
  pure (tok, ((← Method.attr "max_query_length").int?.getD 0).toNat,
    ((← Method.attr "max_passage_length").int?.getD 0).toNat)

/-- The inputs of an example of the dataset a method acts on, its passages read from `rows` or a
mapping. -/
def exampleInputs (joint rows : Bool) (queryId : Int) (psgs : List Int) : Method (List Data) := do
  let (tok, maxQ, maxP) ← rankingSettings
  let queries ← Method.attr "queries"
  let some query := queries.get? (keyText (.int queryId)) | throw (.key (toString queryId))
  let passages ← Method.attr "passages"
  let texts ← Method.lift (psgs.mapM (passageTokens passages rows))
  rankingInputs tok joint maxQ maxP (idList query) texts

def rankingDatasetCallee : Callee := fun r => do
  let cls := "BertInformationRetrievalDataset"
  let v ← (Arguments.bind r.args.intake cls
    [req "tokenizer", req "passages", req "queries", req "query_to_passages", opt "max_query_length" (.int 31),
     opt "max_passage_length" (.int 190), opt "num_negatives" (.int 10), opt "preprocess_fn" (.str "preprocess_bert"),
     opt "psg_cache_format" (.str "npz")])
  let arg (i : Nat) : Data := plain (v.getD i .null)
  let tok := tokenizerArg (arg 0) "pad_id"
  let (maxQ, maxP) := (((arg 4).int?.getD 0).toNat, ((arg 5).int?.getD 0).toNat)
  let format := (arg 8).text
  let rows := format == "npz"
  if !rows && format != "pkl" then throw (noAttribute cls s!"parse_{format}")
  let passages ← if rows then passageArray tok (arg 1).text maxP else idTable tok (arg 1).text maxP
  let queries ← idTable tok (arg 2).text maxQ
  let examples ← queryExamples (arg 3).text ((arg 6).int?.getD 0)
  let joint := (arg 7).text == "preprocess_bert"
  if !joint && (arg 7).text != "preprocess_dpr" then throw (noAttribute cls (arg 7).text)
  let value := objectData cls
    [("tokenizer", v.getD 0 .null), ("max_query_length", arg 4), ("max_passage_length", arg 5),
     ("num_negatives", arg 6), ("passages", passages), ("queries", queries),
     ("idx2psgs", .dict (examples.zipIdx.map fun (e, i) => (toString i, Data.ints e)))]
  pure { value, act := fun step => do
    let self ← Work.this
    match step with
    | .read path => readPath self path
    | .call "__len__" _ => pure (.int examples.length)
    | .call "__getitem__" args => do
      let w ← args.bind s!"{cls}.__getitem__" [req "idx"]
      let idx := plain (w.getD 0 .null)
      let some found := (← attr self "idx2psgs").get? (keyText idx) | throw (.key idx.show)
      let ids := idList found
      let inputs ← (exampleInputs joint rows (ids.headD 0) ids.tail).run { this := self }
      pure (.list (inputs.1 ++ [.int (ids.headD 0), Data.ints ids.tail]))
    | .call name _ => throw (noAttribute cls name) }

def passageRankingCallees : List (String × Callee) :=
  let base := rankingModule ++ ":BaseInformationRetrievalDataset."
  [(rankingModule ++ ":BertInformationRetrievalDataset", rankingDatasetCallee),
   (base ++ "construct_input", method "construct_input" [req "token_ids1", req "max_seq_length", opt "token_ids2" .null]
      fun v => do
        let (tok, _, _) ← rankingSettings
        let second := if (arg v 2).isNull then none else some (idList (arg v 2))
        let len := ((plain (arg v 1)).int?.getD 0).toNat
        let r ← rankingInput tok (idList (arg v 0)) len second
        pure (.list [Data.ints r.ids, .list (r.mask.map .bool), Data.ints r.types])),
   (base ++ "preprocess_bert", method "preprocess_bert" [req "query_id", req "psg_ids"] fun v => do
      pure (.list (← exampleInputs true true ((arg v 0).int?.getD 0) (idList (arg v 1))))),
   (base ++ "preprocess_dpr", method "preprocess_dpr" [req "query_id", req "psg_ids"] fun v => do
      pure (.list (← exampleInputs false true ((arg v 0).int?.getD 0) (idList (arg v 1))))),
   (base ++ "_psgid2tokens", method "_psgid2tokens" [req "psg_id"] fun _ => pure .null),
   (base ++ "psgid2tokens_npz", method "psgid2tokens_npz" [req "psg_id"] fun v => do
      let ids ← passageTokens (← Method.attr "passages") true ((arg v 0).int?.getD 0)
      pure (Data.ints ids)),
   (base ++ "psgid2tokens_pkl", method "psgid2tokens_pkl" [req "psg_id"] fun v => do
      let key := plain (arg v 0)
      match (← Method.attr "passages").get? (keyText key) with
      | some ids => pure ids
      | none => throw (.key key.show)),
   (base ++ "parse_npz", method "parse_npz" [req "file", req "max_seq_length"] fun v => do
      let tok := tokenizerArg (← Method.attr "tokenizer") "pad_id"
      Method.work (passageArray tok (plain (arg v 0)).text ((plain (arg v 1)).int?.getD 0).toNat)),
   (base ++ "parse_pkl", method "parse_pkl" [req "file", req "max_seq_length"] fun v => do
      let tok := tokenizerArg (← Method.attr "tokenizer") "pad_id"
      Method.work (idTable tok (plain (arg v 0)).text ((plain (arg v 1)).int?.getD 0).toNat))]

end Conversa.Callees
