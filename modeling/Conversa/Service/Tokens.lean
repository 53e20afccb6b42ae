import Conversa.Service.Fault
import Conversa.Language.Tokenizer
import Conversa.Language.EnglishTokens
import Conversa.Numeric.Summation

/-!
# Tokenizer requests

A request names a tokenizer by its kind (`char` or `word`), the lines of its vocabulary file and
its special tokens by role.  Calls on it name a method with an argument, or a property without
one.  The byte-level tokenizer takes calls the same way.  `fairseq_tokenize` splits a line of
English into tokens, and `softmax` turns scores into probabilities.
-/

namespace Conversa.Service

open Conversa.Language

/-- The kind of tokenizer a field names; `char` when absent. -/
def splittingField (req : Data) (name : String) : Result Splitting :=
  match req.getD name with
  | .null | .str "char" => .ok .characters
  | .str "word" => .ok .words
  | _ => .error (badField name)

/-- The tokenizer a request describes, its kind in field `kindName`. -/
def tokenizerField (req : Data) (kindName : String) : Result Tokenizer := do
  let splitting ← splittingField req kindName
  let lines ← match req.getD "vocab" with
    | .list xs => xs.mapM fun x => match x with
      | .str s => .ok s
      | _ => .error (badField "vocab")
    | .null => pure []
    | _ => throw (badField "vocab")
  let specials := (req.getD "specials").entries.filterMap fun (k, v) =>
    match Role.ofAttribute? k, v with
    | some r, .str s => some (r, s)
    | _, _ => none
  pure (Tokenizer.make splitting ("\n".intercalate lines ++ "\n") specials)

/-- A number given as data, compared as a key. -/
def idKey? : Data → Option Int
  | .int n => some n
  | .bool b => some (if b then 1 else 0)
  | _ => none

/-- The numbers of an argument; one that is no number is a missing key. -/
def idsArg (d : Data) : Result (List Int) :=
  d.items.mapM fun x => match idKey? x with
    | some n => .ok n
    | none => .error (.key x.show)

/-- The tokens of an argument: the elements of a list, or the characters of a text. -/
def tokensArg (d : Data) : Result (List String) :=
  match d with
  | .str s => .ok (s.toList.map String.singleton)
  | _ => d.items.mapM fun x => match x with
    | .str s => .ok s
    | other => .error (.key other.show)

def textArg (d : Data) : Result String :=
  match d with
  | .str s => .ok s
  | _ => .error (.type "expected a text")

def tokenizerCall (t : Tokenizer) (call : Data) : Result Data := do
  let m := (call.getD "m").text
  let arg := call.getD "arg"
  if call.has "arg" then
    match m with
    | "text_to_tokens" => pure (Data.strs (← t.textToTokens (← textArg arg)))
    | "text_to_ids" => pure (Data.nats (← t.textToIds (← textArg arg)))
    | "ids_to_text" => pure (.str (← t.idsToText (← idsArg arg)))
    | "tokens_to_text" => pure (.str (← t.tokensToText (← tokensArg arg)))
    | "tokens_to_ids" => pure (Data.nats (← t.tokensToIds (← tokensArg arg)))
    | "ids_to_tokens" => pure (Data.strs (← t.idsToTokens (← idsArg arg)))
    | "token_to_id" => match arg with
      | .str s => pure (Data.int (← t.tokenToId s))
      | other => throw (.key other.show)
    | other => throw (t.missing other)
  else
    match m with
    | "pad_id" => pure (Data.int (← t.roleId .pad))
    | "bos_id" => pure (Data.int (← t.roleId .bos))
    | "eos_id" => pure (Data.int (← t.roleId .eos))
    | "unk_id" => pure (Data.int (← t.roleId .unk))
    | "mask_id" => pure (Data.int (← t.roleId .mask))
    | "sep_id" => pure (Data.int (← t.roleId .sep))
    | "cls_id" => pure (Data.int (← t.roleId .cls))
    | "vocab_size" => pure (Data.int t.size)
    | "name" => pure (.str t.splitting.kindName)
    | other => match Role.ofAttribute? other with
      | some r => pure (.str (← t.special r))
      | none => throw (t.missing other)

/-- A tokenizer's vocabulary and special tokens, and the results of calls on it. -/
def tokenizerRequest (req : Data) : Result Data := do
  let t ← tokenizerField req "kind"
  let results := (req.getD "calls").items.map fun c => resultEntry (tokenizerCall t c)
  pure (.dict [("vocab_size", .int t.size), ("special_tokens", Data.nats t.specialIds),
    ("vocab", .list (t.byNumber.map fun (s, n) => .list [.str s, .int n])),
    ("results", .list results)])

/-- One call on the byte-level tokenizer; its tokens are their own numbers. -/
def byteLevelCall (call : Data) : Result Data := do
  let m := (call.getD "m").text
  let arg := call.getD "arg"
  let missing : Failure := ⟨"AttributeError", s!"'ByteLevelTokenizer' object has no attribute '{m}'"⟩
  if call.has "arg" then
    match m with
    | "text_to_ids" | "text_to_tokens" => match arg with
      | .str s => pure (Data.nats (ByteLevel.textToIds s))
      | other => throw ⟨"AttributeError", s!"'{other.kindName}' object has no attribute 'encode'"⟩
    | "ids_to_text" | "tokens_to_text" => pure (.str (← ByteLevel.idsToText (← idsArg arg)))
    | "tokens_to_ids" | "ids_to_tokens" => pure arg
    | _ => throw missing
  else
    match m with
    | "pad_id" => pure (Data.int ByteLevel.padId)
    | "bos_id" => pure (Data.int ByteLevel.bosId)
    | "eos_id" => pure (Data.int ByteLevel.eosId)
    | "unk_id" => pure (Data.int ByteLevel.unkId)
    | "vocab_size" => pure (Data.int ByteLevel.vocabSize)
    | "special_tokens" => pure (Data.nats ByteLevel.specialIds)
    | _ => throw missing

/-- `bytelevel {calls}`. -/
def byteLevelRequest (req : Data) : Result Data := do
  pure (.dict [("special_tokens", Data.nats ByteLevel.specialIds),
    ("results", .list ((req.getD "calls").items.map fun c => resultEntry (byteLevelCall c)))])

/-- `fairseq_tokenize {text}`. -/
def englishTokensRequest (req : Data) : Result Data := do
  match req.getD "text" with
  | .str s => pure (.dict [("text", .str (English.tokenizeEnglish s))])
  | other => throw ⟨"AttributeError", s!"'{other.kindName}' object has no attribute 'strip'"⟩

/-- `softmax {scores}`. -/
def softmaxRequest (req : Data) : Result Data := do
  let scores ← (req.getD "scores").items.mapM fun d => match d.num? with
    | some x => .ok x
    | none => .error (badField "scores")
  pure (.dict [("probs", Data.floats (Numeric.softmax scores))])

end Conversa.Service
