import Conversa.Entry.Instance
import Conversa.Data.Arith

/-!
# The subword tokenizer by name

A subword tokenizer wraps a trained subword model and may register special tokens numbered from
the model's size up; only one in the older mode (`legacy`) keeps them, cutting texts at them
before the model reads the stretches between (`Language.cutAtSpecials`).
`SentencePieceTokenizer` needs an existing model file; `create_spt_model` answers the files of a
directory that already holds a model, and otherwise trains one.
-/

namespace Conversa.Callees

open Entry Conversa.Language

/-- The items a list is extended with: the items of a sequence, or the characters of a text. -/
def extensionItems (d : Data) : Result (List Data) :=
  match plain d with
  | .list xs => .ok xs
  | .str s => .ok (s.toList.map fun c => .str (String.singleton c))
  | other => .error (.type s!"{Text.quote other.kindName} object is not iterable")

def holdsKey (m : Data) (k : Data) : Bool := m.has (keyText k)

def Method.legacy : Method Bool := do pure (← Method.attr "legacy").truthy

def Method.specialTokens : Method (List String) := do
  pure ((← Method.attr "special_token_to_id").entries.map (·.1))

/-- A text read by the model, cut at special tokens first in the older mode; `model` names the
model's method for a stretch and `special` gives what a special token stands for. -/
def readText (model : String) (special : String → Method Data) (text : Data) : Method Data := do
  if ← Method.legacy then
    let pieces := cutAtSpecials (← Method.specialTokens) text.text
    let out ← pieces.foldlM (fun (acc : List Data) p => do
      match p with
      | .plain cs => do
        let got ← Method.invoke ["tokenizer", model] [.str (String.ofList cs)]
        pure (acc ++ (← extensionItems got))
      | .special t => do pure (acc ++ [← special t])) []
    pure (.list out)
  else Method.invoke ["tokenizer", model] [text]

def subwordTextToTokens : Callee :=
  method "SentencePieceTokenizer.text_to_tokens" [req "text"] fun vals =>
    readText "encode_as_pieces" (fun t => pure (.str t)) (arg vals 0)

def Method.specialId (token : String) : Method Data := do
  (← Method.attr "special_token_to_id").key token

def subwordTextToIds : Callee :=
  method "SentencePieceTokenizer.text_to_ids" [req "text"] fun vals =>
    readText "encode_as_ids" Method.specialId (arg vals 0)

def subwordTokensToText : Callee :=
  method "SentencePieceTokenizer.tokens_to_text" [req "tokens"] fun vals =>
    Method.invoke ["tokenizer", "decode_pieces"] [plainArg vals 0]

/-- `SentencePieceTokenizer.ids_to_text`: in the older mode each special token's
number splits the numbers, the stretches between decoded by the model, and the pieces are
joined with spaces. -/
def subwordIdsToText : Callee :=
  method "SentencePieceTokenizer.ids_to_text" [req "ids"] fun vals => do
    let ids := plainArg vals 0
    if ← Method.legacy then
      let specials ← Method.attr "id_to_special_token"
      let xs := ids.items
      let decode (part : List Data) : Method String := do
        pure (← Method.invoke ["tokenizer", "decode_ids"] [.list part]).text
      let (text, last) ← xs.zipIdx.foldlM (fun (acc : String × Nat) (x, i) => do
        let (text, last) := acc
        if holdsKey specials x then
          let part ← decode ((xs.drop last).take (i - last))
          pure (text ++ part ++ " " ++ (specials.getD (keyText x)).text ++ " ", i + 1)
        else pure acc) ("", 0)
      let tail ← decode (xs.drop last)
      pure (.str (Text.strip (text ++ tail)))
    else Method.invoke ["tokenizer", "decode_ids"] [ids]

/-- The number of a token: a special token's own number in the older mode, else the model's. -/
def Method.tokenToId (token : Data) : Method Data := do
  let specials ← Method.attr "special_token_to_id"
  if (← Method.legacy) && holdsKey specials token then
    pure (specials.getD (keyText token))
  else Method.invoke ["tokenizer", "piece_to_id"] [token]

def subwordTokenToId : Callee :=
  method "SentencePieceTokenizer.token_to_id" [req "token"] fun vals =>
    Method.tokenToId (arg vals 0)

/-- The numbers of tokens; a single text is one token. -/
def Method.tokensToIds (tokens : Data) : Method Data := do
  let ts := match tokens with
    | .str _ => [tokens]
    | other => (plain other).items
  pure (.list (← ts.mapM Method.tokenToId))

def subwordTokensToIds : Callee :=
  method "SentencePieceTokenizer.tokens_to_ids" [req "tokens"] fun vals =>
    Method.tokensToIds (arg vals 0)

/-- `SentencePieceTokenizer.ids_to_tokens`: numbers from the model's size up name
special tokens. -/
def subwordIdsToTokens : Callee :=
  method "SentencePieceTokenizer.ids_to_tokens" [req "ids"] fun vals => do
    let size ← Method.attr "original_vocab_size"
    let specials ← Method.attr "id_to_special_token"
    let out ← (plainArg vals 0).items.mapM fun x => do
      if ← (Data.lessThan x size) then Method.invoke ["tokenizer", "id_to_piece"] [x]
      else match specials.get? (keyText x) with
        | some t => pure t
        | none => throw (.key x.show)
    pure (.list out)

/-- Registers a special token unless the model knows it or it is registered already. -/
def Method.registerSpecial (token : Data) : Method Unit := do
  let piece ← Method.invoke ["tokenizer", "piece_to_id"] [token]
  let unknown ← Method.invoke ["tokenizer", "unk_id"] []
  let byToken ← Method.attr "special_token_to_id"
  if Data.same piece unknown && !holdsKey byToken token then
    let size ← Method.attr "vocab_size"
    Method.setAttr "special_token_to_id" (byToken.set (keyText token) size)
    let byId ← Method.attr "id_to_special_token"
    Method.setAttr "id_to_special_token" (byId.set (keyText size) token)
    Method.setAttr "vocab_size" (← Data.plus size (.int 1))

def noSpecialTokens : Failure :=
  ⟨"AttributeError", "Special Token addition does not work when legacy is set to False."⟩

/-- `SentencePieceTokenizer.add_special_tokens`: a list of tokens, or a
mapping of role names to tokens that also sets each role's attribute. -/
def subwordAddSpecialTokens : Callee :=
  method "SentencePieceTokenizer.add_special_tokens" [req "special_tokens"] fun vals => do
    if !(← Method.legacy) then Method.fail noSpecialTokens
    match arg vals 0 with
    | .list tokens => tokens.forM Method.registerSpecial
    | .dict roles => roles.forM fun (name, token) => do
        Method.setAttr name token
        Method.registerSpecial token
    | _ => pure ()
    pure .null

/-- The failure of asking the newer mode for a special token the model does not name. -/
def noSuchRole : Failure :=
  ⟨"NameError", "Use function token_to_id to retrieve special tokens other than unk, pad, bos, and eos."⟩

/-- A property giving the number of a role's token: through the token in the older mode, else
the model's own number for the role when it has one. -/
def roleIdProperty (prop role : String) (model : Option String) : Callee :=
  method s!"SentencePieceTokenizer.{prop}" [] fun _ => do
    if ← Method.legacy then
      let token ← Method.attr role
      (← Method.tokensToIds (.list [token])).item 0
    else match model with
      | some m => Method.invoke ["tokenizer", m] []
      | none => Method.fail noSuchRole

/-- `SentencePieceTokenizer.unk_id`: the model's number for the unknown token. -/
def subwordUnkId : Callee :=
  method "SentencePieceTokenizer.unk_id" [] fun _ => Method.invoke ["tokenizer", "unk_id"] []

/-- `SentencePieceTokenizer`: the model file must
exist. -/
def subwordTokenizer : Callee := function "SentencePieceTokenizer"
    [req "model_path", opt "special_tokens" .null, opt "legacy" (.bool false)] fun vals => do
  let path := arg vals 0
  if !path.truthy || !(← Work.pathExists path.text) then
    throw (.value s!"model_path: {path.text} is invalid")
  throw ⟨"ModuleNotFoundError", "No module named 'sentencepiece'"⟩

def holdsFiles (dir : String) (names : List String) : Work Bool := do
  if !(← Work.pathExists dir) then return false
  names.allM fun n => Work.pathExists s!"{dir}/{n}"

/-- The files of a subword model made from a data file into a directory (`spt` beside the data
when none is given): a directory that holds a model already is answered with its files;
otherwise the directory is made and training runs, which leaves no vocabulary to read when the
trainer is not installed. -/
def subwordModelFiles (data given : Data) : Work Data := do
  if !data.truthy || !(← Work.pathExists data.text) then
    throw (.value s!"data_file must be valid file path, but got {data.text}")
  let dir := if given.truthy then given.text else FileSystem.parent data.text ++ "/spt"
  if ← holdsFiles dir ["tokenizer.model"] then
    return .list [.str s!"{dir}/tokenizer.model", .str s!"{dir}/vocab.txt"]
  Work.makeDirs dir
  throw (Work.noSuchFile s!"{dir}/tokenizer.vocab")

/-- `create_spt_model`: a directory that holds a model already is answered with its files;
otherwise the directory is made and training runs, which leaves no vocabulary to read when the
trainer is not installed. -/
def subwordCreateModel : Callee := function "create_spt_model"
    [req "data_file", req "vocab_size", req "sample_size", req "do_lower_case",
     opt "tokenizer_type" (.str "unigram"), opt "output_dir" .null, opt "character_coverage" (.float 1.0),
     opt "train_extremely_large_corpus" (.bool false), opt "max_sentencepiece_length" (.int (-1)),
     opt "bos" (.bool false), opt "eos" (.bool false), opt "pad" (.bool false),
     opt "control_symbols" .null, opt "user_defined_symbols" .null] fun vals =>
  subwordModelFiles (arg vals 0) (arg vals 5)

def subwordCallees : List (String × Callee) :=
  let m := "nemo.collections.common.tokenizers.sentencepiece_tokenizer:"
  let text (name : String) (f : String → String) (refuse : String → Failure) : Callee :=
    functionOf name [req "text"] fun v => do
      match plain (arg v 0) with
      | .str s => pure (.str (f s))
      | other => throw (refuse other.kindName)
  let auto := "nemo.collections.common.tokenizers.huggingface.auto_tokenizer:"
  [(auto ++ "handle_quotes", text "handle_quotes" Text.joinQuotes fun k =>
      .type s!"object of type {Text.quote k} has no len()"),
   (auto ++ "remove_spaces", text "remove_spaces" Text.closeUpSpaces fun k => noAttribute k "replace"),
   (m ++ "SentencePieceTokenizer", subwordTokenizer), (m ++ "create_spt_model", subwordCreateModel),
   (m ++ "SentencePieceTokenizer.text_to_tokens", subwordTextToTokens),
   (m ++ "SentencePieceTokenizer.text_to_ids", subwordTextToIds),
   (m ++ "SentencePieceTokenizer.tokens_to_text", subwordTokensToText),
   (m ++ "SentencePieceTokenizer.ids_to_text", subwordIdsToText),
   (m ++ "SentencePieceTokenizer.token_to_id", subwordTokenToId),
   (m ++ "SentencePieceTokenizer.tokens_to_ids", subwordTokensToIds),
   (m ++ "SentencePieceTokenizer.ids_to_tokens", subwordIdsToTokens),
   (m ++ "SentencePieceTokenizer.add_special_tokens", subwordAddSpecialTokens),
   (m ++ "SentencePieceTokenizer.pad_id.fget", roleIdProperty "pad_id" "pad_token" (some "pad_id")),
   (m ++ "SentencePieceTokenizer.bos_id.fget", roleIdProperty "bos_id" "bos_token" (some "bos_id")),
   (m ++ "SentencePieceTokenizer.eos_id.fget", roleIdProperty "eos_id" "eos_token" (some "eos_id")),
   (m ++ "SentencePieceTokenizer.sep_id.fget", roleIdProperty "sep_id" "sep_token" none),
   (m ++ "SentencePieceTokenizer.cls_id.fget", roleIdProperty "cls_id" "cls_token" none),
   (m ++ "SentencePieceTokenizer.unk_id.fget", subwordUnkId)]

end Conversa.Callees
