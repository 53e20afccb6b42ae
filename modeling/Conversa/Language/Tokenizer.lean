import Conversa.Data.Show
import Conversa.Data.Number
import Conversa.Text.Delimited
import Conversa.Text.Bytes

/-!
# Vocabulary tokenizers

A tokenizer cuts a text into characters or white-space separated words and numbers each piece by
a vocabulary read one token a line; a repeated token keeps its first place and its last number.
Special tokens are registered after it, each new one getting the next number.  A number names
the last token listed with it; a piece not listed reads as the unknown token, and a tokenizer
without one refuses it.
-/

namespace Conversa.Language

/-- How a tokenizer cuts a text into pieces. -/
inductive Splitting where
  | characters
  /-- Every run of characters without white space is a piece. -/
  | words
deriving DecidableEq, Repr, Inhabited

def Splitting.kindName : Splitting → String
  | .characters => "CharTokenizer"
  | .words => "WordTokenizer"

/-- The roles a special token plays. -/
inductive Role where
  | unk | sep | mask | bos | eos | pad | cls
deriving DecidableEq, Repr, Inhabited

def Role.all : List Role := [.unk, .sep, .mask, .bos, .eos, .pad, .cls]

/-- The name under which a role's token is kept. -/
def Role.attribute : Role → String
  | .unk => "unk_token"
  | .sep => "sep_token"
  | .mask => "mask_token"
  | .bos => "bos_token"
  | .eos => "eos_token"
  | .pad => "pad_token"
  | .cls => "cls_token"

def Role.ofAttribute? (name : String) : Option Role := Role.all.find? (·.attribute == name)

/-- A vocabulary: tokens with their numbers, in the order the tokens were first listed. -/
abbrev Vocabulary := List (String × Nat)

namespace Vocabulary

def idOf? (v : Vocabulary) (t : String) : Option Nat := (v.find? (·.1 == t)).map (·.2)

def put (v : Vocabulary) (t : String) (n : Nat) : Vocabulary :=
  if v.any (·.1 == t) then v.map fun e => if e.1 == t then (t, n) else e else v ++ [(t, n)]

def tokenOf? (v : Vocabulary) (n : Nat) : Option String :=
  (v.reverse.find? (·.2 == n)).map (·.1)

/-- The vocabulary a file's text lists: one token a line, white space trimmed, numbered by
line. -/
def ofText (s : String) : Vocabulary :=
  (Text.fileLines s).zipIdx.foldl (fun v (line, i) => v.put (Text.strip (String.ofList line)) i) []

end Vocabulary

/-- What the feature builders ask of a tokenizer: the tokens of a text, the failure of cutting a
value that is no text, the number of a token and the token of a role. -/
structure TokenizerOps where
  textToTokens : String → Result (List String)
  refusal : Data → Failure
  tokenToId : String → Result Nat
  special : Role → Result String

namespace TokenizerOps

def roleId (t : TokenizerOps) (r : Role) : Result Nat := do t.tokenToId (← t.special r)

def tokensToIds (t : TokenizerOps) (ts : List String) : Result (List Nat) := ts.mapM t.tokenToId

/-- The numbers of the characters of one token: what looking a single token up as a sequence
of tokens gives. -/
def charIds (t : TokenizerOps) (s : String) : Result (List Nat) :=
  t.tokensToIds (s.toList.map String.singleton)

end TokenizerOps

/-- A tokenizer: how it cuts texts, its vocabulary, its special tokens by role, and their
numbers. -/
structure Tokenizer where
  splitting : Splitting
  /-- The vocabulary, special tokens included. -/
  vocab : Vocabulary
  /-- The special tokens, in the order of their roles. -/
  specials : List (Role × String)
deriving Inhabited, Repr

namespace Tokenizer

/-- A tokenizer over the vocabulary a file lists, with special tokens added; an empty special
token is no special token. -/
def make (splitting : Splitting) (vocabText : String) (specials : List (Role × String)) : Tokenizer :=
  let specials := Role.all.filterMap fun r =>
    match specials.find? (·.1 == r) with
    | some (_, t) => if t.isEmpty then none else some (r, t)
    | none => none
  let vocab := specials.foldl (fun v (_, t) =>
    if (v.idOf? t).isSome then v else v.put t v.length) (Vocabulary.ofText vocabText)
  ⟨splitting, vocab, specials⟩

def size (t : Tokenizer) : Nat := t.vocab.length

def missing (t : Tokenizer) (name : String) : Failure :=
  ⟨"AttributeError", s!"'{t.splitting.kindName}' object has no attribute '{name}'"⟩

def special (t : Tokenizer) (r : Role) : Result String :=
  match t.specials.find? (·.1 == r) with
  | some (_, s) => .ok s
  | none => .error (t.missing r.attribute)

/-- The number of a token; a token not listed is a missing key. -/
def tokenToId (t : Tokenizer) (s : String) : Result Nat :=
  match t.vocab.idOf? s with
  | some n => .ok n
  | none => .error (.key (Text.quote s))

def specialIds (t : Tokenizer) : List Nat := t.specials.filterMap fun (_, s) => t.vocab.idOf? s

def pieces (t : Tokenizer) (s : String) : List String :=
  match t.splitting with
  | .characters => s.toList.map String.singleton
  | .words => Text.words s

/-- The tokens of a text: each piece, or the unknown token for a piece not listed. -/
def textToTokens (t : Tokenizer) (s : String) : Result (List String) :=
  (t.pieces s).mapM fun p => if (t.vocab.idOf? p).isSome then .ok p else t.special .unk

/-- The operations of the tokenizer; a value that is no text is refused as its splitting refuses
it. -/
def ops (t : Tokenizer) : TokenizerOps where
  textToTokens := t.textToTokens
  refusal other := match t.splitting with
    | .words => ⟨"AttributeError", s!"'{other.kindName}' object has no attribute 'strip'"⟩
    | .characters => .type s!"'{other.kindName}' object is not iterable"
  tokenToId := t.tokenToId
  special := t.special

instance : Coe Tokenizer TokenizerOps := ⟨ops⟩

def roleId (t : Tokenizer) : Role → Result Nat := t.ops.roleId

def tokensToIds (t : Tokenizer) : List String → Result (List Nat) := t.ops.tokensToIds

def textToIds (t : Tokenizer) (s : String) : Result (List Nat) := do
  t.tokensToIds (← t.textToTokens s)

/-- The token of a number; a number not in use is a missing key. -/
def idToToken (t : Tokenizer) (n : Int) : Result String :=
  match (if n < 0 then none else t.vocab.tokenOf? n.toNat) with
  | some s => .ok s
  | none => .error (.key (toString n))

def idsToTokens (t : Tokenizer) (ns : List Int) : Result (List String) := ns.mapM t.idToToken

/-- The text of numbers: the tokens of those that are not special, joined as the pieces were
cut. -/
def idsToText (t : Tokenizer) (ns : List Int) : Result String := do
  let specials := t.specialIds
  let kept := ns.filter fun n => !specials.any (fun m => (m : Int) == n)
  let toks ← t.idsToTokens kept
  pure (match t.splitting with
    | .characters => String.join toks
    | .words => " ".intercalate toks)

def tokensToText (t : Tokenizer) (ts : List String) : Result String := do
  t.idsToText ((← t.tokensToIds ts).map Int.ofNat)

/-- The vocabulary ordered by number, tokens of one number in the order they were listed. -/
def byNumber (t : Tokenizer) : List (String × Nat) := t.vocab.mergeSort fun a b => a.2 ≤ b.2

end Tokenizer

end Conversa.Language

/-!
## Cutting a text at special tokens

A subword model does not know the special tokens registered beside it, so a text is cut at them
first: the plain stretches between special tokens go to the model, and each special token stands
for itself.  The cut is made from the left: among the special tokens, the one whose first
occurrence in the rest of the text starts earliest is cut out next, the earlier listed one on a
tie.  Every special token is preceded by a plain stretch, which may be empty, and a last plain
stretch, possibly empty too, ends the text.
-/

namespace Conversa.Language

/-- A piece of a text cut at special tokens. -/
inductive Piece where
  | plain (text : List Char)
  | special (token : String)
deriving DecidableEq, Repr, Inhabited

/-- Where a pattern first occurs in a text, counted in characters. -/
def firstIndex? (pattern : List Char) : List Char → Option Nat
  | [] => if pattern.isEmpty then some 0 else none
  | c :: cs =>
    if pattern.isPrefixOf (c :: cs) then some 0 else (firstIndex? pattern cs).map (· + 1)

/-- The special token that occurs first in a text, the earlier listed on a tie, with where it
starts. -/
def earliestSpecial (specials : List String) (text : List Char) : Option (String × Nat) :=
  specials.foldl (fun best t =>
    match firstIndex? t.toList text, best with
    | none, _ => best
    | some i, none => some (t, i)
    | some i, some (b, j) => if i < j then some (t, i) else some (b, j)) none

/-- A text cut at special tokens, at most `fuel` of them. -/
def cutAtSpecialsFor (specials : List String) : Nat → List Char → List Piece
  | 0, text => [.plain text]
  | fuel + 1, text =>
    match earliestSpecial specials text with
    | none => [.plain text]
    | some (t, i) =>
      .plain (text.take i) :: .special t :: cutAtSpecialsFor specials fuel (text.drop (i + t.length))

/-- A text cut at special tokens.  Each cut takes at least one character when no special token
is empty, so as many cuts as the text has characters are enough. -/
def cutAtSpecials (specials : List String) (text : String) : List Piece :=
  cutAtSpecialsFor specials (text.length + 1) text.toList

end Conversa.Language

/-!
## Byte-level tokens

A byte-level tokenizer needs no vocabulary: the tokens of a text are the bytes of its UTF-8
encoding, and the numbers 256 to 259 are the padding, beginning, end and unknown tokens.  A text
is read back from numbers by dropping the special ones, decoding the bytes (a byte that begins
no well-formed sequence is dropped) and trimming white space at the end.
-/

namespace Conversa.Language.ByteLevel

def padId : Nat := 256

def bosId : Nat := 257

def eosId : Nat := 258

def unkId : Nat := 259

def vocabSize : Nat := 259

def specialIds : List Nat := [bosId, eosId, padId]

def textToIds (s : String) : List Nat := s.toUTF8.toList.map (·.toNat)

/-- The text of tokens: the special tokens dropped, the bytes decoded, the end trimmed.  A
negative number is no byte. -/
def idsToText (ids : List Int) : Result String := do
  let bytes := ids.filter (· < 256)
  if bytes.any (· < 0) then throw (.value "bytes must be in range(0, 256)")
  pure (Text.stripEnd (String.ofList (Text.decodeLossy (bytes.map fun b => b.toNat.toUInt8))))

end Conversa.Language.ByteLevel
