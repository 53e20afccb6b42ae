import Conversa.Language.Tokenizer
import Conversa.Numeric.Reading

/-!
# Sentence classification features

A sentence is encoded as the class token, its words' tokens and the separator; one over the limit
loses its last tokens first (the class token counts, the separator does not).  Tokens are looked
up character by character, so a number comes out as a list; mask all ones, segment all zeros.
The `i`-th sentence's label is the `i`-th given, or `-1`; a length summary needs a sentence.
-/

namespace Conversa.Features

open Conversa.Language

/-- An encoded sentence with its label. -/
structure SentenceFeature where
  /-- The numbers of the tokens, each looked up character by character. -/
  inputIds : List (List Nat)
  segmentIds : List Nat
  inputMask : List Nat
  label : Data
deriving Inhabited

def emptyLengths : Failure :=
  .value "zero-size array to reduction operation minimum which has no identity"

def pastEnd : Failure := .index "list index out of range"

def labelAt (labels : List Data) (i : Nat) : Result Data :=
  match labels[i]? with
  | some l => .ok l
  | none => .error pastEnd

/-- The tokens of a sentence between the class and separator tokens, cut to the limit when it
is positive. -/
def sentenceTokens (t : TokenizerOps) (maxLen : Int) (words : List String) : Result (List String) := do
  let cls ← t.special .cls
  let body ← words.mapM t.textToTokens
  let toks := cls :: body.flatten
  let toks := if maxLen > 0 && (toks.length : Int) + 1 > maxLen then toks.take maxLen.toNat else toks
  pure (toks ++ [← t.special .sep])

/-- The features of sentences with their labels; `verbose` also reads the labels of the first
two sentences and summarises the lengths. -/
def sentenceFeatures (t : TokenizerOps) (sents : List (List String)) (maxLen : Int) (labels : List Data)
    (verbose : Bool) : Result (List SentenceFeature) := do
  let fs ← sents.zipIdx.mapM fun (words, i) => do
    let toks ← sentenceTokens t maxLen words
    let ids ← toks.mapM t.charIds
    if verbose && i < 2 && !labels.isEmpty then discard (labelAt labels i)
    let label ← if labels.isEmpty then pure (Data.int (-1)) else labelAt labels i
    pure ⟨ids, ids.map fun _ => 0, ids.map fun _ => 1, label⟩
  if verbose && fs.isEmpty then throw emptyLengths
  pure fs

/-- A line of a labelled data file read as words and an integer label: the last word is the
label.  A line without a word has no last word; a line whose last word is no integer is
skipped. -/
def labelledLine (line : String) : Result (Option (List String × Int)) :=
  let ws := Text.words line
  match ws.getLast? with
  | none => .error pastEnd
  | some w => .ok ((Numeric.readInt? w).map fun n => (ws.dropLast, n))

end Conversa.Features
