import Conversa.Language.Tokenizer
import Conversa.Numeric.Reading

/-!
# Sentence-pair features

A pair of texts is encoded for a sequence classifier as one padded row: the texts are tokenized
and shortened to leave room for the special tokens (a pair by dropping the last token of the
longer text, the second on a tie), framed by beginning and end tokens in segments `a` and `b`,
the class token in front or at the end, and the row padded right or left to the fixed length.
The label is its position in the label list, or the label read as a number for regression.
-/

namespace Conversa.Features

open Conversa.Language

/-- Where the special tokens go and which segments the parts belong to. -/
structure PairLayout where
  bos : Option String := none
  eos : Option String := some "[SEP]"
  pad : Option String := some "[PAD]"
  cls : Option String := some "[CLS]"
  /-- An extra separator between the texts, if any. -/
  sepExtra : Option String := none
  clsAtEnd : Bool := false
  clsSegment : Int := 0
  padSegment : Int := 0
  padOnLeft : Bool := false
  /-- Whether real tokens are marked `1` and padding `0` (or the other way round). -/
  maskPaddingWithZero : Bool := true
  segmentA : Int := 0
  segmentB : Int := 1
deriving Inhabited

/-- The token of an optional special, if it is a non-empty text. -/
def present : Option String → Option String
  | some s => if s.isEmpty then none else some s
  | none => none

/-- How many tokens the specials of a layout add: to a pair, or to a single text. -/
def PairLayout.specialCount (l : PairLayout) (pair : Bool) : Int :=
  let n (o : Option String) (k : Int) : Int := if (present o).isSome then k else 0
  if pair then n l.eos 2 + n l.sepExtra 1 + n l.bos 2 + n l.cls 1
  else n l.eos 1 + n l.sepExtra 1 + n l.bos 1

/-- A pair of token lists with `n` tokens dropped one at a time, the last token of the longer
one first (of the second on a tie); nothing is left to drop when both are empty. -/
def popLonger {α : Type} (a b : List α) : Nat → Result (List α × List α)
  | 0 => .ok (a, b)
  | n + 1 =>
    if a.length > b.length then popLonger a.dropLast b n
    else match b with
      | [] => .error (.index "pop from empty list")
      | _ :: _ => popLonger a b.dropLast n

/-- A pair of token lists shortened to at most `maxLen` tokens together, by dropping as many
tokens as they are over; a negative limit empties both and then finds nothing to drop. -/
def truncatePair {α : Type} (a b : List α) (maxLen : Int) : Result (List α × List α) :=
  popLonger a b ((a.length + b.length : Int) - maxLen).toNat

/-- The first tokens of a list as a slice up to `stop` takes them: a negative stop counts from
the end. -/
def sliceTo (xs : List String) (stop : Int) : List String :=
  xs.take (if stop < 0 then (xs.length + stop).toNat else stop.toNat)

/-- The tokens of a pair of texts framed by the specials, with the segment of each. -/
def framePair (l : PairLayout) (a : List String) (b : List String) : List String × List Int :=
  let bos := present l.bos
  let eos := present l.eos
  let toks := (bos.toList ++ a) ++ eos.toList
  let segs := toks.map fun _ => l.segmentA
  let (toks, segs) := match present l.sepExtra with
    | some x => if b.isEmpty then (toks, segs) else (toks ++ [x], segs ++ [l.segmentA])
    | none => (toks, segs)
  let (toks, segs) :=
    if b.isEmpty then (toks, segs)
    else
      let part := bos.toList ++ b ++ eos.toList
      (toks ++ part, segs ++ part.map fun _ => l.segmentB)
  match present l.cls with
  | some c => if l.clsAtEnd then (toks ++ [c], segs ++ [l.clsSegment]) else (c :: toks, l.clsSegment :: segs)
  | none => (toks, segs)

/-- An encoded example: token numbers, mask, segments and label. -/
structure PairFeature where
  inputIds : List Nat
  inputMask : List Nat
  segmentIds : List Int
  label : Data
deriving Inhabited

/-- A text or the absent value, as a key is written. -/
def keyText : Option String → String
  | some s => Text.quote s
  | none => "None"

def padId (t : TokenizerOps) (l : PairLayout) : Result Nat :=
  match l.pad with
  | some p => t.tokenToId p
  | none => .error (.key "None")

/-- The token rows of an example padded to `maxLen`: numbers, mask and segments. -/
def padRow (t : TokenizerOps) (l : PairLayout) (maxLen : Int) (toks : List String) (segs : List Int) :
    Result (List Nat × List Nat × List Int) := do
  let ids ← t.tokensToIds toks
  let real := if l.maskPaddingWithZero then 1 else 0
  let mask := ids.map fun _ => real
  let n := (maxLen - ids.length).toNat
  let pid ← padId t l
  let padIds := List.replicate n pid
  let padMask := List.replicate n (1 - real)
  let padSegs := List.replicate n l.padSegment
  let (ids, mask, segs) :=
    if l.padOnLeft then (padIds ++ ids, padMask ++ mask, padSegs ++ segs)
    else (ids ++ padIds, mask ++ padMask, segs ++ padSegs)
  if (ids.length : Int) != maxLen then throw (.value "input_ids must be of length max_seq_length")
  if (mask.length : Int) != maxLen then throw (.value "input_mask must be of length max_seq_length")
  if (segs.length : Int) != maxLen then throw (.value "segment_ids must be of length max_seq_length")
  pure (ids, mask, segs)

/-- How labels become numbers. -/
inductive OutputMode where
  /-- The position of the label in the label list. -/
  | classification
  /-- The label read as a single-precision number. -/
  | regression
deriving DecidableEq, Inhabited

/-- A text read as a single-precision number, widened to a double. -/
def singlePrecision (s : String) : Result Float :=
  match Numeric.readFloat? s with
  | some x => .ok x.toFloat32.toFloat
  | none => .error (.value s!"could not convert string to float: {Text.quote s}")

/-- The label of an example: classification looks it up in the labels (the last position of a
repeated label), regression reads it. -/
def labelValue (mode : OutputMode) (labels : List (Option String)) (label : Option String) :
    Result Data :=
  match mode with
  | .classification =>
    match (labels.zipIdx.filter (·.1 == label)).getLast? with
    | some (_, i) => .ok (.int i)
    | none => .error (.key (keyText label))
  | .regression =>
    match label with
    | some s => do pure (.float (← singlePrecision s))
    | none => .ok (.float (0.0 / 0.0))

def checkWhole (d : Data) : Result Unit :=
  match d with
  | .float x =>
    if x != x then .error (.value "cannot convert float NaN to integer")
    else if x.isInf then .error ⟨"OverflowError", "cannot convert float infinity to integer"⟩
    else .ok ()
  | _ => .ok ()

/-- The tokens of an example's two texts, shortened to leave room for the special tokens: a pair
together, a single text alone (the second text counts only when it is not empty). -/
def keptTokens (t : TokenizerOps) (l : PairLayout) (maxLen : Int) (a : String) (b : Option String) :
    Result (List String × List String) := do
  let ta ← t.textToTokens a
  let (ta, tb) ← match b with
    | some b => if b.isEmpty then pure (ta, []) else do
        let tb ← t.textToTokens b
        truncatePair ta tb (maxLen - l.specialCount true)
    | none => pure (ta, [])
  let ta := if b.any (!·.isEmpty) then ta
    else if (ta.length : Int) > maxLen - l.specialCount false then sliceTo ta (maxLen - l.specialCount false)
    else ta
  pure (ta, tb)

/-- The feature of the `i`-th example, given as first text, optional second text and label. -/
def pairFeature (t : TokenizerOps) (l : PairLayout) (maxLen : Int) (mode : OutputMode)
    (labels : List (Option String)) : (String × Option String × Option String) × Nat → Result PairFeature
  | ((a, b, label), i) => do
    let (ta, tb) ← keptTokens t l maxLen a b
    let (toks, segs) := framePair l ta tb
    let (ids, mask, segs) ← padRow t l maxLen toks segs
    let v ← labelValue mode labels label
    if i < 5 then checkWhole v
    pure ⟨ids, mask, segs, v⟩

/-- The features of examples given as first text, optional second text and label. -/
def pairFeatures (t : TokenizerOps) (l : PairLayout) (maxLen : Int) (mode : OutputMode)
    (labels : List (Option String)) (examples : List (String × Option String × Option String)) :
    Result (List PairFeature) :=
  examples.zipIdx.mapM (pairFeature t l maxLen mode labels)

end Conversa.Features
