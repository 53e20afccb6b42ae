import Conversa.Comprehension.Passage
import Conversa.Language.Tokenizer
import Conversa.Text.Slice

/-!
# Model inputs for reading comprehension

A question and passage become inputs of a fixed length: classifier token, question tokens,
separator, a window of the passage, separator, padding.  Windows cover the passage from the start,
each as long as the room allows and a stride after the one before.  A token has its most context
where its shorter side is longest (the first of equal ones).  A window holding the whole answer
marks it by positions, any other the classifier token.
-/

namespace Conversa.Comprehension

open Conversa.Language

/-- A window of a passage's tokens: where it starts and how many tokens it holds. -/
structure Window where
  start : Nat
  length : Nat
deriving DecidableEq, Inhabited, Repr

def Window.last (w : Window) : Nat := w.start + w.length - 1

def Window.holds (w : Window) (pos : Nat) : Bool := w.start ≤ pos && pos ≤ w.last

/-- The windows over `total` tokens from `start`, each of at most `room` tokens, a stride apart.
A window that could not move forward ends the list. -/
def windowsFrom (total room stride start : Nat) : List Window :=
  if start < total then
    let length := min (total - start) room
    if start + length == total then [⟨start, length⟩]
    else
      let step := min length stride
      if step = 0 then [⟨start, length⟩]
      else ⟨start, length⟩ :: windowsFrom total room stride (start + step)
  else []
termination_by total - start

/-- The windows a scan over `total` tokens sets from `start`, each of at most `room` tokens, the
next a stride on: `none` when the scan never ends, as when a window short of the end has no room
or no stride to move the start on. -/
def scanWindows (total : Nat) (room stride : Int) (start : Nat) : Option (List Window) :=
  if start < total then
    if room ≤ 0 then none
    else
      let length := min (total - start) room.toNat
      if start + length = total then some [⟨start, length⟩]
      else if stride ≤ 0 then none
      else (⟨start, length⟩ :: ·) <$> scanWindows total room stride (start + min length stride.toNat)
  else some []
termination_by total - start
decreasing_by omega

def contextScore (w : Window) (pos : Nat) : Float :=
  (min (pos - w.start) (w.last - pos)).toFloat + 0.01 * w.length.toFloat

/-- The window that gives a token the most context, the first of equal ones. -/
def bestWindow (ws : List Window) (pos : Nat) : Option Nat :=
  let best := ws.zipIdx.foldl (fun (best : Option (Nat × Float)) (w, i) =>
    if !w.holds pos then best
    else
      let score := contextScore w pos
      match best with
      | some (_, s) => if score > s then some (i, score) else best
      | none => some (i, score)) none
  best.map (·.1)

def intsFrom (a b : Int) : List Int := (List.range (b - a).toNat).map fun (i : Nat) => a + (i : Int)

/-- The narrowest span inside the given one whose tokens, joined by spaces, read as the answer;
the given span when none does. -/
def narrowSpan (docTokens : List String) (start stop : Int) (answer : String) : Int × Int :=
  let found := (intsFrom start (stop + 1)).findSome? fun a =>
    ((intsFrom a (stop + 1)).reverse.find? fun b =>
      " ".intercalate (Text.span docTokens a (b + 1)) == answer).map fun b => (a, b)
  found.getD (start, stop)

/-- The element of a list at a position counted from the end when negative. -/
def listAt {α : Type} (xs : List α) (i : Int) : Result α :=
  let pos := if i < 0 then xs.length + i else i
  match (if pos < 0 then none else xs[pos.toNat]?) with
  | some x => .ok x
  | none => .error .listIndex

/-- The tokens of a text given as data; another value is refused as the tokenizer refuses it. -/
def tokensOf (tok : TokenizerOps) (d : Data) : Result (List String) :=
  match d with
  | .str s => tok.textToTokens s
  | other => .error (tok.refusal other)

/-- The sizes that shape model inputs. -/
structure InputShape where
  maxSeqLength : Int
  /-- How far consecutive windows start apart at most. -/
  docStride : Int
  maxQueryLength : Int
  hasGroundtruth : Bool
deriving Inhabited, Repr

/-- One model input. -/
structure Feature where
  uniqueId : Nat
  exampleIndex : Nat
  /-- The number of the window among the question's windows. -/
  windowIndex : Nat
  tokens : List String
  /-- For every passage token in the input, by its position, its word. -/
  tokenToWord : List (Nat × Nat)
  /-- For every passage token in the input, by its position, whether this window gives it the
  most context. -/
  maxContext : List (Nat × Bool)
  /-- The numbers of the tokens, then padding. -/
  inputIds : List Nat
  inputMask : List Nat
  /-- Zero for the question part and padding, one for the passage part. -/
  segmentIds : List Nat
  /-- The position of the answer's first token, when answers are marked. -/
  startPosition : Option Int
  /-- The position of the answer's last token, when answers are marked. -/
  endPosition : Option Int
  /-- Whether the question is marked as having no answer. -/
  impossible : Data
deriving Inhabited, Repr

/-- The tokens of a passage's words, each with its word, and where each word's tokens start. -/
def wordTokens (tok : TokenizerOps) (words : List String) : Result (List (String × Nat) × List Nat) :=
  words.zipIdx.foldlM (fun (acc : List (String × Nat) × List Nat) (w, i) => do
    let sub ← tok.textToTokens w
    pure (acc.1 ++ sub.map (·, i), acc.2 ++ [acc.1.length])) ([], [])

/-- The first and last passage tokens of a question's answer, narrowed to those that read as the
answer: none when answers are not marked, `(-1, -1)` for a question without one. -/
def answerTokenSpan (tok : TokenizerOps) (shape : InputShape) (q : Question) (docText : List String)
    (wordStarts : List Nat) : Result (Option (Int × Int)) :=
  if !shape.hasGroundtruth then pure none
  else if q.impossible.truthy then pure (some (-1, -1))
  else do
    let first : Nat ← listAt wordStarts q.startWord
    let start : Int := first
    let stop : Int ← if q.endWord < (q.passage.words.length : Int) - 1 then do
        let next : Nat ← listAt wordStarts (q.endWord + 1)
        pure ((next : Int) - 1)
      else pure ((docText.length : Int) - 1)
    let answer := " ".intercalate (← tokensOf tok q.answerText)
    pure (some (narrowSpan docText start stop answer))

/-- The input of a question's window `w`, the `j`-th of `windows`, after the question's tokens
`query`, with the answer marked by the tokens `answerSpan` gives. -/
def windowFeature (tok : TokenizerOps) (shape : InputShape) (index firstId : Nat) (q : Question)
    (query : List String) (docTokens : List (String × Nat)) (windows : List Window)
    (answerSpan : Option (Int × Int)) : Window × Nat → Result Feature
  | (w, j) => do
    let cls ← tok.special .cls
    let sep ← tok.special .sep
    let head := [cls] ++ query ++ [sep]
    let body := (List.range w.length).filterMap fun i => docTokens[w.start + i]?
    let positions := (List.range w.length).map fun i => (head.length + i, w.start + i)
    let tokens := head ++ body.map (·.1) ++ [sep]
    let ids ← tok.tokensToIds tokens
    let missing := shape.maxSeqLength.toNat - ids.length
    let padId ← (if missing > 0 then tok.roleId .pad else pure 0)
    let inputIds := ids ++ List.replicate missing padId
    if (inputIds.length : Int) != shape.maxSeqLength then throw (.assertion "")
    let (startPosition, endPosition) := match answerSpan with
      | none => (none, none)
      | some (a, b) =>
        if q.impossible.truthy then (some 0, some 0)
        else if a ≥ w.start && b ≤ w.last then
          let offset : Int := query.length + 2
          (some (a - w.start + offset), some (b - w.start + offset))
        else (some 0, some 0)
    pure {
      uniqueId := firstId + j, exampleIndex := index, windowIndex := j, tokens
      tokenToWord := positions.map fun (p, i) => (p, ((docTokens[i]?).map (·.2)).getD 0)
      maxContext := positions.map fun (p, i) => (p, bestWindow windows i == some j)
      inputIds
      inputMask := List.replicate ids.length 1 ++ List.replicate missing 0
      segmentIds := List.replicate head.length 0 ++ List.replicate (body.length + 1) 1 ++ List.replicate missing 0
      startPosition, endPosition, impossible := q.impossible }

/-- The inputs of one question, numbered from `firstId`. -/
def questionFeatures (tok : TokenizerOps) (shape : InputShape) (index firstId : Nat) (q : Question) :
    Result (List Feature) := do
  let query := Text.span (← tokensOf tok q.text) 0 shape.maxQueryLength
  let (docTokens, wordStarts) ← wordTokens tok q.passage.words
  let answerSpan ← answerTokenSpan tok shape q (docTokens.map (·.1)) wordStarts
  let room := shape.maxSeqLength - query.length - 3
  let some windows := scanWindows docTokens.length room shape.docStride 0 | throw .endless
  windows.zipIdx.mapM (windowFeature tok shape index firstId q query docTokens windows answerSpan)

/-- The inputs of all questions, numbered from one thousand million on. -/
def features (tok : TokenizerOps) (shape : InputShape) (qs : List Question) : Result (List Feature) := do
  let (fs, _) ← qs.zipIdx.foldlM (fun (acc : List Feature × Nat) (q, i) => do
    let fs ← questionFeatures tok shape i acc.2 q
    pure (acc.1 ++ fs, acc.2 + fs.length)) ([], 1000000000)
  pure fs

end Conversa.Comprehension
