import Conversa.Speech.Manifest
import Conversa.Language.CharParser
import Conversa.Numeric.Reading

/-!
# Speech datasets

A dataset keeps the samples of its manifests within its duration limits (and whose text parses),
up to the greatest number, then sorts them stably by duration or indexes them by file id.  A
labelled dataset lists its distinct labels, sorted; a regression dataset reads labels as numbers;
a feature-sequence dataset turns labels into positions of first occurrence (`E A C A` is
`0 1 2 1`).
-/

namespace Conversa.Speech

open Conversa.Language

/-- The limits a dataset puts on its samples. -/
structure SampleLimits where
  minDuration : Option Float := none
  maxDuration : Option Float := none
  maxNumber : Option Int := none
  /-- Whether the kept samples are sorted by duration. -/
  sortByDuration : Bool := false
  /-- Whether the kept samples are indexed by file id. -/
  indexByFileId : Bool := false
deriving Inhabited, Repr

/-- A duration as a number; a value that is none counts as zero. -/
def durationValue (d : Data) : Float :=
  match d with
  | .bool b => if b then 1.0 else 0.0
  | other => other.num?.getD 0.0

/-- The id of a file: its name after the last slash, without the last dot and what follows,
unless only dots stand before that dot. -/
def fileId (p : String) : String :=
  let base := ((p.splitOn "/").getLast?).getD p
  let cs := base.toList
  let lead := (cs.takeWhile (· == '.')).length
  match (cs.zipIdx.filter fun (c, i) => c == '.' && i ≥ lead).getLast? with
  | some (_, i) => String.ofList (cs.take i)
  | none => base

def fileExtension (p : String) : String :=
  let base := ((p.splitOn "/").getLast?).getD p
  String.ofList (base.toList.drop (fileId p).length)

/-- An index entry set: a key already present keeps its place and takes the new position. -/
def putIndex (m : List (String × Nat)) (k : String) (n : Nat) : List (String × Nat) :=
  if m.any (·.1 == k) then m.map fun (k', v) => if k' == k then (k', n) else (k', v) else m ++ [(k, n)]

/-- One sample offered to a dataset: the samples kept, the index, and whether enough are kept.
The count is compared with the greatest number only after a sample is kept. -/
def collectStep {α β : Type} (limits : SampleLimits) (duration : α → Float) (file : α → String)
    (accept : α → Result (Option β)) (acc : List (α × β) × List (String × Nat) × Bool) (x : α) :
    Result (List (α × β) × List (String × Nat) × Bool) := do
  let (kept, index, stopped) := acc
  if stopped then return acc
  if limits.minDuration.any (duration x < ·) then return acc
  if limits.maxDuration.any (duration x > ·) then return acc
  match ← accept x with
  | none => pure acc
  | some y =>
    let kept := kept ++ [(x, y)]
    let index := if limits.indexByFileId then putIndex index (fileId (file x)) (kept.length - 1) else index
    pure (kept, index, limits.maxNumber == some (kept.length : Int))

/-- The samples that pass the limits, and the index by file id when asked for.  `accept` gives
what a sample becomes, or none when it is dropped; it is asked only of samples within the
duration limits, in order, until enough are kept. -/
def collect {α β : Type} (limits : SampleLimits) (duration : α → Float) (file : α → String)
    (accept : α → Result (Option β)) (items : List α) :
    Result (List (α × β) × List (String × Nat)) := do
  let (kept, index, _) ← items.foldlM (collectStep limits duration file accept) ([], [], false)
  let kept := if limits.sortByDuration && !limits.indexByFileId then
      kept.mergeSort fun a b => duration a.1 ≤ duration b.1
    else kept
  pure (kept, index)

/-- The label numbers of a transcript; a transcript that is no text cannot be trimmed. -/
def transcriptIds (parser : CharParser) (d : Data) : Result (Option (List Int)) :=
  match d with
  | .str s => .ok (parser.parse s)
  | other => .error ⟨"AttributeError", s!"'{other.kindName}' object has no attribute 'strip'"⟩

/-- A transcribed dataset: its utterances with their label numbers, and its index. -/
def transcribed (limits : SampleLimits) (parser : CharParser) (us : List Utterance) :
    Result (List (Utterance × List Int) × List (String × Nat)) :=
  collect limits (fun u => durationValue u.duration) (fun u => u.audioFile.text)
    (fun u => transcriptIds parser u.text) us

def labelNumber (d : Data) : Result Float :=
  match d with
  | .str s =>
    match Numeric.readFloat? s with
    | some x => .ok x
    | none => .error (.value s!"could not convert string to float: {Text.quote s}")
  | .bool b => .ok (if b then 1.0 else 0.0)
  | other =>
    match other.num? with
    | some x => .ok x
    | none => .error (.type s!"float() argument must be a string or a real number, not {Text.quote other.kindName}")

/-- Whether one label sorts before another: texts by code points, numbers by value; a text and
a number cannot be compared. -/
def labelBefore (a b : Data) : Result Bool :=
  match a, b with
  | .str x, .str y => .ok (decide (x < y))
  | .str _, _ | _, .str _ =>
    .error (.type s!"'<' not supported between instances of {Text.quote a.kindName} and {Text.quote b.kindName}")
  | x, y => .ok (durationValue x < durationValue y)

/-- Distinct labels, sorted.  Before sorting, each label is compared with every later one in
order of first appearance, so the first pair that cannot be compared fails the sort, the earlier
label on the left. -/
def sortedLabels (labels : List Data) : Result (List Data) := do
  let distinct := labels.foldl (fun acc l => if acc.any (Data.same · l) then acc else acc ++ [l]) []
  for (a, i) in distinct.zipIdx do
    for b in distinct.drop (i + 1) do
      let _ ← labelBefore a b
  pure (distinct.mergeSort fun a b => match labelBefore b a with
    | .ok before => !before
    | .error _ => true)

def LabelledUtterance.asRegression (u : LabelledUtterance) : Result LabelledUtterance := do
  pure { u with label := .float (← labelNumber u.label) }

/-- A labelled dataset: its utterances, its index and its sorted labels. -/
def labelled (limits : SampleLimits) (us : List LabelledUtterance) :
    Result (List LabelledUtterance × List (String × Nat) × List Data) := do
  let (kept, index) ← collect limits (fun u => durationValue u.duration) (fun u => u.audioFile.text)
    (fun _ => pure (some ())) us
  let kept := kept.map (·.1)
  pure (kept, index, ← sortedLabels (kept.map (·.label)))

/-- Labels as positions of first occurrence, and the distinct labels in order of first
occurrence. -/
def relativeLabels (labels : List String) : List Nat × List String :=
  labels.foldl (fun (acc : List Nat × List String) l =>
    match acc.2.idxOf? l with
    | some i => (acc.1 ++ [i], acc.2)
    | none => (acc.1 ++ [acc.2.length], acc.2 ++ [l])) ([], [])

/-- A feature-sequence dataset: each feature file with its relative labels, the index by full
path, and the labels of the kept samples, sorted. -/
def featureSequences (maxNumber : Option Int) (indexed : Bool) (fs : List FeatureSequence) :
    Result (List (Data × List Nat) × List (String × Nat) × List String) := do
  let seqs ← fs.mapM fun f => match f.labels with
    | .str s => pure (f.featureFile, Text.words s)
    | other => throw ⟨"AttributeError", s!"'{other.kindName}' object has no attribute 'split'"⟩
  let (kept, index, labels, _) := seqs.foldl (fun (acc : List (Data × List Nat) × List (String × Nat) × List String × Bool) (file, ws) =>
    let (kept, index, labels, stopped) := acc
    if stopped then acc
    else
      let (rel, distinct) := relativeLabels ws
      let kept := kept ++ [(file, rel)]
      let labels := distinct.foldl (fun ls l => if ls.contains l then ls else ls ++ [l]) labels
      let index := if indexed then putIndex index file.text (kept.length - 1) else index
      (kept, index, labels, maxNumber == some (kept.length : Int))) ([], [], [], false)
  pure (kept, index, labels.mergeSort fun a b => decide (a ≤ b))

end Conversa.Speech
