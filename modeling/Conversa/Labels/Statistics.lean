import Conversa.Data.Number
import Conversa.Data.Show
import Conversa.Numeric.Printf
import Conversa.Numeric.Reading

/-!
# Label statistics and class weights

Training sets for classification are summarised by how often each label occurs: the labels most
frequent first (ties in order of first appearance), each with its share of the total rounded to
five places.  Rare classes are weighted up so that every class carries the same total weight: a
label's weight is the number of labels over (the number of classes times its count), and a class
that never occurs weighs `1.0`.
-/

namespace Conversa.Labels

open Numeric

/-- How often each value occurs, each at its first appearance. -/
def tally (xs : List Data) : List (Data × Nat) :=
  xs.foldl (fun acc x =>
    if acc.any (·.1.same x) then acc.map fun (k, n) => if k.same x then (k, n + 1) else (k, n)
    else acc ++ [(x, 1)]) []

/-- How often each value occurs, most frequent first, ties in order of first appearance. -/
def mostCommon (xs : List Data) : List (Data × Nat) := (tally xs).mergeSort fun a b => a.2 ≥ b.2

/-- Whether `a` is greater than `b`, for two numbers or two texts. -/
def greater (a b : Data) : Result Bool :=
  match a, b, a.scalar?, b.scalar? with
  | .str x, .str y, _, _ => .ok (y < x)
  | _, _, some x, some y => (Scalar.gt x y).mapError ArithError.toFailure
  | _, _, _, _ =>
    .error (.type s!"'>' not supported between instances of '{a.kindName}' and '{b.kindName}'")

def greatest : List Data → Result Data
  | [] => .error (.value "max() arg is an empty sequence")
  | x :: xs => xs.foldlM (fun m y => do if (← greater y m) then pure y else pure m) x

/-- The summary of a list of labels: their number, their counts most frequent first, and the
greatest label. -/
structure Summary where
  total : Nat
  /-- Each label with its count, most frequent first. -/
  counts : List (Data × Nat)
  greatestLabel : Data
deriving Inhabited

/-- The table of a summary: per line the label, its share rounded to five places and its count,
separated by two tabs. -/
def statsTable (total : Nat) (counts : List (Data × Nat)) : String :=
  String.join (counts.map fun (k, v) =>
    s!"{k.text}\t\t{floatText (roundPlaces (divInt v total) 5)}\t\t{v}\n")

/-- The summary of a list of labels; an empty list has no greatest label. -/
def summarize (labels : List Data) : Result Summary := do
  let counts := mostCommon labels
  let top ← greatest (counts.map (·.1))
  pure ⟨labels.length, counts, top⟩

/-- The weight of each label from its count: the total count over the number of labels times
the label's count. -/
def freqWeights (counts : List (Data × Scalar)) : Result (List (Data × Data)) :=
  (do
    let total ← counts.foldlM (fun (acc : Scalar) (kf : Data × Scalar) => Scalar.add acc kf.2) (Scalar.int 0)
    counts.mapM fun (kf : Data × Scalar) => do
      let w ← Scalar.truediv total (← Scalar.mul (.int counts.length) kf.2)
      pure (kf.1, w.toData)).mapError ArithError.toFailure

/-- The weights of the classes `0` to `maxId`, `1.0` for a class without one; a negative
`maxId` means the greatest class that has a weight, and at least `0`. -/
def fillWeights (weights : List (Data × Data)) (maxId : Int) : List Data :=
  let top := if maxId < 0 then weights.foldl (fun m (k, _) => max m (k.int?.getD 0)) 0 else maxId
  (List.range (top + 1).toNat).map fun i =>
    match weights.find? (·.1.same (.int (Int.ofNat i))) with
    | some (_, w) => w
    | none => .float 1.0

/-- The label of a line of a labelled data file: its last word, read as a whole number. -/
def lineLabel (file line : String) : Result Int :=
  match (Text.words line).getLast? with
  | none => .error .listIndex
  | some w => match readInt? w with
    | some n => .ok n
    | none => .error (.value (s!"No numerical labels found for {file}. Labels should be integers " ++
        "and separated by [TAB] at the end of each line."))

/-- The weights of the classes `0` to `numClasses - 1` of the lines of a labelled data file, with
the statistics table it writes; a label past the last class is refused. -/
def classWeightsOf (file : String) (lines : List String) (numClasses : Int) :
    Result (List Data × String) := do
  let labels ← lines.mapM (lineLabel file)
  let s ← summarize (labels.map Data.int)
  if (s.greatestLabel.int?.getD 0) ≥ numClasses then
    throw (.value s!"Found an invalid label in {file}! Labels should be from [0, num_classes-1].")
  let ws ← freqWeights (s.counts.map fun (k, v) => (k, Scalar.int v))
  pure (fillWeights ws (numClasses - 1), statsTable s.total s.counts)

/-- The numbering of a label set: the padding label first, then every other label seen, in
sorted order. -/
def numberSorted (pad : String) (seen : List String) : List (String × Nat) :=
  let others := seen.filter (· != pad)
  let sorted := (others.foldl (fun acc l => if acc.contains l then acc else acc ++ [l]) []).mergeSort
    fun a b => decide (a ≤ b)
  (pad, 0) :: sorted.zipIdx.map fun (l, i) => (l, i + 1)

/-- The numbering of the labels of a tagged training file: `numberSorted` over the labels seen
and the characters of the padding label. -/
def numberLabels (pad : String) (seen : List String) : List (String × Nat) :=
  numberSorted pad (pad.toList.map String.singleton ++ seen)

end Conversa.Labels
