import Conversa.Numeric.Scalar
import Conversa.Text.Space
import Conversa.Text.Unicode

/-!
# Normalization corpora

A normalization corpus pairs each written token with its spoken form under a semiotic category;
`EOS` ends a sentence.  `Instance.readCorpus` reads one token a line in three tab-separated
columns, lower-casing both forms (`<self>` and `sil` stand for trivial spoken forms, `PLAIN` is
spoken as written, `PUNCT` dropped).  A corpus is cut into sentences (`sentences`), grouped by
category (`byCategory`), and scored against predictions (`score`).
-/

namespace Conversa.Normalization

/-- One token of a corpus. -/
structure Instance where
  category : String
  written : String
  spoken : String
deriving Inhabited, Repr, DecidableEq

def endCategory : String := "EOS"

namespace Instance

def sentenceEnd : Instance := ⟨endCategory, "", ""⟩

/-- The instance as a record is written: `Instance(token_type='…', un_normalized='…',
normalized='…')`. -/
def display (i : Instance) : String :=
  s!"Instance(token_type={Text.quote i.category}, un_normalized={Text.quote i.written}, normalized={Text.quote i.spoken})"

end Instance

/-- The lines of a file read as text: line feeds, carriage returns and the pair of both each
end a line, and a last line without an end counts too. -/
def textLines (s : String) : List String :=
  let rec go : List Char → List Char → List String
    | [], acc => if acc.isEmpty then [] else [String.ofList acc.reverse]
    | '\r' :: '\n' :: r, acc => String.ofList acc.reverse :: go r []
    | '\r' :: r, acc => String.ofList acc.reverse :: go r []
    | '\n' :: r, acc => String.ofList acc.reverse :: go r []
    | c :: r, acc => go r (c :: acc)
  go s.toList []

/-- The failure of taking three columns from a line that has another number. -/
def columnsFailure (n : Nat) : Failure :=
  if n < 3 then .value s!"not enough values to unpack (expected 3, got {n})"
  else .value "too many values to unpack (expected 3)"

/-- The instance a corpus line holds, if it is kept. -/
def readLine (line : String) : Result (Option Instance) :=
  let cols := (Text.strip line).splitOn "\t"
  if cols.head? == some "<eos>" then .ok (some Instance.sentenceEnd)
  else match cols with
    | [category, written, spoken] =>
      let written := Text.lower written
      if category == "PLAIN" then .ok (some ⟨category, written, written⟩)
      else if category == "PUNCT" then .ok none
      else .ok (some ⟨category, written, Text.lower spoken⟩)
    | _ => .error (columnsFailure cols.length)

def Instance.readCorpus (s : String) : Result (List Instance) := do
  let kept ← (textLines s).mapM readLine
  pure kept.reduceOption

def insertSorted (x : String) : List String → List String
  | [] => [x]
  | y :: ys => if x == y then y :: ys else if x < y then x :: y :: ys else y :: insertSorted x ys

/-- A sentence: its written and spoken text, and the sorted categories of its tokens. -/
structure Sentence where
  written : String
  spoken : String
  /-- The categories of its tokens, sorted, each once. -/
  categories : List String
deriving Inhabited, Repr

/-- The sentences of a corpus: the runs of tokens each followed by a sentence end. -/
def sentences (corpus : List Instance) : List Sentence :=
  let close (run : List Instance) : Sentence :=
    ⟨" ".intercalate (run.map (·.written)), " ".intercalate (run.map (·.spoken)),
      run.foldl (fun cs i => insertSorted i.category cs) []⟩
  let rec go : List Instance → List Instance → List Sentence
    | [], _ => []
    | i :: is, run =>
      if i.category == endCategory then close run.reverse :: go is []
      else go is (i :: run)
  go corpus []

/-- The tokens of a category: their written and spoken forms, in corpus order. -/
structure CategoryTokens where
  category : String
  written : List String
  spoken : List String
deriving Inhabited, Repr

/-- The tokens of a corpus grouped by category, categories in order of first appearance;
sentence ends are left out, and so is every other category when one is asked for. -/
def byCategory (corpus : List Instance) (only : Option String) : List CategoryTokens :=
  corpus.foldl (fun groups i =>
    if i.category == endCategory || (only.isSome && only != some i.category) then groups
    else if groups.any (·.category == i.category) then
      groups.map fun g =>
        if g.category == i.category then ⟨g.category, g.written ++ [i.written], g.spoken ++ [i.spoken]⟩
        else g
    else groups ++ [⟨i.category, [i.written], [i.spoken]⟩]) []

def cleanGeneric (s : String) : String := Text.lower (Text.strip s)

/-- A scoring of predictions: the share that match, and a report of each mismatch. -/
structure Score where
  accuracy : Numeric.Scalar
  report : String
deriving Inhabited

/-- Scores predictions against labels, position by position; a mismatch reports the input
(when `input` gives one, written by `quote`), the label and the prediction as JSON texts.  There must be a label
for each prediction, and at least one prediction. -/
def score {α : Type} (quote : α → String) (preds labels : List String) (input : Option (Nat → Result α)) :
    Result Score := do
  let (hits, report) ← (List.range preds.length).foldlM (fun (acc : Nat × String) i => do
    let (hits, report) := acc
    let pred := cleanGeneric (preds.getD i "")
    let some label := labels[i]? | throw .listIndex
    let label := cleanGeneric label
    if pred == label then pure (hits + 1, report)
    else
      let shown ← match input with
        | some inputAt => do pure ("inpu: " ++ quote (← inputAt i) ++ "\n")
        | none => pure ""
      pure (hits, report ++ shown ++ "gold: " ++ Text.jsonQuote label ++ "\npred: " ++
        Text.jsonQuote pred ++ "\n")) (0, "")
  match Numeric.Scalar.truediv (.int hits) (.int preds.length) with
  | .ok a => pure ⟨a, report⟩
  | .error e => throw e.toFailure

end Conversa.Normalization
