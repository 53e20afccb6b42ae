import Conversa.Comprehension.Features
import Conversa.Comprehension.Answer
import Conversa.Comprehension.Evaluation
import Conversa.Data.Arith
import Conversa.Numeric.Summation

/-!
# Answers from logits

The best `n` starts and ends of each input are paired when both are passage tokens, the start
has its most context there, the end does not precede it and the span is not too long.  Spans are
ranked by their summed logits, the first `n` distinct texts being the n best with softmax
probabilities; the null answer wins when its score beats the best by more than a threshold.
Known answers give exact match and F1, the best over the answers.
-/

namespace Conversa.Comprehension

open Numeric

/-- The settings of choosing answers. -/
structure AnswerChoice where
  nBest : Nat
  maxAnswerLength : Int
  withNoAnswer : Bool
  /-- How far the null score may exceed the best answer's before the null answer is taken. -/
  nullThreshold : Data

/-- A span of one input with its logits. -/
structure Span where
  feature : Nat
  start : Nat
  stop : Nat
  startLogit : Data
  endLogit : Data

/-- An answer of the n best, with its logits. -/
structure Ranked where
  text : String
  startLogit : Data
  endLogit : Data

def Ranked.placeholder : Ranked := ⟨"empty", .float 0.0, .float 0.0⟩

def asDouble (d : Data) : Float := ((d.scalar?.map fun s => (Scalar.toDouble s).toOption).join).getD 0.0

/-- The positions of the `n` highest logits, highest first, the earlier of equal ones first. -/
def bestIndexes (logits : List Data) (n : Nat) : List Nat :=
  ((logits.zipIdx.map fun (d, i) => (i, asDouble d)).mergeSort fun a b => b.2 ≤ a.2).take n |>.map (·.1)

/-- The position of an input's number among the numbers given with the logits: the last one
listed. -/
def positionOf (ids : List Data) (uid : Nat) : Result Nat :=
  match (ids.zipIdx.filter fun (d, _) => d.same (.int uid)).getLast? with
  | some (_, i) => .ok i
  | none => .error (.key (toString uid))

def logitsAt (rows : Data) (pos : Nat) : Result (List Data) := do
  pure (← rows.item pos).items

def featureSpans (choice : AnswerChoice) (index : Nat) (f : Feature) (starts ends : List Data) : List Span :=
  let firsts := bestIndexes starts choice.nBest
  let lasts := bestIndexes ends choice.nBest
  firsts.flatMap fun s => lasts.filterMap fun e =>
    if s ≥ f.tokens.length || e ≥ f.tokens.length then none
    else if !(f.tokenToWord.any (·.1 == s)) || !(f.tokenToWord.any (·.1 == e)) then none
    else if !((f.maxContext.find? (·.1 == s)).map (·.2)).getD false then none
    else if e < s then none
    else if ((e - s + 1 : Nat) : Int) > choice.maxAnswerLength then none
    else some ⟨index, s, e, starts.getD s .null, ends.getD e .null⟩

/-- The null answer as it stands so far: its score, input and logits. -/
structure NullAnswer where
  score : Data := .int 1000000
  feature : Nat := 0
  startLogit : Data := .int 0
  endLogit : Data := .int 0

def questionSpans (choice : AnswerChoice) (ids starts ends : Data) (fs : List Feature) :
    Result (List Span × NullAnswer) :=
  fs.zipIdx.foldlM (fun (acc : List Span × NullAnswer) (f, i) => do
    let pos ← positionOf ids.items f.uniqueId
    let s ← logitsAt starts pos
    let e ← logitsAt ends pos
    let null ← if choice.withNoAnswer then do
        let first ← (Data.list s).item 0
        let last ← (Data.list e).item 0
        let score ← Data.plus first last
        if ← Data.lessThan score acc.2.score then pure { score, feature := i, startLogit := first, endLogit := last }
        else pure acc.2
      else pure acc.2
    pure (acc.1 ++ featureSpans choice i f s e, null)) ([], {})

def textMappingFailure : Failure := (.unavailable "transformers")

def nBest (choice : AnswerChoice) (fs : List Feature) (spans : List Span) (null : NullAnswer) :
    Result (List Ranked) := do
  let ranked := spans.mergeSort fun a b => asDouble (plusD a) ≥ asDouble (plusD b)
  let picked ← ranked.foldlM (fun (acc : List Ranked × Bool) sp => do
    if acc.1.length ≥ choice.nBest then return acc
    let _ ← (Data.list (fs.map fun _ => Data.null)).item sp.feature
    if sp.start > 0 then throw textMappingFailure
    pure (acc.1 ++ [⟨"", sp.startLogit, sp.endLogit⟩], true)) ([], false)
  let (found, nullSeen) := picked
  let found := if choice.withNoAnswer && !nullSeen then found ++ [⟨"", null.startLogit, null.endLogit⟩]
    else found
  let found := if choice.withNoAnswer && found.length == 1 then Ranked.placeholder :: found else found
  pure (if found.isEmpty then [Ranked.placeholder] else found)
where
  /-- The sum of a span's logits, or nothing when they are no numbers. -/
  plusD (sp : Span) : Data := (Data.plus sp.startLogit sp.endLogit).toOption.getD .null

/-- A logit as the n-best listing writes it: a double as it is; anything else is read as a
sequence, which a whole number is not. -/
def logitData (d : Data) : Result Data :=
  match d with
  | .float _ => .ok d
  | .list _ => .ok d
  | .str s => .ok (.list (s.toList.map fun c => .str (String.singleton c)))
  | .dict kvs => .ok (.list (kvs.map fun (k, _) => .str k))
  | other => .error (.type s!"'{other.kindName}' object is not iterable")

def idKey (d : Data) : String :=
  match d with
  | .str s => s
  | other => other.show

/-- The answers chosen for the questions: the answer of each, its n best, and its null score
margin when unanswerable questions are allowed.  Questions beyond the number of given inputs are
not answered. -/
def predictions (choice : AnswerChoice) (qs : List Question) (fs : List Feature) (ids starts ends : Data) :
    Result (Data × Data × Data) := do
  let answered := qs.zipIdx.take ids.items.length
  answered.foldlM (fun (acc : Data × Data × Data) (q, i) => do
    let (chosen, listed, margins) := acc
    let own := fs.filter (·.exampleIndex == i)
    let (spans, null) ← questionSpans choice ids starts ends own
    let spans := if choice.withNoAnswer then spans ++ [⟨null.feature, 0, 0, null.startLogit, null.endLogit⟩]
      else spans
    let best ← nBest choice own spans null
    let totals ← best.mapM fun r => Data.plus r.startLogit r.endLogit
    let probs := softmax (totals.map asDouble)
    let entries ← (best.zip probs).mapM fun (r, p) => do
      pure (Data.dict [("question", q.text), ("text", .str r.text), ("probability", .float p),
        ("start_logit", ← logitData r.startLogit), ("end_logit", ← logitData r.endLogit)])
    let key := idKey q.id
    if !choice.withNoAnswer then
      let first := (best.head?.map (·.text)).getD ""
      pure (chosen.set key (.str first), listed.set key (.list entries), margins)
    else
      let some top := best.find? (·.text != "")
        | throw ⟨"AttributeError", "'NoneType' object has no attribute 'start_logit'"⟩
      let margin ← Data.minus (← Data.minus null.score top.startLogit) top.endLogit
      let dominated ← Data.greaterThan margin choice.nullThreshold
      pure (chosen.set key (.str (if dominated then "" else top.text)), listed.set key (.list entries),
        margins.set key margin)) (.dict [], .dict [], .dict [])

/-- The texts of a question's known answers that have words left after normalising; the empty
text when none has. -/
def goldAnswers (q : Question) : Result (List Data) := do
  let kept ← q.answers.items.filterMapM fun a => do
    let t ← a.key "text"
    match t with
    | .str s => pure (if (normalize s).isEmpty then none else some t)
    | other => throw ⟨"AttributeError", s!"'{other.kindName}' object has no attribute 'lower'"⟩
  pure (if kept.isEmpty then [.str ""] else kept)

def answerText (d : Data) : Result String :=
  match d with
  | .str s => .ok s
  | other => .error ⟨"AttributeError", s!"'{other.kindName}' object has no attribute 'lower'"⟩

/-- The words of an answer: none for an empty or absent one. -/
def answerTokens (d : Data) : Result (List String) := do
  if !d.truthy then return []
  pure (answerWords (← answerText d))

def firstHighest (xs : List Data) : Data :=
  xs.foldl (fun best x => if asDouble x > asDouble best then x else best) (xs.headD .null)

/-- The exact match and F1 score of every answered question, by question identifier. -/
def rawScores (qs : List Question) (preds : Entries) : Result (ScoreTable × ScoreTable) :=
  qs.foldlM (fun (acc : ScoreTable × ScoreTable) q => do
    let gold ← goldAnswers q
    let key ← match q.id with
      | .str s => pure (some s)
      | _ => pure none
    match key.bind fun k => (preds.find? (·.1 == k)).map fun (_, v) => (k, v) with
    | none => pure acc
    | some (k, prediction) =>
      let exacts ← gold.mapM fun a => do
        pure (Data.int (if normalize (← answerText a) == normalize (← answerText prediction) then 1 else 0))
      let f1s ← gold.mapM fun a => do
        match wordOverlap (← answerTokens a) (← answerTokens prediction) with
        | .whole n => pure (Data.int n)
        | .fraction x => pure (Data.float x)
      pure ((Data.dict acc.1).set k (firstHighest exacts) |>.entries,
        (Data.dict acc.2).set k (firstHighest f1s) |>.entries)) ([], [])

/-- The best exact match and F1 scores of predictions over the first questions, one for each
prediction, with no-answer probabilities (all zero when none are given). -/
def evaluatePredictions (qs : List Question) (preds : Entries) (naProbs : Option ScoreTable)
    (threshold : Float) : Result (Data × Data) := do
  let hasAnswer : ScoreTable := ((qs.take preds.length).foldl (fun (acc : Data) q =>
    acc.set (idKey q.id) (.bool q.answers.truthy)) (.dict [])).entries
  let withAnswer := hasAnswer.filter (·.2.truthy) |>.map (·.1)
  let withoutAnswer := hasAnswer.filter (!·.2.truthy) |>.map (·.1)
  let probs := naProbs.getD (preds.map fun (k, _) => (k, .float 0.0))
  let (exact, f1) ← rawScores qs preds
  let exactUsed ← thresholdScores exact probs hasAnswer threshold
  let f1Used ← thresholdScores f1 probs hasAnswer threshold
  let _ ← summary exactUsed f1Used []
  if !withAnswer.isEmpty then
    let _ ← summary exactUsed f1Used withAnswer
  if !withoutAnswer.isEmpty then
    let _ ← summary exactUsed f1Used withoutAnswer
  if probs.isEmpty then throw (.key "'best_exact'")
  let report ← bestThresholds preds exact f1 probs hasAnswer
  pure (((report.find? (·.1 == "best_exact")).map (·.2)).getD .null,
    ((report.find? (·.1 == "best_f1")).map (·.2)).getD .null)

end Conversa.Comprehension
