import Conversa.Data.Access

/-!
# Scoring answers over a question set

Answers are scored question by question (exact match and F1 per id); a question whose
no-answer probability exceeds a threshold scores 1 when it has no answer and 0 otherwise.  The
report gives the mean scores in percent over all or chosen questions.  The best threshold is
found by walking the questions in order of no-answer probability, each step counting one more
question's score (or a point lost); the first threshold reaching the highest total wins.
-/

namespace Conversa.Comprehension

abbrev ScoreTable := Entries

/-- The value of a question in a table; a missing question is a missing key. -/
def ScoreTable.lookup (t : ScoreTable) (q : String) : Result Data :=
  match t.find? (·.1 == q) with
  | some (_, v) => .ok v
  | none => .error (.key (Text.quote q))

/-- A score as a number; a truth value counts as one or zero. -/
def scoreNumber (d : Data) : Result Float :=
  match d with
  | .bool b => .ok (if b then 1.0 else 0.0)
  | other =>
    match other.num? with
    | some x => .ok x
    | none => .error (.type s!"unsupported operand type(s) for +: 'float' and '{other.kindName}'")

/-- The sum of scores, from zero, left to right. -/
def scoreSum (xs : List Data) : Result Float :=
  xs.foldlM (fun acc d => do pure (acc + (← scoreNumber d))) 0.0

/-- A share of a total in percent; an empty total is a division by zero. -/
def percentOf (sum : Float) (total : Nat) : Result Float :=
  if total == 0 then .error ⟨"ZeroDivisionError", "float division by zero"⟩
  else .ok (100.0 * sum / total.toFloat)

/-- Scores with the questions above the no-answer threshold set to whether they have no answer. -/
def thresholdScores (scores naProbs hasAnswer : ScoreTable) (threshold : Float) : Result ScoreTable :=
  scores.mapM fun (q, s) => do
    let p ← scoreNumber (← naProbs.lookup q)
    if p > threshold then
      pure (q, .float (if (← hasAnswer.lookup q).truthy then 0.0 else 1.0))
    else pure (q, s)

/-- The report of exact match and F1 scores: over all questions, or over the chosen ones when
some are chosen. -/
def summary (exact f1 : ScoreTable) (chosen : List String) : Result (Entries) := do
  if chosen.isEmpty then
    let total := exact.length
    let e ← percentOf (← scoreSum (exact.map (·.2))) total
    let f ← percentOf (← scoreSum (f1.map (·.2))) total
    pure [("exact", .float e), ("f1", .float f), ("total", .int total)]
  else
    let total := chosen.length
    let e ← percentOf (← scoreSum (← chosen.mapM exact.lookup)) total
    let f ← percentOf (← scoreSum (← chosen.mapM f1.lookup)) total
    pure [("exact", .float e), ("f1", .float f), ("total", .int total)]

def prefixed (pre : String) (report : Entries) : Entries :=
  report.map fun (k, v) => (s!"{pre}_{k}", v)

/-- The best no-answer threshold for a score, and the score in percent it reaches. -/
def bestThreshold (predictions scores naProbs hasAnswer : ScoreTable) : Result (Float × Data) := do
  let unanswerable := (hasAnswer.filter fun (_, v) => !v.truthy).length.toFloat
  let probs ← naProbs.mapM fun (q, p) => do pure (q, p, ← scoreNumber p)
  let ordered := probs.mergeSort fun a b => a.2.2 ≤ b.2.2
  let (_, best, mark) ← ordered.foldlM (fun (acc : Float × Float × Data) (q, p, _) => do
    let (current, best, mark) := acc
    if !scores.any (·.1 == q) then return acc
    let diff ← if (← hasAnswer.lookup q).truthy then scoreNumber (← scores.lookup q)
      else pure (if (← predictions.lookup q).truthy then -1.0 else 0.0)
    let current := current + diff
    pure (if current > best then (current, current, p) else (current, best, mark)))
    (unanswerable, unanswerable, .float 0.0)
  pure (← percentOf best scores.length, mark)

/-- The best thresholds of the exact match and F1 scores, as report entries. -/
def bestThresholds (predictions exact f1 naProbs hasAnswer : ScoreTable) : Result (Entries) := do
  let (bestExact, exactAt) ← bestThreshold predictions exact naProbs hasAnswer
  let (bestF1, f1At) ← bestThreshold predictions f1 naProbs hasAnswer
  pure [("best_exact", .float bestExact), ("best_exact_thresh", exactAt),
    ("best_f1", .float bestF1), ("best_f1_thresh", f1At)]

end Conversa.Comprehension
