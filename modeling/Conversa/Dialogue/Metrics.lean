import Conversa.Data.Access
import Conversa.Numeric.Summation
import Conversa.Text.Slice

/-!
# Dialogue state tracking metrics of one frame

A frame is what a turn says about one service: value spans and the dialogue state.  A predicted
frame is scored against the reference by active intent accuracy, requested-slot and slot-tagging
F1 with multiplicity (tagging absent without predicted spans), and goal accuracies averaged over
the slots the reference fills or multiplied over all, split by slot kind and by status and
value.  An empty average or product is `NA`.
-/

namespace Conversa.Dialogue

open Numeric

/-- Precision, recall and their harmonic mean. -/
structure F1Scores where
  /-- The harmonic mean of precision and recall, 0 when both are 0. -/
  f1 : Float
  /-- The share of predicted elements that are right; 1 when nothing is predicted. -/
  precision : Float
  /-- The share of reference elements that are predicted; 1 when there are none. -/
  sensitivity : Float
deriving Inhabited

def occurrences (xs : List Data) (x : Data) : Nat := (xs.filter (Data.same · x)).length

def distinctValues (xs : List Data) : List Data :=
  xs.foldl (fun acc x => if acc.any (Data.same · x) then acc else acc ++ [x]) []

/-- The F1 scores of a predicted collection against a reference one, counted with multiplicity. -/
def f1Scores (ref hyp : List Data) : F1Scores :=
  let truePositive := ((distinctValues ref).map fun x => min (occurrences ref x) (occurrences hyp x)).foldl (· + ·) 0
  let precision := if hyp.isEmpty then 1.0 else Float.ofNat truePositive / Float.ofNat hyp.length
  let sensitivity := if ref.isEmpty then 1.0 else Float.ofNat truePositive / Float.ofNat ref.length
  let f1 := if precision + sensitivity > 0.0 then 2.0 * precision * sensitivity / (precision + sensitivity) else 0.0
  ⟨f1, precision, sensitivity⟩

def F1Scores.toData (s : F1Scores) : Data :=
  .dict [("f1", .float s.f1), ("precision", .float s.precision), ("recall", .float s.sensitivity)]

/-- The elements a collection is counted over: nothing for an absent collection. -/
def countedElements (d : Data) : Result (List Data) :=
  match d with
  | .null => .ok []
  | other => other.elements

/-- The score of a free slot's predicted value: 1 when it equals one of the reference values. -/
def freeValueScore (refs : List Data) (hyp : Data) : Float :=
  refs.foldl (fun score r => max score (if Data.same r hyp then 1.0 else 0.0)) 0.0

/-- A score that may be missing, reported as `NA`. -/
inductive Score where
  | value (x : Float)
  /-- No number: an empty average or product. -/
  | absent
deriving Inhabited

def Score.toData : Score → Data
  | .value x => .float x
  | .absent => .str "NA"

/-- The mean of the scores, if there are any. -/
def meanScore (xs : List Float) : Score := if xs.isEmpty then .absent else .value (arrayMean xs)

/-- The product of the scores, if there are any. -/
def productScore (xs : List Float) : Score := if xs.isEmpty then .absent else .value (arrayProduct xs)

/-- The comparison of the slot values of two states, one entry per slot of the service. -/
structure SlotComparison where
  /-- Whether each slot is right: present in neither, or present in both with a matching value. -/
  correct : List Float
  active : List Bool
  /-- The categorical flag of each slot, as written. -/
  categorical : List Data
  status : List Float
  /-- Whether each slot's value is right, `-1` when the slot is not filled in both. -/
  value : List Float
deriving Inhabited

def SlotComparison.toData (c : SlotComparison) : Data :=
  .list [.list (c.correct.map .float), .list (c.active.map .bool), .list c.categorical,
    .list (c.status.map .float), .list (c.value.map .float)]

def compareSlot (ref hyp : Data) (slot : Data) (c : SlotComparison) : Result SlotComparison := do
  let name ← slot.key "name"
  let cat ← slot.key "is_categorical"
  if ← ref.holds name then
    if ← hyp.holds name then
      let refValues ← ref.key name.text
      let hypValue ← (← hyp.key name.text).item 0
      let cor ← if cat.truthy then (do pure (if Data.same (← refValues.item 0) hypValue then 1.0 else 0.0))
        else (do pure (freeValueScore (← refValues.elements) hypValue))
      pure ⟨c.correct ++ [cor], c.active ++ [true], c.categorical ++ [cat], c.status ++ [1.0], c.value ++ [cor]⟩
    else pure ⟨c.correct ++ [0.0], c.active ++ [true], c.categorical ++ [cat], c.status ++ [0.0], c.value ++ [-1.0]⟩
  else
    let present ← hyp.holds name
    let s := if present then 0.0 else 1.0
    pure ⟨c.correct ++ [s], c.active ++ [false], c.categorical ++ [cat], c.status ++ [s], c.value ++ [-1.0]⟩

def compareSlotValues (ref hyp service : Data) : Result SlotComparison := do
  (← (← service.key "slots").elements).foldlM (fun c slot => compareSlot ref hyp slot c) ⟨[], [], [], [], []⟩

/-- The names of the goal accuracies, in the order they are reported. -/
def goalNames : List String :=
  ["average_goal_accuracy", "average_cat_accuracy", "average_noncat_accuracy", "joint_goal_accuracy",
   "joint_cat_accuracy", "joint_noncat_accuracy", "average_cat_status_accuracy",
   "joint_cat_status_accuracy", "average_noncat_status_accuracy", "joint_noncat_status_accuracy",
   "average_cat_value_accuracy", "joint_cat_value_accuracy", "average_noncat_value_accuracy",
   "joint_noncat_value_accuracy"]

/-- The goal accuracies of a slot comparison, in the order of `goalNames`. -/
def goalScores (c : SlotComparison) : List Score :=
  let rows := (c.correct.zip (c.active.zip (c.categorical.map Data.truthy))).zip (c.status.zip c.value)
  let pick (f : Float × Float × Float → Float) (keep : Bool → Bool → Float → Bool) : List Float :=
    (rows.filter fun ((a, act, cat), (s, v)) => keep act cat (f (a, s, v))).map fun ((a, _, _), (s, v)) => f (a, s, v)
  let acc : Float × Float × Float → Float := (·.1)
  let status : Float × Float × Float → Float := (·.2.1)
  let value : Float × Float × Float → Float := (·.2.2)
  [meanScore (pick acc fun act _ _ => act),
   meanScore (pick acc fun act cat _ => act && cat),
   meanScore (pick acc fun act cat _ => act && !cat),
   productScore (pick acc fun _ _ _ => true),
   productScore (pick acc fun _ cat _ => cat),
   productScore (pick acc fun _ cat _ => !cat),
   meanScore (pick status fun act cat _ => cat && act),
   productScore (pick status fun _ cat _ => cat),
   meanScore (pick status fun act cat _ => !cat && act),
   productScore (pick status fun _ cat _ => !cat),
   meanScore (pick value fun act cat v => cat && v > -0.5 && act),
   productScore (pick value fun _ cat v => cat && v > -0.5),
   meanScore (pick value fun act cat v => !cat && v > -0.5 && act),
   productScore (pick value fun _ cat v => !cat && v > -0.5)]

def goalAccuracies (frameRef frameHyp service : Data) : Result (List (String × Score)) := do
  let ref ← (← frameRef.key "state").key "slot_values"
  let hyp ← (← frameHyp.key "state").key "slot_values"
  pure (goalNames.zip (goalScores (← compareSlotValues ref hyp service)))

def intentAccuracy (frameRef frameHyp : Data) : Result Float := do
  let a ← (← frameRef.key "state").key "active_intent"
  let b ← (← frameHyp.key "state").key "active_intent"
  pure (if Data.same a b then 1.0 else 0.0)

def requestedScores (frameRef frameHyp : Data) : Result F1Scores := do
  let a ← countedElements (← (← frameRef.key "state").key "requested_slots")
  let b ← countedElements (← (← frameHyp.key "state").key "requested_slots")
  pure (f1Scores a b)

/-- A position of a slice bound: absent means the end it stands for. -/
def sliceBound (d : Data) (absent : Int) : Result Int :=
  match d with
  | .int n => .ok n
  | .bool b => .ok (if b then 1 else 0)
  | .null => .ok absent
  | _ => .error (.type "slice indices must be integers or None or have an __index__ method")

def spanText (utterance : Data) (span : Data) : Result Data := do
  match utterance with
  | .str u =>
    let a ← sliceBound (← span.key "start") 0
    let b ← sliceBound (← span.key "exclusive_end") u.length
    pure (.str (Text.slice u a b))
  | other => throw (Data.notSubscriptable other)

/-- The (slot, text) pairs of a frame's spans of the given slots. -/
def spanPairs (frame : Data) (utterance : Data) (slots : List Data) : Result (List Data) := do
  (← (← frame.key "slots").elements).filterMapM fun span => do
    let slot ← span.key "slot"
    if slots.any (Data.same · slot) then pure (some (.list [slot, ← spanText utterance span]))
    else pure none

/-- The slot tagging F1 scores of a predicted frame: the spans of the service's free slots, or
nothing when the prediction has no spans. -/
def taggingScores (frameRef frameHyp : Data) (utterance : Data) (service : Data) :
    Result (Option F1Scores) := do
  let free ← (← (← service.key "slots").elements).filterMapM fun s => do
    if (← s.key "is_categorical").truthy then pure none else pure (some (← s.key "name"))
  if !(← frameHyp.holds (.str "slots")) then pure none
  else
    let ref ← spanPairs frameRef utterance free
    let hyp ← spanPairs frameHyp utterance free
    pure (some (f1Scores ref hyp))

/-- All metrics of a predicted frame, in the order they are reported. -/
def frameMetrics (frameRef frameHyp : Data) (utterance : Data) (service : Data) :
    Result (List (String × Score)) := do
  let intent ← intentAccuracy frameRef frameHyp
  let tagging ← taggingScores frameRef frameHyp utterance service
  let requested ← requestedScores frameRef frameHyp
  let goal ← goalAccuracies frameRef frameHyp service
  let taggingEntries := match tagging with
    | some t => [("slot_tagging_f1", Score.value t.f1), ("slot_tagging_precision", .value t.precision),
        ("slot_tagging_recall", .value t.sensitivity)]
    | none => []
  pure ([("active_intent_accuracy", .value intent), ("requested_slots_f1", .value requested.f1),
    ("requested_slots_precision", .value requested.precision), ("requested_slots_recall", .value requested.sensitivity)]
    ++ taggingEntries ++ goal)

end Conversa.Dialogue
