import Conversa.Dialogue.Examples

/-!
# Dialogue states from model predictions

Writing predicted dialogues replaces each user frame's state: the best-scored intent (the first of
equal scores), the slots requested above one half, a categorical slot's best-scored value, and a
free slot's text between the characters of its predicted first and last tokens (or, for a
tracker remembering offers, the system's last value).  Slot values persist over the turns.
-/

namespace Conversa.Dialogue

/-- The outputs of one service in one turn: by task, by item, by value, in order of arrival. -/
abbrev TurnOutputs := List (Int × List (Int × List (Int × Data)))

abbrev PredictionIndex := List ((String × String × String) × TurnOutputs)

/-- A nested entry of outputs set, keeping the place of an entry that is already there. -/
def putOutput {α : Type} (kvs : List (Int × α)) (k : Int) (f : Option α → α) : List (Int × α) :=
  match kvs.find? (·.1 == k) with
  | some (_, v) => kvs.map fun (k', v') => if k' == k then (k', f (some v)) else (k', v')
  | none => kvs ++ [(k, f none)]

def indexPredictions (preds : List Data) : Result PredictionIndex := do
  let index ← preds.foldlM (fun (acc : PredictionIndex) p => do
    let id ← (← p.key "example_id").asText "example_id"
    let parts ← splitExactly id '-' 7
    let part (i : Nat) : String := (parts[i]?).getD ""
    let task ← nameNumber (part 4)
    let item ← nameNumber (part 5)
    let value ← nameNumber (part 6)
    let key := (part 1, part 2, part 3)
    let update (o : Option TurnOutputs) : TurnOutputs :=
      putOutput (o.getD []) task fun items => putOutput (items.getD []) item fun values =>
        putOutput (values.getD []) value fun _ => p
    pure (match acc.find? (·.1 == key) with
      | some (_, o) => acc.map fun (k, v) => if k == key then (k, update (some o)) else (k, v)
      | none => acc ++ [(key, update none)])) []
  if preds.isEmpty then throw ⟨"UnboundLocalError", "cannot access local variable 'idx' where it is not associated with a value"⟩
  pure index

def TurnOutputs.task (o : TurnOutputs) (k : Int) : List (Int × List (Int × Data)) :=
  ((o.find? (·.1 == k)).map (·.2)).getD []

def itemOutput (items : List (Int × List (Int × Data))) (i : Int) : Result Data :=
  match ((items.find? (·.1 == i)).map (·.2)).getD [] |>.find? (·.1 == 0) with
  | some (_, d) => .ok d
  | none => .error (.key "0")

def scoreOf (d : Data) : Result Float :=
  match d.num? with
  | some x => .ok x
  | none => .error (.type s!"'>' not supported between instances of '{d.kindName}' and 'float'")

/-- The key with the highest score, the first of equal ones. -/
def bestKey (scored : List (Int × Float)) : Result Int :=
  match scored with
  | [] => .error (.value "max() arg is an empty sequence")
  | (k, s) :: rest => .ok (rest.foldl (fun (best : Int × Float) (k', s') => if s' > best.2 then (k', s') else best) (k, s)).1

def predictedIntent (outputs : List (Int × List (Int × Data))) (intents : List String) : Result String := do
  if outputs.length != intents.length then throw (.assertion "")
  let scored ← outputs.mapM fun (k, _) => do pure (k, ← scoreOf (← (← itemOutput outputs k).key "intent_status"))
  ServiceSchema.nth intents (← bestKey scored)

def predictedRequests (outputs : List (Int × List (Int × Data))) (slots : List String) : Result (List String) := do
  let active ← outputs.filterMapM fun (k, _) => do
    let s ← scoreOf (← (← itemOutput outputs k).key "req_slot_status")
    pure (if s > 0.5 then some k else none)
  active.mapM (ServiceSchema.nth slots)

def statusIs (d : Data) (code : Int) : Bool := Data.same d (.int code)

def predictedCategorical (status values : List (Int × List (Int × Data))) (s : ServiceSchema) :
    Result (List (String × String)) :=
  s.categoricalValues.zipIdx.foldlM (fun acc ((slot, vs), i) => do
    let st ← (← itemOutput status i).key "cat_slot_status"
    if statusIs st 2 then pure (putEntry acc slot "dontcare")
    else if statusIs st 1 then
      let tmp := ((values.find? (·.1 == Int.ofNat i)).map (·.2)).getD []
      let scored ← tmp.mapM fun (k, d) => do
        let v ← d.key "cat_slot_value_status"
        let v ← match v with
          | .list _ => v.item 0
          | other => pure other
        pure (k, ← scoreOf v)
      pure (putEntry acc slot (← ServiceSchema.nth vs (← bestKey scored)))
    else pure acc) []

def predictedFree (status values : List (Int × List (Int × Data))) (slots : List String) (utterance : String)
    (offered : Option (Entries)) : Result (Entries) :=
  slots.zipIdx.foldlM (fun acc (slot, i) => do
    let st ← (← itemOutput status i).key "noncat_slot_status"
    if statusIs st 2 then pure (putEntry acc slot (.str "dontcare"))
    else if statusIs st 1 then
      let v ← itemOutput values i
      let tokStart ← Data.asIndex (← v.key "noncat_slot_start")
      let tokEnd ← Data.asIndex (← v.key "noncat_slot_end")
      let chStart ← Data.asIndex (← (← v.key "noncat_alignment_start").item tokStart)
      let chEnd ← Data.asIndex (← (← v.key "noncat_alignment_end").item tokEnd)
      if chStart > 0 && chEnd > 0 then pure (putEntry acc slot (.str (Text.slice utterance (chStart - 1) chEnd)))
      else match offered with
        | some o =>
          match o.find? (·.1 == slot) with
          | some (_, value) => pure (putEntry acc slot value)
          | none => pure acc
        | none => pure acc
    else pure acc) []

/-- How the values the system offered are remembered: not at all, or per service. -/
inductive Tracker where
  | baseline
  /-- The last value the system gave each slot counts when the utterances have none. -/
  | remembering
deriving DecidableEq, Inhabited

def predictedDialogue (dialog : Data) (index : PredictionIndex) (schemas : Schema) (tracker : Tracker) :
    Result Data := do
  let dialogId := (← dialog.key "dialogue_id").text
  let turns ← (← dialog.key "turns").elements
  let (turns, _, _) ← turns.zipIdx.foldlM (fun (acc : List Data × List (String × Entries) × List (String × Entries)) (turn, i) => do
    let (done, offered, values) := acc
    let speaker ← turn.key "speaker"
    let offered ← if Data.same speaker (.str "SYSTEM") && tracker == .remembering then
        (← (← turn.key "frames").elements).foldlM (fun offered frame => do
          let service := (← frame.key "service").text
          let offered := if offered.any (·.1 == service) then offered else offered ++ [(service, [])]
          (← (← frame.key "actions").elements).foldlM (fun offered action => do
            let slot ← action.key "slot"
            let vs ← (← action.key "values").elements
            if slot.truthy && !vs.isEmpty then
              pure (offered.map fun (k, m) => if k == service then (k, putEntry m slot.text ((vs[0]?).getD .null)) else (k, m))
            else pure offered) offered) offered
      else pure offered
    if !Data.same speaker (.str "USER") then return (done ++ [turn], offered, values)
    let userText ← (← turn.key "utterance").asText "utterance"
    let systemText ← if i > 0 then (do (← ((turns[i - 1]?).getD .null).key "utterance").asText "utterance") else pure ""
    let utterance := systemText ++ " " ++ userText
    let turnId := if i < 10 then s!"0{i}" else toString i
    let (frames, values) ← (← (← turn.key "frames").elements).foldlM (fun (acc : List Data × List (String × Entries)) frame => do
      let (frames, values) := acc
      let service := (← frame.key "service").text
      let outputs : TurnOutputs := ((index.find? (·.1 == (dialogId, turnId, service))).map (·.2)).getD []
      let known : Entries := ((values.find? (·.1 == service)).map (·.2)).getD []
      let schema ← schemas.service service
      let frame := (frame.erase "slots").erase "state"
      let intent ← predictedIntent (outputs.task 0) schema.intents
      let requested ← predictedRequests (outputs.task 1) schema.slots
      let cat ← predictedCategorical (outputs.task 2) (outputs.task 3) schema
      let known := cat.foldl (fun m (k, v) => putEntry m k (.str v)) known
      let offeredHere : Option (Entries) := match tracker with
        | .remembering => some (((offered.find? (·.1 == service)).map (·.2)).getD [])
        | .baseline => none
      let free ← predictedFree (outputs.task 4) (outputs.task 5) schema.nonCategoricalSlots utterance
        (offeredHere.bind fun o => if o.isEmpty then none else some o)
      let known := free.foldl (fun m (k, v) => putEntry m k v) known
      let state := Data.dict [("active_intent", .str intent), ("requested_slots", Data.strs requested),
        ("slot_values", .dict (known.map fun (k, v) => (k, .list [v])))]
      let values := putEntry values service known
      pure (frames ++ [frame.set "state" state], values)) ([], values)
    pure (done ++ [turn.set "frames" (.list frames)], offered, values)) ([], [], [])
  pure (dialog.set "turns" (.list turns))

end Conversa.Dialogue
