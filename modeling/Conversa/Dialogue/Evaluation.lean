import Conversa.Dialogue.Metrics
import Conversa.Numeric.Printf

/-!
# Dialogue state tracking metrics of a corpus

Predictions are scored frame by frame against the reference dialogues of the same ids, turn by
turn; only user turns count, and every reference frame needs a predicted one.  A frame's metrics
go under its keys (`frameKeys`: all, service, domain, seen or unseen), reported as means in
percent; a turn's joint accuracies are first multiplied into one value a key.
-/

namespace Conversa.Dialogue

open Numeric

def allServices : String := "#ALL_SERVICES"

def seenServices : String := "#SEEN_SERVICES"

def unseenServices : String := "#UNSEEN_SERVICES"

def jointMetrics : List String := ["joint_goal_accuracy", "joint_cat_accuracy", "joint_noncat_accuracy"]

/-- Values collected under keys, then under metric names, both in order of first use. -/
abbrev Collection (α : Type) := List (String × List (String × α))

/-- A collection with `f` applied to the entry of a key and a metric, created from `init`. -/
def Collection.update {α : Type} (c : Collection α) (key metric : String) (init : α) (f : α → α) : Collection α :=
  let inner := ((c.find? (·.1 == key)).map (·.2)).getD []
  let old := ((inner.find? (·.1 == metric)).map (·.2)).getD init
  let inner := if inner.any (·.1 == metric) then inner.map fun (m, v) => if m == metric then (m, f old) else (m, v)
    else inner ++ [(metric, f old)]
  if c.any (·.1 == key) then c.map fun (k, v) => if k == key then (k, inner) else (k, v)
  else c ++ [(key, inner)]

/-- The state of scoring a corpus: the collections, the metrics of every frame by frame id. -/
structure Scoring where
  collections : Collection (List Float) := []
  perFrame : List (String × List (String × Score)) := []
deriving Inhabited

def turnNumber (n : Nat) : String :=
  let s := toString n
  String.ofList (List.replicate (3 - s.length) '0') ++ s

def metricsData (m : List (String × Score)) : Data := .dict (m.map fun (k, v) => (k, v.toData))

/-- The position of the last frame of each service in a list of frames. -/
def framesByService (frames : List Data) : Result (List (String × Nat)) :=
  frames.zipIdx.foldlM (fun acc (f, i) => do
    let s ← f.key "service"
    let name := s.text
    pure (if acc.any (·.1 == name) then acc.map fun (k, j) => if k == name then (k, i) else (k, j)
      else acc ++ [(name, i)])) []

def domainOf (service : String) : String := String.ofList (service.toList.takeWhile (· != '_'))

/-- The keys a frame of a service is collected under: all services, the service, its domain,
and whether it was seen in training. -/
def frameKeys (inDomain : List String) (service : String) : List String :=
  [allServices, service, domainOf service, if inDomain.contains service then seenServices else unseenServices]

/-- A frame's metrics added under each of its keys: to the collections, or, for a joint metric
across turns, multiplied into the turn's values. -/
def collectScores (acrossTurn : Bool) (keys : List String) (metrics : List (String × Score))
    (acc : Collection (List Float) × Collection Float) : Collection (List Float) × Collection Float :=
  keys.foldl (fun (cs, pt) key =>
    metrics.foldl (fun (cs, pt) (metric, score) =>
      match score with
      | .absent => (cs, pt)
      | .value v =>
        if acrossTurn && jointMetrics.contains metric then (cs, pt.update key metric 1.0 (· * v))
        else (cs.update key metric [] (· ++ [v]), pt)) (cs, pt)) acc

/-- One reference frame scored: its predicted frame annotated, and its metrics collected. -/
def scoreFrame (schemas : Entries) (inDomain : List String) (acrossTurn : Bool) (dialId : String)
    (turnId : Nat) (utterance : Data) (byService : List (String × Nat))
    (acc : Scoring × Collection Float × List Data) (frameRef : Data) :
    Result (Scoring × Collection Float × List Data) := do
  let (scoring, perTurn, hypFrames) := acc
  let serviceName := (← frameRef.key "service").text
  let some pos := (byService.find? (·.1 == serviceName)).map (·.2)
    | throw (.value s!"Frame for service {serviceName} not found in dialogue with id {dialId}")
  let some service := (schemas.find? (·.1 == serviceName)).map (·.2)
    | throw (.key (Text.quote serviceName))
  let frameHyp := (hypFrames[pos]?).getD .null
  let metrics ← frameMetrics frameRef frameHyp utterance service
  let hypService := (← frameHyp.key "service").text
  let frameId := s!"{dialId}-{turnNumber turnId}-{hypService}"
  let hypFrames := hypFrames.set pos (frameHyp.set "metrics" (metricsData metrics))
  let (collections, perTurn) :=
    collectScores acrossTurn (frameKeys inDomain hypService) metrics (scoring.collections, perTurn)
  pure ({ collections, perFrame := scoring.perFrame ++ [(frameId, metrics)] }, perTurn, hypFrames)

/-- One pair of turns scored; the predicted turn comes back annotated. -/
def scoreTurn (schemas : Entries) (inDomain : List String) (acrossTurn : Bool) (dialId : String)
    (scoring : Scoring) (turnId : Nat) (turnRef turnHyp : Data) : Result (Scoring × Data) := do
  let speaker ← turnRef.key "speaker"
  if !Data.same speaker (← turnHyp.key "speaker") then
    throw (.value s!"Speakers don't match in dialogue with id {dialId}")
  if !Data.same speaker (.str "USER") then return (scoring, turnHyp)
  let utterance ← turnRef.key "utterance"
  if !Data.same utterance (← turnHyp.key "utterance") then
    throw (.value s!"Utterances don't match for dialogue with id {dialId}")
  let hypFrames ← (← turnHyp.key "frames").elements
  let byService ← framesByService hypFrames
  let (scoring, perTurn, hypFrames) ← (← (← turnRef.key "frames").elements).foldlM
    (scoreFrame schemas inDomain acrossTurn dialId turnId utterance byService)
    (scoring, [], hypFrames)
  let collections := if acrossTurn then
      perTurn.foldl (fun cs (key, ms) => ms.foldl (fun cs (metric, v) => cs.update key metric [] (· ++ [v])) cs)
        scoring.collections
    else scoring.collections
  pure ({ scoring with collections }, turnHyp.set "frames" (.list hypFrames))

def sameNames (a b : List Data) : Bool := a.all (fun x => b.any (Data.same x)) && b.all (fun x => a.any (Data.same x))

/-- One predicted dialogue scored; it comes back annotated. -/
def scoreDialogue (schemas : Entries) (inDomain : List String) (acrossTurn : Bool)
    (ref : Entries) (scoring : Scoring) (dialId : String) (dialHyp : Data) :
    Result (Scoring × Data) := do
  let some dialRef := (ref.find? (·.1 == dialId)).map (·.2)
    | throw (.key (Text.quote dialId))
  let refServices ← (← dialRef.key "services").elements
  let hypServices ← (← dialHyp.key "services").elements
  if !sameNames refServices hypServices then
    throw (.value s!"Set of services present in ground truth and predictions don't match for dialogue with id {dialId}")
  let refTurns ← (← dialRef.key "turns").elements
  let hypTurns ← (← dialHyp.key "turns").elements
  let (scoring, turns) ← ((refTurns.zip hypTurns).zipIdx).foldlM (fun (acc : Scoring × List Data) ((tr, th), i) => do
    let (s, t) ← scoreTurn schemas inDomain acrossTurn dialId acc.1 i tr th
    pure (s, acc.2 ++ [t])) (scoring, [])
  pure (scoring, dialHyp.set "turns" (.list (turns ++ hypTurns.drop turns.length)))

/-- The report of a collection: the mean of each metric in percent, to two places. -/
def aggregate (c : Collection (List Float)) : List (String × List (String × Score)) :=
  c.map fun (key, ms) => (key, ms.map fun (metric, vs) =>
    (metric, if vs.isEmpty then .absent else .value (roundPlaces (arrayMean vs * 100.0) 2)))

/-- The result of scoring a corpus: the report per key, the metrics per frame, and the predicted
dialogues annotated with their metrics. -/
structure CorpusScores where
  aggregate : List (String × List (String × Score))
  perFrame : List (String × List (String × Score))
  annotated : Entries
deriving Inhabited

/-- The metrics of predicted dialogues against reference dialogues, both by id. -/
def scoreCorpus (ref hyp : Entries) (schemas : Entries) (inDomain : List String)
    (acrossTurn : Bool) : Result CorpusScores := do
  if !hyp.all (fun (k, _) => ref.any (·.1 == k)) then throw (.assertion "")
  let (scoring, annotated) ← hyp.foldlM (fun (acc : Scoring × Entries) (k, d) => do
    let (s, d) ← scoreDialogue schemas inDomain acrossTurn ref acc.1 k d
    pure (s, acc.2 ++ [(k, d)])) ({}, [])
  pure ⟨aggregate scoring.collections, scoring.perFrame, annotated⟩

end Conversa.Dialogue
