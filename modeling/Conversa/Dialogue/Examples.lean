import Conversa.Dialogue.Schema
import Conversa.Features.Pair
import Conversa.Dialogue.Metrics

/-!
# Training examples of a dialogue state tracker

For every user turn and service, a tracker reads examples pairing a schema description with the
recent utterances: is the intent active (task 0), the slot requested (1), a categorical slot's
status and value (2, 3), a free slot's status and value span (4, 5).  An example encodes the
description and utterance between class and separator tokens, truncated together and padded; a
truncation made for one example holds for the later ones of the turn.
-/

namespace Conversa.Dialogue

open Conversa.Language

def isWordChar (c : Char) : Bool := c.isAlphanum

/-- The words and single other characters of a text, in order; together they are the text. -/
def naivePieces (s : String) : List String :=
  (s.toList.splitBy fun a b => isWordChar a && isWordChar b).map String.ofList

/-- An utterance cut into tokens, with the alignment of tokens and characters. -/
structure Cut where
  tokens : List String
  /-- The token at the first and at the last character of every word, by character position. -/
  alignments : List (Nat × Int)
  /-- The first and last character of the word of every token. -/
  inverse : List (Nat × Nat)
deriving Inhabited

/-- One more piece of an utterance cut into tokens by `split`, at its position: a blank piece only
moves the position on. -/
def cutPiece (split : String → Result (List String)) (acc : Cut × Nat) (piece : String) : Result (Cut × Nat) := do
  let (c, pos) := acc
  if (Text.strip piece).isEmpty then return (c, pos + piece.length)
  let subwords ← split piece
  let last := pos + piece.length - 1
  let alignments := putEntry c.alignments pos (c.tokens.length : Int)
  let tokens := c.tokens ++ subwords
  let alignments := putEntry alignments last ((tokens.length : Int) - 1)
  pure (⟨tokens, alignments, c.inverse ++ subwords.map fun _ => (pos, last)⟩, pos + piece.length)

/-- An utterance cut into tokens, each piece by `split`. -/
def cutUtteranceBy (split : String → Result (List String)) (s : String) : Result Cut := do
  let (cut, _) ← (naivePieces s).foldlM (cutPiece split) (⟨[], [], []⟩, 0)
  pure cut

def cutUtterance (t : Tokenizer) (s : String) : Result Cut := cutUtteranceBy t.textToTokens s

/-- The status of a slot in an example. -/
inductive SlotStatus where
  | off
  | active
  | dontcare
deriving DecidableEq, Inhabited

def SlotStatus.code : SlotStatus → Nat
  | .off => 0
  | .active => 1
  | .dontcare => 2

/-- The sizes of the examples: the sequence length and the number of tasks. -/
structure ExampleConfig where
  maxSeqLength : Int
  numTasks : Nat := 6
deriving Inhabited

/-- One example. -/
structure DialogueExample where
  /-- The name: split, dialogue, turn, service, task, item and value. -/
  exampleId : String
  /-- The numbers of the name: dialogue (two parts), turn, service, task, item and value. -/
  exampleIdNum : List Int
  serviceId : Option Nat
  userUtterance : String := ""
  systemUtterance : String := ""
  utteranceIds : List Nat
  utteranceSegment : List Nat
  utteranceMask : List Nat
  /-- The first character of every token's word, signed by segment and counted from 1. -/
  startCharIdx : List Int
  /-- The last character of every token's word, signed by segment and counted from 1. -/
  endCharIdx : List Int
  categoricalSlotId : Nat := 0
  noncategoricalSlotId : Nat := 0
  categoricalSlotStatus : SlotStatus := .off
  noncategoricalSlotStatus : SlotStatus := .off
  taskMask : List Nat
  /-- The first token of the free slot's value. -/
  noncategoricalSlotValueStart : Int := 0
  /-- The last token of the free slot's value. -/
  noncategoricalSlotValueEnd : Int := 0
  categoricalSlotValueId : Nat := 0
  /-- Whether the value asked about is the slot's value, once the slot is known to be set. -/
  categoricalSlotValueStatus : Option Bool := none
  requestedSlotId : Nat := 0
  requestedSlotStatus : Nat := 0
  intentId : Nat := 0
  intentStatus : Nat := 0
deriving Inhabited

/-- A fresh example of a service with a name: nothing encoded, nothing asked. -/
def DialogueExample.blank (c : ExampleConfig) (serviceId : Option Nat) (id : String) (idNum : List Int) :
    DialogueExample :=
  let zeros := List.replicate c.maxSeqLength.toNat 0
  { exampleId := id, exampleIdNum := idNum, serviceId, utteranceIds := zeros, utteranceSegment := zeros,
    utteranceMask := zeros, startCharIdx := zeros.map Int.ofNat, endCharIdx := zeros.map Int.ofNat,
    taskMask := List.replicate c.numTasks 0 }

def markTask (mask : List Nat) (task : Nat) : List Nat := mask.set task 1

/-- An example with a description and an utterance encoded; the token lists come back truncated
as they were for the encoding. -/
def DialogueExample.encode (t : Tokenizer) (c : ExampleConfig) (ex : DialogueExample)
    (descTokens : List String) (descInverse : List (Nat × Nat)) (uttTokens : List String)
    (uttInverse : List (Nat × Nat)) (descText uttText : String) :
    Result (DialogueExample × List String × List String) := do
  let (descTokens, uttTokens) ← Features.truncatePair descTokens uttTokens (c.maxSeqLength - 3)
  let cls ← t.special .cls
  let sep ← t.special .sep
  let descSpans := (List.range descTokens.length).map fun i => (descInverse[i]?).getD (0, 0)
  let uttSpans := (List.range uttTokens.length).map fun i => (uttInverse[i]?).getD (0, 0)
  let subwords := [cls] ++ descTokens ++ [sep] ++ uttTokens ++ [sep]
  let segment := [0] ++ descTokens.map (fun _ => 0) ++ [0] ++ uttTokens.map (fun _ => 1) ++ [1]
  let starts : List Int := [0] ++ descSpans.map (fun (s, _) => -((s : Int) + 1)) ++ [0] ++
    uttSpans.map (fun (s, _) => (s : Int) + 1) ++ [0]
  let ends : List Int := [0] ++ descSpans.map (fun (_, e) => -((e : Int) + 1)) ++ [0] ++
    uttSpans.map (fun (_, e) => (e : Int) + 1) ++ [0]
  let ids ← t.tokensToIds subwords
  let pad := (c.maxSeqLength - ids.length).toNat
  let zeros := List.replicate pad 0
  let encoded := { ex with
    utteranceIds := ids ++ zeros, utteranceSegment := segment ++ zeros,
    utteranceMask := subwords.map (fun _ => 1) ++ zeros, startCharIdx := starts ++ zeros.map Int.ofNat,
    endCharIdx := ends ++ zeros.map Int.ofNat, userUtterance := uttText, systemUtterance := descText }
  pure (encoded,
    descTokens, uttTokens)

/-- A text and a description joined by a space; the description must be a text. -/
def describe (name : String) (desc : Data) : Result String :=
  match desc with
  | .str d => .ok (name ++ " " ++ d)
  | other => .error (.type s!"can only concatenate str (not \"{other.kindName}\") to str")

/-- The status a state update gives a slot: off when it sets no value, `dontcare`, or set. -/
def statusOf (update : Entries) (slot : String) : Result (SlotStatus × Option Data) := do
  let values := ((update.find? (·.1 == slot)).map (·.2)).getD (.list [])
  if !values.truthy then return (.off, none)
  let first ← values.item 0
  if Data.same first (.str "dontcare") then pure (.dontcare, none) else pure (.active, some first)

/-- The slot values that changed since the previous state: a slot whose previous first value is
still among its values is left out. -/
def stateUpdate (current prev : Data) : Result (Entries) :=
  current.entries.filterM fun (slot, values) => do
    if !(← prev.holds (.str slot)) then return true
    let before ← (← prev.key slot).item 0
    pure !(← values.holds before)

def alignedToken (alignments : List (Nat × Int)) (k : Int) : Result Int :=
  if k < 0 then .error (.key (toString k))
  else match alignments.find? (·.1 == k.toNat) with
    | some (_, v) => .ok v
    | none => .error (.key (toString k))

/-- The values of a slot found so far in an utterance, with one more span of a frame read: a span
of the slot whose first token is among the `subwords` gives its value the positions of its first
and last token, shifted by `bias`. -/
def spanStep (utterance : String) (alignments : List (Nat × Int)) (subwords : Nat) (bias : Int)
    (slot : String) (found : List (String × Int × Int)) (span : Data) :
    Result (List (String × Int × Int)) := do
  if !Data.same (← span.key "slot") (.str slot) then return found
  let start ← sliceBound (← span.key "start") 0
  let stop ← sliceBound (← span.key "exclusive_end") utterance.length
  let value := Text.slice utterance start stop
  let startTok ← alignedToken alignments start
  let endTok ← alignedToken alignments (stop - 1)
  if 0 ≤ startTok && startTok < subwords then
    pure (putEntry found value (startTok + bias, min endTok ((subwords : Int) - 1) + bias))
  else pure found

/-- The token positions found so far, with one more slot of a state update looked up among the
spans of a frame: the slot takes the positions of the first of its values that a span marks. -/
def slotBoundary (utterance : String) (spans : List Data) (alignments : List (Nat × Int)) (subwords : Nat)
    (bias : Int) (acc : List (String × Int × Int)) (entry : String × Data) :
    Result (List (String × Int × Int)) := do
  let (slot, values) := entry
  let found ← spans.foldlM (spanStep utterance alignments subwords bias slot) []
  let vs ← values.elements
  match vs.find? (fun v => found.any (fun (k, _) => Data.same (.str k) v)) with
  | some v =>
    match found.find? (fun (k, _) => Data.same (.str k) v) with
    | some (_, span) => pure (putEntry acc slot span)
    | none => pure acc
  | none => pure acc

/-- The token positions of the values of the slots of a state update in an utterance, found
through the spans of a frame; positions are shifted by `bias`. -/
def spanBoundaries (update : Entries) (utterance : String) (spans : List Data)
    (alignments : List (Nat × Int)) (subwords : Nat) (bias : Int) : Result (List (String × Int × Int)) :=
  update.foldlM (slotBoundary utterance spans alignments subwords bias) []

/-- The examples of one turn and the shared token lists of its utterances. -/
structure TurnBuild where
  examples : List DialogueExample := []
  /-- The tokens of the user utterance, as truncated so far. -/
  userTokens : List String
  /-- The tokens of the system and user utterances together, as truncated so far. -/
  systemUserTokens : List String
deriving Inhabited

/-- The utterances of a turn, cut into tokens. -/
structure TurnCuts where
  user : Cut
  system : Cut
  /-- The two together, separated by a space. -/
  systemUser : Cut
  userText : String
  systemText : String
deriving Inhabited

def TurnCuts.systemUserText (c : TurnCuts) : String := c.systemText ++ " " ++ c.userText

/-- What the examples of one service in one turn are built from. -/
structure ServiceTurn where
  schema : ServiceSchema
  /-- The name every example's name starts with. -/
  baseId : String
  /-- The numbers every example's numbers start with. -/
  baseNum : List Int
  userFrame : Data
  /-- The system frame of the service, if the previous turn has one. -/
  systemFrame : Option Data
  update : Entries
deriving Inhabited

def ServiceTurn.fresh (s : ServiceTurn) (c : ExampleConfig) (task item value : Nat) : DialogueExample :=
  let ex := DialogueExample.blank c s.schema.id s!"{s.baseId}-{task}-{item}-{value}"
    (s.baseNum ++ [Int.ofNat task, Int.ofNat item, Int.ofNat value])
  { ex with taskMask := markTask ex.taskMask task }

def intentExamples (t : Tokenizer) (c : ExampleConfig) (cuts : TurnCuts) (s : ServiceTurn) (b : TurnBuild) :
    Result TurnBuild :=
  s.schema.intents.zipIdx.foldlM (fun b (intent, i) => do
    let ex := { (s.fresh c 0 i 0) with intentId := i }
    let desc ← describe intent (((s.schema.intentDescriptions.find? (·.1 == intent)).map (·.2)).getD .null)
    let dc ← cutUtterance t desc
    let (ex, _, su) ← ex.encode t c dc.tokens dc.inverse b.systemUserTokens cuts.systemUser.inverse desc
      cuts.systemUserText
    let active ← (← s.userFrame.key "state").key "active_intent"
    let ex := if Data.same (.str intent) active then { ex with intentStatus := 1 } else ex
    pure { b with examples := b.examples ++ [ex], systemUserTokens := su }) b

def requestExamples (t : Tokenizer) (c : ExampleConfig) (cuts : TurnCuts) (s : ServiceTurn) (b : TurnBuild) :
    Result TurnBuild :=
  s.schema.slots.zipIdx.foldlM (fun b (slot, i) => do
    let ex := { (s.fresh c 1 i 0) with requestedSlotId := i }
    let desc ← describe slot (((s.schema.slotDescriptions.find? (·.1 == slot)).map (·.2)).getD .null)
    let dc ← cutUtterance t desc
    let (ex, _, u) ← ex.encode t c dc.tokens dc.inverse b.userTokens cuts.user.inverse desc cuts.userText
    let requested ← (← s.userFrame.key "state").key "requested_slots"
    let ex := if ← requested.holds (.str slot) then { ex with requestedSlotStatus := 1 } else ex
    pure { b with examples := b.examples ++ [ex], userTokens := u }) b

/-- An example with the categorical slot's status from the state update. -/
def withCategorical (s : ServiceTurn) (ex : DialogueExample) : Result DialogueExample := do
  if s.schema.categoricalSlots.isEmpty then return ex
  let slot ← ServiceSchema.nth s.schema.categoricalSlots ex.categoricalSlotId
  match ← statusOf s.update slot with
  | (.active, some v) =>
    let id ← s.schema.valueId slot v.text
    pure { ex with
      categoricalSlotStatus := .active, categoricalSlotValueStatus := some (ex.categoricalSlotValueId == id) }
  | (st, _) => pure { ex with categoricalSlotStatus := st }

/-- The examples of the categorical slots and their values; the examples of slots that are off
come last. -/
def categoricalExamples (t : Tokenizer) (c : ExampleConfig) (cuts : TurnCuts) (s : ServiceTurn) (training : Bool)
    (b : TurnBuild) : Result TurnBuild := do
  let (b, offs) ← s.schema.categoricalSlots.zipIdx.foldlM (fun (acc : TurnBuild × List DialogueExample) (slot, i) => do
    let (b, offs) := acc
    let ex := { (s.fresh c 2 i 0) with categoricalSlotId := i }
    let desc ← describe slot (((s.schema.slotDescriptions.find? (·.1 == slot)).map (·.2)).getD .null)
    let dc ← cutUtterance t desc
    let (ex, _, su) ← ex.encode t c dc.tokens dc.inverse b.systemUserTokens cuts.systemUser.inverse desc
      cuts.systemUserText
    let ex ← withCategorical s ex
    let b := { b with systemUserTokens := su }
    let (b, offs) := if ex.categoricalSlotStatus == .off then (b, offs ++ [ex])
      else ({ b with examples := b.examples ++ [ex] }, offs)
    let values ← s.schema.valuesOf slot
    let b ← if !training || ex.categoricalSlotStatus == .active then
        values.zipIdx.foldlM (fun b (value, j) => do
          let vex := { (s.fresh c 3 i j) with
            categoricalSlotId := i, categoricalSlotValueId := j, categoricalSlotStatus := ex.categoricalSlotStatus }
          let vdesc := slot ++ " " ++ value
          let vc ← cutUtterance t vdesc
          let (vex, _, su) ← vex.encode t c vc.tokens vc.inverse b.systemUserTokens cuts.systemUser.inverse vdesc
            cuts.systemUserText
          let vex ← withCategorical s vex
          if vex.categoricalSlotStatus != ex.categoricalSlotStatus then throw (.assertion "")
          pure { b with examples := b.examples ++ [vex], systemUserTokens := su }) b
      else pure b
    pure (b, offs)) (b, [])
  pure { b with examples := b.examples ++ offs }

/-- The token positions of the values of the slots of a state update in the system utterance,
found through the spans of the service's system frame, if there is one. -/
def systemSpanBoundaries (cuts : TurnCuts) (s : ServiceTurn) (bias : Int) : Result (List (String × Int × Int)) :=
  match s.systemFrame with
  | some f => do
    spanBoundaries s.update cuts.systemText (← (← f.key "slots").elements) cuts.system.alignments
      cuts.system.tokens.length bias
  | none => pure []

/-- An example with the free slot's status from the state update and, when the slot is set, the
token positions of its value: those found in the system utterance first, then the user's. -/
def withFree (s : ServiceTurn) (slot : String) (systemSpans userSpans : List (String × Int × Int))
    (ex : DialogueExample) : Result DialogueExample := do
  match ← statusOf s.update slot with
  | (.active, _) =>
    let (st, en) := match systemSpans.find? (·.1 == slot), userSpans.find? (·.1 == slot) with
      | some (_, span), _ => span
      | none, some (_, span) => span
      | none, none => (0, 0)
    pure { ex with
      noncategoricalSlotStatus := .active, noncategoricalSlotValueStart := st, noncategoricalSlotValueEnd := en }
  | (st, _) => pure { ex with noncategoricalSlotStatus := st }

/-- The examples of one free slot: its status example, kept or set aside for the end of the task
when the slot is off, and the copy the value task reads. -/
def freeSlotExamples (t : Tokenizer) (c : ExampleConfig) (cuts : TurnCuts) (s : ServiceTurn) (training : Bool) :
    TurnBuild × List DialogueExample → String × Nat → Result (TurnBuild × List DialogueExample)
  | (b, offs), (slot, i) => do
    let ex := { (s.fresh c 4 i 0) with noncategoricalSlotId := i }
    let desc ← describe slot (((s.schema.slotDescriptions.find? (·.1 == slot)).map (·.2)).getD .null)
    let dc ← cutUtterance t desc
    let (ex, descToks, su) ← ex.encode t c dc.tokens dc.inverse b.systemUserTokens cuts.systemUser.inverse desc
      cuts.systemUserText
    let b := { b with systemUserTokens := su }
    let userSpans ← spanBoundaries s.update cuts.userText (← (← s.userFrame.key "slots").elements)
      cuts.user.alignments b.userTokens.length (2 + descToks.length + cuts.system.tokens.length)
    let systemSpans ← systemSpanBoundaries cuts s (2 + descToks.length)
    let ex ← withFree s slot systemSpans userSpans ex
    let (b, offs) := if ex.noncategoricalSlotStatus == .off then (b, offs ++ [ex])
      else ({ b with examples := b.examples ++ [ex] }, offs)
    let b := if !training || ex.noncategoricalSlotStatus == .active then
        let copy := s.fresh c 5 i 0
        let copy := { ex with
          exampleId := copy.exampleId, exampleIdNum := copy.exampleIdNum, taskMask := copy.taskMask,
          categoricalSlotId := 0, categoricalSlotStatus := .off, categoricalSlotValueId := 0,
          categoricalSlotValueStatus := none, requestedSlotId := 0, requestedSlotStatus := 0, intentId := 0,
          intentStatus := 0 }
        { b with examples := b.examples ++ [copy] }
      else b
    pure (b, offs)

/-- The examples of the free slots; the examples of slots that are off come last. -/
def freeExamples (t : Tokenizer) (c : ExampleConfig) (cuts : TurnCuts) (s : ServiceTurn) (training : Bool)
    (b : TurnBuild) : Result TurnBuild := do
  let (b, offs) ← s.schema.nonCategoricalSlots.zipIdx.foldlM (freeSlotExamples t c cuts s training) (b, [])
  pure { b with examples := b.examples ++ offs }

/-- The examples of one task for one service in one turn; task 3, the values of the categorical
slots, is built with task 2. -/
def taskExamples (t : Tokenizer) (c : ExampleConfig) (cuts : TurnCuts) (s : ServiceTurn) (training : Bool)
    (b : TurnBuild) : Nat → Result TurnBuild
  | 0 => intentExamples t c cuts s b
  | 1 => requestExamples t c cuts s b
  | 2 => categoricalExamples t c cuts s training b
  | 4 => freeExamples t c cuts s training b
  | _ => pure b

def serviceExamples (t : Tokenizer) (c : ExampleConfig) (cuts : TurnCuts) (s : ServiceTurn) (training : Bool)
    (b : TurnBuild) : Result TurnBuild :=
  (List.range c.numTasks).foldlM (taskExamples t c cuts s training) b

/-- The services of a list of frames, each with its last frame, in order of first mention. -/
def framesOf (frames : List Data) : Result (Entries) :=
  frames.foldlM (fun acc f => do pure (putEntry acc (← f.key "service").text f)) []

/-- The parts of a name split at a separator, exactly `n` of them. -/
def splitExactly (s : String) (sep : Char) (n : Nat) : Result (List String) :=
  let parts := (List.splitOn sep s.toList).map String.ofList
  if parts.length > n then .error (.value s!"too many values to unpack (expected {n})")
  else if parts.length < n then .error (.value s!"not enough values to unpack (expected {n}, got {parts.length})")
  else .ok parts

def nameNumber (s : String) : Result Int :=
  match Numeric.readInt? s with
  | some n => .ok n
  | none => .error (.value s!"invalid literal for int() with base 10: {Text.quote s}")

/-- Values shared by slots: for every value, the (service, slot) pairs that hold it. -/
abbrev SharedValues := List (Data × List (String × String))

def addHolder (acc : SharedValues) (v : Data) (holder : String × String) : SharedValues :=
  if acc.any (fun (k, _) => Data.same k v) then acc.map fun (k, hs) => if Data.same k v then (k, hs ++ [holder]) else (k, hs)
  else acc ++ [(v, [holder])]

/-- The result of a turn: its examples, the states of its services, and the values shared with
the services of the previous turn. -/
structure TurnResult where
  examples : List DialogueExample
  /-- The slot values of every service of the turn. -/
  states : Entries
  /-- The values shared between slots of a newly mentioned service and earlier ones. -/
  shared : SharedValues
deriving Inhabited

/-- The examples of one service of a user turn, with the service's state recorded and, for a
service new in the dialogue, the values its slots share with the services before it. -/
def frameExamples (t : Tokenizer) (c : ExampleConfig) (schemas : Schema) (split turnId : String) (cuts : TurnCuts)
    (systemFrames prevStates : Entries) :
    TurnBuild × Entries × SharedValues → String × Data →
      Result (TurnBuild × Entries × SharedValues)
  | (b, states, shared), (service, frame) => do
    let schema ← schemas.service service
    let systemFrame := (systemFrames.find? (·.1 == service)).map (·.2)
    let state ← (← frame.key "state").key "slot_values"
    let prev := ((prevStates.find? (·.1 == service)).map (·.2)).getD (.dict [])
    let update ← stateUpdate state prev
    let states := putEntry states service state
    let parts ← splitExactly turnId '-' 3
    let dialParts ← splitExactly ((parts[1]?).getD "") '_' 2
    let turnPart := (parts[2]?).getD ""
    let num := [← nameNumber ((dialParts[0]?).getD ""), ← nameNumber ((dialParts[1]?).getD ""),
      ← nameNumber turnPart, Int.ofNat (← schemas.serviceId service)]
    let s : ServiceTurn := ⟨schema, s!"{turnId}-{service}", num, frame, systemFrame, update⟩
    let b ← serviceExamples t c cuts s (split == "train") b
    let shared ← if !(prevStates.any (·.1 == service)) && (← nameNumber turnPart) > 0 then do
        let shared ← update.foldlM (fun sh (slot, values) => do
          pure ((← values.elements).foldl (fun sh v => addHolder sh v (service, slot)) sh)) shared
        prevStates.foldlM (fun sh (prevService, prevValues) => do
          if prevService == service then return sh
          let prevValues ← if ← state.holds (.str prevService) then state.key prevService else pure prevValues
          (← prevValues.elements).foldlM (fun sh slotName => do
            let vs ← (← prevValues.key slotName.text).elements
            pure (vs.foldl (fun sh v => addHolder sh v (prevService, slotName.text)) sh)) sh) shared
      else pure shared
    pure (b, states, shared)

def turnExamples (t : Tokenizer) (c : ExampleConfig) (schemas : Schema) (split turnId : String)
    (systemText userText : String) (systemFrames userFrames : Entries)
    (prevStates : Entries) : Result TurnResult := do
  let user ← cutUtterance t userText
  let system ← cutUtterance t systemText
  let systemUser ← cutUtterance t (systemText ++ " " ++ userText)
  let cuts : TurnCuts := ⟨user, system, systemUser, userText, systemText⟩
  let (b, states, shared) ← userFrames.foldlM (frameExamples t c schemas split turnId cuts systemFrames prevStates)
    (⟨[], user.tokens, systemUser.tokens⟩, [], [])
  pure ⟨b.examples, states, shared⟩

/-- Counts of carry-over pairs: (service, slot, service, slot), the first service the smaller. -/
abbrev CarryOver := List ((String × String × String × String) × Nat)

def CarryOver.bump (c : CarryOver) (k : String × String × String × String) : CarryOver :=
  if c.any (·.1 == k) then c.map fun (k', n) => if k' == k then (k', n + 1) else (k', n) else c ++ [(k, 1)]

/-- One step of pairing a holder with the holders of a value: a holder of another service is
counted with the current first member, the pair put in order by service, and the member with the
smaller service stays the first member for the holders after it. -/
def carryStep (acc : CarryOver × String × String) (h2 : String × String) : CarryOver × String × String :=
  let (c, s1, l1) := acc
  let (s2, l2) := h2
  if s1 == s2 then (c, s1, l1)
  else
    let (s1, l1, s2, l2) := if s1 > s2 then (s2, l2, s1, l1) else (s1, l1, s2, l2)
    (c.bump (s1, l1, s2, l2), s1, l1)

/-- The carry-over pairs of the holders of one value: every holder in turn is the first member,
paired with every holder of another service. -/
def countPairs (holders : List (String × String)) (c : CarryOver) : CarryOver :=
  holders.foldl (fun c h1 => (holders.foldl carryStep (c, h1.1, h1.2)).1) c

/-- The carry-over counts raised by the shared values of a turn; truth values are not counted. -/
def addCarryOver (c : CarryOver) (shared : SharedValues) : CarryOver :=
  shared.foldl (fun c (v, holders) =>
    if Data.same v (.str "True") || Data.same v (.str "False") then c
    else if holders.length > 1 then countPairs holders c else c) c

/-- The examples of one dialogue, and the carry-over counts raised by it. -/
def dialogueExamples (t : Tokenizer) (c : ExampleConfig) (schemas : Schema) (split : String) (dialog : Data)
    (carry : CarryOver) : Result (List DialogueExample × CarryOver) := do
  let dialogId ← dialog.key "dialogue_id"
  let turns ← (← dialog.key "turns").elements
  let (examples, _, carry) ← turns.zipIdx.foldlM (fun (acc : List DialogueExample × Entries × CarryOver) (turn, i) => do
    let (examples, prevStates, carry) := acc
    if !Data.same (← turn.key "speaker") (.str "USER") then return acc
    let userText ← (← turn.key "utterance").asText "utterance"
    let userFrames ← framesOf (← (← turn.key "frames").elements)
    let (systemText, systemFrames) ← if i > 0 then do
        let sys := (turns[i - 1]?).getD .null
        pure ((← (← sys.key "utterance").asText "utterance"), ← framesOf (← (← sys.key "frames").elements))
      else pure ("", [])
    let turnNo := if i < 10 then s!"0{i}" else toString i
    let turnId := s!"{split}-{dialogId.text}-{turnNo}"
    let r ← turnExamples t c schemas split turnId systemText userText systemFrames userFrames prevStates
    pure (examples ++ r.examples, r.states, addCarryOver carry r.shared)) ([], [], carry)
  pure (examples, carry)

/-- The related slots of a carry-over count: every pair in both directions, with its count. -/
def slotRelations (c : CarryOver) : List ((String × String) × List (String × String × Nat)) :=
  c.foldl (fun acc ((s1, l1, s2, l2), n) =>
    if n == 0 then acc
    else
      let add (acc : List ((String × String) × List (String × String × Nat))) (k : String × String) (v : String × String × Nat) :=
        if acc.any (·.1 == k) then acc.map fun (k', vs) => if k' == k then (k', vs ++ [v]) else (k', vs)
        else acc ++ [(k, [v])]
      add (add acc (s1, l1) (s2, l2, n)) (s2, l2) (s1, l1, n)) []

end Conversa.Dialogue
