import Conversa.Entry.Instance

/-!
# Mixtures of datasets

A mixture draws samples from datasets of one kind, choosing each next one by a rule (`Sampling`):
by temperature over sizes, by given probabilities, or in turn.  Its length sums its datasets'
lengths, each divided among the workers (`mixtureLength`).  Only turns are free of chance:
`inTurn` gives the first choices; the other rules refuse to start without their setting.
-/

namespace Conversa.Callees

open Entry

/-- How a mixture picks the dataset of its next sample. -/
inductive Sampling where
  /-- By the datasets' sizes raised to one over a temperature. -/
  | temperature (t : Data)
  | random (p : Data)
  | inTurn

/-- The rule a name gives, with the settings the rules read. -/
def Sampling.ofName (name temperature probabilities : Data) : Result Sampling :=
  if name.same (.str "temperature") then .ok (.temperature temperature)
  else if name.same (.str "random") then .ok (.random probabilities)
  else if name.same (.str "round-robin") then .ok .inTurn
  else .error (.value "Currently we only support sampling techniques in ['temperature', 'random', 'round-robin'].")

def Sampling.settings : Sampling → Data
  | .temperature t => .dict [("temperature", t)]
  | .random p => .dict [("p", p)]
  | .inTurn => .dict []

def inTurn (datasets count : Nat) : List Nat :=
  if datasets == 0 then [] else (List.range count).map (· % datasets)

/-- The whole-number quotient rounded down, as the mixture divides a length among workers. -/
def floorQuotient (a : Nat) (b : Data) : Result Int :=
  match b with
  | .int 0 | .bool false => .error ⟨"ZeroDivisionError", "integer division or modulo by zero"⟩
  | .int n => .ok (Int.fdiv a n)
  | .bool true => .ok a
  | other => .error (.type s!"unsupported operand type(s) for //: 'int' and {Text.quote other.kindName}")

/-- The length of a mixture: the datasets' lengths each divided among `workers`, summed. -/
def mixtureLength (datasets : List Data) (workers : Data) : Result Int :=
  datasets.foldlM (fun total d => do
    let n ← d.size
    pure (total + (← floorQuotient n workers))) 0

def mixtureCallee : Callee := fun r => do
  let vals ← (Arguments.bind r.args.intake "ConcatDataset"
    [req "datasets", opt "shuffle" (.bool true), opt "sampling_technique" (.str "temperature"),
     opt "sampling_temperature" (.int 5), opt "sampling_probabilities" .null, opt "global_rank" (.int 0),
     opt "world_size" (.int 1)])
  let arg := plainArg vals
  let datasets := arg 0
  let count ← datasets.size
  let rule ← Sampling.ofName (arg 2) (arg 3) (arg 4)
  let _ ← datasets.item 0
  let items ← datasets.elements
  let length ← mixtureLength items (arg 6)
  let value := objectData "ConcatDataset"
    [("datasets", datasets), ("iterables", .list (List.replicate count .null)), ("shuffle", arg 1),
     ("global_rank", arg 5), ("world_size", arg 6), ("sampling_kwargs", rule.settings),
     ("index_generator", .dict [("type", .str "function")]), ("length", .int length), ("kind", .str "map")]
  pure { value, act := fun step => do
    let self ← Work.this
    match step with
    | .read path => readPath self path
    | .call "__len__" args => do
      let _ ← args.bind "ConcatDataset.__len__" []
      pure (.int length)
    | .call name _ => Work.fail (noAttribute "ConcatDataset" name) }

def ruleArguments (r : Request) (name : String) : Work (List Data × Entries) := do
  let named := intakeEntries r.args.named
  let positional := intakeItems r.args.positional
  let given := named.filter (·.1 == "datasets")
  let vals ← Arguments.bind ⟨positional, given⟩ name [req "datasets"]
  let datasets ← (plainArg vals 0).elements
  pure (datasets, named.filter (·.1 != "datasets"))

/-- The first choices of a rule as a call answers them: the number asked in the request's
`take`, or the generator itself. -/
def choices (r : Request) (first : Nat → Work (List Nat)) : Work Reply := do
  match (r.fields.getD "take").int? with
  | some n => pure (.plain (Data.nats (← first n.toNat)))
  | none => pure (.plain (.dict [("type", .str "generator")]))

/-- A rule that draws at random: it starts only with its setting present and true, and then
needs chance. -/
def drawingRule (setting message : String) (r : Request) (name : String) : Work Reply := do
  let (_, settings) ← ruleArguments r name
  choices r fun n => do
    if n == 0 then return []
    if !((settings.lookup setting).getD .null).truthy then throw (.value message)
    throw (.unavailable "random")

def mixtureCallees : List (String × Callee) :=
  let target := "nemo.collections.common.data.dataset:ConcatDataset"
  [(target, mixtureCallee),
   (target ++ ".round_robin_generator", fun r => do
      let (datasets, _) ← ruleArguments r "ConcatDataset.round_robin_generator"
      choices r fun n => pure (inTurn datasets.length n)),
   (target ++ ".temperature_generator", fun r =>
      drawingRule "temperature" "Temperature generator expects a 'temperature' keyowrd argument." r
        "ConcatDataset.temperature_generator"),
   (target ++ ".random_generator", fun r =>
      drawingRule "p" "Random generator expects a 'p' keyowrd argument for sampling probabilities." r
        "ConcatDataset.random_generator")]

end Conversa.Callees
