import Conversa.Service.Fault
import Conversa.Schedule.Prepare
import Conversa.Optim.Arguments

/-!
# Schedule requests

`lr_schedule` builds a named schedule and reports its class, settings and rates at given steps;
`lr_fn` evaluates one annealing curve; `compute_max_steps` derives a run's horizon;
`prepare_scheduler` prepares a configuration section's schedule; `sched_params` and
`optim_params` fill parameter records; `registry` looks names up in the registries.
-/

namespace Conversa.Service

open Numeric Schedule Keywords

def attributesData (s : Schedule) : Data :=
  .dict (s.attributes.map fun (k, v) => (k, v.toData))

/-- A schedule's report: its class and settings, and its rates at `steps` when steps are
given. -/
def scheduleReport (s : Schedule) (baseLrs : List Scalar) (steps : Option (List Int)) :
    Entries :=
  let head := [("class", Data.str s.policy.name), ("attrs", attributesData s)]
  match steps with
  | none => head
  | some ts =>
    head ++ [("lrs", .list (ts.map fun t =>
      resultEntry ((s.rates baseLrs t).map fun lrs => .list (lrs.map Scalar.toData))))]

/-- The whole-number steps of a request, if it has any. -/
def stepsField (req : Data) : Result (Option (List Int)) :=
  match req.getD "steps" with
  | .null => .ok none
  | .list xs => (xs.mapM fun (x : Data) => (match x with
      | .int n => .ok n
      | _ => .error (badField "steps") : Result Int)).map some
  | _ => .error (badField "steps")

/-- `lr_schedule {name, kwargs, base_lrs?, steps?}`. -/
def lrSchedule (req : Data) : Result Data := do
  let name ← textField req "name"
  let kws ← scalarEntries req "kwargs"
  let baseLrs ← scalarItems req "base_lrs"
  let steps ← stepsField req
  let s ← buildSchedule name kws
  pure (.dict (scheduleReport s baseLrs steps))

/-- The signature and the evaluation of each annealing curve, by its request name. -/
def curve (fn : String) : Option (Signature × (Bound Scalar → Except ArithError Scalar)) :=
  let arg (b : Bound Scalar) (n : String) := b.getD n .none
  let four (name : String) (f : Scalar → Scalar → Scalar → Scalar → Except ArithError Scalar) :=
    (⟨name, [.req "initial_lr", .req "step", .req "max_steps", .req "min_lr"], false⟩,
      fun b => f (arg b "initial_lr") (arg b "step") (arg b "max_steps") (arg b "min_lr"))
  match fn with
  | "squareroot" => some (four "_squareroot_annealing" squareRootAnnealing)
  | "square" => some (four "_square_annealing" squareAnnealing)
  | "cosine" => some (four "_cosine_annealing" cosineAnnealing)
  | "poly" => some (⟨"_poly_decay", [.req "initial_lr", .req "step", .req "decay_steps",
      .req "power", .req "min_lr", .req "cycle"], false⟩,
      fun b => polynomialDecay (arg b "initial_lr") (arg b "step") (arg b "decay_steps")
        (arg b "power") (arg b "min_lr") (arg b "cycle"))
  | _ => none

/-- `lr_fn {fn, args}`. -/
def lrFn (req : Data) : Result Data := do
  let fn ← textField req "fn"
  let args ← scalarEntries req "args"
  match curve fn with
  | none => throw (.key (Text.quote fn))
  | some (sig, eval) =>
    let b ← sig.bind 0 args
    let v ← arith (eval b)
    pure (.dict [("value", v.toData)])

def horizonSignature : Signature :=
  ⟨"compute_max_steps", ["max_epochs", "accumulate_grad_batches", "limit_train_batches",
    "num_workers", "num_samples", "batch_size", "drop_last"].map Param.req, false⟩

/-- `compute_max_steps {args}`. -/
def computeMaxSteps (req : Data) : Result Data := do
  let b ← horizonSignature.bind 0 (← scalarEntries req "args")
  let arg (n : String) := b.getD n .none
  let v ← arith (maxSteps (arg "max_epochs") (arg "accumulate_grad_batches")
    (arg "limit_train_batches") (arg "num_workers") (arg "num_samples") (arg "batch_size")
    (arg "drop_last"))
  pure (.dict [("value", v.toData)])

/-- The data loader of a request, if it has one. -/
def loaderField (req : Data) : Result (Option Loader) :=
  match req.getD "dataloader" with
  | .null => .ok none
  | d => do
    let get (k : String) : Result Scalar :=
      match (d.getD k).scalar? with
      | some s => .ok s
      | none => .error (badField "dataloader")
    pure (some ⟨← get "num_samples", ← get "batch_size", ← get "drop_last"⟩)

/-- `prepare_scheduler {config, dataloader?, base_lrs?, steps?}`. -/
def prepareScheduler (req : Data) : Result Data := do
  let baseLrs ← scalarItems req "base_lrs"
  let steps ← stepsField req
  match ← prepare (req.getD "config") (← loaderField req) with
  | none => pure (.dict [("result", .null)])
  | some p =>
    pure (.dict [("result", .dict ([("interval", .str p.interval), ("frequency", .int 1),
      ("monitor", p.monitor), ("reduce_on_plateau", .bool false)] ++
      scheduleReport p.schedule baseLrs steps))])

/-- `sched_params {name, kwargs?}`. -/
def schedParams (req : Data) : Result Data := do
  let r ← scheduleRecord? (← textField req "name")
  let fields ← r.instantiate (← fieldEntries req "kwargs")
  pure (.dict [("params", .dict fields)])

/-- `optim_params {name, kwargs, direct?}`. -/
def optimParams (req : Data) : Result Data := do
  let name ← textField req "name"
  let params ←
    if req.getD "direct" == .bool true then
      do pure (Data.dict (← Optim.optimizerConfig name (← fieldEntries req "kwargs")))
    else Optim.optimizerArguments name (req.getD "kwargs")
  pure (.dict [("params", params)])

/-- `registry {kind, name, kwargs?}`. -/
def registry (req : Data) : Result Data := do
  let kind ← textField req "kind"
  let name ← textField req "name"
  let keywords := Data.dict (← fieldEntries req "kwargs")
  match kind with
  | "get_optimizer" => do
    Optim.resolveOptimizer name
    pure (.dict [("keywords", keywords)])
  | "get_scheduler" => do
    let cls := match ← resolveSchedule name with
      | .policy p => p.name
      | .external n => n
    pure (.dict [("class", .str cls), ("keywords", keywords)])
  | "register_optimizer" => do Optim.registerOptimizer name; pure (.dict [])
  | "register_scheduler" => do registerSchedule name; pure (.dict [])
  | "register_scheduler_params" => do registerScheduleParams name; pure (.dict [])
  | "register_optimizer_params" => do Optim.registerOptimizerParams name; pure (.dict [])
  | other => throw (.key (Text.quote other))

end Conversa.Service
