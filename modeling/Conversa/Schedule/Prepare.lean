import Conversa.Schedule.Policy
import Conversa.Config.Targets
import Conversa.Config.Upgrade
import Conversa.Data.Number

/-!
# Preparing a schedule from a configuration

`prepare` reads a configuration's `sched` section, in the current layout, and builds its schedule
or gives nothing: settings are `args` (or the section less bookkeeping), the name comes from a
`_target_` class or `name` (a subsection picks a parameter record), the horizon is `max_steps` or
derived from `t_*` and the loader.  The monitored quantity is `monitor`, `loss` by default.
-/

/-!
## The horizon of a training run

`maxSteps` derives a run's horizon in optimizer steps: each worker samples
`⌈num_samples / num_workers⌉` items; an epoch has those divided by the batch size (down when the
last batch is dropped); `limit_train_batches` caps it (a whole number of batches, or a fraction,
at least one batch without accumulation); the horizon is the epoch's batches over
`accumulate_grad_batches`, rounded up, times the epochs.  Every quotient is rounded once to a
double.
-/

namespace Conversa.Schedule

open Numeric

def maxSteps (maxEpochs accumulateGradBatches limitTrainBatches numWorkers numSamples batchSize
    dropLast : Scalar) : Except ArithError Scalar := do
  let round := if dropLast.truthy then Scalar.floor else Scalar.ceil
  let samplerNumSamples ← (← numSamples.truediv numWorkers).ceil
  if dropLast.truthy then
    -- only a warning depends on it, but the comparison is made
    let _ ← numWorkers.gt (.int 1)
  let stepsPerEpoch ← round (← samplerNumSamples.truediv batchSize)
  let steps ←
    if limitTrainBatches.asInt?.isSome || limitTrainBatches.eq (.float 0.0) then
      Scalar.min stepsPerEpoch (← limitTrainBatches.intOf)
    else if !stepsPerEpoch.eq (.float (1.0 / 0.0)) then do
      let limited ← (← stepsPerEpoch.mul limitTrainBatches).intOf
      if accumulateGradBatches.eq (.int 1) then Scalar.max limited (.int 1) else pure limited
    else pure stepsPerEpoch
  (← (← steps.truediv accumulateGradBatches).ceil).mul maxEpochs

end Conversa.Schedule

/-!
## Schedules by name

Configurations name their schedule.  The names resolve to the policies of `Policy`, and also to
four schedules of the tensor library (`StepLR`, `ExponentialLR`, `ReduceLROnPlateau`,
`CyclicLR`), which are registered by name so that a configuration may choose them, but which
the library builds itself.  A name that resolves to nothing is a `ValueError` listing every
registered name in registration order.
-/

namespace Conversa.Schedule

/-- What a schedule name resolves to. -/
inductive Registered where
  | policy (p : Policy)
  /-- A schedule of the tensor library, known by name only. -/
  | external (name : String)
deriving Repr, DecidableEq

def externalSchedules : List String := ["StepLR", "ExponentialLR", "ReduceLROnPlateau", "CyclicLR"]

def scheduleNames : List String := Policy.all.map Policy.name ++ externalSchedules

def unresolvedSchedule (name : String) : Failure :=
  .value s!"Cannot resolve scheduler{name}'. Available optimizers are : {Text.keysView scheduleNames}"

def resolveSchedule (name : String) : Result Registered :=
  match Policy.all.find? (·.name == name) with
  | some p => .ok (.policy p)
  | none => if externalSchedules.contains name then .ok (.external name) else .error (unresolvedSchedule name)

/-- Registering a schedule under a name: refused when the name is taken. -/
def registerSchedule (name : String) : Result Unit :=
  if scheduleNames.contains name then
    .error (.value s!"Cannot override pre-existing schedulers. Conflicting scheduler name = {name}")
  else .ok ()

def buildSchedule (name : String) (kws : List (String × Numeric.Scalar)) : Result Schedule := do
  match ← resolveSchedule name with
  | .policy p => p.configure kws
  | .external n => throw (.unavailable s!"torch.optim.lr_scheduler.{n}")

end Conversa.Schedule

namespace Conversa.Schedule

open Numeric

/-- The shape of the training data a horizon is derived from. -/
structure Loader where
  numSamples : Scalar
  batchSize : Scalar
  dropLast : Scalar
deriving Inhabited

/-- A prepared schedule with how it is stepped. -/
structure Prepared where
  schedule : Schedule
  interval : String
  monitor : Data
deriving Inhabited

def bookkeepingKeys : List String :=
  ["name", "t_max_epochs", "t_accumulate_grad_batches", "t_limit_train_batches", "t_num_workers",
    "monitor", "reduce_on_plateau"]

def valueAt (kvs : Entries) (k : String) : Option Data :=
  (kvs.find? (·.1 == k)).map (·.2)

/-- A setting as a number, or the failure for a setting that is not one. -/
def settingScalar (k : String) (v : Data) : Result Scalar :=
  match v.scalar? with
  | some s => .ok s
  | none => .error (.type s!"setting {k} is not a number")

/-- The horizon of the section: its `max_steps`, or one derived from the run shape and the
loader; none when neither is available. -/
def horizonOf (cfg : Entries) (loader : Option Loader) :
    Result (Option Data) := do
  match valueAt cfg "max_steps" with
  | some v => if !v.isNull then return some v
  | none => pure ()
  if (valueAt cfg "t_max_epochs").isNone then return none
  let some ld := loader | return none
  let get (k : String) : Result Scalar := settingScalar k ((valueAt cfg k).getD .null)
  let epochs ← get "t_max_epochs"
  if !epochs.isGiven then return none
  let v ← arith (maxSteps epochs (← get "t_accumulate_grad_batches") (← get "t_limit_train_batches")
    (← get "t_num_workers") ld.numSamples ld.batchSize ld.dropLast)
  pure (some v.toData)

/-- The schedule a `sched` section describes, if it describes one. -/
def prepare (section_ : Data) (loader : Option Loader) : Result (Option Prepared) := do
  if section_.isNull then return none
  let cfg := (← Config.upgrade section_).entries
  let plateau := (valueAt cfg "args").isNone && valueAt cfg "name" == some (.str "ReduceLROnPlateau")
  let interval := if plateau then "epoch" else "step"
  let args : Entries := match valueAt cfg "args" with
    | some a => a.entries
    | none => cfg.filter fun (k, _) => !bookkeepingKeys.contains k
  let cfg := cfg.filter (·.1 != "args")
  let some (name, args) ← (do
      if (valueAt args "_target_").isSome then
        let (r, fields) ← Config.instantiateTarget args
        pure (some (Data.str (r.className.replace "Params" ""), fields))
      else
        match valueAt cfg "name" with
        | none => pure none
        | some name =>
          match valueAt args "name" with
          | none => pure (some (name, args))
          | some paramsName =>
            let recordName := if paramsName == .str "auto" then name.text ++ "Params" else paramsName.text
            let r ← scheduleRecord? recordName
            let overrides := ((valueAt args "params").map Data.entries).getD []
            pure (some (name, ← r.instantiate overrides)) : Result (Option (Data × Entries)))
    | return none
  let monitor := (valueAt cfg "monitor").getD (.str "loss")
  let some horizon ← horizonOf cfg loader | return none
  let args := if plateau then args else Config.setEntry args "max_steps" horizon
  let schedName := name.text
  let kws ← args.mapM fun (k, v) => do pure (k, ← settingScalar k v)
  let schedule ← buildSchedule schedName kws
  pure (some ⟨schedule, interval, monitor⟩)

end Conversa.Schedule
