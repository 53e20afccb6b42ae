import Conversa.Config.Record

/-!
# Schedule parameter records

Each schedule has a parameter record of its settings with their defaults, which a configuration
naming the schedule alone gets.  The records extend one another as the schedules do (every one
has `last_epoch`, the warm-up ones add `max_steps`, `warmup_steps`, `warmup_ratio`), and are
registered as `WarmupPolicyParams` and `<Schedule>Params`.
-/

namespace Conversa.Schedule

open Config

def paramsModule : String := "nemo.core.config.schedulers"

def lastEpochField : Field := .of "last_epoch" .int (.int (-1)) false

def warmupFields : List Field :=
  [lastEpochField, .of "max_steps" .int (.int 0) false, .of "warmup_steps" .float .null true,
    .of "warmup_ratio" .float .null true]

def minLrField (d : Data) : Field := .of "min_lr" .float d false

def scheduleRecord (name : String) (fields : List Field) : Record := ⟨name, paramsModule, fields⟩

def polynomialFields : List Field := [.of "power" .float (.float 1.0) false, .of "cycle" .bool (.bool false) false]

/-- The registered schedule records, by registered name, in registration order. -/
def scheduleRecords : List (String × Record) :=
  [("SchedulerParams", scheduleRecord "SchedulerParams" [lastEpochField]),
   ("WarmupPolicyParams", scheduleRecord "WarmupSchedulerParams" warmupFields),
   ("WarmupHoldPolicyParams", scheduleRecord "WarmupHoldSchedulerParams"
      (warmupFields ++ [.of "hold_steps" .float .null true, .of "hold_ratio" .float .null true,
        minLrField (.float 0.0)])),
   ("SquareAnnealingParams", scheduleRecord "SquareAnnealingParams" (warmupFields ++ [minLrField (.float 1e-5)])),
   ("SquareRootAnnealingParams", scheduleRecord "SquareRootAnnealingParams" (warmupFields ++ [minLrField (.float 0.0)])),
   ("InverseSquareRootAnnealingParams", scheduleRecord "InverseSquareRootAnnealingParams" warmupFields),
   ("CosineAnnealingParams", scheduleRecord "CosineAnnealingParams" (warmupFields ++ [minLrField (.float 0.0)])),
   ("NoamAnnealingParams", scheduleRecord "NoamAnnealingParams" (warmupFields ++ [minLrField (.float 0.0)])),
   ("WarmupAnnealingParams", scheduleRecord "WarmupAnnealingParams" warmupFields),
   ("PolynomialDecayAnnealingParams", scheduleRecord "PolynomialDecayAnnealingParams" (warmupFields ++ polynomialFields)),
   ("PolynomialHoldDecayAnnealingParams", scheduleRecord "PolynomialHoldDecayAnnealingParams" (warmupFields ++ polynomialFields))]

def externalScheduleRecords : List Record :=
  [scheduleRecord "StepLRParams" [lastEpochField, .of "step_size" .float (.float 0.1) false,
      .of "gamma" .float (.float 0.1) false],
   scheduleRecord "ExponentialLRParams" [lastEpochField, .of "gamma" .float (.float 0.9) false],
   scheduleRecord "ReduceLROnPlateauParams"
     [.of "mode" .str (.str "min") false, .of "factor" .float (.float 0.1) false,
      .of "patience" .int (.int 10) false, .of "verbose" .bool (.bool false) false,
      .of "threshold" .float (.float 1e-4) false, .of "threshold_mode" .str (.str "rel") false,
      .of "cooldown" .int (.int 0) false, .of "min_lr" .float (.int 0) false,
      .of "eps" .float (.float 1e-8) false],
   scheduleRecord "CyclicLRParams"
     [lastEpochField, .of "base_lr" .float (.float 0.001) false, .of "max_lr" .float (.float 0.1) false,
      .of "step_size_up" .int (.int 2000) false, .of "step_size_down" .int .null true,
      .of "mode" .str (.str "triangular") false, .of "gamma" .float (.float 1.0) false,
      .of "scale_mode" .str (.str "cycle") false, .of "cycle_momentum" .bool (.bool true) false,
      .of "base_momentum" .float (.float 0.8) false, .of "max_momentum" .float (.float 0.9) false]]

def unresolvedScheduleParams (name : String) : Failure :=
  .value s!"Cannot resolve scheduler parameters '{name}'. Available scheduler parameters are : {Text.keysView (scheduleRecords.map (·.1))}"

def scheduleRecord? (name : String) : Result Record :=
  match scheduleRecords.find? (·.1 == name) with
  | some (_, r) => .ok r
  | none => .error (unresolvedScheduleParams name)

/-- Registering a schedule record under a name: refused when the name is taken. -/
def registerScheduleParams (name : String) : Result Unit :=
  if (scheduleRecords.map (·.1)).contains name then
    .error (.value s!"Cannot override pre-existing optimizers. Conflicting optimizer name = {name}")
  else .ok ()

end Conversa.Schedule
