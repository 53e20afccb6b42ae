import Conversa.Config.Record

/-!
# Optimizers and their parameter records

Optimizers are chosen by name (`sgd`, `adam`, `novograd`, …) and configured by a parameter record:
the learning rate `lr`, to be given in every record, and the optimizer's settings with defaults,
registered as `<optimizer>_params`, plus `optim_params` with the rate only.  Only the names and
records are described here; `lamb` needs an optional package and is not registered.
-/

namespace Conversa.Optim

open Config

def paramsModule : String := "nemo.core.config.optimizers"

def optimizerRecord (name : String) (fields : List Field) : Record :=
  ⟨name, paramsModule, .of "lr" .float missingValue true :: fields⟩

def real (name : String) (d : Data) : Field := .of name .float d false

def flag (name : String) : Field := .of name .bool (.bool false) false

def pair (name : String) (a b : Data) : Field := .of name (.seq .float) (.list [a, b]) false

/-- The registered optimizer records, by registered name, in registration order. -/
def optimizerRecords : List (String × Record) :=
  [("optim_params", optimizerRecord "OptimizerParams" []),
   ("adam_params", optimizerRecord "AdamParams"
      [real "eps" (.float 1e-08), real "weight_decay" (.int 0), flag "amsgrad"]),
   ("novograd_params", optimizerRecord "NovogradParams"
      [pair "betas" (.float 0.95) (.float 0.98), real "eps" (.float 1e-8), real "weight_decay" (.int 0),
       flag "grad_averaging", flag "amsgrad", flag "luc", real "luc_trust" (.float 1e-3),
       real "luc_eps" (.float 1e-8)]),
   ("sgd_params", optimizerRecord "SGDParams"
      [real "momentum" (.int 0), real "dampening" (.int 0), real "weight_decay" (.int 0), flag "nesterov"]),
   ("adadelta_params", optimizerRecord "AdadeltaParams"
      [real "rho" (.float 0.9), real "eps" (.float 1e-6), real "weight_decay" (.int 0)]),
   ("adamax_params", optimizerRecord "AdamaxParams"
      [pair "betas" (.float 0.9) (.float 0.999), real "eps" (.float 1e-8), real "weight_decay" (.int 0)]),
   ("adagrad_params", optimizerRecord "AdagradParams"
      [real "lr_decay" (.int 0), real "weight_decay" (.int 0), real "initial_accumulator_value" (.int 0),
       real "eps" (.float 1e-10)]),
   ("adamw_params", optimizerRecord "AdamWParams"
      [pair "betas" (.float 0.9) (.float 0.999), real "eps" (.float 1e-08), real "weight_decay" (.int 0),
       flag "amsgrad"]),
   ("rmsprop_params", optimizerRecord "RMSpropParams"
      [real "alpha" (.float 0.99), real "eps" (.float 1e-8), real "weight_decay" (.int 0),
       real "momentum" (.int 0), flag "centered"]),
   ("rprop_params", optimizerRecord "RpropParams"
      [pair "etas" (.float 0.5) (.float 1.2), pair "step_sizes" (.float 1e-6) (.int 50)])]

def optimizerNames : List String :=
  ["sgd", "adam", "adamw", "adadelta", "adamax", "adagrad", "rmsprop", "rprop", "novograd"]

def unresolvedOptimizer (name : String) : Failure :=
  .value s!"Cannot resolve optimizer '{name}'. Available optimizers are : {Text.keysView optimizerNames}"

def resolveOptimizer (name : String) : Result Unit :=
  if optimizerNames.contains name then .ok () else .error (unresolvedOptimizer name)

def optimizerTaken (name : String) : Failure :=
  .value s!"Cannot override pre-existing optimizers. Conflicting optimizer name = {name}"

/-- Registering an optimizer under a name: refused when the name is taken. -/
def registerOptimizer (name : String) : Result Unit :=
  if optimizerNames.contains name then .error (optimizerTaken name) else .ok ()

/-- Registering an optimizer record under a name: refused when the name is taken. -/
def registerOptimizerParams (name : String) : Result Unit :=
  if (optimizerRecords.map (·.1)).contains name then .error (optimizerTaken name) else .ok ()

/-- The failure for an optimizer record name that resolves to nothing. -/
def unresolvedOptimizerParams (name : String) : Failure :=
  .value s!"Cannot resolve optimizer parameters '{name}'. Available optimizer parameters are : {Text.keysView (optimizerRecords.map (·.1))}"

def optimizerRecord? (name : String) : Result Record :=
  match optimizerRecords.find? (·.1 == name) with
  | some (_, r) => .ok r
  | none => .error (unresolvedOptimizerParams name)

/-- The parameters of a registered optimizer record with keyword overrides: the overrides are
checked against the record's types, then fill its fields. -/
def optimizerConfig (name : String) (kws : Entries) : Result (Entries) := do
  let r ← optimizerRecord? name
  if !kws.isEmpty then r.checkOverride kws
  r.instantiate kws

end Conversa.Optim
