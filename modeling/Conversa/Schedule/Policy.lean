import Conversa.Numeric.Scalar
import Conversa.Signature
import Conversa.Text.Unicode

/-!
# Learning-rate schedules

A schedule gives the rate of each parameter group at each step: a linear **warm-up** over
`warmup_steps` (or a ratio of `max_steps`), the floor `min_lr` past `max_steps`, and the policy
in between: the warm-up and **hold** policies keep the initial rates, the annealing policies
follow the curves below.  `Policy.configure` checks keyword settings as the constructor does;
`Schedule.rates` gives the rates at one step, each formula evaluated in the configuration's
numbers.
-/

/-!
## Annealing curves

The decay shapes the schedules are built from.  Each is evaluated in the configuration's own
numbers, in the order its formula reads, so that the first failure met is the one reported.
-/

namespace Conversa.Schedule

open Numeric

/-- The initial rate times `((T - t) / T)^(1/2)`, never below the floor. -/
def squareRootAnnealing (initialLr step maxSteps minLr : Scalar) : Except ArithError Scalar := do
  let mult ← (← (← maxSteps.sub step).truediv maxSteps).pow (.float 0.5)
  let out ← initialLr.mul mult
  Scalar.max out minLr

/-- The initial rate times `((T - t) / T)^2`, never below the floor. -/
def squareAnnealing (initialLr step maxSteps minLr : Scalar) : Except ArithError Scalar := do
  let mult ← (← (← maxSteps.sub step).truediv maxSteps).pow (.int 2)
  let out ← initialLr.mul mult
  Scalar.max out minLr

def pi : Float := 3.141592653589793

/-- The floor plus the distance to it times `(1 + cos (π t / T)) / 2`. -/
def cosineAnnealing (initialLr step maxSteps minLr : Scalar) : Except ArithError Scalar := do
  let angle ← (← (Scalar.float pi).mul step).truediv maxSteps
  let mult ← (Scalar.float 0.5).mul (← (Scalar.int 1).add (← angle.cos))
  (← (← initialLr.sub minLr).mul mult).add minLr

/-- The floor plus the distance to it times `(1 - t/T)^power`.  Without cycling the step stops
at the horizon; with cycling the horizon is multiplied by `⌈t/T⌉` (by one at step zero). -/
def polynomialDecay (initialLr step decaySteps power minLr cycle : Scalar) :
    Except ArithError Scalar := do
  let (step, decaySteps) ←
    if cycle.truthy then do
      let multiplier ←
        if step.eq (.int 0) then pure (Scalar.float 1.0) else (← step.truediv decaySteps).ceil
      pure (step, ← decaySteps.mul multiplier)
    else do
      pure (← Scalar.min step decaySteps, decaySteps)
  let p ← step.truediv decaySteps
  let lr ← (← initialLr.sub minLr).mul (← (← (Scalar.float 1.0).sub p).mathPow power)
  lr.add minLr

/-- The warm-up factor `(t + 1) / (W + 1)` that multiplies every initial rate. -/
def rampFactor (step warmupSteps : Scalar) : Except ArithError Scalar := do
  (← step.add (.int 1)).truediv (← warmupSteps.add (.int 1))

/-- The inverse-square-root divisor `((t + 1) / (W + 1))^(1/2)` of every initial rate. -/
def inverseSquareRootDivisor (step warmupSteps : Scalar) : Except ArithError Scalar := do
  (← rampFactor step warmupSteps).pow (.float 0.5)

/-- The Noam rate: `normalize · min (t^(-1/2), t · W^(-3/2))` times the initial rate, never
below the floor once the warm-up is over. -/
def noamAnnealing (normalize initialLr step warmupSteps minLr : Scalar) :
    Except ArithError Scalar := do
  let decay ← step.pow (.float (-0.5))
  let ramp ← step.mul (← warmupSteps.pow (.float (-1.5)))
  let mult ← normalize.mul (← Scalar.min decay ramp)
  let out ← initialLr.mul mult
  if ← step.gt warmupSteps then Scalar.max out minLr else pure out

/-- The linear decay factor after a warm-up, `max ((t/T - 1) / (W/T - 1), 0)`: one at the end
of the warm-up, zero at the horizon. -/
def linearDecayFactor (step maxSteps warmupSteps : Scalar) : Except ArithError Scalar := do
  let progress ← step.truediv maxSteps
  let warmupRatio ← warmupSteps.truediv maxSteps
  Scalar.max (← (← progress.sub (.float 1.0)).truediv (← warmupRatio.sub (.float 1.0))) (.float 0.0)

end Conversa.Schedule

namespace Conversa.Schedule

open Numeric Keywords

/-- The schedule policies, one per kind of schedule. -/
inductive Policy where
  | warmup
  | warmupHold
  | square
  | cosine
  | noam
  | warmupAnnealing
  /-- Warm-up, then inverse-square-root decay. -/
  | inverseSquareRoot
  /-- Warm-up, then square-root decay over the whole horizon. -/
  | squareRoot
  | polynomialDecay
  | polynomialHoldDecay
deriving DecidableEq, Repr, Inhabited

namespace Policy

def all : List Policy :=
  [.warmup, .warmupHold, .square, .cosine, .noam, .warmupAnnealing, .inverseSquareRoot,
    .squareRoot, .polynomialDecay, .polynomialHoldDecay]

def name : Policy → String
  | .warmup => "WarmupPolicy"
  | .warmupHold => "WarmupHoldPolicy"
  | .square => "SquareAnnealing"
  | .cosine => "CosineAnnealing"
  | .noam => "NoamAnnealing"
  | .warmupAnnealing => "WarmupAnnealing"
  | .inverseSquareRoot => "InverseSquareRootAnnealing"
  | .squareRoot => "SquareRootAnnealing"
  | .polynomialDecay => "PolynomialDecayAnnealing"
  | .polynomialHoldDecay => "PolynomialHoldDecayAnnealing"

def holds : Policy → Bool
  | .warmupHold | .polynomialHoldDecay => true
  | _ => false

def polynomial : Policy → Bool
  | .polynomialDecay | .polynomialHoldDecay => true
  | _ => false

/-- The floor a policy uses when none is configured. -/
def defaultMinLr : Policy → Scalar
  | .square => .float 1e-5
  | .squareRoot | .cosine => .int 0
  | _ => .float 0.0

def warmupParams : List Param :=
  [.kwOpt "warmup_steps", .kwOpt "warmup_ratio", .kwOpt "max_steps", .kwOpt "min_lr",
    .kwOpt "last_epoch"]

def holdParams : List Param :=
  [.kwOpt "warmup_steps", .kwOpt "warmup_ratio", .kwOpt "hold_steps", .kwOpt "hold_ratio",
    .kwOpt "max_steps", .kwOpt "min_lr", .kwOpt "last_epoch"]

/-- The parameter list of a policy's constructor; its first parameter, the optimizer, is always
given by position. -/
def signature (p : Policy) : Signature :=
  let own (ps : List Param) (extra : Bool) : Signature :=
    ⟨p.name ++ ".__init__", Param.req "optimizer" :: ps, extra⟩
  match p with
  | .warmup => own warmupParams false
  | .warmupHold => own holdParams false
  | .noam => own (.kwReq "d_model" :: warmupParams) false
  | .square | .squareRoot | .cosine =>
    own [.kwReq "max_steps", .kwOpt "min_lr", .kwOpt "last_epoch"] true
  | .warmupAnnealing | .inverseSquareRoot =>
    own [.kwReq "max_steps", .kwOpt "last_epoch", .kwOpt "min_lr"] true
  | .polynomialDecay | .polynomialHoldDecay =>
    own [.kwReq "max_steps", .kwOpt "min_lr", .kwOpt "power", .kwOpt "cycle", .kwOpt "last_epoch"] true

/-- The policy a decaying policy hands its remaining configuration to: the hold policy for
those with a hold phase, the warm-up policy for the others.  The two base policies and the Noam
rule configure themselves. -/
def base : Policy → Option Policy
  | .warmup | .warmupHold | .noam => none
  | .polynomialHoldDecay => some .warmupHold
  | _ => some .warmup

end Policy

/-- A configured schedule: the policy and the settings its constructor resolved.  Settings a
policy does not have keep their neutral values and are not reported. -/
structure Schedule where
  policy : Policy
  maxSteps : Scalar
  warmupSteps : Scalar
  /-- The step where the hold phase ends, counted from the start (hold policies). -/
  holdSteps : Scalar
  minLr : Scalar
  power : Scalar
  cycle : Scalar
  normalize : Scalar
deriving Inhabited

def bothGiven : String := "Either use particular number of step or ratio"

def ratioWithoutTotal : String := "If there is a ratio, there should be a total steps"

def arith {α : Type} (x : Except ArithError α) : Result α :=
  x.mapError ArithError.toFailure

/-- The checks on a count and a ratio of the same phase: not both, and no ratio without a
horizon. -/
def checkCountOrRatio (count ratio total : Scalar) : Result Unit := do
  if count.isGiven && ratio.isGiven then throw (.assertion bothGiven)
  if ratio.isGiven && !total.isGiven then throw (.assertion ratioWithoutTotal)

/-- A phase length given as a count, or as a ratio of the horizon truncated to a whole number,
or zero. -/
def resolveSteps (count ratio total : Scalar) : Result Scalar :=
  if count.isGiven then pure count
  else if ratio.isGiven then arith do (← ratio.mul total).intOf
  else pure (.int 0)

/-- The settings of the warm-up policy's constructor: the checks, then the horizon, the
warm-up length and the floor. -/
def warmupSettings (b : Bound Scalar) : Result (Scalar × Scalar × Scalar) := do
  let count := b.getD "warmup_steps" .none
  let ratio := b.getD "warmup_ratio" .none
  let total := b.getD "max_steps" .none
  checkCountOrRatio count ratio total
  let warmupSteps ← resolveSteps count ratio total
  pure (total, warmupSteps, b.getD "min_lr" (.float 0.0))

/-- The hold boundary of the hold policy's constructor.  The hold settings are checked first;
the warm-up length is resolved before the warm-up checks run, so a warm-up ratio without a
horizon fails in its arithmetic. -/
def holdBoundary (b : Bound Scalar) : Result Scalar := do
  let holdCount := b.getD "hold_steps" .none
  let holdRatio := b.getD "hold_ratio" .none
  let total := b.getD "max_steps" .none
  checkCountOrRatio holdCount holdRatio total
  let warmupSteps ← resolveSteps (b.getD "warmup_steps" .none) (b.getD "warmup_ratio" .none) total
  if holdCount.isGiven then arith (holdCount.add warmupSteps)
  else if holdRatio.isGiven then arith do (← (← holdRatio.mul total).intOf).add warmupSteps
  else pure (.int 0)

def Schedule.blank (p : Policy) : Schedule :=
  ⟨p, .none, .int 0, .int 0, .float 0.0, .float 1.0, .bool false, .none⟩

def configureBase (p : Policy) (b : Bound Scalar) : Result Schedule := do
  let holdSteps ← if p.holds then holdBoundary b else pure (.int 0)
  let (maxSteps, warmupSteps, minLr) ← warmupSettings b
  pure { Schedule.blank p with maxSteps, warmupSteps, minLr, holdSteps }

/-- Configures a schedule of policy `p` from keyword settings, as its constructor does. -/
def Policy.configure (p : Policy) (kws : List (String × Scalar)) : Result Schedule := do
  let b ← p.signature.bind 1 kws
  match p.base with
  | none =>
    if p == .noam then
      let normalize ← arith ((b.getD "d_model" .none).pow (.float (-0.5)))
      let (maxSteps, warmupSteps, minLr) ← warmupSettings b
      pure { Schedule.blank .noam with maxSteps, warmupSteps, minLr, normalize }
    else configureBase p b
  | some parent =>
    let forwarded :=
      [("max_steps", b.getD "max_steps" .none), ("last_epoch", b.getD "last_epoch" (.int (-1))),
        ("min_lr", b.getD "min_lr" p.defaultMinLr)] ++ b.extra
    let pb ← parent.signature.bind 1 forwarded
    let s ← configureBase parent pb
    pure { s with policy := p, power := b.getD "power" (.float 1.0), cycle := b.getD "cycle" (.bool false) }

/-- The settings a schedule reports, in a fixed order: horizon, warm-up, hold boundary, floor,
then the policy's own settings. -/
def Schedule.attributes (s : Schedule) : List (String × Scalar) :=
  [("max_steps", s.maxSteps), ("warmup_steps", s.warmupSteps)]
    ++ (if s.policy.holds then [("hold_steps", s.holdSteps)] else [])
    ++ [("min_lr", s.minLr)]
    ++ (if s.policy.polynomial then [("power", s.power), ("cycle", s.cycle)] else [])
    ++ (if s.policy == .noam then [("_normalize", s.normalize)] else [])
    ++ (if s.policy.holds then [("_last_warmup_lr", .float 0.0)] else [])

def belowFloor (p : Policy) : Failure :=
  .value s!"<nemo.core.optim.lr_scheduler.{p.name} object at 0x0> received an initial learning rate that was lower than the minimum learning rate."

def Schedule.checkFloor (s : Schedule) (baseLrs : List Scalar) : Result Unit :=
  baseLrs.forM fun lr => do
    if ← arith (lr.lt s.minLr) then throw (belowFloor s.policy)

/-- The rates after the warm-up (and hold) phases and before the horizon. -/
def Schedule.decayed (s : Schedule) (baseLrs : List Scalar) (step : Scalar) :
    Result (List Scalar) :=
  match s.policy with
  | .warmup | .warmupHold | .noam => pure baseLrs
  | .square => baseLrs.mapM fun lr => arith do
      squareAnnealing lr (← step.sub s.warmupSteps) (← s.maxSteps.sub s.warmupSteps) s.minLr
  | .squareRoot => baseLrs.mapM fun lr => arith (squareRootAnnealing lr step s.maxSteps s.minLr)
  | .cosine => do
    s.checkFloor baseLrs
    baseLrs.mapM fun lr => arith do
      cosineAnnealing lr (← step.sub s.warmupSteps) (← s.maxSteps.sub s.warmupSteps) s.minLr
  | .warmupAnnealing => do
    let mult ← arith (linearDecayFactor step s.maxSteps s.warmupSteps)
    baseLrs.mapM fun lr => arith (lr.mul mult)
  | .inverseSquareRoot => do
    let denom ← arith (inverseSquareRootDivisor step s.warmupSteps)
    baseLrs.mapM fun lr => arith (lr.truediv denom)
  | .polynomialDecay => baseLrs.mapM fun lr => arith do
      polynomialDecay lr (← step.sub s.warmupSteps) (← s.maxSteps.sub s.warmupSteps) s.power
        s.minLr s.cycle
  | .polynomialHoldDecay => baseLrs.mapM fun lr => arith do
      polynomialDecay lr (← step.sub s.holdSteps)
        (← s.maxSteps.sub (← Scalar.max s.warmupSteps s.holdSteps)) s.power s.minLr s.cycle

/-- The Noam rates at a step: the floor past the horizon, otherwise the Noam rule from step one
on, after checking the initial rates against the floor. -/
def Schedule.noamRates (s : Schedule) (baseLrs : List Scalar) (epoch : Int) :
    Result (List Scalar) := do
  let step ← arith (Scalar.max (.int 1) (.int epoch))
  if ← arith (step.gt s.maxSteps) then return baseLrs.map fun _ => s.minLr
  s.checkFloor baseLrs
  baseLrs.mapM fun lr => arith (noamAnnealing s.normalize lr step s.warmupSteps s.minLr)

/-- The rates of a schedule at step `epoch` for the initial rates `baseLrs`: the warm-up ramp
up to and including step `warmup_steps`, then the hold phase, the floor past the horizon, and the
policy's decay in between. -/
def Schedule.rates (s : Schedule) (baseLrs : List Scalar) (epoch : Int) :
    Result (List Scalar) := do
  if s.policy == .noam then return ← s.noamRates baseLrs epoch
  let step := Scalar.int epoch
  if ← arith (step.le s.warmupSteps) then
    let frac ← arith (rampFactor step s.warmupSteps)
    return ← baseLrs.mapM fun lr => arith (lr.mul frac)
  if s.policy.holds then
    if (← arith (step.ge s.warmupSteps)) && (← arith (step.lt s.holdSteps)) then
      return baseLrs
  if ← arith (step.gt s.maxSteps) then return baseLrs.map fun _ => s.minLr
  s.decayed baseLrs step

end Conversa.Schedule
