import Conversa.Entry.Instance
import Conversa.Data.Arith
import Conversa.Optim.Arguments
import Conversa.Schedule.Prepare
import Conversa.Training.EpochEnd

/-!
# The shared methods of models by name

Every model shares the bookkeeping of a training run: `setup_optimization` builds the optimizer
and schedule a configuration describes (the horizon from the trainer), `validation_epoch_end` and
`test_epoch_end` merge the results of the evaluation loaders (`Training.Merged`), and the loader
prefixes, trainer and dataset settings.  A model's own callables are reached through the object,
so a stand-in recorder answers for them.
-/

namespace Conversa.Callees

open Entry Training

def configOf (d : Data) : Data := plain d

/-- A configuration with one entry set, keeping the wrapper of a configuration object. -/
def setConfigEntry (cfg : Data) (k : String) (v : Data) : Data :=
  match tagged? cfg "$cfg" with
  | some inner => .dict [("$cfg", inner.set k v)]
  | none => cfg.set k v

/-- A configuration with one entry removed, keeping the wrapper of a configuration object. -/
def eraseConfigEntry (cfg : Data) (k : String) : Data :=
  match tagged? cfg "$cfg" with
  | some inner => .dict [("$cfg", inner.erase k)]
  | none => cfg.erase k

def attrOf (d : Data) (name : String) : Method Data := (attr d name)

def isWhole : Data → Bool
  | .int _ | .bool _ => true
  | _ => false

/-- The number of workers a trainer trains on, as its backend counts them. -/
def workerCount (trainer : Data) : Method Data := do
  let backend ← attrOf trainer "distributed_backend"
  match backend with
  | .null =>
    let gpus ← attrOf trainer "num_gpus"
    pure (if gpus.truthy then gpus else .int 1)
  | .str "ddp_cpu" => Data.times (← attrOf trainer "num_processes") (← attrOf trainer "num_nodes")
  | _ => Data.times (← attrOf trainer "num_gpus") (← attrOf trainer "num_nodes")

/-- The schedule section with the trainer's horizon, or its run shape when it has no horizon. -/
def withRunShape (sched : Data) (trainer : Data) : Method Data := do
  if !isWhole (← attrOf trainer "accumulate_grad_batches") then
    throw (.value "We do not currently support gradient acculumation that is not an integer.")
  let maxSteps ← attrOf trainer "max_steps"
  if maxSteps.isNull then
    let sched := sched.set "t_max_epochs" (← attrOf trainer "max_epochs")
    let sched := sched.set "t_accumulate_grad_batches" (← attrOf trainer "accumulate_grad_batches")
    let sched := sched.set "t_limit_train_batches" (← attrOf trainer "limit_train_batches")
    pure (sched.set "t_num_workers" (← workerCount trainer))
  else pure (sched.set "max_steps" maxSteps)

/-- The shape of a training loader: its number of samples, batch size and whether it drops the
last partial batch. -/
def loaderShape (loader : Data) : Method (Option Schedule.Loader) := do
  if loader.isNull then return none
  let samples ← Data.size (plain (← attrOf loader "dataset"))
  let scalar (d : Data) : Numeric.Scalar := (d.scalar?).getD .none
  pure (some ⟨.int samples, scalar (← attrOf loader "batch_size"), scalar (← attrOf loader "drop_last")⟩)

/-- The schedule a section describes, written as the trainer's schedule entry. -/
def scheduleEntry (sched : Option Data) (loader : Option Schedule.Loader) : Method Data := do
  let some section_ := sched | return .null
  match ← (Schedule.prepare section_ loader) with
  | none => pure .null
  | some p =>
    pure (.dict [("scheduler", objectData p.schedule.policy.name
      (p.schedule.attributes.map fun (k, v) => (k, v.toData))),
      ("interval", .str p.interval), ("frequency", .int 1), ("monitor", p.monitor),
      ("reduce_on_plateau", .bool false)])

/-- An optimizer built from a class path with the model's parameters and keyword settings: the
mapping class gives the settings themselves. -/
def optimizerAt (path : String) (kws : Entries) : Method Data := do
  if path == "builtins.dict" then
    let params ← Method.callOwn "parameters" [] [] (Method.fail .noTorch)
    let pairs ← Data.elements (plain params)
    let base ← pairs.foldlM (fun (acc : Data) p => do
      match plain p with
      | .list [k, v] => pure (acc.set (keyText k) v)
      | _ => throw (.type "cannot convert dictionary update sequence element #0 to a sequence")) (.dict [])
    pure (kws.filter (·.1 != "_target_") |>.foldl (fun acc (k, v) => acc.set k v) base)
  else Method.fail ⟨"ImportError", s!"Error loading module '{path}'"⟩

def setupOptimization : Callee :=
  method "ModelPT.setup_optimization" [opt "optim_config" .null] fun vals => do
    let own ← Method.attr "_cfg"
    let ownOptim := if configOf own |>.isNull then none else (configOf own).get? "optim"
    let given := plainArg vals 0
    let optimCfg := if given.isNull then ownOptim.getD .null else given
    if optimCfg.isNull then return .null
    if ownOptim.isSome then Method.setAttr "_cfg" (setConfigEntry own "optim" optimCfg)
    let trainer ← Method.attr "_trainer"
    let optimCfg ← match optimCfg.get? "sched" with
      | some sched =>
        if trainer.isNull then pure optimCfg
        else pure (optimCfg.set "sched" (← withRunShape sched trainer))
      | none => pure optimCfg
    let sched := optimCfg.get? "sched"
    let optimCfg := optimCfg.erase "sched"
    let target := optimCfg.get? "_target_"
    let name := match target with
      | some (.str p) => (((p.splitOn ".").getLast?).getD p).toLower
      | _ => ((optimCfg.get? "name").getD (.str "adam")).text
    let lr := (optimCfg.get? "lr").getD .null
    let args ← match optimCfg.get? "args" with
      | some a => Optim.optimizerArguments name a
      | none => pure (((optimCfg.erase "name").erase "cls").erase "lr")
    let args := if lr.isNull then args else args.set "lr" lr
    let optimizer ← match target with
      | some (.str path) =>
        let kws := (if lr.isNull then [] else [("lr", lr)]) ++ args.entries
        optimizerAt path (kws.foldl (fun acc (k, v) => putEntry acc k v) [])
      | _ => do
        Optim.resolveOptimizer name
        Method.fail .noTorch
    Method.setAttr "_optimizer" optimizer
    let scheduler ← scheduleEntry sched (← loaderShape (← Method.attr "_train_dl"))
    Method.setAttr "_scheduler" scheduler
    pure (.list [optimizer, scheduler])

/-- The names an evaluation stage uses. -/
structure EvaluationStage where
  loss : String
  /-- The attribute naming the loader whose names stay bare. -/
  chosenIndex : String
  prefixes : String
  prefixMethod : String
  perLoader : String
deriving Inhabited

def validationStage : EvaluationStage :=
  ⟨"val_loss", "_val_dl_idx", "_validation_names", "get_validation_dataloader_prefix",
    "multi_validation_epoch_end"⟩

def testStage : EvaluationStage :=
  ⟨"test_loss", "_test_dl_idx", "_test_names", "get_test_dataloader_prefix", "multi_test_epoch_end"⟩

/-- The prefix of a loader: the object's own method, or its list of prefixes. -/
def loaderPrefix (st : EvaluationStage) (i : Nat) : Method Data :=
  Method.callOwn st.prefixMethod [.int i] [] do
    (← Method.attr st.prefixes).item i

def logForEpoch (entries : Data) : Method Unit := do
  let _ ← Method.callOwn "log_dict" [entries] [("on_epoch", .bool true)] (pure .null)

/-- The models whose result for a loader averages the loss of every batch: the loss of each
batch is read before the average is taken, which needs tensors. -/
def batchLossModels : List String :=
  ["EncDecCTCModel", "EncDecCTCModelBPE", "EncDecClassificationModel", "EncDecRegressionModel",
    "EncDecSpeakerLabelModel"]

/-- The result of one loader as the model's own class gives it: nothing for a model that keeps
no per-loader summary, and for a model that averages the batch losses, the loss of every batch
read before tensors are needed. -/
def ownLoaderResult (st : EvaluationStage) (outputs : Data) : Method Data := do
  if batchLossModels.contains (← Method.className) then
    for batch in ← outputs.elements do
      let _ ← batch.key st.loss
    Method.fail .noTorch
  else pure .null

/-- The end of an evaluation epoch over the results of one or several loaders. -/
def epochEnd (st : EvaluationStage) (outputs : Data) : Method Data := do
  let outputs := plain outputs
  if let .list [] := outputs then return .dict []
  let first ← outputs.item 0
  let perLoader (out : Data) (i : Nat) : Method Data :=
    Method.callOwn st.perLoader [out] [("dataloader_idx", .int i)] (ownLoaderResult st out)
  match first with
  | .dict _ =>
    let result ← perLoader outputs 0
    match result.get? "log" with
    | some log =>
      logForEpoch log
      pure (result.erase "log")
    | none => pure result
  | _ =>
    let items ← Data.elements outputs
    let merged ← items.zipIdx.foldlM (fun (m : Merged) (out, i) => do
      let pre ← loaderPrefix st i
      let result ← perLoader out i
      let chosen ← if result.truthy then do pure (Data.same (.int i) (← Method.attr st.chosenIndex))
        else pure false
      (m.add st.loss chosen pre result)) {}
    logForEpoch (.dict merged.logged)
    pure (.dict merged.returned)

def validationEpochEnd : Callee :=
  method "ModelPT.validation_epoch_end" [req "outputs"] fun vals => epochEnd validationStage (arg vals 0)

def testEpochEnd : Callee :=
  method "ModelPT.test_epoch_end" [req "outputs"] fun vals => epochEnd testStage (arg vals 0)

/-- `ModelPT.multi_validation_epoch_end`: nothing unless a
model says otherwise. -/
def multiValidationEpochEnd : Callee :=
  method "ModelPT.multi_validation_epoch_end" [req "outputs", opt "dataloader_idx" (.int 0)] fun _ =>
    pure .null

def multiTestEpochEnd : Callee :=
  method "ModelPT.multi_test_epoch_end" [req "outputs", opt "dataloader_idx" (.int 0)] fun _ =>
    pure .null

def validationPrefix : Callee :=
  method "ModelPT.get_validation_dataloader_prefix" [opt "dataloader_idx" (.int 0)] fun vals => do
    (← Method.attr "_validation_names").item ((arg vals 0).int?.getD 0)

def testPrefix : Callee :=
  method "ModelPT.get_test_dataloader_prefix" [opt "dataloader_idx" (.int 0)] fun vals => do
    (← Method.attr "_test_names").item ((arg vals 0).int?.getD 0)

/-- Attaches a trainer; the world size is only taken from a real trainer, which no stand-in
is. -/
def Method.setTrainer (trainer : Data) : Method Unit := do
  Method.setAttr "trainer" trainer
  Method.setAttr "_trainer" trainer

def setTrainer : Callee :=
  method "ModelPT.set_trainer" [req "trainer"] fun vals => do
    Method.setTrainer (arg vals 0)
    pure .null

def setWorldSize : Callee :=
  method "ModelPT.set_world_size" [req "trainer"] fun _ => pure .null

/-- `ModelPT.prepare_test`: a model without a test section, or a trainer on more
than one device, is not ready. -/
def prepareTest : Callee :=
  method "ModelPT.prepare_test" [req "trainer"] fun vals => do
    if !(configOf (← Method.attr "_cfg")).has "test_ds" then return .bool false
    let trainer := arg vals 0
    if !trainer.isNull then
      if ← (Data.greaterThan (← attrOf trainer "num_gpus") (.int 1)) then
        return .bool false
    Method.setTrainer trainer
    pure (.bool true)

/-- Keeps the configuration of a dataset in the model's own configuration, under the section of
its name, unless the model runs several datasets. -/
def Method.updateDatasetConfig (name config : Data) : Method Unit := do
  if let some mode ← Method.attr? "_multi_dataset_mode" then
    if mode == .bool true then return
  if config.isNull then return
  if !([Data.str "train", .str "validation", .str "test"].contains name) then
    throw (.value "`dataset_name` when updating config must be one of [train, validation, test]")
  let own ← Method.attr "_cfg"
  Method.setAttr "_cfg" (setConfigEntry own (name.text ++ "_ds") (plain config))

def updateDatasetConfig : Callee :=
  method "ModelPT._update_dataset_config" [req "dataset_name", req "config"] fun vals => do
    Method.updateDatasetConfig (arg vals 0) (arg vals 1)
    pure .null

/-- The ways a model may be initialised from stored weights, in the order they are tried. -/
def initialisations : List String := ["init_from_nemo_model", "init_from_pretrained_model", "init_from_ptl_ckpt"]

def Method.loadFrom (restored : Data) : Method Unit := do
  let weights ← (invokeOn restored ["state_dict"] [])
  let _ ← Method.callOwn "load_state_dict" [weights] [("strict", .bool false)] (pure .null)

def initFromCheckpoint : Callee :=
  method "ModelPT.maybe_init_from_pretrained_checkpoint" [req "cfg", opt "map_location" (.str "cpu")]
    fun vals => do
    let cfg := plainArg vals 0
    let location := arg vals 1
    let found := initialisations.filter cfg.has
    if found.isEmpty then return .null
    if found.length > 1 then
      throw (.value s!"Cannot pass more than one model initialization arguments to config!\nFound : {(Data.strs found).show}")
    let take (k : String) : Method Data := do
      let v := cfg.getD k
      Method.setArgument 0 (eraseConfigEntry (arg vals 0) k)
      pure v
    if !(cfg.getD "init_from_nemo_model").isNull then
      let path ← take "init_from_nemo_model"
      let restored ← Method.callOwn "restore_from" [path]
        [("map_location", location), ("strict", .bool true)] (Method.fail .noTorch)
      Method.loadFrom restored
    else if !(cfg.getD "init_from_pretrained_model").isNull then
      let name ← take "init_from_pretrained_model"
      if let some trainer ← Method.attr? "trainer" then
        if !trainer.isNull then
          if let .ok resume := attr trainer "resume_from_checkpoint" then
            if !resume.isNull then return .null
      let restored ← Method.callOwn "from_pretrained" [name]
        [("map_location", location), ("strict", .bool true)] (Method.fail .noTorch)
      Method.loadFrom restored
    else if !(cfg.getD "init_from_ptl_ckpt").isNull then
      let _ ← take "init_from_ptl_ckpt"
      Method.fail .noTorch
    pure .null

def modelCallees : List (String × Callee) :=
  let m := "nemo.core.classes.modelPT:ModelPT."
  [(m ++ "setup_optimization", setupOptimization), (m ++ "validation_epoch_end", validationEpochEnd),
   (m ++ "test_epoch_end", testEpochEnd), (m ++ "multi_validation_epoch_end", multiValidationEpochEnd),
   (m ++ "multi_test_epoch_end", multiTestEpochEnd),
   (m ++ "get_validation_dataloader_prefix", validationPrefix), (m ++ "get_test_dataloader_prefix", testPrefix),
   (m ++ "set_trainer", setTrainer), (m ++ "set_world_size", setWorldSize), (m ++ "prepare_test", prepareTest),
   (m ++ "_update_dataset_config", updateDatasetConfig),
   (m ++ "maybe_init_from_pretrained_checkpoint", initFromCheckpoint)]

end Conversa.Callees
