import Conversa.Callees.EvaluationLoaders
import Conversa.Labels.Statistics
import Conversa.Training.Checkpointing

/-!
# Experiment directories, by name

An experiment logs under `EXP_DIR/NAME/VERSION` or a directory given outright; a trainer with
its own logger fixes them instead.  `get_log_dir`, `check_explicit_log_dir`, `error_checks`,
`check_resume` (the one `*last.ckpt` under `LOG_DIR/checkpoints`, old files moved to `run_N`),
`configure_checkpointing` and `exp_manager`, which runs them in order.
-/

namespace Conversa.Callees

open Entry

def experimentName (name : String) : String := "nemo.utils.exp_manager:" ++ name

def loggerAdvice : String :=
  " You can disable lighning's trainer from creating a logger by passing logger=False to its constructor."

def loggerMisconfiguration (msg : String) : Failure := ⟨"LoggerMisconfigurationError", msg ++ loggerAdvice⟩

def pathData (p : String) : Data := .dict [("$path", .str p)]

/-- The text of a value used as a path: a text or a path; anything else is refused. -/
def pathArgument (d : Data) : Result String :=
  match plain d with
  | .str s => .ok s
  | other => .error (.notPath other.kindName)

def hasLogger : Method Bool := do pure !(← Method.attr "logger").isNull

/-- `check_explicit_log_dir`: the given directory, with no name or version. -/
def explicitLogDir (dir : Data) : Method Data := do
  if ← hasLogger then
    throw (loggerMisconfiguration ("The pytorch lightning trainer that was passed to exp_manager contained a " ++
      s!"logger and explicit_log_dir: {(plain dir).text} was pass to exp_manager. Please remove the logger from the " ++
      "lightning trainer."))
  let p ← pathArgument dir
  pure (.list [pathData (FileSystem.display p), .str (plain dir).text, .str "", .str ""])

/-- The directory experiments go under when none is given. -/
def defaultExperimentDir : String := workingDirectory ++ "/nemo_experiments"

/-- `get_log_dir`: the log directory, the experiment directory, the name and the version. -/
def logDir (expDir name version explicit useDatetime resume : Data) : Method Data := do
  if (plain explicit).truthy then return ← explicitLogDir explicit
  let mut base := if expDir.isNull then .str defaultExperimentDir else plain expDir
  let mut name := plain name
  let mut version := plain version
  if ← hasLogger then
    let logger ← Method.attr "logger"
    let saveDir ← Entry.attr logger "save_dir"
    if saveDir.truthy then
      if (plain expDir).truthy then
        throw (loggerMisconfiguration ("The pytorch lightning trainer that was passed to exp_manager contained " ++
          s!"a logger, the logger's save_dir was not None, and exp_dir ({(plain expDir).text}) was not None. If " ++
          "trainer.logger.save_dir exists, exp_manager will use trainer.logger.save_dir as the logging directory " ++
          "and exp_dir must be None."))
      base := saveDir
    if name.truthy then
      throw (loggerMisconfiguration ("The pytorch lightning trainer that was passed to exp_manager contained " ++
        s!"a logger, and name: {name.text} was also passed to exp_manager. If the trainer contains a logger, " ++
        "exp_manager will use trainer.logger.name, and name passed to exp_manager must be None."))
    name := ← Entry.attr logger "name"
    let number ← Entry.attr logger "version"
    version := .str ("version_" ++ number.text)
  else
    if !name.truthy then name := .str "default"
    if !version.truthy then
      if (plain resume).truthy then version := .null
      else if (plain useDatetime).truthy then
        Method.fail (.unavailable "a version named by the clock")
      else Method.fail (.unavailable "pytorch_lightning")
  let versionPart := if version.isNull then "" else version.text
  let dir := FileSystem.joinDisplay (FileSystem.joinDisplay (← pathArgument base) name.text) versionPart
  pure (.list [pathData dir, .str base.text, name, version])

def configField (cfg : Data) (key : String) : Result Data :=
  match tagged? cfg "$cfg" with
  | some inner =>
    match inner.get? key with
    | some v => .ok v
    | none => .error (Config.located "ConfigAttributeError" s!"Missing key {key}" key "dict")
  | none => Entry.attr (plain cfg) key

def aboveOne (d : Data) : Result Bool := Labels.greater d (.int 1)

/-- Whether the trainer runs under a cluster manager that manages its tasks. -/
def managedByCluster : Method Bool := do
  match ← Method.attr? "accelerator_connector" with
  | some conn =>
    match Entry.attr conn "is_slurm_managing_tasks" with
    | .ok v => pure v.truthy
    | .error _ => pure false
  | none => pure false

/-- `error_checks`: a trainer with a logger cannot have loggers made for it; other mismatches are
only reported. -/
def experimentChecks (cfg : Data) : Method Unit := do
  if ← hasLogger then
    let tb ← configField cfg "create_tensorboard_logger"
    let wandb ← configField cfg "create_wandb_logger"
    if tb.truthy || wandb.truthy then
      throw (loggerMisconfiguration ("The pytorch lightning trainer that was passed to exp_manager contained " ++
        s!"a logger, and either create_tensorboard_logger: {tb.text} or create_wandb_logger: {wandb.text} was set " ++
        "to True. These can only be used if trainer does not already have a logger."))
  if ← (aboveOne (← Method.attr "num_nodes")) then
    let _ ← managedByCluster
  if ← (aboveOne (← Method.attr "num_gpus")) then
    let _ ← Method.attr "use_ddp"

def checkpointsMissing (msg : String) : Failure := ⟨"NotFoundError", msg⟩

def pathListText (ps : List String) : String :=
  "[" ++ ", ".intercalate (ps.map fun p => s!"PosixPath({Text.quote p})") ++ "]"

/-- `check_resume`: sets the checkpoint to resume from, and moves the files left in the log
directory to a fresh run directory. -/
def resumeCheck (logDir pastEnd ignoreMissing : Data) : Method Unit := do
  let dirText := (plain logDir).text
  if !(plain logDir).truthy then
    throw (.value s!"Resuming requires the log_dir {dirText} to be passed to exp_manager")
  let ckptDir := FileSystem.joinDisplay dirText "checkpoints"
  let tree ← Method.work Work.files
  let found := tree.filesUnder ckptDir
  let endCkpts := found.filter (·.endsWith "end.ckpt")
  let lastCkpts := found.filter (·.endsWith "last.ckpt")
  let checkpoint ← if !tree.isDir ckptDir then
      if (plain ignoreMissing).truthy then return
      else throw (checkpointsMissing
        s!"There was no checkpoint folder at checkpoint_dir :{ckptDir}. Cannot resume.")
    else match endCkpts with
      | first :: more =>
        if (plain pastEnd).truthy then
          if !more.isEmpty then
            if (first.splitOn "mp_rank").length > 1 then pure (Data.str first)
            else throw (.value s!"Multiple checkpoints {pathListText endCkpts} that matches *end.ckpt.")
          else pure Data.null
        else throw (.value s!"Found {first} indicating that the last training run has already completed.")
      | [] =>
        match lastCkpts with
        | [] =>
          if (plain ignoreMissing).truthy then return
          else throw (checkpointsMissing s!"There were no checkpoints found in {ckptDir}. Cannot resume.")
        | [only] => pure (Data.str only)
        | first :: _ =>
          if (first.splitOn "mp_rank").length > 1 then pure (Data.str first)
          else throw (.value s!"Multiple checkpoints {pathListText lastCkpts} that matches *last.ckpt.")
  Method.setAttr "resume_from_checkpoint" (.str checkpoint.text)
  let leftover := (tree.entries dirText).filter fun n => tree.isFile (FileSystem.joinDisplay dirText n)
  if !leftover.isEmpty then
    let runs := (tree.entries dirText).filter fun n =>
      n.startsWith "run_" && tree.isDir (FileSystem.joinDisplay dirText n)
    let runDir := FileSystem.joinDisplay dirText s!"run_{runs.length}"
    Method.work (Work.makeDirs runDir)
    for n in leftover do
      let from_ := FileSystem.joinDisplay dirText n
      Method.work (Work.writeFile (FileSystem.joinDisplay runDir n) (← (Work.readFile from_)))
      Method.work (Work.removeFile from_)

/-- `configure_checkpointing`: completes the settings in place and adds the checkpoint callback to
the trainer.  The settings are the fourth argument. -/
def checkpointing (logDir name params : Data) : Method Unit := do
  let _ ← Data.elements (← Method.attr "callbacks")
  let saveTo ← pathArgument (← Method.attr "weights_save_path")
  if FileSystem.display saveTo != workingDirectory then
    Method.fail ⟨"CheckpointMisconfigurationError",
      "The pytorch lightning was passed weights_save_path. This variable is ignored by exp_manager"⟩
  let entries := (plain params).entries
  let dir ← match logDir with
    | .dict [("$path", .str p)] => pure p
    | other => throw (.type s!"unsupported operand type(s) for /: '{other.kindName}' and 'str'")
  let entries ← Training.completeCheckpointSettings dir (plain name).text entries
  Method.setArgument 2 (match params with
    | .dict [("$cfg", _)] => .dict [("$cfg", .dict entries)]
    | _ => .dict entries)
  let monitor ← Training.setting entries "monitor"
  if ← (monitor.holds (.str "val")) then
    let maxEpochs ← Method.attr "max_epochs"
    let _ ← Method.attr "check_val_every_n_epoch"
    if maxEpochs.isNull then let _ ← Method.attr "max_steps"
  let resumeFrom ← Method.attr "resume_from_checkpoint"
  let get (k : String) (d : Data) : Data := (entries.lookup k).getD d
  let callback := objectData "NeMoModelCheckpoint"
    [("always_save_nemo", get "always_save_nemo" (.bool false)),
     ("save_best_model", get "save_best_model" (.bool false)), ("postfix", get "postfix" (.str ".nemo")),
     ("previous_best_path", .str ""), ("prefix", get "prefix" (.str "")),
     ("last_model_path", if resumeFrom.truthy then resumeFrom else .str "")]
  let callbacks ← Data.elements (← Method.attr "callbacks")
  Method.setAttr "callbacks" (.list (callbacks ++ [callback]))

def logDirCallee : Callee :=
  methodOn "trainer" "get_log_dir"
    [opt "exp_dir" .null, opt "name" .null, opt "version" .null, opt "explicit_log_dir" .null,
     opt "use_datetime_version" (.bool true), opt "resume_if_exists" (.bool false)] fun vals => do
    let arg := arg vals
    logDir (arg 0) (arg 1) (arg 2) (arg 3) (arg 4) (arg 5)

def explicitLogDirCallee : Callee :=
  methodOn "trainer" "check_explicit_log_dir"
    [req "explicit_log_dir", req "exp_dir", req "name", req "version"] fun vals =>
    explicitLogDir (arg vals 0)

def experimentChecksCallee : Callee :=
  methodOn "trainer" "error_checks" [opt "cfg" .null] fun vals => do
    experimentChecks (arg vals 0)
    pure .null

def resumeCallee : Callee :=
  methodOn "trainer" "check_resume"
    [req "log_dir", opt "resume_past_end" (.bool false), opt "resume_ignore_no_checkpoint" (.bool false)]
    fun vals => do
      resumeCheck (arg vals 0) (arg vals 1) (arg vals 2)
      pure .null

def clusterCallee : Callee :=
  methodOn "trainer" "check_slurm" [] fun _ => do pure (.bool (← managedByCluster))

def checkpointingCallee : Callee :=
  methodOn "trainer" "configure_checkpointing" [req "log_dir", req "name", req "params"] fun vals => do
    checkpointing (arg vals 0) (arg vals 1) (arg vals 2)
    pure .null

def typeText (d : Data) : String :=
  match className? d with
  | some "SimpleNamespace" => "<class 'types.SimpleNamespace'>"
  | some c => s!"<class {Text.quote c}>"
  | none => s!"<class {Text.quote d.kindName}>"

/-- `exp_manager`: nothing without a configuration or for a quick trial run;
otherwise the checks, the log directory and the resumption, the log directory made. -/
def experimentCallee : Callee :=
  methodOn "trainer" "exp_manager" [opt "cfg" .null] fun vals => do
    let _ ← Method.attr "node_rank"
    let _ ← Method.attr "num_gpus"
    let cfg := arg vals 0
    if cfg.isNull then return .null
    if (← Method.attr "fast_dev_run").truthy then return .null
    let entries ← match cfg with
      | .dict [("$cfg", .dict kvs)] => pure kvs
      | .dict [("attrs", _), ("object", _)] =>
        throw (.value s!"cfg was type: {typeText cfg}. Expected either a dict or a DictConfig")
      | .dict kvs => pure kvs
      | other => throw (.value s!"cfg was type: {typeText other}. Expected either a dict or a DictConfig")
    let schema := (Interface.findRecord "nemo.utils.exp_manager" "ExpManagerConfig").map fun c =>
      match c.construct "ExpManagerConfig" {} with
      | .ok d => attrsOf d
      | .error _ => []
    let merged := entries.foldl (fun acc (k, v) => Training.putSetting acc k v) (schema.getD [])
    let cfgData := Data.dict [("$cfg", .dict merged)]
    experimentChecks cfgData
    let field (k : String) : Data := (merged.lookup k).getD .null
    let dirs ← logDir (field "exp_dir") (field "name") (field "version") (field "explicit_log_dir")
      (field "use_datetime_version") (field "resume_if_exists")
    let logPath := match dirs with
      | .list (.dict [("$path", .str p)] :: _) => p
      | _ => ""
    if (field "resume_if_exists").truthy then
      resumeCheck (.str logPath) (field "resume_past_end") (field "resume_ignore_no_checkpoint")
    Method.work (Work.makeDirs logPath)
    pure (pathData logPath)

/-- `LoggerList`: its name and version are the
ones given. -/
def loggerListCallee : Callee :=
  function "LoggerList" [req "_logger_iterable", opt "nemo_name" .null, opt "nemo_version" (.str "")]
    fun vals => pure (objectData "LoggerList" [("_nemo_name", arg vals 1), ("_nemo_version", arg vals 2)])

/-- The reply of a logger list: its name and version read as properties. -/
def loggerListReply : Callee := fun r => do
  let reply ← loggerListCallee r
  pure { reply with act := fun step => do
    let self ← Work.this
    match step with
    | .read "name" => Entry.attr self "_nemo_name"
    | .read "version" => Entry.attr self "_nemo_version"
    | other => reply.act other }

/-- `NeMoModelCheckpoint`: the settings it keeps itself, a `prefix` among them taken out. -/
def modelCheckpointCallee : Callee := fun r => do
  let args : Arguments := r.args.intake
  let own := ["always_save_nemo", "save_best_model", "postfix"]
  let named := args.named.filter fun (k, _) => own.contains k
  let vals ← (Arguments.bind ⟨args.positional, named⟩ "NeMoModelCheckpoint.__init__"
    [opt "always_save_nemo" (.bool false), opt "save_best_model" (.bool false), opt "postfix" (.str ".nemo")])
  let prefix_ := (args.named.lookup "prefix").getD (.str "")
  pure (.plain (objectData "NeMoModelCheckpoint"
    [("always_save_nemo", arg vals 0), ("save_best_model", arg vals 1),
     ("postfix", arg vals 2), ("previous_best_path", .str ""), ("prefix", prefix_)]))

/-- `NeMoModelCheckpoint.on_train_end`: restores the best checkpoint
when asked to, and saves the model under the prefix and postfix. -/
def trainEndCallee : Callee :=
  method "NeMoModelCheckpoint.on_train_end" [req "trainer", req "pl_module"] fun vals => do
    let trainer := arg vals 0
    if (← Entry.attr trainer "fast_dev_run").truthy then return .null
    if (← Method.attr "save_best_model").truthy then
      let best ← Method.attr "best_model_path"
      let onGpu ← Entry.attr trainer "on_gpu"
      let (_, trainer') ← (invokeIn trainer ["checkpoint_connector", "restore"] [best] [("on_gpu", onGpu)])
      Method.setArgument 0 trainer'
    let dir ← Method.attr "dirpath"
    let pre ← Method.attr "prefix"
    let post ← Method.attr "postfix"
    let target := FileSystem.join dir.text (pre.text ++ post.text)
    let frame ← get
    let pl := frame.args.getD 1 .null
    let (_, pl') ← (invokeIn pl ["save_to"] [] [("save_path", .str target)])
    Method.setArgument 1 pl'
    pure .null

/-- An exception class of experiments whose text is its message, with an ending appended. -/
def messageException (cls ending : String) : Callee := fun r => do
  let msg := match r.args.positional with
    | [m] => (plain m).text ++ ending
    | _ => ending
  pure { value := objectData cls [],
         act := fun step => match step with
           | .call "__str__" _ => pure (.str msg)
           | .read path => do (readPath (← Work.this) path)
           | .call name _ => Work.fail (noAttribute cls name) }

def experimentCallees : List (String × Callee) :=
  [("get_log_dir", logDirCallee), ("check_explicit_log_dir", explicitLogDirCallee),
   ("error_checks", experimentChecksCallee), ("check_resume", resumeCallee),
   ("check_slurm", clusterCallee), ("configure_checkpointing", checkpointingCallee),
   ("exp_manager", experimentCallee), ("LoggerList", loggerListReply),
   ("NeMoModelCheckpoint", modelCheckpointCallee), ("NeMoModelCheckpoint.on_train_end", trainEndCallee),
   ("NotFoundError", messageException "NotFoundError" ""),
   ("LoggerMisconfigurationError", messageException "LoggerMisconfigurationError" loggerAdvice),
   ("CheckpointMisconfigurationError", messageException "CheckpointMisconfigurationError" "")].map
    fun (n, c) => (experimentName n, c)

end Conversa.Callees
