import Conversa.Speech.EncoderLayout
import Conversa.Entry.Instance
import Conversa.Data.Arith

/-!
# Recipes for model configurations

A recipe starts from a named model configuration, collects changes (labels, repeats,
separability, sample rate, dropout, data, optimiser) and builds the finished configuration,
carrying the model's settings into its parts in order, so a build that fails part way keeps the
changes before it.  A recipe of no particular model cannot build.  An optimiser's or schedule's
settings become its configuration under its class name less `Params`.
-/

namespace Conversa.Callees

open Entry Speech

def blockRecord (b : BlockLayout) : Data :=
  constructed "nemo.collections.asr.modules.conv_asr:JasperEncoderConfig" []
    [("filters", .int b.filters), ("repeat", .int b.repeats), ("kernel", .list [.int b.kernel]),
     ("stride", .list [.int b.stride]), ("dilation", .list [.int b.dilation]), ("dropout", .float b.dropout),
     ("residual", .bool b.residual), ("residual_dense", .bool b.residualDense), ("separable", .bool b.separable)]

def classifierRecipes : String := "nemo.collections.asr.models.configs.matchboxnet_config"

def recogniserRecipes : String := "nemo.collections.asr.models.configs.quartznet_config"

def encoderLayouts : List (String × List BlockLayout) :=
  [(classifierRecipes ++ ":matchboxnet_3x1x64", BlockLayout.classifier),
   (classifierRecipes ++ ":matchboxnet_3x1x64_vad", BlockLayout.classifier),
   (recogniserRecipes ++ ":qn_15x5", BlockLayout.recogniser15x5),
   (recogniserRecipes ++ ":jasper_10x5_dr", BlockLayout.recogniser10x5)]

/-- The blocks an encoder function gives: those of a named layout.  Anything else given as the
function is called and cannot be. -/
def encoderBlocks (f : Data) : Result Data :=
  match tagged? f "$ref" with
  | some (.str ref) =>
    match encoderLayouts.lookup ref with
    | some layout => .ok (.list (layout.map blockRecord))
    | none => .error ⟨"DependencyUnavailable", ref⟩
  | _ => .error (notCallable f)

/-- A value with the part at a path of attributes, or of positions in sequences, replaced. -/
def replaceAt (d : Data) (path : List String) (v : Data) : Result Data :=
  match path with
  | [] => pure v
  | k :: rest => do
    let inner ← if rest.isEmpty then pure .null else pathPart d k
    let updated ← replaceAt inner rest v
    match d, k.toInt? with
    | .list xs, some i =>
      let j := if i < 0 then i + xs.length else i
      if 0 ≤ j ∧ j < xs.length then pure (.list (xs.set j.toNat updated))
      else throw (.index "list assignment index out of range")
    | _, _ =>
      match className? d with
      | some _ => pure (setAttr d k updated)
      | none => throw (noAttribute d.kindName k)
termination_by path.length
decreasing_by simp_all

/-- The kinds of model recipe. -/
inductive RecipeKind where
  | classifier
  /-- The recognisers trained by connectionist temporal classification. -/
  | recogniser
  /-- A recipe of no particular model, which cannot build. -/
  | generic

namespace RecipeKind

def className : RecipeKind → String
  | .classifier => "EncDecClassificationModelConfigBuilder"
  | .recogniser => "EncDecCTCModelConfigBuilder"
  | .generic => "ModelConfigBuilder"

def names : RecipeKind → List String
  | .classifier => ["matchboxnet_3x1x64", "matchboxnet_3x1x64_vad"]
  | .recogniser => ["quartznet_15x5", "quartznet_15x5_zh", "jasper_10x5dr"]
  | .generic => []

/-- The model settings a recipe sets directly, each with its default when it has one. -/
def settings : RecipeKind → List (String × Option Data)
  | .generic => []
  | k =>
    [("labels", none), ("separable", none), ("repeat", none), ("sample_rate", none), ("dropout", some (.float 0.0))] ++
    (match k with
     | .classifier => [("timesteps", none), ("is_regression_task", none)]
     | _ => [])

end RecipeKind

def rectangleMasking : Data :=
  constructed "nemo.collections.asr.modules.audio_preprocessing:SpectrogramAugmentationConfig" []
    [("rect_masks", .int 5), ("rect_freq", .int 50), ("rect_time", .int 120)]

def encoderOf (blocks : Data) : Data :=
  constructed "nemo.collections.asr.modules.conv_asr:ConvASREncoderConfig" []
    [("jasper", blocks), ("activation", .str "relu")]

/-- The model configuration a recipe of a name starts from, with the encoder layout it is
given or the name's own. -/
def startingConfig (kind : RecipeKind) (name : String) (layout : Data) : Result Data := do
  let own (fn : String) (target : String) : Data :=
    if layout matches .null then .dict [("$ref", .str (target ++ ":" ++ fn))] else layout
  let decoder (cls : String) : Data := constructed ("nemo.collections.asr.modules.conv_asr:" ++ cls) [] []
  match kind with
  | .classifier =>
    if name == "matchboxnet_3x1x64_vad" then
      let blocks ← encoderBlocks (own "matchboxnet_3x1x64_vad" classifierRecipes)
      pure (constructed (classifierRecipes ++ ":MatchboxNetVADModelConfig") []
        [("repeat", .int 1), ("separable", .bool true), ("encoder", encoderOf blocks),
         ("decoder", decoder "ConvASRDecoderClassificationConfig")])
    else
      let blocks ← encoderBlocks (own "matchboxnet_3x1x64" classifierRecipes)
      pure (constructed (classifierRecipes ++ ":MatchboxNetModelConfig") []
        [("repeat", .int 1), ("separable", .bool false), ("spec_augment", rectangleMasking),
         ("encoder", encoderOf blocks), ("decoder", decoder "ConvASRDecoderClassificationConfig")])
  | .recogniser =>
    let quartz := name.startsWith "quartznet_15x5"
    let blocks ← encoderBlocks (own (if quartz then "qn_15x5" else "jasper_10x5_dr") recogniserRecipes)
    pure (constructed (recogniserRecipes ++ ":" ++ if quartz then "QuartzNetModelConfig" else "JasperModelConfig") []
      [("repeat", .int 5), ("separable", .bool quartz), ("spec_augment", rectangleMasking),
       ("encoder", encoderOf blocks), ("decoder", decoder "ConvASRDecoderConfig")])
  | .generic => pure .null

def recipeStages : List String := ["train_ds", "validation_ds", "test_ds"]

def putAt (path : List String) (v : Data) : Work Unit := do
  Work.setThis (← replaceAt (← Work.this) path v)

def getAt (path : List String) : Work Data := do
  Work.lift (path.foldlM pathPart (← Work.this))

def modelAt (path : List String) : Work Data := getAt ("model_cfg" :: path)

def putModel (path : List String) (v : Data) : Work Unit := putAt ("model_cfg" :: path) v

def setDatasetNormalize (normalize : Data) : Work Unit := do
  for stage in recipeStages do putModel [stage, "normalize"] normalize

/-- The blocks of the model's encoder, which must be a sequence. -/
def encoderLayers : Work (List Data) := do
  match ← modelAt ["encoder", "jasper"] with
  | .list xs => pure xs
  | .str s => pure (s.toList.map fun c => .str (String.singleton c))
  | other => throw (.type s!"{Text.quote other.kindName} object is not iterable")

/-- Sets a setting of the blocks at the given positions of the encoder, one block after another. -/
def putLayers (positions : List Nat) (setting : String) (v : Data) : Work Unit := do
  for i in positions do putModel ["encoder", "jasper", toString i, setting] v

/-- Carries the model's settings into its parts, in order, each change kept as it is made. -/
def finalizeRecipe (kind : RecipeKind) : Work Unit := do
  if kind matches .generic then throw ⟨"NotImplementedError", ""⟩
  let labels ← modelAt ["labels"]
  for stage in recipeStages do putModel [stage, "labels"] labels
  putModel ["decoder", "vocabulary"] labels
  putModel ["decoder", "num_classes"] (.int (← labels.size))
  let rate ← modelAt ["sample_rate"]
  putModel ["sample_rate"] rate
  putModel ["preprocessor", "sample_rate"] rate
  for stage in recipeStages do putModel [stage, "sample_rate"] rate
  putModel ["encoder", "feat_in"] (← modelAt ["preprocessor", "features"])
  let blocks ← encoderLayers
  let some last := blocks.getLast? | throw .listIndex
  putModel ["decoder", "feat_in"] (← attr last "filters")
  if kind matches .classifier then
    let crop ← modelAt ["crop_or_pad_augment"]
    if !(crop matches .null) then putModel ["crop_or_pad_augment", "audio_length"] (← modelAt ["timesteps"])
  let n := blocks.length
  putLayers (List.range (n - 1)) "separable" (← modelAt ["separable"])
  putLayers ((List.range (n - 2)).drop 1) "repeat" (← modelAt ["repeat"])
  putLayers (List.range n) "dropout" (← modelAt ["dropout"])

def typeNameOf (d : Data) : String := (className? d).getD d.kindName

/-- A configuration named for the class of its settings, less `Params`, with its settings and the
given fields after them. -/
def wrappedSettings (settings : Data) (lower : Bool) (fields : Entries) : Result Data := do
  let cls := typeNameOf settings
  let some _ := className? settings
    | throw (.type (if (settings matches .null) || (settings matches .bool _) then
        s!"type {Text.quote cls} is not an acceptable base type" else "vars() argument must have __dict__ attribute"))
  let name := cls.replace "Params" ""
  let name := if lower then name.toLower else name
  let own := attrsOf settings
  let extra := fields.filter fun (k, _) => !own.any (·.1 == k)
  pure (objectData (if lower then "WrappedOptimConfig" else "WrappedSchedConfig")
    (own.map (fun (k, v) => if k == "name" then (k, .str name) else (k, v)) ++
      (if own.any (·.1 == "name") then [] else [("name", .str name)]) ++ extra.filter (·.1 != "name")))

/-- Sets the optimiser of the model, with its schedule when one is given. -/
def setOptimiser (cfg sched : Data) : Work Unit := do
  let optim ← wrappedSettings cfg true [("sched", .null)]
  let optim ← if sched matches .null then pure optim else do
    let schedule ← wrappedSettings sched false [("min_lr", .float 0.0), ("last_epoch", .int (-1))]
    pure (setAttr optim "sched" schedule)
  putModel ["optim"] optim

def recipeAct (kind : RecipeKind) (step : Step) : Work Data := do
  let cls := kind.className
  match step with
  | .read path => readPath (← Work.this) path
  | .call name args =>
    let args : Arguments := ⟨intakeItems args.positional, intakeEntries args.named⟩
    let bindAs (params : List Param) : Work (List Data) := (args.bind s!"{cls}.{name}" params)
    match name with
    | "set_train_ds" | "set_validation_ds" | "set_test_ds" =>
      let vals ← bindAs [opt "cfg" .null]
      let stage := if name == "set_train_ds" then "train_ds" else if name == "set_test_ds" then "test_ds" else "validation_ds"
      putModel [stage] (arg vals 0)
      pure .null
    | "set_optim" =>
      let vals ← bindAs [req "cfg", opt "sched_cfg" .null]
      setOptimiser (arg vals 0) (arg vals 1)
      pure .null
    | "set_dataset_normalize" =>
      if kind matches .recogniser then
        let vals ← bindAs [req "normalize"]
        setDatasetNormalize (arg vals 0)
        pure .null
      else Work.fail (noAttribute cls name)
    | "_finalize_cfg" =>
      let _ ← bindAs []
      finalizeRecipe kind
      pure .null
    | "build" =>
      let _ ← bindAs []
      finalizeRecipe kind
      modelAt []
    | _ =>
      match kind.settings.find? (fun (s, _) => "set_" ++ s == name) with
      | some (setting, default) =>
        let vals ← bindAs [⟨setting, default⟩]
        putModel [setting] (arg vals 0)
        pure .null
      | none => Work.fail (noAttribute cls name)

/-- `ModelConfigBuilder`, and the recipes of a model named by a configuration name,
`EncDecClassificationModelConfigBuilder(name='matchboxnet_3x1x64', encoder_cfg_func=None)` and
`EncDecCTCModelConfigBuilder(name='quartznet_15x5', encoder_cfg_func=None)`.  A recognisers'
recipe for Mandarin starts with its data unnormalised. -/
def recipeCallee (kind : RecipeKind) : Callee := fun r => do
  let args : Arguments := r.args.intake
  let cls := kind.className
  let builders := [("train_ds_cfg", Data.null), ("validation_ds_cfg", .null), ("test_ds_cfg", .null), ("optim_cfg", .null)]
  match kind with
  | .generic =>
    let vals ← args.bind s!"{cls}.__init__" [req "model_cfg"]
    pure { value := objectData cls ([("model_cfg", arg vals 0)] ++ builders), act := recipeAct kind }
  | _ =>
    let vals ← args.bind s!"{cls}.__init__" [opt "name" (.str (kind.names.headD "")), opt "encoder_cfg_func" .null]
    let name := arg vals 0
    let some text := (match name with
        | .str s => if kind.names.contains s then some s else none
        | _ => none)
      | let valid := (Data.strs kind.names).show
        throw (.value s!"\x60name\x60 must be one of : \n{valid}")
    let model ← startingConfig kind text (arg vals 1)
    Work.setThis (objectData cls ([("name", name), ("model_cfg", model)] ++ builders))
    if (kind matches .recogniser) && (text.splitOn "zh").length > 1 then setDatasetNormalize (.bool false)
    pure { value := ← Work.this, act := recipeAct kind }

/-- `compute_new_kernel_size`: a kernel scaled by a width, odd. -/
def scaledKernel (kernel width : Data) : Result Data := do
  let scaled ← Data.times kernel width
  let some s := scaled.scalar? | throw (.type "int() argument must be a string, a bytes-like object or a real number")
  match ← Data.arith (Numeric.Scalar.intOf s) with
  | .int n => pure (.int (Convolution.oddWidth n))
  | other => pure other

def wholeArgument (d : Data) : Result Int :=
  match d with
  | .int n => .ok n
  | .bool b => .ok (if b then 1 else 0)
  | other => .error (.type s!"unsupported operand type(s) for -: {Text.quote other.kindName} and 'int'")

def modelRecipeCallees : List (String × Callee) :=
  let layoutFn (target fn : String) : String × Callee :=
    (target ++ ":" ++ fn, functionOf fn [] fun _ => (encoderBlocks (.dict [("$ref", .str (target ++ ":" ++ fn))])))
  let jasper := "nemo.collections.asr.parts.submodules.jasper:"
  [layoutFn classifierRecipes "matchboxnet_3x1x64", layoutFn classifierRecipes "matchboxnet_3x1x64_vad",
   layoutFn recogniserRecipes "qn_15x5", layoutFn recogniserRecipes "jasper_10x5_dr",
   (classifierRecipes ++ ":EncDecClassificationModelConfigBuilder", recipeCallee .classifier),
   (recogniserRecipes ++ ":EncDecCTCModelConfigBuilder", recipeCallee .recogniser),
   ("nemo.core.config.modelPT:ModelConfigBuilder", recipeCallee .generic),
   (jasper ++ "compute_new_kernel_size", functionOf "compute_new_kernel_size" [req "kernel_size", req "kernel_width"]
      fun v => (scaledKernel (arg v 0) (arg v 1))),
   (jasper ++ "get_same_padding", functionOf "get_same_padding" [req "kernel_size", req "stride", req "dilation"]
      fun v => Work.lift do
        let ns ← v.mapM wholeArgument
        pure (.int (← Convolution.samePadding (ns.getD 0 0) (ns.getD 1 0) (ns.getD 2 0)))),
   (jasper ++ "get_asymtric_padding",
    functionOf "get_asymtric_padding" [req "kernel_size", req "stride", req "dilation", req "future_context"]
      fun v => Work.lift do
        let ns ← v.mapM wholeArgument
        match ← Convolution.lookaheadPadding (ns.getD 0 0) (ns.getD 1 0) (ns.getD 2 0) (ns.getD 3 0) with
        | .inl n => pure (.int n)
        | .inr (l, r) => pure (.list [.int l, .int r]))]

end Conversa.Callees
