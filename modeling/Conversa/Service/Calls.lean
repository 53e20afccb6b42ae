import Conversa.Dialogue.Examples
import Conversa.Callees.Synthesis
import Conversa.Callees.Segmentation
import Conversa.Callees.Activity
import Conversa.Callees.Transducer
import Conversa.Callees.Diarization
import Conversa.Pretrained.Catalogue
import Conversa.Callees.TokenLabelData
import Conversa.Callees.CorpusShards
import Conversa.Callees.Documentation
import Conversa.Callees.PassageRanking
import Conversa.Callees.ConfigUpdate
import Conversa.Callees.SpeakerData
import Conversa.Callees.TelephoneCorpus
import Conversa.Callees.VocabularyScripts
import Conversa.Callees.NormalizationData
import Conversa.Callees.LanguageModelCorpus
import Conversa.Callees.QueryImport
import Conversa.Callees.ApplicationState
import Conversa.Callees.SpeechModels
import Conversa.Callees.ModelRecipes
import Conversa.Callees.TrainingScripts
import Conversa.Callees.LogFormatting
import Conversa.Callees.TextModels

/-!
# Calls by name

`call {module | path, func, args, kwargs, files, argv, steps, state, show_args, seed}` runs a
function or class of the toolkit in a fresh working directory holding `files`, the shared
generator seeded with `seed`.  The answer holds the value (`result`) or the outcome of each step
(`steps`), a failing step not stopping the later ones, and, when they apply, the object after the
steps, the arguments, the printed text and the files written and removed.
-/

namespace Conversa.Service

open Entry Callees

/-- `SGDDataProcessor._tokenize(self, utterance)`, the processor's tokenizer a byte-level one. -/
def utteranceCutCallee : Callee :=
  functionOf "SGDDataProcessor._tokenize" [req "self", req "utterance"] fun vals => do
    let tok ← attr (arg vals 0) "_tokenizer"
    if className? tok != some "ByteLevelTokenizer" then
      throw (noAttribute ((className? tok).getD tok.kindName) "text_to_tokens")
    let c ← Dialogue.cutUtteranceBy (fun p => pure ((Language.ByteLevel.textToIds p).map toString)) (arg vals 1).text
    pure (.list [.list (c.tokens.map fun t => .int (t.toNat?.getD 0)),
      .dict (c.alignments.map fun (k, v) => (toString k, .int v)), .list (c.inverse.map fun (a, b) => Data.nats [a, b])])

/-- The callees by qualified name: target and dotted name joined by a colon. -/
def callees : List (String × Callee) :=
  ("nemo.collections.nlp.data.dialogue_state_tracking.sgd.data_processor:SGDDataProcessor._tokenize",
    utteranceCutCallee) ::
  synthesisCallees ++ segmentationCallees ++ tarredCallees ++ activityCallees ++
    transducerCallees ++ comprehensionCallees ++ perturbationCallees ++ diarizationCallees ++
    subwordCallees ++ modelCallees ++ preparationCallees ++
    modelUtilsCallees ++ experimentCallees ++ corpusCallees ++ tokenLabelCallees ++ corpusShardCallees ++ translationPairCallees ++
    mixtureCallees ++ pretrainingCorpusCallees ++ passageRankingCallees ++ documentationCallees ++ transcribedAudioCallees ++
    intentImportCallees ++ classificationImportCallees ++ audioSegmentCallees ++
    configUpdateCallees ++ speakerDataCallees ++ telephoneCallees ++ vocabularyScriptCallees ++
    normalizationDataCallees ++ languageModelCorpusCallees ++ queryImportCallees ++
    appStateCallees ++ labelledAudioCallees ++ speechModelCallees ++ modelRecipeCallees ++
    trainingScriptCallees ++ logFormattingCallees ++ Pretrained.megatronCallees ++ textModelCallees

def recordCallee (target name : String) : Option Callee :=
  (Interface.findRecord target name).map fun c => fun r => do
    pure (.plain (← c.construct name r.args.intake))

/-- The catalogue calls of a model class that a target defines, as a callee: `func` is the
class's name and the method's, joined by a dot. -/
def classCatalogueCallee (target func : String) : Option Callee :=
  match func.splitOn "." with
  | [cls, method] => Pretrained.catalogueCallee Pretrained.modelClasses (target ++ ":" ++ cls) method
  | _ => none

/-- What loading a script does before a call into it, by script path; running the script itself
reads its command line as part of the run. -/
def loaders : List (String × (Request → Work Unit)) :=
  tarredLoaders ++ speakerDataLoaders ++ telephoneLoaders ++ vocabularyScriptLoaders ++
    languageModelCorpusLoaders

/-- The working directory of a call: texts as given, bytes read as UTF-8 and kept as they came
for readers of bytes. -/
def callTree (req : Data) : FileSystem.Tree :=
  let files := (req.getD "files").entries
  let tree := FileSystem.Tree.ofFiles (files.map fun (p, v) =>
    match v with
    | .str t => (p, t)
    | other => (p, String.ofList (Text.decodeLossy ((Text.hexBytes? ((other.getD "bytes").text.toList)).getD []))))
  { tree with stored := files.filterMap fun (p, v) =>
      match v with
      | .str _ => none
      | other => some ((FileSystem.Tree.relative p).getD p, .dict [("bytes", other.getD "bytes")]) }

/-- How a step's value is answered. -/
inductive StepView where
  | asIs
  /-- As a plain configuration: a record becomes the mapping of its declared fields. -/
  | config
  | typeName

def StepView.ofData (d : Data) : StepView :=
  match (d.getD "as").text with
  | "cfg" => .config
  | "type" => .typeName
  | _ => .asIs

/-- The declared fields of the record class of a name, wherever the toolkit defines it. -/
def recordFields? (name : String) : Option (List String) :=
  Interface.modules.findSome? fun (_, m) =>
    match m with
    | .ok info => (info.classes.lookup name).bind (·.fields)
    | .error _ => none

/-- Whether a record class of a name declares a field: any field of a class that is no record. -/
def declaresField (cls field : String) : Bool :=
  match recordFields? cls with
  | some fields => fields.contains field
  | none => true

mutual

/-- A value as a plain configuration: a record becomes the mapping of its declared fields (an
attribute set on it beside them is left out), any other object the mapping of its attributes. -/
def configView : Data → Data
  | .dict [("$cfg", v)] => configView v
  | .dict [("attrs", .dict attrs), ("object", .str cls)] => .dict (configViewEntries (declaresField cls) attrs)
  | .dict kvs => .dict (configViewEntries (fun _ => true) kvs)
  | .list xs => .list (configViewItems xs)
  | d => d

def configViewItems : List Data → List Data
  | [] => []
  | x :: xs => configView x :: configViewItems xs

/-- The kept entries as plain configurations, in order. -/
def configViewEntries (keep : String → Bool) : Entries → Entries
  | [] => []
  | (k, v) :: kvs =>
    if keep k then (k, configView v) :: configViewEntries keep kvs else configViewEntries keep kvs

end

def StepView.apply (view : StepView) (d : Data) : Data :=
  match view with
  | .asIs => d
  | .config => configView d
  | .typeName => .str ((className? d).getD d.kindName)

/-- A step of a request, with the view of its value. -/
def stepOf (d : Data) : Step × StepView :=
  let m := (d.getD "m").text
  let view := StepView.ofData d
  if d.has "args" || d.has "kwargs" || (d.getD "call").truthy then
    (.call m ⟨(d.getD "args").items, (d.getD "kwargs").entries⟩, view)
  else (.read m, view)

def runSteps (reply : Reply) : List (Step × StepView) → Work (List Data)
  | [] => pure []
  | (s, view) :: rest => do
    let entry ← tryCatch (do pure (Data.dict [("ok", view.apply (← reply.act s))])) fun f => pure (failureData f)
    pure (entry :: (← runSteps reply rest))

/-- The content of a structured file as answered: an archive's members, or a stored object. -/
def storedData (p : String) (d : Data) : Data :=
  if p.endsWith ".tar" then .dict [("tar", d)]
  else if p.endsWith ".pkl" || p.endsWith ".pickle" then .dict [("pickle", d)]
  else d

/-- The effects of a call as answer fields: printed text, written files and removed files. -/
def effectFields (before : FileSystem.Tree) (w : Workspace) : Entries :=
  let written := (FileSystem.Tree.written before w.tree).map (fun (p, t) => (p, Data.str t)) ++
    (FileSystem.Tree.writtenStored before w.tree).map fun (p, d) => (p, storedData p d)
  let written := written.mergeSort fun a b => decide (a.1 ≤ b.1)
  let removed := FileSystem.Tree.removed before w.tree
  (if w.printed.isEmpty then [] else [("stdout", .str w.printed)]) ++
  (if written.isEmpty then [] else [("files", .dict written)]) ++
  (if removed.isEmpty then [] else [("removed", Data.strs removed)])

def scriptMain : String := "__main__"

/-- `call {...}`. -/
def callRequest (req : Data) : Result Data := do
  let target := match req.getD "module", req.getD "path" with
    | .str m, _ => m
    | _, .str p => p
    | _, _ => ""
  let func := match req.getD "func" with
    | .str f => f
    | _ => if (req.getD "main").truthy then scriptMain else ""
  let tree := callTree req
  let request : Request := {
    args := ⟨(req.getD "args").items, (req.getD "kwargs").entries⟩
    argv := (req.getD "argv").items.map Data.text
    fields := req }
  let steps := (req.getD "steps").items.map stepOf
  let load : Work Unit := match loaders.find? (·.1 == target) with
    | some (_, l) => if func == scriptMain then pure () else l request
    | none => pure ()
  match load.run { tree } with
  | .error f w => return .dict ([("error", .str f.kind), ("message", .str f.message), ("stage", .str "import")] ++
      effectFields tree w)
  | .ok _ _ => pure ()
  let some callee := ((callees.lookup (target ++ ":" ++ func)).orElse fun _ => recordCallee target func).orElse
      fun _ => classCatalogueCallee target func
    | throw ⟨"AttributeError", s!"module {Text.quote target} has no attribute {Text.quote func}"⟩
  let run : Work (Entries) := do
    if let some f := (request.args.positional ++ request.args.named.map (·.2)).findSome? objectElementFailure? then
      throw f
    let reply ← callee request
    let shown := match reply.shownArgs with
      | some xs => if (req.getD "show_args").truthy then [("args", Data.list xs)] else []
      | none => []
    if req.has "steps" then
      Work.setThis reply.value
      let entries ← runSteps reply steps
      let self ← Work.this
      pure ([("steps", Data.list entries)] ++ shown ++
        (if (req.getD "state").truthy then [("state", self)] else []))
    else pure ([("result", reply.value)] ++ shown)
  let chance := match req.getD "seed" with
    | .int n => Numeric.Generator.standard n
    | _ => Numeric.Generator.standard 0
  match run.run { tree, chance } with
  | .ok fields w => pure (.dict (fields ++ effectFields tree w))
  | .error f w =>
    -- a failing call may be asked for its arguments as the call left them
    let shownArgs := if (req.getD "args_on_error").truthy then
        [("args", Data.list (shownItems (w.current :: (intakeItems (req.getD "args").items).drop 1)))]
      else []
    pure (.dict ([("error", .str f.kind), ("message", .str f.message)] ++ shownArgs ++ effectFields tree w))

end Conversa.Service
