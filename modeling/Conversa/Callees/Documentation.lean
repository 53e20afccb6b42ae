import Conversa.Entry.Instance
import Conversa.Entry.CommandLine

/-!
# Documentation of the toolkit

`_normalize_docstring` gives documentation text without its indentation (`Text.dedent`).  The
module listing describes a collection's serializable classes, a record each:
`process_member(name, obj, module_list)` appends one for a serializable class, and the program
writes those of the collection its command line names to a JSON file.
-/

namespace Conversa.Callees

open Entry

/-- The collections of the toolkit, each with the serializable classes that its packages of data,
datasets, modules and losses hold, package by package and by the names they hold them under, in
the order of those names; a class held under another name than its own is written `name=class`. -/
def collectionMembers : List (String × List (String × List String)) :=
  [("asr", [("modules", ["AudioToMFCCPreprocessor", "AudioToMelSpectrogramPreprocessor", "BeamSearchDecoderWithLM", "ConformerEncoder", "ConvASRDecoder", "ConvASRDecoderClassification", "ConvASREncoder", "CropOrPadSpectrogramAugmentation", "LSTMDecoder", "RNNTDecoder", "RNNTJoint", "SpeakerDecoder", "SpectrogramAugmentation"]),
      ("losses", ["AngularSoftmaxLoss", "CTCLoss"])]),
   ("common", [("losses", ["AggregatorLoss", "CrossEntropyLoss", "MSELoss", "MultiSimilarityLoss", "NLLLoss", "SmoothedCrossEntropyLoss", "SpanningLoss"])]),
   ("cv", [("datasets", ["MNISTDataset"]),
      ("modules", ["LeNet5"]),
      ("losses", ["NLLLoss"])]),
   ("nlp", [("data", ["BertPretrainingDataset", "BertTokenClassificationDataset", "BertTokenClassificationInferDataset", "EntityLinkingDataset", "NeuralMachineTranslationDataset", "SentenceDataset", "SquadDataset", "TranslationDataset"]),
      ("modules", ["AlbertEncoder", "BertEncoder", "BertModule", "DistilBertEncoder", "MegatronBertEncoder", "RobertaEncoder", "SGDDecoder", "SGDEncoder", "SequenceClassifier", "SequenceRegression", "SequenceTokenClassifier"]),
      ("losses", ["SGDDialogueStateLoss"])]),
   ("tts", [("modules", ["DegliModule", "EDMel2SpecModule", "GlowTTSModule", "MelGANDiscriminator", "MelGANGenerator", "MelGANMultiScaleDiscriminator", "SqueezeWaveModule", "Taco2Decoder=Decoder", "Taco2Encoder=Encoder", "Taco2Postnet=Postnet", "WaveGlowModule"])])]

def serializableBelow (target name : String) : Option String :=
  (Interface.definingModule? target name).bind fun (m, c) =>
    if c.serializable then some (m ++ "." ++ name) else none

/-- The serializable class a reference `module:Name` names, by its qualified name. -/
def serializableClass? (d : Data) : Option String :=
  match tagged? d "$ref" with
  | some (.str ref) =>
    match ref.splitOn ":" with
    | [target, name] => serializableBelow target name
    | _ => none
  | _ => none

/-- The record a module listing gives a serializable class under a name: the name and the class,
with the arguments and the types of one example module standing for those of every class. -/
def listedModule (name : Data) (qualified : String) : Data :=
  .dict [("name", name), ("cls", .str s!"<class {Text.quote qualified}>"),
    ("arguments", Data.strs ["jasper", "activation", "feat_in", "normalization_mode", "residual_mode",
      "norm_groups", "conv_mask", "frame_splicing", "init_mode"]),
    ("input_types", .dict [
      ("audio_signal", .str "axes: (batch, dimension, time); elements_type: MelSpectrogramType"),
      ("length", .str "axes: (batch,); elements_type: LengthType")]),
    ("output_types", .dict [
      ("encoder_output", .str "axes: (batch, dimension, time); elements_type: AcousticEncodedRepresentation")])]

/-- The records of a collection's classes, package by package. -/
def collectionRecords (collection : String) (packages : List (String × List String)) : List Data :=
  packages.flatMap fun (pkg, held) => held.filterMap fun entry =>
    let (name, cls) := match entry.splitOn "=" with
      | [name, cls] => (name, cls)
      | _ => (entry, entry)
    (serializableBelow s!"nemo.collections.{collection}.{pkg}" cls).map (listedModule (.str name))

def listingCommandLine : CommandLine :=
  { prog := "get_modules.py"
    arguments := [option "--collection" .text .null false (some "ID of the collection"),
      option "--filename" .text (.str "modules.json") false (some "Name of the output JSON file")] }

/-- The module listing run as a program: writes the records of a collection's classes as JSON to
the file named, the collection's name put before the default name; an unknown collection ends
the run with status -1. -/
def moduleListingMain : Callee := fun r => do
  let args ← listingCommandLine.run r.argv
  let value := kwarg args
  let collection := value "collection"
  let some packages := (if collection matches .str _ then collectionMembers.lookup collection.text else none)
    | throw ⟨"SystemExit", "-1"⟩
  let filename := (value "filename").text
  let filename := if filename == "modules.json" then collection.text ++ "_" ++ filename else filename
  Work.writeFile filename (Json.dump (.list (collectionRecords collection.text packages)))
  pure (.plain .null)

def moduleListingScript : String := "external/get_modules.py"

def documentationCallees : List (String × Callee) :=
  [("nemo.utils.decorators.port_docs:_normalize_docstring",
    functionOf "_normalize_docstring" [req "docstring"] fun v => do
      match plain (arg v 0) with
      | .str s => pure (.str (Text.dedent s))
      | other =>
        if other.truthy then throw (noAttribute other.kindName "expandtabs")
        else pure (.str "")),
   (moduleListingScript ++ ":__main__", moduleListingMain),
   (moduleListingScript ++ ":process_member",
    methodOn "name" "process_member" [req "obj", req "module_list"] fun vals => do
      let some qualified := serializableClass? (arg vals 0) | pure .null
      match arg vals 1 with
      | .list xs =>
        Method.setArgument 1 (.list (xs ++ [listedModule (← Method.this) qualified]))
        pure .null
      | other => Method.lift (.error (noAttribute other.kindName "append")))]

end Conversa.Callees
