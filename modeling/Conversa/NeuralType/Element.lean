import Conversa.Data.Number

/-!
# Element kinds

What a tensor holds is its *element kind*, in a tree of refinements (a mel spectrogram is a
spectrogram, a channel), `VoidType` matching all.  `Element.compare a b`: `SAME`, `LESS` when `a`
refines `b`, `GREATER` when `b` refines `a`, else `INCOMPATIBLE`.  The audio signal's sampling
frequency is its one parameter, an absent one matching any.
-/

namespace Conversa.NeuralType

/-- The kinds of tensor element, as a tree of refinements under a root kind. -/
inductive Element where
  | base
  | void
  | channel
  | embeddedText
  | logits
  | probs
  | logprobs
  | labels
  | hypothesis
  | lengths
  | loss
  | encodedRepresentation
  /-- Elements of kind `AcousticEncodedRepresentation`. -/
  | acousticEncodedRepresentation
  | audioSignal
  | spectrogram
  | melSpectrogram
  | mfccSpectrogram
  | predictions
  | regressionValues
  | categoricalValues
  | mask
  | index
  | target
  | classificationTarget
  | imageValue
  | normalizedImageValue
  | imageFeatureValue
  | string
  | stringLabel
  | bool
  | int
  | float
  | tokenIndex
  | length
  /-- Elements of kind `ProbabilityDistributionSamplesType`. -/
  | probabilityDistributionSamples
  /-- Elements of kind `NormalDistributionSamplesType`. -/
  | normalDistributionSamples
  /-- Elements of kind `SequenceToSequenceAlignmentType`. -/
  | sequenceToSequenceAlignment
  /-- Elements of kind `NormalDistributionMeanType`. -/
  | normalDistributionMean
  /-- Elements of kind `NormalDistributionLogVarianceType`. -/
  | normalDistributionLogVariance
  | tokenDuration
  | tokenLogDuration
  | logDeterminant
deriving DecidableEq, Repr, Inhabited

namespace Element


def all : List Element :=
  [.base, .void, .channel, .embeddedText, .logits, .probs, .logprobs, .labels, .hypothesis, .lengths, .loss, .encodedRepresentation, .acousticEncodedRepresentation, .audioSignal, .spectrogram, .melSpectrogram, .mfccSpectrogram, .predictions, .regressionValues, .categoricalValues, .mask, .index, .target, .classificationTarget, .imageValue, .normalizedImageValue, .imageFeatureValue, .string, .stringLabel, .bool, .int, .float, .tokenIndex, .length, .probabilityDistributionSamples, .normalDistributionSamples, .sequenceToSequenceAlignment, .normalDistributionMean, .normalDistributionLogVariance, .tokenDuration, .tokenLogDuration, .logDeterminant]

/-- The class name of a kind, which is also how an element is shown. -/
def name : Element → String
  | .base => "ElementType"
  | .void => "VoidType"
  | .channel => "ChannelType"
  | .embeddedText => "EmbeddedTextType"
  | .logits => "LogitsType"
  | .probs => "ProbsType"
  | .logprobs => "LogprobsType"
  | .labels => "LabelsType"
  | .hypothesis => "HypothesisType"
  | .lengths => "LengthsType"
  | .loss => "LossType"
  | .encodedRepresentation => "EncodedRepresentation"
  | .acousticEncodedRepresentation => "AcousticEncodedRepresentation"
  | .audioSignal => "AudioSignal"
  | .spectrogram => "SpectrogramType"
  | .melSpectrogram => "MelSpectrogramType"
  | .mfccSpectrogram => "MFCCSpectrogramType"
  | .predictions => "PredictionsType"
  | .regressionValues => "RegressionValuesType"
  | .categoricalValues => "CategoricalValuesType"
  | .mask => "MaskType"
  | .index => "Index"
  | .target => "Target"
  | .classificationTarget => "ClassificationTarget"
  | .imageValue => "ImageValue"
  | .normalizedImageValue => "NormalizedImageValue"
  | .imageFeatureValue => "ImageFeatureValue"
  | .string => "StringType"
  | .stringLabel => "StringLabel"
  | .bool => "BoolType"
  | .int => "IntType"
  | .float => "FloatType"
  | .tokenIndex => "TokenIndex"
  | .length => "Length"
  | .probabilityDistributionSamples => "ProbabilityDistributionSamplesType"
  | .normalDistributionSamples => "NormalDistributionSamplesType"
  | .sequenceToSequenceAlignment => "SequenceToSequenceAlignmentType"
  | .normalDistributionMean => "NormalDistributionMeanType"
  | .normalDistributionLogVariance => "NormalDistributionLogVarianceType"
  | .tokenDuration => "TokenDurationType"
  | .tokenLogDuration => "TokenLogDurationType"
  | .logDeterminant => "LogDeterminantType"

/-- The kind a kind refines; the root kind refines none. -/
def parent? : Element → Option Element
  | .base => none
  | .void => some .base
  | .channel => some .base
  | .embeddedText => some .channel
  | .logits => some .base
  | .probs => some .base
  | .logprobs => some .base
  | .labels => some .base
  | .hypothesis => some .labels
  | .lengths => some .base
  | .loss => some .base
  | .encodedRepresentation => some .channel
  | .acousticEncodedRepresentation => some .encodedRepresentation
  | .audioSignal => some .base
  | .spectrogram => some .channel
  | .melSpectrogram => some .spectrogram
  | .mfccSpectrogram => some .spectrogram
  | .predictions => some .labels
  | .regressionValues => some .predictions
  | .categoricalValues => some .predictions
  | .mask => some .predictions
  | .index => some .base
  | .target => some .base
  | .classificationTarget => some .target
  | .imageValue => some .base
  | .normalizedImageValue => some .imageValue
  | .imageFeatureValue => some .imageValue
  | .string => some .base
  | .stringLabel => some .string
  | .bool => some .base
  | .int => some .base
  | .float => some .base
  | .tokenIndex => some .int
  | .length => some .int
  | .probabilityDistributionSamples => some .base
  | .normalDistributionSamples => some .probabilityDistributionSamples
  | .sequenceToSequenceAlignment => some .base
  | .normalDistributionMean => some .base
  | .normalDistributionLogVariance => some .base
  | .tokenDuration => some .base
  | .tokenLogDuration => some .base
  | .logDeterminant => some .base

/-- The description of a kind, exactly as it is written, indentation included. -/
def doc : Element → String
  | .base =>
    "Abstract class defining semantics of the tensor elements.\n    We are relying on Python for inheritance checking"
  | .void =>
    "Void-like type which is compatible with everything.\n    It is a good practice to use this type only as necessary.\n    For example, when you need template-like functionality.\n    "
  | .channel =>
    "Element to represent convolutional input/output channel.\n    "
  | .embeddedText =>
    "Element to represent output on word/text embedding layers\n    "
  | .logits =>
    "Element type to represent logits"
  | .probs =>
    "Element type to represent probabilities. For example, outputs of softmax layers."
  | .logprobs =>
    "Element type to represent log-probabilities. For example, outputs of log softmax layers."
  | .labels =>
    "Element type to represent some sort of labels. This is often used as a base class to create\n    a more concrete types such as RegressionValuesType, etc."
  | .hypothesis =>
    "Element type to represent some decoded hypothesis, which may further be processed to obtain\n    a concrete label."
  | .lengths =>
    "Element type representing lengths of something"
  | .loss =>
    "Element type to represent outputs of Loss modules"
  | .encodedRepresentation =>
    "Element type to represent encoded representation, for example, encoder's output"
  | .acousticEncodedRepresentation =>
    "Element type to represent encoded representation returned by the acoustic encoder model"
  | .audioSignal =>
    "Element type to represent encoded representation returned by the acoustic encoder model\n    Args:\n        freq (int): sampling frequency of a signal. Note that two signals will only be the same if their\n        freq is the same.\n    "
  | .spectrogram =>
    "Element type to represent generic spectrogram signal"
  | .melSpectrogram =>
    "Element type to represent mel spectrogram signal"
  | .mfccSpectrogram =>
    "Element type to represent MFCC spectrogram signal"
  | .predictions =>
    "Element type to represent some sort of predictions returned by model"
  | .regressionValues =>
    "Element type to represent labels for regression task"
  | .categoricalValues =>
    "Element type to represent labels for categorical classification task"
  | .mask =>
    "Element type to represent a boolean mask"
  | .index =>
    "Type representing an element being an index of the sample."
  | .target =>
    "\n        Type representing an element being a target value.\n    "
  | .classificationTarget =>
    "\n        Type representing an element being target value in the classification task, i.e. identifier of a desired class.\n    "
  | .imageValue =>
    "\n        Type representing an element/value of a single image channel,\n        e.g. a single element (R) of RGB image.\n    "
  | .normalizedImageValue =>
    "\n        Type representing an element/value of a single image channel normalized to <0-1> range,\n        e.g. a single element (R) of normalized RGB image.\n    "
  | .imageFeatureValue =>
    "Type representing an element (single value) of a (image) feature maps."
  | .string =>
    "Element type representing a single string"
  | .stringLabel =>
    "\n        Type representing an label being a string with class name (e.g. the \"hamster\" class in CIFAR100).\n    "
  | .bool =>
    "Element type representing a single integer"
  | .int =>
    "Element type representing a single integer"
  | .float =>
    "Element type representing a single float"
  | .tokenIndex =>
    "Type representing an element being index of a token in some kind of a vocabulary."
  | .length =>
    "Type representing an element storing a \"length\" (e.g. length of a list)."
  | .probabilityDistributionSamples =>
    "Element to represent tensors that meant to be sampled from a valid probability distribution\n    "
  | .normalDistributionSamples =>
    "Element to represent tensors that meant to be sampled from a valid normal distribution\n    "
  | .sequenceToSequenceAlignment =>
    "Class to represent the alignment from seq-to-seq attention outputs. Generally a mapping from endcoder time steps\n    to decoder time steps."
  | .normalDistributionMean =>
    "Element to represent the mean of a normal distribution"
  | .normalDistributionLogVariance =>
    "Element to represent the log variance of a normal distribution"
  | .tokenDuration =>
    "Element for representing the duration of a token"
  | .tokenLogDuration =>
    "Element for representing the log-duration of a token"
  | .logDeterminant =>
    "Element for representing log determinants usually used in flow models"

/-- The kinds from `a` up to the root: `a`, its parent, and so on. -/
def lineage (a : Element) : List Element :=
  go a 8
where
  /-- The tree is at most five levels deep, so eight steps always reach the root. -/
  go (e : Element) : Nat → List Element
    | 0 => [e]
    | fuel + 1 => e :: match e.parent? with
      | some p => go p fuel
      | none => []

def refines (a b : Element) : Bool := a.lineage.contains b

def ofName? (n : String) : Option Element := all.find? (·.name == n)

end Element

end Conversa.NeuralType
