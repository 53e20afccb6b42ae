import Conversa.Text.LongTexts

/-!
# The configuration documents of the training jobs

Each training job starts from a configuration document, kept here line by line without its
comments.  The command line of a job composes its document with overrides before anything runs.
The documents are kept packed among the long texts (`Text.longTexts`), separated by `\x01`.
-/

namespace Conversa.Config

def jobScripts : List String := [
  "examples/asr/speech_to_text.py",
  "examples/asr/speech_to_label.py",
  "examples/asr/speech_to_text_rnnt.py",
  "examples/asr/experimental/wav2vec/wav2vec_pretrain.py",
  "examples/nlp/intent_slot_classification/intent_slot_classification.py",
  "examples/nlp/glue_benchmark/glue_benchmark.py",
  "examples/nlp/question_answering/question_answering_squad.py",
  "examples/nlp/machine_translation/enc_dec_nmt.py",
  "examples/nlp/language_modeling/transformer_lm.py"]

/-- The configuration documents of the training jobs by the path of the job's script, each as
its lines. -/
def jobDocuments : List (String × List String) :=
  jobScripts.zip (((Text.longTexts.getD 2 "").splitOn "\x01").map
    (·.splitOn "\n"))

end Conversa.Config
