import Conversa.Service.Answer
import Conversa.Proofs.TypeDeclaration
import Conversa.Proofs.SpanDecoding
import Conversa.Proofs.MetricTallies
import Conversa.Proofs.AnswerPositions
import Conversa.Proofs.SentenceBatches
import Conversa.Proofs.HoldBoundary
import Conversa.Proofs.PairBatches
import Conversa.Proofs.WindowCounts
import Conversa.Proofs.SentenceRows
import Conversa.Proofs.PairFitting
import Conversa.Proofs.TagAlignment
import Conversa.Proofs.DataPreparation
import Conversa.Proofs.Tokenizers
import Conversa.Proofs.GoalAccuracies
import Conversa.Proofs.SpellingEnumeration
import Conversa.Proofs.CarryOver
import Conversa.Proofs.LabelNumbering
import Conversa.Proofs.SampleCollection
import Conversa.Proofs.PhonemeSpacing
import Conversa.Proofs.ConfigUpgrade
import Conversa.Proofs.LineOffsets
import Conversa.Proofs.StampCuts
import Conversa.Proofs.TokenBounds
import Conversa.Proofs.ClassWeights
import Conversa.Proofs.AlignmentSearch
