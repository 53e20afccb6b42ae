import Conversa.Text.Unicode
import Conversa.Text.Space

/-!
# Comparing answers

An answer is compared with the expected one after both are normalized: lower case, no ASCII
punctuation, no article (`a`, `an`, `the` as a whole word), one space between words.  Two
answers match exactly when their normal forms are equal, and overlap by the F1 score of their
words, a word counted as often as it occurs in both; an answer without words overlaps fully
only with another without words.
-/

namespace Conversa.Comprehension

def isWordChar (c : Char) : Bool := c == '_' || Text.isAlnum c

def articles : List String := ["a", "an", "the"]

/-- A text with every article that stands as a whole word replaced by a space. -/
def dropArticles (s : String) : String :=
  String.join ((s.toList.splitBy fun a b => isWordChar a == isWordChar b).map fun run =>
    let w := String.ofList run
    if articles.contains w then " " else w)

def normalize (s : String) : String :=
  let bare := String.ofList ((Text.lower s).toList.filter fun c => !Text.isAsciiPunctuation c)
  " ".intercalate (Text.words (dropArticles bare))

def answerWords (s : String) : List String := Text.words (normalize s)

def exactMatch (prediction truth : String) : Bool := normalize prediction == normalize truth

/-- The number of words two lists share, each word counted as often as it occurs in both. -/
def sharedCount (a b : List String) : Nat :=
  a.eraseDups.foldl (fun n w => n + min (a.count w) (b.count w)) 0

/-- How far two answers overlap: a whole number when one has no words or they share none, the
F1 score of their words otherwise. -/
inductive Overlap where
  | whole (n : Nat)
  /-- The F1 score of two answers that share words. -/
  | fraction (x : Float)
deriving Inhabited, Repr

/-- The overlap of the words of a predicted and an expected answer. -/
def wordOverlap (predicted expected : List String) : Overlap :=
  let shared := sharedCount predicted expected
  if expected.isEmpty || predicted.isEmpty then .whole (if expected == predicted then 1 else 0)
  else if shared == 0 then .whole 0
  else
    let precision := 1.0 * shared.toFloat / predicted.length.toFloat
    let sensitivity := 1.0 * shared.toFloat / expected.length.toFloat
    .fraction (2 * precision * sensitivity / (precision + sensitivity))

end Conversa.Comprehension
