import Conversa.Text.Space
import Conversa.Text.Slice
import Conversa.Text.Unicode

/-!
# Character label parsers

A transcript becomes label numbers character by character, after trimming and lower-casing: a
label of several characters (`<s>`) is taken only for a whole word, words are joined by the space
label, an unlabelled character gets the unknown number, and numbers equal to the blank are
dropped.  The English parser normalises through a cleaning of its own, a parameter of the parser.
-/

namespace Conversa.Language

/-- The kind of a character parser. -/
inductive ParserKind where
  | plain
  | english
deriving DecidableEq, Inhabited, Repr

/-- The kind a parser name stands for: `base` or `en`. -/
def ParserKind.ofName? : String → Option ParserKind
  | "base" => some .plain
  | "en" => some .english
  | _ => none

/-- A character parser: its labels, the unknown and blank numbers, and whether texts are
normalised and lower-cased. -/
structure CharParser where
  labels : List String
  unkId : Int := -1
  blankId : Int := -1
  normalize : Bool := true
  lowercase : Bool := true
  kind : ParserKind := .plain
  /-- The English cleaning of a text (transliteration to ASCII, numbers, abbreviations and
  punctuation in words), none when it fails.  Here transliteration is missing, so by default the
  cleaning fails on every text. -/
  clean : String → Option String := fun _ => none
deriving Inhabited

namespace CharParser

def labelId? (p : CharParser) (l : String) : Option Nat := Text.lastPosition p.labels l

/-- The number of a label, or the unknown number. -/
def idOr (p : CharParser) (l : String) : Int :=
  match p.labelId? l with
  | some n => n
  | none => p.unkId

def isLongLabel (p : CharParser) (w : String) : Bool := p.labels.any fun l => l.length > 1 && l == w

/-- The numbers of a word: a label of several characters whole, else character by character. -/
def wordIds (p : CharParser) (w : String) : List Int :=
  match p.labelId? w with
  | some n => if p.isLongLabel w then [(n : Int)] else w.toList.map fun c => p.idOr (String.singleton c)
  | none => w.toList.map fun c => p.idOr (String.singleton c)

/-- The numbers of a text as it stands: its words, split at every single space, joined by the
number of the space. -/
def tokenize (p : CharParser) (s : String) : List Int :=
  (List.intercalate [p.idOr " "] ((s.toList.splitOn ' ').map fun w => p.wordIds (String.ofList w))).filter
    (· != p.blankId)

/-- A text normalised: trimmed, and lower-cased if the parser lower-cases. -/
def normalizeText (p : CharParser) (s : String) : String :=
  let s := Text.strip s
  if p.lowercase then Text.lower s else s

/-- The numbers of a text; none when it cannot be normalised. -/
def parse (p : CharParser) (s : String) : Option (List Int) :=
  if p.normalize then
    match p.kind with
    | .plain => some (p.tokenize (p.normalizeText s))
    | .english => (p.clean s).map p.tokenize
  else some (p.tokenize s)

end CharParser

/-- The punctuation the English parser's table maps to a space, sorted: ASCII punctuation
without `+`, `&` and `%`, with every occurrence of each label removed in turn. -/
def englishBlanked (labels : List String) : List Char :=
  let start := String.ofList (Text.asciiPunctuation.filter fun c => !"+&%".toList.contains c)
  let left := labels.foldl (fun s l => if l.isEmpty then s else s.replace l "") start
  left.toList.mergeSort fun a b => a ≤ b

end Conversa.Language
