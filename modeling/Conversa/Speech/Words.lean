import Conversa.Text.Slice
import Conversa.Text.Space
import Conversa.Text.Unicode

/-!
# Words for a pronunciation front end

`plainText` drops accents (canonical decomposition without nonspacing marks), lower-cases, and
keeps only spaces, lower-case ASCII letters and `'".,?!()[]:;-`.  `wordPieces` cuts it into words
(runs of letters and hyphens, with at most one inner apostrophe) and, between them, runs of other
characters upper-cased, braces skipped.
-/

namespace Conversa.Speech

def isPlainChar (c : Char) : Bool :=
  c == ' ' || ('a' ≤ c && c ≤ 'z') || "'\".,?!()[]:;-".toList.contains c

/-- A character in plain form: ASCII upper case lowered, other characters folded; none when
nothing of it is kept. -/
def plainChar (c : Char) : Option Char :=
  let c' := if c.toNat < 128 then some c.toLower else Text.foldChar? c
  c'.filter isPlainChar

def plainText (s : String) : String := String.ofList (s.toList.filterMap plainChar)

def isWordChar (c : Char) : Bool := ('a' ≤ c && c ≤ 'z') || c == '-'

def isGapChar (c : Char) : Bool := !isWordChar c && c != '\x7b' && c != '\x7d'

/-- A text with white space before each decimal digit removed. -/
def closeBeforeDigits : List Char → List Char
  | w :: d :: r =>
    if Text.isSpace w && Text.isDecimal d then d :: closeBeforeDigits r
    else w :: closeBeforeDigits (d :: r)
  | cs => cs
termination_by cs => cs.length

/-- What the cutter is reading; each run is kept reversed. -/
inductive Cut where
  | idle
  | word (acc : List Char)
  | apostrophe (acc : List Char)
  /-- The part of a word after its apostrophe. -/
  | second (acc : List Char)
  | gap (acc : List Char)

def gapPiece (acc : List Char) : String :=
  String.ofList (closeBeforeDigits (Text.upper (String.ofList acc.reverse)).toList)

def Cut.start (c : Char) : Cut :=
  if isWordChar c then .word [c] else if isGapChar c then .gap [c] else .idle

/-- Reads one character: the pieces it finishes and what is read next. -/
def Cut.step : Cut → Char → List String × Cut
  | .idle, c => ([], .start c)
  | .word acc, c =>
    if isWordChar c then ([], .word (c :: acc))
    else if c == '\'' then ([], .apostrophe acc)
    else ([String.ofList acc.reverse], .start c)
  | .apostrophe acc, c =>
    if isWordChar c then ([], .second (c :: '\'' :: acc))
    else if isGapChar c then ([String.ofList acc.reverse], .gap [c, '\''])
    else ([String.ofList acc.reverse, gapPiece ['\'']], .idle)
  | .second acc, c =>
    if isWordChar c then ([], .second (c :: acc))
    else ([String.ofList acc.reverse], .start c)
  | .gap acc, c =>
    if isGapChar c then ([], .gap (c :: acc))
    else ([gapPiece acc], .start c)

def Cut.finish : Cut → List String
  | .idle => []
  | .word acc | .second acc => [String.ofList acc.reverse]
  | .apostrophe acc => [String.ofList acc.reverse, gapPiece ['\'']]
  | .gap acc => [gapPiece acc]

/-- The pieces of a text: words, and the runs between them. -/
def wordPieces (s : String) : List String :=
  let (done, cut) := s.toList.foldl (fun (acc : List String × Cut) c =>
    let (out, cut) := acc.2.step c
    (acc.1 ++ out, cut)) ([], .idle)
  done ++ cut.finish

end Conversa.Speech
