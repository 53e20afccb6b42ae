import Conversa.Failure
import Conversa.Text.Unicode
import Conversa.Text.Slice

/-!
# Phoneme vocabularies

Labels are, in order: space, optional silence, consonants, vowels (stress marks if kept),
optional letters, apostrophe and punctuation, padding, blank, out-of-vocabulary.  `encode` keeps
known phonemes (stress dropped unless kept), one space between, punctuation the vocabulary has,
drops trailing spaces and refuses an empty result; decoding skips the utility labels.
-/

namespace Conversa.Speech

def consonants : List String :=
  ["B", "CH", "D", "DH", "F", "G", "HH", "JH", "K", "L", "M", "N", "NG", "P", "R", "S", "SH", "T",
   "TH", "V", "W", "Y", "Z", "ZH"]

def vowels : List String :=
  ["AA", "AE", "AH", "AO", "AW", "AY", "EH", "ER", "EY", "IH", "IY", "OW", "OY", "UH", "UW"]

def punctuationMarks : List String :=
  [",", ".", "!", "?", "-", ":", ";", "/", "\"", "(", ")", "[", "]", "\x7b", "\x7d"]

/-- Where the blank label goes. -/
inductive BlankPlacement where
  | none
  | lastButOne
  | last
deriving DecidableEq, Repr, Inhabited

/-- How a phoneme vocabulary is made. -/
structure PhonemeOptions where
  punct : Bool := true
  stresses : Bool := false
  spaces : Bool := true
  chars : Bool := false
  space : String := " "
  silence : Option String := none
  apostrophe : Bool := true
  oov : String := "<oov>"
  sep : String := "|"
  blankAt : BlankPlacement := .lastButOne
  /-- Whether an encoding gets a space at each end. -/
  padWithSpace : Bool := false
deriving Inhabited

/-- A phoneme vocabulary: its labels and the ids of its utility labels. -/
structure PhonemeVocabulary where
  options : PhonemeOptions
  labels : List String
  pad : Nat
  /-- The blank id, or -1 when there is none. -/
  blank : Int
  oov : Nat

namespace PhonemeVocabulary

/-- The labels before the utility labels: space, silence, phonemes, letters and punctuation. -/
def baseLabels (o : PhonemeOptions) : List String :=
  let vowelLabels := if o.stresses then vowels.flatMap fun v => [v ++ "0", v ++ "1", v ++ "2"] else vowels
  let letters := "abcdefghijklmnopqrstuvwxyz".toList.map String.singleton
  [o.space] ++ o.silence.toList ++ consonants ++ vowelLabels ++
    (if o.chars then letters else []) ++ (if o.apostrophe then ["'"] else []) ++
    (if o.punct then punctuationMarks else [])

def make (o : PhonemeOptions) : PhonemeVocabulary :=
  let base := baseLabels o
  let n := base.length
  match o.blankAt with
  | .none => ⟨o, base ++ ["<pad>", o.oov], n, -1, n + 1⟩
  | .lastButOne => ⟨o, base ++ ["<pad>", "<blank>", o.oov], n, n + 1, n + 2⟩
  | .last => ⟨o, base ++ ["<pad>", o.oov, "<blank>"], n, n + 2, n + 1⟩

def idOf (v : PhonemeVocabulary) (l : String) : Option Nat := Text.lastPosition v.labels l

def isAlnumText (s : String) : Bool := !s.toList.isEmpty && s.toList.all Text.isAlnum

def space (v : PhonemeVocabulary) : String := v.labels.headD " "

/-- A symbol with its stress mark dropped, unless stresses are kept. -/
def unstressed (v : PhonemeVocabulary) (p : String) : String :=
  if isAlnumText p && p.length == 3 && !v.options.stresses then (p.take 2).toString else p

/-- The symbols kept so far with one more symbol of the front end: a space after anything but a
space, a known phoneme, or punctuation (taking back a space before it unless spaces are kept). -/
def keepSymbol (v : PhonemeVocabulary) (ps : List String) (p : String) : List String :=
  let p := v.unstressed p
  let ps := if p == v.space && !ps.isEmpty && ps.getLast? != some v.space then ps ++ [p] else ps
  let ps := if (isAlnumText p || p == "'") && v.labels.contains p then ps ++ [p] else ps
  if punctuationMarks.contains p && v.options.punct then
    let ps := if !v.options.spaces && !ps.isEmpty && ps.getLast? == some v.space then ps.dropLast else ps
    ps ++ [p]
  else ps

def encode (v : PhonemeVocabulary) (phonemes : List String) : Result (List Nat) := do
  let space := v.space
  let ps := (phonemes.foldl v.keepSymbol []).reverse.dropWhile (· == space) |>.reverse
  if ps.isEmpty then throw .listIndex
  let ps := if v.options.padWithSpace then [space] ++ ps ++ [space] else ps
  ps.mapM fun p => match v.idOf p with
    | some i => pure i
    | none => throw (.key (Text.quote p))

/-- The text of ids: the labels of all but the utility ids, joined by the separator. -/
def decode (v : PhonemeVocabulary) (ids : List Nat) : String :=
  v.options.sep.intercalate (ids.filterMap fun t =>
    if t == v.pad || (t : Int) == v.blank || t == v.oov then none else v.labels[t]?)

end PhonemeVocabulary

end Conversa.Speech
