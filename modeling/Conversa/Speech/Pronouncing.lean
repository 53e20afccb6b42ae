import Conversa.Text.Delimited
import Conversa.Text.Slice
import Conversa.Text.Space
import Conversa.Text.Unicode

/-!
# Pronouncing dictionaries

A pronouncing dictionary lists a word and its ARPAbet pronunciation a line, separated by two
spaces, read as Latin-1.  Only lines starting with an upper-case letter or an apostrophe are
entries; an alternative's marker such as `(1)` is removed so alternatives gather under one word;
a pronunciation with a symbol that is no phoneme is dropped.  Words are looked up in upper case.
-/

namespace Conversa.Speech

/-- The ARPAbet phonemes, with and without stress marks. -/
def arpabet : List String :=
  ["AA", "AA0", "AA1", "AA2", "AE", "AE0", "AE1", "AE2", "AH", "AH0", "AH1", "AH2",
   "AO", "AO0", "AO1", "AO2", "AW", "AW0", "AW1", "AW2", "AY", "AY0", "AY1", "AY2",
   "B", "CH", "D", "DH", "EH", "EH0", "EH1", "EH2", "ER", "ER0", "ER1", "ER2", "EY",
   "EY0", "EY1", "EY2", "F", "G", "HH", "IH", "IH0", "IH1", "IH2", "IY", "IY0", "IY1",
   "IY2", "JH", "K", "L", "M", "N", "NG", "OW", "OW0", "OW1", "OW2", "OY", "OY0",
   "OY1", "OY2", "P", "R", "S", "SH", "T", "TH", "UH", "UH0", "UH1", "UH2", "UW",
   "UW0", "UW1", "UW2", "V", "W", "Y", "Z", "ZH"]

/-- A pronouncing dictionary: every word with its pronunciations, in the order of the file. -/
structure PronouncingDictionary where
  entries : List (String × List String)
deriving Inhabited, Repr

namespace PronouncingDictionary

/-- A text as it reads when its UTF-8 bytes are taken as Latin-1 characters. -/
def latin1View (s : String) : String := String.ofList (s.toUTF8.toList.map fun b => Char.ofNat b.toNat)

/-- A pronunciation, if every symbol of it is a phoneme. -/
def pronunciation? (s : String) : Option String :=
  let parts := (Text.strip s).splitOn " "
  if parts.all arpabet.contains then some (" ".intercalate parts) else none

/-- A word without its markers of alternatives: a parenthesised number anywhere is removed. -/
def withoutAlternative (w : String) : String :=
  String.ofList (Text.rewrite (fun cs => match cs with
    | '(' :: rest =>
      let digits := rest.takeWhile Char.isDigit
      if !digits.isEmpty && (rest.drop digits.length).head? == some ')' then some ([], digits.length + 2)
      else none
    | _ => none) w.toList)

/-- Whether a line is an entry: it starts with an upper-case ASCII letter or an apostrophe. -/
def isEntryLine (line : String) : Bool :=
  match line.toList with
  | c :: _ => ('A' ≤ c && c ≤ 'Z') || c == '\''
  | [] => false

/-- The dictionary a file holds; `keepAmbiguous` keeps the words with several pronunciations. -/
def ofText (text : String) (keepAmbiguous : Bool) : Result PronouncingDictionary := do
  let lines := (Text.fileLines (latin1View text)).map String.ofList
  let entries ← lines.foldlM (fun (acc : List (String × List String)) line => do
    if !isEntryLine line then return acc
    let parts := line.splitOn "  "
    let some second := parts[1]? | throw .listIndex
    let word := withoutAlternative ((parts.head?).getD "")
    match pronunciation? second with
    | some p =>
      if p.isEmpty then return acc
      if acc.any (·.1 == word) then
        return acc.map fun (w, ps) => if w == word then (w, ps ++ [p]) else (w, ps)
      return acc ++ [(word, [p])]
    | none => return acc) []
  pure ⟨if keepAmbiguous then entries else entries.filter fun (_, ps) => ps.length == 1⟩

/-- The pronunciations of every word of a file, as a grapheme-to-phoneme converter reads them:
the entry lines as above, each word without its markers of alternatives and in lower case, and
each pronunciation the text after the two spaces, stripped and split at every single space,
whatever its symbols. -/
def graphemeEntries (text : String) : Result (List (String × List (List String))) :=
  ((Text.fileLines text).map String.ofList).foldlM (fun (acc : List (String × List (List String))) line => do
    if !isEntryLine line then return acc
    let parts := line.splitOn "  "
    let some second := parts[1]? | throw .listIndex
    let word := Text.lower (withoutAlternative ((parts.head?).getD ""))
    let p := (Text.strip second).splitOn " "
    if acc.any (·.1 == word) then
      return acc.map fun (w, ps) => if w == word then (w, ps ++ [p]) else (w, ps)
    return acc ++ [(word, [p])]) []

def lookup (d : PronouncingDictionary) (word : String) : Option (List String) :=
  (d.entries.find? (·.1 == Text.upper word)).map (·.2)

def size (d : PronouncingDictionary) : Nat := d.entries.length

end PronouncingDictionary

end Conversa.Speech

/-!
## Monotonic alignment search

Speech frames are aligned to text symbols monotonically, from the first symbol to the last, and
the search finds an alignment of greatest total log-probability: the best score of frame `i` at
symbol `j` adds the log-probability there to the best score of the previous frame at the symbol
it comes from.  The search of a width takes the first greatest score from `j - width` to `j`, a
NaN counting as greatest; the search of width one takes `j - 1` when its score is at least that
of `j`.  The alignment is read back from the last frame; a checked search refuses an alignment
that leaves a symbol or frame unmarked.
-/

namespace Conversa.Speech

/-- The index of the first greatest value, counted from `base`; the first NaN, if any, wins. -/
def firstGreatest (base : Nat) (xs : List Float) : Nat :=
  (xs.zipIdx.foldl (fun (best : Option (Float × Nat)) (x, i) =>
    match best with
    | some (b, _) => if !b.isNaN && (x.isNaN || x > b) then some (x, i) else best
    | none => some (x, i)) none |>.map (·.2)).getD 0 + base

/-- The symbol the score at symbol `j` comes from in the search of a width: the first greatest
score of the frame before from `j - width` to `j`. -/
def windowChoice (width : Nat) (prev : List Float) (j : Nat) : Nat :=
  let lo := j - width
  firstGreatest lo ((prev.drop lo).take (j + 1 - lo))

section Search

variable {α β : Type} [Add α] [Inhabited α]

/-- The symbol the score at symbol `j` comes from in the search of width one: `j - 1` when its
score in the frame before is at least that of `j`. -/
def stepChoice [LE α] [DecidableRel (α := α) (· ≤ ·)] (prev : List α) (j : Nat) : Nat :=
  if 1 ≤ j ∧ prev.getD (j - 1) default ≥ prev.getD j default then j - 1 else j

/-- The scores of a frame and the symbol each came from, given the scores of the frame before it
and the rule that chooses where a score comes from. -/
def frameScores (choose : List α → Nat → Nat) (prev : List α) (logs : List α) :
    List α × List Nat :=
  let cells := logs.zipIdx.map fun (l, j) =>
    let k := choose prev j
    (l + prev.getD k default, k)
  (cells.map (·.1), cells.map (·.2))

/-- The symbols each score of the frames after the first came from, given the scores of the
frame before them. -/
def searchPointers (choose : List α → Nat → Nat) (prev : List α) :
    List (List α) → List (List Nat)
  | [] => []
  | logs :: rest =>
    let (scores, from_) := frameScores choose prev logs
    from_ :: searchPointers choose scores rest

/-- The log-probabilities a search reads from a map of probabilities, `bot` standing for the
logarithm of zero: the first frame may only be at the first symbol. -/
def logMap (log : β → α) (bot : α) : List (List β) → List (List α)
  | [] => []
  | first :: rest =>
    (first.zipIdx.map fun (p, j) => if j == 0 then log p else bot) :: rest.map (·.map log)

/-- The symbols of the frames, read back from the symbol of the last frame through the symbols
each score came from. -/
def backtrack (from_ : List (List Nat)) (last : Nat) : List Nat :=
  let (later, first) := from_.reverse.foldl (fun (acc : List Nat × Nat) ptrs =>
    (acc.2 :: acc.1, ptrs.getD acc.2 0)) ([], last)
  first :: later

def alignmentPath (choose : List α → Nat → Nat) (n : Nat) : List (List α) → List Nat
  | [] => []
  | first :: rest => backtrack (searchPointers choose first rest) (n - 1)

/-- The marks of an alignment: one per frame at its symbol, and the first symbol of the first
frame marked as well. -/
def alignmentMarks (n : Nat) (path : List Nat) : List (List Bool) :=
  path.zipIdx.map fun (s, i) => (List.range n).map fun j => j == s || (i == 0 && j == 0)

/-- Marks of `n` symbols in which every symbol and every frame is marked; the failed assertion
otherwise. -/
def coveredMarks (n : Nat) (marks : List (List Bool)) : Result (List (List Bool)) := do
  if !((List.range n).all fun j => marks.any (·.getD j false)) then throw (.assertion "")
  if !(marks.all (·.any id)) then throw (.assertion "")
  pure marks

/-- The best monotonic alignment of a map of log-probabilities, as marks; a checked search
must mark every symbol and every frame. -/
def alignment (choose : List α → Nat → Nat) (check : Bool) (logs : List (List α)) :
    Result (List (List Bool)) :=
  let n := (logs.head?.map List.length).getD 0
  let marks := alignmentMarks n (alignmentPath choose n logs)
  if check then coveredMarks n marks else pure marks

end Search

end Conversa.Speech
