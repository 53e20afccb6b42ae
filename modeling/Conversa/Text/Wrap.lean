import Conversa.Text.Space
import Conversa.Text.Unicode
import Conversa.Text.Delimited

/-!
# Wrapping text

A paragraph is wrapped into lines no wider than a width: its words are placed greedily, a line
breaking before the word that would overflow it.  A word may also break after a hyphen that
follows two letters and precedes a letter (`well-known`), and a word wider than a whole line is
cut at the width.  Blanks at the ends of lines are dropped.
-/

namespace Conversa.Text

/-- Whether a character is a letter for hyphenation: a word character that is no digit. -/
def isHyphenLetter (c : Char) : Bool := (Text.isAlnum c || c == '_') && !c.isDigit

/-- The pieces of a word: it breaks after each hyphen preceded by two letters and followed by a
letter.  `acc` holds the current piece, reversed. -/
def hyphenPieces (acc : List Char) : List Char → List String
  | [] => if acc.isEmpty then [] else [String.ofList acc.reverse]
  | c :: rest =>
    let breaks := c == '-' && (match acc with
      | a :: b :: _ => isHyphenLetter a && isHyphenLetter b
      | _ => false) && (match rest with
      | d :: _ => isHyphenLetter d
      | [] => false)
    if breaks then String.ofList (c :: acc).reverse :: hyphenPieces [] rest
    else hyphenPieces (c :: acc) rest

/-- The chunks of a paragraph: word pieces and the single blanks between words. -/
def chunksOf (s : String) : List String :=
  " ".intercalate (Text.words s) |>.splitOn " " |>.filter (!·.isEmpty) |>.zipIdx |>.flatMap
    fun (w, i) => (if i == 0 then [] else [" "]) ++ hyphenPieces [] w.toList

/-- Chunks placed on a line while they fit: the line, its width, and the chunks left. -/
def fillLine (width : Nat) (line : List String) (len : Nat) : List String → List String × Nat × List String
  | [] => (line, len, [])
  | c :: rest =>
    if len + c.length ≤ width then fillLine width (line ++ [c]) (len + c.length) rest
    else (line, len, c :: rest)

/-- The lines of chunks; each line takes the chunks that fit, a chunk wider than a line is cut
to fill what is left of it (after a hyphen within that room when there is one), and blanks at
line ends are dropped.  `fuel` bounds the lines. -/
def wrapChunks (width : Nat) (fuel : Nat) (first : Bool) (chunks : List String) : List String :=
  match fuel with
  | 0 => []
  | fuel + 1 =>
    match chunks with
    | [] => []
    | _ =>
      let chunks := match chunks with
        | " " :: rest => if first then chunks else rest
        | _ => chunks
      let (line, len, rest) := fillLine width [] 0 chunks
      let (line, rest) := match rest with
        | c :: more =>
          if c.length > width then
            let room := if width - len < 1 then 1 else width - len
            let cs := c.toList
            let cut := match ((cs.take room).zipIdx.filter (fun (x : Char × Nat) => x.1 == '-')).getLast? with
              | some (_, h) => if h > 0 && (cs.take h).any (· != '-') then h + 1 else room
              | none => room
            (line ++ [String.ofList (cs.take cut)], String.ofList (cs.drop cut) :: more)
          else (line, rest)
        | [] => (line, rest)
      let line := if line.getLast? == some " " then line.dropLast else line
      (if line.isEmpty then [] else [String.join line]) ++ wrapChunks width fuel false rest

/-- A paragraph wrapped into lines no wider than `width`, its blanks made single spaces. -/
def wrap (width : Nat) (s : String) : List String :=
  let chunks := chunksOf s
  wrapChunks width (chunks.foldl (fun n c => n + c.length + 1) 1) true chunks

end Conversa.Text

/-!
## Indentation of documentation text

Documentation written inside indented code carries the code's indentation on every line but the
first.  `dedent` takes it off: tabs become spaces up to the next multiple of eight columns
(`expandTabs`), the least indentation of the later lines that hold more than white space is
removed from each of them, the first line and the ends of all lines are stripped, and blank
lines at the start and the end are dropped.
-/

namespace Conversa.Text

/-- A text with each tab replaced by the spaces up to the next multiple of `width` columns, the
column counted from the last line feed or carriage return. -/
def expandTabs (width : Nat) (s : String) : String :=
  let step := fun (acc : List Char × Nat) (c : Char) =>
    let (out, col) := acc
    if c == '\t' then
      let n := if width == 0 then 0 else width - col % width
      (List.replicate n ' ' ++ out, col + n)
    else if c == '\n' || c == '\r' then (c :: out, 0)
    else (c :: out, col + 1)
  String.ofList (s.toList.foldl step ([], 0)).1.reverse

/-- The number of white-space characters a line starts with, if it holds anything else. -/
def indentation (line : String) : Option Nat :=
  let rest := line.toList.dropWhile isSpace
  if rest.isEmpty then none else some (line.length - rest.length)

def trimBlankLines (lines : List String) : List String :=
  ((lines.reverse.dropWhile (·.isEmpty)).reverse).dropWhile (·.isEmpty)

/-- Documentation text without the indentation of the code it was written in. -/
def dedent (s : String) : String :=
  match splitLines (expandTabs 8 s) with
  | [] => ""
  | first :: rest =>
    let least := rest.filterMap indentation |>.min?
    let body := match least with
      | some n => rest.map fun line => stripEnd (String.ofList (line.toList.drop n))
      | none => []
    "\n".intercalate (trimBlankLines (strip first :: body))

end Conversa.Text
