import Conversa.Text.Space
import Conversa.Text.Unicode
import Conversa.Text.Slice

/-!
# Tokenizing English for translation

Punctuation is set apart from words and markup escaped, one pass per step: blanks squeezed and
control characters dropped; characters other than word characters and `. ' ` , -` set apart; a
hyphen between word characters written ` @-@ `; dot runs kept; a comma set apart unless between
digits; an apostrophe set apart (`\'`) except before an `s` in a word; a final dot split off; and
`&`, `|`, `<`, `>`, `'`, `"`, `[`, `]` written as references.
-/

namespace Conversa.Language.English

open Text

def isWordChar (c : Char) : Bool := c == '_' || Text.isAlnum c

def isDigit (c : Char) : Bool := Text.isDecimal c

/-- A text without its first character if that is a space. -/
def dropLeadingSpace : List Char → List Char
  | ' ' :: rest => rest
  | cs => cs

/-- A text without its last character if that is a space. -/
def dropTrailingSpace (cs : List Char) : List Char :=
  if cs.getLast? == some ' ' then cs.dropLast else cs

/-- Step 1: blanks trimmed and squeezed to single spaces, control characters dropped. -/
def cleanBlanks (s : String) : List Char :=
  let cs := squeeze Text.isSpace (" " ++ Text.strip s ++ " ").toList
  let cs := squeeze (· == ' ') (cs.filter fun c => c.toNat ≥ 32)
  dropTrailingSpace (dropLeadingSpace cs)

def standsAlone (c : Char) : Bool :=
  (!Text.isSpace c && !".'`,-".toList.contains c && !isWordChar c) || c == '_' || Text.isOtherNumber c

def hyphenRule : List Char → Option (List Char × Nat)
  | a :: '-' :: b :: _ => if isWordChar a && isWordChar b then some (a :: " @-@ ".toList, 2) else none
  | _ => none

/-- Step 4, first part: a run of dots after its first dot is marked, the rest of the run kept. -/
def markDotRuns (cs : List Char) : List Char :=
  (cs.splitBy fun a b => a == '.' && b == '.').flatMap fun run =>
    match run with
    | '.' :: more@(_ :: _) => " DOTMULTI".toList ++ more
    | _ => run

/-- The marker of a dot run followed by a character that is no dot. -/
def dotBeforeOther (cs : List Char) : Option (List Char × Nat) :=
  if "DOTMULTI.".toList.isPrefixOf cs then
    match cs.drop 9 with
    | x :: _ => if x != '.' then some ("DOTDOTMULTI ".toList ++ [x], 10) else none
    | [] => none
  else none

/-- Step 4, second part: every dot of a run folded into its marker, one dot per pass, until no
marker is followed by a dot.  Each pass that changes the text removes a dot, so as many passes as
there are dots suffice. -/
def foldDots (fuel : Nat) (cs : List Char) : List Char :=
  match fuel with
  | 0 => cs
  | fuel + 1 =>
    let next := rewrite (literal "DOTMULTI.".toList "DOTDOTMULTI".toList) (rewrite dotBeforeOther cs)
    if next == cs then cs else foldDots fuel next

/-- Step 5: commas set apart unless between digits. -/
def splitCommas (cs : List Char) : List Char :=
  let cs := rewrite (fun cs => match cs with
    | a :: ',' :: _ => if !isDigit a then some (a :: " , ".toList, 2) else none
    | _ => none) cs
  let cs := rewrite (fun cs => match cs with
    | ',' :: b :: _ => if !isDigit b then some (" , ".toList ++ [b], 2) else none
    | _ => none) cs
  match cs.reverse with
  | ',' :: d :: _ => if isDigit d then cs.dropLast ++ [' ', ','] else cs
  | _ => cs

/-- The rule for an apostrophe between characters with properties `before` and `after`, written
as `out`. -/
def apostropheRule (before after : Char → Bool) (out : Char → Char → List Char) (cs : List Char) :
    Option (List Char × Nat) :=
  match cs with
  | a :: '\'' :: b :: _ => if before a && after b then some (out a b, 3) else none
  | _ => none

def isOtherOrDigit (c : Char) : Bool := !isWordChar c || isDigit c

/-- Step 6: apostrophes set apart, each one set apart written after a backslash. -/
def splitApostrophes (cs : List Char) : List Char :=
  let apart (a b : Char) : List Char := [a, ' ', '\\', '\'', ' ', b]
  let onFront (a b : Char) : List Char := [a, ' ', '\\', '\'', b]
  let any (_ : Char) : Bool := true
  let cs := rewrite (apostropheRule isOtherOrDigit isOtherOrDigit apart) cs
  let cs := rewrite (apostropheRule (fun c => !isWordChar c) any apart) cs
  let cs := rewrite (apostropheRule any isOtherOrDigit apart) cs
  let cs := rewrite (apostropheRule any any onFront) cs
  rewrite (apostropheRule isOtherOrDigit (· == 's') onFront) cs

/-- Step 7: the final dot of every word split off. -/
def splitFinalDots (cs : List Char) : List Char :=
  let words := Text.words (String.ofList cs)
  let line := String.join (words.map fun w =>
    let w := if w.length ≥ 2 && w.endsWith "." then String.ofList w.toList.dropLast ++ " ." else w
    w ++ " ")
  dropTrailingSpace (dropLeadingSpace (squeeze (· == ' ') line.toList))

def restoreDots (fuel : Nat) (cs : List Char) : List Char :=
  match fuel with
  | 0 => cs
  | fuel + 1 =>
    let next := replaceText "DOTDOTMULTI" "DOTMULTI." cs
    if next == cs then cs else restoreDots fuel next

/-- Step 8: the character reference of a character that markup reads. -/
def escapeChar (c : Char) : List Char :=
  match c with
  | '&' => "&amp;".toList
  | '|' => "&#124;".toList
  | '<' => "&lt;".toList
  | '>' => "&gt;".toList
  | '\'' => "&apos;".toList
  | '"' => "&quot;".toList
  | '[' => "&#91;".toList
  | ']' => "&#93;".toList
  | c => [c]

/-- A line of English split into tokens separated by single spaces. -/
def tokenizeEnglish (line : String) : String :=
  let cs := cleanBlanks line
  let cs := cs.flatMap fun c => if standsAlone c then [' ', c, ' '] else [c]
  let cs := rewrite hyphenRule cs
  let cs := markDotRuns cs
  let cs := foldDots (cs.count '.' + 1) cs
  let cs := splitApostrophes (splitCommas cs)
  let cs := splitFinalDots cs
  -- an apostrophe after a final dot is set apart too
  let cs := match cs.reverse with
    | '\'' :: '.' :: _ => cs.dropLast.dropLast ++ " . ' ".toList
    | _ => cs
  let cs := restoreDots (cs.length + 1) cs
  let cs := replaceText "DOTMULTI" "." cs
  String.ofList (cs.flatMap escapeChar)

end Conversa.Language.English
