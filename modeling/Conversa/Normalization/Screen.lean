import Conversa.Normalization.Corpus

/-!
# Screening a corpus for evaluation

Each token is screened by its category's rule, which decides whether it is usable and tidies both
forms; other categories are dropped.  Number-like ones need an ASCII digit written, `ORDINAL` a
suffix; the spoken form keeps lower-case letters and spaces (not in `PLAIN`, `PUNCT`, `VERBATIM`,
`EOS`); the written loses thousands commas.  White space is Unicode `White_Space`.
-/

namespace Conversa.Normalization

def isWhite (c : Char) : Bool :=
  let n := c.toNat
  Text.isSpace c && !(0x1C ≤ n && n ≤ 0x1F)

def isAsciiDigit (c : Char) : Bool := '0' ≤ c && c ≤ '9'

def isAsciiLower (c : Char) : Bool := 'a' ≤ c && c ≤ 'z'

/-- A text with only the characters that satisfy `p`. -/
def keepOnly (p : Char → Bool) (s : String) : String := String.ofList (s.toList.filter p)

/-- A spoken form with only lower-case ASCII letters and spaces. -/
def lettersAndSpaces (s : String) : String := keepOnly (fun c => isAsciiLower c || c == ' ') s

def hasAsciiDigit (s : String) : Bool := s.toList.any isAsciiDigit

/-- Whether a written form ends in an ordinal suffix, white space after it aside. -/
def endsOrdinal (s : String) : Bool :=
  match s.toList.reverse.dropWhile isWhite with
  | 't' :: 's' :: _ | 'd' :: 'n' :: _ | 'd' :: 'r' :: _ | 'h' :: 't' :: _ => true
  | _ => false

/-- A space between a decimal digit and a following character that is no digit, point or white
space. -/
def spaceAfterDigit : List Char → List Char
  | d :: rest@(x :: r) =>
    if Text.isDecimal d && !(Text.isDecimal x || x == '.' || isWhite x) then
      d :: ' ' :: x :: spaceAfterDigit r
    else d :: spaceAfterDigit rest
  | cs => cs

/-- Whether a character may stand in a unit phrase: a lower-case ASCII letter or white space. -/
def isUnitChar (c : Char) : Bool := isAsciiLower c || isWhite c

/-- The rest of a text after `per `, with the plural `s` that ends the text dropped, if the unit
phrase runs to it. -/
def singularUnit (rest : List Char) : Option (List Char) :=
  let n := rest.length
  let phraseUpTo (k : Nat) := (rest.take k).all isUnitChar
  if n ≥ 1 && rest.getLast? == some 's' && phraseUpTo (n - 1) then some (rest.take (n - 1))
  else if n ≥ 2 && rest.getLast? == some '\n' && rest[n - 2]? == some 's' && phraseUpTo (n - 2) then
    some (rest.take (n - 2) ++ ['\n'])
  else none

/-- The first `per <unit>s` that ends the text made singular. -/
def singularAfterPer : List Char → List Char
  | [] => []
  | c :: r =>
    let here := match c :: r with
      | 'p' :: 'e' :: 'r' :: ' ' :: rest => (singularUnit rest).map ("per ".toList ++ ·)
      | _ => none
    match here with
    | some out => out
    | none => c :: singularAfterPer r

/-- The text before a decimal digit that `suffix` follows up to the end, white space aside,
with the digit and the replacement; or none. -/
def spellTrailing (suffix : List Char → Bool) (word : String) : List Char → Option (List Char)
  | [] => none
  | d :: r =>
    if Text.isDecimal d && suffix r then some (d :: word.toList)
    else (spellTrailing suffix word r).map (d :: ·)

/-- Whether a text is `m` and then white space only. -/
def isMillionMark : List Char → Bool
  | 'm' :: r => r.all isWhite
  | _ => false

/-- Whether a text is `b` or `bn` and then white space only. -/
def isBillionMark : List Char → Bool
  | 'b' :: 'n' :: r => r.all isWhite
  | 'b' :: r => r.all isWhite
  | _ => false

/-- The length of an hour mark `x m` after a digit — each letter optionally preceded by one
white space, and one optional white space after — or none. -/
def hourMarkLength (x : Char) (cs : List Char) : Option Nat :=
  let opt (cs : List Char) : Nat × List Char := match cs with
    | c :: r => if isWhite c then (1, r) else (0, cs)
    | [] => (0, [])
  let (a, cs) := opt cs
  match cs with
  | c :: cs =>
    if c != x then none else
    let (b, cs) := opt cs
    match cs with
    | 'm' :: cs => some (a + 1 + b + 1 + (opt cs).1)
    | _ => none
  | [] => none

/-- Every digit followed by an hour mark `x m` gets `mark` in place of the hour mark. -/
def markHours (x : Char) (mark : String) : List Char → List Char
  | [] => []
  | d :: rest =>
    match (if Text.isDecimal d then hourMarkLength x rest else none) with
    | some k => d :: mark.toList ++ markHours x mark (rest.drop k)
    | none => d :: markHours x mark rest
termination_by cs => cs.length
decreasing_by all_goals (simp; try omega)

def onChars (f : List Char → List Char) (s : String) : String := String.ofList (f s.toList)

/-- A screening rule: the category it applies to, whether a token is usable, and how a usable
token is tidied. -/
structure Rule where
  category : String
  keeps : Instance → Bool
  tidy : Instance → Instance

namespace Rule

def forms (category : String) (keeps : Instance → Bool) (w s : String → String) : Rule :=
  ⟨category, keeps, fun i => ⟨i.category, w i.written, s i.spoken⟩⟩

/-- Usable when the written form has an ASCII digit. -/
def numeric (i : Instance) : Bool := hasAsciiDigit i.written

def always (_ : Instance) : Bool := true

end Rule

def dropCommas (s : String) : String := keepOnly (· != ',') s

def measureWritten (s : String) : String :=
  onChars spaceAfterDigit ((dropCommas s).replace "m2" "m²")

def measureSpoken (s : String) : String :=
  lettersAndSpaces (onChars singularAfterPer (keepOnly isUnitChar s))

def moneyWritten (s : String) : String :=
  let s := ((dropCommas s).replace "a$" "$").replace "us$" "$"
  let s := onChars (fun cs => (spellTrailing isMillionMark " million" cs).getD cs) s
  onChars (fun cs => (spellTrailing isBillionMark " billion" cs).getD cs) s

def timeWritten (s : String) : String :=
  onChars (markHours 'p' " p.m.") (onChars (markHours 'a' " a.m.") (s.replace ": " ":"))

def screenRules : List Rule :=
  [.forms "CARDINAL" Rule.numeric (keepOnly isAsciiDigit) lettersAndSpaces,
   .forms "ORDINAL" (fun i => endsOrdinal i.written) (keepOnly fun c => c != ',' && !isWhite c)
     lettersAndSpaces,
   .forms "DECIMAL" Rule.numeric dropCommas lettersAndSpaces,
   .forms "MEASURE" Rule.always measureWritten measureSpoken,
   .forms "MONEY" Rule.numeric moneyWritten lettersAndSpaces,
   .forms "TIME" Rule.numeric timeWritten lettersAndSpaces,
   .forms "DATE" Rule.always dropCommas lettersAndSpaces,
   ⟨"PLAIN", Rule.always, id⟩,
   ⟨"PUNCT", Rule.always, id⟩,
   .forms "LETTERS" Rule.always id lettersAndSpaces,
   ⟨"VERBATIM", Rule.always, id⟩,
   .forms "DIGIT" Rule.numeric id lettersAndSpaces,
   .forms "TELEPHONE" Rule.numeric id lettersAndSpaces,
   .forms "ELECTRONIC" Rule.numeric id lettersAndSpaces,
   .forms "FRACTION" Rule.numeric id lettersAndSpaces,
   .forms "ADDRESS" Rule.always id lettersAndSpaces,
   ⟨endCategory, Rule.always, id⟩]

/-- A token screened by the rules: tidied if some rule of its category keeps it. -/
def screenOne (i : Instance) : Option Instance :=
  screenRules.foldl (fun acc r =>
    let cur := acc.getD i
    if r.category == cur.category && r.keeps cur then some (r.tidy cur) else acc) none

/-- The usable tokens of a corpus, tidied, with a line showing each when `verbose`. -/
def screen (corpus : List Instance) (verbose : Bool) : List Instance × String :=
  let kept := corpus.filterMap screenOne
  (kept, if verbose then String.join (kept.map fun i => i.display ++ "\n") else "")

end Conversa.Normalization
