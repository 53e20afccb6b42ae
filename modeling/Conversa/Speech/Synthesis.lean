import Conversa.English.Numbers
import Conversa.Speech.Pronouncing

/-!
# The text front end of a speech synthesizer

Text becomes symbol numbers: padding, hyphen, punctuation, space, ASCII letters and, with a
pronouncing dictionary, ARPAbet phonemes marked by `@`; other characters are dropped.  Phonemes
may be written in braces (`Turn {HH AW1 S}`); other text is cleaned and, with a dictionary, each
word spelled by its first pronunciation.  Cleaners: `lowercase`, `collapse_whitespace`,
`basic_cleaners`, `replace` and `expand_numbers` (1000 to 3000 read as years).
-/

namespace Conversa.Speech

open Text

def plainSymbols : List String :=
  ["_", "-"] ++ ("!'(),.:;? ".toList ++ "ABCDEFGHIJKLMNOPQRSTUVWXYZabcdefghijklmnopqrstuvwxyz".toList).map String.singleton

/-- The symbols, with the phonemes marked by `@` when a dictionary is in use. -/
def symbolsOf (withPhonemes : Bool) : List String :=
  plainSymbols ++ (if withPhonemes then arpabet.map ("@" ++ ·) else [])

def spell (symbols : List String) (s : String) : List Nat :=
  s.toList.filterMap fun c => symbols.idxOf? (String.singleton c)

def phonemeIds (symbols : List String) (s : String) : List Nat :=
  (Text.words s).filterMap fun p => symbols.idxOf? ("@" ++ p)

/-- The text of symbol numbers: phonemes in braces, adjacent braces merged into one. -/
def sequenceText (symbols : List String) (ids : List Int) : String :=
  let parts := ids.filterMap fun i => if i < 0 then none else symbols[i.toNat]?
  let text := String.join (parts.map fun s =>
    if s.length > 1 && s.startsWith "@" then "\x7b" ++ (s.drop 1).toString ++ "\x7d" else s)
  String.ofList (Text.replaceText "\x7d\x7b" " " text.toList)

def isTokenChar (c : Char) : Bool := c == '_' || Text.isAlnum c

def isAsciiDigit (c : Char) : Bool := '0' ≤ c && c ≤ '9'

/-- Whether there is a word boundary between two characters (none at either end). -/
def boundary (a b : Option Char) : Bool := (a.map isTokenChar).getD false != (b.map isTokenChar).getD false

def matchesLetter (c p : Char) : Bool :=
  c.toLower == p || (c == 'ſ' && p == 's') || (c == 'K' && p == 'k') || (c == 'İ' && p == 'i')

def startsAnyCase (pat cs : List Char) : Bool :=
  pat.length ≤ cs.length && (pat.zip cs).all fun (p, c) => c == p || matchesLetter c p

/-- The abbreviations expanded when followed by a dot. -/
def abbreviations : List (String × String) :=
  [("mrs", "missus"), ("mr", "mister"), ("dr", "doctor"), ("st", "saint"), ("co", "company"),
   ("jr", "junior"), ("maj", "major"), ("gen", "general"), ("drs", "doctors"), ("rev", "reverend"),
   ("lt", "lieutenant"), ("hon", "honorable"), ("sgt", "sergeant"), ("capt", "captain"),
   ("esq", "esquire"), ("ltd", "limited"), ("col", "colonel"), ("ft", "fort")]

/-- The words replaced when they stand as whole words. -/
def replacements : List (String × String) :=
  [("_", "underscore"), ("src", "source"), ("dll", "d l l"), ("btw", "by the way"),
   ("http", "h t t p"), ("www", "w w w"), ("c++", "c plus plus")]

def replaceWords (s : String) : String :=
  let abbr (pat rep : String) (cs : List Char) : List Char :=
    Text.rewriteAfter (fun prev cs =>
      let p := pat.toList
      if boundary prev cs.head? && startsAnyCase p cs && cs[p.length]? == some '.' then
        some (rep.toList, p.length + 1)
      else none) none cs
  let whole (pat rep : String) (cs : List Char) : List Char :=
    Text.rewriteAfter (fun prev cs =>
      let p := pat.toList
      if boundary prev cs.head? && startsAnyCase p cs && boundary p.getLast? cs[p.length]? then
        some (rep.toList, p.length)
      else none) none cs
  let cs := abbreviations.foldl (fun cs (a, w) => abbr a w cs) s.toList
  String.ofList (replacements.foldl (fun cs (a, w) => whole a w cs) cs)

def digitsNumber (ds : List Char) : Nat := ds.foldl (fun n c => 10 * n + (c.toNat - '0'.toNat)) 0

/-- A text read as a whole number, as the integer reader takes digits and nothing else. -/
def wholeNumber (s : String) : Result Nat :=
  if !s.isEmpty && s.all isAsciiDigit then .ok (digitsNumber s.toList)
  else .error (.value s!"invalid literal for int() with base 10: {Text.quote s}")

/-- An amount of dollars and cents named: `3 dollars, 50 cents`; an amount with more than one
point is left as it is. -/
def dollarsText (m : String) : Result String := do
  let parts := m.splitOn "."
  if parts.length > 2 then return m ++ " dollars"
  let first := (parts.head?).getD ""
  let second := (parts[1]?).getD ""
  let dollars ← if first.isEmpty then pure 0 else wholeNumber first
  let cents ← if second.isEmpty then pure 0 else wholeNumber second
  let dollarUnit := if dollars == 1 then "dollar" else "dollars"
  let centUnit := if cents == 1 then "cent" else "cents"
  if dollars != 0 && cents != 0 then pure s!"{dollars} {dollarUnit}, {cents} {centUnit}"
  else if dollars != 0 then pure s!"{dollars} {dollarUnit}"
  else if cents != 0 then pure s!"{cents} {centUnit}"
  else pure "zero dollars"

/-- The name of a number: numbers between 1000 and 3000 read as years (`nineteen ninety-nine`,
`two thousand five`, `twenty-one hundred`), others without `and`. -/
def numberName (n : Nat) : Result String := do
  if 1000 < n && n < 3000 then
    if n == 2000 then pure "two thousand"
    else if 2000 < n && n < 2010 then pure ("two thousand " ++ (← English.numberWords (toString (n % 100))))
    else if n % 100 == 0 then pure ((← English.numberWords (toString (n / 100))) ++ " hundred")
    else pure (English.yearWords n)
  else English.numberWordsWith "" (toString n)

def throughLastDigit (run : List Char) : List Char :=
  (run.reverse.dropWhile (!isAsciiDigit ·)).reverse

def isNumberChar (separators : List Char) (c : Char) : Bool := isAsciiDigit c || separators.contains c

/-- The run of digits and separators at the start of a text, up to its last digit. -/
def amountAt (separators : List Char) (cs : List Char) : List Char :=
  throughLastDigit (cs.takeWhile (isNumberChar separators))

/-- Numbers in a text named, in the order of the passes: commas inside numbers removed, pounds
and dollars read, decimal points read as `point`, ordinals named, digit runs set apart by spaces,
and every number named. -/
def nameNumbers (s : String) : Result String := do
  let cs := Text.rewrite (fun cs => match cs with
    | c :: rest =>
      let body := amountAt [','] rest
      if isAsciiDigit c && body.length ≥ 2 then some (c :: body.filter (· != ','), body.length + 1) else none
    | [] => none) s.toList
  let cs := Text.rewrite (fun cs => match cs with
    | '£' :: rest =>
      let body := amountAt [','] rest
      if body.isEmpty then none else some (body ++ " pounds".toList, body.length + 1)
    | _ => none) cs
  let cs ← Text.rewriteExcept (fun cs => match cs with
    | '$' :: rest =>
      let body := amountAt ['.', ','] rest
      if body.isEmpty then pure none
      else do pure (some ((← dollarsText (String.ofList body)).toList, body.length + 1))
    | _ => pure none) cs
  let cs := Text.rewrite (fun cs =>
    let whole := cs.takeWhile isAsciiDigit
    match cs.drop whole.length with
    | '.' :: rest =>
      let frac := rest.takeWhile isAsciiDigit
      if whole.isEmpty || frac.isEmpty then none
      else some (whole ++ " point ".toList ++ frac, whole.length + 1 + frac.length)
    | _ => none) cs
  let cs ← Text.rewriteExcept (fun cs =>
    let whole := cs.takeWhile isAsciiDigit
    let suffix := (cs.drop whole.length).take 2
    if !whole.isEmpty && ["st", "nd", "rd", "th"].contains (String.ofList suffix) then do
      pure (some ((← English.numberWords (String.ofList (whole ++ suffix))).toList, whole.length + 2))
    else pure none) cs
  let cs := (cs.splitBy fun a b => Text.isDecimal a && Text.isDecimal b).flatMap fun run =>
    match run with
    | c :: _ => if Text.isDecimal c then ' ' :: run ++ [' '] else run
    | [] => []
  let cs ← Text.rewriteExcept (fun cs =>
    let whole := cs.takeWhile isAsciiDigit
    if whole.isEmpty then pure none
    else do pure (some ((← numberName (digitsNumber whole)).toList, whole.length))) cs
  pure (String.ofList cs)

/-- The named steps that clean text. -/
inductive Cleaner where
  | lowercase
  | collapseWhitespace
  /-- Lower case, then runs of white space made one space. -/
  | basic
  | replace
  | expandNumbers
deriving DecidableEq, Inhabited, Repr

def Cleaner.ofName? : String → Option Cleaner
  | "lowercase" => some .lowercase
  | "collapse_whitespace" => some .collapseWhitespace
  | "basic_cleaners" => some .basic
  | "replace" => some .replace
  | "expand_numbers" => some .expandNumbers
  | _ => none

def Cleaner.run : Cleaner → String → Result String
  | .lowercase, s => .ok (Text.lower s)
  | .collapseWhitespace, s => .ok (String.ofList (Text.squeeze Text.isSpace s.toList))
  | .basic, s => .ok (String.ofList (Text.squeeze Text.isSpace (Text.lower s).toList))
  | .replace, s => .ok (replaceWords s)
  | .expandNumbers, s => nameNumbers s

/-- A text cleaned by the named cleaners in turn; a name that names no cleaner fails. -/
def cleanWith (names : List String) (s : String) : Result String :=
  names.foldlM (fun s name => match Cleaner.ofName? name with
    | some c => c.run s
    | none => .error (.type "'str' object is not callable")) s

/-- The part after a brace: at least one character, up to the next closing brace, on one line;
the part and what follows its brace. -/
def closingBrace : List Char → Option (List Char × List Char)
  | c :: rest =>
    if c == '\n' then none
    else
      let inside := rest.takeWhile fun x => x != '}' && x != '\n'
      match rest.drop inside.length with
      | '}' :: after => some (c :: inside, after)
      | _ => none
  | [] => none

/-- The first braced part on the first line of a text: the text before it, the part, and the
rest of the line after it.  `before` holds what was passed, reversed. -/
def bracedPart (before : List Char) : List Char → Option (List Char × List Char × List Char)
  | [] => none
  | c :: rest =>
    if c == '\n' then none
    else if c == '\x7b' then
      match closingBrace rest with
      | some (inside, after) => some (before.reverse, inside, after.takeWhile (· != '\n'))
      | none => bracedPart (c :: before) rest
    else bracedPart (c :: before) rest

/-- The words (runs of word characters and apostrophes) and marks `.,!?;` of a text. -/
def wordsAndMarks (s : String) : List String :=
  let wordy (c : Char) : Bool := isTokenChar c || c == '\''
  (s.toList.splitBy fun a b => wordy a && wordy b).flatMap fun run =>
    match run with
    | c :: _ =>
      if wordy c then [String.ofList run]
      else (run.filter fun x => ".,!?;".toList.contains x).map String.singleton
    | [] => []

/-- The numbers of a text: braced parts as phonemes, the rest cleaned and spelled, word by word
through the dictionary when one is given.  `fuel` bounds the braced parts read. -/
def sequenceFrom (symbols : List String) (dict : Option PronouncingDictionary) (cleaners : List String) :
    Nat → List Char → Result (List Nat)
  | 0, _ => .ok []
  | fuel + 1, text => do
    if text.isEmpty then return []
    match bracedPart [] text with
    | some (before, inside, after) =>
      let head := spell symbols (← cleanWith cleaners (String.ofList before)) ++
        phonemeIds symbols (String.ofList inside)
      pure (head ++ (← sequenceFrom symbols dict cleaners fuel after))
    | none =>
      let clean ← cleanWith cleaners (String.ofList text)
      match dict with
      | some d =>
        pure ((wordsAndMarks clean).flatMap fun t =>
          (match d.lookup t with
            | some (p :: _) => phonemeIds symbols p
            | _ => spell symbols t) ++ spell symbols " ")
      | none => pure (spell symbols clean)

/-- The numbers of a text; with a dictionary, a final space is dropped, and a text that gives no
symbols at all has no last symbol to look at. -/
def textToSequence (symbols : List String) (dict : Option PronouncingDictionary) (cleaners : List String)
    (text : String) : Result (List Nat) := do
  let seq ← sequenceFrom symbols dict cleaners (text.length + 1) text.toList
  match dict with
  | none => pure seq
  | some _ =>
    match seq.getLast? with
    | none => throw .listIndex
    | some last => pure (if some last == (spell symbols " ").head? then seq.dropLast else seq)

end Conversa.Speech
