import Conversa.English.Numbers
import Conversa.Text.Slice

/-!
# Transcripts cut into utterances for segmentation

A transcript is cut into rough sentences, one a line, written with punctuation, normalized and
plain: white space and dots squeezed, bracketed text dropped, abbreviations closed up, cuts after
`.`, `?` or `!` and a blank (not after an initial or an abbreviation), long pieces cut further,
short ones joined.  Russian text has its own rules.
-/

namespace Conversa.Segmentation

open Text

/-- The options of the cutting. -/
structure CutOptions where
  vocabulary : List String
  language : String := "eng"
  removeBrackets : Bool := true
  lowerCase : Bool := true
  minLength : Int := 0
  /-- The greatest length before cutting at extra symbols. -/
  maxLength : Int := 100
  extraSymbols : String := ""
deriving Inhabited, Repr

def isRussian (lang : String) : Bool := lang == "ru"

def isLowerLetter (lang : String) (c : Char) : Bool :=
  ('a' ≤ c && c ≤ 'z') || (isRussian lang && 0x430 ≤ c.toNat && c.toNat ≤ 0x4FF)

def isUpperLetter (lang : String) (c : Char) : Bool :=
  ('A' ≤ c && c ≤ 'Z') || (isRussian lang && 0x410 ≤ c.toNat && c.toNat ≤ 0x42F)

def isWordChar (c : Char) : Bool := c == '_' || Text.isAlnum c

def replaceAll (pairs : List (String × String)) (s : String) : String :=
  pairs.foldl (fun s (a, b) => String.ofList (Text.replaceText a b s.toList)) s

def squeezeSpaces (s : String) : String := String.ofList (Text.squeeze (· == ' ') s.toList)

def plainBlanks (s : String) : String :=
  let s := replaceAll [("\n", " "), ("\t", " "), ("…", "..."), ("\\", " "), ("--", " -- "),
    (". . .", "..."), ("‘", "’")] s
  let cs := (squeezeSpaces s).toList
  String.ofList ((cs.splitBy fun a b => a == '.' && b == '.').flatMap fun run =>
    if run.head? == some '.' then ['.', ' '] else run)

/-- Text from an opening bracket to the next closing one replaced by a space. -/
def dropBracketed (o c : Char) (cs : List Char) : List Char :=
  Text.rewrite (fun cs => match cs with
    | x :: rest =>
      if x != o then none
      else
        let inside := rest.takeWhile fun y => y != c && y != '\n'
        if (rest.drop inside.length).head? == some c then some ([' '], inside.length + 2) else none
    | [] => none) cs

/-- The lower-case abbreviations of a text, found left to right without overlap: a lower-case
letter, a dot, a blank, a lower-case letter and a dot. -/
def abbreviationsIn (isLow : Char → Bool) : List Char → List String
  | a :: '.' :: b :: d :: '.' :: rest =>
    if isLow a && Text.isSpace b && isLow d then String.ofList [a, '.', b, d, '.'] :: abbreviationsIn isLow rest
    else abbreviationsIn isLow ('.' :: b :: d :: '.' :: rest)
  | _ :: rest => abbreviationsIn isLow rest
  | [] => []

/-- Step 3: each lower-case abbreviation written without the space after its first dot,
everywhere it occurs. -/
def closeAbbreviations (lang : String) (s : String) : String :=
  (abbreviationsIn (isLowerLetter lang) s.toList).foldl (fun s m =>
    String.ofList (Text.replaceText m (String.ofList (Text.replaceText ". " "." m.toList)) s.toList)) s

def isQuoteStart (c : Char) : Bool := ('A' ≤ c && c ≤ 'Z') || ('a' ≤ c && c ≤ 'z') || c == ' ' || c == '?'

/-- The pieces of a text: quoted phrases and what stands between them.  `plain` holds the text
since the last phrase, reversed; `fuel` bounds the characters read. -/
def phrasePieces (fuel : Nat) (plain : List Char) (cs : List Char) : List String :=
  match fuel, cs with
  | 0, _ => [String.ofList (plain.reverse ++ cs)]
  | fuel + 1, '“' :: c :: rest =>
    let inside := rest.takeWhile fun y => y != '”' && y != '\n'
    if isQuoteStart c && (rest.drop inside.length).head? == some '”' then
      String.ofList plain.reverse :: String.ofList (['“', c] ++ inside ++ ['”']) ::
        phrasePieces fuel [] (rest.drop (inside.length + 1))
    else phrasePieces fuel ('“' :: plain) (c :: rest)
  | fuel + 1, c :: rest => phrasePieces fuel (c :: plain) rest
  | _ + 1, [] => [String.ofList plain.reverse]

/-- Step 4: the text cut into quoted phrases and what stands between them, stripped. -/
def quotedPhrases (cs : List Char) : List String :=
  ((phrasePieces (cs.length + 1) [] cs).map Text.strip).filter (!·.isEmpty)

/-- Whether the text can be cut at a blank after the characters `before` (reversed). -/
def cutsAfter (lang : String) (before : List Char) : Bool :=
  let endsWith (w : List Char) : Bool := w.reverse.isPrefixOf before
  let sentenceEnd := endsWith ['.'] || endsWith ['?'] || endsWith ['!'] || endsWith ['.', '”'] ||
    endsWith ['?', '”', '!', '”']
  let dotted := match before with
    | x :: b :: '.' :: a :: _ => isWordChar a && isWordChar b && x != '\n'
    | _ => false
  let shortWord := match before with
    | '.' :: l :: u :: _ => isUpperLetter lang u && isLowerLetter lang l
    | _ => false
  let initial := match before with
    | '.' :: u :: _ => isUpperLetter lang u
    | _ => false
  sentenceEnd && !dotted && !shortWord && !initial

/-- Step 5: a piece cut at every blank where a sentence ends. -/
def cutSentences (lang : String) (s : String) : List String :=
  let (pieces, current, _) := s.toList.foldl (fun (acc : List String × List Char × List Char) c =>
    let (pieces, current, before) := acc
    if Text.isSpace c && cutsAfter lang before then
      (pieces ++ [String.ofList current.reverse], [], c :: before)
    else (pieces, c :: current, c :: before)) ([], [], [])
  pieces ++ [String.ofList current.reverse]

/-- Step 6: pieces longer than the greatest length cut after each extra symbol in turn. -/
def cutAtSymbols (symbols : String) (maxLength : Int) (pieces : List String) : List String :=
  if symbols.isEmpty then pieces
  else
    let delims := (symbols.splitOn "|").map (· ++ " ")
    let cutOne (delim : String) (ps : List String) : List String :=
      ps.flatMap fun p =>
        if (p.length : Int) ≤ maxLength then [p]
        else
          let parts := p.splitOn delim
          parts.dropLast.map (· ++ delim) ++ [parts.getLastD ""]
    let out := pieces.flatMap fun p => delims.foldl (fun ps d => cutOne d ps) [p]
    (out.map Text.strip).filter (!·.isEmpty)

/-- Step 7, second part: pieces shorter than the least length joined to their neighbours. -/
def joinShort (minLength : Int) : List String → List String
  | [] => []
  | first :: rest =>
    rest.foldl (fun acc p =>
      let last := acc.getLastD ""
      if (last.length : Int) < minLength || (p.length : Int) < minLength then
        acc.dropLast ++ [last ++ " " ++ Text.strip p]
      else acc ++ [Text.strip p]) [first]

def russianAbbreviations : List (String × String) :=
  [(" р.", " рублей"), (" к.", " копеек"), (" коп.", " копеек"), (" копек.", " копеек"),
   (" т.д.", " так далее"), (" т. д.", " так далее"), (" т.п.", " тому подобное"),
   (" т. п.", " тому подобное"), (" т.е.", " то есть"), (" т. е.", " то есть"),
   (" стр. ", " страница ")]

/-- Latin letters and their Cyrillic transliterations. -/
def latinToCyrillic : List (String × String) :=
  [("a", "а"), ("b", "б"), ("c", "к"), ("d", "д"), ("e", "е"), ("f", "ф"), ("g", "г"), ("h", "х"),
   ("i", "и"), ("j", "ж"), ("k", "к"), ("l", "л"), ("m", "м"), ("n", "н"), ("o", "о"), ("p", "п"),
   ("q", "к"), ("r", "р"), ("s", "с"), ("t", "т"), ("u", "у"), ("v", "в"), ("w", "в"), ("x", "к"),
   ("y", "у"), ("z", "з"), ("à", "а"), ("è", "е"), ("é", "е"), ("ß", "в"), ("ä", "а"), ("ö", "о"),
   ("ü", "у"), ("є", "е"), ("ç", "с"), ("ê", "е"), ("ó", "о")]

def plainMarks : List (String × String) :=
  [("’", "'"), ("»", "\""), ("«", "\""), ("\\", ""), ("”", "\""), ("„", "\""), ("´", "'"),
   ("-- --", "--"), ("--", " -- "), ("’", "'"), ("“", "\""), ("“", "\""), ("‘", "'"), ("—", "-"),
   ("- -", "--"), ("\x60", "'"), (" !", "!"), (" ?", "?"), (" ,", ","), (" .", "."), (" ;", ";"),
   (" :", ":"), ("!!", "!"), ("--", "-"), ("“", "\""), (", , ", ", "), ("=", "")]

def nameNumbers (s : String) : Result String := do
  let runs := s.toList.splitBy fun a b => Text.isDecimal a && Text.isDecimal b
  let parts ← runs.mapM fun run =>
    match run with
    | c :: _ => if Text.isDecimal c then English.numberWordsWith "and" (String.ofList run) else pure (String.ofList run)
    | [] => pure ""
  pure (String.join parts)

def keptPunctuation : List Char := [',', '.', '?', '!', ':', ';', '-', '"', '(', ')']

def blankOutside (keep : Char → Bool) (s : String) : String := s.map fun c => if keep c then c else ' '

def inVocabulary (vocab : List String) (c : Char) : Bool := vocab.contains (String.singleton c)

/-- The utterances of a transcript, before they are written. -/
def utterances (o : CutOptions) (transcript : String) : Result (List String) := do
  let s := plainBlanks transcript
  let s := if o.removeBrackets then
      String.ofList (dropBracketed '\x7b' '\x7d' (dropBracketed '[' ']' s.toList))
    else s
  let s := closeAbbreviations o.language s
  let pieces := (quotedPhrases s.toList).flatMap (cutSentences o.language)
  let pieces := (pieces.map Text.strip).filter (!·.isEmpty)
  let pieces := cutAtSymbols o.extraSymbols o.maxLength pieces
  if !o.vocabulary.contains " " then throw (.key "' '")
  let letters := o.vocabulary.filter (· != " ")
  let pieces := pieces.filter fun p => p.toList.any (inVocabulary letters)
  let pieces ← if o.minLength > 0 then
      match pieces with
      | [] => throw .listIndex
      | _ => pure (joinShort o.minLength pieces)
    else pure pieces
  pure ((pieces.map Text.strip).filter (!·.isEmpty))

def normalizeUtterances (o : CutOptions) (pieces : List String) : Result (String × String) := do
  let pieces := if isRussian o.language then
      (pieces.map (replaceAll russianAbbreviations)).map (replaceAll latinToCyrillic)
    else pieces
  let text ← nameNumbers ("\n".intercalate pieces)
  let text := replaceAll plainMarks text
  let upper := o.vocabulary.map Text.upper
  let normalized := blankOutside (fun c => inVocabulary o.vocabulary c || inVocabulary upper c ||
    c == '\n' || keptPunctuation.contains c) text
  let text := if o.lowerCase then Text.lower text else text
  let plain := squeezeSpaces (blankOutside (fun c => inVocabulary o.vocabulary c || c == '\n') text)
  pure (normalized, plain)

end Conversa.Segmentation
