import Conversa.Failure
import Conversa.Text.Space
import Conversa.Text.Unicode

/-!
# English number names

`numberWords` names a numeral in British style: groups of three digits, each a hundreds part
joined to its tens by `and` with its scale word up to `decillion`, comma-separated, with `and`
before a last one-word group.  A sign gives `plus`/`minus`, a suffix an ordinal, a point a
fraction read digit by digit; a group past the decillions is refused.  `numberWordsWith` changes
the `and`; `yearWords` reads four digits as two pairs.
-/

namespace Conversa.English

def unitNames : Array String := #["", "one", "two", "three", "four", "five", "six", "seven", "eight", "nine"]

def teenNames : Array String :=
  #["ten", "eleven", "twelve", "thirteen", "fourteen", "fifteen", "sixteen", "seventeen", "eighteen", "nineteen"]

def tenNames : Array String := #["", "", "twenty", "thirty", "forty", "fifty", "sixty", "seventy", "eighty", "ninety"]

def scaleNames : Array String :=
  #[" ", " thousand", " million", " billion", " trillion", " quadrillion", " quintillion", " sextillion",
    " septillion", " octillion", " nonillion", " decillion"]

def outOfRange : Failure := ⟨"NumOutOfRangeError", ""⟩

def scale (m : Nat) : Result String :=
  match scaleNames[m]? with
  | some s => .ok s
  | none => .error outOfRange

def unitName (d : Nat) : String := unitNames.getD d ""

/-- Tens and units with the scale of group `m`: a teen, or the tens joined to the units by a
hyphen.  A teen past the last scale is an index failure. -/
def tensName (t u m : Nat) : Result String :=
  if t == 1 then
    match scaleNames[m]? with
    | some s => .ok (teenNames.getD u "" ++ s)
    | none => .error .listIndex
  else do
    let s ← scale m
    pure (tenNames.getD t "" ++ (if t != 0 && u != 0 then "-" else "") ++ unitName u ++ s)

/-- A group of three digits with the scale of group `m`, followed by a comma; an all-zero group
is nothing.  The hundreds are joined to the tens by `andWord`. -/
def hundredsName (andWord : String) (h t u m : Nat) : Result String := do
  if h != 0 then
    let joint := if t != 0 || u != 0 then s!" {andWord} " else ""
    pure (unitName h ++ " hundred" ++ joint ++ (← tensName t u 0) ++ (← scale m) ++ ", ")
  else if t != 0 || u != 0 then pure ((← tensName t u 0) ++ (← scale m) ++ ", ")
  else pure ""

/-- The names of the groups of three digits from the right, the first with scale `m`; the
digits are given reversed, lowest first. -/
def groupNames (andWord : String) (m : Nat) : List Nat → Result String
  | u :: t :: h :: rest => do
    let here ← hundredsName andWord h t u m
    pure ((← groupNames andWord (m + 1) rest) ++ here)
  | [u, t] => do pure ((← tensName t u m) ++ ", ")
  | [u] => do pure (unitName u ++ (← scale m) ++ ", ")
  | [] => .ok ""

/-- The digits of a numeral named as a whole number.  Leading ASCII zeros are dropped first; a
value of zero or one is named at once. -/
def wholeName (andWord : String) (digits : List (Char × Nat)) : Result String :=
  let value := digits.foldl (fun n (_, d) => 10 * n + d) 0
  if value == 0 then .ok "zero"
  else if value == 1 then .ok "one"
  else groupNames andWord 0 ((digits.dropWhile (·.1 == '0')).map (·.2)).reverse

def digitByDigitName (digits : List Nat) : String :=
  String.join (digits.map fun d =>
    if d == 1 then " one, " else if d != 0 then unitName d ++ ", " else " zero, ")

/-- A text with every run of white space before a comma removed; `pending` holds the white
space read since the last other character, reversed. -/
def closeCommas : List Char → List Char → List Char
  | pending, [] => pending.reverse
  | pending, c :: r =>
    if Text.isSpace c then closeCommas (c :: pending) r
    else if c == ',' then ',' :: closeCommas [] r
    else pending.reverse ++ c :: closeCommas [] r

/-- A text ending in `, word` and white space with the comma made `andWord` and the white space
dropped. -/
def andBeforeLast (andWord : String) (cs : List Char) : List Char :=
  let rev := cs.reverse
  let trailing := rev.takeWhile Text.isSpace
  let beforeSpace := rev.dropWhile Text.isSpace
  let word := beforeSpace.takeWhile (!Text.isSpace ·)
  match beforeSpace.dropWhile (!Text.isSpace ·) with
  | ' ' :: ',' :: before =>
    if trailing.isEmpty || word.isEmpty then cs
    else before.reverse ++ s!" {andWord} ".toList ++ word.reverse
  | _ => cs

/-- A text with each run of white space made one space; `inRun` says whether the previous
character was white space. -/
def squeezeWhite : Bool → List Char → List Char
  | _, [] => []
  | inRun, c :: r =>
    if Text.isSpace c then (if inRun then squeezeWhite true r else ' ' :: squeezeWhite true r)
    else c :: squeezeWhite false r

/-- The words of one part of a numeral: the last comma dropped, white space before commas
removed, `and` before a last single word of the whole part, runs of white space made one space
and the ends trimmed. -/
def tidyPart (andWord : String) (whole : Bool) (s : String) : String :=
  let cs := s.toList
  let cs := if cs.reverse.take 2 == [' ', ','] then cs.take (cs.length - 2) else cs
  let cs := closeCommas [] cs
  let cs := if whole then andBeforeLast andWord cs else cs
  Text.strip (String.ofList (squeezeWhite false cs))

def ordinalEndings : List (String × String) :=
  [("ty", "tieth"), ("one", "first"), ("two", "second"), ("three", "third"), ("five", "fifth"),
   ("eight", "eighth"), ("nine", "ninth"), ("twelve", "twelfth")]

/-- The ordinal of a number name: a listed ending replaced, otherwise `th` added. -/
def ordinalOf (s : String) : String :=
  match ordinalEndings.find? fun (e, _) => s.endsWith e with
  | some (e, o) => (s.dropEnd e.length).toString ++ o
  | none => s ++ "th"

/-- The decimal digits of a text with their values; other characters are ignored. -/
def decimalDigits (s : String) : List (Char × Nat) :=
  s.toList.filterMap fun c => (Text.decimalValue c).map (c, ·)

/-- Joins the parts of a name: commas between the groups of the whole part, spaces elsewhere
and around `point`. -/
def joinParts (first : String) (rest : List String) : String :=
  let (out, _) := rest.foldl (fun (acc : String × Bool) nc =>
    let (out, commas) := acc
    if nc == "point" then (out ++ " point", false)
    else if commas then (out ++ ", " ++ nc, commas)
    else (out ++ " " ++ nc, commas)) (first, !first.endsWith "point")
  out

/-- The English name of a numeral, with `andWord` after the hundreds and before a last single
word. -/
def numberWordsWith (andWord : String) (num : String) : Result String := do
  let sign ← match (Text.stripStart num).toList with
    | '+' :: _ => pure "plus"
    | '-' :: _ => pure "minus"
    | _ :: _ => pure ""
    | [] => throw (.index "string index out of range")
  let ordinal := ["st", "nd", "rd", "th"].any (fun e => num.endsWith e)
  let num := if ordinal then (num.dropEnd 2).toString else num
  let parts := match num.splitOn "." with
    | [] => []
    | p :: ps => [p, ".".intercalate ps].take (if ps.isEmpty then 1 else 2)
  let (parts, finalPoint) := if parts.getLast? == some "" then (parts.dropLast, true) else (parts, false)
  let some firstPart := parts.head? | throw .listIndex
  let leadingWhole := firstPart != ""
  let named ← parts.zipIdx.filterMapM fun (p, i) => do
    if i == 0 && !leadingWhole && parts.length > 1 then return none
    let ds := decimalDigits p
    let ds := if ds.isEmpty then [('0', 0)] else ds
    if i == 0 && leadingWhole then return some (tidyPart andWord true (← wholeName andWord ds))
    else return some (tidyPart andWord false (digitByDigitName (ds.map (·.2))))
  let wholeWords := if leadingWhole then (named.headD "").splitOn ", " else []
  let wholeWords := if ordinal && !wholeWords.isEmpty then
      wholeWords.dropLast ++ [ordinalOf (wholeWords.getLastD "")]
    else wholeWords
  let fractions := if leadingWhole then named.drop 1 else if parts.length > 1 then named else []
  let words := wholeWords ++ fractions.flatMap (fun f => "point" :: f.splitOn ", ") ++
    (if finalPoint then ["point"] else [])
  match words with
  | [] => throw (.index "pop from empty list")
  | w :: ws => pure (joinParts ((if sign.isEmpty then "" else sign ++ " ") ++ w) ws)

/-- The English name of a numeral, with `and` after the hundreds and before a last single word. -/
def numberWords (num : String) : Result String := numberWordsWith "and" num

/-- Two digits named as a pair: tens and units, or `oh` and the unit when the tens are zero. -/
def pairName (t u : Nat) : String :=
  if t == 1 then teenNames.getD u ""
  else if t != 0 then tenNames.getD t "" ++ (if u != 0 then "-" else "") ++ unitName u
  else if u != 0 then "oh " ++ unitName u
  else "oh oh"

/-- A four-digit number named in two pairs, as years are read: `1999` is `nineteen ninety-nine`,
`1001` is `ten oh one`. -/
def yearWords (n : Nat) : String :=
  pairName (n / 1000 % 10) (n / 100 % 10) ++ " " ++ pairName (n / 10 % 10) (n % 10)

end Conversa.English
