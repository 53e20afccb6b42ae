import Conversa.English.Numbers

/-!
# Numbers in transcripts

`spellNumerals` spells out the numerals of a transcript, a numeral being a word holding an ASCII
digit at the start or after one blank.  Times (`h:mm`) and ordinals are named; a numeral followed
by a three-digit word is held back as a group of a longer number; otherwise it is a whole number
with at most a decimal part, named with `dollars` and `cents` after a `$`, with `point`
otherwise.
-/

namespace Conversa.Transcript

/-- A numeral found in a transcript. -/
structure Numeral where
  /-- Whether a dollar sign and a space came before it. -/
  dollar : Bool
  /-- The white space before it, or nothing at the start of the transcript. -/
  lead : String
  word : String
  /-- The word after it, when exactly one white-space character separates them. -/
  next : String
deriving Inhabited, Repr

def isDigit (c : Char) : Bool := '0' ≤ c && c ≤ '9'

def leadingWord (cs : List Char) : List Char := cs.takeWhile (!Text.isSpace ·)

/-- The numeral starting at the front of `cs` — after a dollar sign and white space, after white
space, or right at the start of the transcript — with the number of characters it takes. -/
def numeralAt (atStart : Bool) (cs : List Char) : Option (Numeral × Nat) :=
  let numeral (dollar : Bool) (lead : List Char) (rest : List Char) : Option (Numeral × Nat) :=
    let word := leadingWord rest
    if !word.any isDigit then none
    else
      let next := match rest.drop word.length with
        | w :: r => if Text.isSpace w then String.ofList (leadingWord r) else ""
        | [] => ""
      some (⟨dollar, String.ofList lead, String.ofList word, next⟩,
        (if dollar then 1 else 0) + lead.length + word.length)
  let afterDollar := match cs with
    | '$' :: w :: r => if Text.isSpace w then numeral true [w] r else none
    | _ => none
  let atFront := if atStart then numeral false [] cs else none
  let afterSpace := match cs with
    | w :: r => if Text.isSpace w then numeral false [w] r else none
    | [] => none
  afterDollar <|> atFront <|> afterSpace

/-- A time at the start of a word: hour, minutes and the `am` or `pm` mark if there is one. -/
def timeAt (cs : List Char) : Option (String × String × Option String) :=
  let rest (hour : List Char) (r : List Char) : Option (String × String × Option String) :=
    match r with
    | m1 :: m2 :: r =>
      if isDigit m1 && isDigit m2 then
        let mark := match r with
          | 'a' :: 'm' :: _ => some "am"
          | 'p' :: 'm' :: _ => some "pm"
          | _ => none
        some (String.ofList hour, String.ofList [m1, m2], mark)
      else none
    | _ => none
  match cs with
  | h1 :: h2 :: ':' :: r => if isDigit h1 && isDigit h2 then rest [h1, h2] r else none
  | h1 :: ':' :: r => if isDigit h1 then rest [h1] r else none
  | _ => none

/-- A number with an ordinal suffix at the start of a word. -/
def ordinalAt (cs : List Char) : Option String :=
  let ds := cs.takeWhile isDigit
  match cs.drop ds.length with
  | 's' :: 't' :: _ | 'n' :: 'd' :: _ | 'r' :: 'd' :: _ | 't' :: 'h' :: _ =>
    if ds.isEmpty then none else some (String.ofList (ds ++ (cs.drop ds.length).take 2))
  | _ => none

/-- Whether a word is a group of three digits: three digits, then at most a decimal part of one
or two digits after `.` or `,`, then at most one of `!`, `.` and `?`. -/
def isThreeDigitGroup (s : String) : Bool :=
  let closing (r : List Char) : Bool := match r with
    | [] => true
    | [c] => c == '!' || c == '.' || c == '?'
    | _ => false
  match s.toList with
  | a :: b :: c :: r =>
    isDigit a && isDigit b && isDigit c &&
      (closing r || match r with
        | p :: d :: r' =>
          (p == '.' || p == ',') && isDigit d &&
            (closing r' || match r' with
              | e :: r'' => isDigit e && closing r''
              | [] => false)
        | _ => false)
  | _ => false

/-- A number split at its decimal part: the last `.` or `,` followed by one or two digits at the
end. -/
def splitDecimal (s : String) : String × Option String :=
  match s.toList.reverse with
  | d2 :: d1 :: p :: r =>
    if isDigit d2 && isDigit d1 && (p == '.' || p == ',') then (String.ofList r.reverse, some (String.ofList [d1, d2]))
    else if isDigit d2 && (d1 == '.' || d1 == ',') then (String.ofList (p :: r).reverse, some (String.singleton d2))
    else (s, none)
  | [d, p] => if isDigit d && (p == '.' || p == ',') then ("", some (String.singleton d)) else (s, none)
  | _ => (s, none)

def isRunChar (c : Char) : Bool := isDigit c || c == ','

/-- A run of digits and commas named, with a space on either side; no run is nothing. -/
def spellRun (run : List Char) : Result String :=
  if run.isEmpty then .ok "" else do pure (" " ++ (← English.numberWords (String.ofList run)) ++ " ")

/-- Each run of digits and commas named, with a space on either side; `run` holds the run read
so far, reversed. -/
def spellDigitRuns : List Char → List Char → Result String
  | run, [] => spellRun run.reverse
  | run, c :: r =>
    if isRunChar c then spellDigitRuns (c :: run) r
    else do
      let here ← spellRun run.reverse
      pure (here ++ String.singleton c ++ (← spellDigitRuns [] r))

/-- Groups held back for a longer number, and whether it is an amount of money. -/
structure Carry where
  groups : List String
  money : Bool
deriving Inhabited, Repr

def completedName (money : Bool) (whole : String) (decimal : Option String) : Result String := do
  if money then
    let cents ← match decimal with
      | some d => do pure (" and " ++ (← English.numberWords d) ++ (if whole == d then " cent" else " cents"))
      | none => pure ""
    pure ((← English.numberWords whole) ++ " dollars" ++ cents)
  else match decimal with
    | some d => English.numberWords (whole ++ "." ++ d)
    | none => spellDigitRuns [] whole.toList

/-- The text that replaces a numeral, and what is carried to the next. -/
def spellNumeral (carry : Carry) (n : Numeral) : Result (String × Carry) := do
  if let some (hour, minutes, mark) := timeAt n.word.toList then
    let minuteWords ← if minutes == "00" then pure "" else do pure (" " ++ (← English.numberWords minutes))
    return (n.lead ++ (← English.numberWords hour) ++ minuteWords ++ ((mark.map (" " ++ ·)).getD ""), carry)
  if let some o := ordinalAt n.word.toList then
    return (n.lead ++ (← English.numberWords o), carry)
  let money := carry.money || n.dollar || n.word.startsWith "$"
  if isThreeDigitGroup n.next then
    return (" ", ⟨carry.groups ++ [n.word], money⟩)
  let (whole, decimal) := splitDecimal (String.join carry.groups ++ n.word)
  let name ← completedName money (whole.replace "." "") decimal
  return (n.lead ++ name, ⟨[], false⟩)

/-- Spells the numerals from the front of `cs` on; `atStart` says whether `cs` is the whole
transcript. -/
def spellFrom (atStart : Bool) (carry : Carry) : List Char → Result String
  | [] => .ok ""
  | c :: r =>
    match numeralAt atStart (c :: r) with
    | some (n, k) => do
      let (out, carry) ← spellNumeral carry n
      -- a numeral takes at least its first character
      pure (out ++ (← spellFrom false carry (r.drop (k - 1))))
    | none => do pure (String.singleton c ++ (← spellFrom false carry r))
termination_by cs => cs.length
decreasing_by all_goals (simp; try omega)

def spellNumerals (s : String) : Result String := spellFrom true ⟨[], false⟩ s.toList

end Conversa.Transcript
